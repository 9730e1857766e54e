import HcuAutoOpt.Agent.Authority
import HcuAutoOpt.Foundation.Ranking
import Mathlib.Data.List.Induction
import Mathlib.Data.Prod.Lex
import Mathlib.Data.String.Basic

/-!
# Which proposals are retained

`finalize_proposal_dispositions` sorts the proposals of a run by patch, keeps the first of each
patch and sorts the result by place. What it decides about a proposal can be said without
either order: the leader of a patch is the least of the proposals that carry it
(`leader?`), a leader is retained and every other proposal duplicates its leader
(`dispositionIn`). The function puts these decisions in order
(`finalizeProposalDispositions_eq`), so it does not depend on the order it is given the
proposals in, and it does not change its own result.
-/

set_option autoImplicit false

namespace HcuAutoOpt

namespace Agent

open Foundation

/-! ## The order of proposals -/

/-- What proposals are ordered by. -/
def CandidateProposalRef.rank (proposal : CandidateProposalRef) : ℕ ×ₗ ℕ ×ₗ String ×ₗ ℕ :=
  toLex (proposal.generatorOrdinal, toLex (proposal.proposalOrdinal,
    toLex (proposal.proposalHash, proposal.proposalId.toNat)))

theorem CandidateProposalRef.before_iff {first second : CandidateProposalRef} :
    first.Before second ↔ first.rank ≤ second.rank := by
  simp only [rank, Prod.Lex.le_iff, ofLex_toLex, Before]

theorem CandidateProposalRef.patchBefore_iff {first second : CandidateProposalRef} :
    first.PatchBefore second ↔ toLex (first.normalizedPatchHash, first.rank) ≤
      toLex (second.normalizedPatchHash, second.rank) := by
  simp only [Prod.Lex.le_iff, ofLex_toLex, PatchBefore, before_iff]

instance : Std.Total CandidateProposalRef.Before where
  total first second := by
    simpa only [CandidateProposalRef.before_iff] using le_total first.rank second.rank

instance : IsTrans CandidateProposalRef CandidateProposalRef.Before where
  trans first second third before after := by
    rw [CandidateProposalRef.before_iff] at *
    exact before.trans after

instance : Std.Total CandidateProposalRef.PatchBefore where
  total first second := by
    simpa only [CandidateProposalRef.patchBefore_iff] using
      le_total (toLex (first.normalizedPatchHash, first.rank))
        (toLex (second.normalizedPatchHash, second.rank))

instance : IsTrans CandidateProposalRef CandidateProposalRef.PatchBefore where
  trans first second third before after := by
    rw [CandidateProposalRef.patchBefore_iff] at *
    exact before.trans after

/-- Proposals that are not after each other have one identifier. -/
theorem CandidateProposalRef.id_eq_of_before {first second : CandidateProposalRef}
    (before : first.Before second) (after : second.Before first) :
    first.proposalId = second.proposalId := by
  have same := le_antisymm (before_iff.mp before) (before_iff.mp after)
  simp only [rank, EmbeddingLike.apply_eq_iff_eq, Prod.mk.injEq] at same
  exact BitVec.eq_of_toNat_eq same.2.2.2

theorem CandidateProposalRef.before_of_patchBefore {first second : CandidateProposalRef}
    (before : first.PatchBefore second)
    (same : first.normalizedPatchHash = second.normalizedPatchHash) : first.Before second :=
  before.elim (fun less => absurd same less.ne) And.right

/-! ## Leaders -/

/-- No two of the proposals have one identifier. -/
def Distinct (proposals : List CandidateProposalRef) : Prop :=
  (proposals.map CandidateProposalRef.proposalId).Nodup

/-- The proposal with another disposition. -/
def CandidateProposalRef.withDisposition (proposal : CandidateProposalRef)
    (disposition : Disposition) : CandidateProposalRef :=
  { proposal with disposition }

/-- The proposal is the first of those that carry its patch. -/
def CandidateProposalRef.Leads (proposal : CandidateProposalRef)
    (proposals : List CandidateProposalRef) : Prop :=
  proposal ∈ proposals ∧ ∀ other ∈ proposals,
    other.normalizedPatchHash = proposal.normalizedPatchHash → proposal.Before other

/-- The first of the proposals that carry a patch. -/
def leader? (proposals : List CandidateProposalRef) (normalizedPatchHash : String) :
    Option CandidateProposalRef :=
  (proposals.insertionSort CandidateProposalRef.Before).find? fun proposal =>
    decide (proposal.normalizedPatchHash = normalizedPatchHash)

/-- What becomes of a proposal whose patch was first carried by another one, if by any. -/
def CandidateProposalRef.dispositionAfter (proposal : CandidateProposalRef)
    (leader : Option CandidateProposalRef) : Disposition :=
  match leader with
  | none => .pending
  | some leader =>
      if leader.proposalId = proposal.proposalId then .retained
      else .duplicate leader.proposalId

/-- What becomes of a proposal among others. -/
def dispositionIn (proposals : List CandidateProposalRef) (proposal : CandidateProposalRef) :
    Disposition :=
  proposal.dispositionAfter (leader? proposals proposal.normalizedPatchHash)

/-- The proposals with their dispositions. -/
def decided (proposals : List CandidateProposalRef) : List CandidateProposalRef :=
  proposals.map fun proposal => proposal.withDisposition (dispositionIn proposals proposal)

section Distinct

variable {proposals proposals' : List CandidateProposalRef} {proposal other : CandidateProposalRef}

theorem Distinct.eq (distinct : Distinct proposals) (member : proposal ∈ proposals)
    (member' : other ∈ proposals) (same : proposal.proposalId = other.proposalId) :
    proposal = other :=
  List.inj_on_of_nodup_map distinct member member' same

theorem Distinct.eq_of_before (distinct : Distinct proposals) (member : proposal ∈ proposals)
    (member' : other ∈ proposals) (before : proposal.Before other)
    (after : other.Before proposal) : proposal = other :=
  distinct.eq member member' (CandidateProposalRef.id_eq_of_before before after)

theorem Distinct.of_perm (distinct : Distinct proposals) (perm : proposals.Perm proposals') :
    Distinct proposals' :=
  (perm.map CandidateProposalRef.proposalId).nodup_iff.mp distinct

theorem Distinct.decided (distinct : Distinct proposals) : Distinct (decided proposals) := by
  unfold Distinct Agent.decided
  rw [List.map_map]
  exact distinct

theorem leader?_eq_some (distinct : Distinct proposals) {hash : String} :
    leader? proposals hash = some proposal ↔
      proposal.normalizedPatchHash = hash ∧ proposal.Leads proposals := by
  unfold leader?
  rw [find?_insertionSort_eq_some fun _ member _ member' _ _ => distinct.eq_of_before member member']
  simp only [decide_eq_true_eq]
  constructor
  · rintro ⟨member, rfl, least⟩
    exact ⟨rfl, member, least⟩
  · rintro ⟨rfl, member, least⟩
    exact ⟨member, rfl, least⟩

/-- Searching the proposals sorted by patch finds the leader of the patch. -/
theorem find?_sorted_by_patch (distinct : Distinct proposals) (hash : String) :
    ((proposals.insertionSort CandidateProposalRef.PatchBefore).find? fun proposal =>
      decide (proposal.normalizedPatchHash = hash)) = leader? proposals hash := by
  refine Option.ext fun proposal => ?_
  rw [leader?_eq_some distinct, find?_insertionSort_eq_some]
  · simp only [decide_eq_true_eq]
    constructor
    · rintro ⟨member, rfl, least⟩
      exact ⟨rfl, member, fun other member' same =>
        (least other member' same).elim (fun less => absurd same.symm less.ne) And.right⟩
    · rintro ⟨rfl, member, least⟩
      exact ⟨member, rfl, fun other member' same => .inr ⟨same.symm, least other member' same⟩⟩
  · intro first member second member' ofFirst ofSecond before after
    have same := (of_decide_eq_true ofFirst).trans (of_decide_eq_true ofSecond).symm
    exact distinct.eq_of_before member member'
      (CandidateProposalRef.before_of_patchBefore before same)
      (CandidateProposalRef.before_of_patchBefore after same.symm)

/-- Every proposal has a leader. -/
theorem exists_leader (member : proposal ∈ proposals) :
    ∃ leader, leader? proposals proposal.normalizedPatchHash = some leader := by
  refine Option.isSome_iff_exists.mp (List.find?_isSome.mpr ⟨proposal, ?_, decide_eq_true rfl⟩)
  exact (List.perm_insertionSort CandidateProposalRef.Before proposals).mem_iff.mpr member

theorem leader?_eq_of_perm (distinct : Distinct proposals) (perm : proposals.Perm proposals')
    (hash : String) : leader? proposals hash = leader? proposals' hash := by
  unfold leader?
  rw [insertionSort_eq_of_perm perm fun _ member _ member' => distinct.eq_of_before member member']

end Distinct

/-! ## What the function returns -/

section Finalize

variable {proposals proposals' : List CandidateProposalRef}

theorem finalizeStep_of_none {done : List (String × Uuid) × List CandidateProposalRef}
    {proposal : CandidateProposalRef}
    (unseen : done.1.lookup proposal.normalizedPatchHash = none) :
    finalizeStep done proposal = ((proposal.normalizedPatchHash, proposal.proposalId) :: done.1,
      done.2 ++ [proposal.withDisposition .retained]) := by
  rw [finalizeStep, unseen]
  rfl

theorem finalizeStep_of_some {done : List (String × Uuid) × List CandidateProposalRef}
    {proposal : CandidateProposalRef} {retainedId : Uuid}
    (seen : done.1.lookup proposal.normalizedPatchHash = some retainedId) :
    finalizeStep done proposal =
      (done.1, done.2 ++ [proposal.withDisposition (.duplicate retainedId)]) := by
  rw [finalizeStep, seen]
  rfl

/-- **The fold decides about every proposal.** It has seen a patch exactly when an earlier
proposal carries it, and it remembers the first of these. -/
theorem foldl_finalizeStep (distinct : Distinct proposals) :
    (∀ hash, (proposals.foldl finalizeStep ([], [])).1.lookup hash =
      (proposals.find? fun proposal => decide (proposal.normalizedPatchHash = hash)).map
        CandidateProposalRef.proposalId) ∧
    (proposals.foldl finalizeStep ([], [])).2 = proposals.map fun proposal =>
      proposal.withDisposition (proposal.dispositionAfter (proposals.find? fun other =>
        decide (other.normalizedPatchHash = proposal.normalizedPatchHash))) := by
  induction proposals using List.reverseRecOn with
  | nil => exact ⟨fun _ => rfl, rfl⟩
  | append_singleton proposals last ih =>
      have apart : Distinct proposals ∧ ∀ other ∈ proposals,
          other.proposalId ≠ last.proposalId := by
        unfold Distinct at distinct ⊢
        rw [List.map_append, List.nodup_append] at distinct
        exact ⟨distinct.1, fun other member =>
          distinct.2.2 _ (List.mem_map_of_mem member) _ (List.mem_singleton_self _)⟩
      obtain ⟨memory, output⟩ := ih apart.1
      -- the earlier proposals already carry their own patches
      have earlier : ∀ proposal ∈ proposals, ((proposals ++ [last]).find? fun other =>
          decide (other.normalizedPatchHash = proposal.normalizedPatchHash)) =
            proposals.find? fun other =>
              decide (other.normalizedPatchHash = proposal.normalizedPatchHash) := by
        intro proposal member
        rw [List.find?_append]
        exact Option.or_of_isSome (List.find?_isSome.mpr ⟨proposal, member, decide_eq_true rfl⟩)
      rw [List.foldl_append, List.foldl_cons, List.foldl_nil, List.map_append,
        List.map_congr_left fun proposal member => by rw [earlier proposal member], ← output]
      have known := memory last.normalizedPatchHash
      cases first : proposals.find? fun other =>
          decide (other.normalizedPatchHash = last.normalizedPatchHash) with
      | none =>
          rw [first, Option.map_none] at known
          rw [finalizeStep_of_none known]
          refine ⟨fun hash => ?_, ?_⟩
          · by_cases same : hash = last.normalizedPatchHash
            · subst same
              simp [List.find?_append, first]
            · rw [List.lookup_cons, beq_false_of_ne same, memory hash, List.find?_append]
              simp [Ne.symm same]
          · simp [List.find?_append, first, CandidateProposalRef.dispositionAfter]
      | some leader =>
          rw [first, Option.map_some] at known
          rw [finalizeStep_of_some known]
          refine ⟨fun hash => ?_, ?_⟩
          · by_cases same : hash = last.normalizedPatchHash
            · subst same
              simp [List.find?_append, first, known]
            · rw [memory hash, List.find?_append]
              simp [Ne.symm same]
          · simp [List.find?_append, first, CandidateProposalRef.dispositionAfter,
              apart.2 leader (List.mem_of_find?_eq_some first)]

/-- **The result is the list of decisions, in order.** -/
theorem finalizeProposalDispositions_eq (distinct : Distinct proposals) :
    finalizeProposalDispositions proposals =
      (decided proposals).insertionSort CandidateProposalRef.Before := by
  have perm := List.perm_insertionSort CandidateProposalRef.PatchBefore proposals
  unfold finalizeProposalDispositions
  rw [(foldl_finalizeStep (distinct.of_perm perm.symm)).2]
  simp only [find?_sorted_by_patch distinct]
  have permuted := perm.map fun proposal =>
    proposal.withDisposition (dispositionIn proposals proposal)
  exact insertionSort_eq_of_perm permuted fun first member second member' =>
    (distinct.decided.of_perm permuted.symm).eq_of_before member member'

theorem finalizeProposalDispositions_perm (distinct : Distinct proposals) :
    (finalizeProposalDispositions proposals).Perm (decided proposals) := by
  rw [finalizeProposalDispositions_eq distinct]
  exact List.perm_insertionSort _ _

theorem Distinct.finalized (distinct : Distinct proposals) :
    Distinct (finalizeProposalDispositions proposals) :=
  distinct.decided.of_perm (finalizeProposalDispositions_perm distinct).symm

/-- **The order of the proposals is irrelevant.** -/
theorem finalizeProposalDispositions_eq_of_perm (distinct : Distinct proposals)
    (perm : proposals.Perm proposals') :
    finalizeProposalDispositions proposals = finalizeProposalDispositions proposals' := by
  rw [finalizeProposalDispositions_eq distinct,
    finalizeProposalDispositions_eq (distinct.of_perm perm)]
  have same : dispositionIn proposals = dispositionIn proposals' := by
    funext proposal
    unfold dispositionIn
    rw [leader?_eq_of_perm distinct perm]
  have permuted : (decided proposals).Perm (decided proposals') := by
    unfold decided
    rw [same]
    exact perm.map _
  exact insertionSort_eq_of_perm permuted fun _ member _ member' =>
    distinct.decided.eq_of_before member member'

/-- Leaders are found again among the decisions. -/
theorem leader?_decided (distinct : Distinct proposals) (hash : String) :
    leader? (decided proposals) hash = (leader? proposals hash).map fun leader =>
      leader.withDisposition (dispositionIn proposals leader) := by
  refine Option.ext fun proposal => ?_
  rw [leader?_eq_some distinct.decided, Option.map_eq_some_iff]
  constructor
  · rintro ⟨rfl, member, least⟩
    obtain ⟨before, stored, rfl⟩ := List.mem_map.mp member
    refine ⟨before, (leader?_eq_some distinct).mpr ⟨rfl, stored, fun other member' same => ?_⟩, rfl⟩
    exact least (other.withDisposition (dispositionIn proposals other))
      (List.mem_map.mpr ⟨other, member', rfl⟩) same
  · rintro ⟨leader, found, rfl⟩
    obtain ⟨rfl, member, least⟩ := (leader?_eq_some distinct).mp found
    refine ⟨rfl, List.mem_map_of_mem member, fun other member' same => ?_⟩
    obtain ⟨before, stored, rfl⟩ := List.mem_map.mp member'
    exact least before stored same

/-- Deciding again changes nothing. -/
theorem decided_decided (distinct : Distinct proposals) :
    decided (decided proposals) = decided proposals := by
  have same : ∀ proposal : CandidateProposalRef, ∀ disposition,
      dispositionIn (decided proposals) (proposal.withDisposition disposition) =
        dispositionIn proposals proposal := by
    intro proposal disposition
    unfold dispositionIn
    have carried : (proposal.withDisposition disposition).normalizedPatchHash =
        proposal.normalizedPatchHash := rfl
    rw [carried, leader?_decided distinct]
    cases leader? proposals proposal.normalizedPatchHash <;> rfl
  unfold decided at same ⊢
  rw [List.map_map]
  refine List.map_congr_left fun proposal _ => ?_
  rw [Function.comp_apply, same]
  rfl

/-- **The function keeps its own result.** -/
theorem finalizeProposalDispositions_idem (distinct : Distinct proposals) :
    finalizeProposalDispositions (finalizeProposalDispositions proposals) =
      finalizeProposalDispositions proposals := by
  rw [finalizeProposalDispositions_eq_of_perm distinct.finalized
    (finalizeProposalDispositions_perm distinct), finalizeProposalDispositions_eq distinct.decided,
    decided_decided distinct, finalizeProposalDispositions_eq distinct]

/-- What a result is made of: each entry is a proposal with a disposition, and a duplicate names
a proposal that carries its patch. -/
def MadeOf (proposals results : List CandidateProposalRef) : Prop :=
  ∀ result ∈ results, (∃ proposal ∈ proposals,
      result = proposal.withDisposition result.disposition) ∧
    ∀ retainedId, result.disposition = .duplicate retainedId → ∃ retained ∈ proposals,
      retained.proposalId = retainedId ∧
        retained.normalizedPatchHash = result.normalizedPatchHash

/-- One step names proposals that were seen. -/
theorem MadeOf.step {done : List (String × Uuid) × List CandidateProposalRef}
    {proposal : CandidateProposalRef} (member : proposal ∈ proposals)
    (memory : ∀ seen ∈ done.1, ∃ retained ∈ proposals, retained.proposalId = seen.2 ∧
      retained.normalizedPatchHash = seen.1) (made : MadeOf proposals done.2) :
    (∀ seen ∈ (finalizeStep done proposal).1, ∃ retained ∈ proposals,
      retained.proposalId = seen.2 ∧ retained.normalizedPatchHash = seen.1) ∧
      MadeOf proposals (finalizeStep done proposal).2 := by
  cases seen : done.1.lookup proposal.normalizedPatchHash with
  | none =>
      rw [finalizeStep_of_none seen]
      refine ⟨List.forall_mem_cons.mpr ⟨⟨proposal, member, rfl, rfl⟩, memory⟩, ?_⟩
      intro result inResults
      rcases List.mem_append.mp inResults with earlier | last
      · exact made result earlier
      · obtain rfl := List.mem_singleton.mp last
        exact ⟨⟨proposal, member, rfl⟩, fun retainedId other => by cases other⟩
  | some retainedId =>
      rw [finalizeStep_of_some seen]
      refine ⟨memory, fun result inResults => ?_⟩
      rcases List.mem_append.mp inResults with earlier | last
      · exact made result earlier
      · obtain rfl := List.mem_singleton.mp last
        refine ⟨⟨proposal, member, rfl⟩, fun other same => ?_⟩
        obtain rfl := Disposition.duplicate.inj same
        obtain ⟨before, after, split, -⟩ := List.lookup_eq_some_iff.mp seen
        exact memory _ (split ▸ List.mem_append_right before List.mem_cons_self)

/-- **A duplicate carries the patch of the proposal that it names**, whatever the proposals. -/
theorem madeOf_finalized (proposals : List CandidateProposalRef) :
    MadeOf proposals (finalizeProposalDispositions proposals) := by
  have fold : ∀ (rest : List CandidateProposalRef), (∀ proposal ∈ rest, proposal ∈ proposals) →
      ∀ done : List (String × Uuid) × List CandidateProposalRef,
      (∀ seen ∈ done.1, ∃ retained ∈ proposals, retained.proposalId = seen.2 ∧
        retained.normalizedPatchHash = seen.1) → MadeOf proposals done.2 →
      MadeOf proposals (rest.foldl finalizeStep done).2 := by
    intro rest
    induction rest with
    | nil => exact fun _ _ _ made => made
    | cons proposal rest ih =>
        intro inside done memory made
        obtain ⟨here, later⟩ := List.forall_mem_cons.mp inside
        obtain ⟨memory', made'⟩ := MadeOf.step here memory made
        exact ih later _ memory' made'
  have made := fold (proposals.insertionSort CandidateProposalRef.PatchBefore)
    (fun proposal member => (List.mem_insertionSort _).mp member) ([], []) (by simp)
    (fun result none_ => by cases none_)
  exact fun result member => made result ((List.mem_insertionSort _).mp member)

end Finalize

/-! ## What the result is -/

/-- The result keeps the proposals but for their dispositions. In every patch one proposal is
retained, the first of those that carry it, and the others duplicate that one. -/
structure Disposed (proposals finalized : List CandidateProposalRef) : Prop where
  kept : (finalized.map fun proposal => proposal.withDisposition .pending).Perm
    (proposals.map fun proposal => proposal.withDisposition .pending)
  one : ∀ proposal ∈ proposals, ∃! retained, retained ∈ finalized ∧
    retained.normalizedPatchHash = proposal.normalizedPatchHash ∧
      retained.disposition = .retained
  least : ∀ retained ∈ finalized, retained.disposition = .retained → retained.Leads finalized
  others : ∀ proposal ∈ finalized, proposal.disposition ≠ .retained → ∃ retained ∈ finalized,
    retained.normalizedPatchHash = proposal.normalizedPatchHash ∧
      retained.disposition = .retained ∧ proposal.disposition = .duplicate retained.proposalId

section Laws

variable {proposals : List CandidateProposalRef} {proposal : CandidateProposalRef}

/-- A leader is retained. -/
theorem dispositionIn_of_leads (distinct : Distinct proposals)
    (leads : proposal.Leads proposals) : dispositionIn proposals proposal = .retained := by
  unfold dispositionIn
  rw [(leader?_eq_some distinct).mpr ⟨rfl, leads⟩]
  exact if_pos rfl

/-- Every proposal has a leader, and duplicates it unless it is the leader. -/
theorem dispositionIn_cases (distinct : Distinct proposals) (member : proposal ∈ proposals) :
    ∃ leader, leader.Leads proposals ∧
      leader.normalizedPatchHash = proposal.normalizedPatchHash ∧
        (proposal = leader ∨ dispositionIn proposals proposal = .duplicate leader.proposalId) := by
  obtain ⟨leader, found⟩ := exists_leader member
  obtain ⟨same, leads⟩ := (leader?_eq_some distinct).mp found
  refine ⟨leader, leads, same, ?_⟩
  by_cases itself : leader.proposalId = proposal.proposalId
  · exact .inl (distinct.eq leads.1 member itself).symm
  · refine .inr ?_
    unfold dispositionIn
    rw [found]
    exact if_neg itself

/-- The first of a patch is also the first among the decisions. -/
theorem CandidateProposalRef.Leads.decided (leads : proposal.Leads proposals) :
    (proposal.withDisposition (dispositionIn proposals proposal)).Leads (decided proposals) := by
  refine ⟨List.mem_map.mpr ⟨proposal, leads.1, rfl⟩, fun other member same => ?_⟩
  obtain ⟨before, stored, rfl⟩ := List.mem_map.mp member
  exact leads.2 before stored same

/-- Two proposals that lead one patch are one proposal. -/
theorem Distinct.eq_of_leads (distinct : Distinct proposals) {other : CandidateProposalRef}
    (leads : proposal.Leads proposals) (leads' : other.Leads proposals)
    (same : proposal.normalizedPatchHash = other.normalizedPatchHash) : proposal = other :=
  distinct.eq_of_before leads.1 leads'.1 (leads.2 other leads'.1 same.symm)
    (leads'.2 proposal leads.1 same)

/-- A decision to retain is about a leader. -/
theorem leads_of_retained (distinct : Distinct proposals) (member : proposal ∈ decided proposals)
    (retained : proposal.disposition = .retained) :
    ∃ leader : CandidateProposalRef, leader.Leads proposals ∧
      proposal = leader.withDisposition (dispositionIn proposals leader) := by
  obtain ⟨before, stored, rfl⟩ := List.mem_map.mp member
  obtain ⟨leader, leads, -, itself | duplicates⟩ := dispositionIn_cases distinct stored
  · exact ⟨before, itself ▸ leads, rfl⟩
  · rw [CandidateProposalRef.withDisposition, duplicates] at retained
    cases retained

/-- **The decisions keep the proposals and retain the first of each patch.** -/
theorem disposed_decided (distinct : Distinct proposals) :
    Disposed proposals (decided proposals) where
  kept := by
    unfold decided
    rw [List.map_map]
    exact List.Perm.refl _
  one proposal member := by
    obtain ⟨leader, leads, same, -⟩ := dispositionIn_cases distinct member
    refine ⟨leader.withDisposition (dispositionIn proposals leader),
      ⟨leads.decided.1, same, dispositionIn_of_leads distinct leads⟩, ?_⟩
    rintro other ⟨stored, carries, retained⟩
    obtain ⟨leader', leads', rfl⟩ := leads_of_retained distinct stored retained
    rw [distinct.eq_of_leads leads' leads (carries.trans same.symm)]
  least retained member decision := by
    obtain ⟨leader, leads, rfl⟩ := leads_of_retained distinct member decision
    exact leads.decided
  others proposal member decision := by
    obtain ⟨before, stored, rfl⟩ := List.mem_map.mp member
    obtain ⟨leader, leads, same, itself | duplicates⟩ := dispositionIn_cases distinct stored
    · exact absurd (dispositionIn_of_leads distinct (itself ▸ leads)) decision
    · exact ⟨_, leads.decided.1, same, dispositionIn_of_leads distinct leads, duplicates⟩

theorem Disposed.of_perm {finalized finalized' : List CandidateProposalRef}
    (disposed : Disposed proposals finalized) (perm : finalized.Perm finalized') :
    Disposed proposals finalized' where
  kept := (perm.map _).symm.trans disposed.kept
  one proposal member := by
    simpa only [perm.mem_iff] using disposed.one proposal member
  least retained member decision := by
    obtain ⟨stored, first⟩ := disposed.least retained (perm.mem_iff.mpr member) decision
    exact ⟨member, fun other member' => first other (perm.mem_iff.mpr member')⟩
  others proposal member := by
    simpa only [perm.mem_iff] using disposed.others proposal (perm.mem_iff.mpr member)

/-- **What `finalize_proposal_dispositions` returns.** -/
theorem disposed_finalized (distinct : Distinct proposals) :
    Disposed proposals (finalizeProposalDispositions proposals) :=
  (disposed_decided distinct).of_perm (finalizeProposalDispositions_perm distinct).symm

end Laws

end Agent

end HcuAutoOpt
