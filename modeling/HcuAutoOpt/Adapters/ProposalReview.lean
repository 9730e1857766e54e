import HcuAutoOpt.Agent.ReviewRuns
import Mathlib.Data.List.Dedup

/-!
# The review of a proposal

`ProposalReviewAuthority.resolve` of `adapters/agent_promotion.py` rereads what the Agent
Generation Authority shows of a run (`generationRunStatus`) before a human decision about a
proposal is recorded: the hashes of the run, its counters, the attempt of the proposal, the
batch the attempt has succeeded with and the patch of the proposal. The stores of batches and
patches are parameters.

`proposal_dispositions` follows the dispositions from the function that decides about them to
this check: in every run that awaits its review the stored dispositions are those of all its
proposals together, and the check accepts the retained proposals and no other.
-/

set_option autoImplicit false

namespace HcuAutoOpt

namespace Agent

open Foundation

/-! ## The status of a run -/

/-- `GenerationRunStatusView`, without the ledger. -/
structure GenerationRunStatusView where
  run : GenerationRun
  attempts : List GeneratorAttempt
  proposals : List CandidateProposalRef
  deriving DecidableEq

/-- `GenerationRunStatusView.require_status_binding`. -/
def GenerationRunStatusView.Bound (status : GenerationRunStatusView) : Prop :=
  (∀ attempt ∈ status.attempts, attempt.generationRunId = status.run.generationRunId) ∧
    ∀ proposal ∈ status.proposals, proposal.generationRunId = status.run.generationRunId

instance (status : GenerationRunStatusView) : Decidable status.Bound :=
  inferInstanceAs (Decidable (_ ∧ _))

/-- `CandidateProposalRef.require_dedupe_binding`: a proposal does not duplicate itself. -/
def CandidateProposalRef.Valid (proposal : CandidateProposalRef) : Prop :=
  proposal.disposition ≠ .duplicate proposal.proposalId

instance (proposal : CandidateProposalRef) : Decidable proposal.Valid :=
  inferInstanceAs (Decidable (_ ≠ _))

/-- `_proposal_ref`. -/
def loadProposal (row : CandidateProposalRef) : Except Error CandidateProposalRef := do
  require row.Valid (.validationError "CandidateProposalRef")
  return row

/-- `ORDER BY generator_ordinal, proposal_ordinal, proposal_id`. -/
def CandidateProposalRef.ListedBefore (first second : CandidateProposalRef) : Prop :=
  first.generatorOrdinal < second.generatorOrdinal ∨
    first.generatorOrdinal = second.generatorOrdinal ∧
      (first.proposalOrdinal < second.proposalOrdinal ∨
        first.proposalOrdinal = second.proposalOrdinal ∧
          first.proposalId.toNat ≤ second.proposalId.toNat)

instance : DecidableRel CandidateProposalRef.ListedBefore := fun _ _ =>
  inferInstanceAs (Decidable (_ ∨ _ ∧ (_ ∨ _ ∧ _)))

/-- `list_candidate_proposal_refs`. -/
def listCandidateProposalRefs (runId : Uuid) (s : GenerationStore) :
    Except Error (List CandidateProposalRef) :=
  ((s.proposals.rows.filter fun proposal => decide (proposal.generationRunId = runId)).insertionSort
    CandidateProposalRef.ListedBefore).mapM loadProposal

/-- `list_generation_attempts`. -/
def listGenerationAttempts (runId : Uuid) (s : GenerationStore) :
    Except Error (List GeneratorAttempt) :=
  (s.attemptsOf runId).mapM loadAttempt

/-- `generation_run_status`. -/
def generationRunStatus (runId : Uuid) (s : GenerationStore) :
    Except Error GenerationRunStatusView := do
  let row ← requireRow (s.runs.find? runId) s!"Agent Generation Run not found: {runId.text}"
  let run ← loadRun row
  let attempts ← listGenerationAttempts runId s
  let proposals ← listCandidateProposalRefs runId s
  let status : GenerationRunStatusView := ⟨run, attempts, proposals⟩
  require status.Bound (.validationError "GenerationRunStatusView")
  return status

/-! ## Resolving a proposal -/

/-- `SourceArtifactError`, `AgentAuthorityError`, or what a store raises. -/
inductive ReviewError where
  | sourceArtifact (message : String)
  | authority (code : AgentAuthorityError)
  | store (message : String)
  deriving DecidableEq, Repr

/-- `CandidateProposalBatchStore.load` by the hash and the identifier of a batch, and
`ProposalPatchStore.read` by the place of a patch and its hashes. -/
structure ReviewStores where
  loadBatch : String → Uuid → Except ReviewError CandidateProposalBatch
  readPatch : String → String → String → Except ReviewError (List UInt8)

/-- `ResolvedRetainedProposal`. -/
structure ResolvedRetainedProposal where
  status : GenerationRunStatusView
  attempt : GeneratorAttempt
  reference : CandidateProposalRef
  batch : CandidateProposalBatch
  proposal : CandidateProposal
  rawPatch : List UInt8

/-- The only member of a list. -/
def sole {α ε : Type} (items : List α) (e : ε) : Except ε α :=
  match items with
  | [item] => .ok item
  | _ => .error e

/-- The counters of the run count what the status shows. -/
def GenerationRunStatusView.Counted (status : GenerationRunStatusView) : Prop :=
  let terminalAttempts := status.attempts.filter fun attempt => attempt.state.terminal
  status.run.attemptCount = status.attempts.length ∧
    status.run.terminalAttemptCount = terminalAttempts.length ∧
    status.run.terminalGeneratorCount =
      (terminalAttempts.map GeneratorAttempt.generatorOrdinal).dedup.length ∧
    status.run.proposalCount = status.proposals.length ∧
    status.run.retainedProposalCount = (status.proposals.filter fun proposal =>
      decide (proposal.disposition = .retained)).length ∧
    (status.proposals.map CandidateProposalRef.proposalId).dedup.length = status.proposals.length

instance (status : GenerationRunStatusView) : Decidable status.Counted :=
  inferInstanceAs (Decidable (_ ∧ _ ∧ _ ∧ _ ∧ _ ∧ _))

/-- `ProposalReviewAuthority.resolve`. -/
def resolve (ids : Identities) (stores : ReviewStores) (status : GenerationRunStatusView)
    (proposalId : Uuid) : Except ReviewError ResolvedRetainedProposal := do
  let run := status.run
  let requestHash := ids.candidateGenerationRequestHash run.request
  require (run.state = .awaitingReview)
    (.sourceArtifact "Candidate Proposal review requires an awaiting_review Generation Run")
  require (run.requestHash = requestHash ∧ run.plan.requestHash = requestHash)
    (.sourceArtifact "Generation Request authority changed before review")
  require (run.planHash = ids.apexGenerationPlanHash run.plan)
    (.sourceArtifact "Apex Generation Plan authority changed before review")
  require status.Counted
    (.sourceArtifact "Generation Run Status counts differ from its review authority")
  let reference ← sole (status.proposals.filter fun item => decide (item.proposalId = proposalId))
    (.sourceArtifact "Candidate Proposal review requires one retained Proposal authority")
  require (reference.disposition = .retained)
    (.sourceArtifact "Candidate Proposal review requires one retained Proposal authority")
  let attempt ← sole
    (status.attempts.filter fun item => decide (item.attemptId = reference.attemptId))
    (.sourceArtifact "Candidate Proposal Attempt authority is incomplete")
  require (attempt.state = .succeeded)
    (.sourceArtifact "Candidate Proposal Attempt is not reviewable")
  let binding ← requireSome attempt.batch
    (.sourceArtifact "Candidate Proposal Attempt is not reviewable")
  require (binding.batchId = reference.batchId)
    (.sourceArtifact "Candidate Proposal Attempt is not reviewable")
  let batch ← stores.loadBatch binding.batchHash reference.batchId
  let generator ← requireSome run.plan.generators[attempt.generatorOrdinal]?
    (.sourceArtifact "Candidate Proposal Attempt generator is outside its Plan")
  require (binding.batchStatus = batch.status ∧ binding.rawOutputUri = batch.rawOutputUri ∧
      binding.rawOutputHash = batch.rawOutputHash ∧
      binding.adapterProvenance = batch.adapterProvenance)
    (.sourceArtifact "Candidate Proposal Attempt settlement differs from its frozen Batch")
  let expectedRefs ← (proposalRefsForBatch ids run attempt generator batch).mapError .authority
  let expected ← sole (expectedRefs.filter fun item => decide (item.proposalId = proposalId))
    (.sourceArtifact "Candidate Proposal is absent from its frozen Batch")
  -- every field but the disposition is immutable
  require (reference.withDisposition .pending = expected.withDisposition .pending)
    (.sourceArtifact "Candidate Proposal Ref changed after Batch settlement")
  let proposal ← sole (batch.proposals.filter fun item => decide (item.proposalId = proposalId))
    (.sourceArtifact "Candidate Proposal identity is ambiguous in its Batch")
  require (proposal.proposalHash = reference.proposalHash)
    (.sourceArtifact "Candidate Proposal content does not match its A reference")
  let rawPatch ← stores.readPatch proposal.patchUri proposal.patchHash
    proposal.normalizedPatchHash
  return ⟨status, attempt, reference, batch, proposal, rawPatch⟩

/-- The stores hold the batch and the patches of its proposals. -/
def ReviewStores.Holds (stores : ReviewStores) (batch : CandidateProposalBatch) : Prop :=
  stores.loadBatch batch.batchHash batch.batchId = .ok batch ∧
    ∀ proposal ∈ batch.proposals, ∃ rawPatch, stores.readPatch proposal.patchUri
      proposal.patchHash proposal.normalizedPatchHash = .ok rawPatch

/-! ## What a run under review shows -/

section Status

variable {ids : Identities} {stores : ReviewStores} {s : GenerationStore} {run : GenerationRun}

theorem require_of {p : Prop} [Decidable p] {ε : Type} {e : ε} (holds : p) : require p e = .ok () :=
  if_pos holds

theorem sole_eq_ok {α ε : Type} {items : List α} {e : ε} {item : α} :
    sole items e = .ok item ↔ items = [item] := by
  unfold sole
  split
  · rw [Except.ok.injEq, List.cons.injEq, and_iff_left rfl]
  · rename_i other
    exact iff_of_false (fun same => by cases same) fun same => other item same

/-- A selection by a key that occurs once selects one member. -/
theorem filter_key_eq_singleton {α κ : Type} [DecidableEq κ] {key : α → κ} {items : List α}
    (distinct : (items.map key).Nodup) {item : α} (member : item ∈ items) {k : κ}
    (named : key item = k) : (items.filter fun other => decide (key other = k)) = [item] := by
  have alone : ∀ other ∈ items.filter fun other => decide (key other = k), other = item := by
    intro other chosen
    obtain ⟨inItems, same⟩ := List.mem_filter.mp chosen
    exact List.inj_on_of_nodup_map distinct inItems member
      ((of_decide_eq_true same).trans named.symm)
  refine List.eq_replicate_of_mem alone |>.trans ?_
  have count : (items.filter fun other => decide (key other = k)).length = 1 := by
    refine Nat.le_antisymm ?_ (List.length_pos_of_mem
      (List.mem_filter.mpr ⟨member, decide_eq_true named⟩))
    have once := List.nodup_iff_count_le_one.mp distinct k
    rwa [List.count, List.countP_map, List.countP_eq_length_filter,
      List.filter_congr (q := fun other => decide (key other = k))] at once
    intro other _
    rw [Function.comp_apply, beq_eq_decide]
  rw [count]
  rfl

theorem perm_listed (runId : Uuid) : ((s.proposals.rows.filter fun proposal =>
    decide (proposal.generationRunId = runId)).insertionSort
      CandidateProposalRef.ListedBefore).Perm (s.proposalsOf runId) :=
  List.perm_insertionSort _ _

/-- A proposal duplicates another one, so its reference is valid. -/
theorem GenerationStore.Reviewed.proposal_valid (reviewed : s.Reviewed run)
    {proposal : CandidateProposalRef} (member : proposal ∈ s.proposalsOf run.generationRunId) :
    proposal.Valid := by
  have distinct : Distinct (s.proposalsOf run.generationRunId) := distinct_proposalsOf _
  intro itself
  obtain ⟨retained, stored, -, kept, duplicates⟩ := (disposed_finalized distinct).others proposal
    (reviewed.decided.mem_iff.mp member) (by rw [itself]; exact fun same => by cases same)
  have same : proposal.proposalId = retained.proposalId :=
    Disposition.duplicate.inj (itself.symm.trans duplicates)
  rw [distinct.finalized.eq (reviewed.decided.mem_iff.mp member) stored same, kept] at itself
  cases itself

/-- **The status of a run under review** shows its rows. -/
theorem generationRunStatus_reviewed (accountable : s.Accountable ids stores.Holds)
    (member : run ∈ s.runs) (reviewed : s.Reviewed run) :
    ∃ proposals, proposals.Perm (s.proposalsOf run.generationRunId) ∧
      generationRunStatus run.generationRunId s =
        .ok ⟨run, s.attemptsOf run.generationRunId, proposals⟩ := by
  have perm := perm_listed (s := s) run.generationRunId
  refine ⟨_, perm, ?_⟩
  have valid : ∀ row ∈ s.attemptsOf run.generationRunId, row.Valid := fun row inRun =>
    accountable.sound.attempts row (mem_attemptsOf.mp inRun).1
  have attempts : listGenerationAttempts run.generationRunId s =
      .ok (s.attemptsOf run.generationRunId) := by
    refine mapM_ok_iff.mpr (List.forall₂_same.mpr fun row inRun => ?_)
    exact loadAttempt_eq_ok.mpr ⟨valid row inRun, rfl⟩
  have proposals : listCandidateProposalRefs run.generationRunId s =
      .ok ((s.proposals.rows.filter fun proposal =>
        decide (proposal.generationRunId = run.generationRunId)).insertionSort
          CandidateProposalRef.ListedBefore) := by
    refine mapM_ok_iff.mpr (List.forall₂_same.mpr fun row inRun => ?_)
    unfold loadProposal
    rw [require_of (reviewed.proposal_valid (perm.mem_iff.mp inRun))]
    rfl
  have loaded : loadRun run = .ok run :=
    loadRun_eq_ok.mpr ⟨accountable.sound.runs run member, rfl⟩
  have found : s.runs.find? run.generationRunId = some run := Table.find?_of_mem member
  have bound : GenerationRunStatusView.Bound ⟨run, s.attemptsOf run.generationRunId,
      (s.proposals.rows.filter fun proposal =>
        decide (proposal.generationRunId = run.generationRunId)).insertionSort
          CandidateProposalRef.ListedBefore⟩ :=
    ⟨fun attempt inRun => (mem_attemptsOf.mp inRun).2,
      fun proposal inRun => (mem_proposalsOf.mp (perm.mem_iff.mp inRun)).2⟩
  unfold generationRunStatus
  rw [requireRow_eq_ok.mpr found]
  simp only [bind, Except.bind, loaded, attempts, proposals, require_of bound]
  rfl

/-- The counters of a run under review count its rows. -/
theorem GenerationStore.Reviewed.counted (accountable : s.Accountable ids stores.Holds)
    (member : run ∈ s.runs) (reviewed : s.Reviewed run) (awaits : run.state = .awaitingReview)
    {proposals : List CandidateProposalRef}
    (perm : proposals.Perm (s.proposalsOf run.generationRunId)) :
    GenerationRunStatusView.Counted ⟨run, s.attemptsOf run.generationRunId, proposals⟩ := by
  have valid := accountable.sound.runs run member
  have ended : ((s.attemptsOf run.generationRunId).filter fun attempt =>
      attempt.state.terminal) = s.attemptsOf run.generationRunId :=
    List.filter_eq_self.mpr reviewed.ended
  have generators : ((s.attemptsOf run.generationRunId).map
      GeneratorAttempt.generatorOrdinal).dedup.Perm (List.range run.plannedGeneratorCount) := by
    refine (List.perm_ext_iff_of_nodup (List.nodup_dedup _) List.nodup_range).mpr fun ordinal => ?_
    rw [List.mem_dedup, List.mem_range, List.mem_map]
    constructor
    · rintro ⟨attempt, inRun, rfl⟩
      exact accountable.ordinal_lt member inRun
    · intro planned
      exact reviewed.covered ordinal planned
  have distinct : (proposals.map CandidateProposalRef.proposalId).Nodup :=
    (distinct_proposalsOf (s := s) run.generationRunId).of_perm perm.symm
  refine ⟨reviewed.attempts, ?_, ?_, reviewed.proposals.trans perm.length_eq.symm,
    reviewed.retained.trans (perm.filter _).length_eq.symm, ?_⟩
  · rw [ended]
    exact reviewed.terminalAttempts
  · rw [ended, generators.length_eq, List.length_range]
    exact (valid.reviewable (.inl awaits)).1
  · rw [distinct.dedup, List.length_map]

/-- **A retained proposal is accepted.** Its source is what the check looks for. -/
theorem resolve_retained (accountable : s.Accountable ids stores.Holds) (member : run ∈ s.runs)
    (awaits : run.state = .awaitingReview) {proposals : List CandidateProposalRef}
    (perm : proposals.Perm (s.proposalsOf run.generationRunId)) {reference : CandidateProposalRef}
    (listed : reference ∈ proposals) (retained : reference.disposition = .retained) :
    ∃ resolved, resolve ids stores ⟨run, s.attemptsOf run.generationRunId, proposals⟩
      reference.proposalId = .ok resolved := by
  have reviewed := (accountable.consistent run member).reviewed awaits
  obtain ⟨stored, ofRun⟩ := mem_proposalsOf.mp (perm.mem_iff.mp listed)
  obtain ⟨other, attempt, generator, batch, valid, ⟨loads, reads⟩, source⟩ :=
    accountable.sourced reference stored
  obtain rfl : run = other := Table.eq_of_key_eq member source.storedRun
    (ofRun.symm.trans source.ofRun)
  obtain ⟨refs, built, inRefs⟩ := source.refs
  obtain ⟨binding, bound, ofBatch⟩ := source.bound
  obtain ⟨proposal, inBatch, same⟩ := mem_proposalRefsForBatch built inRefs
  obtain ⟨attemptOfRun, sorted⟩ := proposalRefsForBatch_eq_ok built
  obtain ⟨rawPatch, read⟩ := reads proposal inBatch
  have sameId : proposal.proposalId = reference.proposalId :=
    (congrArg CandidateProposalRef.proposalId same).symm
  have sameBatch : reference.batchId = batch.batchId := congrArg CandidateProposalRef.batchId same
  have sameAttempt : attempt.attemptId = reference.attemptId :=
    (congrArg CandidateProposalRef.attemptId same).symm
  have sameHash : proposal.proposalHash = reference.proposalHash :=
    (congrArg CandidateProposalRef.proposalHash same).symm
  have distinctRefs : (refs.map CandidateProposalRef.proposalId).Nodup := by
    rw [sorted, List.map_map]
    exact ((List.perm_insertionSort CandidateProposal.Before batch.proposals).map
      CandidateProposal.proposalId).nodup_iff.mpr valid.identities
  have distinctAttempts : ((s.attemptsOf run.generationRunId).map
      GeneratorAttempt.attemptId).Nodup :=
    ((List.perm_insertionSort GeneratorAttempt.Before _).map _).nodup_iff.mpr
      (s.attempts.keys_nodup.sublist (List.filter_sublist.map _))
  have oneReference := filter_key_eq_singleton
    ((distinct_proposalsOf (s := s) run.generationRunId).of_perm perm.symm) listed rfl
  have oneAttempt := filter_key_eq_singleton distinctAttempts
    (mem_attemptsOf.mpr ⟨source.storedAttempt, attemptOfRun⟩) sameAttempt
  have oneRef := filter_key_eq_singleton distinctRefs inRefs
    (show CandidateProposalRef.proposalId reference = reference.proposalId from rfl)
  have oneProposal := filter_key_eq_singleton valid.identities inBatch sameId
  have authority := accountable.authority run member
  have requestHash : run.plan.requestHash = ids.candidateGenerationRequestHash run.request :=
    (accountable.sound.runs run member).hashOfPlan.trans authority.1
  have settlement : binding.batchStatus = batch.status ∧ binding.rawOutputUri = batch.rawOutputUri ∧
      binding.rawOutputHash = batch.rawOutputHash ∧
      binding.adapterProvenance = batch.adapterProvenance :=
    ⟨ofBatch.batchStatus, ofBatch.rawOutputUri, ofBatch.rawOutputHash, ofBatch.adapterProvenance⟩
  have immutable : reference.withDisposition .pending =
      (reference.withDisposition .pending).withDisposition .pending := rfl
  have loaded : stores.loadBatch binding.batchHash reference.batchId = .ok batch := by
    rw [ofBatch.batchHash, sameBatch]
    exact loads
  refine ⟨⟨⟨run, s.attemptsOf run.generationRunId, proposals⟩, attempt, reference, batch, proposal,
    rawPatch⟩, ?_⟩
  simp only [resolve, bind, Except.bind, require_of awaits,
    require_of (And.intro authority.1 requestHash), require_of authority.2,
    require_of (reviewed.counted accountable member awaits perm),
    sole_eq_ok.mpr oneReference, require_of retained, sole_eq_ok.mpr oneAttempt,
    require_of source.succeeded, requireSome_eq_ok.mpr bound,
    require_of (ofBatch.batchId.trans sameBatch.symm), loaded,
    requireSome_eq_ok.mpr source.planned, require_of settlement,
    mapError_eq_ok.mpr built, sole_eq_ok.mpr oneRef, require_of immutable,
    sole_eq_ok.mpr oneProposal, require_of sameHash, read]
  rfl

/-- What is accepted is a proposal that is listed as retained. -/
theorem retained_of_resolve {status : GenerationRunStatusView} {proposalId : Uuid}
    {resolved : ResolvedRetainedProposal} (ok : resolve ids stores status proposalId = .ok resolved) :
    ∃ reference ∈ status.proposals, reference.proposalId = proposalId ∧
      reference.disposition = .retained := by
  obtain ⟨_, -, ok⟩ := Except.bind_eq_ok.mp ok
  obtain ⟨_, -, ok⟩ := Except.bind_eq_ok.mp ok
  obtain ⟨_, -, ok⟩ := Except.bind_eq_ok.mp ok
  obtain ⟨_, -, ok⟩ := Except.bind_eq_ok.mp ok
  obtain ⟨reference, found, ok⟩ := Except.bind_eq_ok.mp ok
  obtain ⟨_, retained, -⟩ := Except.bind_eq_ok.mp ok
  have chosen : reference ∈ status.proposals.filter fun item =>
      decide (item.proposalId = proposalId) := by
    rw [sole_eq_ok.mp found]
    exact List.mem_singleton_self _
  obtain ⟨listed, named⟩ := List.mem_filter.mp chosen
  exact ⟨reference, listed, of_decide_eq_true named, require_eq_ok.mp retained⟩

end Status

/-- **Dispositions, from the decision to the review.** The function that decides does not depend
on the order of the proposals and keeps its own result; it keeps every proposal, and retains in
every patch the first of those that carry it. In every run that awaits its review the stored
dispositions are those of all its proposals, and the review accepts the retained proposals and
no other. -/
theorem proposal_dispositions (ids : Identities) (stores : ReviewStores) :
    (∀ proposals, Distinct proposals →
      Disposed proposals (finalizeProposalDispositions proposals) ∧
      finalizeProposalDispositions (finalizeProposalDispositions proposals) =
        finalizeProposalDispositions proposals ∧
      ∀ proposals', proposals.Perm proposals' →
        finalizeProposalDispositions proposals' = finalizeProposalDispositions proposals) ∧
    ∀ trace s, Steps (GenerationStep ids) {} trace s →
      (∀ call ∈ trace, call.Presents stores.Holds) →
      ∀ run ∈ s.runs, run.state = .awaitingReview →
        (s.proposalsOf run.generationRunId).Perm
          (finalizeProposalDispositions (s.proposalsOf run.generationRunId)) ∧
        ∃ status, generationRunStatus run.generationRunId s = .ok status ∧
          status.proposals.Perm (s.proposalsOf run.generationRunId) ∧
          ∀ proposalId, (∃ resolved, resolve ids stores status proposalId = .ok resolved) ↔
            ∃ proposal ∈ s.proposalsOf run.generationRunId,
              proposal.proposalId = proposalId ∧ proposal.disposition = .retained := by
  constructor
  · intro proposals distinct
    exact ⟨disposed_finalized distinct, finalizeProposalDispositions_idem distinct,
      fun _ perm => (finalizeProposalDispositions_eq_of_perm distinct perm).symm⟩
  · intro trace s steps presents run member awaits
    have accountable := GenerationStore.Accountable.of_steps steps presents
    have reviewed := (accountable.consistent run member).reviewed awaits
    obtain ⟨proposals, perm, shown⟩ := generationRunStatus_reviewed accountable member reviewed
    refine ⟨reviewed.decided, _, shown, perm, fun proposalId => ⟨?_, ?_⟩⟩
    · rintro ⟨resolved, ok⟩
      obtain ⟨reference, listed, named, retained⟩ := retained_of_resolve ok
      exact ⟨reference, perm.mem_iff.mp listed, named, retained⟩
    · rintro ⟨reference, inRun, rfl, retained⟩
      exact resolve_retained accountable member awaits perm (perm.mem_iff.mpr inRun) retained

/-! ## Two generators with one patch -/

/-- Identifiers of a run of two generators. -/
def twoGenerators : Identities where
  generationRunIdFor _ := 1
  generationPlanIdFor runId := runId + 200
  generationAttemptIdFor runId generatorId _ :=
    runId + if generatorId = "generator-a" then 300 else 301
  candidateGenerationRequestHash _ := "sha256:request"
  apexGenerationPlanHash _ := "sha256:plan"

theorem minute_in_range : (1 : Int) ≤ 60 ∧ (60 : Int) ≤ 7200 := by
  decide

/-- The generators of the run. -/
def generatorPair : List GeneratorPlanEntry :=
  [timedGenerator 60 minute_in_range,
    { timedGenerator 60 minute_in_range with generatorId := "generator-b" }]

theorem generatorPair_distinct :
    (generatorPair.map GeneratorPlanEntry.generatorId).Nodup := by
  decide

theorem generatorPair_range : 1 ≤ generatorPair.length ∧ generatorPair.length ≤ 8 := by
  decide

theorem generatorPair_slots : 1 ≤ 2 ∧ 2 ≤ 4 := by
  decide

theorem generatorPair_slots_le : 2 ≤ generatorPair.length := by
  decide

/-- A start of a run of two generators. -/
def startTwo : GenerationRunStartRequest where
  request := { requestId := 101, generationRunId := 1, maxProposals := 2 }
  plan :=
    { planId := 201, generationRunId := 1, requestId := 101, requestHash := "sha256:request",
      generators := generatorPair,
      maxConcurrency := 2, budgetMaxProposals := 2
      generators_range := generatorPair_range
      generators_distinct := generatorPair_distinct
      maxConcurrency_range := generatorPair_slots
      maxConcurrency_le := generatorPair_slots_le }
  actor := "operator"
  idempotencyKey := "run-two!"

/-- What a part of the deployment says of itself. -/
def provenanceOf (profile capability : String) : AdapterProvenance where
  profile := profile
  capability := capability
  adapterName := "adapter"
  adapterVersion := "1.0.0"
  implementationKind := "real"
  sourceCommit := none

/-- A batch with one proposal. All the batches carry one patch. -/
def batchOf (generatorId : String) (proposalId : Uuid) : CandidateProposalBatch where
  batchId := proposalId + 100
  requestId := 101
  requestHash := "sha256:request"
  generationRunId := 1
  generatorId := generatorId
  adapterProvenance := provenanceOf "apex" "candidate_proposal_generation"
  status := .succeeded
  proposals :=
    [{ proposalId := proposalId, proposalHash := "sha256:" ++ generatorId,
       requestHash := "sha256:request", ordinal := 0, patchUri := "file:///patch",
       patchHash := "sha256:patch", normalizedPatchHash := "sha256:normal" }]
  rawOutputUri := "file:///raw"
  rawOutputHash := "sha256:raw"
  attemptCount := 1
  error := none
  batchHash := "sha256:batch-" ++ generatorId

/-- The settlement of an attempt with its batch. -/
def settlementOf (generatorId : String) (proposalId : Uuid) : Settlement where
  batch := some (batchOf generatorId proposalId)
  batchUri := some "file:///batch"
  receipt :=
    { runnerReceiptId := proposalId + 200, runnerReceiptUri := "file:///receipt",
      runnerReceiptHash := "sha256:receipt", runnerReceiptSchemaVersion := "v1",
      runnerProvenance := provenanceOf "runner" "agent_runner" }
  executionStatus := "succeeded"

/-- Both generators propose the patch. -/
def twoProposals : List GenerationCall :=
  [.start 0 startTwo, .reconcile 1 true 1,
    .claim 2 7 {} "worker" 60 none, .settle 3 true 301 7 (settlementOf "generator-a" 501),
    .claim 4 8 {} "worker" 60 none, .settle 5 true 302 8 (settlementOf "generator-b" 502)]

/-- Stores with the two batches and the patch. -/
def heldTwo : ReviewStores where
  loadBatch batchHash batchId :=
    match [batchOf "generator-a" 501, batchOf "generator-b" 502].find? fun batch =>
        decide (batch.batchHash = batchHash) with
    | none => .error (.store "FileNotFoundError")
    | some batch =>
        if batch.batchId = batchId then .ok batch
        else .error (.sourceArtifact "Candidate Proposal Batch identity changed in Store")
  readPatch patchUri patchHash normalizedPatchHash :=
    if patchUri = "file:///patch" ∧ patchHash = "sha256:patch" ∧
        normalizedPatchHash = "sha256:normal" then .ok [43, 120, 10]
    else .error (.store "FileNotFoundError")

theorem heldTwo_holds {generatorId : String} {proposalId : Uuid}
    (either : generatorId = "generator-a" ∧ proposalId = 501 ∨
      generatorId = "generator-b" ∧ proposalId = 502) :
    (batchOf generatorId proposalId).Valid ∧ heldTwo.Holds (batchOf generatorId proposalId) := by
  have loads : heldTwo.loadBatch (batchOf generatorId proposalId).batchHash
      (batchOf generatorId proposalId).batchId = .ok (batchOf generatorId proposalId) := by
    rcases either with ⟨rfl, rfl⟩ | ⟨rfl, rfl⟩
    · decide +kernel
    · decide +kernel
  refine ⟨⟨Nat.le_add_left 1 7, by simp [batchOf], by simp [batchOf], by simp [batchOf],
    List.nodup_singleton _, List.nodup_singleton _⟩, loads, fun proposal member => ?_⟩
  rw [List.mem_singleton.mp member]
  have read : heldTwo.readPatch "file:///patch" "sha256:patch" "sha256:normal" =
      .ok [43, 120, 10] := by
    decide +kernel
  exact ⟨_, read⟩

theorem twoProposals_presents : ∀ call ∈ twoProposals, call.Presents heldTwo.Holds := by
  intro call member
  simp only [twoProposals, List.mem_cons, List.not_mem_nil, or_false] at member
  rcases member with rfl | rfl | rfl | rfl | rfl | rfl
  · exact True.intro
  · exact True.intro
  · exact True.intro
  · rintro batch ⟨⟩
    exact heldTwo_holds (.inl ⟨rfl, rfl⟩)
  · exact True.intro
  · rintro batch ⟨⟩
    exact heldTwo_holds (.inr ⟨rfl, rfl⟩)

/-- Of two generators that propose one patch, the review accepts the proposal of the first. -/
theorem proposal_dispositions_shared : ∃ trace s status,
    Steps (GenerationStep twoGenerators) {} trace s ∧ generationRunStatus 1 s = .ok status ∧
      Disposed (s.proposalsOf 1) (finalizeProposalDispositions (s.proposalsOf 1)) ∧
      (∃ resolved, resolve twoGenerators heldTwo status 501 = .ok resolved) ∧
      ¬∃ resolved, resolve twoGenerators heldTwo status 502 = .ok resolved := by
  have steps := steps_runGenerationCalls twoGenerators twoProposals {}
  have awaits : (runGenerationCalls twoGenerators twoProposals {}).runs.rows.any (fun run =>
      decide (run.generationRunId = 1) && decide (run.state = .awaitingReview)) = true := by
    decide +kernel
  have retained : (runGenerationCalls twoGenerators twoProposals {}).proposals.rows.map
      (fun proposal => (proposal.generationRunId, proposal.proposalId,
        decide (proposal.disposition = .retained))) = [(1, 501, true), (1, 502, false)] := by
    decide +kernel
  simp only [List.any_eq_true, Bool.and_eq_true, decide_eq_true_eq] at awaits
  obtain ⟨run, member, named, awaits⟩ := awaits
  obtain ⟨laws, reached⟩ := proposal_dispositions twoGenerators heldTwo
  obtain ⟨-, status, shown, -, accepts⟩ :=
    reached _ _ steps twoProposals_presents run member awaits
  rw [named] at shown accepts
  refine ⟨_, _, status, steps, shown, (laws _ (distinct_proposalsOf 1)).1, ?_, ?_⟩
  · have listed : ((1 : Uuid), (501 : Uuid), true) ∈ [((1 : Uuid), (501 : Uuid), true),
        (1, 502, false)] := List.mem_cons_self
    rw [← retained] at listed
    obtain ⟨proposal, stored, same⟩ := List.mem_map.mp listed
    simp only [Prod.mk.injEq, decide_eq_true_eq] at same
    exact (accepts 501).mpr ⟨proposal, mem_proposalsOf.mpr ⟨stored, same.1⟩, same.2.1, same.2.2⟩
  · intro accepted
    obtain ⟨proposal, inRun, same, kept⟩ := (accepts 502).mp accepted
    have listed := List.mem_map_of_mem (f := fun proposal : CandidateProposalRef =>
      (proposal.generationRunId, proposal.proposalId, decide (proposal.disposition = .retained)))
        (mem_proposalsOf.mp inRun).1
    rw [retained, same, kept] at listed
    simp at listed

end Agent

end HcuAutoOpt
