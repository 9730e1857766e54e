import HcuAutoOpt.Agent.ReviewReadiness

/-!
# Accountable tables along every run

The operations of the Agent Generation Authority keep the tables accountable
(`GenerationStore.Accountable`). Most of the work is in a reconciliation: it fails the attempts
whose lease has expired and tries their generators again, and when every generator is finished
it decides about the proposals, counts the rows and leaves the run to its review or failed.
-/

set_option autoImplicit false

namespace HcuAutoOpt

namespace Agent

open Foundation

/-! ## Deciding about the proposals of a run -/

section Dispositions

variable {s : GenerationStore}

theorem mem_split_retained {proposals : List CandidateProposalRef} :
    ((proposals.filter fun proposal => decide (proposal.disposition = .retained)) ++
      proposals.filter fun proposal => !decide (proposal.disposition = .retained)).Perm proposals :=
  List.filter_append_perm _ proposals

/-- The row as `_finalize_proposals` leaves it. -/
def CandidateProposalRef.finalizedIn (proposals : List CandidateProposalRef) (runId : Uuid)
    (proposal : CandidateProposalRef) : CandidateProposalRef :=
  if proposal.generationRunId = runId then
    proposal.finalize (dispositionIn proposals proposal)
  else proposal

/-- **The two passes of updates** write the disposition of every proposal of the run. -/
theorem finalizeProposals_rows (runId : Uuid) : (finalizeProposals runId s).1.proposals.rows =
    s.proposals.rows.map (CandidateProposalRef.finalizedIn (s.proposalsOf runId) runId) := by
  have distinct : Distinct (s.proposalsOf runId) := distinct_proposalsOf runId
  have perm : (((finalizeProposalDispositions (s.proposalsOf runId)).filter fun proposal =>
      decide (proposal.disposition = .retained)) ++
        (finalizeProposalDispositions (s.proposalsOf runId)).filter fun proposal =>
          !decide (proposal.disposition = .retained)).Perm (decided (s.proposalsOf runId)) :=
    mem_split_retained.trans (finalizeProposalDispositions_perm distinct)
  have apart : Distinct _ := distinct.decided.of_perm perm.symm
  have rows := Table.foldl_update_rows (k := CandidateProposalRef.proposalId)
    (f := fun proposal => CandidateProposalRef.finalize proposal.disposition) apart s.proposals
  refine rows.trans (List.map_congr_left fun row stored => ?_)
  unfold CandidateProposalRef.finalizedIn
  by_cases ofRun : row.generationRunId = runId
  · have member : row.withDisposition (dispositionIn (s.proposalsOf runId) row) ∈
        decided (s.proposalsOf runId) :=
      List.mem_map.mpr ⟨row, mem_proposalsOf.mpr ⟨stored, ofRun⟩, rfl⟩
    have found := (find?_eq_some_iff_of_nodup (k := key row) apart).mpr
      ⟨perm.mem_iff.mpr member, rfl⟩
    rw [if_pos ofRun, found]
    rfl
  · rw [if_neg ofRun, List.find?_eq_none.mpr]
    · rfl
    · intro proposal member same
      obtain ⟨before, inRun, rfl⟩ := List.mem_map.mp (perm.mem_iff.mp member)
      obtain ⟨inTable, here⟩ := mem_proposalsOf.mp inRun
      have sameRow : before = row :=
        Table.eq_of_key_eq inTable stored (of_decide_eq_true same)
      exact ofRun (sameRow ▸ here)

theorem CandidateProposalRef.finalizedIn_run (proposals : List CandidateProposalRef)
    (runId : Uuid) (proposal : CandidateProposalRef) :
    (proposal.finalizedIn proposals runId).generationRunId = proposal.generationRunId := by
  unfold finalizedIn finalize
  split
  · split <;> rfl
  · rfl

theorem CandidateProposalRef.finalizedIn_pending (proposals : List CandidateProposalRef)
    (runId : Uuid) (proposal : CandidateProposalRef) :
    (proposal.finalizedIn proposals runId).withDisposition .pending =
      proposal.withDisposition .pending := by
  unfold finalizedIn finalize
  split
  · split <;> rfl
  · rfl

theorem finalizeProposals_proposalsOf (runId other : Uuid) :
    (finalizeProposals runId s).1.proposalsOf other = (s.proposalsOf other).map
      (CandidateProposalRef.finalizedIn (s.proposalsOf runId) runId) := by
  unfold GenerationStore.proposalsOf
  rw [finalizeProposals_rows, List.filter_map]
  congr 1
  refine List.filter_congr fun row _ => ?_
  rw [Function.comp_apply, CandidateProposalRef.finalizedIn_run]

/-- The proposals of other runs stay as they are. -/
theorem finalizeProposals_other {runId other : Uuid} (apart : other ≠ runId) :
    (finalizeProposals runId s).1.proposalsOf other = s.proposalsOf other := by
  rw [finalizeProposals_proposalsOf]
  conv_rhs => rw [← List.map_id (s.proposalsOf other)]
  refine List.map_congr_left fun row member => if_neg fun same => apart ?_
  exact (mem_proposalsOf.mp member).2.symm.trans same

/-- Proposals without a disposition get the one that is decided. -/
theorem finalizeProposals_own {runId : Uuid} (undecided : s.Undecided runId) :
    (finalizeProposals runId s).1.proposalsOf runId = decided (s.proposalsOf runId) := by
  rw [finalizeProposals_proposalsOf]
  refine List.map_congr_left fun row member => ?_
  unfold CandidateProposalRef.finalizedIn
  rw [if_pos (mem_proposalsOf.mp member).2]
  exact if_pos (undecided row member)

/-- **The stored dispositions are those of all proposals of the run.** -/
theorem finalizeProposals_decided {runId : Uuid} (undecided : s.Undecided runId) :
    ((finalizeProposals runId s).1.proposalsOf runId).Perm
      (finalizeProposalDispositions ((finalizeProposals runId s).1.proposalsOf runId)) := by
  have distinct : Distinct (s.proposalsOf runId) := distinct_proposalsOf runId
  have again := finalizeProposalDispositions_perm distinct.decided
  rw [decided_decided distinct] at again
  rw [finalizeProposals_own undecided]
  exact again.symm

/-- The number it returns counts the retained proposals. -/
theorem finalizeProposals_count {runId : Uuid} (undecided : s.Undecided runId) :
    (finalizeProposals runId s).2 = (((finalizeProposals runId s).1.proposalsOf runId).filter
      fun proposal => decide (proposal.disposition = .retained)).length := by
  rw [finalizeProposals_own undecided]
  exact ((finalizeProposalDispositions_perm (distinct_proposalsOf runId)).filter _).length_eq

/-- Only dispositions change. -/
theorem finalizeProposals_redecides (runId : Uuid) :
    s.Redecides (finalizeProposals runId s).1 runId where
  runs := rfl
  attempts := rfl
  proposals proposal member := by
    rw [Table.mem_rows, finalizeProposals_rows, List.mem_map] at member
    obtain ⟨before, stored, rfl⟩ := member
    exact ⟨before, stored, CandidateProposalRef.finalizedIn_pending _ _ _⟩
  others _ := finalizeProposals_other

end Dispositions

/-! ## Reconciliations -/

section Reconciliations

variable {s s' : GenerationStore} {ids : Identities} {Held : CandidateProposalBatch → Prop}
variable {run : GenerationRun} {now : Timestamp}

theorem loadAttempts_eq_ok {rows attempts : List GeneratorAttempt}
    (ok : rows.mapM loadAttempt = .ok attempts) : attempts = rows := by
  have loaded := mapM_ok_iff.mp ok
  induction loaded with
  | nil => rfl
  | cons first _ ih => rw [(loadAttempt_eq_ok.mp first).2, ih (mapM_ok_iff.mpr ‹_›)]

/-- Every attempt was there with its run, and none has succeeded since. -/
def GenerationStore.NoNewSuccess (s s' : GenerationStore) : Prop :=
  ∀ attempt ∈ s'.attempts, ∃ before ∈ s.attempts, before.attemptId = attempt.attemptId ∧
    before.generationRunId = attempt.generationRunId ∧
      (attempt.state = .succeeded → before.state = .succeeded)

/-- Failing the attempts whose lease has expired. -/
theorem GenerationStore.Accountable.failStaleAttempts (accountable : s.Accountable ids Held)
    (stored : s.runs.find? run.generationRunId = some run) (collects : run.Collects)
    (ok : Agent.failStaleAttempts now (s.attemptsOf run.generationRunId) s = .ok s') :
    s'.Accountable ids Held ∧ s'.runs = s.runs := by
  have kept := foldlM_keeps (P := fun t : GenerationStore =>
    t.Accountable ids Held ∧ t.runs = s.runs ∧ s.NoNewSuccess t) ?_
      ⟨accountable, rfl, fun attempt member => ⟨attempt, member, rfl, rfl, id⟩⟩ ok
  · exact ⟨kept.1, kept.2.1⟩
  rintro attempt member t u ⟨accountable', sameRuns, descends⟩ turn
  obtain ⟨inTable, ofRun⟩ := mem_attemptsOf.mp member
  split at turn
  case isFalse =>
    cases turn
    exact ⟨accountable', sameRuns, descends⟩
  case isTrue stale =>
    cases written : Agent.writeAttempt attempt.attemptId (GeneratorAttempt.failStale now) t with
    | error e => simp [written, Except.map] at turn
    | ok pair =>
        obtain ⟨t', row⟩ := pair
        simp only [written, Except.map, Except.ok.injEq] at turn
        subst turn
        obtain ⟨old, found, -, -, same, -⟩ := writeAttempt_eq_ok.mp written
        obtain ⟨before, inTable', sameId, sameRun, successes⟩ :=
          descends old (Table.mem_of_find? found)
        obtain rfl : attempt = before := Table.eq_of_key_eq inTable inTable'
          ((Table.key_of_find? found).symm.trans sameId.symm)
        refine ⟨accountable'.writeAttempt written found ?_ (fun _ => rfl) ?_, ?_, ?_⟩
        · intro succeeded
          have running := stale.1
          rw [successes succeeded] at running
          cases running
        · intro other member' ofOld
          rw [sameRuns] at member'
          obtain rfl : run = other := Table.eq_of_key_eq (Table.mem_of_find? stored) member'
            (ofRun.symm.trans (sameRun.trans ofOld.symm))
          exact collects.not_awaiting
        · rw [same]
          exact sameRuns
        · intro other member'
          rw [same] at member'
          obtain ⟨previous, inTable'', rfl⟩ := Table.mem_update.mp member'
          obtain ⟨first, atFirst, firstId, firstRun, firstSuccess⟩ := descends previous inTable''
          refine ⟨first, atFirst, ?_⟩
          split
          · exact ⟨firstId, firstRun, fun failed => by cases failed⟩
          · exact ⟨firstId, firstRun, firstSuccess⟩

/-- What the last attempt of a generator is. -/
theorem latestAttempt_eq_ok {attempts own : List GeneratorAttempt} {ordinal : Nat}
    {generator : GeneratorPlanEntry} {latest : GeneratorAttempt}
    (sorted : attempts.Pairwise GeneratorAttempt.Before)
    (ok : latestAttempt run attempts ordinal = .ok (generator, own, latest)) :
    own = attempts.filter (fun attempt => decide (attempt.generatorOrdinal = ordinal)) ∧
      latest ∈ attempts ∧ latest.generatorOrdinal = ordinal ∧
      run.plan.generators[ordinal]? = some generator ∧
      ∀ attempt ∈ attempts, attempt.generatorOrdinal = ordinal → attempt.Before latest := by
  simp only [latestAttempt, Except.bind_eq_ok, requireSome_eq_ok] at ok
  obtain ⟨last, found, entry, planned, same⟩ := ok
  cases same
  obtain ⟨before, split⟩ := List.getLast?_eq_some_iff.mp found
  have chosen : latest ∈ attempts.filter fun attempt =>
      decide (attempt.generatorOrdinal = ordinal) := by
    rw [split]
    exact List.mem_append_right _ (List.mem_singleton_self _)
  obtain ⟨member, ofOrdinal⟩ := List.mem_filter.mp chosen
  refine ⟨rfl, member, of_decide_eq_true ofOrdinal, planned, fun attempt inList same => ?_⟩
  have ordered := sorted.filter fun attempt => decide (attempt.generatorOrdinal = ordinal)
  have place : attempt ∈ attempts.filter fun attempt =>
      decide (attempt.generatorOrdinal = ordinal) :=
    List.mem_filter.mpr ⟨inList, decide_eq_true same⟩
  rw [split] at ordered place
  rcases List.mem_append.mp place with earlier | itself
  · exact (List.pairwise_append.mp ordered).2.2 attempt earlier _ (List.mem_singleton_self _)
  · rw [List.mem_singleton.mp itself]
    exact (Std.Total.total latest latest : latest.Before latest ∨ latest.Before latest).elim id id

/-- Trying a generator again adds an attempt of that generator, if any. -/
theorem GenerationStore.Accountable.retryGenerator {attempts : List GeneratorAttempt}
    {ordinal : Nat} (accountable : s.Accountable ids Held)
    (stored : s.runs.find? run.generationRunId = some run) (collects : run.Collects)
    (sorted : attempts.Pairwise GeneratorAttempt.Before)
    (known : ∀ attempt, attempt.generatorOrdinal = ordinal →
      (attempt ∈ s.attemptsOf run.generationRunId ↔ attempt ∈ attempts))
    (ok : Agent.retryGenerator ids run attempts now s ordinal = .ok s') :
    s'.Accountable ids Held ∧ s'.runs = s.runs ∧ ∀ attempt, attempt.generatorOrdinal ≠ ordinal →
      (attempt ∈ s'.attemptsOf run.generationRunId ↔
        attempt ∈ s.attemptsOf run.generationRunId) := by
  obtain ⟨⟨generator, own, latest⟩, found, ok⟩ := Except.bind_eq_ok.mp ok
  obtain ⟨-, member, ofOrdinal, planned, last⟩ := latestAttempt_eq_ok sorted found
  dsimp only at ok
  split at ok
  case isFalse =>
    cases ok
    exact ⟨accountable, rfl, fun _ _ => Iff.rfl⟩
  case isTrue retries =>
    simp only [Agent.insertRetry, Except.bind_eq_ok, requireSome_eq_ok, loadAttempt_eq_ok] at ok
    obtain ⟨entry, planned', attempt, ⟨valid, rfl⟩, inserted⟩ := ok
    have atLatest := mem_attemptsOf.mp ((known latest ofOrdinal).mpr member)
    have ordered := ((accountable.consistent run (Table.mem_of_find? stored)).collecting
      collects).1
    have number : ∀ attempt ∈ s.attemptsOf run.generationRunId,
        attempt.generatorOrdinal = ordinal → attempt.attemptNumber ≤ latest.attemptNumber := by
      intro attempt inRun same
      have before := last attempt ((known attempt same).mp inRun) same
      unfold GeneratorAttempt.Before at before
      omega
    refine ⟨accountable.insertAttempt stored collects valid
      (buildPendingAttempt_placed planned') ?_ ?_ inserted, ?_, ?_⟩
    · exact fun attempt inRun same => (number attempt inRun same).trans (Nat.le_succ _)
    · intro attempt inRun same earlier
      rcases Nat.lt_or_eq_of_le (number attempt inRun same) with less | equal
      · exact ordered attempt inRun latest ((known latest ofOrdinal).mpr member)
          (same.trans ofOrdinal.symm) less
      · obtain ⟨inTable, ofRun⟩ := mem_attemptsOf.mp inRun
        have itself : attempt = latest := GeneratorAttempt.eq_of_before accountable.sound inTable
          atLatest.1 (ofRun.trans atLatest.2.symm)
          (.inr ⟨same.trans ofOrdinal.symm, equal.le⟩)
          (.inr ⟨ofOrdinal.trans same.symm, equal.ge⟩)
        rw [itself]
        exact retries.2.1
    · obtain ⟨-, -, -, rfl⟩ := insertAttempt_eq_ok.mp inserted
      rfl
    · obtain ⟨-, -, -, rfl⟩ := insertAttempt_eq_ok.mp inserted
      intro attempt apart
      simp only [mem_attemptsOf, Table.mem_insertIfAbsent]
      constructor
      · rintro ⟨old | ⟨-, rfl⟩, ofRun⟩
        · exact ⟨old, ofRun⟩
        · exact absurd rfl apart
      · rintro ⟨old, ofRun⟩
        exact ⟨.inl old, ofRun⟩

/-- Every generator is tried again at most once, so the attempts that were read show what is
there of the generators that are left. -/
theorem GenerationStore.Accountable.retryGenerators {attempts : List GeneratorAttempt}
    {ordinals : List Nat} (distinct : ordinals.Nodup) (accountable : s.Accountable ids Held)
    (stored : s.runs.find? run.generationRunId = some run) (collects : run.Collects)
    (sorted : attempts.Pairwise GeneratorAttempt.Before)
    (known : ∀ ordinal ∈ ordinals, ∀ attempt, attempt.generatorOrdinal = ordinal →
      (attempt ∈ s.attemptsOf run.generationRunId ↔ attempt ∈ attempts))
    (ok : ordinals.foldlM (Agent.retryGenerator ids run attempts now) s = .ok s') :
    s'.Accountable ids Held ∧ s'.runs = s.runs := by
  induction ordinals generalizing s with
  | nil =>
      cases ok
      exact ⟨accountable, rfl⟩
  | cons ordinal ordinals ih =>
      obtain ⟨fresh, distinct⟩ := List.nodup_cons.mp distinct
      obtain ⟨t, turn, rest⟩ := Except.bind_eq_ok.mp ok
      obtain ⟨accountable', sameRuns, others⟩ := accountable.retryGenerator stored collects sorted
        (known ordinal List.mem_cons_self) turn
      obtain ⟨final, sameRuns'⟩ := ih distinct accountable' (sameRuns ▸ stored)
        (fun other later attempt ofOther => (others attempt fun same =>
          fresh (same.symm.trans ofOther ▸ later)).trans
            (known other (List.mem_cons_of_mem _ later) attempt ofOther)) rest
      exact ⟨final, sameRuns'.trans sameRuns⟩

/-- **When every generator is finished**, every attempt of the run has ended. -/
theorem ended_of_finished (accountable : s.Accountable ids Held)
    (stored : s.runs.find? run.generationRunId = some run) (collects : run.Collects)
    (finished : ∀ ordinal < run.plannedGeneratorCount,
      generatorFinished run (s.attemptsOf run.generationRunId) ordinal = .ok true) :
    (∀ attempt ∈ s.attemptsOf run.generationRunId, attempt.state.terminal = true) ∧
      ∀ ordinal < run.plannedGeneratorCount, ∃ attempt ∈ s.attemptsOf run.generationRunId,
        attempt.generatorOrdinal = ordinal := by
  have member := Table.mem_of_find? stored
  have sorted := List.pairwise_insertionSort GeneratorAttempt.Before (s.attempts.rows.filter
    fun attempt => decide (attempt.generationRunId = run.generationRunId))
  have ordered := ((accountable.consistent run member).collecting collects).1
  have last : ∀ ordinal < run.plannedGeneratorCount, ∃ latest ∈ s.attemptsOf run.generationRunId,
      latest.generatorOrdinal = ordinal ∧ latest.state.terminal = true ∧
        ∀ attempt ∈ s.attemptsOf run.generationRunId, attempt.generatorOrdinal = ordinal →
          attempt = latest ∨ attempt.state = .failed := by
    intro ordinal planned
    obtain ⟨⟨generator, own, latest⟩, found, ok⟩ :=
      Except.bind_eq_ok.mp (finished ordinal planned)
    obtain ⟨rfl, atLatest, ofOrdinal, -, before⟩ := latestAttempt_eq_ok sorted found
    have others : ∀ attempt ∈ s.attemptsOf run.generationRunId,
        attempt.generatorOrdinal = ordinal → attempt = latest ∨ attempt.state = .failed := by
      intro attempt inRun same
      have first := before attempt inRun same
      by_cases less : attempt.attemptNumber < latest.attemptNumber
      · exact .inr (ordered attempt inRun latest atLatest (same.trans ofOrdinal.symm) less)
      · refine .inl (GeneratorAttempt.eq_of_before accountable.sound
          (mem_attemptsOf.mp inRun).1 (mem_attemptsOf.mp atLatest).1
          ((mem_attemptsOf.mp inRun).2.trans (mem_attemptsOf.mp atLatest).2.symm) first ?_)
        exact .inr ⟨ofOrdinal.trans same.symm, Nat.not_lt.mp less⟩
    refine ⟨latest, atLatest, ofOrdinal, ?_, others⟩
    have done : (anySucceeded ((s.attemptsOf run.generationRunId).filter fun attempt =>
        decide (attempt.generatorOrdinal = ordinal)) ||
        (decide (latest.state = .failed ∨ latest.state = .cancelled) &&
          decide (generator.maxAttempts ≤ latest.attemptNumber))) = true := by
      injection ok
    rw [Bool.or_eq_true, Bool.and_eq_true, decide_eq_true_eq] at done
    rcases done with succeeded | ⟨failed | cancelled, -⟩
    · obtain ⟨attempt, chosen, success⟩ := List.any_eq_true.mp succeeded
      obtain ⟨inRun, same⟩ := List.mem_filter.mp chosen
      rcases others attempt inRun (of_decide_eq_true same) with rfl | failed
      · rw [of_decide_eq_true success]
        rfl
      · rw [failed] at success
        cases success
    · rw [failed]
      rfl
    · rw [cancelled]
      rfl
  refine ⟨fun attempt inRun => ?_, fun ordinal planned => ?_⟩
  · obtain ⟨latest, -, -, terminal, others⟩ := last _ (accountable.ordinal_lt member inRun)
    rcases others attempt inRun rfl with rfl | failed
    · exact terminal
    · rw [failed]
      rfl
  · obtain ⟨latest, atLatest, ofOrdinal, -⟩ := last ordinal planned
    exact ⟨latest, atLatest, ofOrdinal⟩

/-- **The summary of a run** says what its rows are. -/
theorem GenerationStore.Accountable.summarizeRun {budgetFits : Bool} {run' : GenerationRun}
    (accountable : s.Accountable ids Held)
    (stored : s.runs.find? run.generationRunId = some run) (collects : run.Collects)
    (ok : Agent.summarizeRun run budgetFits now s = .ok (s', run')) : s'.Accountable ids Held := by
  have consistent := accountable.consistent run (Table.mem_of_find? stored)
  obtain ⟨ordered, undecided⟩ := consistent.collecting collects
  obtain ⟨attempts, loaded, ok⟩ := Except.bind_eq_ok.mp ok
  obtain rfl := loadAttempts_eq_ok loaded
  obtain ⟨finished, judged, ok⟩ := Except.bind_eq_ok.mp ok
  dsimp only at ok
  split at ok
  case isTrue all =>
    obtain ⟨-, -, ok⟩ := Except.bind_eq_ok.mp ok
    have judgements := mapM_ok_iff.mp judged
    have length : finished.length = run.plannedGeneratorCount := by
      rw [← judgements.length_eq, List.length_range]
    have everyOne : ∀ done ∈ finished, true = done :=
      List.count_eq_length.mp ((of_decide_eq_true all).trans length.symm)
    obtain ⟨ended, covered⟩ := ended_of_finished accountable stored collects fun ordinal planned => by
      obtain ⟨done, member, judgement⟩ :=
        exists_of_forall₂ judgements.flip (List.mem_range.mpr planned)
      rw [everyOne done member]
      exact judgement
    refine accountable.writeRun (finalizeProposals_redecides run.generationRunId) ?_ ok
    intro before found
    cases Option.some.inj (found.symm.trans stored)
    have counted : ((s.attemptsOf run.generationRunId).filter fun attempt =>
        attempt.state.terminal) = s.attemptsOf run.generationRunId :=
      List.filter_eq_self.mpr ended
    have sameCount : (s.proposalsOf run.generationRunId).length =
        ((finalizeProposals run.generationRunId s).1.proposalsOf run.generationRunId).length := by
      rw [finalizeProposals_own undecided, decided, List.length_map]
    refine ⟨fun collects' => ?_, fun _ => ⟨ended, covered, rfl, congrArg List.length counted,
      sameCount, finalizeProposals_count undecided, finalizeProposals_decided undecided⟩⟩
    exfalso
    simp only [GenerationRun.Collects, GenerationRun.summarized, all, Bool.true_and] at collects'
    split at collects' <;> simp at collects'
  case isFalse some =>
    obtain ⟨-, -, ok⟩ := Except.bind_eq_ok.mp ok
    refine accountable.writeRun (.refl s _) ?_ ok
    intro before found
    cases Option.some.inj (found.symm.trans stored)
    refine ⟨fun _ => ⟨ordered, undecided⟩, fun awaits => ?_⟩
    exfalso
    simp [GenerationRun.summarized, some] at awaits

/-- A reconciliation of a run that is running. -/
theorem GenerationStore.Accountable.reconcileRunning {budgetFits : Bool} {run' : GenerationRun}
    (accountable : s.Accountable ids Held)
    (stored : s.runs.find? run.generationRunId = some run) (collects : run.Collects)
    (ok : Agent.reconcileRunning ids run budgetFits now s = .ok (s', run')) :
    s'.Accountable ids Held := by
  simp only [Agent.reconcileRunning, Except.bind_eq_ok, require_eq_ok, exists_const] at ok
  obtain ⟨attempts, loaded, t, failed, attempts', loaded', -, u, retried, ok⟩ := ok
  obtain rfl := loadAttempts_eq_ok loaded
  obtain rfl := loadAttempts_eq_ok loaded'
  obtain ⟨afterFailing, sameRuns⟩ := accountable.failStaleAttempts stored collects failed
  obtain ⟨afterRetrying, sameRuns'⟩ := afterFailing.retryGenerators List.nodup_range
    (sameRuns ▸ stored) collects (List.pairwise_insertionSort _ _)
    (fun _ _ _ _ => Iff.rfl) retried
  exact afterRetrying.summarizeRun (sameRuns'.trans sameRuns ▸ stored) collects ok

/-- **A reconciliation keeps the tables accountable.** -/
theorem GenerationStore.Accountable.reconcileLocked {budgetFits : Bool} {run' : GenerationRun}
    (accountable : s.Accountable ids Held)
    (stored : s.runs.find? run.generationRunId = some run)
    (ok : reconcileGenerationRunLocked ids run budgetFits now s = .ok (s', run')) :
    s'.Accountable ids Held := by
  simp only [reconcileGenerationRunLocked, Except.bind_eq_ok, loadRun_eq_ok] at ok
  obtain ⟨row, ⟨-, rfl⟩, ok⟩ := ok
  split at ok
  case h_5 created =>
    obtain ⟨⟨t, next⟩, written, ok⟩ := Except.bind_eq_ok.mp ok
    have accountable' : t.Accountable ids Held := by
      refine accountable.writeRun (.refl s _) ?_ written
      intro before found
      cases Option.some.inj (found.symm.trans stored)
      exact ⟨fun _ => (accountable.consistent row (Table.mem_of_find? stored)).collecting
        (.inl created), fun awaits => by cases awaits⟩
    obtain ⟨old, found, -, -, rfl, rfl⟩ := writeRun_eq_ok.mp written
    cases Option.some.inj (found.symm.trans stored)
    refine accountable'.reconcileRunning ?_ (.inr rfl) ok
    exact (Table.find?_update_self _).trans (by rw [stored]; rfl)
  case h_6 running => exact accountable.reconcileRunning stored (.inr running) ok
  all_goals
    cases ok
    exact accountable

end Reconciliations

/-! ## Calls -/

/-- A call settles attempts with batches that are valid and held. -/
def GenerationCall.Presents (Held : CandidateProposalBatch → Prop) : GenerationCall → Prop
  | .settle _ _ _ _ settlement => ∀ batch ∈ settlement.batch, batch.Valid ∧ Held batch
  | _ => True

section Calls

variable {s s' : GenerationStore} {ids : Identities} {Held : CandidateProposalBatch → Prop}
variable {run : GenerationRun} {now : Timestamp}

theorem GenerationStore.accountable_empty :
    ({} : GenerationStore).Accountable ids Held where
  sound := GenerationStore.sound_empty
  authority run member := absurd member (Table.not_mem_empty run)
  sourced proposal member := absurd member (Table.not_mem_empty proposal)
  consistent run member := absurd member (Table.not_mem_empty run)

/-- A run that is new has no attempts and no proposals. -/
theorem GenerationStore.Accountable.insertRun (accountable : s.Accountable ids Held)
    (valid : run.Valid) (authority : run.Authoritative ids) (collects : run.Collects)
    (fresh : s.runs.find? run.generationRunId = none) :
    ({ s with runs := s.runs.insertIfAbsent run } : GenerationStore).Accountable ids Held ∧
      s.attemptsOf run.generationRunId = [] := by
  have unknown : ∀ other ∈ s.runs, other.generationRunId ≠ run.generationRunId :=
    Table.find?_eq_none_iff.mp fresh
  have noAttempts : s.attemptsOf run.generationRunId = [] := by
    refine List.eq_nil_iff_forall_not_mem.mpr fun attempt member => ?_
    obtain ⟨stored, ofRun⟩ := mem_attemptsOf.mp member
    obtain ⟨other, inRuns, belongs, -⟩ := accountable.sound.placed attempt stored
    exact unknown other inRuns (belongs.1.trans ofRun)
  have noProposals : s.proposalsOf run.generationRunId = [] := by
    refine List.eq_nil_iff_forall_not_mem.mpr fun proposal member => ?_
    obtain ⟨stored, ofRun⟩ := mem_proposalsOf.mp member
    obtain ⟨other, attempt, generator, batch, -, -, source⟩ := accountable.sourced proposal stored
    exact unknown other source.storedRun (source.ofRun.symm.trans ofRun)
  have extension : s.Extends { s with runs := s.runs.insertIfAbsent run } :=
    ⟨fun other stored => ⟨other, Table.mem_insertIfAbsent.mpr (.inl stored), .refl other⟩,
      fun attempt stored _ => stored⟩
  refine ⟨accountable.turn run.generationRunId (accountable.sound.insertRun valid fresh).1 ?_
    (fun proposal stored => (accountable.sourced proposal stored).extends extension rfl)
    (fun other apart => ⟨Table.find?_insertIfAbsent_ne apart.symm, rfl, rfl⟩) ?_, noAttempts⟩
  · intro other member
    rcases Table.mem_insertIfAbsent.mp member with old | ⟨-, rfl⟩
    · exact accountable.authority other old
    · exact authority
  · intro other member same
    rcases Table.mem_insertIfAbsent.mp member with old | ⟨-, rfl⟩
    · exact absurd same (unknown other old)
    · refine ⟨fun _ => ⟨fun earlier inRun => ?_, fun proposal inRun => ?_⟩,
        fun awaits => absurd awaits collects.not_awaiting⟩
      · exact absurd (noAttempts ▸ inRun : earlier ∈ ([] : List GeneratorAttempt))
          List.not_mem_nil
      · exact absurd (noProposals ▸ inRun : proposal ∈ ([] : List CandidateProposalRef))
          List.not_mem_nil

/-- **Starting a run.** -/
theorem GenerationStore.Accountable.startGenerationRun {start : GenerationRunStartRequest}
    {reply : GenerationRun × Bool} (accountable : s.Accountable ids Held)
    (ok : Agent.startGenerationRun ids now start s = .ok (s', reply)) :
    s'.Accountable ids Held := by
  obtain ⟨⟨run, attempts⟩, built, ok⟩ := Except.bind_eq_ok.mp ok
  simp only [Except.bind_eq_ok, require_eq_ok, exists_const] at ok
  obtain ⟨valid, validAttempts, ok⟩ := ok
  obtain ⟨rfl, rfl⟩ := buildGenerationRunStart_eq_ok (mapError_eq_ok.mp built)
  simp only [Agent.createGenerationRun, Except.bind_eq_ok, require_eq_ok, exists_const] at ok
  obtain ⟨-, -, ok⟩ := ok
  split at ok
  case h_1 empty =>
    obtain ⟨t, inserted, ok⟩ := Except.bind_eq_ok.mp ok
    cases ok
    have fresh : s.runs.find? (start.run ids now).generationRunId = none := by
      rw [Table.find?_eq_none_iff]
      intro other member same
      exact List.filter_eq_nil_iff.mp empty other member (decide_eq_true (.inl same))
    have authority : (start.run ids now).Authoritative ids := ⟨rfl, rfl⟩
    obtain ⟨accountable', none⟩ := accountable.insertRun valid authority (.inl rfl) fresh
    have stored := Table.find?_insertIfAbsent_self s.runs (start.run ids now)
    refine (foldlM_keeps (P := fun t : GenerationStore => t.Accountable ids Held ∧
      t.runs.find? (start.run ids now).generationRunId = some (start.run ids now) ∧
        ∀ attempt ∈ t.attemptsOf (start.run ids now).generationRunId,
          attempt.attemptNumber = 1) ?_ ⟨accountable', ?_, ?_⟩ inserted).1
    · rintro attempt member t u ⟨accountable, stored, first⟩ turn
      have placed := startAttempts_placed member
      have number : attempt.attemptNumber = 1 := by
        obtain ⟨⟨generator, ordinal⟩, -, rfl⟩ := List.mem_map.mp member
        rfl
      refine ⟨accountable.insertAttempt stored (.inl rfl) (validAttempts attempt member) placed
        (fun other inRun _ => ((first other inRun).trans number.symm).le) ?_ turn, ?_, ?_⟩
      · intro other inRun _ earlier
        rw [first other inRun, number] at earlier
        exact absurd earlier (Nat.lt_irrefl 1)
      · obtain ⟨-, -, -, rfl⟩ := insertAttempt_eq_ok.mp turn
        exact stored
      · obtain ⟨-, -, -, rfl⟩ := insertAttempt_eq_ok.mp turn
        intro other inRun
        obtain ⟨inTable, ofRun⟩ := mem_attemptsOf.mp inRun
        rcases Table.mem_insertIfAbsent.mp inTable with old | ⟨-, rfl⟩
        · exact first other (mem_attemptsOf.mpr ⟨old, ofRun⟩)
        · exact number
    · exact Table.find?_of_mem (Table.mem_insertIfAbsent.mpr (.inr ⟨fresh, rfl⟩))
    · intro attempt inRun
      exact absurd (none ▸ inRun : attempt ∈ ([] : List GeneratorAttempt)) List.not_mem_nil
  case h_2 =>
    simp only [Except.bind_eq_ok, require_eq_ok, exists_const] at ok
    obtain ⟨stored, -, -, ok⟩ := ok
    cases ok
    exact accountable
  case h_3 => cases ok

/-- **Claiming an attempt**, which was pending. -/
theorem GenerationStore.Accountable.claimGenerationAttempt {claimToken : Uuid}
    {locks : GenerationLocks} {workerId : String} {leaseSeconds : Int} {only : Option Uuid}
    {reply : Option GenerationAttemptClaim} (accountable : s.Accountable ids Held)
    (ok : Agent.claimGenerationAttempt now claimToken locks workerId leaseSeconds only s =
      .ok (s', reply)) : s'.Accountable ids Held := by
  simp only [Agent.claimGenerationAttempt, Except.bind_eq_ok, require_eq_ok, exists_const] at ok
  obtain ⟨-, -, found, -, ok⟩ := ok
  cases found with
  | none =>
      cases ok
      exact accountable
  | some run =>
      dsimp only at ok
      split at ok
      · cases ok
        exact accountable
      · rename_i row chosen
        simp only [Agent.claimPending, Except.bind_eq_ok, require_eq_ok, exists_const,
          loadAttempt_eq_ok] at ok
        obtain ⟨pending, ⟨-, rfl⟩, generator, -, -, ⟨t, attempt⟩, written, -, ok⟩ := ok
        cases ok
        have member := (List.perm_insertionSort _ _).mem_iff.mp (List.mem_of_head? chosen)
        simp only [List.mem_filter, Bool.and_eq_true, decide_eq_true_eq] at member
        obtain ⟨stored, ⟨-, waits⟩, -⟩ := member
        refine accountable.writeAttempt written (Table.find?_of_mem stored) ?_ ?_ ?_
        · rw [waits]
          decide
        · rw [waits]
          intro failed
          cases failed
        · intro run inRuns ofRun
          exact accountable.early_of_open stored (by rw [waits]; rfl) inRuns ofRun

theorem boundAttempt_planned {attemptId : Uuid} {attempt : GeneratorAttempt}
    {generator : GeneratorPlanEntry}
    (ok : s.boundAttempt attemptId = .ok (attempt, run, generator)) :
    run.plan.generators[attempt.generatorOrdinal]? = some generator := by
  simp only [GenerationStore.boundAttempt, Except.bind_eq_ok, requireRow_eq_ok, loadRun_eq_ok,
    loadAttempt_eq_ok, requireSome_eq_ok] at ok
  obtain ⟨row, -, runRow, -, _, ⟨-, rfl⟩, _, ⟨-, rfl⟩, entry, planned, same⟩ := ok
  cases same
  exact planned

theorem GenerationStore.Accountable.reportStale {budgetFits : Bool} {attempt : GeneratorAttempt}
    {message : String} {reply : Except Error GeneratorAttempt}
    (accountable : s.Accountable ids Held)
    (stored : s.runs.find? run.generationRunId = some run)
    (ok : Agent.reportStale ids now budgetFits attempt run message s = .ok (s', reply)) :
    s'.Accountable ids Held := by
  simp only [Agent.reportStale] at ok
  split at ok
  · obtain ⟨⟨t, run'⟩, reconciled, ok⟩ := Except.bind_eq_ok.mp ok
    cases ok
    exact accountable.reconcileLocked stored reconciled
  · cases ok
    exact accountable

theorem GeneratorAttempt.HeldBy.running {attempt : GeneratorAttempt} {claimToken : Uuid}
    (held : attempt.HeldBy claimToken now) :
    attempt.state ≠ .succeeded ∧ attempt.state ≠ .failed ∧ attempt.state.terminal = false := by
  rw [held.1]
  exact ⟨by decide, by decide, rfl⟩

/-- **Renewing a claim.** -/
theorem GenerationStore.Accountable.renewGenerationAttemptClaim {budgetFits : Bool}
    {attemptId claimToken : Uuid} {leaseSeconds : Int} {reply : Except Error GeneratorAttempt}
    (accountable : s.Accountable ids Held) (ok : Agent.renewGenerationAttemptClaim ids now
      budgetFits attemptId claimToken leaseSeconds s = .ok (s', reply)) :
    s'.Accountable ids Held := by
  obtain ⟨-, -, ok⟩ := Except.bind_eq_ok.mp ok
  obtain ⟨⟨attempt, run, generator⟩, bound, ok⟩ := Except.bind_eq_ok.mp ok
  obtain ⟨-, -, ok⟩ := Except.bind_eq_ok.mp ok
  obtain ⟨found, foundRun⟩ := boundAttempt_eq_ok bound
  dsimp only at ok
  split at ok
  case isTrue held =>
    obtain ⟨⟨t, row⟩, written, ok⟩ := Except.bind_eq_ok.mp ok
    cases ok
    obtain ⟨unsettled, unfailed, unfinished⟩ := held.running
    exact accountable.writeAttempt written found unsettled (fun failed => absurd failed unfailed)
      fun run inRuns ofRun =>
        accountable.early_of_open (Table.mem_of_find? found) unfinished inRuns ofRun
  case isFalse => exact accountable.reportStale (Table.find?_of_mem (Table.mem_of_find? foundRun)) ok

/-- **Completing a review.** -/
theorem GenerationStore.Accountable.completeGenerationReview {runId : Uuid}
    {evidence : ReviewEvidence} {reply : GenerationRun} (accountable : s.Accountable ids Held)
    (ok : Agent.completeGenerationReview now runId evidence s = .ok (s', reply)) :
    s'.Accountable ids Held := by
  obtain ⟨row, -, ok⟩ := Except.bind_eq_ok.mp ok
  obtain ⟨run, -, ok⟩ := Except.bind_eq_ok.mp ok
  split at ok
  · obtain ⟨-, -, ok⟩ := Except.bind_eq_ok.mp ok
    cases ok
    exact accountable
  · obtain ⟨-, -, ok⟩ := Except.bind_eq_ok.mp ok
    refine accountable.writeRun (.refl s _) (fun run _ => ⟨fun collects => ?_, fun awaits => ?_⟩) ok
    · rcases collects with created | running
      · cases created
      · cases running
    · cases awaits

/-- The references a settlement stores come from the attempt it settles. -/
theorem Settlement.refs_sourced {settlement : Settlement} {attempt : GeneratorAttempt}
    {generator : GeneratorPlanEntry} {refs : List CandidateProposalRef}
    (presented : ∀ batch ∈ settlement.batch, batch.Valid ∧ Held batch)
    (published : settlement.batch.isNone = settlement.batchUri.isNone)
    (ok : settlement.refs ids run attempt generator = .ok refs) (storedRun : run ∈ s.runs)
    (storedAttempt : attempt.settled settlement now ∈ s.attempts)
    (planned : run.plan.generators[attempt.generatorOrdinal]? = some generator) :
    ∀ ref ∈ refs, ref.generationRunId = run.generationRunId ∧ ref.disposition = .pending ∧
      s.Sourced ids Held ref := by
  unfold Settlement.refs at ok
  split at ok
  case h_1 =>
    cases ok
    exact fun ref member => absurd member List.not_mem_nil
  case h_2 batch presents =>
    obtain ⟨all, built, ok⟩ := Except.bind_eq_ok.mp ok
    have built := mapError_eq_ok.mp built
    split at ok
    case isFalse =>
      cases ok
      exact fun ref member => absurd member List.not_mem_nil
    case isTrue within =>
      cases ok
      intro ref member
      obtain ⟨valid, held⟩ := presented batch presents
      obtain ⟨proposal, inBatch, same⟩ := mem_proposalRefsForBatch built member
      obtain ⟨batchUri, uri⟩ : ∃ batchUri, settlement.batchUri = some batchUri := by
        rw [presents] at published
        exact Option.isSome_iff_exists.mp (Option.isNone_eq_false_iff.mp published.symm)
      have unfailed : batch.status ≠ .failed := fun failed =>
        absurd (valid.members.mp failed ▸ inBatch) List.not_mem_nil
      have noError : settlement.error = none := by
        simp [Settlement.error, presents, within, unfailed]
      let binding : BatchBinding :=
        { batchId := batch.batchId, batchUri, batchHash := batch.batchHash,
          batchStatus := batch.status, rawOutputUri := batch.rawOutputUri,
          rawOutputHash := batch.rawOutputHash, adapterProvenance := batch.adapterProvenance }
      have bound : settlement.batchBinding = some binding := by
        simp only [Settlement.batchBinding, presents, uri, binding]
      refine ⟨?_, same ▸ rfl, run, attempt.settled settlement now, generator, batch, valid,
        held, storedRun, storedAttempt, if_pos noError, planned,
        ⟨binding, bound, rfl, rfl, rfl, rfl, rfl, rfl⟩, refs, built, ?_⟩
      · rw [same]
        exact (proposalRefsForBatch_eq_ok built).1
      · rw [same] at member ⊢
        exact member

/-- **Settling an attempt** stores its proposals before the run is reconciled. -/
theorem GenerationStore.Accountable.settleGenerationAttempt {budgetFits : Bool}
    {attemptId claimToken : Uuid} {settlement : Settlement}
    {reply : Except Error GeneratorAttempt} (accountable : s.Accountable ids Held)
    (presented : ∀ batch ∈ settlement.batch, batch.Valid ∧ Held batch)
    (ok : Agent.settleGenerationAttempt ids now budgetFits attemptId claimToken settlement s =
      .ok (s', reply)) : s'.Accountable ids Held := by
  obtain ⟨-, -, ok⟩ := Except.bind_eq_ok.mp ok
  obtain ⟨_, published, ok⟩ := Except.bind_eq_ok.mp ok
  obtain ⟨⟨attempt, run, generator⟩, bound, ok⟩ := Except.bind_eq_ok.mp ok
  obtain ⟨-, -, ok⟩ := Except.bind_eq_ok.mp ok
  obtain ⟨found, foundRun⟩ := boundAttempt_eq_ok bound
  have storedRun := Table.mem_of_find? foundRun
  have foundHere : s.runs.find? run.generationRunId = some run := Table.find?_of_mem storedRun
  dsimp only at ok
  split at ok
  · obtain ⟨-, -, ok⟩ := Except.bind_eq_ok.mp ok
    cases ok
    exact accountable
  · split at ok
    case isFalse => exact accountable.reportStale foundHere ok
    case isTrue held =>
      obtain ⟨refs, given, ok⟩ := Except.bind_eq_ok.mp ok
      obtain ⟨⟨t, row⟩, written, ok⟩ := Except.bind_eq_ok.mp ok
      obtain ⟨u, inserted, ok⟩ := Except.bind_eq_ok.mp ok
      obtain ⟨⟨v, run'⟩, reconciled, ok⟩ := Except.bind_eq_ok.mp ok
      obtain ⟨row', -, ok⟩ := Except.bind_eq_ok.mp ok
      obtain ⟨result, -, ok⟩ := Except.bind_eq_ok.mp ok
      cases ok
      obtain ⟨unsettled, unfailed, unfinished⟩ := held.running
      have early : run.state ≠ .awaitingReview :=
        accountable.early_of_open (Table.mem_of_find? found) unfinished storedRun
          (Table.key_of_find? foundRun)
      have settled := accountable.writeAttempt written found unsettled
        (fun failed => absurd failed unfailed) fun run inRuns ofRun =>
          accountable.early_of_open (Table.mem_of_find? found) unfinished inRuns ofRun
      obtain ⟨old, found', -, -, rfl, -⟩ := writeAttempt_eq_ok.mp written
      obtain rfl : attempt = old := Option.some.inj (found.symm.trans found')
      have storedAttempt : attempt.settled settlement now ∈
          s.attempts.update attemptId (GeneratorAttempt.settled settlement now) :=
        Table.mem_update.mpr ⟨attempt, Table.mem_of_find? found, if_pos (Table.key_of_find? found)⟩
      have sourced := Settlement.refs_sourced
        (s := ⟨s.runs, s.attempts.update attemptId (GeneratorAttempt.settled settlement now),
          s.proposals⟩) presented (require_eq_ok.mp published) given storedRun storedAttempt
            (boundAttempt_planned bound)
      have kept := foldlM_keeps (P := fun u : GenerationStore => u.Accountable ids Held ∧
        u.runs = s.runs ∧
          u.attempts = s.attempts.update attemptId (GeneratorAttempt.settled settlement now)) ?_
            ⟨settled, rfl, rfl⟩ inserted
      · exact kept.1.reconcileLocked (kept.2.1 ▸ foundHere) reconciled
      rintro ref member u w ⟨accountable, sameRuns, sameAttempts⟩ turn
      obtain ⟨ofRun, pending, source⟩ := sourced ref member
      have extension : (⟨s.runs, s.attempts.update attemptId
          (GeneratorAttempt.settled settlement now), s.proposals⟩ : GenerationStore).Extends u :=
        ⟨fun other stored => ⟨other, sameRuns ▸ stored, .refl other⟩,
          fun attempt stored _ => sameAttempts ▸ stored⟩
      obtain ⟨runs, attempts⟩ := insertProposal_eq_ok turn
      exact ⟨accountable.insertProposal (sameRuns ▸ foundHere) early ofRun pending
        (source.extends extension rfl) turn, runs.trans sameRuns, attempts.trans sameAttempts⟩

end Calls

/-! ## Steps and runs -/

section Runs

variable {ids : Identities} {Held : CandidateProposalBatch → Prop} {s s' : GenerationStore}

/-- A committed call keeps the tables accountable. -/
theorem GenerationStore.Accountable.call {call : GenerationCall} {reply : Unit}
    (accountable : s.Accountable ids Held) (presents : call.Presents Held)
    (ok : call.run ids s = .ok (s', reply)) : s'.Accountable ids Held := by
  cases call with
  | start createdAt request =>
      obtain ⟨_, ok⟩ := Transaction.silent_eq_ok.mp ok
      exact accountable.startGenerationRun ok
  | reconcile now budgetFits runId =>
      obtain ⟨_, ok⟩ := Transaction.silent_eq_ok.mp ok
      obtain ⟨row, found, ok⟩ := Except.bind_eq_ok.mp ok
      have stored := Table.mem_of_find? (requireRow_eq_ok.mp found)
      exact accountable.reconcileLocked (Table.find?_of_mem stored) ok
  | claim now claimToken locks workerId leaseSeconds only =>
      obtain ⟨_, ok⟩ := Transaction.silent_eq_ok.mp ok
      exact accountable.claimGenerationAttempt ok
  | renew now budgetFits attemptId claimToken leaseSeconds =>
      obtain ⟨_, ok⟩ := Transaction.silent_eq_ok.mp ok
      exact accountable.renewGenerationAttemptClaim ok
  | settle now budgetFits attemptId claimToken settlement =>
      obtain ⟨_, ok⟩ := Transaction.silent_eq_ok.mp ok
      exact accountable.settleGenerationAttempt presents ok
  | completeReview now runId evidence =>
      obtain ⟨_, ok⟩ := Transaction.silent_eq_ok.mp ok
      exact accountable.completeGenerationReview ok

theorem GenerationStep.accountable {call : GenerationCall} (step : GenerationStep ids s call s')
    (presents : call.Presents Held) (accountable : s.Accountable ids Held) :
    s'.Accountable ids Held := by
  rcases commit_cases (call.run ids) s with ⟨e, -, same⟩ | ⟨t, reply, ok, same⟩
  · rw [step, same]
    exact accountable
  · rw [step, same]
    exact accountable.call presents ok

/-- **The tables are accountable along every run** that settles attempts with batches that are
held. -/
theorem GenerationStore.Accountable.of_steps {trace : List GenerationCall}
    (run : Steps (GenerationStep ids) {} trace s) (presents : ∀ call ∈ trace, call.Presents Held) :
    s.Accountable ids Held := by
  suffices keeps : ∀ {s t : GenerationStore} {trace : List GenerationCall},
      Steps (GenerationStep ids) s trace t → (∀ call ∈ trace, call.Presents Held) →
        s.Accountable ids Held → t.Accountable ids Held from
    keeps run presents GenerationStore.accountable_empty
  intro s t trace run presents accountable
  induction run with
  | refl => exact accountable
  | tail _ step ih =>
      exact step.accountable (presents _ (by simp))
        (ih fun call member => presents call (by simp [member]))

end Runs

end Agent

end HcuAutoOpt
