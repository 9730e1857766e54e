import HcuAutoOpt.Agent.AttemptChains
import Mathlib.Logic.Relation

/-!
# Moves of the authority

What the calls of the Agent Generation Authority do to its tables, said once. A committed call is
a row of moves (`GenerationStep.moves`); a move is one write, with what the call has checked
before it (`GenerationMove`). What a move keeps is therefore kept by every call, and no invariant
needs to look into the calls again.
-/

set_option autoImplicit false

namespace HcuAutoOpt

namespace Agent

open Foundation

/-! ## Moves -/

/-- How far a run has come. -/
def GenerationRunState.stage : GenerationRunState → Nat
  | .created => 0
  | .running => 1
  | .awaitingReview => 2
  | .completed | .failed | .cancelled => 3

/-- How far an attempt has come. -/
def GeneratorAttemptState.stage : GeneratorAttemptState → Nat
  | .pending => 0
  | .running => 1
  | .succeeded | .failed | .cancelled => 2

/-- The first attempts of a run, one of each generator. -/
structure FirstAttempts (run : GenerationRun) (attempts : List GeneratorAttempt) : Prop where
  distinct : (attempts.map GeneratorAttempt.generatorOrdinal).Nodup
  placed : ∀ attempt ∈ attempts, attempt.Placed run
  first : ∀ attempt ∈ attempts, attempt.attemptNumber = 1 ∧ attempt.state = .pending

/-- The attempt is the last one of its generator. -/
structure GenerationStore.LastTurn (s : GenerationStore) (runId : Uuid) (ordinal : Nat)
    (latest : GeneratorAttempt) : Prop where
  turn : latest ∈ s.turns runId ordinal
  last : ∀ attempt ∈ s.turns runId ordinal, attempt.attemptNumber ≤ latest.attemptNumber

/-- **One write of the authority**: a run starts with its first attempts, a failed attempt is
tried again, an open row moves forward, a proposal is recorded, or proposals get their
disposition. An attempt is only started in a run that has a free slot. -/
inductive GenerationMove (s : GenerationStore) : GenerationStore → Prop where
  | start {s' : GenerationStore} {run : GenerationRun} {attempts : List GeneratorAttempt}
      (valid : run.Valid) (unknown : ∀ other ∈ s.runs, other.generationRunId ≠ run.generationRunId)
      (firsts : FirstAttempts run attempts) (validAttempts : ∀ attempt ∈ attempts, attempt.Valid)
      (ok : attempts.foldlM (fun s attempt => insertAttempt attempt s)
        { s with runs := s.runs.insertIfAbsent run } = .ok s') : GenerationMove s s'
  | retry {s' : GenerationStore} {run : GenerationRun} {attempt latest : GeneratorAttempt}
      {generator : GeneratorPlanEntry} (holds : s.Holds run) (valid : attempt.Valid)
      (placed : attempt.Placed run) (pending : attempt.state = .pending)
      (planned : run.plan.generators[attempt.generatorOrdinal]? = some generator)
      (last : s.LastTurn run.generationRunId attempt.generatorOrdinal latest)
      (failed : latest.state = .failed) (room : latest.attemptNumber < generator.maxAttempts)
      (number : attempt.attemptNumber = latest.attemptNumber + 1)
      (ok : insertAttempt attempt s = .ok s') : GenerationMove s s'
  | writeRun {s' : GenerationStore} {runId : Uuid} {f : GenerationRun → GenerationRun} [KeepsKey f]
      [KeepsInputs f] {row old : GenerationRun} (ok : writeRun runId f s = .ok (s', row))
      (found : s.runs.find? runId = some old) (isOpen : old.state.terminal = false)
      (forward : old.state.stage ≤ (f old).state.stage) (raised : old.version < (f old).version) :
      GenerationMove s s'
  | writeAttempt {s' : GenerationStore} {attemptId : Uuid}
      {f : GeneratorAttempt → GeneratorAttempt} [KeepsKey f] [KeepsPlace f]
      {row old : GeneratorAttempt} (ok : writeAttempt attemptId f s = .ok (s', row))
      (found : s.attempts.find? attemptId = some old) (isOpen : old.state.terminal = false)
      (forward : old.state.stage ≤ (f old).state.stage) (raised : old.version < (f old).version)
      (slot : (f old).state = .running → old.state = .running ∨ ∀ run ∈ s.runs,
        old.generationRunId = run.generationRunId →
          s.activeCount run.generationRunId < run.plan.maxConcurrency) : GenerationMove s s'
  | insertProposal {s' : GenerationStore} {ref : CandidateProposalRef}
      (ok : insertProposal ref s = .ok s') : GenerationMove s s'
  | finalizeProposals (runId : Uuid) : GenerationMove s (finalizeProposals runId s).1

/-- Moves, one after the other. -/
abbrev GenerationMoves : GenerationStore → GenerationStore → Prop :=
  Relation.ReflTransGen GenerationMove

/-! ## Reconciliations -/

section Reconciliations

variable {s s' : GenerationStore} {ids : Identities} {run : GenerationRun} {now : Timestamp}

theorem moves_failStaleAttempts (runId : Uuid)
    (ok : failStaleAttempts now (s.attemptsOf runId) s = .ok s') :
    GenerationMoves s s' ∧ s'.runs = s.runs := by
  -- the attempts that are left are stored as they were read
  refine (foldlM_keeps_rest (P := fun rest u => (GenerationMoves s u ∧ u.runs = s.runs) ∧
    (rest.map GeneratorAttempt.attemptId).Nodup ∧
      ∀ attempt ∈ rest, u.attempts.find? attempt.attemptId = some attempt) ?_ ?_ ok).1
  · rintro attempt rest u v ⟨⟨moves, sameRuns⟩, distinct, known⟩ turn
    obtain ⟨fresh, distinct⟩ := List.nodup_cons.mp distinct
    split at turn
    · rename_i stale
      cases written : writeAttempt attempt.attemptId (GeneratorAttempt.failStale now) u with
      | error e => simp [written, Except.map] at turn
      | ok pair =>
          obtain ⟨u', row⟩ := pair
          simp only [written, Except.map, Except.ok.injEq] at turn
          subst turn
          have move : GenerationMove u u' := .writeAttempt written (known attempt List.mem_cons_self)
            (by rw [stale.1]; rfl) (by rw [stale.1]; exact Nat.le_succ 1) (Nat.lt_succ_self _)
            fun starts => by cases starts
          refine ⟨⟨moves.tail move, (writeAttempt_runs written).trans sameRuns⟩, distinct, ?_⟩
          intro other later
          obtain ⟨-, -, -, -, rfl, -⟩ := writeAttempt_eq_ok.mp written
          refine (Table.find?_update_ne fun same => fresh ?_).trans
            (known other (List.mem_cons_of_mem attempt later))
          exact same ▸ List.mem_map_of_mem later
    · cases turn
      exact ⟨⟨moves, sameRuns⟩, distinct, fun other later =>
        known other (List.mem_cons_of_mem attempt later)⟩
  · refine ⟨⟨.refl, rfl⟩, ?_, fun attempt member => ?_⟩
    · exact ((List.perm_insertionSort _ _).map _).nodup_iff.mpr
        (s.attempts.keys_nodup.sublist (List.filter_sublist.map _))
    · exact Table.find?_of_mem (mem_attemptsOf.mp member).1

/-- The attempt that decides about a retry is the last one of its generator. -/
theorem latestAttempt_last {attempts own : List GeneratorAttempt} {ordinal : Nat}
    {generator : GeneratorPlanEntry} {latest : GeneratorAttempt}
    (sorted : attempts.Pairwise GeneratorAttempt.Before)
    (known : ∀ attempt, attempt.generatorOrdinal = ordinal →
      (attempt ∈ s.attemptsOf run.generationRunId ↔ attempt ∈ attempts))
    (found : latestAttempt run attempts ordinal = .ok (generator, own, latest)) :
    s.LastTurn run.generationRunId ordinal latest ∧
      run.plan.generators[ordinal]? = some generator := by
  obtain ⟨-, member, ofOrdinal, planned, last⟩ := latestAttempt_eq_ok sorted found
  obtain ⟨inTable, ofRun⟩ := mem_attemptsOf.mp ((known latest ofOrdinal).mpr member)
  refine ⟨⟨mem_turns.mpr ⟨inTable, ofRun, ofOrdinal⟩, fun attempt turn => ?_⟩, planned⟩
  obtain ⟨stored, ofRun', ofOrdinal'⟩ := mem_turns.mp turn
  have before := last attempt ((known attempt ofOrdinal').mp (mem_attemptsOf.mpr ⟨stored, ofRun'⟩))
    ofOrdinal'
  unfold GeneratorAttempt.Before at before
  omega

/-- Trying the generators again adds an attempt for each of them at most. -/
theorem moves_retryGenerators {attempts : List GeneratorAttempt} {ordinals : List Nat}
    (distinct : ordinals.Nodup) (holds : s.Holds run)
    (sorted : attempts.Pairwise GeneratorAttempt.Before)
    (known : ∀ ordinal ∈ ordinals, ∀ attempt, attempt.generatorOrdinal = ordinal →
      (attempt ∈ s.attemptsOf run.generationRunId ↔ attempt ∈ attempts))
    (ok : ordinals.foldlM (retryGenerator ids run attempts now) s = .ok s') :
    GenerationMoves s s' ∧ s'.runs = s.runs := by
  -- the generators that are left have the attempts that were read
  refine (foldlM_keeps_rest (P := fun rest u => (GenerationMoves s u ∧ u.runs = s.runs) ∧
    rest.Nodup ∧ ∀ ordinal ∈ rest, ∀ attempt, attempt.generatorOrdinal = ordinal →
      (attempt ∈ u.attemptsOf run.generationRunId ↔ attempt ∈ attempts)) ?_
        ⟨⟨.refl, rfl⟩, distinct, known⟩ ok).1
  rintro ordinal rest u v ⟨⟨moves, sameRuns⟩, distinct, known⟩ turn
  obtain ⟨fresh, distinct⟩ := List.nodup_cons.mp distinct
  obtain ⟨⟨generator, own, latest⟩, found, turn⟩ := Except.bind_eq_ok.mp turn
  dsimp only at turn
  split at turn
  case isFalse =>
    cases turn
    exact ⟨⟨moves, sameRuns⟩, distinct, fun other later => known other (List.mem_cons_of_mem _ later)⟩
  case isTrue retries =>
    obtain ⟨last, planned⟩ := latestAttempt_last sorted (known ordinal List.mem_cons_self) found
    simp only [insertRetry, Except.bind_eq_ok, requireSome_eq_ok, loadAttempt_eq_ok] at turn
    obtain ⟨entry, planned', attempt, ⟨valid, rfl⟩, inserted⟩ := turn
    have move : GenerationMove u v := .retry (holds.of_runs sameRuns) valid
      (buildPendingAttempt_placed planned') rfl planned last retries.2.1 retries.2.2 rfl inserted
    obtain ⟨-, -, -, rfl⟩ := insertAttempt_eq_ok.mp inserted
    refine ⟨⟨moves.tail move, sameRuns⟩, distinct, fun other later attempt ofOther => ?_⟩
    rw [← known other (List.mem_cons_of_mem _ later) attempt ofOther]
    simp only [mem_attemptsOf, Table.mem_insertIfAbsent]
    constructor
    · rintro ⟨old | ⟨-, rfl⟩, ofRun⟩
      · exact ⟨old, ofRun⟩
      · have same : ordinal = other := ofOther
        exact absurd (same ▸ later) fresh
    · rintro ⟨old, ofRun⟩
      exact ⟨.inl old, ofRun⟩

theorem moves_summarizeRun {budgetFits : Bool} {run' : GenerationRun}
    (stored : s.runs.find? run.generationRunId = some run) (running : run.state = .running)
    (ok : summarizeRun run budgetFits now s = .ok (s', run')) : GenerationMoves s s' := by
  have isOpen : run.state.terminal = false := by rw [running]; rfl
  obtain ⟨attempts, -, ok⟩ := Except.bind_eq_ok.mp ok
  obtain ⟨finished, -, ok⟩ := Except.bind_eq_ok.mp ok
  dsimp only at ok
  split at ok
  · obtain ⟨-, -, ok⟩ := Except.bind_eq_ok.mp ok
    refine .head (.finalizeProposals run.generationRunId)
      (.single (.writeRun ok stored isOpen ?_ (Nat.lt_succ_self _)))
    rw [running]
    unfold GenerationRun.summarized
    dsimp only
    split_ifs <;> exact by decide
  · obtain ⟨-, -, ok⟩ := Except.bind_eq_ok.mp ok
    refine .single (.writeRun ok stored isOpen ?_ (Nat.lt_succ_self _))
    rw [running]
    unfold GenerationRun.summarized
    dsimp only
    split_ifs <;> exact by decide

theorem moves_reconcileRunning {budgetFits : Bool} {run' : GenerationRun}
    (stored : s.runs.find? run.generationRunId = some run) (running : run.state = .running)
    (ok : reconcileRunning ids run budgetFits now s = .ok (s', run')) : GenerationMoves s s' := by
  simp only [reconcileRunning, Except.bind_eq_ok, require_eq_ok, exists_const] at ok
  obtain ⟨attempts, loaded, t, failed, attempts', loaded', -, u, retried, ok⟩ := ok
  obtain rfl := loadAttempts_eq_ok loaded
  obtain rfl := loadAttempts_eq_ok loaded'
  obtain ⟨failing, sameRuns⟩ := moves_failStaleAttempts run.generationRunId failed
  have holds : t.Holds run := (GenerationStore.holds_of_find stored).of_runs sameRuns
  obtain ⟨retrying, sameRuns'⟩ := moves_retryGenerators List.nodup_range holds
    (List.pairwise_insertionSort _ _) (fun _ _ _ _ => Iff.rfl) retried
  exact (failing.trans retrying).trans
    (moves_summarizeRun (sameRuns'.trans sameRuns ▸ stored) running ok)

/-- **A reconciliation.** -/
theorem moves_reconcileLocked {budgetFits : Bool} {run' : GenerationRun}
    (stored : s.runs.find? run.generationRunId = some run)
    (ok : reconcileGenerationRunLocked ids run budgetFits now s = .ok (s', run')) :
    GenerationMoves s s' := by
  simp only [reconcileGenerationRunLocked, Except.bind_eq_ok, loadRun_eq_ok] at ok
  obtain ⟨row, ⟨-, rfl⟩, ok⟩ := ok
  split at ok
  case h_5 created =>
    obtain ⟨⟨t, next⟩, written, ok⟩ := Except.bind_eq_ok.mp ok
    have starting : GenerationMove s t := .writeRun written stored (by rw [created]; rfl)
      (by rw [created]; exact Nat.zero_le 1) (Nat.lt_succ_self _)
    obtain ⟨old, found, -, -, rfl, rfl⟩ := writeRun_eq_ok.mp written
    cases Option.some.inj (found.symm.trans stored)
    refine .head starting (moves_reconcileRunning ?_ rfl ok)
    exact (Table.find?_update_self _).trans (by rw [stored]; rfl)
  case h_6 running => exact moves_reconcileRunning stored running ok
  all_goals
    cases ok
    exact .refl

end Reconciliations

/-! ## Calls -/

section Calls

variable {s s' : GenerationStore} {ids : Identities} {run : GenerationRun} {now : Timestamp}

theorem startAttempts_first (start : GenerationRunStartRequest) :
    FirstAttempts (start.run ids now) (start.attempts ids now) where
  distinct := by
    unfold GenerationRunStartRequest.attempts
    rw [List.map_map]
    have ordinals : (start.plan.generators.zipIdx.map (GeneratorAttempt.generatorOrdinal ∘
        fun (entry : GeneratorPlanEntry × Nat) => buildPendingAttempt ids (start.run ids now)
          entry.1 entry.2 1 now)) = List.range' 0 start.plan.generators.length :=
      List.zipIdx_map_snd 0 start.plan.generators
    exact ordinals ▸ List.nodup_range'
  placed _ := startAttempts_placed
  first attempt member := by
    obtain ⟨⟨generator, ordinal⟩, -, rfl⟩ := List.mem_map.mp member
    exact ⟨rfl, rfl⟩

theorem moves_startGenerationRun {start : GenerationRunStartRequest}
    {reply : GenerationRun × Bool}
    (ok : startGenerationRun ids now start s = .ok (s', reply)) : GenerationMoves s s' := by
  obtain ⟨⟨run, attempts⟩, built, ok⟩ := Except.bind_eq_ok.mp ok
  simp only [Except.bind_eq_ok, require_eq_ok, exists_const] at ok
  obtain ⟨valid, validAttempts, ok⟩ := ok
  obtain ⟨rfl, rfl⟩ := buildGenerationRunStart_eq_ok (mapError_eq_ok.mp built)
  simp only [createGenerationRun, Except.bind_eq_ok, require_eq_ok, exists_const] at ok
  obtain ⟨-, -, ok⟩ := ok
  split at ok
  case h_1 empty =>
    obtain ⟨t, inserted, ok⟩ := Except.bind_eq_ok.mp ok
    cases ok
    refine .single (.start valid (fun other member same => ?_) (startAttempts_first start)
      validAttempts inserted)
    exact List.filter_eq_nil_iff.mp empty other member (decide_eq_true (.inl same))
  case h_2 =>
    simp only [Except.bind_eq_ok, require_eq_ok, exists_const] at ok
    obtain ⟨stored, -, -, ok⟩ := ok
    cases ok
    exact .refl
  case h_3 => cases ok

/-- The run a claim takes has a free slot. -/
theorem openRun_free {locks : GenerationLocks} {candidates : List GenerationRun}
    (ok : s.openRun locks candidates = .ok (some run)) :
    run ∈ s.runs ∧ s.activeCount run.generationRunId < run.plan.maxConcurrency := by
  induction candidates with
  | nil => cases ok
  | cons candidate candidates ih =>
      unfold GenerationStore.openRun at ok
      split at ok
      · exact ih ok
      · rename_i row found
        simp only [Except.bind_eq_ok, loadRun_eq_ok] at ok
        obtain ⟨_, ⟨-, rfl⟩, ok⟩ := ok
        split at ok
        · exact ih ok
        · rename_i free
          cases ok
          exact ⟨List.mem_of_find?_eq_some found, Nat.not_le.mp free⟩

theorem pendingAttempt?_eq_some {locks : GenerationLocks} {runId : Uuid} {row : GeneratorAttempt}
    (found : s.pendingAttempt? locks runId = some row) :
    row ∈ s.attempts ∧ row.generationRunId = runId ∧ row.state = .pending := by
  have member := (List.perm_insertionSort _ _).mem_iff.mp (List.mem_of_head? found)
  simp only [List.mem_filter, Bool.and_eq_true, decide_eq_true_eq] at member
  exact ⟨member.1, member.2.1.1, member.2.1.2⟩

theorem moves_claimGenerationAttempt {claimToken : Uuid} {locks : GenerationLocks}
    {workerId : String} {leaseSeconds : Int} {only : Option Uuid}
    {reply : Option GenerationAttemptClaim}
    (ok : claimGenerationAttempt now claimToken locks workerId leaseSeconds only s =
      .ok (s', reply)) : GenerationMoves s s' := by
  simp only [claimGenerationAttempt, Except.bind_eq_ok, require_eq_ok, exists_const] at ok
  obtain ⟨-, -, found, opened, ok⟩ := ok
  cases found with
  | none =>
      cases ok
      exact .refl
  | some run =>
      obtain ⟨inRuns, free⟩ := openRun_free opened
      dsimp only at ok
      split at ok
      · cases ok
        exact .refl
      · rename_i row chosen
        obtain ⟨stored, ofRun, pending⟩ := pendingAttempt?_eq_some chosen
        simp only [claimPending, Except.bind_eq_ok, require_eq_ok, exists_const,
          loadAttempt_eq_ok] at ok
        obtain ⟨_, ⟨-, rfl⟩, generator, -, -, ⟨t, attempt⟩, written, -, ok⟩ := ok
        cases ok
        refine .single (.writeAttempt written (Table.find?_of_mem stored) (by rw [pending]; rfl)
          (by rw [pending]; exact Nat.zero_le 1) (Nat.lt_succ_self _) fun _ => .inr ?_)
        intro other member ofOther
        have same : other = run := Table.eq_of_key_eq member inRuns (ofOther.symm.trans ofRun)
        exact same ▸ free

theorem moves_reportStale {budgetFits : Bool} {attempt : GeneratorAttempt} {message : String}
    {reply : Except Error GeneratorAttempt} (stored : s.runs.find? run.generationRunId = some run)
    (ok : reportStale ids now budgetFits attempt run message s = .ok (s', reply)) :
    GenerationMoves s s' := by
  simp only [reportStale] at ok
  split at ok
  · obtain ⟨⟨t, run'⟩, reconciled, ok⟩ := Except.bind_eq_ok.mp ok
    cases ok
    exact moves_reconcileLocked stored reconciled
  · cases ok
    exact .refl

theorem moves_renewGenerationAttemptClaim {budgetFits : Bool} {attemptId claimToken : Uuid}
    {leaseSeconds : Int} {reply : Except Error GeneratorAttempt}
    (ok : renewGenerationAttemptClaim ids now budgetFits attemptId claimToken leaseSeconds s =
      .ok (s', reply)) : GenerationMoves s s' := by
  obtain ⟨-, -, ok⟩ := Except.bind_eq_ok.mp ok
  obtain ⟨⟨attempt, run, generator⟩, bound, ok⟩ := Except.bind_eq_ok.mp ok
  obtain ⟨-, -, ok⟩ := Except.bind_eq_ok.mp ok
  obtain ⟨found, foundRun⟩ := boundAttempt_eq_ok bound
  dsimp only at ok
  split at ok
  case isTrue held =>
    obtain ⟨⟨t, row⟩, written, ok⟩ := Except.bind_eq_ok.mp ok
    cases ok
    exact .single (.writeAttempt written found held.running.2.2 (Nat.le_refl _)
      (Nat.lt_succ_self _) fun _ => .inl held.1)
  case isFalse => exact moves_reportStale (Table.find?_of_mem (Table.mem_of_find? foundRun)) ok

/-- No attempt is further than one that has ended. -/
theorem GeneratorAttemptState.stage_le_of_terminal {state : GeneratorAttemptState}
    (ended : state.terminal = true) (other : GeneratorAttemptState) : other.stage ≤ state.stage := by
  cases state with
  | pending | running => cases ended
  | succeeded | failed | cancelled => cases other <;> decide

/-- A settled attempt has ended. -/
theorem GeneratorAttempt.settled_terminal (attempt : GeneratorAttempt) (settlement : Settlement)
    (now : Timestamp) : (attempt.settled settlement now).state.terminal = true := by
  unfold GeneratorAttempt.settled
  dsimp only
  split <;> rfl

/-- **Settling a held attempt is a move.** -/
theorem move_settled {attemptId claimToken : Uuid} {settlement : Settlement}
    {attempt row : GeneratorAttempt} (found : s.attempts.find? attemptId = some attempt)
    (held : attempt.HeldBy claimToken now)
    (written : writeAttempt attemptId (GeneratorAttempt.settled settlement now) s =
      .ok (s', row)) : GenerationMove s s' := by
  have ended := attempt.settled_terminal settlement now
  refine .writeAttempt written found held.running.2.2
    (GeneratorAttemptState.stage_le_of_terminal ended _) (Nat.lt_succ_self _) fun starts => ?_
  rw [starts] at ended
  cases ended

theorem moves_settleGenerationAttempt {budgetFits : Bool} {attemptId claimToken : Uuid}
    {settlement : Settlement} {reply : Except Error GeneratorAttempt}
    (ok : settleGenerationAttempt ids now budgetFits attemptId claimToken settlement s =
      .ok (s', reply)) : GenerationMoves s s' := by
  obtain ⟨-, -, ok⟩ := Except.bind_eq_ok.mp ok
  obtain ⟨-, -, ok⟩ := Except.bind_eq_ok.mp ok
  obtain ⟨⟨attempt, run, generator⟩, bound, ok⟩ := Except.bind_eq_ok.mp ok
  obtain ⟨-, -, ok⟩ := Except.bind_eq_ok.mp ok
  obtain ⟨found, foundRun⟩ := boundAttempt_eq_ok bound
  have stored : s.runs.find? run.generationRunId = some run :=
    Table.find?_of_mem (Table.mem_of_find? foundRun)
  dsimp only at ok
  split at ok
  · obtain ⟨-, -, ok⟩ := Except.bind_eq_ok.mp ok
    cases ok
    exact .refl
  · split at ok
    case isFalse => exact moves_reportStale stored ok
    case isTrue held =>
      obtain ⟨refs, -, ok⟩ := Except.bind_eq_ok.mp ok
      obtain ⟨⟨t, row⟩, written, ok⟩ := Except.bind_eq_ok.mp ok
      obtain ⟨u, inserted, ok⟩ := Except.bind_eq_ok.mp ok
      obtain ⟨⟨v, run'⟩, reconciled, ok⟩ := Except.bind_eq_ok.mp ok
      obtain ⟨row', -, ok⟩ := Except.bind_eq_ok.mp ok
      obtain ⟨result, -, ok⟩ := Except.bind_eq_ok.mp ok
      cases ok
      have settled : GenerationMove s t := move_settled found held written
      have kept := foldlM_keeps (P := fun u => GenerationMoves s u ∧ u.runs = s.runs) ?_
        ⟨.single settled, writeAttempt_runs written⟩ inserted
      · exact kept.1.trans (moves_reconcileLocked (kept.2 ▸ stored) reconciled)
      · rintro ref - u w ⟨moves, sameRuns⟩ turn
        exact ⟨moves.tail (.insertProposal turn), (insertProposal_eq_ok turn).1.trans sameRuns⟩

theorem moves_completeGenerationReview {runId : Uuid} {evidence : ReviewEvidence}
    {reply : GenerationRun}
    (ok : completeGenerationReview now runId evidence s = .ok (s', reply)) :
    GenerationMoves s s' := by
  obtain ⟨row, found, ok⟩ := Except.bind_eq_ok.mp ok
  obtain ⟨run, loaded, ok⟩ := Except.bind_eq_ok.mp ok
  split at ok
  · obtain ⟨-, -, ok⟩ := Except.bind_eq_ok.mp ok
    cases ok
    exact .refl
  · obtain ⟨_, awaits, ok⟩ := Except.bind_eq_ok.mp ok
    have awaiting := require_eq_ok.mp awaits
    rw [(loadRun_eq_ok.mp loaded).2] at awaiting
    exact .single (.writeRun ok (requireRow_eq_ok.mp found) (by rw [awaiting]; rfl)
      (by rw [awaiting]; exact Nat.le_succ 2) (Nat.lt_succ_self _))

/-- **A committed call is a row of moves.** -/
theorem moves_call {call : GenerationCall} {reply : Unit}
    (ok : call.run ids s = .ok (s', reply)) : GenerationMoves s s' := by
  cases call with
  | start createdAt request =>
      obtain ⟨_, ok⟩ := Transaction.silent_eq_ok.mp ok
      exact moves_startGenerationRun ok
  | reconcile now budgetFits runId =>
      obtain ⟨_, ok⟩ := Transaction.silent_eq_ok.mp ok
      obtain ⟨row, found, ok⟩ := Except.bind_eq_ok.mp ok
      have stored := Table.mem_of_find? (requireRow_eq_ok.mp found)
      exact moves_reconcileLocked (Table.find?_of_mem stored) ok
  | claim now claimToken locks workerId leaseSeconds only =>
      obtain ⟨_, ok⟩ := Transaction.silent_eq_ok.mp ok
      exact moves_claimGenerationAttempt ok
  | renew now budgetFits attemptId claimToken leaseSeconds =>
      obtain ⟨_, ok⟩ := Transaction.silent_eq_ok.mp ok
      exact moves_renewGenerationAttemptClaim ok
  | settle now budgetFits attemptId claimToken settlement =>
      obtain ⟨_, ok⟩ := Transaction.silent_eq_ok.mp ok
      exact moves_settleGenerationAttempt ok
  | completeReview now runId evidence =>
      obtain ⟨_, ok⟩ := Transaction.silent_eq_ok.mp ok
      exact moves_completeGenerationReview ok

theorem GenerationStep.moves {call : GenerationCall} (step : GenerationStep ids s call s') :
    GenerationMoves s s' := by
  rcases commit_cases (call.run ids) s with ⟨e, -, same⟩ | ⟨t, reply, ok, same⟩
  · rw [step, same]
  · rw [step, same]
    exact moves_call ok

/-- **A run of the authority is a row of moves.** -/
theorem moves_of_steps {trace : List GenerationCall} (run : Steps (GenerationStep ids) s trace s') :
    GenerationMoves s s' := by
  induction run with
  | refl => exact .refl
  | tail _ step ih => exact ih.trans step.moves

end Calls

end Agent

end HcuAutoOpt
