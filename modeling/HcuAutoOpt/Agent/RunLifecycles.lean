import HcuAutoOpt.Agent.ScheduledRuns
import HcuAutoOpt.Foundation.AdvancingTables

/-!
# Lifecycles of runs, attempts and proposals

No call of the authority takes anything back. A run keeps its inputs and an attempt its place,
their states only move forward, every change raises their version, and a row in a terminal state
never changes again; a proposal that has its disposition keeps it (`lifecycles_advance`). So a
settlement is final: later it is answered with the same attempt, and no other settlement of
that attempt is accepted (`settlement_final`).
-/

set_option autoImplicit false

namespace HcuAutoOpt

namespace Agent

open Foundation

/-! ## Later rows -/

/-- The row of a run at a later time. -/
structure GenerationRun.Later (before after : GenerationRun) : Prop where
  inputs : after.SameInputs before
  forward : after = before ∨ before.state.terminal = false ∧
    before.state.stage ≤ after.state.stage ∧ before.version < after.version

/-- The row of an attempt at a later time. -/
structure GeneratorAttempt.Later (before after : GeneratorAttempt) : Prop where
  sameId : after.attemptId = before.attemptId
  place : after.place = before.place
  forward : after = before ∨ before.state.terminal = false ∧
    before.state.stage ≤ after.state.stage ∧ before.version < after.version

/-- The row of a proposal at a later time. -/
structure CandidateProposalRef.Later (before after : CandidateProposalRef) : Prop where
  same : after.withDisposition .pending = before.withDisposition .pending
  decided : before.disposition ≠ .pending → after = before

/-- Tables at a later time. -/
structure GenerationStore.Advances (s s' : GenerationStore) : Prop where
  runs : s.runs.Advances GenerationRun.Later s'.runs
  attempts : s.attempts.Advances GeneratorAttempt.Later s'.attempts
  proposals : s.proposals.Advances CandidateProposalRef.Later s'.proposals

theorem GenerationRun.Later.refl (run : GenerationRun) : run.Later run :=
  ⟨.refl run, .inl rfl⟩

theorem GeneratorAttempt.Later.refl (attempt : GeneratorAttempt) : attempt.Later attempt :=
  ⟨rfl, rfl, .inl rfl⟩

theorem CandidateProposalRef.Later.refl (proposal : CandidateProposalRef) :
    proposal.Later proposal :=
  ⟨rfl, fun _ => rfl⟩

theorem GenerationRun.SameInputs.trans {first second third : GenerationRun}
    (same : second.SameInputs first) (same' : third.SameInputs second) :
    third.SameInputs first := by
  obtain ⟨h₁, h₂, h₃, h₄, h₅, h₆, h₇⟩ := same
  obtain ⟨h₁', h₂', h₃', h₄', h₅', h₆', h₇'⟩ := same'
  exact ⟨h₁'.trans h₁, h₂'.trans h₂, h₃'.trans h₃, h₄'.trans h₄, h₅'.trans h₅, h₆'.trans h₆,
    h₇'.trans h₇⟩

theorem GenerationRun.Later.trans {first second third : GenerationRun}
    (later : first.Later second) (later' : second.Later third) : first.Later third where
  inputs := later.inputs.trans later'.inputs
  forward := forward_trans (fun run => run.state.terminal = false) (fun run => run.state.stage)
    GenerationRun.version later.forward later'.forward

theorem GeneratorAttempt.Later.trans {first second third : GeneratorAttempt}
    (later : first.Later second) (later' : second.Later third) : first.Later third where
  sameId := later'.sameId.trans later.sameId
  place := later'.place.trans later.place
  forward := forward_trans (fun attempt => attempt.state.terminal = false)
    (fun attempt => attempt.state.stage) GeneratorAttempt.version later.forward later'.forward

theorem CandidateProposalRef.Later.trans {first second third : CandidateProposalRef}
    (later : first.Later second) (later' : second.Later third) : first.Later third := by
  refine ⟨later'.same.trans later.same, fun decided => ?_⟩
  obtain rfl := later.decided decided
  exact later'.decided decided

theorem GenerationStore.Advances.refl (s : GenerationStore) : s.Advances s :=
  ⟨.refl .refl _, .refl .refl _, .refl .refl _⟩

theorem GenerationStore.Advances.trans {s s' s'' : GenerationStore} (first : s.Advances s')
    (second : s'.Advances s'') : s.Advances s'' :=
  ⟨first.runs.trans .trans second.runs, first.attempts.trans .trans second.attempts,
    first.proposals.trans .trans second.proposals⟩

/-! ## Moves -/

/-- **A move takes nothing back.** -/
theorem GenerationMove.advances {s s' : GenerationStore} (move : GenerationMove s s') :
    s.Advances s' := by
  cases move with
  | @start _ run _ valid unknown firsts validAttempts ok =>
      refine foldlM_keeps (P := fun u : GenerationStore => s.Advances u) ?_ ?_ ok
      · intro attempt _ u v advances turn
        obtain ⟨-, -, -, rfl⟩ := insertAttempt_eq_ok.mp turn
        exact advances.trans ⟨.refl .refl _, Table.advances_insertIfAbsent .refl _ attempt,
          .refl .refl _⟩
      · exact ⟨Table.advances_insertIfAbsent .refl _ run, .refl .refl _, .refl .refl _⟩
  | @retry _ _ attempt _ _ _ _ _ _ _ _ _ _ _ ok =>
      obtain ⟨-, -, -, rfl⟩ := insertAttempt_eq_ok.mp ok
      exact ⟨.refl .refl _, Table.advances_insertIfAbsent .refl _ attempt, .refl .refl _⟩
  | @writeRun _ _ f _ keeps _ _ ok found isOpen forward raised =>
      obtain ⟨-, -, -, -, rfl, -⟩ := writeRun_eq_ok.mp ok
      refine ⟨Table.advances_update .refl fun run known => ?_, .refl .refl _, .refl .refl _⟩
      obtain rfl := Option.some.inj (found.symm.trans known)
      exact ⟨keeps.inputs _, .inr ⟨isOpen, forward, raised⟩⟩
  | @writeAttempt _ _ f _ place _ _ ok found isOpen forward raised =>
      obtain ⟨-, -, -, -, rfl, -⟩ := writeAttempt_eq_ok.mp ok
      refine ⟨.refl .refl _, Table.advances_update .refl fun attempt known => ?_, .refl .refl _⟩
      obtain rfl := Option.some.inj (found.symm.trans known)
      exact ⟨KeepsKey.keeps (f := f) _, place.place _, .inr ⟨isOpen, forward, raised⟩⟩
  | @insertProposal _ ref ok =>
      simp only [Agent.insertProposal, Except.bind_eq_ok, require_eq_ok, exists_const] at ok
      obtain ⟨-, -, ok⟩ := ok
      cases ok
      exact ⟨.refl .refl _, .refl .refl _, Table.advances_insertIfAbsent .refl _ ref⟩
  | finalizeProposals runId =>
      refine ⟨.refl .refl _, .refl .refl _, fun proposal member => ?_⟩
      -- only proposals without a disposition get one
      refine ⟨proposal.finalizedIn (s.proposalsOf runId) runId, ?_,
        CandidateProposalRef.finalizedIn_pending _ _ _, fun decided => ?_⟩
      · rw [Table.mem_rows, finalizeProposals_rows]
        exact List.mem_map_of_mem member
      · unfold CandidateProposalRef.finalizedIn CandidateProposalRef.finalize
        rw [if_neg decided, ite_self]

/-! ## Runs -/

/-- **Lifecycles only advance.** From any store, whatever calls of the authority follow: every
run keeps its inputs and every attempt its place, states move forward and versions rise, rows in
a terminal state and dispositions stay as they are. -/
theorem lifecycles_advance {ids : Identities} {trace : List GenerationCall}
    {s s' : GenerationStore} (run : Steps (GenerationStep ids) s trace s') : s.Advances s' := by
  have moves := moves_of_steps run
  clear run
  induction moves with
  | refl => exact .refl s
  | tail _ move ih => exact ih.trans move.advances

/-- The second attempt is claimed too, and its lease expires as well. -/
def patientSequel : List GenerationCall :=
  [.claim (seconds 101) 8 {} "worker" 60 none, .reconcile (seconds 200) true 1]

theorem lifecycles_advance_patient : (runGenerationCalls patientIds patientCalls {}).Advances
    (runGenerationCalls patientIds patientSequel (runGenerationCalls patientIds patientCalls {})) :=
  lifecycles_advance (steps_runGenerationCalls patientIds patientSequel _)

/-- The attempt has ended with the claim and the evidence of the settlement. -/
def GeneratorAttempt.EndedWith (attempt : GeneratorAttempt) (claimToken : Uuid)
    (settlement : Settlement) : Prop :=
  attempt.lease.map AttemptLease.claimToken = some claimToken ∧
    attempt.batch = settlement.batchBinding ∧ attempt.receipt = some settlement.receipt

/-- The settlement passes the checks that are made before the attempt is looked at. -/
def Settlement.Presentable (settlement : Settlement) : Prop :=
  settlement.reread = true ∧ settlement.batch.isNone = settlement.batchUri.isNone ∧
    settlement.bound = true

/-- **A settlement is final.** Once an attempt has succeeded or failed, whatever calls follow, a
settlement of it changes nothing. It is answered with the attempt when it presents the same
claim, batch and receipt, and is refused otherwise. -/
theorem settlement_final {ids : Identities} {before after : List GenerationCall}
    {s s' : GenerationStore} (reached : Steps (GenerationStep ids) {} before s)
    {attempt : GeneratorAttempt} (stored : attempt ∈ s.attempts)
    (ended : attempt.state = .succeeded ∨ attempt.state = .failed)
    (later : Steps (GenerationStep ids) s after s') (now : Timestamp) (budgetFits : Bool)
    (claimToken : Uuid) (settlement : Settlement) :
    attempt ∈ s'.attempts ∧
      (commit (settleGenerationAttempt ids now budgetFits attempt.attemptId claimToken settlement)
        s').1 = s' ∧
      ((commit (settleGenerationAttempt ids now budgetFits attempt.attemptId claimToken settlement)
        s').2 = .ok (.ok attempt) ↔
          settlement.Presentable ∧ attempt.EndedWith claimToken settlement) := by
  have sound := GenerationStore.Sound.of_steps (reached.trans later)
  have terminal : attempt.state.terminal = true := by
    rcases ended with succeeded | failed
    · rw [succeeded]
      rfl
    · rw [failed]
      rfl
  obtain ⟨row, stored', same⟩ := (lifecycles_advance later).attempts attempt stored
  have unchanged : row = attempt := by
    rcases same.forward with same | ⟨isOpen, -⟩
    · exact same
    · rw [terminal] at isOpen
      cases isOpen
  subst unchanged
  refine ⟨stored', ?_⟩
  obtain ⟨run, inRuns, belongs, generator, planned, -⟩ := sound.placed row stored'
  have bound : s'.boundAttempt row.attemptId = .ok (row, run, generator) := by
    have found : s'.attempts.find? row.attemptId = some row := Table.find?_of_mem stored'
    have foundRun : s'.runs.find? row.generationRunId = some run :=
      (congrArg _ belongs.1.symm).trans (Table.find?_of_mem inRuns)
    simp only [GenerationStore.boundAttempt, Except.bind_eq_ok, requireRow_eq_ok, loadRun_eq_ok,
      loadAttempt_eq_ok, requireSome_eq_ok]
    exact ⟨row, found, run, foundRun, row, ⟨sound.attempts row stored', rfl⟩, run,
      ⟨sound.runs run inRuns, rfl⟩, generator, planned, rfl⟩
  have replays : ∀ t reply, settleGenerationAttempt ids now budgetFits row.attemptId claimToken
      settlement s' = .ok (t, reply) ↔ (settlement.Presentable ∧
        row.EndedWith claimToken settlement) ∧ t = s' ∧ reply = .ok row := by
    intro t reply
    unfold settleGenerationAttempt
    rw [bound]
    simp only [Except.bind_eq_ok, require_eq_ok, exists_const, Except.ok.injEq, exists_eq_left',
      if_pos ended, Settlement.Presentable, GeneratorAttempt.EndedWith]
    constructor
    · rintro ⟨reread, atomic, isBound, evidence, result⟩
      cases result
      exact ⟨⟨⟨reread, atomic, isBound⟩, evidence⟩, rfl, rfl⟩
    · rintro ⟨⟨⟨reread, atomic, isBound⟩, evidence⟩, rfl, rfl⟩
      exact ⟨reread, atomic, isBound, evidence, rfl⟩
  rcases commit_cases (settleGenerationAttempt ids now budgetFits row.attemptId claimToken
      settlement) s' with ⟨e, raised, outcome⟩ | ⟨t, reply, ok, outcome⟩
  · rw [outcome]
    refine ⟨rfl, ?_, ?_⟩
    · intro replied
      cases replied
    · intro accepted
      rw [(replays s' (.ok row)).mpr ⟨accepted, rfl, rfl⟩] at raised
      cases raised
  · rw [outcome]
    obtain ⟨accepted, rfl, rfl⟩ := (replays t reply).mp ok
    exact ⟨rfl, fun _ => accepted, fun _ => rfl⟩

/-- The second attempt is settled with its batch. -/
def settledCalls : List GenerationCall :=
  patientCalls ++ [.claim (seconds 101) 8 {} "worker" 60 none,
    .settle (seconds 102) true 303 8 patientSettlement]

/-- A claim that finds nothing, and another reconciliation. -/
def settledSequel : List GenerationCall :=
  [.claim (seconds 103) 9 {} "worker" 60 none, .reconcile (seconds 200) true 1]

/-- The settlement is presented again when the run awaits its review: it changes nothing and is
answered with the attempt. -/
theorem settlement_final_patient :
    ∃ attempt ∈ (runGenerationCalls patientIds settledCalls {}).attempts,
      attempt.state = .succeeded ∧
      commit (settleGenerationAttempt patientIds (seconds 300) true attempt.attemptId 8
          patientSettlement)
        (runGenerationCalls patientIds settledSequel
          (runGenerationCalls patientIds settledCalls {})) =
        (runGenerationCalls patientIds settledSequel
          (runGenerationCalls patientIds settledCalls {}), .ok (.ok attempt)) := by
  have checked : (runGenerationCalls patientIds settledCalls {}).attempts.rows.any
      (fun attempt => decide (attempt.state = .succeeded ∧
        attempt.lease.map AttemptLease.claimToken = some 8 ∧
          attempt.batch = patientSettlement.batchBinding ∧
            attempt.receipt = some patientSettlement.receipt)) = true := by
    decide +kernel
  simp only [List.any_eq_true, decide_eq_true_eq] at checked
  obtain ⟨attempt, stored, succeeded, ended⟩ := checked
  obtain ⟨-, unchanged, answered⟩ := settlement_final
    (steps_runGenerationCalls patientIds settledCalls {}) stored (.inl succeeded)
    (steps_runGenerationCalls patientIds settledSequel _) (seconds 300) true 8 patientSettlement
  exact ⟨attempt, stored, succeeded,
    Prod.ext unchanged (answered.mpr ⟨⟨rfl, rfl, rfl⟩, ended⟩)⟩

end Agent

end HcuAutoOpt
