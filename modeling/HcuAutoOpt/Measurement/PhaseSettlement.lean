import HcuAutoOpt.Measurement.PhaseRunner

/-!
# When a measured phase settles its budget

A run of the phase runner whose reservation was accepted settles it exactly when nothing
between the two budget calls raises outside a `try`. `Settles` says which inputs these are:
the durations can be charged, the usage record can be stored, the fence callback answers,
and what the harness raised can be reported. The first part of the module shows that the
code reaches its second budget call on these inputs and no others.

The second part is about a process that died between the calls and a second run of the
same request. Its reservation is a replay, and the repository compares the reserve entry
with its time of creation (`reserveRoundBudget_again`), so the second run gets past the
reservation only at the instant of the first.
-/

set_option autoImplicit false

namespace HcuAutoOpt

namespace M2Runner

open Foundation Foundation.Raising

/-! ## The condition -/

/-- The failure fits the fields of a usage record. -/
def M2PhaseHarnessFailure.Reportable (failure : M2PhaseHarnessFailure) : Prop :=
  0 ≤ failure.actualSampleCount ∧
  (1 ≤ failure.errorCode.length ∧ failure.errorCode.length ≤ 200) ∧
  (∀ uri ∈ failure.rawEvidenceUri, uri.length ≤ 4000) ∧
  (∀ hash ∈ failure.rawEvidenceHash, IsSha256 hash) ∧
  failure.telemetryWarnings.length ≤ 16 ∧
  failure.cleanupEvidence.all Evidence.encodable = true

/-- The exception can be reported: its details, or the name of its type. -/
def Raised.Reportable : Raised → Prop
  | .harnessFailure failure => failure.Reportable
  | .other typeName _ => 1 ≤ typeName.length ∧ typeName.length ≤ 200

section

variable (host : Host) (surroundings : Surroundings)

/-- The three durations are not negative and are floats, and the harness was not active
for longer than the lease was held. -/
def Timed (context : M2PhaseExecutionContext) : Prop :=
  ∃ harness lease wall,
    seconds host (surroundings.harnessFinishedNs - surroundings.harnessStartedNs) = .ok harness ∧
    seconds host (surroundings.finishedNs - context.leaseAcquiredMonotonicNs) = .ok lease ∧
    seconds host (surroundings.finishedNs - context.jobStartedMonotonicNs) = .ok wall ∧
    harness ≤ lease

/-- The inputs on which a run that reserved its budget settles it. -/
def Settles (round : SearchRound) (member : RoundCandidate)
    (request : M2PhaseMeasurementRequest) : Prop :=
  Timed host surroundings request.execution ∧ surroundings.storeUsage = .ok () ∧
  match measure surroundings round member request with
  | .error raised => raised.Reportable
  | .ok result => (∃ live, surroundings.fenceAfter = .ok live) ∧
      result.cleanupEvidence.encodable = true

end

/-! ## Plain exceptions -/

/-- An exception that only its type name describes, and shortly. -/
def Raised.Plain (raised : Raised) : Prop :=
  ∃ typeName message, raised = .other typeName message ∧ 1 ≤ typeName.length ∧
    typeName.length ≤ 200

/-- The code raises plain exceptions only. -/
def RaisesPlainly {α : Type} (x : Except Raised α) : Prop :=
  ∀ raised, x = .error raised → raised.Plain

section Plainness

variable {α β : Type}

theorem RaisesPlainly.bind {x : Except Raised α} {f : α → Except Raised β}
    (first : RaisesPlainly x) (rest : ∀ a, RaisesPlainly (f a)) : RaisesPlainly (x >>= f) := by
  intro raised refused
  cases result : x with
  | error e =>
      rw [result] at refused
      cases refused
      exact first raised result
  | ok a =>
      rw [result] at refused
      exact rest a raised refused

theorem raisesPlainly_pure (a : α) : RaisesPlainly (pure a : Except Raised α) := by
  intro raised refused
  cases refused

theorem raisesPlainly_error {raised : Raised} (plain : raised.Plain) :
    RaisesPlainly (.error raised : Except Raised α) := by
  intro other refused
  cases refused
  exact plain

theorem raisesPlainly_require {p : Prop} [Decidable p] {raised : Raised} (plain : raised.Plain) :
    RaisesPlainly (require p raised) := by
  unfold require
  split
  · exact raisesPlainly_pure ()
  · exact raisesPlainly_error plain

theorem raisesPlainly_requireSome {found : Option α} {raised : Raised} (plain : raised.Plain) :
    RaisesPlainly (requireSome found raised) := by
  cases found with
  | none => exact raisesPlainly_error plain
  | some a => exact raisesPlainly_pure a

theorem safety_plain (message : String) : (safety message).Plain :=
  ⟨_, _, rfl, by decide, by decide⟩

theorem invalid_plain (model : String) : (invalid model).Plain :=
  ⟨_, _, rfl, by decide, by decide⟩

theorem assertion_plain : (Raised.other "AssertionError" "").Plain :=
  ⟨_, _, rfl, by decide, by decide⟩

theorem fileError_plain (e : FileError) (uri : String) : (Raised.other e.typeName uri).Plain := by
  refine ⟨_, _, rfl, ?_⟩
  cases e <;> decide

theorem Raised.Plain.reportable {raised : Raised} (plain : raised.Plain) :
    raised.Reportable := by
  obtain ⟨typeName, message, rfl, bounds⟩ := plain
  exact bounds

end Plainness

/-! ## Reaching the second budget call -/

section Reaching

variable {host : Host} {surroundings : Surroundings}
variable {round : SearchRound} {member : RoundCandidate} {request : M2PhaseMeasurementRequest}

theorem validateHarnessResult_plain (result : M2ScriptedHarnessResult) :
    RaisesPlainly (validateHarnessResult host surroundings round member request result) := by
  unfold validateHarnessResult
  refine (raisesPlainly_require (safety_plain _)).bind fun _ => ?_
  refine RaisesPlainly.bind ?_ fun encoded => ?_
  · unfold Surroundings.readRaw
    cases surroundings.readEvidence result.rawEvidenceUri with
    | ok encoded => exact raisesPlainly_pure encoded
    | error e => exact raisesPlainly_error (fileError_plain e _)
  · refine (raisesPlainly_require (safety_plain _)).bind fun _ => ?_
    refine (raisesPlainly_requireSome (invalid_plain _)).bind fun evidence => ?_
    exact raisesPlainly_require (safety_plain _)

theorem scriptedReceipt_plain (result : M2ScriptedHarnessResult) :
    RaisesPlainly (scriptedReceipt host round member request result) := by
  unfold scriptedReceipt
  refine (raisesPlainly_requireSome assertion_plain).bind fun _ => ?_
  refine (raisesPlainly_requireSome assertion_plain).bind fun _ => ?_
  refine (raisesPlainly_requireSome assertion_plain).bind fun _ => ?_
  refine (raisesPlainly_requireSome assertion_plain).bind fun _ => ?_
  exact (raisesPlainly_require (invalid_plain _)).bind fun _ => raisesPlainly_pure _

theorem isolationValidate_plain (registry : List M2ScriptedPhaseReceipt)
    (receipt : M2ScriptedPhaseReceipt) : RaisesPlainly (isolationValidate registry receipt) := by
  unfold isolationValidate
  cases reusedField? registry receipt with
  | some field => exact raisesPlainly_error (safety_plain _)
  | none => exact raisesPlainly_require (safety_plain _)

/-- The checks of a measured result raise plain exceptions only. -/
theorem acceptResult_plain (registry : List M2ScriptedPhaseReceipt)
    (result : M2ScriptedHarnessResult) :
    RaisesPlainly (acceptResult host surroundings registry round member request result) := by
  unfold acceptResult
  refine (validateHarnessResult_plain result).bind fun _ => ?_
  refine (scriptedReceipt_plain result).bind fun receipt => ?_
  exact (isolationValidate_plain registry receipt).bind fun _ => raisesPlainly_pure _

theorem usageRecord_terminalShape {result : Option M2ScriptedHarnessResult}
    {failure : Option Raised} {actual : BudgetUsage} {lease harness : NNRat}
    (found : failure = none → result ≠ none) :
    (usageRecord request result failure actual lease harness).TerminalShape ↔
      harness ≤ lease := by
  rcases failure with _ | ⟨failure⟩ | ⟨typeName, message⟩
  · obtain ⟨result, rfl⟩ := Option.ne_none_iff_exists'.mp (found rfl)
    simp [M2PhaseUsageEvidence.TerminalShape, usageRecord]
  · simp [M2PhaseUsageEvidence.TerminalShape, usageRecord]
  · simp [M2PhaseUsageEvidence.TerminalShape, usageRecord]

/-- What the fields of a finding must be for its usage to be recorded. -/
def Finding.Reportable (request : M2PhaseMeasurementRequest) (finding : Finding) : Prop :=
  0 ≤ actualSampleCount finding.result finding.failure ∧
  (usageRecord request finding.result finding.failure {} 0 0).Bounded ∧
  (usageRecord request finding.result finding.failure {} 0 0).encodable = true

/-- The bounds of a usage record do not depend on what it charges. -/
theorem usageRecord_bounded {result : Option M2ScriptedHarnessResult} {failure : Option Raised}
    {actual : BudgetUsage} {lease harness : NNRat} :
    (usageRecord request result failure actual lease harness).Bounded ↔
      (usageRecord request result failure {} 0 0).Bounded := by
  rcases failure with _ | ⟨failure⟩ | ⟨typeName, message⟩
  · exact Iff.rfl
  · exact Iff.rfl
  · exact Iff.rfl

/-- Nor does its encoding. -/
theorem usageRecord_encodable {result : Option M2ScriptedHarnessResult} {failure : Option Raised}
    {actual : BudgetUsage} {lease harness : NNRat} :
    (usageRecord request result failure actual lease harness).encodable =
      (usageRecord request result failure {} 0 0).encodable := by
  rcases failure with _ | ⟨failure⟩ | ⟨typeName, message⟩
  · rfl
  · rfl
  · rfl

/-- A failure of the harness is recorded with its own details. -/
theorem reportable_of_failure (raised : Raised) :
    Finding.Reportable request { failure := some raised } ↔ raised.Reportable := by
  rcases raised with failure | ⟨typeName, message⟩
  · simp only [Finding.Reportable, actualSampleCount, usageRecord, M2PhaseUsageEvidence.Bounded,
      M2PhaseUsageEvidence.encodable, Raised.Reportable, M2PhaseHarnessFailure.Reportable,
      Option.mem_def, Option.some.injEq, forall_eq']
    tauto
  · simp [Finding.Reportable, actualSampleCount, usageRecord, M2PhaseUsageEvidence.Bounded,
      M2PhaseUsageEvidence.encodable, Raised.Reportable]

/-- A result is recorded with its own details, which its model has checked. -/
theorem reportable_of_result {result : M2ScriptedHarnessResult} {failure : Option Raised}
    {receipt : Option M2ScriptedPhaseReceipt} (plain : ∀ raised ∈ failure, raised.Plain) :
    Finding.Reportable request { result := some result, failure, receipt } ↔
      result.cleanupEvidence.encodable = true := by
  rcases failure with _ | raised
  · simp [Finding.Reportable, actualSampleCount, usageRecord, M2PhaseUsageEvidence.Bounded,
      M2PhaseUsageEvidence.encodable, result.uriBounded, result.hashPattern,
      result.valid.warningCount]
  · obtain ⟨typeName, message, rfl, bounds⟩ := plain raised rfl
    simp [Finding.Reportable, actualSampleCount, usageRecord, M2PhaseUsageEvidence.Bounded,
      M2PhaseUsageEvidence.encodable, result.uriBounded, result.hashPattern,
      result.valid.warningCount, bounds]

theorem terminalLedger_settle (host : Host) (plan : M2PhaseBudgetReservationPlan)
    (actual : BudgetUsage) (lease harness : NNRat) (usageHash : String) (now : Int)
    (ordered : harness ≤ lease)
    (charged : actual.exclusiveLeaseSeconds = lease) :
    terminalLedger host plan .settle actual lease harness usageHash now =
      .ok (terminalEntry host plan .settle actual lease harness usageHash now) := by
  have valid : (terminalEntry host plan .settle actual lease harness usageHash now).Valid := by
    refine ⟨lease.2, harness.2, by exact_mod_cast ordered, ?_, ?_⟩
    · rintro -
      change isClose actual.exclusiveLeaseSeconds lease
      rw [charged]
      exact isClose_self _
    · exact fun other => absurd rfl other
  have terminal : (terminalEntry host plan .settle actual lease harness usageHash now).entryType ∈
      [RoundBudgetEntryType.settle, .release] := List.mem_cons_self
  unfold terminalLedger
  simp only [require, valid, terminal, if_true]
  rfl

/-- The usage that a settlement charges. -/
def chargedUsage (request : M2PhaseMeasurementRequest) (finding : Finding)
    (lease wall : NNRat) : BudgetUsage :=
  let samples := (actualSampleCount finding.result finding.failure).toNat
  { searchSamples := if request.reservation.phase = .search then samples else 0
    holdoutSamples := if request.reservation.phase = .holdout then samples else 0
    wallSeconds := wall
    exclusiveLeaseSeconds := lease }

/-- A settlement that gets through charges the three durations. -/
theorem settlement_eq_ok {finding : Finding} {entry : RoundBudgetLedgerEntry}
    (ok : settlement host surroundings request finding = .ok entry) :
    ∃ harness lease wall usageHash,
      seconds host (surroundings.harnessFinishedNs - surroundings.harnessStartedNs)
        = .ok harness ∧
      seconds host (surroundings.finishedNs - request.execution.leaseAcquiredMonotonicNs)
        = .ok lease ∧
      seconds host (surroundings.finishedNs - request.execution.jobStartedMonotonicNs)
        = .ok wall ∧
      0 ≤ actualSampleCount finding.result finding.failure ∧
      (usageRecord request finding.result finding.failure
        (chargedUsage request finding lease wall) lease harness).Bounded ∧
      (usageRecord request finding.result finding.failure
        (chargedUsage request finding lease wall) lease harness).TerminalShape ∧
      (usageRecord request finding.result finding.failure
        (chargedUsage request finding lease wall) lease harness).encodable = true ∧
      surroundings.storeUsage = .ok () ∧
      entry = terminalEntry host request.reservation .settle
        (chargedUsage request finding lease wall) lease harness usageHash
        surroundings.settledAt := by
  simp only [settlement, actualUsage, usageEvidence, terminalLedger, Except.bind_eq_ok,
    require_eq_ok, pure, Except.pure, Except.ok.injEq] at ok
  obtain ⟨harness, active, lease, held, wall, ran, actual, ⟨_, counted, rfl⟩, usage,
    ⟨_, ⟨bounded, shaped⟩, rfl⟩, _, encodable, _, stored, _, _, _, _, rfl⟩ := ok
  exact ⟨harness, lease, wall, _, active, held, ran, counted, bounded, shaped, encodable,
    stored, rfl⟩

/-- The settle entry is built exactly when the durations can be charged, the usage can be
recorded and the record can be stored. -/
theorem settlement_ok_iff {finding : Finding}
    (found : finding.failure = none → finding.result ≠ none) :
    (∃ entry, settlement host surroundings request finding = .ok entry) ↔
      Timed host surroundings request.execution ∧ surroundings.storeUsage = .ok () ∧
        finding.Reportable request := by
  constructor
  · rintro ⟨entry, ok⟩
    obtain ⟨harness, lease, wall, usageHash, active, held, ran, counted, bounded, shaped,
      encodable, stored, -⟩ := settlement_eq_ok ok
    exact ⟨⟨harness, lease, wall, active, held, ran,
      (usageRecord_terminalShape found).mp shaped⟩, stored, counted,
      usageRecord_bounded.mp bounded, usageRecord_encodable.symm.trans encodable⟩
  · rintro ⟨⟨harness, lease, wall, active, held, ran, ordered⟩, stored, counted, bounded,
      encodable⟩
    have shaped : (usageRecord request finding.result finding.failure
        (chargedUsage request finding lease wall) lease harness).TerminalShape :=
      (usageRecord_terminalShape found).mpr ordered
    have inBounds : (usageRecord request finding.result finding.failure
        (chargedUsage request finding lease wall) lease harness).Bounded :=
      usageRecord_bounded.mpr bounded
    have encodes : (usageRecord request finding.result finding.failure
        (chargedUsage request finding lease wall) lease harness).encodable = true :=
      usageRecord_encodable.trans encodable
    have charges : actualUsage request.reservation.phase
        (actualSampleCount finding.result finding.failure) wall lease =
          .ok (chargedUsage request finding lease wall) := by
      simp only [actualUsage, require, counted, if_true]
      rfl
    have records : usageEvidence request finding.result finding.failure
        (chargedUsage request finding lease wall) lease harness =
          .ok (usageRecord request finding.result finding.failure
            (chargedUsage request finding lease wall) lease harness) := by
      simp only [usageEvidence, require, inBounds, shaped, and_self, if_true]
      rfl
    have settles := terminalLedger_settle host request.reservation
      (chargedUsage request finding lease wall) lease harness (host.usageHash
        (usageRecord request finding.result finding.failure
          (chargedUsage request finding lease wall) lease harness))
      surroundings.settledAt ordered rfl
    refine ⟨_, Except.bind_eq_ok.mpr ⟨harness, active, Except.bind_eq_ok.mpr ⟨lease, held,
      Except.bind_eq_ok.mpr ⟨wall, ran, Except.bind_eq_ok.mpr ⟨_, charges,
        Except.bind_eq_ok.mpr ⟨_, records, Except.bind_eq_ok.mpr ⟨(), require_eq_ok.mpr encodes,
          Except.bind_eq_ok.mpr ⟨(), stored, settles⟩⟩⟩⟩⟩⟩⟩⟩

variable (host surroundings round member request) in
/-- Which findings the code between the two budget calls ends with. -/
theorem observe_cases (registry : List M2ScriptedPhaseReceipt) :
    (∃ raised, measure surroundings round member request = .error raised ∧
      observe host surroundings registry round member request =
        .ok { failure := some raised }) ∨
    ∃ result, measure surroundings round member request = .ok result ∧
      ((∃ raised, surroundings.fenceAfter = .error raised ∧
        observe host surroundings registry round member request = .error raised) ∨
      ∃ live failure receipt, surroundings.fenceAfter = .ok live ∧
        (∀ raised ∈ failure, Raised.Plain raised) ∧
        observe host surroundings registry round member request =
          .ok { result := some result, failure, receipt }) := by
  unfold observe
  cases measure surroundings round member request with
  | error raised => exact .inl ⟨raised, rfl, rfl⟩
  | ok result =>
      refine .inr ⟨result, rfl, ?_⟩
      rcases surroundings.fenceAfter with raised | _ | _
      · exact .inl ⟨raised, rfl, rfl⟩
      · refine .inr ⟨false, some _, none, rfl, ?_, rfl⟩
        rintro raised ⟨⟩
        exact safety_plain _
      · cases accepted : acceptResult host surroundings registry round member request result with
        | error raised =>
            refine .inr ⟨true, some raised, none, rfl, ?_, by simp only [accepted]⟩
            rintro other ⟨⟩
            exact acceptResult_plain registry result raised accepted
        | ok receipt =>
            exact .inr ⟨true, none, some receipt, rfl, by simp, by simp only [accepted]⟩

variable (host surroundings round member request) in
/-- The code reaches the second budget call exactly on the inputs of `Settles`. -/
theorem settlement_reached_iff (registry : List M2ScriptedPhaseReceipt) :
    (∃ finding entry, observe host surroundings registry round member request = .ok finding ∧
      settlement host surroundings request finding = .ok entry) ↔
      Settles host surroundings round member request := by
  unfold Settles
  rcases observe_cases host surroundings round member request registry with
    ⟨raised, measured, observed⟩ | ⟨result, measured, ⟨raised, fenced, observed⟩ |
      ⟨live, failure, receipt, fenced, plain, observed⟩⟩
  · simp only [measured, observed, Except.ok.injEq, exists_and_left, exists_eq_left']
    rw [settlement_ok_iff (by simp), reportable_of_failure]
  · simp [measured, observed, fenced]
  · simp only [measured, observed, fenced, Except.ok.injEq, exists_and_left, exists_eq_left',
      exists_eq', true_and]
    rw [settlement_ok_iff (by simp), reportable_of_result plain]

end Reaching

/-! ## The calls of a run -/

/-- An accepted call of `reserve`. -/
def AuthorityCall.reserves : AuthorityCall → Bool
  | .reserve _ _ accepted => accepted
  | .finalize .. => false

/-- A call of `finalize`. -/
def AuthorityCall.finalizes : AuthorityCall → Bool
  | .reserve .. => false
  | .finalize .. => true

/-- The run got its reservation accepted. -/
def World.Reserved {σ : Type} (w : World σ) : Prop := w.issued.any AuthorityCall.reserves = true

instance {σ : Type} (w : World σ) : Decidable w.Reserved := by
  unfold World.Reserved
  infer_instance

/-- The run finalized once, and settled the reservation of its plan by it. -/
def World.SettledOnce {σ : Type} (w : World σ) (plan : M2PhaseBudgetReservationPlan) : Prop :=
  ∃ entry accepted, w.issued.filter AuthorityCall.finalizes = [.finalize entry accepted] ∧
    entry.entryType = .settle ∧ entry.reservationId = plan.reservationId ∧
    entry.roundId = plan.roundId ∧ entry.reserved = plan.planned

/-- The reserve request of a plan at an instant. -/
def reserveOf (host : Host) (plan : M2PhaseBudgetReservationPlan) (now : Int) :
    RoundBudgetReservation × RoundBudgetLedgerEntry :=
  reserveRequest host plan (host.reservationHash plan) now

section Calls

variable {σ : Type} {host : Host} {surroundings : Surroundings} {authority : BudgetAuthority σ}
variable {round : SearchRound} {member : RoundCandidate} {request : M2PhaseMeasurementRequest}

theorem run_lift_bind {α β : Type} (x : Except Raised α) (f : α → Raising Raised σ β) (s : σ) :
    (lift x >>= f).run s =
      match x with
      | .ok a => (f a).run s
      | .error e => (.error e, s) := by
  cases x <;> rfl

theorem issue_of_ok {call : Raising Raised σ MutationResult} {record : Bool → AuthorityCall}
    {w : World σ} {reply : MutationResult} {t : σ} (answer : call.run w.authority = (.ok reply, t)) :
    (issue call record).run w =
      (.ok reply, { w with authority := t, issued := w.issued ++ [record true] }) := by
  simp only [Raising.run] at answer
  simp only [Raising.run, issue, answer]
  rfl

theorem issue_of_error {call : Raising Raised σ MutationResult} {record : Bool → AuthorityCall}
    {w : World σ} {raised : Raised} {t : σ} (answer : call.run w.authority = (.error raised, t)) :
    (issue call record).run w =
      (.error raised, { w with authority := t, issued := w.issued ++ [record false] }) := by
  simp only [Raising.run] at answer
  simp only [Raising.run, issue, answer]
  rfl

variable (host surroundings round member request) in
/-- The first budget call is made when nothing before it raises. -/
theorem reservePhase_cases (authority : BudgetAuthority σ) (w : World σ) :
    (¬(validateAuthority round member request = .ok () ∧ surroundings.fenceBefore = .ok true ∧
        surroundings.storeReservation = .ok ()) ∧
      ∃ raised, (reservePhase host surroundings authority round member request).run w
        = (.error raised, w)) ∨
    (validateAuthority round member request = .ok () ∧ surroundings.fenceBefore = .ok true ∧
        surroundings.storeReservation = .ok ()) ∧
      (reservePhase host surroundings authority round member request).run w =
        (issue (authority.reserve (reserveOf host request.reservation surroundings.reservedAt).1
            (reserveOf host request.reservation surroundings.reservedAt).2)
          (.reserve (reserveOf host request.reservation surroundings.reservedAt).1
            (reserveOf host request.reservation surroundings.reservedAt).2)).run w := by
  unfold reservePhase
  rw [run_lift_bind]
  rcases validateAuthority round member request with raised | _
  · exact .inl ⟨by simp, raised, rfl⟩
  simp only
  rw [run_lift_bind]
  rcases surroundings.fenceBefore with raised | _ | _
  · exact .inl ⟨by simp, raised, rfl⟩
  · exact .inl ⟨by simp, _, rfl⟩
  have passes : (raiseIf (true = false)
      (safety "M2 phase execution rejected a stale Fence") : Raising Raised (World σ) Unit) =
      pure () := rfl
  simp only [passes]
  rcases stored : surroundings.storeReservation with raised | _
  · exact .inl ⟨by simp, raised, rfl⟩
  · exact .inr ⟨by simp, rfl⟩

/-- The end of a run makes no call. -/
theorem conclude_world (finding : Finding) (reserved settled : MutationResult) (w : World σ) :
    ((conclude finding reserved settled).run w).2.issued = w.issued ∧
      ((conclude finding reserved settled).run w).2.authority = w.authority := by
  rcases finding with ⟨result, _ | raised, _ | receipt⟩
  · exact ⟨rfl, rfl⟩
  · simp only [conclude, run_get_bind, run_lift_bind]
    cases isolationValidate w.registry receipt with
    | error raised => exact ⟨rfl, rfl⟩
    | ok _ => exact ⟨rfl, rfl⟩
  · exact ⟨rfl, rfl⟩
  · exact ⟨rfl, rfl⟩

/-- The world after the second budget call and the end of the run. -/
theorem finalize_world (authority : BudgetAuthority σ) (entry : RoundBudgetLedgerEntry) (finding : Finding)
    (reserved : MutationResult) (w : World σ) :
    ∃ accepted,
      ((issue (authority.finalize entry) (.finalize entry) >>=
          conclude finding reserved).run w).2.issued
        = w.issued ++ [.finalize entry accepted] ∧
      ((issue (authority.finalize entry) (.finalize entry) >>=
          conclude finding reserved).run w).2.authority
        = ((authority.finalize entry).run w.authority).2 := by
  rcases answer : (authority.finalize entry).run w.authority with ⟨raised | settled, t⟩
  · rw [run_bind_of_error (issue_of_error answer)]
    exact ⟨false, rfl, rfl⟩
  · rw [run_bind_of_ok (issue_of_ok answer)]
    obtain ⟨issued, kept⟩ := conclude_world finding reserved settled
      { w with authority := t, issued := w.issued ++ [.finalize entry true] }
    exact ⟨true, issued, kept⟩

/-- The rest of a run whose reservation was accepted. -/
theorem run_of_reserved {w w' : World σ} {reserved : MutationResult}
    (accepted : (reservePhase host surroundings authority round member request).run w
      = (.ok reserved, w')) :
    (run host surroundings authority round member request).run w =
      match observe host surroundings w'.registry round member request with
      | .error raised => (.error raised, w')
      | .ok finding =>
          match settlement host surroundings request finding with
          | .error raised => (.error raised, w')
          | .ok entry =>
              (issue (authority.finalize entry) (.finalize entry) >>=
                conclude finding reserved).run w' := by
  unfold run
  rw [run_bind_of_ok accepted, run_get_bind, run_lift_bind]
  cases observe host surroundings w'.registry round member request with
  | error raised => rfl
  | ok finding =>
      simp only
      rw [run_lift_bind]
      cases settlement host surroundings request finding with
      | error raised => rfl
      | ok entry => rfl

/-- A run finalizes exactly on the inputs of `Settles`. -/
theorem run_finalizes_iff {w w' : World σ} {reserved : MutationResult}
    (accepted : (reservePhase host surroundings authority round member request).run w
      = (.ok reserved, w')) :
    (Settles host surroundings round member request ∧ ∃ finding entry accepted,
        settlement host surroundings request finding = .ok entry ∧
        ((run host surroundings authority round member request).run w).2.issued
          = w'.issued ++ [.finalize entry accepted] ∧
        ((run host surroundings authority round member request).run w).2.authority
          = ((authority.finalize entry).run w'.authority).2) ∨
      ¬Settles host surroundings round member request ∧
        ((run host surroundings authority round member request).run w).2 = w' := by
  rw [run_of_reserved accepted]
  have reached := settlement_reached_iff host surroundings round member request w'.registry
  cases observed : observe host surroundings w'.registry round member request with
  | error raised =>
      refine .inr ⟨fun settles => ?_, rfl⟩
      obtain ⟨finding, entry, found, -⟩ := reached.mpr settles
      rw [observed] at found
      cases found
  | ok finding =>
      cases settled : settlement host surroundings request finding with
      | error raised =>
          refine .inr ⟨fun settles => ?_, by simp only [settled]⟩
          obtain ⟨other, entry, found, built⟩ := reached.mpr settles
          rw [observed] at found
          cases found
          rw [settled] at built
          cases built
      | ok entry =>
          refine .inl ⟨reached.mp ⟨finding, entry, observed, settled⟩, finding, entry, ?_⟩
          simp only [settled]
          obtain ⟨answer, issued, kept⟩ := finalize_world authority entry finding reserved w'
          exact ⟨answer, trivial, issued, kept⟩

variable (host surroundings round member request) in
/-- How the first budget call leaves a world in which no call was made. -/
theorem reservePhase_start (authority : BudgetAuthority σ) (state : σ)
    (registry : List M2ScriptedPhaseReceipt) :
    (∃ raised w', (reservePhase host surroundings authority round member request).run
        (World.start state registry) = (.error raised, w') ∧ ¬w'.Reserved) ∨
    ∃ reserved w', (reservePhase host surroundings authority round member request).run
        (World.start state registry) = (.ok reserved, w') ∧
      (∃ reserve entry, w'.issued = [.reserve reserve entry true]) ∧ w'.Reserved := by
  rcases reservePhase_cases host surroundings round member request authority
    (World.start state registry) with
    ⟨-, raised, refused⟩ | ⟨-, called⟩
  · exact .inl ⟨raised, _, refused, by simp [World.Reserved, World.start]⟩
  · rw [called]
    generalize reserveOf host request.reservation surroundings.reservedAt = reserve
    rcases answer : (authority.reserve reserve.1 reserve.2).run state with ⟨raised | reserved, t⟩
    · refine .inl ⟨raised, _, issue_of_error answer, ?_⟩
      simp [World.Reserved, World.start, AuthorityCall.reserves]
    · refine .inr ⟨reserved, _, issue_of_ok answer, ⟨_, _, rfl⟩, ?_⟩
      simp [World.Reserved, AuthorityCall.reserves]

variable (host surroundings round member request) in
/-- A run reserves exactly when its first budget call does. -/
theorem run_reserved_iff (authority : BudgetAuthority σ) (state : σ)
    (registry : List M2ScriptedPhaseReceipt) :
    ((run host surroundings authority round member request).run
        (World.start state registry)).2.Reserved ↔
      ((reservePhase host surroundings authority round member request).run
        (World.start state registry)).2.Reserved := by
  rcases reservePhase_start host surroundings round member request authority state registry with
    ⟨raised, w', refused, never⟩ | ⟨reply, w', accepted, -, here⟩
  · unfold run
    rw [run_bind_of_error refused, refused]
  · rw [accepted]
    refine iff_of_true ?_ here
    rcases run_finalizes_iff accepted with ⟨-, finding, entry, answer, -, called, -⟩ | ⟨-, still⟩
    · rw [World.Reserved, called, List.any_append, here, Bool.true_or]
    · rw [still]
      exact here

/-- A run whose reservation was accepted settles it once, exactly on the inputs of
`Settles`. -/
theorem run_settles_iff (authority : BudgetAuthority σ) (state : σ)
    (registry : List M2ScriptedPhaseReceipt)
    (reserved : ((run host surroundings authority round member request).run
      (World.start state registry)).2.Reserved) :
    ((run host surroundings authority round member request).run
        (World.start state registry)).2.SettledOnce request.reservation ↔
      Settles host surroundings round member request := by
  rcases reservePhase_start host surroundings round member request authority state
    registry with
    ⟨raised, w', refused, never⟩ | ⟨reply, w', accepted, ⟨reserve, first, issued⟩, -⟩
  · refine absurd reserved ?_
    unfold run
    rw [run_bind_of_error refused]
    exact never
  · rcases run_finalizes_iff accepted with
      ⟨settles, finding, entry, answer, settled, called, -⟩ | ⟨leaks, still⟩
    · refine ⟨fun _ => settles, fun _ => ⟨entry, answer, ?_, ?_⟩⟩
      · rw [called, issued]
        rfl
      · obtain ⟨harness, lease, wall, usageHash, -, -, -, -, -, -, -, -, rfl⟩ :=
          settlement_eq_ok settled
        exact ⟨rfl, rfl, rfl, rfl⟩
    · refine ⟨fun settled => ?_, fun settles => absurd settles leaks⟩
      rw [still] at settled
      obtain ⟨entry, answer, called, -⟩ := settled
      rw [issued] at called
      cases called

end Calls

/-! ## A second run of the same request -/

section Again

variable {host : Host}

/-- A terminal entry of a reservation. -/
def Terminal (s : Store) (reservationId : Uuid) (entry : RoundBudgetLedgerEntry) : Prop :=
  entry ∈ s.budgetLedger ∧ entry.reservationId = reservationId ∧
    entry.entryType ∈ [RoundBudgetEntryType.settle, .release]

/-- The store holds one reservation of the plan and one terminal entry for it. -/
def ClosedOnce (s : Store) (plan : M2PhaseBudgetReservationPlan) : Prop :=
  (∃! row, row ∈ s.budgetReservations ∧ row.reservationId = plan.reservationId) ∧
    ∃! entry, Terminal s plan.reservationId entry

/-- What an accepted reservation of a plan leaves in the store. -/
structure HoldsReservation (host : Host) (plan : M2PhaseBudgetReservationPlan) (now : Int)
    (t : Store) : Prop where
  planned : plan.planned.isZero = false
  round : ∃ round, t.searchRounds.find? plan.roundId = some round
  row : ∃ row, t.budgetReservations.rows.find? (reserveOf host plan now).1.clashes = some row ∧
    row.toReservationIdentity = (reserveOf host plan now).1.toReservationIdentity
  entry : t.ledgerEntry? plan.reservationId [.reserve] = some (reserveOf host plan now).2

theorem reserveRoundBudget_stored {plan : M2PhaseBudgetReservationPlan} {now : Int}
    {s t : Store} {reply : MutationResult}
    (ok : reserveRoundBudget (reserveOf host plan now).1 (reserveOf host plan now).2 s
      = .ok (t, reply)) : HoldsReservation host plan now t := by
  simp only [reserveRoundBudget, Except.bind_eq_ok, require_eq_ok,
    Store.requireRound_eq_ok] at ok
  obtain ⟨_, _, _, planned, _, _, round, found, ok⟩ := ok
  split at ok
  · rename_i row present
    simp only [Except.bind_eq_ok, require_eq_ok, requireSome_eq_ok] at ok
    obtain ⟨_, same, persisted, stored, _, rfl, ok⟩ := ok
    cases ok
    exact ⟨planned, ⟨round, found⟩, ⟨row, present, same⟩, stored⟩
  · rename_i absent
    simp only [persistReservation, Except.bind_eq_ok, require_eq_ok, requireBudget_eq_ok] at ok
    obtain ⟨_, _, _, _, _, _, _, _, _, unclashed, ok⟩ := ok
    cases ok
    have newRow : s.budgetReservations.find? plan.reservationId = none := by
      refine Table.find?_eq_none_iff.mpr fun row present same => ?_
      have apart := List.find?_eq_none.mp absent row present
      exact apart (decide_eq_true (.inl same))
    have newEntry : s.budgetLedger.find? (reserveOf host plan now).2.ledgerEntryId = none := by
      refine Table.find?_eq_none_iff.mpr fun row present same => ?_
      have apart := List.any_eq_false.mp unclashed row present
      exact apart (decide_eq_true (.inl same))
    refine ⟨planned, ⟨round, found⟩, ⟨(reserveOf host plan now).1, ?_, rfl⟩, ?_⟩
    · have inserted : (s.budgetReservations.insertIfAbsent (reserveOf host plan now).1).rows =
          s.budgetReservations.rows ++ [(reserveOf host plan now).1] :=
        Table.insertIfAbsent_of_absent newRow
      rw [inserted, List.find?_append, absent]
      simp [RoundBudgetReservation.clashes]
    · have unreserved : s.ledgerEntry? plan.reservationId [.reserve] = none := by
        refine List.find?_eq_none.mpr fun row present chosen => ?_
        have apart := List.any_eq_false.mp unclashed row present
        obtain ⟨own, reserves⟩ := of_decide_eq_true chosen
        exact apart (decide_eq_true (.inr (.inl ⟨own, List.mem_singleton.mp reserves⟩)))
      unfold Store.ledgerEntry? at unreserved ⊢
      have inserted : (s.budgetLedger.insertIfAbsent (reserveOf host plan now).2.reserving).rows =
          s.budgetLedger.rows ++ [(reserveOf host plan now).2.reserving] :=
        Table.insertIfAbsent_of_absent newEntry
      rw [inserted, List.find?_append, unreserved]
      simp [RoundBudgetLedgerEntry.reserving, reserveOf, reserveRequest]

/-- **A reservation is replayed at its own instant only**: the stored entry has the time
of the first call. -/
theorem reserveRoundBudget_again {plan : M2PhaseBudgetReservationPlan} {now : Int}
    (now' : Int) {t : Store} (holds : HoldsReservation host plan now t) :
    (now' = now ∧ ∃ reply, reserveRoundBudget (reserveOf host plan now').1
        (reserveOf host plan now').2 t = .ok (t, reply)) ∨
      now' ≠ now ∧ ∃ e, reserveRoundBudget (reserveOf host plan now').1
        (reserveOf host plan now').2 t = .error e := by
  obtain ⟨planned, ⟨round, found⟩, ⟨row, present, same⟩, stored⟩ := holds
  have present' : t.budgetReservations.rows.find? (reserveOf host plan now').1.clashes
      = some row := present
  have sameIds : row.toReservationIdentity =
      (reserveOf host plan now').1.toReservationIdentity := same
  have reserves : (reserveOf host plan now').2.entryType = .reserve ∧
      (reserveOf host plan now').2.reservationId = (reserveOf host plan now').1.reservationId ∧
      (reserveOf host plan now').2.roundId = (reserveOf host plan now').1.roundId ∧
      (reserveOf host plan now').2.reserved = (reserveOf host plan now').1.planned :=
    ⟨rfl, rfl, rfl, rfl⟩
  have opens : t.requireRound (reserveOf host plan now').1.roundId = .ok round :=
    Store.requireRound_eq_ok.mpr found
  have entered : requireSome
      (t.ledgerEntry? (reserveOf host plan now').1.reservationId [.reserve])
      (Error.conflict "M2a Budget reservation is missing its reserve ledger event") =
        .ok (reserveOf host plan now).2 := requireSome_eq_ok.mpr stored
  have replays : reserveRoundBudget (reserveOf host plan now').1 (reserveOf host plan now').2 t =
      (require ((reserveOf host plan now).2 = (reserveOf host plan now').2)
          (.conflict "M2a Budget reserve event was replayed with other inputs") >>= fun _ =>
        .ok (t, row, (reserveOf host plan now).2)) := by
    unfold reserveRoundBudget
    rw [show require ((reserveOf host plan now').1.state = .reserved) _ = .ok () from if_pos rfl,
      show require ((reserveOf host plan now').1.planned.isZero = false) _ = .ok () from
        if_pos planned,
      show require (_ ∧ _ ∧ _ ∧ _) _ = .ok () from if_pos reserves, opens]
    simp only [present', entered,
      show require (row.toReservationIdentity =
        (reserveOf host plan now').1.toReservationIdentity) _ = .ok () from if_pos sameIds,
      bind, Except.bind, pure, Except.pure]
  rw [replays]
  by_cases instant : now' = now
  · refine .inl ⟨instant, _, Except.bind_eq_ok.mpr ⟨(), require_eq_ok.mpr ?_, rfl⟩⟩
    rw [instant]
  · refine .inr ⟨instant, .conflict "M2a Budget reserve event was replayed with other inputs", ?_⟩
    have differs : (reserveOf host plan now).2 ≠ (reserveOf host plan now').2 := fun same =>
      instant (congrArg RoundBudgetLedgerEntry.createdAt same).symm
    rw [show require ((reserveOf host plan now).2 = (reserveOf host plan now').2) _ = _ from
      if_neg differs]
    rfl

/-- The reservation of a plan can still be settled: it is open, and no other entry has the
identity of its settle entry. -/
structure Settleable (host : Host) (plan : M2PhaseBudgetReservationPlan) (t : Store) : Prop where
  isOpen : ∃ row, t.budgetReservations.find? plan.reservationId = some row ∧ row.state = .reserved
  unsettled : ∀ entry, ¬Terminal t plan.reservationId entry
  free : ∀ row ∈ t.budgetLedger,
    row.ledgerEntryId ≠ terminalId host plan .settle ∧
    ¬(row.roundId = plan.roundId ∧ row.idempotencyKey = terminalKey plan .settle)

section Finalizing

variable {plan : M2PhaseBudgetReservationPlan} {now : Int} {t : Store}
variable {actual : BudgetUsage} {lease harness : NNRat} {usageHash : String} {settledAt : Int}

/-- The reservation row of the plan, found by its key. -/
theorem HoldsReservation.found (holds : HoldsReservation host plan now t) :
    ∃ row, t.budgetReservations.find? plan.reservationId = some row ∧
      row.roundId = plan.roundId ∧ row.planned = plan.planned := by
  obtain ⟨row, present, same⟩ := holds.row
  have own : row.reservationId = plan.reservationId :=
    congrArg ReservationIdentity.reservationId same
  refine ⟨row, ?_, congrArg ReservationIdentity.roundId same,
    congrArg ReservationIdentity.planned same⟩
  rw [← own]
  exact Table.find?_of_mem (List.mem_of_find?_eq_some present)

theorem ledgerEntry?_eq_none_iff {s : Store} {reservationId : Uuid} :
    s.ledgerEntry? reservationId [.settle, .release] = none ↔
      ∀ entry, ¬Terminal s reservationId entry := by
  unfold Store.ledgerEntry? Terminal
  rw [List.find?_eq_none]
  constructor
  · intro absent entry terminal
    exact absent entry terminal.1 (decide_eq_true terminal.2)
  · intro absent entry present chosen
    exact absent entry ⟨present, of_decide_eq_true chosen⟩

theorem clashes_iff {entry row : RoundBudgetLedgerEntry} :
    entry.clashes row = true ↔ row.ledgerEntryId = entry.ledgerEntryId ∨
      (row.reservationId = entry.reservationId ∧ row.entryType = entry.entryType) ∨
      (row.roundId = entry.roundId ∧ row.idempotencyKey = entry.idempotencyKey) :=
  decide_eq_true_iff

variable (actual lease harness usageHash settledAt) in
/-- No row of the ledger has the identity of the settle entry. -/
theorem Settleable.unclashed (open_ : Settleable host plan t) :
    t.budgetLedger.rows.any
      (terminalEntry host plan .settle actual lease harness usageHash settledAt).clashes = false := by
  refine List.any_eq_false.mpr fun row present clash => ?_
  obtain ⟨otherId, otherKey⟩ := open_.free row present
  rcases clashes_iff.mp clash with same | ⟨own, settles⟩ | sameKey
  · exact otherId same
  · refine open_.unsettled row ⟨present, own, ?_⟩
    rw [settles]
    exact List.mem_cons_self
  · exact otherKey sameKey

variable (actual lease harness usageHash settledAt) in
/-- A settle entry closes a reservation that can be settled. -/
theorem finalizeRoundBudget_closes (holds : HoldsReservation host plan now t)
    (open_ : Settleable host plan t) :
    ∃ reply, finalizeRoundBudget
        (terminalEntry host plan .settle actual lease harness usageHash settledAt) t =
      .ok ({ t with
        budgetLedger := t.budgetLedger.insertIfAbsent
          (terminalEntry host plan .settle actual lease harness usageHash settledAt)
        budgetReservations := t.budgetReservations.update plan.reservationId
          (RoundBudgetReservation.close .settled) }, reply) := by
  have clear := open_.unclashed actual lease harness usageHash settledAt
  obtain ⟨round, inRound⟩ := holds.round
  obtain ⟨row, present, own, planned⟩ := holds.found
  obtain ⟨same, present', reserved⟩ := open_.isOpen
  rw [present] at present'
  cases present'
  have absent := ledgerEntry?_eq_none_iff.mpr open_.unsettled
  refine ⟨(row.close .settled, terminalEntry host plan .settle actual lease harness usageHash
    settledAt), ?_⟩
  refine Except.bind_eq_ok.mpr ⟨(), require_eq_ok.mpr List.mem_cons_self, ?_⟩
  refine Except.bind_eq_ok.mpr ⟨round, Store.requireRound_eq_ok.mpr inRound, ?_⟩
  refine Except.bind_eq_ok.mpr ⟨row, requireSome_eq_ok.mpr present, ?_⟩
  refine Except.bind_eq_ok.mpr ⟨(), require_eq_ok.mpr own, ?_⟩
  rw [show t.ledgerEntry? (terminalEntry host plan .settle actual lease harness usageHash
    settledAt).reservationId [.settle, .release] = none from absent]
  refine Except.bind_eq_ok.mpr ⟨(), require_eq_ok.mpr reserved, ?_⟩
  refine Except.bind_eq_ok.mpr ⟨(), require_eq_ok.mpr planned, ?_⟩
  exact Except.bind_eq_ok.mpr ⟨(), require_eq_ok.mpr clear, rfl⟩

/-- A settle entry changes nothing when the reservation cannot be settled. -/
theorem finalizeRoundBudget_still (closed : ¬Settleable host plan t) :
    (commit (finalizeRoundBudget (terminalEntry host plan .settle actual lease harness
      usageHash settledAt)) t).1 = t := by
  rcases commit_cases (finalizeRoundBudget (terminalEntry host plan .settle actual lease harness
    usageHash settledAt)) t with ⟨e, -, same⟩ | ⟨u, reply, ok, same⟩
  · rw [same]
  rw [same]
  simp only [finalizeRoundBudget, Except.bind_eq_ok, require_eq_ok, requireSome_eq_ok] at ok
  obtain ⟨_, _, round, _, row, present, _, own, ok⟩ := ok
  split at ok
  · simp only [Except.bind_eq_ok] at ok
    obtain ⟨_, _, ok⟩ := ok
    cases ok
    rfl
  · rename_i absent
    simp only [Except.bind_eq_ok, require_eq_ok] at ok
    obtain ⟨_, reserved, _, _, _, clear, -⟩ := ok
    refine absurd ?_ closed
    refine ⟨⟨row, present, reserved⟩, ledgerEntry?_eq_none_iff.mp absent, fun other there => ?_⟩
    have apart := List.any_eq_false.mp clear other there
    exact ⟨fun same => apart (clashes_iff.mpr (.inl same)),
      fun same => apart (clashes_iff.mpr (.inr (.inr same)))⟩

/-- The store after a reservation was settled holds one terminal entry for it. -/
theorem closedOnce_of_settled (holds : HoldsReservation host plan now t)
    (open_ : Settleable host plan t) :
    ClosedOnce { t with
      budgetLedger := t.budgetLedger.insertIfAbsent
        (terminalEntry host plan .settle actual lease harness usageHash settledAt)
      budgetReservations := t.budgetReservations.update plan.reservationId
        (RoundBudgetReservation.close .settled) } plan := by
  have clear := open_.unclashed actual lease harness usageHash settledAt
  obtain ⟨row, present, -, -⟩ := holds.found
  have fresh : t.budgetLedger.find?
      (key (terminalEntry host plan .settle actual lease harness usageHash settledAt)) = none := by
    refine Table.find?_eq_none_iff.mpr fun other there same => ?_
    exact List.any_eq_false.mp clear other there (clashes_iff.mpr (.inl same))
  refine ⟨⟨row.close .settled, ?_, ?_⟩, ⟨_, ⟨Table.mem_insertIfAbsent.mpr (.inr ⟨fresh, rfl⟩), rfl,
    List.mem_cons_self⟩, ?_⟩⟩
  · refine ⟨Table.mem_update.mpr ⟨row, Table.mem_of_find? present, ?_⟩, Table.key_of_find? present⟩
    rw [if_pos (Table.key_of_find? present)]
  · rintro other ⟨there, own⟩
    obtain ⟨old, before, rfl⟩ := Table.mem_update.mp there
    have same : old = row := by
      refine Table.eq_of_key_eq before (Table.mem_of_find? present) ?_
      rw [Table.key_of_find? present]
      by_cases chosen : key old = plan.reservationId
      · exact chosen
      · rw [if_neg chosen] at own
        exact own
    rw [same, if_pos (Table.key_of_find? present)]
  · rintro other ⟨there, own, terminal⟩
    rcases Table.mem_insertIfAbsent.mp there with before | ⟨-, rfl⟩
    · exact absurd ⟨before, own, terminal⟩ (open_.unsettled other)
    · rfl

end Finalizing

/-! ### The two runs -/

section Rerun

variable {first second : Surroundings}
variable {round : SearchRound} {member : RoundCandidate} {request : M2PhaseMeasurementRequest}

/-- The inputs on which a second run settles what a first run reserved at an instant. -/
structure Resettles (host : Host) (instant : Int) (second : Surroundings) (t : Store)
    (round : SearchRound) (member : RoundCandidate) (request : M2PhaseMeasurementRequest) :
    Prop where
  live : second.fenceBefore = .ok true
  stored : second.storeReservation = .ok ()
  sameInstant : second.reservedAt = instant
  settles : Settles host second round member request
  settleable : Settleable host request.reservation t

theorem ofTransaction_of_ok {op : Transaction Store Error MutationResult} {s t : Store}
    {reply : MutationResult} (ok : op s = .ok (t, reply)) :
    (ofTransaction op).run s = (.ok reply, t) := by
  simp only [ofTransaction, Raising.run, ok]

theorem ofTransaction_of_error {op : Transaction Store Error MutationResult} {s : Store}
    {e : Error} (error : op s = .error e) :
    (ofTransaction op).run s = (.error (raisedOf e), s) := by
  simp only [ofTransaction, Raising.run, error]

theorem ofTransaction_store (op : Transaction Store Error MutationResult) (s : Store) :
    ((ofTransaction op).run s).2 = (commit op s).1 := by
  rcases commit_cases op s with ⟨e, error, same⟩ | ⟨t, reply, ok, same⟩
  · rw [ofTransaction_of_error error, same]
  · rw [ofTransaction_of_ok ok, same]

/-- The store after the first budget call, when it was accepted. -/
theorem reservePhase_holds {store : Store} {registry : List M2ScriptedPhaseReceipt}
    (reserved : ((reservePhase host first repositoryAuthority round member request).run
      (World.start store registry)).2.Reserved) :
    validateAuthority round member request = .ok () ∧
      HoldsReservation host request.reservation first.reservedAt
        ((reservePhase host first repositoryAuthority round member request).run
          (World.start store registry)).2.authority := by
  rcases reservePhase_cases host first round member request repositoryAuthority
    (World.start store registry) with
    ⟨-, raised, refused⟩ | ⟨⟨valid, -, -⟩, called⟩
  · rw [refused] at reserved
    simp [World.Reserved, World.start] at reserved
  · refine ⟨valid, ?_⟩
    rw [called] at reserved ⊢
    rcases commit_cases (reserveRoundBudget
        (reserveOf host request.reservation first.reservedAt).1
        (reserveOf host request.reservation first.reservedAt).2) store with
      ⟨e, error, -⟩ | ⟨t, reply, ok, -⟩
    · have answer : (repositoryAuthority.reserve _ _).run store = _ :=
        ofTransaction_of_error error
      rw [issue_of_error (w := World.start store registry) answer] at reserved
      simp [World.Reserved, World.start, AuthorityCall.reserves] at reserved
    · have answer : (repositoryAuthority.reserve _ _).run store = _ := ofTransaction_of_ok ok
      rw [issue_of_ok (w := World.start store registry) answer]
      exact reserveRoundBudget_stored ok

variable (second) in
/-- A second run closes the reservation on the inputs of `Resettles`, and on no others does
it change the store. -/
theorem rerun_store {t : Store} {instant : Int} (registry : List M2ScriptedPhaseReceipt)
    (valid : validateAuthority round member request = .ok ())
    (holds : HoldsReservation host request.reservation instant t) :
    (Resettles host instant second t round member request ∧
      ClosedOnce ((run host second repositoryAuthority round member request).run
        (World.start t registry)).2.authority request.reservation) ∨
    ¬Resettles host instant second t round member request ∧
      ((run host second repositoryAuthority round member request).run
        (World.start t registry)).2.authority = t := by
  rcases reservePhase_cases host second round member request repositoryAuthority
    (World.start t registry) with
    ⟨blocked, raised, refused⟩ | ⟨⟨-, live, stored⟩, called⟩
  · refine .inr ⟨fun resettles => blocked ⟨valid, resettles.live, resettles.stored⟩, ?_⟩
    unfold run
    rw [run_bind_of_error refused]
    rfl
  rcases reserveRoundBudget_again second.reservedAt holds with
    ⟨same, reply, ok⟩ | ⟨other, e, error⟩
  · have answer : (repositoryAuthority.reserve _ _).run t = _ := ofTransaction_of_ok ok
    rw [issue_of_ok (w := World.start t registry) answer] at called
    rcases run_finalizes_iff called with
      ⟨settles, finding, entry, accepted, settled, -, kept⟩ | ⟨leaks, still⟩
    · obtain ⟨harness, lease, wall, usageHash, -, -, -, -, -, -, -, -, rfl⟩ :=
        settlement_eq_ok settled
      rw [kept]
      by_cases settleable : Settleable host request.reservation t
      · obtain ⟨closing, closes⟩ := finalizeRoundBudget_closes
          (chargedUsage request finding lease wall) lease harness usageHash second.settledAt
          holds settleable
        refine .inl ⟨⟨live, stored, same, settles, settleable⟩, ?_⟩
        rw [show (repositoryAuthority.finalize _).run t = _ from ofTransaction_of_ok closes]
        exact closedOnce_of_settled holds settleable
      · refine .inr ⟨fun resettles => settleable resettles.settleable, ?_⟩
        exact (ofTransaction_store _ t).trans (finalizeRoundBudget_still settleable)
    · refine .inr ⟨fun resettles => leaks resettles.settles, ?_⟩
      rw [still]
  · have answer : (repositoryAuthority.reserve _ _).run t = _ := ofTransaction_of_error error
    rw [issue_of_error (w := World.start t registry) answer] at called
    refine .inr ⟨fun resettles => other resettles.sameInstant, ?_⟩
    unfold run
    rw [run_bind_of_error called]

end Rerun

end Again

/-! ## The result -/

/-- **When an accepted reservation is settled.** A run that got its reservation accepted
finalizes it once, with a settle entry, exactly on the inputs of `Settles`. When the process
dies between the two budget calls and the same request is run again on the same repository,
the store ends with one reservation and one terminal entry exactly when it had one terminal
entry already or the second run is on the inputs of `Resettles`. -/
theorem accepted_reservation_settled_iff (host : Host) (round : SearchRound)
    (member : RoundCandidate) (request : M2PhaseMeasurementRequest) :
    (∀ (σ : Type) (surroundings : Surroundings) (authority : BudgetAuthority σ) (state : σ)
      (registry : List M2ScriptedPhaseReceipt),
      ((run host surroundings authority round member request).run
        (World.start state registry)).2.Reserved →
      (((run host surroundings authority round member request).run
          (World.start state registry)).2.SettledOnce request.reservation ↔
        Settles host surroundings round member request)) ∧
    ∀ (first second : Surroundings) (store : Store)
      (registry registry' : List M2ScriptedPhaseReceipt) (died : World Store),
      died = ((reservePhase host first repositoryAuthority round member request).run
        (World.start store registry)).2 →
      died.Reserved →
      (ClosedOnce ((run host second repositoryAuthority round member request).run
          (World.start died.authority registry')).2.authority request.reservation ↔
        (∃! entry, Terminal died.authority request.reservation.reservationId entry) ∨
          Resettles host first.reservedAt second died.authority round member request) := by
  refine ⟨fun σ surroundings authority state registry =>
    run_settles_iff authority state registry, ?_⟩
  rintro first second store registry registry' died rfl reserved
  obtain ⟨valid, holds⟩ := reservePhase_holds reserved
  rcases rerun_store second registry' valid holds with
    ⟨resettles, closed⟩ | ⟨never, still⟩
  · exact ⟨fun _ => .inr resettles, fun _ => closed⟩
  · rw [still]
    constructor
    · exact fun closed => .inl closed.2
    · rintro (once | resettles)
      · obtain ⟨row, present, -, -⟩ := holds.found
        refine ⟨⟨row, ⟨Table.mem_of_find? present, Table.key_of_find? present⟩, ?_⟩, once⟩
        rintro other ⟨there, own⟩
        exact Table.eq_of_key_eq there (Table.mem_of_find? present)
          (own.trans (Table.key_of_find? present).symm)
      · exact absurd resettles never

/-! ### One request in four surroundings -/

/-- A host with a hash of every name and exact floats. -/
def sampleHost : Host where
  uuid5 name := name.toList.foldl (fun sum c => sum * 31 + c.toNat) 7
  toFloat := some
  reservationHash _ := "sha256:reservation"
  usageHash _ := "sha256:usage"
  sha256 _ := "sha256:" ++ String.ofList (hexText 64 0)

/-- A round that measures for its search barrier. -/
def measuringRound : SearchRound where
  roundId := 11
  taskId := 10
  idempotencyKey := "round"
  runMode := .scripted
  targetSnapshotId := 3
  stage0RunId := 2
  stage0ProtocolHash := "protocol"
  baselineEpochId := 5
  hotspotId := 6
  replacementPoint := "point"
  workloadId := "workload"
  workloadHash := "workload"
  configurationHash := "configuration"
  imageDigest := "image"
  adapterProfile := "adapter"
  declaredCandidateCount := 2
  maxPromoted := 1
  familyAlpha := ⟨3, 40, by decide, by decide⟩
  searchPlanHash := "search-plan"
  holdoutPlanCommitment := "commitment"
  holdoutPlanAuthorityId := "authority"
  holdoutPlanAuthorityHash := "authority"
  selectionRuleHash := "rule"
  budget := {
    maxCandidates := 2, maxBuildAttempts := 4, maxCorrectnessAttempts := 4, maxSearchSamples := 100
    maxHoldoutSamples := 100, maxWallSeconds := 100, maxExclusiveLeaseSeconds := 100 }
  createdAt := 0
  state := .searchMeasuring
  candidateFamilyHash := some "candidates"
  artifactFamilyHash := some "artifacts"

/-- Its first member, with a built artifact. -/
def measuredMember : RoundCandidate where
  roundCandidateId := 20
  roundId := 11
  candidateId := 30
  ordinal := 0
  sourcePackageStoreId := "store"
  sourcePackageStoreHash := "store"
  sourcePackageHash := "package"
  sourceManifestHash := "manifest"
  baselineSourceHash := "baseline"
  candidateSourceHash := "source"
  optimizationIntent := "intent"
  replacementPoint := "point"
  candidateKind := .fixture
  idempotencyKey := "member"
  state := .correctnessPassed
  artifactId := some 40
  artifactHash := some "artifact"

/-- The store of the round, with a queued job. -/
def measuringStore : Store where
  searchRounds := Table.insertIfAbsent ∅ measuringRound
  roundCandidates := Table.insertIfAbsent ∅ measuredMember
  jobs := Table.insertIfAbsent ∅
    { jobId := 7, taskId := 10, jobType := .build, acceptedWorkerType := .build, payload := []
      idempotencyKey := "job", availableAt := 0, createdAt := 0 }

/-- The reservation of eight search samples. -/
def samplePlan : M2PhaseBudgetReservationPlan where
  roundId := 11
  roundCandidateId := 20
  candidateId := 30
  phase := .search
  phasePlanHash := "search-plan"
  measurementPlanHash := "measurement-plan"
  expectedSampleCount := 8
  reservationId := 50
  jobId := 7
  attempt := 1
  planned := { searchSamples := 8, wallSeconds := 20, exclusiveLeaseSeconds := 20 }
  idempotencyKey := "phase-budget"

/-- The request of the member. -/
def sampleRequest : M2PhaseMeasurementRequest where
  reservation := samplePlan
  execution := {
    leaseId := 60, resourceId := "hcu-7", fencingToken := 9
    leaseAcquiredMonotonicNs := 1000000000, jobStartedMonotonicNs := 2000000000
    tokenIssued := by decide, leaseBeforeJob := by decide }
  valid := ⟨by decide, by decide, by decide, ⟨rfl, rfl⟩, by decide +kernel⟩
  revealOfHoldout := by decide

/-- What the harness measured. -/
def sampleObservation : ScriptedObservation where
  measurementId := 70
  measurementPlanHash := "measurement-plan"
  sampleCount := 8
  baselineSampleSetHash := "baseline-samples"
  processIdentitySetHash := "processes"
  cacheNamespaceSetHash := "caches"
  cleanupEvidence := ⟨
    [("fence", .obj [("fenced", .bool true), ("resource_id", .str "hcu-7"),
        ("fencing_token", .int 9)]),
      ("health", .obj [("healthy", .bool true), ("resource_id", .str "hcu-7")])], true⟩
  adapterProvenance := {
    profile := "adapter", capability := "measurement_harness", adapterName := "ScriptedHarness"
    adapterVersion := "1.0.0", implementationKind := "fake" }

theorem valid_sampleObservation : sampleObservation.Valid :=
  ⟨by decide, by decide, by decide, by decide, by decide⟩

/-- A run in which everything works. -/
def healthy : Surroundings where
  fenceBefore := .ok true
  storeReservation := .ok ()
  reservedAt := 100
  harnessStartedNs := 3000000000
  harness _ := .ok { sampleObservation with
    rawEvidenceUri := "file:///raw.json"
    rawEvidenceHash := "sha256:" ++ String.ofList (hexText 64 0)
    valid := valid_sampleObservation
    uriBounded := by decide
    hashPattern := isSha256_hexText 0 }
  harnessFinishedNs := 4000000000
  finishedNs := 5000000000
  fenceAfter := .ok true
  readEvidence _ := .ok ByteArray.empty
  parseEvidence _ := some { sampleObservation with
    roundId := 11, roundCandidateId := 20, candidateId := 30, phase := .search
    phasePlanHash := "search-plan", valid := valid_sampleObservation }
  storeUsage := .ok ()
  settledAt := 200

/-- The fence cannot be asked after the harness. -/
def unreachableFence : Surroundings :=
  { healthy with fenceAfter := .error (.other "OperationalError" "connection lost") }

/-- The same run at a later time. -/
def healthyLater : Surroundings := { healthy with reservedAt := 300, settledAt := 400 }

/-- The repository after the process died between the two budget calls. -/
def diedWorld : World Store :=
  ((reservePhase sampleHost healthy repositoryAuthority measuringRound measuredMember
    sampleRequest).run (World.start measuringStore [])).2

theorem reserved_diedWorld : diedWorld.Reserved := by decide +kernel

/-- **An accepted reservation that nothing settles.** The fence callback raises after the
harness, and the run ends without a finalize call. A process that died after its
reservation leaves one that a later run of the same request cannot close. -/
theorem fence_error_leaks_reservation :
    (((run sampleHost unreachableFence repositoryAuthority measuringRound measuredMember
          sampleRequest).run (World.start measuringStore [])).2.Reserved ∧
      ¬((run sampleHost unreachableFence repositoryAuthority measuringRound measuredMember
          sampleRequest).run (World.start measuringStore [])).2.SettledOnce samplePlan) ∧
    diedWorld.Reserved ∧
      ¬ClosedOnce ((run sampleHost healthyLater repositoryAuthority measuringRound measuredMember
        sampleRequest).run (World.start diedWorld.authority [])).2.authority samplePlan := by
  refine ⟨⟨(run_reserved_iff _ _ _ _ _ _ _ _).mpr reserved_diedWorld, ?_⟩, reserved_diedWorld, ?_⟩
  · rintro ⟨entry, accepted, called, -⟩
    have silent : ((run sampleHost unreachableFence repositoryAuthority measuringRound
        measuredMember sampleRequest).run (World.start measuringStore [])).2.issued.filter
          AuthorityCall.finalizes = [] := by decide +kernel
    rw [silent] at called
    cases called
  · rintro ⟨-, entry, ⟨there, -, terminal⟩, -⟩
    have reserves : ∀ entry ∈ ((run sampleHost healthyLater repositoryAuthority measuringRound
        measuredMember sampleRequest).run
          (World.start diedWorld.authority [])).2.authority.budgetLedger.rows,
        entry.entryType ∉ [RoundBudgetEntryType.settle, .release] := by decide +kernel
    exact reserves entry there terminal

theorem settles_healthy :
    Settles sampleHost healthy measuringRound measuredMember sampleRequest := by
  refine ⟨⟨1, 4, 3, by decide +kernel, by decide +kernel, by decide +kernel, by decide +kernel⟩,
    rfl, ?_⟩
  exact ⟨⟨true, rfl⟩, rfl⟩

theorem resettles_healthy :
    Resettles sampleHost 100 healthy diedWorld.authority measuringRound measuredMember
      sampleRequest where
  live := rfl
  stored := rfl
  sameInstant := rfl
  settles := settles_healthy
  settleable := by
    have reserves : ∀ row ∈ diedWorld.authority.budgetLedger.rows,
        row.entryType ∉ [RoundBudgetEntryType.settle, .release] ∧
          row.ledgerEntryId ≠ terminalId sampleHost samplePlan .settle ∧
          ¬(row.roundId = samplePlan.roundId ∧
            row.idempotencyKey = terminalKey samplePlan .settle) := by decide +kernel
    have reserved : (diedWorld.authority.budgetReservations.find? 50).map (·.state) =
        some .reserved := by decide +kernel
    obtain ⟨row, present, isOpen⟩ := Option.map_eq_some_iff.mp reserved
    exact ⟨⟨row, present, isOpen⟩, fun entry terminal => (reserves entry terminal.1).1 terminal.2.2,
      fun row there => (reserves row there).2⟩

/-- The healthy run settles, and so does its repetition at the same instant. -/
theorem accepted_reservation_settled_healthy :
    ((run sampleHost healthy repositoryAuthority measuringRound measuredMember
        sampleRequest).run (World.start measuringStore [])).2.SettledOnce samplePlan ∧
      ClosedOnce ((run sampleHost healthy repositoryAuthority measuringRound measuredMember
        sampleRequest).run (World.start diedWorld.authority [])).2.authority samplePlan :=
  ⟨((accepted_reservation_settled_iff sampleHost measuringRound measuredMember sampleRequest).1
      Store healthy repositoryAuthority measuringStore []
      ((run_reserved_iff _ _ _ _ _ _ _ _).mpr reserved_diedWorld)).mpr settles_healthy,
    ((accepted_reservation_settled_iff sampleHost measuringRound measuredMember sampleRequest).2
      healthy healthy measuringStore [] [] diedWorld rfl reserved_diedWorld).mpr
        (.inr resettles_healthy)⟩

end M2Runner

end HcuAutoOpt
