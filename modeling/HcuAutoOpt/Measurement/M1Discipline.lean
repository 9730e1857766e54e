import HcuAutoOpt.Measurement.M1Harness
import HcuAutoOpt.Measurement.Stage0Discipline
import Mathlib.Data.List.Range

/-!
# What an M1 measurement leaves behind

However its surroundings behave, a measurement fences its resource once, when all is measured, and
what it returns has the acquisitions of its plan. It closes what it was given and leaves one
document exactly when some of the calls went well (`m1_disciplined_iff`): the steps between the
start of a process and the `try` that closes it are not guarded, a timer without a `close` is kept,
and a failure record has to be encoded and written.
-/

set_option autoImplicit false

namespace HcuAutoOpt

namespace M1Run

open Foundation Foundation.Raising
open FormalRun (ProcessIdentity LifecycleEvent)
open Stage0 (ClockCalibrationV2)

variable {W T : Type} {host : Surroundings W T} {start : Collection T}

/-! ## Kinds of calls -/

/-- What a call counts for. -/
inductive Kind where
  | inner | timer | workload | opening | cleaning | document
  deriving DecidableEq, Repr

/-- A call that got nothing is an inner one. -/
def Event.kind : Event W T → Kind
  | .timer (.ok _) => .timer
  | .closeTimer _ => .timer
  | .workload _ (.ok _) => .workload
  | .close _ => .workload
  | .processIdentity _ _ => .opening
  | .now .started _ => .opening
  | .lifecycle .started _ _ _ _ => .opening
  | .telemetry .started _ => .opening
  | .write (.lifecycle .started _ _) _ => .opening
  | .write (.performance _) _ => .document
  | .write (.failure _) _ => .document
  | .fence _ _ _ => .cleaning
  | .healthCheck _ _ => .cleaning
  | _ => .inner

/-- A call that counts for nothing. -/
def Event.Inner (event : Event W T) : Prop := event.kind = .inner

/-- A call between the start of a process and the `try` that closes it. -/
def Event.Opens (event : Event W T) : Prop := event.kind = .opening

variable (host) in
/-- What a run needs of a call: a timer can be closed, a step before the `try` goes well, and a
failure record is written. -/
def Event.passes : Event W T → Prop
  | .timer (.ok found) => host.closable found = true
  | .processIdentity _ answer => ∃ identity, answer = .ok identity
  | .now .started answer => ∃ captured, answer = .ok captured
  | .lifecycle .started _ ordinal identity answer =>
      ∃ record, answer = .ok record ∧ validateLifecycle record .started ordinal identity = .ok ()
  | .telemetry .started answer => ∃ snapshot, answer = .ok snapshot
  | .write (.lifecycle .started _ _) answer => ∃ file, answer = .ok file
  | .write (.failure _) answer => ∃ file, answer = .ok file
  | _ => True

/-- An inner call passes. -/
theorem Event.Inner.passes {event : Event W T} (inner : event.Inner) : event.passes host := by
  unfold Event.passes
  split <;> trivial

theorem passes_inner {calls : Past W T} (inner : ∀ event ∈ calls, event.Inner) :
    ∀ event ∈ calls, event.passes host :=
  fun event member => (inner event member).passes

/-- The workload that a call got. -/
def Event.made : Event W T → Option W
  | .workload _ (.ok found) => some found
  | _ => none

/-- The workload that a call closes. -/
def Event.closes : Event W T → Option W
  | .close found => some found
  | _ => none

theorem Event.Inner.made_eq_none {event : Event W T} (inner : event.Inner) : event.made = none := by
  unfold Event.made
  split <;> trivial

theorem Event.Opens.made_eq_none {event : Event W T} (opens : event.Opens) : event.made = none := by
  unfold Event.made
  split <;> trivial

/-- Every workload that was made is closed later. -/
def Released : Past W T → Prop := Freed Event.made Event.closes

/-- Calls that are not about workloads do not count for them. -/
theorem released_filter (calls : Past W T) :
    Released (calls.filter fun event => event.kind = .workload) ↔ Released calls := by
  refine freed_filter fun call _ uncounted => ?_
  unfold Event.made Event.closes
  constructor <;> split <;> first | rfl | cases uncounted

theorem released_append_left {calls : Past W T} (none : ∀ event ∈ calls, event.kind ≠ .workload)
    (later : Past W T) : Released (calls ++ later) ↔ Released later := by
  rw [← released_filter, List.filter_append, List.filter_eq_nil_iff.mpr, List.nil_append,
    released_filter]
  simpa using none

theorem released_append_right {later : Past W T} (none : ∀ event ∈ later, event.kind ≠ .workload)
    (calls : Past W T) : Released (calls ++ later) ↔ Released calls := by
  rw [← released_filter, List.filter_append, (List.filter_eq_nil_iff (l := later)).mpr,
    List.append_nil, released_filter]
  simpa using none

/-! ## One acquisition -/

section Acquisition

theorem within_quiet {α : Type} {answer : Past W T → Except Raised α} {event : Event W T}
    (inner : event.Inner) : Within Event.Inner (quiet answer event) fun _ => True :=
  within_asking (fun _ => inner) fun _ => trivial

theorem requireLiveLease_within :
    Within Event.Inner (requireLiveLease host start) fun _ => True := by
  unfold requireLiveLease
  split
  · exact (within_quiet (by rfl)).bind fun _ _ => (within_raiseIf _).mono fun _ _ => trivial
  · exact within_pure trivial

theorem requireWithinWallBudget_within {P : Event W T → Prop}
    (reading : ∀ answer, P (.now .budget answer)) :
    Within P (requireWithinWallBudget host start) fun _ => True := by
  unfold requireWithinWallBudget
  split
  · exact within_pure trivial
  · exact (within_asking reading fun _ => trivial).bind fun _ _ =>
      (within_raiseIf _).mono fun _ _ => trivial

theorem budget_within : Within Event.Inner (requireWithinWallBudget host start) fun _ => True :=
  requireWithinWallBudget_within fun _ => rfl

/-- The steps before the `try` go well exactly when each of their calls passes. -/
theorem openAcquisition_decides (ordinal : Nat) (workload : W) :
    Decides Event.Opens (Event.passes host) (openAcquisition host ordinal workload) := by
  have lifecycle : ∀ identity, Decides Event.Opens (Event.passes host)
      (recordLifecycle host .started .started workload ordinal identity) := by
    intro identity
    refine (decides_asking (fun _ => by rfl) fun _ => by rfl).bind fun captured => ?_
    exact decides_asking_checked (fun _ => by rfl) fun _ => by rfl
  refine (decides_asking (fun _ => by rfl) fun _ => by rfl).bind fun identity => ?_
  refine (lifecycle identity).bind fun started => ?_
  refine (decides_asking (fun _ => by rfl) fun _ => by rfl).bind fun startedFile => ?_
  exact (decides_asking (fun _ => by rfl) fun _ => by rfl).bind fun before => decides_pure _

theorem activate_within (arm : M1Arm) (ordinal : Nat) (workload : W) (identity : ProcessIdentity) :
    Within Event.Inner (activate host start arm ordinal workload identity) fun _ => True := by
  have cache : ∀ activation : M1ActivationEvidence, Within Event.Inner (do
      let reference := activation.cacheNamespaceEvidence
      let cacheRecord ← quiet (fun past => host.readCache past reference) (.read reference)
      raiseIf (cacheRecord.acquisitionOrdinal ≠ ordinal ∨ cacheRecord.arm ≠ arm ∨
          cacheRecord.processId ≠ identity.pid ∨
          cacheRecord.processStartToken ≠ identity.startToken ∨
          cacheRecord.namespaceHash ≠ activation.cacheNamespaceHash ∨
          cacheRecord.emptyBeforeExecution = false)
        (safety "M1 cache evidence does not prove a fresh empty acquisition namespace")
      return activation : Code W T M1ActivationEvidence) fun _ => True := fun activation =>
    (within_quiet (by rfl)).bind fun _ _ => (within_raiseIf _).bind fun _ _ => within_pure trivial
  refine (within_quiet (by rfl)).bind fun activation _ => (within_raiseIf _).bind fun _ _ =>
    (within_raiseIf _).bind fun _ _ => ?_
  split
  · exact (within_orRaise _ _).bind fun _ _ => (within_quiet (by rfl)).bind fun _ _ =>
      (within_raiseIf _).bind fun _ _ => cache activation
  · exact cache activation

/-- A sample of a process, an arm and an acquisition. -/
def Own (arm : M1Arm) (ordinal : Nat) (identity : ProcessIdentity) (sample : M1RawSample) : Prop :=
  (sample.event.processId, sample.event.processStartToken) = identity.key ∧
    sample.event.arm = arm ∧ sample.event.acquisitionOrdinal = ordinal

theorem measureSample_within (arm : M1Arm) (ordinal : Nat) (workload : W)
    (identity : ProcessIdentity) {samples : List M1RawSample}
    (own : ∀ sample ∈ samples, Own arm ordinal identity sample) (sampleOrdinal : Nat) :
    Within Event.Inner
      (measureSample host start arm ordinal workload identity samples sampleOrdinal)
      fun grown => (∀ sample ∈ grown, Own arm ordinal identity sample) ∧
        grown.map (·.event.sampleOrdinal) =
          samples.map (·.event.sampleOrdinal) ++ [(sampleOrdinal : Int)] := by
  refine requireLiveLease_within.bind fun _ _ => budget_within.bind fun _ _ =>
    (within_quiet (by rfl)).bind fun reference _ => (within_quiet (by rfl)).bind fun event _ =>
    (within_raiseIf _).bind fun _ sameProcess => (within_raiseIf _).bind fun _ planned =>
    (within_raiseIf _).bind fun _ _ => budget_within.bind fun _ _ =>
    within_pure ?_
  rw [not_not] at sameProcess
  simp only [not_or, not_not] at planned
  obtain ⟨sameArm, sameOrdinal, samePlace, -⟩ := planned
  constructor
  · intro sample member
    rcases List.mem_append.mp member with before | last
    · exact own sample before
    · rw [List.mem_singleton.mp last]
      exact ⟨sameProcess, sameArm, sameOrdinal⟩
  · rw [List.map_append, List.map_singleton, samePlace]

/-- Measured samples: all of them, in order, and each from the process. -/
def Sampled (plan : M1MeasurementPlan) (arm : M1Arm) (ordinal : Nat) (identity : ProcessIdentity)
    (samples : List M1RawSample) : Prop :=
  (∀ sample ∈ samples, Own arm ordinal identity sample) ∧
    samples.map (·.event.sampleOrdinal) =
      (List.range plan.samplesPerAcquisition).map fun position : Nat => (position : Int)

theorem measureAcquisition_within (arm : M1Arm) (ordinal : Nat) (workload : W)
    (identity : ProcessIdentity) :
    Within Event.Inner (measureAcquisition host start arm ordinal workload identity)
      fun measured => Sampled start.plan arm ordinal identity measured.2 := by
  have warm : Within Event.Inner ((List.range start.plan.warmupCount).forM
      fun _ => warmUp host start workload) fun _ => True :=
    within_forM (fun _ => requireLiveLease_within.bind fun _ _ =>
      budget_within.bind fun _ _ => (within_quiet (by rfl)).bind fun _ _ =>
      within_quiet (by rfl)) _
  have loop := within_foldlM (P := Event.Inner)
    (measureSample host start arm ordinal workload identity)
    (fun (done : List Nat) (grown : List M1RawSample) =>
      (∀ sample ∈ grown, Own arm ordinal identity sample) ∧
        grown.map (·.event.sampleOrdinal) = done.map fun position : Nat => (position : Int))
    (fun done sampleOrdinal grown ⟨own, places⟩ =>
      (measureSample_within arm ordinal workload identity own sampleOrdinal).mono
        fun more ⟨still, place⟩ => ⟨still, by rw [place, places, List.map_append]; rfl⟩)
    (List.range start.plan.samplesPerAcquisition) [] []
    ⟨fun _ member => absurd member List.not_mem_nil, rfl⟩
  exact (activate_within arm ordinal workload identity).bind fun activation _ =>
    warm.bind fun _ _ => loop.bind fun samples sampled => within_pure sampled

/-- The `finally` closes the workload and then makes inner calls. -/
theorem reap_adds (ordinal : Nat) (workload : W) (opened : Opened) :
    Adds (reap host ordinal workload opened) fun _ added =>
      ∃ later, added = .close workload :: later ∧ ∀ event ∈ later, event.Inner := by
  have lifecycle : Within Event.Inner
      (recordLifecycle host .reaped .reaped workload ordinal opened.identity) fun _ => True := by
    refine (within_asking (fun _ => by rfl) fun _ => trivial).bind fun _ _ =>
      (within_asking (fun _ => by rfl) fun _ => trivial).bind fun _ _ => ?_
    refine Within.bind (Q := fun _ => True) ?_ fun _ _ => within_pure trivial
    refine (adds_ending _).mono ?_
    rintro result added ⟨-, rfl⟩
    exact ⟨fun _ member => absurd member List.not_mem_nil, fun _ _ => trivial⟩
  have rest : Within Event.Inner (do
      let alive ← quiet (fun past => host.isAlive past workload) (.isAlive workload)
      raiseIf (alive = true) (safety "M1 acquisition process remained alive after close")
      let reaped ← recordLifecycle host .reaped .reaped workload ordinal opened.identity
      raiseIf (reaped.capturedMonotonicNs ≤ opened.started.capturedMonotonicNs)
        (safety "M1 lifecycle timestamps are not ordered")
      writeEvidence host (.lifecycle .reaped ordinal reaped) true :
        Code W T Evidence.EvidenceArtifact) fun _ => True :=
    (within_quiet (by rfl)).bind fun _ _ => (within_raiseIf _).bind fun _ _ =>
      lifecycle.bind fun _ _ => (within_raiseIf _).bind fun _ _ =>
      within_asking (fun _ => by rfl) fun _ => trivial
  refine adds_asking_bind (fun e => ?_) fun _ => ?_
  · exact ⟨[], rfl, fun _ member => absurd member List.not_mem_nil⟩
  · exact Adds.mono rest fun _ later fits => ⟨later, rfl, fits.1⟩

/-- What was acquired for a place of the plan: samples of the acquisition's own process and arm,
as many as planned. -/
structure Acquired (plan : M1MeasurementPlan) (place : M1Arm × Nat)
    (evidence : M1AcquisitionEvidence) : Prop where
  ordinal : evidence.acquisitionOrdinal = place.2
  arm : evidence.arm = place.1
  places : evidence.samples.map (·.event.sampleOrdinal) =
    (List.range plan.samplesPerAcquisition).map fun position : Nat => (position : Int)
  own : ∀ sample ∈ evidence.samples,
    (sample.event.processId, sample.event.processStartToken) =
        (evidence.processId, evidence.processStartToken) ∧
      sample.event.arm = evidence.arm ∧
      sample.event.acquisitionOrdinal = evidence.acquisitionOrdinal

theorem Acquired.count {plan : M1MeasurementPlan} {place : M1Arm × Nat}
    {evidence : M1AcquisitionEvidence} (acquired : Acquired plan place evidence) :
    evidence.samples.length = plan.samplesPerAcquisition := by
  have lengths := congrArg List.length acquired.places
  rwa [List.length_map, List.length_map, List.length_range] at lengths

variable (host start) in
/-- What a turn of the loop over the acquisitions adds to the calls. -/
structure TurnAdds (place : M1Arm × Nat) (result : Except Raised M1AcquisitionEvidence)
    (added : Past W T) : Prop where
  kinds : ∀ event ∈ added, event.kind = .inner ∨ event.kind = .opening ∨ event.kind = .workload
  released : Released added ↔ ∀ event ∈ added, event.passes host
  acquired : ∀ evidence, result = .ok evidence →
    Released added ∧ Acquired start.plan place evidence

/-- Inner calls before a turn do not count. -/
theorem TurnAdds.behind {place : M1Arm × Nat} {result : Except Raised M1AcquisitionEvidence}
    {before added : Past W T} (inner : ∀ event ∈ before, event.Inner)
    (adds : TurnAdds host start place result added) :
    TurnAdds host start place result (before ++ added) := by
  have none : ∀ event ∈ before, event.kind ≠ .workload := fun event member same => by
    rw [inner event member] at same
    cases same
  refine ⟨List.forall_mem_append.mpr ⟨fun event member => .inl (inner event member), adds.kinds⟩,
    ?_, fun evidence same => ?_⟩
  · rw [released_append_left none, List.forall_mem_append, adds.released]
    exact ⟨fun passes => ⟨passes_inner inner, passes⟩, And.right⟩
  · rw [released_append_left none]
    exact adds.acquired evidence same

theorem turnAdds_error {place : M1Arm × Nat} (e : Raised) {added : Past W T}
    (inner : ∀ event ∈ added, event.Inner) : TurnAdds host start place (.error e) added := by
  have nothing : TurnAdds host start place (.error e) ([] : Past W T) :=
    ⟨fun _ member => absurd member List.not_mem_nil,
      iff_of_true trivial fun _ member => absurd member List.not_mem_nil,
      fun evidence same => by cases same⟩
  have behind := nothing.behind inner
  rwa [List.append_nil] at behind

/-- The workload of a call whose later calls do not reach the `try` stays. -/
theorem not_released_opening {ordinal : Nat} {workload : W} {opening : Past W T}
    (opens : ∀ event ∈ opening, event.Opens) :
    ¬Released (.workload ordinal (.ok workload) :: opening) := by
  rintro ⟨closed, -⟩
  obtain ⟨other, member, closes⟩ := closed workload rfl
  have kind := opens other member
  unfold Event.closes at closes
  split at closes
  · cases kind
  · cases closes

/-- **What an acquisition adds to the calls.** -/
theorem acquire_adds (arm : M1Arm) (ordinal : Nat) :
    Adds (acquire host start arm ordinal) (TurnAdds host start (arm, ordinal)) := by
  refine adds_asking_bind (fun e => turnAdds_error e (List.forall_mem_singleton.mpr rfl))
    fun workload => ?_
  refine (Adds.bind (openAcquisition_decides ordinal workload)
    (S := fun _ result added => ∃ before middle after, added = before ++ (middle ++ after) ∧
      (∀ event ∈ before, event.Inner) ∧
      (∃ later, middle = .close workload :: later ∧ ∀ event ∈ later, event.Inner) ∧
      (∀ event ∈ after, event.Inner) ∧
      ∀ evidence, result = .ok evidence → Acquired start.plan (arm, ordinal) evidence)
    fun opened _ _ => ?_).mono ?_
  · refine (measureAcquisition_within arm ordinal workload opened.identity).finallyDo_bind
      (reap_adds ordinal workload opened) ?_
    rintro ⟨activation, samples⟩ reapedFile ⟨own, places⟩
    exact (within_asking (fun _ => by rfl) fun _ => trivial).bind fun after _ =>
      (within_raiseIf _).bind fun _ _ => within_pure ⟨rfl, rfl, places, own⟩
  · rintro result added (⟨e, rfl, opens, decided⟩ | ⟨opened, opening, _, rfl, ⟨opens, decided⟩,
      inner, _, after, rfl, innerCalls, ⟨later, rfl, laterCalls⟩, afterCalls, acquired⟩)
    · refine ⟨List.forall_mem_cons.mpr ⟨.inr (.inr rfl), fun event member =>
        .inr (.inl (opens event member))⟩,
        iff_of_false (not_released_opening opens) fun passes => ?_,
        fun evidence same => by cases same⟩
      obtain ⟨opened, same⟩ := decided.mpr (List.forall_mem_cons.mp passes).2
      cases same
    · have openingPasses := decided.mp ⟨opened, rfl⟩
      have tail : ∀ event ∈ opening ++ (inner ++ (.close workload :: later ++ after)),
          event.Opens ∧ event.passes host ∨ event.Inner ∨ event = .close workload := by
        refine List.forall_mem_append.mpr ⟨fun event member => ?_, List.forall_mem_append.mpr
          ⟨fun event member => .inr (.inl (innerCalls event member)), List.forall_mem_append.mpr
          ⟨List.forall_mem_cons.mpr ⟨.inr (.inr rfl), fun event member => ?_⟩,
          fun event member => .inr (.inl (afterCalls event member))⟩⟩⟩
        · exact .inl ⟨opens event member, openingPasses event member⟩
        · exact .inr (.inl (laterCalls event member))
      have released : Released (.workload ordinal (.ok workload) ::
          (opening ++ (inner ++ (.close workload :: later ++ after)))) := by
        refine ⟨fun made got => ?_, freed_of_none fun event member => ?_⟩
        · cases got
          exact ⟨.close workload, by simp, rfl⟩
        · rcases tail event member with ⟨opens, -⟩ | inner | rfl
          · exact opens.made_eq_none
          · exact inner.made_eq_none
          · rfl
      refine ⟨List.forall_mem_cons.mpr ⟨.inr (.inr rfl), fun event member => ?_⟩,
        iff_of_true released (List.forall_mem_cons.mpr ⟨trivial, fun event member => ?_⟩),
        fun evidence same => ⟨released, acquired evidence same⟩⟩
      · rcases tail event member with ⟨opens, -⟩ | inner | rfl
        · exact .inr (.inl opens)
        · exact .inl inner
        · exact .inr (.inr rfl)
      · rcases tail event member with ⟨-, passes⟩ | inner | rfl
        · exact passes
        · exact inner.passes
        · trivial

end Acquisition

/-! ## The loop over the acquisitions -/

variable (host start) in
/-- What the turns that are left add to the calls. -/
structure LoopAdds (places : List (M1Arm × Nat)) (acquisitions : List M1AcquisitionEvidence)
    (ended : List M1AcquisitionEvidence × Option Raised) (added : Past W T) : Prop where
  kinds : ∀ event ∈ added, event.kind = .inner ∨ event.kind = .opening ∨ event.kind = .workload
  released : Released added ↔ ∀ event ∈ added, event.passes host
  acquired : ended.2 = none → Released added ∧ ∃ new, ended.1 = acquisitions ++ new ∧
    List.Forall₂ (Acquired start.plan) places new

theorem turn_adds (arm : M1Arm) (ordinal : Nat) :
    Adds (do
      requireLiveLease host start
      requireWithinWallBudget host start
      acquire host start arm ordinal : Code W T M1AcquisitionEvidence)
      (TurnAdds host start (arm, ordinal)) := by
  have budget : Adds (do
      requireWithinWallBudget host start
      acquire host start arm ordinal : Code W T M1AcquisitionEvidence)
      (TurnAdds host start (arm, ordinal)) := by
    refine (Adds.bind budget_within fun _ _ _ => acquire_adds arm ordinal).mono ?_
    rintro result added (⟨e, rfl, inner, -⟩ | ⟨_, before, after, rfl, ⟨inner, -⟩, adds⟩)
    · exact turnAdds_error e inner
    · exact adds.behind inner
  refine (Adds.bind requireLiveLease_within fun _ _ _ => budget).mono ?_
  rintro result added (⟨e, rfl, inner, -⟩ | ⟨_, before, after, rfl, ⟨inner, -⟩, adds⟩)
  · exact turnAdds_error e inner
  · exact adds.behind inner

/-- **What the loop over the acquisitions adds to the calls.** -/
theorem acquireAll_adds (places : List (M1Arm × Nat)) (acquisitions : List M1AcquisitionEvidence) :
    Adds (acquireAll host start places acquisitions) fun result added =>
      ∃ ended, result = .ok ended ∧ LoopAdds host start places acquisitions ended added := by
  induction places generalizing acquisitions with
  | nil =>
      refine (adds_pure _).mono ?_
      rintro result added ⟨rfl, rfl⟩
      exact ⟨_, rfl, fun _ member => absurd member List.not_mem_nil,
        iff_of_true trivial fun _ member => absurd member List.not_mem_nil,
        fun _ => ⟨trivial, [], (List.append_nil _).symm, .nil⟩⟩
  | cons place places ih =>
      obtain ⟨arm, ordinal⟩ := place
      rw [acquireAll]
      refine (Adds.bind_ok (turn_adds arm ordinal).catching
        (S := fun turn result added =>
          (∀ raised, turn = .error raised → result = .ok (acquisitions, some raised) ∧ added = []) ∧
          ∀ evidence, turn = .ok evidence → ∃ ended, result = .ok ended ∧
            LoopAdds host start places (acquisitions ++ [evidence]) ended added)
        fun turn _ _ => ?_).mono ?_
      · cases turn with
        | error raised =>
            refine (adds_pure _).mono fun result added plain => ⟨fun e same => ?_, fun _ same => ?_⟩
            · cases same
              exact plain
            · cases same
        | ok evidence =>
            refine (ih _).mono fun result added more => ⟨fun _ same => ?_, fun e same => ?_⟩
            · cases same
            · cases same
              exact more
      · rintro result added ⟨turn, before, after, rfl, turned, more⟩
        cases turn with
        | error raised =>
            obtain ⟨rfl, rfl⟩ := more.1 raised rfl
            rw [List.append_nil]
            exact ⟨_, rfl, turned.kinds, turned.released, fun none => by cases none⟩
        | ok evidence =>
            obtain ⟨ended, rfl, adds⟩ := more.2 evidence rfl
            obtain ⟨released, acquired⟩ := turned.acquired evidence rfl
            refine ⟨ended, rfl, List.forall_mem_append.mpr ⟨turned.kinds, adds.kinds⟩, ?_,
              fun none => ?_⟩
            · rw [List.forall_mem_append, ← turned.released, ← adds.released]
              exact ⟨fun both => ⟨released, freed_append_right both⟩, fun both =>
                both.1.append both.2⟩
            · obtain ⟨releasedLater, new, same, all⟩ := adds.acquired none
              exact ⟨released.append releasedLater, evidence :: new, by
                rw [same, List.append_assoc]; rfl, .cons acquired all⟩

/-! ## The timer -/

/-- The timer that a call got for the job. -/
def Event.timerMade : Event W T → Option T
  | .timer (.ok found) => some found
  | _ => none

/-- The timer that a call closes. -/
def Event.timerCloses : Event W T → Option T
  | .closeTimer found => some found
  | _ => none

/-- Every timer that was made for the job is closed later. -/
def TimersClosed : Past W T → Prop := Freed Event.timerMade Event.timerCloses

/-- The calls about the timer of the job. -/
def timers (calls : Past W T) : Past W T := calls.filter fun event => event.kind = .timer

theorem timers_append (calls later : Past W T) :
    timers (calls ++ later) = timers calls ++ timers later := List.filter_append ..

theorem timers_of_kinds {calls : Past W T} (none : ∀ event ∈ calls, event.kind ≠ .timer) :
    timers calls = [] :=
  List.filter_eq_nil_iff.mpr (by simpa using none)

theorem timersClosed_timers (calls : Past W T) :
    TimersClosed (timers calls) ↔ TimersClosed calls := by
  refine freed_filter fun call _ uncounted => ?_
  unfold Event.timerMade Event.timerCloses
  constructor <;> split <;> first | rfl | cases uncounted

variable (host) in
/-- The calls about the timer up to the loop, and the timer that is still to be closed. -/
inductive TimerCalls : Option T → Past W T → Prop where
  | untimed : TimerCalls none []
  | closed (timer : T) (closable : host.closable timer = true) :
      TimerCalls none [.timer (.ok timer), .closeTimer timer]
  | held (timer : T) : TimerCalls (some timer) [.timer (.ok timer)]
  | closing (timer : T) (closable : host.closable timer = true) :
      TimerCalls (some timer) [.timer (.ok timer), .closeTimer timer]

/-- What `finally` adds for a timer that is still to be closed. -/
def releasing (host : Surroundings W T) : Option T → Past W T
  | none => []
  | some timer => if host.closable timer then [.closeTimer timer] else []

/-- **The timer is closed** in the end exactly when it can be closed. -/
theorem TimerCalls.closed_iff {owned : Option T} {calls : Past W T}
    (timed : TimerCalls host owned calls) :
    TimersClosed (calls ++ releasing host owned) ↔ ∀ event ∈ calls, event.passes host := by
  cases timed with
  | untimed => exact iff_of_true trivial fun _ member => absurd member List.not_mem_nil
  | closed timer closable =>
      refine iff_of_true ⟨fun found got => ?_, fun found got => (by cases got), trivial⟩
        (List.forall_mem_cons.mpr ⟨closable, List.forall_mem_singleton.mpr trivial⟩)
      cases got
      exact ⟨_, List.mem_cons_self, rfl⟩
  | held timer =>
      rw [List.forall_mem_singleton]
      change _ ↔ host.closable timer = true
      by_cases closable : host.closable timer = true
      · refine iff_of_true ?_ closable
        rw [releasing, if_pos closable]
        refine ⟨fun found got => ?_, fun found got => (by cases got), trivial⟩
        cases got
        exact ⟨_, List.mem_cons_self, rfl⟩
      · refine iff_of_false ?_ closable
        rw [releasing, if_neg closable]
        rintro ⟨closed, -⟩
        obtain ⟨other, member, -⟩ := closed timer rfl
        exact absurd member List.not_mem_nil
  | closing timer closable =>
      rw [releasing, if_pos closable]
      refine iff_of_true ⟨fun found got => ?_, fun found got => (by cases got),
        fun found got => (by cases got), trivial⟩
        (List.forall_mem_cons.mpr ⟨closable, List.forall_mem_singleton.mpr trivial⟩)
      cases got
      exact ⟨_, List.mem_cons_self, rfl⟩

/-- Inner calls before others do not count for the timer. -/
theorem timers_behind {before : Past W T} (inner : ∀ event ∈ before, event.Inner)
    (later : Past W T) : timers (before ++ later) = timers later := by
  rw [timers_append, timers_of_kinds, List.nil_append]
  intro event member same
  rw [inner event member] at same
  cases same

theorem timers_inner {calls : Past W T} (inner : ∀ event ∈ calls, event.Inner) :
    timers calls = [] := by
  rw [← List.append_nil calls, timers_behind inner]
  rfl

/-- The call that got a timer for the job. -/
def opening : Option T → Past W T
  | none => []
  | some timer => [.timer (.ok timer)]

variable (host) in
/-- What steps before the loop add to the calls, after the call that got `owned`. -/
structure PrepareAdds (owned : Option T) (prepared : Prepared T) (added : Past W T) : Prop where
  kinds : ∀ event ∈ added, event.kind = .inner ∨ event.kind = .timer
  timed : TimerCalls host prepared.owned (opening owned ++ timers added)
  ready : prepared.error = none →
    prepared.owned = none ∧ ∃ calibration, prepared.calibration = some calibration

theorem timerCalls_opening (owned : Option T) : TimerCalls host owned (opening owned) := by
  cases owned with
  | none => exact .untimed
  | some timer => exact .held timer

/-- Inner calls and then an error. -/
theorem prepareAdds_error (owned : Option T) (calibration : Option ClockCalibrationV2)
    (raised : Raised) {added : Past W T} (inner : ∀ event ∈ added, event.Inner) :
    PrepareAdds host owned ⟨calibration, owned, some raised⟩ added := by
  refine ⟨fun event member => .inl (inner event member), ?_, fun none => by cases none⟩
  rw [timers_inner inner, List.append_nil]
  exact timerCalls_opening owned

/-- Inner calls before others. -/
theorem PrepareAdds.behind {owned : Option T} {prepared : Prepared T} {before added : Past W T}
    (inner : ∀ event ∈ before, event.Inner) (adds : PrepareAdds host owned prepared added) :
    PrepareAdds host owned prepared (before ++ added) := by
  refine ⟨List.forall_mem_append.mpr ⟨fun event member => .inl (inner event member), adds.kinds⟩,
    ?_, adds.ready⟩
  rw [timers_behind inner]
  exact adds.timed

theorem openTimer_adds : Adds (openTimer host start) fun result added =>
    (∃ raised, result = .error raised ∧ ∀ event ∈ added, event.Inner) ∨
      ∃ timer owned before, result = .ok (timer, owned) ∧ added = before ++ opening owned ∧
        ∀ event ∈ before, event.Inner := by
  refine (Adds.bind budget_within (S := fun _ result added =>
    (∃ raised, result = .error raised ∧ ∀ event ∈ added, event.Inner) ∨
      ∃ timer owned, result = .ok (timer, owned) ∧ added = opening owned)
    fun _ _ _ => ?_).mono ?_
  · split
    · refine (adds_pure _).mono ?_
      rintro result added ⟨rfl, rfl⟩
      exact .inr ⟨_, none, rfl, rfl⟩
    · refine adds_asking_bind (fun e => .inl ⟨e, rfl, List.forall_mem_singleton.mpr rfl⟩)
        fun timer => (adds_pure _).mono ?_
      rintro result added ⟨rfl, rfl⟩
      exact .inr ⟨timer, some timer, rfl, rfl⟩
  · rintro result added (⟨e, rfl, inner, -⟩ | ⟨_, before, after, rfl, ⟨inner, -⟩,
      ⟨raised, rfl, innerAfter⟩ | ⟨timer, owned, rfl, rfl⟩⟩)
    · exact .inl ⟨e, rfl, inner⟩
    · exact .inl ⟨raised, rfl, List.forall_mem_append.mpr ⟨inner, innerAfter⟩⟩
    · exact .inr ⟨timer, owned, before, rfl, rfl, inner⟩

/-- The close of a calibrated timer. -/
theorem closeOwned_adds (calibration : ClockCalibrationV2) (owned : Option T) :
    Adds (do
      match ← catching (closeOwned host owned) with
      | .error raised => return ⟨some calibration, owned, some raised⟩
      | .ok _ => return ⟨some calibration, none, none⟩ : Code W T (Prepared T))
      fun result added => ∃ prepared, result = .ok prepared ∧
        PrepareAdds host owned prepared added := by
  have closes : Adds (closeOwned host owned) fun result added =>
      match owned with
      | none => result = .ok () ∧ added = []
      | some timer => (∃ raised, result = .error raised) ∧ added = [] ∨
          host.closable timer = true ∧ added = [.closeTimer timer] := by
    cases owned with
    | none => exact adds_pure ()
    | some timer =>
        exact adds_raiseIf_bind (fun _ => .inl ⟨⟨_, rfl⟩, rfl⟩) fun closable =>
          (adds_asking _ _).mono fun _ _ same => .inr ⟨by simpa using closable, same⟩
  refine (Adds.bind_ok closes.catching (S := fun ended result added => added = [] ∧
    match ended with
    | .error raised => result = .ok ⟨some calibration, owned, some raised⟩
    | .ok _ => result = .ok ⟨some calibration, none, none⟩) fun ended _ _ => ?_).mono ?_
  · cases ended with
    | error raised => exact (adds_pure _).mono fun _ _ both => ⟨both.2, both.1⟩
    | ok _ => exact (adds_pure _).mono fun _ _ both => ⟨both.2, both.1⟩
  · rintro result added ⟨ended, before, _, rfl, closed, rfl, same⟩
    rw [List.append_nil]
    cases owned with
    | none =>
        obtain ⟨rfl, rfl⟩ := closed
        exact ⟨_, same, fun _ member => absurd member List.not_mem_nil, .untimed,
          fun _ => ⟨rfl, _, rfl⟩⟩
    | some timer =>
        rcases closed with ⟨⟨raised, rfl⟩, rfl⟩ | ⟨closable, rfl⟩
        · exact ⟨_, same, prepareAdds_error _ _ _ fun _ member =>
            absurd member List.not_mem_nil⟩
        · cases ended with
          | error raised =>
              exact ⟨_, same, List.forall_mem_singleton.mpr (.inr rfl), .closing timer closable,
                fun none => by cases none⟩
          | ok _ =>
              exact ⟨_, same, List.forall_mem_singleton.mpr (.inr rfl), .closed timer closable,
                fun _ => ⟨rfl, _, rfl⟩⟩

/-- The call that got the timer, before the others. -/
theorem PrepareAdds.opened {owned : Option T} {prepared : Prepared T} {added : Past W T}
    (adds : PrepareAdds host owned prepared added) :
    PrepareAdds host none prepared (opening owned ++ added) := by
  refine ⟨List.forall_mem_append.mpr ⟨?_, adds.kinds⟩, ?_, adds.ready⟩
  · cases owned with
    | none => exact fun _ member => absurd member List.not_mem_nil
    | some timer => exact List.forall_mem_singleton.mpr (.inr rfl)
  · have own : timers (opening owned) = (opening owned : Past W T) := by cases owned <;> rfl
    rw [timers_append, own]
    exact adds.timed

/-- **What the steps up to the loop add to the calls.** -/
theorem prepare_adds : Adds (prepare host start) fun result added =>
    ∃ prepared, result = .ok prepared ∧ PrepareAdds host none prepared added := by
  refine (Adds.bind_ok openTimer_adds.catching (S := fun ended result added =>
    (∀ raised, ended = .error raised → result = .ok ⟨none, none, some raised⟩ ∧ added = []) ∧
    ∀ timer owned, ended = .ok (timer, owned) → ∃ prepared, result = .ok prepared ∧
      PrepareAdds host owned prepared added) fun ended _ _ => ?_).mono ?_
  · rcases ended with raised | ⟨timer, owned⟩
    · refine (adds_pure _).mono fun result added plain => ⟨fun e same => ?_, fun _ _ same => ?_⟩
      · cases same
        exact plain
      · cases same
    · have call : Adds (quiet (fun past => host.calibrate past timer) (.calibrate timer))
          fun _ added => added = [.calibrate timer] := adds_asking _ _
      have inner : ∀ event ∈ ([.calibrate timer] : Past W T), event.Inner :=
        List.forall_mem_singleton.mpr rfl
      refine (Adds.bind_ok call.catching (S := fun ended result added => ∃ prepared,
        result = .ok prepared ∧ PrepareAdds host owned prepared (.calibrate timer :: added))
        fun ended _ _ => ?_).mono ?_
      · cases ended with
        | error raised =>
            refine (adds_pure _).mono ?_
            rintro result added ⟨rfl, rfl⟩
            exact ⟨_, rfl, prepareAdds_error _ _ _ inner⟩
        | ok calibration =>
            refine (closeOwned_adds calibration owned).mono ?_
            rintro result added ⟨prepared, rfl, adds⟩
            exact ⟨prepared, rfl, adds.behind inner⟩
      · rintro result added ⟨ended, before, after, rfl, rfl, more⟩
        refine ⟨fun _ same => ?_, fun _ _ same => ?_⟩
        · cases same
        · cases same
          exact more
  · rintro result added ⟨ended, before, after, rfl, ⟨raised, rfl, inner⟩ |
      ⟨timer, owned, first, rfl, rfl, inner⟩, more⟩
    · obtain ⟨rfl, rfl⟩ := more.1 raised rfl
      rw [List.append_nil]
      exact ⟨_, rfl, prepareAdds_error _ _ _ inner⟩
    · obtain ⟨prepared, rfl, adds⟩ := more.2 timer owned rfl
      rw [List.append_assoc]
      exact ⟨prepared, rfl, adds.opened.behind inner⟩

/-- What `finally` adds for the timer. -/
theorem releaseTimer_adds (owned : Option T) (raised : Option Raised) :
    Adds (releaseTimer host owned raised) fun result added =>
      ∃ ended, result = .ok ended ∧ added = releasing host owned ∧
        (ended = none → raised = none) := by
  cases owned with
  | none =>
      refine (adds_pure raised).mono ?_
      rintro result added ⟨rfl, rfl⟩
      exact ⟨raised, rfl, rfl, id⟩
  | some timer =>
      rw [releaseTimer, releasing]
      split
      · have call : Adds (quiet (fun past => host.closeTimer past timer) (.closeTimer timer))
            fun _ added => added = [.closeTimer timer] := adds_asking _ _
        refine (Adds.bind_ok call.catching (S := fun ended result added => added = [] ∧
          ∃ after, result = .ok after ∧ (after = none → raised = none)) fun ended _ _ => ?_).mono ?_
        · cases ended with
          | error closing =>
              refine (adds_pure _).mono ?_
              rintro result added ⟨rfl, rfl⟩
              exact ⟨rfl, _, rfl, fun none => (Option.or_eq_none_iff.mp none).1⟩
          | ok _ =>
              refine (adds_pure _).mono ?_
              rintro result added ⟨rfl, rfl⟩
              exact ⟨rfl, raised, rfl, id⟩
        · rintro result added ⟨ended, before, after, rfl, rfl, rfl, after', rfl, kept⟩
          exact ⟨after', rfl, rfl, kept⟩
      · refine (adds_pure raised).mono ?_
        rintro result added ⟨rfl, rfl⟩
        exact ⟨raised, rfl, rfl, id⟩

/-! ## The clean-up -/

/-- A call of the clean-up. -/
def Event.Cleans (event : Event W T) : Prop := event.kind = .cleaning

/-- **The clean-up** is one fence and one health check of the leased resource. -/
theorem cleanupResource_adds : Adds (cleanupResource host start) fun result added =>
    ∃ cleanup, result = .ok cleanup ∧ ∃ fence health,
      cleanup = ⟨fenceReply start.binding fence, healthReply start.binding health⟩ ∧
      added = [.fence start.binding.resourceId start.binding.fencingToken fence,
        .healthCheck start.binding.resourceId health] := by
  have fences : Adds (asking (fun past => host.fence past start.binding.resourceId
      start.binding.fencingToken) (.fence start.binding.resourceId start.binding.fencingToken))
      fun fence added =>
        added = [.fence start.binding.resourceId start.binding.fencingToken fence] :=
    adds_asking _ _
  have checks : Adds (asking (fun past => host.healthCheck past start.binding.resourceId)
      (.healthCheck start.binding.resourceId))
      fun health added => added = [.healthCheck start.binding.resourceId health] :=
    adds_asking _ _
  refine (Adds.bind_ok fences.catching fun fence _ _ => Adds.bind_ok checks.catching
    fun health _ _ => adds_pure _).mono ?_
  rintro result added ⟨fence, _, _, rfl, rfl, health, _, _, rfl, rfl, rfl, rfl⟩
  exact ⟨_, rfl, fence, health, rfl, rfl⟩

/-! ## The documents -/

/-- A call behind the clean-up: a reading of the clock for the budget, or a write. -/
def Event.Concludes : Event W T → Prop
  | .now .budget _ => True
  | .write _ _ => True
  | _ => False

/-- The evidence and the failure records that were written. -/
def documents (calls : Past W T) : List Document :=
  calls.filterMap fun call =>
    match call with
    | .write (.performance evidence) (.ok _) => some (.performance evidence)
    | .write (.failure evidence) (.ok _) => some (.failure evidence)
    | _ => none

theorem documents_append (calls later : Past W T) :
    documents (calls ++ later) = documents calls ++ documents later := List.filterMap_append

/-- Only calls for documents write them. -/
theorem documents_of_kinds {calls : Past W T} (none : ∀ event ∈ calls, event.kind ≠ .document) :
    documents calls = [] := by
  refine List.filterMap_eq_nil_iff.mpr fun event member => ?_
  have kind := none event member
  split
  · exact absurd rfl kind
  · exact absurd rfl kind
  · rfl

variable (host start) in
/-- What the end of a run adds to the calls. -/
structure ConcludeAdds (acquisitions : List M1AcquisitionEvidence) (raised : Option Raised)
    (cleanup : CleanupEvidence) (result : Except Raised ManualPerformanceEvidenceResult)
    (added : Past W T) : Prop where
  concludes : ∀ event ∈ added, event.Concludes
  documented : (documents added).length = 1 ↔ ∀ event ∈ added, event.passes host
  performed : (∃ evidence, .performance evidence ∈ documents added) ↔ ∃ run, result = .ok run
  returned : ∀ run, result = .ok run → raised = none ∧ run.evidence.acquisitions = acquisitions ∧
    run.evidence.cleanupEvidence = cleanup ∧ run.cleanupEvidence = cleanup ∧ cleanup.Healthy ∧
    cleanup.Bound start.binding ∧ .write (.performance run.evidence) (.ok run.rawSamples) ∈ added

/-- Calls before the end that write nothing and pass. -/
theorem ConcludeAdds.behind {acquisitions : List M1AcquisitionEvidence} {raised : Option Raised}
    {cleanup : CleanupEvidence} {result : Except Raised ManualPerformanceEvidenceResult}
    {before added : Past W T}
    (pass : ∀ event ∈ before, event.Concludes ∧ event.passes host)
    (nothing : documents before = [])
    (adds : ConcludeAdds host start acquisitions raised cleanup result added) :
    ConcludeAdds host start acquisitions raised cleanup result (before ++ added) := by
  have same : documents (before ++ added) = documents added := by
    rw [documents_append, nothing, List.nil_append]
  refine ⟨List.forall_mem_append.mpr ⟨fun event member => (pass event member).1,
    adds.concludes⟩, ?_, ?_, fun run ok => ?_⟩
  · rw [same, adds.documented, List.forall_mem_append]
    exact ⟨fun passes => ⟨fun event member => (pass event member).2, passes⟩, And.right⟩
  · rw [same]
    exact adds.performed
  · obtain ⟨none, acquired, cleaned, given, healthy, bound, written⟩ := adds.returned run ok
    exact ⟨none, acquired, cleaned, given, healthy, bound, List.mem_append_right _ written⟩

/-- A failure is recorded once, when its record is encoded and written. -/
theorem fail_adds (acquisitions : List M1AcquisitionEvidence) (raised : Option Raised)
    (cleanup : CleanupEvidence) (evidence : FailureEvidence) :
    Adds (fail host evidence)
      (ConcludeAdds host start acquisitions raised cleanup) := by
  have recorded : ∀ (answer : Except Raised Evidence.EvidenceArtifact) (e : Raised),
      ConcludeAdds host start acquisitions raised cleanup (.error e)
        [.write (.failure evidence) answer] := by
    intro answer e
    refine ⟨List.forall_mem_singleton.mpr trivial, ?_, ?_, fun run same => by cases same⟩
    · rw [List.forall_mem_singleton]
      cases answer with
      | error raised => exact iff_of_false (by simp [documents]) fun ⟨file, same⟩ => by cases same
      | ok file => exact iff_of_true rfl ⟨file, rfl⟩
    · refine iff_of_false (fun ⟨performance, member⟩ => ?_) fun ⟨run, same⟩ => by cases same
      cases answer with
      | error raised => exact absurd member List.not_mem_nil
      | ok file => cases List.mem_singleton.mp member
  refine adds_asking_bind (fun e => recorded _ e) fun file => (adds_raise _).mono ?_
  rintro result added ⟨rfl, rfl⟩
  exact recorded _ _

/-- A reading of the clock for the budget. -/
def Event.Reads (event : Event W T) : Prop := ∃ answer, event = .now .budget answer

theorem Event.Reads.concludes {event : Event W T} (reads : event.Reads) :
    event.Inner ∧ event.Concludes ∧ event.passes host := by
  obtain ⟨answer, rfl⟩ := reads
  exact ⟨rfl, trivial, trivial⟩

theorem checkCleanup_within (cleanup : CleanupEvidence) :
    Within Event.Reads (checkCleanup host start cleanup)
      fun _ => cleanup.Healthy ∧ cleanup.Bound start.binding := by
  refine (requireWithinWallBudget_within fun answer => ⟨answer, rfl⟩).bind fun _ _ =>
    (within_raiseIf _).bind fun _ healthy => (within_raiseIf _).mono fun _ bound => ?_
  exact ⟨not_not.mp healthy, not_not.mp bound⟩

theorem documents_reads {calls : Past W T} (reads : ∀ event ∈ calls, event.Reads) :
    documents calls = [] :=
  documents_of_kinds fun event member same => by
    obtain ⟨answer, rfl⟩ := reads event member
    cases same

variable {acquisitions : List M1AcquisitionEvidence} {cleanup : CleanupEvidence}

/-- A publication writes the evidence or nothing, and a failure record follows in that case. -/
theorem publish_adds (evidence : M1MeasurementEvidence) (failed : Raised → FailureEvidence)
    (same : evidence.acquisitions = acquisitions ∧ evidence.cleanupEvidence = cleanup)
    (healthy : cleanup.Healthy) (bound : cleanup.Bound start.binding) :
    Adds (do
      match ← catching (publish host evidence) with
      | .error error => fail host (failed error)
      | .ok rawSamples => return ⟨evidence, rawSamples, cleanup⟩ :
        Code W T ManualPerformanceEvidenceResult)
      (ConcludeAdds host start acquisitions none cleanup) := by
  have publishes : Adds (publish host evidence) fun result added =>
      (∃ e, result = .error e) ∧ (added = [] ∨
        ∃ e, added = [.write (.performance evidence) (.error e)]) ∨
      ∃ file, result = .ok file ∧ added = [.write (.performance evidence) (.ok file)] := by
    refine adds_raiseIf_bind (fun _ => .inl ⟨⟨_, rfl⟩, .inl rfl⟩) fun _ =>
      (adds_asking _ _).mono ?_
    rintro result added rfl
    cases result with
    | error e => exact .inl ⟨⟨e, rfl⟩, .inr ⟨e, rfl⟩⟩
    | ok file => exact .inr ⟨file, rfl, rfl⟩
  refine (Adds.bind_ok publishes.catching (S := fun ended result added => match ended with
    | .error _ => ConcludeAdds host start acquisitions none cleanup result added
    | .ok rawSamples => result = .ok ⟨evidence, rawSamples, cleanup⟩ ∧ added = [])
    fun ended _ _ => ?_).mono ?_
  · cases ended with
    | error e => exact fail_adds _ _ _ _
    | ok file => exact adds_pure _
  · rintro result added ⟨ended, before, after, rfl, ⟨⟨e, rfl⟩, rfl | ⟨e', rfl⟩⟩ |
      ⟨file, rfl, rfl⟩, more⟩
    · exact more
    · exact more.behind (List.forall_mem_singleton.mpr ⟨trivial, trivial⟩) rfl
    · obtain ⟨rfl, rfl⟩ := more
      refine ⟨List.forall_mem_singleton.mpr trivial,
        iff_of_true rfl (List.forall_mem_singleton.mpr trivial),
        iff_of_true ⟨evidence, List.mem_singleton_self _⟩ ⟨_, rfl⟩, fun run ok => ?_⟩
      cases ok
      exact ⟨rfl, same.1, same.2, rfl, healthy, bound, List.mem_singleton_self _⟩

/-- **What the end of a run adds to the calls.** -/
theorem conclude_adds {calibration : Option ClockCalibrationV2} {raised : Option Raised}
    (ready : raised = none → ∃ calibrated, calibration = some calibrated) :
    Adds (conclude host start calibration acquisitions raised cleanup)
      (ConcludeAdds host start acquisitions raised cleanup) := by
  unfold conclude
  cases raised with
  | some error => exact fail_adds _ _ _ _
  | none =>
      obtain ⟨calibrated, rfl⟩ := ready rfl
      have checks : Within Event.Reads (checkCleanup host start cleanup)
          fun _ => cleanup.Healthy ∧ cleanup.Bound start.binding := checkCleanup_within cleanup
      refine (Adds.bind_ok (Adds.catching checks)
        (S := fun ended => ConcludeAdds host start acquisitions none cleanup)
        fun ended _ checked => ?_).mono ?_
      · cases ended with
        | error e => exact fail_adds _ _ _ _
        | ok _ =>
            obtain ⟨healthy, bound⟩ := checked.2 () rfl
            exact publish_adds _ _ ⟨rfl, rfl⟩ healthy bound
      · rintro result added ⟨ended, before, after, rfl, ⟨reads, -⟩, adds⟩
        exact adds.behind (fun event member => (reads event member).concludes.2)
          (documents_reads reads)

/-! ## Discipline -/

variable (host start) in
/-- How a run has to leave its surroundings: all that it was given is closed, the resource is
fenced and checked once, behind all measurements, and there is one document, which is the evidence
of the plan exactly when the run returns. -/
structure Disciplined (result : Except Raised ManualPerformanceEvidenceResult)
    (calls : Past W T) : Prop where
  released : Released calls
  timersClosed : TimersClosed calls
  cleanedOnce : ∃ before fence health after,
    calls = before ++ .fence start.binding.resourceId start.binding.fencingToken fence ::
      .healthCheck start.binding.resourceId health :: after ∧
    (∀ event ∈ before, ¬event.Cleans) ∧ (∀ event ∈ after, event.Concludes) ∧
    ∀ run, result = .ok run → run.cleanupEvidence =
      ⟨fenceReply start.binding fence, healthReply start.binding health⟩
  documented : (documents calls).length = 1
  performed : (∃ evidence, .performance evidence ∈ documents calls) ↔ ∃ run, result = .ok run
  returned : ∀ run, result = .ok run →
    .write (.performance run.evidence) (.ok run.rawSamples) ∈ calls ∧
    List.Forall₂ (Acquired start.plan) start.plan.acquisitionOrder.zipIdx
      run.evidence.acquisitions ∧
    run.evidence.cleanupEvidence = run.cleanupEvidence ∧ run.cleanupEvidence.Healthy ∧
    run.cleanupEvidence.Bound start.binding

/-- The calls of a run by their parts. -/
structure RunAdds (host : Surroundings W T) (start : Collection T) (prepared : Prepared T)
    (ended : List M1AcquisitionEvidence × Option Raised) (raised : Option Raised)
    (cleanup : CleanupEvidence) (result : Except Raised ManualPerformanceEvidenceResult)
    (prepares collects cleans concludes : Past W T) : Prop where
  preparing : PrepareAdds host none prepared prepares
  looping : LoopAdds host start start.plan.acquisitionOrder.zipIdx [] ended collects
  cleaning : ∀ event ∈ cleans, event.Cleans
  concluding : ConcludeAdds host start ended.1 raised cleanup result concludes

/-- **What a run adds to the calls.** -/
theorem run_adds : Adds (runManualPerformance host start) fun result added =>
    ∃ prepared ended raised fence health prepares collects concludes,
      (raised = none → ended.2 = none) ∧
      added = prepares ++ (collects ++ (releasing host prepared.owned ++
        ([.fence start.binding.resourceId start.binding.fencingToken fence,
          .healthCheck start.binding.resourceId health] ++ concludes))) ∧
      RunAdds host start prepared ended raised
        ⟨fenceReply start.binding fence, healthReply start.binding health⟩ result prepares collects
        [.fence start.binding.resourceId start.binding.fencingToken fence,
          .healthCheck start.binding.resourceId health] concludes := by
  have collecting : ∀ prepared : Prepared T, Adds (collect host start prepared)
      fun result added => ∃ ended, result = .ok ended ∧
        LoopAdds host start start.plan.acquisitionOrder.zipIdx [] ended added ∧
        (ended.2 = none → prepared.error = none) := by
    intro prepared
    unfold collect
    split
    · refine (adds_pure _).mono ?_
      rintro result added ⟨rfl, rfl⟩
      exact ⟨_, rfl, ⟨fun _ member => absurd member List.not_mem_nil,
        iff_of_true trivial fun _ member => absurd member List.not_mem_nil,
        fun none => by cases none⟩, fun none => by cases none⟩
    · rename_i unraised
      refine (acquireAll_adds _ _).mono ?_
      rintro result added ⟨ended, rfl, adds⟩
      exact ⟨ended, rfl, adds, fun _ => unraised⟩
  have preparing : Adds (prepare host start) fun result added => ∃ prepared,
      result = .ok prepared ∧ PrepareAdds host none prepared added := prepare_adds
  have letting : ∀ owned raised, Adds (releaseTimer host owned raised) fun result added => ∃ ended,
      result = .ok ended ∧ added = releasing host owned ∧ (ended = none → raised = none) :=
    releaseTimer_adds
  have cleaning : Adds (cleanupResource host start) fun result added => ∃ cleanup,
      result = .ok cleanup ∧ ∃ fence health,
        cleanup = ⟨fenceReply start.binding fence, healthReply start.binding health⟩ ∧
        added = [.fence start.binding.resourceId start.binding.fencingToken fence,
          .healthCheck start.binding.resourceId health] := cleanupResource_adds
  have ending : ∀ (prepared : Prepared T) (ended : List M1AcquisitionEvidence × Option Raised)
      (raised : Option Raised) (cleanup : CleanupEvidence),
      (raised = none → ∃ calibrated, prepared.calibration = some calibrated) →
      Adds (conclude host start prepared.calibration ended.1 raised cleanup)
        (ConcludeAdds host start ended.1 raised cleanup) := fun _ _ _ _ => conclude_adds
  refine (Adds.bind_ok preparing fun prepared _ prepares =>
    Adds.bind_ok (collecting prepared) fun ended _ collects =>
    Adds.bind_ok (letting prepared.owned ended.2) fun raised _ releases =>
    Adds.bind_ok cleaning fun cleanup _ _ => ending prepared ended raised cleanup
      fun none => (prepares.ready (collects.2 (releases.2 none))).2).mono ?_
  rintro result added ⟨prepared, prepares, _, rfl, preparing, ended, collects, _, rfl,
    ⟨looping, -⟩, raised, _, _, rfl, ⟨rfl, kept⟩, cleanup, _, concludes, rfl,
    ⟨fence, health, rfl, rfl⟩, concluding⟩
  exact ⟨prepared, ended, raised, fence, health, prepares, collects, concludes, kept, rfl,
    preparing, looping, List.forall_mem_cons.mpr ⟨rfl, List.forall_mem_singleton.mpr rfl⟩,
    concluding⟩

/-- What a call of the conclusion is not. -/
theorem Event.Concludes.kind_ne {event : Event W T} (concludes : event.Concludes) :
    event.kind ≠ .workload ∧ event.kind ≠ .timer ∧ event.kind ≠ .cleaning := by
  unfold Event.kind
  split <;> first | exact concludes.elim | decide

theorem kind_releasing {owned : Option T} {event : Event W T}
    (member : event ∈ releasing host owned) : event.kind = .timer ∧ event.passes host := by
  cases owned with
  | none => exact absurd member List.not_mem_nil
  | some timer =>
      rw [releasing] at member
      split at member
      · rw [List.mem_singleton.mp member]
        exact ⟨rfl, trivial⟩
      · exact absurd member List.not_mem_nil

/-- The calls up to the loop pass when those about the timer do. -/
theorem PrepareAdds.passes_iff {prepared : Prepared T} {added : Past W T}
    (adds : PrepareAdds host none prepared added) :
    (∀ event ∈ timers added, event.passes host) ↔ ∀ event ∈ added, event.passes host := by
  refine ⟨fun passes event member => ?_, fun passes event member =>
    passes event (List.mem_filter.mp member).1⟩
  rcases adds.kinds event member with inner | timer
  · exact Event.Inner.passes inner
  · exact passes event (List.mem_filter.mpr ⟨member, by simpa using timer⟩)

section Parts

variable {prepared : Prepared T} {ended : List M1AcquisitionEvidence × Option Raised}
  {raised : Option Raised} {result : Except Raised ManualPerformanceEvidenceResult}
  {prepares collects cleans concludes : Past W T}
  (parts : RunAdds host start prepared ended raised cleanup result prepares collects cleans
    concludes)

include parts

/-- The workloads are those of the loop. -/
theorem RunAdds.released_iff :
    Released (prepares ++ (collects ++ (releasing host prepared.owned ++ (cleans ++ concludes)))) ↔
      ∀ event ∈ collects, event.passes host := by
  rw [released_append_left, released_append_right, parts.looping.released]
  · refine List.forall_mem_append.mpr ⟨fun event member same => ?_, List.forall_mem_append.mpr
      ⟨fun event member same => ?_, fun event member =>
        (parts.concluding.concludes event member).kind_ne.1⟩⟩
    · rw [(kind_releasing member).1] at same
      cases same
    · rw [parts.cleaning event member] at same
      cases same
  · intro event member same
    rcases parts.preparing.kinds event member with inner | timer
    · rw [inner] at same
      cases same
    · rw [timer] at same
      cases same

/-- The timer is opened before the loop and closed there or behind it. -/
theorem RunAdds.timersClosed_iff :
    TimersClosed
        (prepares ++ (collects ++ (releasing host prepared.owned ++ (cleans ++ concludes)))) ↔
      ∀ event ∈ prepares, event.passes host := by
  have untimed : timers collects = [] := timers_of_kinds fun event member same => by
    rcases parts.looping.kinds event member with kind | kind | kind <;> rw [kind] at same <;>
      cases same
  have still : timers (cleans ++ concludes) = [] := by
    refine timers_of_kinds (List.forall_mem_append.mpr ⟨fun event member same => ?_,
      fun event member => (parts.concluding.concludes event member).kind_ne.2.1⟩)
    rw [parts.cleaning event member] at same
    cases same
  have own : timers (releasing host prepared.owned) = releasing host prepared.owned :=
    List.filter_eq_self.mpr fun event member => by simpa using (kind_releasing member).1
  rw [← timersClosed_timers, timers_append, timers_append, timers_append, untimed, still, own,
    List.nil_append, List.append_nil, ← parts.preparing.passes_iff]
  exact parts.preparing.timed.closed_iff

/-- Nothing is cleaned or documented before the clean-up. -/
theorem RunAdds.kind_before :
    ∀ event ∈ prepares ++ (collects ++ releasing host prepared.owned),
      event.kind ≠ .cleaning ∧ event.kind ≠ .document := by
  refine List.forall_mem_append.mpr ⟨fun event member => ?_, List.forall_mem_append.mpr
    ⟨fun event member => ?_, fun event member => ?_⟩⟩
  · rcases parts.preparing.kinds event member with kind | kind <;> rw [kind] <;> decide
  · rcases parts.looping.kinds event member with kind | kind | kind <;> rw [kind] <;> decide
  · rw [(kind_releasing member).1]
    decide

/-- The documents are those of the end. -/
theorem RunAdds.documents_eq :
    documents (prepares ++ (collects ++ (releasing host prepared.owned ++ (cleans ++ concludes)))) =
      documents concludes := by
  have cleaned : documents cleans = [] := documents_of_kinds fun event member same => by
    rw [parts.cleaning event member] at same
    cases same
  have grouped : prepares ++ (collects ++ (releasing host prepared.owned ++
      (cleans ++ concludes))) =
      prepares ++ (collects ++ releasing host prepared.owned) ++ (cleans ++ concludes) := by
    simp only [List.append_assoc]
  rw [grouped, documents_append _ (cleans ++ concludes), documents_append cleans, cleaned,
    documents_of_kinds fun event member => (parts.kind_before event member).2]
  rfl

/-- What passes is decided before the loop, in it and at the end. -/
theorem RunAdds.passes_iff :
    (∀ event ∈ prepares ++ (collects ++ (releasing host prepared.owned ++
        (cleans ++ concludes))), event.passes host) ↔
      (∀ event ∈ prepares, event.passes host) ∧ (∀ event ∈ collects, event.passes host) ∧
        ∀ event ∈ concludes, event.passes host := by
  have cleaned : ∀ event ∈ cleans, event.passes host := fun event member => by
    have kind := parts.cleaning event member
    unfold Event.passes
    split <;> trivial
  simp only [List.forall_mem_append]
  exact ⟨fun all => ⟨all.1, all.2.1, all.2.2.2.2⟩, fun all => ⟨all.1, all.2.1,
    fun event member => (kind_releasing member).2, cleaned, all.2.2⟩⟩

end Parts

variable (host start) in
/-- **A run is disciplined** exactly when each of its calls passes: the steps between the start of
a process and the `try` that closes it go well, the timer of the job can be closed, and a failure
record that is due is written. -/
theorem m1_disciplined_iff :
    Disciplined start ((runManualPerformance host start).run []).1
        ((runManualPerformance host start).run []).2 ↔
      ∀ call ∈ ((runManualPerformance host start).run []).2, call.passes host := by
  obtain ⟨added, record, prepared, ended, raised, fence, health, prepares, collects, concludes,
    kept, rfl, parts⟩ := (run_adds : Adds (runManualPerformance host start) _) []
  rw [record, List.nil_append, parts.passes_iff, ← parts.timersClosed_iff, ← parts.released_iff,
    ← parts.concluding.documented, ← parts.documents_eq]
  constructor
  · rintro ⟨released, timersClosed, -, documented, -, -⟩
    exact ⟨timersClosed, released, documented⟩
  · rintro ⟨timersClosed, released, documented⟩
    refine ⟨released, timersClosed, ⟨prepares ++ (collects ++ releasing host prepared.owned),
      fence, health, concludes, by simp, ?_, parts.concluding.concludes, fun run same => ?_⟩,
      documented, ?_, fun run same => ?_⟩
    · exact fun event member => (parts.kind_before event member).1
    · exact (parts.concluding.returned run same).2.2.2.1
    · rw [parts.documents_eq]
      exact parts.concluding.performed
    · obtain ⟨none, acquired, cleaned, given, healthy, bound, written⟩ :=
        parts.concluding.returned run same
      obtain ⟨-, new, all, planned⟩ := parts.looping.acquired (kept none)
      refine ⟨by simp [written], ?_, cleaned.trans given.symm, ?_, ?_⟩
      · rw [acquired, all]
        exact planned
      · rw [given]
        exact healthy
      · rw [given]
        exact bound

/-! ### Surroundings that answer steadily -/

/-- The process of every workload. -/
def steadyProcess : ProcessIdentity := ⟨11, "linux-proc-startticks:5", by decide, by decide⟩

/-- A plan of one group with one sample for each acquisition. -/
def steadyPlan : M1MeasurementPlan := ⟨[.baseline, .candidate, .candidate, .baseline], 0, 1, 1⟩

/-- The start of a collection with a timer of its own. -/
def steadyStart : Collection Unit where
  plan := steadyPlan
  binding := ⟨"sha256:image", "sha256:artifact", "hcu-0", 1⟩
  timer := .jobBound
  deadlineNs := none
  leaseLostEvent := false
  provenance := .obj []

/-- Some file. -/
def steadyFile : RawEvidenceFileV2 := ⟨"file:///evidence", "sha256:00"⟩

/-- The acquisition that is going on: every one asks for its process once. -/
def steadyOrdinal (past : Past Unit Unit) : Nat :=
  (past.filter fun event => event matches .processIdentity _ _).length - 1

/-- The arm of an acquisition. -/
def steadyArm (ordinal : Nat) : M1Arm := steadyPlan.acquisitionOrder.getD ordinal .baseline

/-- Surroundings whose clock counts the calls and that answer every other call as is wanted. -/
def steadyHost (identity : Except Raised ProcessIdentity) : Surroundings Unit Unit where
  now past := .ok past.length
  leaseLost _ := .ok false
  timer _ := .ok ()
  closable _ := true
  calibrate _ _ := .ok FormalRun.steadyCalibration
  closeTimer _ _ := .ok ()
  workload _ _ _ := .ok ()
  processIdentity _ _ := identity
  lifecycle _ event _ ordinal captured := .ok
    { event := event
      restartOrdinal := ordinal
      processId := 11
      procStatLine := "11 (a) S 1 1 1 1 1 1 1 1 1 1 1 1 1 1 1 1 1 1 5".toList
      capturedMonotonicNs := captured
      waitpidResultPid := some 11
      waitStatus := some 0 }
  telemetry _ := .ok (.obj [])
  activation past _ := .ok
    { arm := steadyArm (steadyOrdinal past)
      imageDigest := "sha256:image"
      loadedArtifactHash := if steadyArm (steadyOrdinal past) = .candidate then
        some "sha256:artifact" else none
      importAttestation := if steadyArm (steadyOrdinal past) = .candidate then
        some steadyFile else none
      cacheNamespaceHash := "sha256:cache"
      cacheNamespaceEvidence := steadyFile }
  readImport past _ := .ok
    ⟨steadyOrdinal past, 11, steadyProcess.startToken, "sha256:image", "sha256:artifact"⟩
  readCache past _ := .ok
    ⟨steadyOrdinal past, steadyArm (steadyOrdinal past), 11, steadyProcess.startToken,
      "sha256:cache", true⟩
  readEvent past _ := .ok
    ⟨11, steadyProcess.startToken, steadyArm (steadyOrdinal past), steadyOrdinal past, 0, 1,
      .obj [], .obj []⟩
  synchronize _ _ := .ok ()
  warmup _ _ := .ok ()
  measureBatch _ _ _ := .ok steadyFile
  close _ _ := .ok ()
  isAlive _ _ := .ok false
  fence _ _ _ := .ok ⟨[("resource_id", .str "hcu-0"), ("fencing_token", .int 1),
    ("fenced", .bool true)], true, true⟩
  healthCheck _ _ := .ok ⟨[("resource_id", .str "hcu-0"), ("healthy", .bool true)], true, true⟩
  write _ _ := .ok ⟨"file:///evidence", "sha256:00", 1⟩
  evidenceEncodes _ := true
  acquisitionAccepted _ := true
  evidenceAccepted _ := true

example : ((runManualPerformance (steadyHost (.ok steadyProcess)) steadyStart).run []).1.toOption.map
    (fun run => run.evidence.acquisitions.map fun item => (item.arm, item.acquisitionOrdinal)) =
      some [(.baseline, 0), (.candidate, 1), (.candidate, 2), (.baseline, 3)] := by decide +kernel

/-- A process that is gone before it is identified. -/
def lookupError : Raised := ⟨"ProcessLookupError", "", true⟩

/-- The record of a run whose first process is gone. -/
def lookupFailure : FailureEvidence where
  binding := steadyStart.binding
  plan := steadyPlan
  completedAcquisitions := []
  calibration := some FormalRun.steadyCalibration
  cleanupEvidence := ⟨⟨[("resource_id", .str "hcu-0"), ("fencing_token", .int 1),
    ("fenced", .bool true)], true, true⟩,
    ⟨[("resource_id", .str "hcu-0"), ("healthy", .bool true)], true, true⟩⟩
  error := lookupError

/-- A workload whose process cannot be identified is never closed. -/
theorem unidentified_process_leaks :
    ((runManualPerformance (steadyHost (.error lookupError)) steadyStart).run []).2 =
      [.timer (.ok ()), .calibrate (), .closeTimer (), .workload 0 (.ok ()),
        .processIdentity () (.error lookupError),
        .fence "hcu-0" 1 (.ok lookupFailure.cleanupEvidence.fence),
        .healthCheck "hcu-0" (.ok lookupFailure.cleanupEvidence.health),
        .write (.failure lookupFailure) (.ok ⟨"file:///evidence", "sha256:00", 1⟩)] ∧
    ¬Released
      ((runManualPerformance (steadyHost (.error lookupError)) steadyStart).run []).2 := by
  have calls : ((runManualPerformance (steadyHost (.error lookupError)) steadyStart).run []).2 =
      [.timer (.ok ()), .calibrate (), .closeTimer (), .workload 0 (.ok ()),
        .processIdentity () (.error lookupError),
        .fence "hcu-0" 1 (.ok lookupFailure.cleanupEvidence.fence),
        .healthCheck "hcu-0" (.ok lookupFailure.cleanupEvidence.health),
        .write (.failure lookupFailure) (.ok ⟨"file:///evidence", "sha256:00", 1⟩)] := rfl
  refine ⟨calls, fun released => ?_⟩
  rw [calls] at released
  obtain ⟨other, later, closes⟩ := released.2.2.2.1 () rfl
  simp only [List.mem_cons, List.not_mem_nil, or_false] at later
  rcases later with rfl | rfl | rfl | rfl <;> cases closes

end M1Run

end HcuAutoOpt
