import HcuAutoOpt.Measurement.Stage0Harness
import Mathlib.Data.List.Range

/-!
# What a Stage 0 run leaves behind

However its surroundings behave, a run that was admitted fences its resource once, and an envelope
that it returns has the samples of its plan, from one process for each restart. It closes every
workload as well, but for one whose identity does not pass: the checks of the identity stand in
front of the `try` that closes the workload (`disciplined_iff`).
-/

set_option autoImplicit false

namespace HcuAutoOpt

namespace FormalRun

open Foundation Foundation.Raising
open Stage0 (ClockCalibrationV2)

variable {W : Type} {host : Surroundings W} {harness : Harness} {context : JobContext}
variable {binding : Stage0EvidenceBinding} {plan : MeasurementPlanV2}

/-! ## Calls of a restart -/

/-- A call that neither gets nor identifies a workload, nor fences. -/
def Event.Inner : Event W → Prop
  | .workload _ _ => False
  | .processIdentity _ _ => False
  | .fence _ _ _ => False
  | _ => True

theorem within_quiet {α : Type} {answer : Past W → Except Raised α} {event : Event W}
    (inner : event.Inner) : Within Event.Inner (quiet answer event) fun _ => True :=
  within_asking (fun _ => inner) fun _ => trivial

theorem requireLiveLease_within :
    Within Event.Inner (requireLiveLease host context) fun _ => True := by
  unfold requireLiveLease
  split
  · exact (within_quiet (by trivial)).bind fun _ _ => (within_raiseIf _).mono fun _ _ => trivial
  · exact within_pure trivial

/-- A reading that is behind the last observation. -/
theorem nextObservationTime_within (observations : List DynamicObservationV2)
    (samples : List RawSampleV2) :
    Within Event.Inner (nextObservationTime host observations samples) fun captured =>
      ∀ last ∈ observations.getLast?, last.capturedMonotonicNs < captured := by
  refine (within_quiet (by trivial)).bind fun captured _ => (within_raiseIf _).bind fun _ later =>
    within_pure ?_
  intro last found
  rw [Option.mem_def.mp found] at later
  simp only [Option.map_some, Option.getD_some, not_le] at later
  split at later
  next => exact lt_of_le_of_lt (le_max_left _ _) later
  next => exact later

theorem observe_within (phase : ObservationPhase) (captured : Int) (restart : Option Nat)
    (identity : Option ProcessIdentity) (lifecycle : Option Evidence.EvidenceArtifact) :
    Within Event.Inner (observe host phase captured restart identity lifecycle)
      fun observation => observation.capturedMonotonicNs = captured :=
  (within_quiet (by trivial)).bind fun _ _ => (within_raiseIf _).bind fun _ _ => within_pure rfl

theorem observeLifecycle_within (workload : W) (identity : ProcessIdentity)
    (restartOrdinal : Nat) (event : LifecycleEvent) (phase : ObservationPhase) (captured : Int) :
    Within Event.Inner
      (observeLifecycle host binding workload identity restartOrdinal event phase captured)
      fun observation => observation.capturedMonotonicNs = captured :=
  (within_quiet (by trivial)).bind fun _ _ => (within_raiseIf _).bind fun _ _ =>
    (within_quiet (by trivial)).bind fun _ _ => (within_raiseIf _).bind fun _ _ =>
    observe_within _ _ _ _ _

/-! ## Samples in the order of the plan -/

/-- The place of a sample in the plan, and its process. -/
structure Label where
  restartOrdinal : Nat
  segment : Stage0Segment
  segmentSampleOrdinal : Nat
  processId : Int
  processStartToken : String
  deriving DecidableEq, Repr

/-- The label of a sample. -/
def labelOf (sample : RawSampleV2) : Label :=
  ⟨sample.restartOrdinal, sample.segment, sample.segmentSampleOrdinal, sample.processId,
    sample.processStartToken⟩

/-- The samples that a plan has for a segment. -/
def segmentLabels (count : Nat) (identity : ProcessIdentity) (restartOrdinal : Nat)
    (segment : Stage0Segment) : List Label :=
  (List.range count).map fun ordinal =>
    ⟨restartOrdinal, segment, ordinal, identity.pid, identity.startToken⟩

/-- The samples that a plan has for a restart. -/
def restartLabels (plan : MeasurementPlanV2) (identity : ProcessIdentity)
    (restartOrdinal : Nat) : List Label :=
  plan.segmentOrder.flatMap (segmentLabels plan.samplesPerSegment identity restartOrdinal)

/-- The samples of a plan whose restarts have given processes. -/
def plannedLabels (plan : MeasurementPlanV2) (identities : List ProcessIdentity) : List Label :=
  identities.zipIdx.flatMap fun place => restartLabels plan place.1 place.2

theorem plannedLabels_append (identities : List ProcessIdentity) (identity : ProcessIdentity) :
    plannedLabels plan (identities ++ [identity]) =
      plannedLabels plan identities ++ restartLabels plan identity identities.length := by
  simp [plannedLabels, List.zipIdx_append]

theorem length_restartLabels (identity : ProcessIdentity) (restartOrdinal : Nat) :
    (restartLabels plan identity restartOrdinal).length =
      plan.segmentOrder.length * plan.samplesPerSegment := by
  simp [restartLabels, segmentLabels, List.length_flatMap]

theorem length_plannedLabels (identities : List ProcessIdentity) :
    (plannedLabels plan identities).length =
      identities.length * plan.segmentOrder.length * plan.samplesPerSegment := by
  simp [plannedLabels, List.length_flatMap, length_restartLabels, mul_assoc]

/-- The acquisition ordinals are the positions. -/
def Numbered (samples : List RawSampleV2) : Prop :=
  samples.map RawSampleV2.acquisitionOrdinal = List.range samples.length

theorem measureSample_within (workload : W) (identity : ProcessIdentity) (restartOrdinal : Nat)
    (segment : Stage0Segment) {samples : List RawSampleV2} (numbered : Numbered samples)
    (ordinal : Nat) :
    Within Event.Inner
      (measureSample host context plan workload identity restartOrdinal segment samples ordinal)
      fun grown => Numbered grown ∧ grown.map labelOf = samples.map labelOf ++
        [⟨restartOrdinal, segment, ordinal, identity.pid, identity.startToken⟩] := by
  refine requireLiveLease_within.bind fun _ _ => (within_quiet (by trivial)).bind fun timing _ =>
    (within_raiseIf _).bind fun _ _ => (within_raiseIf _).bind fun _ _ =>
    (within_raiseIf _).bind fun _ _ => within_pure ⟨?_, ?_⟩
  · rw [Numbered, List.map_append, numbered, List.length_append, List.length_singleton,
      List.range_succ]
    rfl
  · rw [List.map_append]
    rfl

theorem measureSegment_within (workload : W) (identity : ProcessIdentity) (restartOrdinal : Nat)
    {samples : List RawSampleV2} (numbered : Numbered samples) (segment : Stage0Segment) :
    Within Event.Inner
      (measureSegment host context plan workload identity restartOrdinal samples segment)
      fun grown => Numbered grown ∧ grown.map labelOf = samples.map labelOf ++
        segmentLabels plan.samplesPerSegment identity restartOrdinal segment := by
  have warm : Within Event.Inner (warmUp host plan workload segment) fun _ => True :=
    within_forM (fun _ => (within_quiet (by trivial)).bind fun _ _ => within_quiet (by trivial)) _
  have loop := within_foldlM (P := Event.Inner)
    (measureSample host context plan workload identity restartOrdinal segment)
    (fun (done : List Nat) (grown : List RawSampleV2) => Numbered grown ∧
      grown.map labelOf = samples.map labelOf ++ done.map fun ordinal =>
        ⟨restartOrdinal, segment, ordinal, identity.pid, identity.startToken⟩)
    (fun done ordinal grown ⟨inOrder, labels⟩ =>
      (measureSample_within workload identity restartOrdinal segment inOrder ordinal).mono
        fun more ⟨still, label⟩ => ⟨still, by
          rw [label, labels, List.map_append, List.append_assoc]
          rfl⟩)
    (List.range plan.samplesPerSegment) [] samples ⟨numbered, (List.append_nil _).symm⟩
  exact warm.bind fun _ _ => loop

theorem measureSegments_within (workload : W) (identity : ProcessIdentity) (restartOrdinal : Nat)
    {samples : List RawSampleV2} (numbered : Numbered samples) :
    Within Event.Inner (plan.segmentOrder.foldlM
      (measureSegment host context plan workload identity restartOrdinal) samples)
      fun grown => Numbered grown ∧ grown.map labelOf = samples.map labelOf ++
        restartLabels plan identity restartOrdinal := by
  exact within_foldlM (P := Event.Inner)
    (measureSegment host context plan workload identity restartOrdinal)
    (fun (done : List Stage0Segment) (grown : List RawSampleV2) => Numbered grown ∧
      grown.map labelOf = samples.map labelOf ++
        done.flatMap (segmentLabels plan.samplesPerSegment identity restartOrdinal))
    (fun done segment grown ⟨inOrder, labels⟩ =>
      (measureSegment_within workload identity restartOrdinal inOrder segment).mono
        fun more ⟨still, label⟩ => ⟨still, by
          rw [label, labels, List.flatMap_append, List.flatMap_singleton, List.append_assoc]⟩)
    plan.segmentOrder [] samples ⟨numbered, (List.append_nil _).symm⟩

/-! ## One restart -/

variable (harness) in
/-- Answers that are identities of processes of their own, besides some in use. -/
def Distinguished (inUse : List (Int × String)) (answers : List (Except Raised ProcessIdentity)) :
    Prop :=
  (∀ answer ∈ answers, ∃ identity, answer = .ok identity ∧ identity.pid ≠ harness.ownPid ∧
    identity.key ∉ inUse) ∧
  (answers.filterMap fun answer => answer.toOption.map ProcessIdentity.key).Nodup

theorem distinguished_nil (inUse : List (Int × String)) : Distinguished harness inUse [] :=
  ⟨fun _ member => absurd member List.not_mem_nil, List.nodup_nil⟩

/-- An answer that passes, before others. -/
theorem distinguished_cons {inUse : List (Int × String)} {identity : ProcessIdentity}
    {answers : List (Except Raised ProcessIdentity)}
    (foreign : identity.pid ≠ harness.ownPid) (fresh : identity.key ∉ inUse) :
    Distinguished harness inUse (.ok identity :: answers) ↔
      Distinguished harness (inUse ++ [identity.key]) answers := by
  have keys : ((Except.ok identity : Except Raised ProcessIdentity) :: answers).filterMap
      (fun answer => answer.toOption.map ProcessIdentity.key) =
        identity.key :: answers.filterMap fun answer => answer.toOption.map ProcessIdentity.key :=
    rfl
  constructor
  · rintro ⟨each, distinct⟩
    rw [keys, List.nodup_cons] at distinct
    refine ⟨fun answer member => ?_, distinct.2⟩
    obtain ⟨other, rfl, apart, unused⟩ := each answer (List.mem_cons_of_mem _ member)
    refine ⟨other, rfl, apart, fun used => ?_⟩
    rcases List.mem_append.mp used with before | same
    · exact unused before
    · exact distinct.1 (List.mem_filterMap.mpr
        ⟨_, member, congrArg some (List.mem_singleton.mp same)⟩)
  · rintro ⟨each, distinct⟩
    refine ⟨List.forall_mem_cons.mpr ⟨⟨identity, rfl, foreign, fresh⟩, fun answer member => ?_⟩, ?_⟩
    · obtain ⟨other, same, apart, unused⟩ := each answer member
      exact ⟨other, same, apart, fun used => unused (List.mem_append_left _ used)⟩
    · rw [keys, List.nodup_cons]
      refine ⟨fun repeated => ?_, distinct⟩
      obtain ⟨answer, member, key⟩ := List.mem_filterMap.mp repeated
      obtain ⟨other, rfl, -, unused⟩ := each answer member
      exact unused (List.mem_append_right _ (List.mem_singleton.mpr (Option.some.inj key)))

variable (harness plan) in
/-- What a run that has gone well has collected. -/
structure Shaped (collected : Collected) : Prop where
  numbered : Numbered collected.samples
  labels : collected.samples.map labelOf = plannedLabels plan collected.processIdentities
  times : (collected.observations.map DynamicObservationV2.capturedMonotonicNs).Pairwise (· < ·)
  foreign : ∀ identity ∈ collected.processIdentities, identity.pid ≠ harness.ownPid
  distinct : (collected.processIdentities.map ProcessIdentity.key).Nodup

/-- An observation behind the last one keeps the times in order. -/
theorem times_append {observations : List DynamicObservationV2}
    {observation : DynamicObservationV2} {captured : Int}
    (times : (observations.map DynamicObservationV2.capturedMonotonicNs).Pairwise (· < ·))
    (same : observation.capturedMonotonicNs = captured)
    (later : ∀ last ∈ observations.getLast?, last.capturedMonotonicNs < captured) :
    ((observations ++ [observation]).map DynamicObservationV2.capturedMonotonicNs).Pairwise
      (· < ·) := by
  rw [List.map_append, List.map_singleton, List.pairwise_append]
  refine ⟨times, List.pairwise_singleton _ _, ?_⟩
  intro time before last isLast
  rw [List.mem_singleton.mp isLast, same]
  rcases List.eq_nil_or_concat' observations with rfl | ⟨earlier, final, rfl⟩
  · exact absurd before List.not_mem_nil
  · have lastTime : final.capturedMonotonicNs < captured :=
      later final (by simp)
    rw [List.map_append, List.pairwise_append] at times
    rw [List.map_append] at before
    rcases List.mem_append.mp before with early | isFinal
    · exact lt_trans (times.2.2 time early _ (List.mem_singleton_self _)) lastTime
    · rw [List.map_singleton, List.mem_singleton] at isFinal
      rw [isFinal]
      exact lastTime

theorem measureRestart_within {collected : Collected} (shaped : Shaped harness plan collected)
    (workload : W) (identity : ProcessIdentity) (restartOrdinal : Nat) :
    Within Event.Inner
      (measureRestart host context binding plan collected workload identity restartOrdinal)
      fun made => Numbered made.2 ∧ made.2.map labelOf = collected.samples.map labelOf ++
          restartLabels plan identity restartOrdinal ∧
        (made.1.map DynamicObservationV2.capturedMonotonicNs).Pairwise (· < ·) := by
  have fixture : Within Event.Inner (configureFixture host plan workload) fun _ => True := by
    unfold configureFixture
    split
    · exact within_quiet (by trivial)
    · exact within_pure trivial
  exact (nextObservationTime_within _ _).bind fun captured later =>
    (observeLifecycle_within workload identity restartOrdinal _ _ captured).bind
      fun observation same => fixture.bind fun _ _ =>
        (measureSegments_within workload identity restartOrdinal shaped.numbered).bind
          fun samples ⟨numbered, labels⟩ =>
            within_pure ⟨numbered, labels, times_append shaped.times same later⟩

theorem reapRestart_within (collected : Collected) (workload : W) (identity : ProcessIdentity)
    (restartOrdinal : Nat)
    (times : (collected.observations.map DynamicObservationV2.capturedMonotonicNs).Pairwise
      (· < ·)) :
    Within Event.Inner (reapRestart host binding collected workload identity restartOrdinal)
      fun reaped => reaped.samples = collected.samples ∧
        reaped.processIdentities = collected.processIdentities ∧
        (reaped.observations.map DynamicObservationV2.capturedMonotonicNs).Pairwise (· < ·) :=
  (within_quiet (by trivial)).bind fun _ _ => (within_raiseIf _).bind fun _ _ =>
    (nextObservationTime_within _ _).bind fun captured later =>
    (observeLifecycle_within workload identity restartOrdinal _ _ captured).bind
      fun _ same => within_pure ⟨rfl, rfl, times_append times same later⟩

variable (harness plan) in
/-- What a restart adds to the calls: the workload was not made, its identity did not pass, or it
was closed. -/
inductive RestartAdds (collected : Collected) (restartOrdinal : Nat) :
    Except Raised Collected → Past W → Prop where
  | unmade (raised e : Raised) :
      RestartAdds collected restartOrdinal (.error raised) [.workload restartOrdinal (.error e)]
  | refused (raised : Raised) (workload : W) (answer : Except Raised ProcessIdentity)
      (fails : ¬ Distinguished harness (collected.processIdentities.map ProcessIdentity.key)
        [answer]) :
      RestartAdds collected restartOrdinal (.error raised)
        [.workload restartOrdinal (.ok workload), .processIdentity workload answer]
  | closed (result : Except Raised Collected) (workload : W) (identity : ProcessIdentity)
      (inner later : Past W) (foreign : identity.pid ≠ harness.ownPid)
      (fresh : identity.key ∉ collected.processIdentities.map ProcessIdentity.key)
      (innerCalls : ∀ event ∈ inner, event.Inner) (laterCalls : ∀ event ∈ later, event.Inner)
      (shaped : ∀ grown, result = .ok grown → Shaped harness plan grown ∧
        grown.processIdentities = collected.processIdentities ++ [identity]) :
      RestartAdds collected restartOrdinal result
        (.workload restartOrdinal (.ok workload) :: .processIdentity workload (.ok identity) ::
          (inner ++ .close workload :: later))

theorem not_distinguished_of_refused {inUse : List (Int × String)} {identity : ProcessIdentity}
    (refused : identity.pid = harness.ownPid ∨ identity.key ∈ inUse) :
    ¬ Distinguished harness inUse [.ok identity] := by
  rintro ⟨each, -⟩
  obtain ⟨other, same, foreign, fresh⟩ := each _ (List.mem_singleton_self _)
  obtain rfl := Except.ok.inj same
  exact refused.elim foreign fresh

theorem not_distinguished_error {inUse : List (Int × String)} (e : Raised) :
    ¬ Distinguished harness inUse [.error e] := by
  rintro ⟨each, -⟩
  obtain ⟨other, same, -⟩ := each _ (List.mem_singleton_self _)
  cases same

/-- **What a restart adds to the calls.** -/
theorem restart_adds {collected : Collected} (shaped : Shaped harness plan collected)
    {restartOrdinal : Nat} (position : collected.processIdentities.length = restartOrdinal) :
    Adds (restart host harness context binding plan collected restartOrdinal)
      (RestartAdds harness plan collected restartOrdinal) := by
  refine adds_asking_bind (fun e => .unmade e e) fun workload => ?_
  refine adds_asking_bind (fun e => .refused e workload (.error e) (not_distinguished_error e))
    fun identity => ?_
  refine adds_raiseIf_bind (fun own => .refused _ workload (.ok identity)
    (not_distinguished_of_refused (.inl own))) fun foreign => ?_
  refine adds_raiseIf_bind (fun used => .refused _ workload (.ok identity)
    (not_distinguished_of_refused (.inr used))) fun fresh => ?_
  have grows : ∀ (made : List DynamicObservationV2 × List RawSampleV2) (_closed : Unit),
      (Numbered made.2 ∧ made.2.map labelOf = collected.samples.map labelOf ++
          restartLabels plan identity restartOrdinal ∧
        (made.1.map DynamicObservationV2.capturedMonotonicNs).Pairwise (· < ·)) →
      Within Event.Inner (reapRestart host binding
          ⟨made.1, made.2, collected.processIdentities ++ [identity]⟩ workload identity
          restartOrdinal)
        fun grown => Shaped harness plan grown ∧
          grown.processIdentities = collected.processIdentities ++ [identity] := by
    rintro ⟨observations, samples⟩ _ ⟨numbered, labels, times⟩
    refine (reapRestart_within _ workload identity restartOrdinal times).mono ?_
    intro grown ⟨sameSamples, sameIdentities, order⟩
    refine ⟨⟨?_, ?_, order, ?_, ?_⟩, sameIdentities⟩
    · rw [sameSamples]
      exact numbered
    · rw [sameSamples, sameIdentities, labels, shaped.labels, plannedLabels_append, position]
    · rw [sameIdentities]
      intro other member
      rcases List.mem_append.mp member with before | same
      · exact shaped.foreign other before
      · rw [List.mem_singleton.mp same]
        exact foreign
    · rw [sameIdentities, List.map_append, List.map_singleton]
      exact shaped.distinct.append (List.nodup_singleton _) (by simpa using fresh)
  have closing : Adds (quiet (fun past => host.close past workload) (.close workload))
      fun _ added => added = [.close workload] := adds_asking _ _
  refine ((measureRestart_within shaped workload identity restartOrdinal).finallyDo_bind closing
    grows).mono ?_
  rintro result added ⟨inner, _, later, rfl, innerCalls, rfl, laterCalls, holds⟩
  exact .closed result workload identity inner later foreign fresh innerCalls laterCalls holds

/-! ## Calls that count -/

/-- The workload that a call got. -/
def Event.made : Event W → Option W
  | .workload _ (.ok found) => some found
  | _ => none

/-- The workload that a call closes. -/
def Event.closes : Event W → Option W
  | .close found => some found
  | _ => none

/-- Every workload that was made is closed later. -/
def Released : Past W → Prop := Freed Event.made Event.closes

/-- The answers to `process_identity`. -/
def identities (calls : Past W) : List (Except Raised ProcessIdentity) :=
  calls.filterMap fun call =>
    match call with
    | .processIdentity _ answer => some answer
    | _ => none

/-- The resources and tokens that were fenced. -/
def fences (calls : Past W) : List (String × Int) :=
  calls.filterMap fun call =>
    match call with
    | .fence resourceId fencingToken _ => some (resourceId, fencingToken)
    | _ => none

theorem identities_append (calls later : Past W) :
    identities (calls ++ later) = identities calls ++ identities later := List.filterMap_append

theorem fences_append (calls later : Past W) :
    fences (calls ++ later) = fences calls ++ fences later := List.filterMap_append

/-- Calls within a restart, or around all of them, count for nothing. -/
theorem released_inner {calls : Past W} (inner : ∀ event ∈ calls, event.Inner) :
    Released calls := by
  refine freed_of_none fun event member => ?_
  have kind := inner event member
  cases event <;> first | rfl | exact kind.elim

theorem identities_inner {calls : Past W} (inner : ∀ event ∈ calls, event.Inner) :
    identities calls = [] := by
  refine List.filterMap_eq_nil_iff.mpr fun event member => ?_
  have kind := inner event member
  cases event <;> first | rfl | exact kind.elim

theorem fences_inner {calls : Past W} (inner : ∀ event ∈ calls, event.Inner) :
    fences calls = [] := by
  refine List.filterMap_eq_nil_iff.mpr fun event member => ?_
  have kind := inner event member
  cases event <;> first | rfl | exact kind.elim

/-- The calls of a restart that reached its `try`. -/
theorem calls_of_closed (restartOrdinal : Nat) (workload : W) (identity : ProcessIdentity)
    {inner later : Past W} (innerCalls : ∀ event ∈ inner, event.Inner)
    (laterCalls : ∀ event ∈ later, event.Inner) {calls : Past W}
    (same : calls = .workload restartOrdinal (.ok workload) ::
      .processIdentity workload (.ok identity) :: (inner ++ .close workload :: later)) :
    Released calls ∧ identities calls = [.ok identity] ∧ fences calls = [] := by
  subst same
  have tail : ∀ event ∈ Event.close workload :: later, event.Inner :=
    List.forall_mem_cons.mpr ⟨trivial, laterCalls⟩
  have closes : Released (inner ++ .close workload :: later) :=
    (released_inner innerCalls).append (released_inner tail)
  refine ⟨⟨fun made got => ?_, fun made got => (by cases got), closes⟩, ?_, ?_⟩
  · cases got
    exact ⟨.close workload, List.mem_cons_of_mem _ (List.mem_append_right _ List.mem_cons_self),
      rfl⟩
  · change .ok identity :: identities (inner ++ .close workload :: later) = [.ok identity]
    rw [identities_append, identities_inner innerCalls, identities_inner tail]
    rfl
  · change fences (inner ++ .close workload :: later) = []
    rw [fences_append, fences_inner innerCalls, fences_inner tail]
    rfl

/-- The calls of a restart that raised. -/
theorem RestartAdds.of_error {collected : Collected} {restartOrdinal : Nat} {raised : Raised}
    {added : Past W}
    (adds : RestartAdds harness plan collected restartOrdinal (.error raised) added) :
    (Released added ↔ Distinguished harness
      (collected.processIdentities.map ProcessIdentity.key) (identities added)) ∧
      fences added = [] := by
  cases adds with
  | unmade _ e =>
      exact ⟨iff_of_true ⟨fun made got => (by cases got), trivial⟩ (distinguished_nil _), rfl⟩
  | refused _ workload answer fails =>
      refine ⟨iff_of_false (fun released => ?_) fails, rfl⟩
      obtain ⟨other, member, closes⟩ := released.1 workload rfl
      cases List.mem_singleton.mp member
      cases closes
  | closed _ workload identity inner later foreign fresh innerCalls laterCalls =>
      obtain ⟨released, known, unfenced⟩ :=
        calls_of_closed restartOrdinal workload identity innerCalls laterCalls rfl
      refine ⟨iff_of_true released ?_, unfenced⟩
      rw [known]
      exact (distinguished_cons foreign fresh).mpr (distinguished_nil _)

/-- The calls of a restart that went well. -/
theorem RestartAdds.of_ok {collected grown : Collected} {restartOrdinal : Nat} {added : Past W}
    (adds : RestartAdds harness plan collected restartOrdinal (.ok grown) added) :
    Released added ∧ fences added = [] ∧ Shaped harness plan grown ∧
      ∃ identity, identities added = [.ok identity] ∧
        grown.processIdentities = collected.processIdentities ++ [identity] ∧
        identity.pid ≠ harness.ownPid ∧
        identity.key ∉ collected.processIdentities.map ProcessIdentity.key := by
  cases adds with
  | closed _ workload identity inner later foreign fresh innerCalls laterCalls shaped =>
      obtain ⟨released, known, unfenced⟩ :=
        calls_of_closed restartOrdinal workload identity innerCalls laterCalls rfl
      obtain ⟨shapes, extends_⟩ := shaped grown rfl
      exact ⟨released, unfenced, shapes, identity, known, extends_, foreign, fresh⟩

variable (harness plan) in
/-- What the restarts that are left add to the calls, when there are `count` in the end. -/
structure RestartsAdd (count : Nat) (collected : Collected) (result : Except Raised Collected)
    (added : Past W) : Prop where
  released : Released added ↔ Distinguished harness
    (collected.processIdentities.map ProcessIdentity.key) (identities added)
  unfenced : fences added = []
  shaped : ∀ grown, result = .ok grown → Released added ∧
    Shaped harness plan grown ∧ grown.processIdentities.length = count

/-- **What the loop over the restarts adds to the calls.** -/
theorem restarts_add (left : Nat) :
    ∀ (start : Nat) (collected : Collected), Shaped harness plan collected →
      collected.processIdentities.length = start →
      Adds ((List.range' start left).foldlM (restart host harness context binding plan) collected)
        (RestartsAdd harness plan (start + left) collected) := by
  induction left with
  | zero =>
      intro start collected shaped position
      refine (adds_pure collected).mono ?_
      rintro result added ⟨rfl, rfl⟩
      refine ⟨iff_of_true trivial (distinguished_nil _), rfl, fun grown same => ?_⟩
      cases same
      exact ⟨trivial, shaped, position⟩
  | succ left ih =>
      intro start collected shaped position
      have total : start + 1 + left = start + (left + 1) := by omega
      rw [List.range'_succ, List.foldlM_cons, ← total]
      have rest : ∀ (grown : Collected) (added : Past W),
          RestartAdds harness plan collected start (.ok grown) added →
          Adds ((List.range' (start + 1) left).foldlM (restart host harness context binding plan)
            grown) (RestartsAdd harness plan (start + 1 + left) grown) := by
        intro grown added adds
        obtain ⟨-, -, shapes, identity, -, same, -⟩ := adds.of_ok
        refine ih (start + 1) grown shapes ?_
        rw [same, List.length_append, position, List.length_singleton]
      refine ((restart_adds shaped position).bind rest).mono ?_
      rintro result added (⟨e, rfl, adds⟩ | ⟨grown, before, after, rfl, adds, later⟩)
      · obtain ⟨released, unfenced⟩ := adds.of_error
        exact ⟨released, unfenced, fun final same => by cases same⟩
      · obtain ⟨released, unfenced, -, identity, known, same, foreign, fresh⟩ := adds.of_ok
        refine ⟨?_, by rw [fences_append, unfenced, later.unfenced]; rfl, fun final same =>
          ⟨released.append (later.shaped final same).1, (later.shaped final same).2⟩⟩
        rw [identities_append, known, List.singleton_append,
          distinguished_cons foreign fresh, ← List.map_singleton, ← List.map_append, ← same,
          ← later.released]
        exact ⟨freed_append_right, released.append⟩

/-! ## The run -/

variable (harness plan) in
/-- An envelope of a plan: its samples in the order of the plan, from a process of its own for each
restart, and observations at increasing times. -/
structure Planned (evidence : MeasurementEvidenceV2) : Prop where
  numbered : Numbered evidence.samples
  counted : evidence.samples.length =
    plan.restartCount * plan.segmentOrder.length * plan.samplesPerSegment
  processes : ∃ processIdentities : List ProcessIdentity,
    processIdentities.length = plan.restartCount ∧
    evidence.samples.map labelOf = plannedLabels plan processIdentities ∧
    (processIdentities.map ProcessIdentity.key).Nodup ∧
    ∀ identity ∈ processIdentities, identity.pid ≠ harness.ownPid
  times : (evidence.observations.map DynamicObservationV2.capturedMonotonicNs).Pairwise (· < ·)

theorem prepare_within : Within Event.Inner (prepare host binding) fun _ => True := by
  have index : Within Event.Inner (formalDeviceIndex host binding) fun _ => True :=
    (within_raiseIf _).bind fun _ _ => (within_orRaise _ _).mono fun _ _ => trivial
  exact index.bind fun _ _ => (within_quiet (by trivial)).bind fun _ _ =>
    (within_quiet (by trivial)).bind fun _ _ => (observe_within _ _ _ _ _).bind fun _ _ =>
    within_pure trivial

theorem publish_within (provenance : List Json) (calibration : ClockCalibrationV2)
    {collected : Collected} (shaped : Shaped harness plan collected)
    (all : collected.processIdentities.length = plan.restartCount) :
    Within Event.Inner (publish host binding plan provenance calibration collected)
      fun made => Planned harness plan made.1 := by
  refine (nextObservationTime_within _ _).bind fun captured later =>
    (observe_within _ _ _ _ _).bind fun observation same => (within_raiseIf _).bind fun _ _ =>
    (within_quiet (by trivial)).bind fun artifact _ => within_pure ?_
  have count : collected.samples.length =
      plan.restartCount * plan.segmentOrder.length * plan.samplesPerSegment := by
    rw [← List.length_map (f := labelOf), shaped.labels, length_plannedLabels, all]
  exact ⟨shaped.numbered, count, ⟨_, all, shaped.labels, shaped.distinct, shaped.foreign⟩,
    times_append shaped.times same later⟩

variable (harness plan) in
/-- What the body of a run adds to the calls. -/
structure CollectAdds (result : Except Raised (MeasurementEvidenceV2 × Evidence.EvidenceArtifact))
    (added : Past W) : Prop where
  released : Released added ↔ Distinguished harness [] (identities added)
  unfenced : fences added = []
  planned : ∀ made, result = .ok made → Planned harness plan made.1


/-- **What the body of a run adds to the calls.** -/
theorem collect_adds (provenance : List Json) :
    Adds (collect host harness context binding plan provenance) (CollectAdds harness plan) := by
  have start : ∀ observation : DynamicObservationV2,
      Shaped harness plan ⟨[observation], [], []⟩ := fun observation =>
    ⟨rfl, rfl, List.pairwise_singleton _ _, fun _ member => absurd member List.not_mem_nil,
      List.nodup_nil⟩
  have loop : ∀ observation : DynamicObservationV2,
      Adds ((List.range plan.restartCount).foldlM (restart host harness context binding plan)
        ⟨[observation], [], []⟩)
        (RestartsAdd harness plan plan.restartCount ⟨[observation], [], []⟩) := by
    intro observation
    have restarts : Adds ((List.range' 0 plan.restartCount).foldlM
        (restart host harness context binding plan) ⟨[observation], [], []⟩)
        (RestartsAdd harness plan (0 + plan.restartCount) ⟨[observation], [], []⟩) :=
      restarts_add plan.restartCount 0 _ (start observation) rfl
    rw [Nat.zero_add] at restarts
    rwa [List.range_eq_range']
  -- After the restarts, all calls are inner ones.
  have rest : ∀ prepared : ClockCalibrationV2 × DynamicObservationV2,
      Adds (((List.range plan.restartCount).foldlM (restart host harness context binding plan)
          ⟨[prepared.2], [], []⟩) >>=
        publish host binding plan provenance prepared.1) (CollectAdds harness plan) := by
    intro prepared
    refine ((loop prepared.2).bind fun collected added adds =>
      publish_within provenance prepared.1 (adds.shaped collected rfl).2.1
        (adds.shaped collected rfl).2.2).mono ?_
    rintro result added (⟨e, rfl, adds⟩ | ⟨collected, before, after, rfl, adds, inner, planned⟩)
    · exact ⟨adds.released, adds.unfenced, fun made same => by cases same⟩
    · have released := (adds.shaped collected rfl).1
      refine ⟨iff_of_true (released.append (released_inner inner)) ?_, ?_, planned⟩
      · rw [identities_append, identities_inner inner, List.append_nil]
        exact adds.released.mp released
      · rw [fences_append, adds.unfenced, fences_inner inner]
        rfl
  refine (Adds.bind prepare_within fun prepared _ _ => rest prepared).mono ?_
  rintro result added (⟨e, rfl, inner, -⟩ | ⟨prepared, before, after, rfl, ⟨inner, -⟩, adds⟩)
  · refine ⟨iff_of_true (released_inner inner) ?_, fences_inner inner, fun made same => by
      cases same⟩
    rw [identities_inner inner]
    exact distinguished_nil _
  · refine ⟨?_, ?_, adds.planned⟩
    · rw [identities_append, identities_inner inner, List.nil_append, ← adds.released]
      exact ⟨freed_append_right, (released_inner inner).append⟩
    · rw [fences_append, fences_inner inner, adds.unfenced]
      rfl

/-- A call of the clean-up. -/
def Event.Cleans : Event W → Prop
  | .fence _ _ _ => True
  | .healthCheck _ _ => True
  | _ => False

theorem Event.Cleans.counts_nothing {event : Event W} (cleans : event.Cleans) :
    event.made = none ∧ event.closes = none := by
  cases event <;> first | exact ⟨rfl, rfl⟩ | exact cleans.elim

theorem identities_cleans {calls : Past W} (cleans : ∀ event ∈ calls, event.Cleans) :
    identities calls = [] := by
  refine List.filterMap_eq_nil_iff.mpr fun event member => ?_
  have kind := cleans event member
  cases event <;> first | rfl | exact kind.elim

/-- What `_cleanup` adds to the calls. -/
structure CleanupAdds (host : Surroundings W) (context : JobContext)
    (result : Except Raised CleanupEvidence) (added : Past W) : Prop where
  cleans : ∀ event ∈ added, event.Cleans
  fenced : fences added =
    ((fencingTokenOf host context).map fun token => (resourceIdOf context, token)).toList
  answers : ∀ evidence, result = .ok evidence → ∃ token,
    fencingTokenOf host context = some token ∧
      added = [.fence (resourceIdOf context) token (.ok evidence.fence),
        .healthCheck (resourceIdOf context) (.ok evidence.health)]

theorem cleanup_adds : Adds (cleanup host context) (CleanupAdds host context) := by
  unfold cleanup
  cases token : fencingTokenOf host context with
  | none =>
      refine (adds_raise _).mono ?_
      rintro result added ⟨rfl, rfl⟩
      exact ⟨fun _ member => absurd member List.not_mem_nil, by rw [token]; rfl,
        fun evidence same => by cases same⟩
  | some fencingToken =>
      change Adds (asking (fun past => host.fence past (resourceIdOf context) fencingToken)
        (.fence (resourceIdOf context) fencingToken) >>= fun fence =>
          asking (fun past => host.healthCheck past (resourceIdOf context))
            (.healthCheck (resourceIdOf context)) >>= fun health =>
              pure (⟨fence, health⟩ : CleanupEvidence)) _
      refine adds_asking_bind (fun e => ?_) fun fence => ?_
      · exact ⟨List.forall_mem_singleton.mpr trivial, by rw [token]; rfl, fun evidence same => by
          cases same⟩
      · have both : ∀ health, ∀ event ∈ ([.fence (resourceIdOf context) fencingToken (.ok fence),
            .healthCheck (resourceIdOf context) health] : Past W), event.Cleans := fun health =>
          List.forall_mem_cons.mpr ⟨trivial, List.forall_mem_singleton.mpr trivial⟩
        refine adds_asking_bind (fun e => ?_) fun health => (adds_pure _).mono ?_
        · exact ⟨both _, by rw [token]; rfl, fun evidence same => by cases same⟩
        · rintro result added ⟨rfl, rfl⟩
          refine ⟨both _, by rw [token]; rfl, fun evidence same => ?_⟩
          cases same
          exact ⟨fencingToken, token, rfl⟩

/-- The checks before a run make inner calls only. -/
theorem admitRun_within :
    Within Event.Inner (admitRun host harness context binding) fun _ => True := by
  have formal : Within Event.Inner (requireFormalContext host harness context) fun _ => True :=
    (within_raiseIf _).bind fun _ _ => (within_raiseIf _).bind fun _ _ =>
      (within_raiseIf _).bind fun _ _ => requireLiveLease_within.bind fun _ _ =>
      (within_raiseIf _).mono fun _ _ => trivial
  exact (within_raiseIf _).bind fun _ _ => (within_raiseIf _).bind fun _ _ =>
    formal.bind fun _ _ => (within_raiseIf _).bind fun _ _ =>
    (within_raiseIf _).mono fun _ _ => trivial

/-! ## Discipline -/

variable (host harness context plan) in
/-- How a run has to leave its surroundings. -/
structure Disciplined (result : Except Raised FormalHarnessRun) (calls : Past W) : Prop where
  released : Released calls
  fencedOnce : ∃ token, fencingTokenOf host context = some token ∧
    fences calls = [(resourceIdOf context, token)]
  returned : ∀ run, result = .ok run →
    cleanupIsHealthy run.cleanupEvidence = true ∧
    (∃ token, .fence (resourceIdOf context) token (.ok run.cleanupEvidence.fence) ∈ calls ∧
      .healthCheck (resourceIdOf context) (.ok run.cleanupEvidence.health) ∈ calls) ∧
    Planned harness plan run.evidence

variable (host harness context plan) in
/-- What an admitted run adds to the calls. -/
structure MeasureAdds (result : Except Raised FormalHarnessRun) (added : Past W) : Prop where
  released : Released added ↔ Distinguished harness [] (identities added)
  fenced : fences added =
    ((fencingTokenOf host context).map fun token => (resourceIdOf context, token)).toList
  returned : ∀ run, result = .ok run →
    cleanupIsHealthy run.cleanupEvidence = true ∧
    (∃ token, .fence (resourceIdOf context) token (.ok run.cleanupEvidence.fence) ∈ added ∧
      .healthCheck (resourceIdOf context) (.ok run.cleanupEvidence.health) ∈ added) ∧
    Planned harness plan run.evidence

theorem measure_adds (provenance : List Json) :
    Adds (measure host harness context binding plan provenance)
      (MeasureAdds host harness context plan) := by
  have body : Adds (collect host harness context binding plan provenance)
      (CollectAdds harness plan) := collect_adds provenance
  have final : Adds (cleanup host context) (CleanupAdds host context) := cleanup_adds
  have attempt := body.finallyDo final
  have judged : ∀ made : (MeasurementEvidenceV2 × Evidence.EvidenceArtifact) × CleanupEvidence,
      Adds (raiseIf (cleanupIsHealthy made.2 = false)
          (safety "formal measurement cleanup is unhealthy") >>= fun _ =>
            (pure ⟨made.1.1, made.1.2, made.2⟩ : Code W FormalHarnessRun))
        fun result added => added = [] ∧ ∀ run, result = .ok run →
          run = ⟨made.1.1, made.1.2, made.2⟩ ∧ cleanupIsHealthy made.2 = true := by
    intro made
    refine adds_raiseIf_bind (fun _ => ⟨rfl, fun run same => by cases same⟩) fun healthy =>
      (adds_pure _).mono ?_
    rintro result added ⟨rfl, rfl⟩
    refine ⟨rfl, fun run same => ⟨(Except.ok.inj same).symm, ?_⟩⟩
    simpa using healthy
  -- The calls of the body and those of the clean-up, which identifies nothing.
  have both : ∀ {ended closed} {before after : Past W}, CollectAdds harness plan ended before →
      CleanupAdds host context closed after →
      (Released (before ++ after) ↔ Distinguished harness [] (identities (before ++ after))) ∧
        fences (before ++ after) = ((fencingTokenOf host context).map fun token =>
          (resourceIdOf context, token)).toList := by
    intro ended closed before after collected cleaned
    have counts := fun event member => (cleaned.cleans event member).counts_nothing
    rw [identities_append, identities_cleans cleaned.cleans, List.append_nil, fences_append,
      collected.unfenced, List.nil_append, cleaned.fenced, ← collected.released]
    exact ⟨⟨freed_append_left fun event member => (counts event member).2, fun released =>
      released.append (freed_of_none fun event member => (counts event member).1)⟩, rfl⟩
  refine (Adds.bind attempt fun made _ _ => judged made).mono ?_
  rintro result added (⟨e, rfl, before, after, ended, closed, rfl, collected, cleaned, -⟩ |
    ⟨made, _, _, rfl, ⟨before, after, ended, closed, rfl, collected, cleaned, same⟩, rfl, holds⟩)
  · obtain ⟨released, fenced⟩ := both collected cleaned
    exact ⟨released, fenced, fun run same => by cases same⟩
  · obtain ⟨released, fenced⟩ := both collected cleaned
    rw [List.append_nil]
    refine ⟨released, fenced, fun run ok => ?_⟩
    obtain ⟨rfl, healthy⟩ := holds run ok
    cases closed with
    | error e => cases same
    | ok evidence =>
        cases ended with
        | error e => cases same
        | ok value =>
            cases same
            obtain ⟨token, -, rfl⟩ := cleaned.answers evidence rfl
            exact ⟨healthy, ⟨token, by simp, by simp⟩, collected.planned _ rfl⟩

/-- **An admitted run is disciplined** exactly when each identity that a workload gave is one of a
process of its own, and the token of the context is a number. -/
theorem disciplined_iff (provenance : List Json) {started : Past W}
    (admitted : (admitRun host harness context binding).run [] = (.ok (), started)) :
    Disciplined host harness context plan
        ((runStage0V2 host harness context binding plan provenance).run []).1
        ((runStage0V2 host harness context binding plan provenance).run []).2 ↔
      Distinguished harness []
          (identities ((runStage0V2 host harness context binding plan provenance).run []).2) ∧
        ∃ token, fencingTokenOf host context = some token := by
  have inner : ∀ event ∈ started, event.Inner := by
    have checks : Within Event.Inner (admitRun host harness context binding) fun _ => True :=
      admitRun_within
    obtain ⟨added, record, kind, -⟩ := checks []
    rw [admitted, List.nil_append] at record
    exact fun event member => kind event (record ▸ member)
  have measured : Adds (measure host harness context binding plan provenance)
      (MeasureAdds host harness context plan) := measure_adds provenance
  obtain ⟨added, record, adds⟩ := measured started
  have ran : (runStage0V2 host harness context binding plan provenance).run [] =
      (measure host harness context binding plan provenance).run started :=
    run_bind_of_ok admitted
  rw [ran, record, identities_append, identities_inner inner, List.nil_append, ← adds.released]
  have fenced : fences (started ++ added) =
      ((fencingTokenOf host context).map fun token => (resourceIdOf context, token)).toList := by
    rw [fences_append, fences_inner inner, adds.fenced, List.nil_append]
  constructor
  · rintro ⟨released, ⟨token, isToken, -⟩, -⟩
    exact ⟨freed_append_right released, token, isToken⟩
  · rintro ⟨released, token, isToken⟩
    refine ⟨(released_inner inner).append released, ⟨token, isToken, ?_⟩, fun run same => ?_⟩
    · rw [fenced, isToken]
      rfl
    · obtain ⟨healthy, ⟨used, fence, health⟩, planned⟩ := adds.returned run same
      exact ⟨healthy, ⟨used, List.mem_append_right _ fence, List.mem_append_right _ health⟩,
        planned⟩

/-! ### Surroundings that answer steadily -/

/-- A calibration of three points. -/
def steadyCalibration : ClockCalibrationV2 where
  deviceName := "hcu-device-timer"
  deviceIndex := 0
  timerResolutionNs := 1
  nsPerTick := 1
  maxResidualNs := 0
  points := [
    ⟨0, 1, 1, 2, by decide, by decide, by decide, by decide, by decide⟩,
    ⟨1, 2, 3, 4, by decide, by decide, by decide, by decide, by decide⟩,
    ⟨2, 3, 5, 6, by decide, by decide, by decide, by decide, by decide⟩]
  resolutionTickDeltas := [1, 1, 1]
  valid := by decide +kernel

/-- The process of the workload. -/
def steadyIdentity : ProcessIdentity := ⟨7, "token", by decide, by decide⟩

/-- Surroundings whose clock counts the calls and that answer every other call in one way. -/
def steadyHost (identity : Except Raised ProcessIdentity) : Surroundings Unit where
  now past := .ok past.length
  leaseLost _ := .ok false
  calibrate _ _ := .ok steadyCalibration
  telemetry _ := .ok (.obj [])
  workload _ _ := .ok ()
  processIdentity _ _ := identity
  lifecycle _ event _ restart captured := .ok ⟨event, restart, 7, captured⟩
  write _ _ := .ok ⟨"file:///evidence", "sha256:00", 1⟩
  configureFixture _ _ _ := .ok ()
  synchronize _ _ := .ok ()
  warmup _ _ _ _ := .ok ()
  measure past _ segment iterations := .ok
    { processId := 7
      processStartToken := "token"
      segment := segment
      batchIterations := iterations
      startedMonotonicNs := min past.length 1000
      finishedMonotonicNs := min past.length 1000 + 1
      startedDeviceTicks := 0
      finishedDeviceTicks := 1
      process := by decide
      hostTimes := by
        have room : (1001 : Int) ≤ Stage0.int64Max := by decide
        omega
      deviceTimes := by decide }
  close _ _ := .ok ()
  isAlive _ _ := .ok false
  fence _ _ _ := .ok [("fenced", .bool true)]
  healthCheck _ _ := .ok [("healthy", .bool true)]
  int
    | .int value => some value
    | .str "0" => some 0
    | _ => none
  fileAccepted _ := true
  envelopeAccepted _ := true

/-- A harness with all its parts. -/
def steadyHarness : Harness := ⟨"environment", true, true, true, 1⟩

/-- The binding of a run. -/
def steadyBinding : Stage0EvidenceBinding := ⟨0, 0, .timer, .formal, "environment", "hcu-0"⟩

/-- A plan of one sample. -/
def steadyPlan : MeasurementPlanV2 := ⟨1, 1, none, none, 1, [.timer], 1⟩

/-- A context with an exclusive lease. -/
def steadyContext : JobContext where
  fields := [("lease_scope", .str "exclusive"), ("lease_id", .str "lease"),
    ("resource_id", .str "hcu-0"), ("fencing_token", .int 1)]
  leaseLostEvent := true

theorem disciplined_steady :
    Disciplined (steadyHost (.ok steadyIdentity)) steadyHarness steadyContext steadyPlan
      ((runStage0V2 (steadyHost (.ok steadyIdentity)) steadyHarness steadyContext steadyBinding
        steadyPlan []).run []).1
      ((runStage0V2 (steadyHost (.ok steadyIdentity)) steadyHarness steadyContext steadyBinding
        steadyPlan []).run []).2 := by
  have admitted : (admitRun (steadyHost (.ok steadyIdentity)) steadyHarness steadyContext
      steadyBinding).run [] = (.ok (), [.leaseLost]) := rfl
  refine (disciplined_iff [] admitted).mpr ⟨?_, 1, rfl⟩
  have answers : identities ((runStage0V2 (steadyHost (.ok steadyIdentity)) steadyHarness
      steadyContext steadyBinding steadyPlan []).run []).2 = [.ok steadyIdentity] := rfl
  rw [answers]
  exact (distinguished_cons (by decide) (by decide)).mpr (distinguished_nil _)

/-- A workload whose identity cannot be read is never closed. -/
theorem unidentified_workload_leaks :
    (admitRun (steadyHost (.error ⟨"ProcessLookupError", ""⟩)) steadyHarness steadyContext
        steadyBinding).run [] = (.ok (), [.leaseLost]) ∧
    ((runStage0V2 (steadyHost (.error ⟨"ProcessLookupError", ""⟩)) steadyHarness steadyContext
        steadyBinding steadyPlan []).run []).2 =
      [.leaseLost, .calibrate 0, .now, .telemetry, .workload 0 (.ok ()),
        .processIdentity () (.error ⟨"ProcessLookupError", ""⟩),
        .fence "hcu-0" 1 (.ok [("fenced", .bool true)]),
        .healthCheck "hcu-0" (.ok [("healthy", .bool true)])] ∧
    ¬ Released ((runStage0V2 (steadyHost (.error ⟨"ProcessLookupError", ""⟩)) steadyHarness
        steadyContext steadyBinding steadyPlan []).run []).2 := by
  have calls : ((runStage0V2 (steadyHost (.error ⟨"ProcessLookupError", ""⟩)) steadyHarness
      steadyContext steadyBinding steadyPlan []).run []).2 =
      [.leaseLost, .calibrate 0, .now, .telemetry, .workload 0 (.ok ()),
        .processIdentity () (.error ⟨"ProcessLookupError", ""⟩),
        .fence "hcu-0" 1 (.ok [("fenced", .bool true)]),
        .healthCheck "hcu-0" (.ok [("healthy", .bool true)])] := rfl
  refine ⟨rfl, calls, fun released => ?_⟩
  rw [calls] at released
  obtain ⟨other, later, closes⟩ := released.2.2.2.2.1 () rfl
  simp only [List.mem_cons, List.not_mem_nil, or_false] at later
  rcases later with rfl | rfl | rfl <;> cases closes

end FormalRun

end HcuAutoOpt
