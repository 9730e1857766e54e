import HcuAutoOpt.Domain.Enums
import HcuAutoOpt.Evaluation.ClockCalibration
import HcuAutoOpt.Foundation.AskedCalls
import HcuAutoOpt.Foundation.UuidText
import HcuAutoOpt.Measurement.Evidence

/-!
# The Stage 0 measurement harness

`EvidenceMeasurementHarness.run_stage0_v2` of `measurement/harness.py`. It calibrates a timer,
starts a workload process for each restart of a plan, measures segments in it, closes it, and
fences the leased resource when all is done or has failed.

The clock, the timer, the telemetry, the workloads, the lifecycle recorder, the cleaner and the
disk are surroundings that answer each call in any way. A call that is answered by a value that
its model does not let through counts as a call that raised. The calls of a calibration are one
call, and telemetry and provenance are documents.
-/

set_option autoImplicit false

namespace HcuAutoOpt

namespace FormalRun

open Foundation Foundation.Raising
open Stage0 (ClockCalibrationV2 int64Max uint64Max maxPlanCount)

/-! ## Models -/

/-- A raised exception by its type. -/
structure Raised where
  typeName : String
  message : String
  deriving DecidableEq, Repr

/-- `MeasurementSafetyError`. -/
def safety (message : String) : Raised := ⟨"MeasurementSafetyError", message⟩

/-- A `ValidationError` of a model. -/
def invalid (model : String) : Raised := ⟨"ValidationError", model⟩

/-- `Stage0Segment`. -/
inductive Stage0Segment where
  | timer | noise | a1 | b1 | b2 | a2
  deriving DecidableEq, Repr

/-- `Stage0Arm`. -/
inductive Stage0Arm where
  | single | baseline | comparison
  deriving DecidableEq, Repr

/-- `_segment_arm`. -/
def segmentArm : Stage0Segment → Stage0Arm
  | .a1 => .baseline
  | .a2 => .baseline
  | .b1 => .comparison
  | .b2 => .comparison
  | .timer => .single
  | .noise => .single

/-- `ProcessIdentity`. -/
structure ProcessIdentity where
  pid : Int
  startToken : String
  positive : 1 ≤ pid
  bounded : 1 ≤ startToken.length ∧ startToken.length ≤ 200
  deriving DecidableEq, Repr

/-- `identity_key`. -/
def ProcessIdentity.key (identity : ProcessIdentity) : Int × String :=
  (identity.pid, identity.startToken)

/-- `ObservationPhase`, as far as the harness observes it. -/
inductive ObservationPhase where
  | beforeRun | beforeRestart | afterRestart | afterRun
  deriving DecidableEq, Repr

/-- The event of a lifecycle record. -/
inductive LifecycleEvent where
  | started | reaped
  deriving DecidableEq, Repr

/-- `ProcessLifecycleRecordV2`, as far as it is compared. -/
structure ProcessLifecycleRecordV2 where
  event : LifecycleEvent
  restartOrdinal : Int
  processId : Int
  capturedMonotonicNs : Int
  deriving DecidableEq, Repr

/-- `MeasurementPlanV2`, without the constraints. -/
structure MeasurementPlanV2 where
  restartCount : Nat
  warmupCount : Nat
  warmupBatchIterations : Option Nat
  workloadElements : Option Nat
  batchIterations : Nat
  segmentOrder : List Stage0Segment
  samplesPerSegment : Nat
  deriving DecidableEq, Repr

/-- `Stage0EvidenceBinding`, as far as the harness reads it. -/
structure Stage0EvidenceBinding where
  stage0RunId : Uuid
  measurementId : Uuid
  probeType : Stage0ProbeType
  runMode : Stage0RunMode
  environmentFingerprint : String
  resourceId : String
  deriving DecidableEq, Repr

/-- `FormalWorkloadTimingV2`. -/
structure FormalWorkloadTimingV2 where
  processId : Int
  processStartToken : String
  segment : Stage0Segment
  batchIterations : Int
  startedMonotonicNs : Int
  finishedMonotonicNs : Int
  startedDeviceTicks : Int
  finishedDeviceTicks : Int
  process : 1 ≤ processId ∧ processId ≤ int64Max
  hostTimes : 0 ≤ startedMonotonicNs ∧ startedMonotonicNs < finishedMonotonicNs ∧
    finishedMonotonicNs ≤ int64Max
  deviceTimes : 0 ≤ startedDeviceTicks ∧ startedDeviceTicks < finishedDeviceTicks ∧
    finishedDeviceTicks ≤ uint64Max
  deriving DecidableEq, Repr

/-- `RawSampleV2`. -/
structure RawSampleV2 where
  processId : Int
  processStartToken : String
  restartOrdinal : Nat
  arm : Stage0Arm
  segment : Stage0Segment
  acquisitionOrdinal : Nat
  segmentSampleOrdinal : Nat
  startedMonotonicNs : Int
  finishedMonotonicNs : Int
  startedDeviceTicks : Int
  finishedDeviceTicks : Int
  batchIterations : Int
  deriving DecidableEq, Repr

/-- The constraints of `RawSampleV2`. -/
def RawSampleV2.Valid (sample : RawSampleV2) : Prop :=
  (1 ≤ sample.processId ∧ sample.processId ≤ int64Max) ∧
  (sample.restartOrdinal : Int) ≤ maxPlanCount ∧
  (sample.acquisitionOrdinal : Int) ≤ maxPlanCount ∧
  (sample.segmentSampleOrdinal : Int) ≤ maxPlanCount ∧
  (0 ≤ sample.startedMonotonicNs ∧ sample.finishedMonotonicNs ≤ int64Max) ∧
  (0 ≤ sample.startedDeviceTicks ∧ sample.finishedDeviceTicks ≤ uint64Max) ∧
  (1 ≤ sample.batchIterations ∧ sample.batchIterations ≤ maxPlanCount) ∧
  sample.startedMonotonicNs < sample.finishedMonotonicNs ∧
  sample.startedDeviceTicks < sample.finishedDeviceTicks ∧
  sample.arm = segmentArm sample.segment

instance (sample : RawSampleV2) : Decidable sample.Valid :=
  inferInstanceAs (Decidable (_ ∧ _))

/-- `DynamicObservationV2`. -/
structure DynamicObservationV2 where
  phase : ObservationPhase
  capturedMonotonicNs : Int
  restartOrdinal : Option Nat
  processId : Option Int
  processStartToken : Option String
  processLifecycleRecord : Option Evidence.EvidenceArtifact
  telemetry : Json
  deriving DecidableEq

/-- The constraints of `DynamicObservationV2`. -/
def DynamicObservationV2.Valid (observation : DynamicObservationV2) : Prop :=
  (0 ≤ observation.capturedMonotonicNs ∧ observation.capturedMonotonicNs ≤ int64Max) ∧
  (∀ restart ∈ observation.restartOrdinal, (restart : Int) ≤ maxPlanCount) ∧
  (∀ process ∈ observation.processId, 1 ≤ process ∧ process ≤ int64Max) ∧
  (∀ token ∈ observation.processStartToken, 1 ≤ token.length ∧ token.length ≤ 200)

instance (observation : DynamicObservationV2) : Decidable observation.Valid :=
  inferInstanceAs (Decidable (_ ∧ _ ∧ _ ∧ _))

/-- `MeasurementEvidenceV2`. -/
structure MeasurementEvidenceV2 where
  binding : Stage0EvidenceBinding
  plan : MeasurementPlanV2
  calibration : ClockCalibrationV2
  samples : List RawSampleV2
  observations : List DynamicObservationV2
  adapterProvenance : List Json

/-- The mapping `job_context`. A lease event is there when it has a method `is_set`. -/
structure JobContext where
  fields : Json.Object
  leaseLostEvent : Bool

/-- What `_cleanup` returns. -/
structure CleanupEvidence where
  fence : Json.Object
  health : Json.Object
  deriving DecidableEq

/-- `FormalHarnessRun`. -/
structure FormalHarnessRun where
  evidence : MeasurementEvidenceV2
  artifact : Evidence.EvidenceArtifact
  cleanupEvidence : CleanupEvidence

/-! ## Calls -/

/-- A call that the harness made, and what the claims about a run need of its answer. -/
inductive Event (W : Type) where
  | now
  | leaseLost
  | calibrate (deviceIndex : Int)
  | telemetry
  | workload (restart : Nat) (answer : Except Raised W)
  | processIdentity (workload : W) (answer : Except Raised ProcessIdentity)
  | lifecycle (event : LifecycleEvent) (workload : W) (restart : Nat) (captured : Int)
  | write (path : List String)
  | configureFixture (workload : W) (elements : Nat)
  | synchronize (workload : W)
  | warmup (workload : W) (segment : Stage0Segment) (iterations : Nat)
  | measure (workload : W) (segment : Stage0Segment) (iterations : Nat)
  | close (workload : W)
  | isAlive (workload : W)
  | fence (resourceId : String) (fencingToken : Int) (answer : Except Raised Json.Object)
  | healthCheck (resourceId : String) (answer : Except Raised Json.Object)

/-- The calls made so far. -/
abbrev Past (W : Type) := List (Event W)

/-- What answers the calls: a workload is of any type `W`. -/
structure Surroundings (W : Type) where
  now : Past W → Except Raised Int
  leaseLost : Past W → Except Raised Bool
  calibrate : Past W → Int → Except Raised ClockCalibrationV2
  telemetry : Past W → Except Raised Json
  workload : Past W → Nat → Except Raised W
  processIdentity : Past W → W → Except Raised ProcessIdentity
  lifecycle : Past W → LifecycleEvent → W → Nat → Int → Except Raised ProcessLifecycleRecordV2
  write : Past W → List String → Except Raised Evidence.EvidenceArtifact
  configureFixture : Past W → W → Nat → Except Raised Unit
  synchronize : Past W → W → Except Raised Unit
  warmup : Past W → W → Stage0Segment → Nat → Except Raised Unit
  measure : Past W → W → Stage0Segment → Nat → Except Raised FormalWorkloadTimingV2
  close : Past W → W → Except Raised Unit
  isAlive : Past W → W → Except Raised Bool
  fence : Past W → String → Int → Except Raised Json.Object
  healthCheck : Past W → String → Except Raised Json.Object
  /-- `int(value)`. -/
  int : Json → Option Int
  /-- `RawEvidenceFileV2` lets an artifact through. -/
  fileAccepted : Evidence.EvidenceArtifact → Bool
  /-- `MeasurementEvidenceV2` lets an envelope through. -/
  envelopeAccepted : MeasurementEvidenceV2 → Bool

/-- `EvidenceMeasurementHarness`: what it knows, and whether it was given its optional parts. -/
structure Harness where
  environmentFingerprint : String
  cleaner : Bool
  formalWorkloadFactory : Bool
  lifecycleRecorder : Bool
  /-- `os.getpid()`. -/
  ownPid : Int
  deriving DecidableEq, Repr

/-- Code of the harness. -/
abbrev Code (W α : Type) := Raising Raised (Past W) α

section Harness

variable {W : Type} (host : Surroundings W) (harness : Harness) (context : JobContext)

/-- A call whose answer is not kept. -/
def quiet {α : Type} (answer : Past W → Except Raised α) (event : Event W) : Code W α :=
  asking answer fun _ => event

/-- `self.clock.now_ns()`. -/
def nowNs : Code W Int := quiet host.now .now

/-- `_require_live_lease`. -/
def requireLiveLease : Code W Unit := do
  if context.leaseLostEvent then
    let lost ← quiet host.leaseLost .leaseLost
    raiseIf (lost = true) (safety "measurement lease was lost")

/-- `_require_formal_context`. -/
def requireFormalContext : Code W Unit := do
  raiseIf (context.fields.get? "lease_scope" ≠ some (.str LeaseScope.exclusive.value))
    (safety "formal measurement requires an exclusive lease scope")
  raiseIf (context.fields.value? "resource_id" = none ∨
      context.fields.value? "fencing_token" = none)
    (safety "formal measurement requires resource and fencing token")
  raiseIf (context.fields.value? "lease_id" = none)
    (safety "formal measurement requires an exclusive lease")
  requireLiveLease host context
  raiseIf (harness.cleaner = false)
    (safety "formal measurement requires a cleanup controller")

/-- `str(context["resource_id"])`. -/
def resourceIdOf : String := ((context.fields.get? "resource_id").getD .null).text

/-- `int(context["fencing_token"])`. -/
def fencingTokenOf : Option Int := host.int ((context.fields.get? "fencing_token").getD .null)

/-- `_cleanup`. -/
def cleanup : Code W CleanupEvidence := do
  let resourceId := resourceIdOf context
  let fencingToken ← orRaise (fencingTokenOf host context) ⟨"ValueError", "fencing_token"⟩
  let fence ← asking (fun past => host.fence past resourceId fencingToken)
    (.fence resourceId fencingToken)
  let health ← asking (fun past => host.healthCheck past resourceId) (.healthCheck resourceId)
  return ⟨fence, health⟩

/-- `_cleanup_is_healthy`. -/
def cleanupIsHealthy (evidence : CleanupEvidence) : Bool :=
  evidence.fence.get? "fenced" = some (.bool true) &&
    evidence.health.get? "healthy" = some (.bool true)

/-- `_formal_device_index`. -/
def formalDeviceIndex (binding : Stage0EvidenceBinding) : Code W Int := do
  raiseIf (binding.resourceId.toList.take 4 ≠ "hcu-".toList)
    (safety "Formal measurement resource_id must be hcu-<index>")
  orRaise (host.int (.str (String.ofList (binding.resourceId.toList.drop 4))))
    (safety "Formal measurement resource_id has no numeric device index")

/-- `_next_observation_time`. -/
def nextObservationTime (observations : List DynamicObservationV2)
    (samples : List RawSampleV2) : Code W Int := do
  let captured ← nowNs host
  let last := (observations.getLast?.map DynamicObservationV2.capturedMonotonicNs).getD (-1)
  let lowerBound :=
    match samples.getLast? with
    | some sample => max last sample.finishedMonotonicNs
    | none => last
  raiseIf (captured ≤ lowerBound)
    (safety "Formal telemetry clock did not advance beyond prior evidence")
  return captured

/-- `_bind_lifecycle_record`. -/
def bindLifecycleRecord (record : ProcessLifecycleRecordV2) (event : LifecycleEvent)
    (restartOrdinal : Nat) (identity : ProcessIdentity) (captured : Int) : Code W Unit :=
  raiseIf ((record.event, record.restartOrdinal, record.processId, record.capturedMonotonicNs) ≠
      (event, (restartOrdinal : Int), identity.pid, captured))
    (safety "Formal process lifecycle record does not match its restart identity")

/-- `DynamicObservationV2(..)`, with telemetry. -/
def observe (phase : ObservationPhase) (captured : Int) (restart : Option Nat)
    (identity : Option ProcessIdentity) (lifecycle : Option Evidence.EvidenceArtifact) :
    Code W DynamicObservationV2 := do
  let telemetry ← quiet host.telemetry .telemetry
  let observation : DynamicObservationV2 :=
    { phase := phase
      capturedMonotonicNs := captured
      restartOrdinal := restart
      processId := identity.map ProcessIdentity.pid
      processStartToken := identity.map ProcessIdentity.startToken
      processLifecycleRecord := lifecycle
      telemetry := telemetry }
  raiseIf (¬ observation.Valid) (invalid "DynamicObservationV2")
  return observation

/-- The directory of a run below the output directory. -/
def runRoot (binding : Stage0EvidenceBinding) : List String :=
  ["stage0", binding.stage0RunId.text, binding.probeType.value, binding.measurementId.text]

/-- The text of a lifecycle event. -/
def LifecycleEvent.value : LifecycleEvent → String
  | started => "started"
  | reaped => "reaped"

/-- A lifecycle record that is captured, bound and written, and the observation with it. -/
def observeLifecycle (binding : Stage0EvidenceBinding) (workload : W)
    (identity : ProcessIdentity) (restartOrdinal : Nat) (event : LifecycleEvent)
    (phase : ObservationPhase) (captured : Int) : Code W DynamicObservationV2 := do
  let record ← quiet (fun past => host.lifecycle past event workload restartOrdinal captured)
    (.lifecycle event workload restartOrdinal captured)
  bindLifecycleRecord record event restartOrdinal identity captured
  let path := runRoot binding ++ ["process-lifecycle",
    s!"restart-{restartOrdinal}-{event.value}.json"]
  let artifact ← quiet (fun past => host.write past path) (.write path)
  raiseIf (host.fileAccepted artifact = false) (invalid "RawEvidenceFileV2")
  observe host phase captured (some restartOrdinal) (some identity) (some artifact)

/-! ## The run -/

/-- What a run has collected. The identities are those of the restarts, in their order. -/
structure Collected where
  observations : List DynamicObservationV2
  samples : List RawSampleV2
  processIdentities : List ProcessIdentity

section Run

variable (binding : Stage0EvidenceBinding) (plan : MeasurementPlanV2)

/-- The fixture, when the plan has a size for it. -/
def configureFixture (workload : W) : Code W Unit :=
  match plan.workloadElements with
  | some elements =>
      quiet (fun past => host.configureFixture past workload elements)
        (.configureFixture workload elements)
  | none => pure ()

/-- The warm-up of a segment. -/
def warmUp (workload : W) (segment : Stage0Segment) : Code W Unit :=
  (List.range plan.warmupCount).forM fun _ => do
    quiet (fun past => host.synchronize past workload) (.synchronize workload)
    let iterations := plan.warmupBatchIterations.getD 1
    quiet (fun past => host.warmup past workload segment iterations)
      (.warmup workload segment iterations)

/-- One sample of a segment, behind the samples before it. -/
def measureSample (workload : W) (identity : ProcessIdentity) (restartOrdinal : Nat)
    (segment : Stage0Segment) (samples : List RawSampleV2) (segmentSampleOrdinal : Nat) :
    Code W (List RawSampleV2) := do
  requireLiveLease host context
  let timing ← quiet (fun past => host.measure past workload segment plan.batchIterations)
    (.measure workload segment plan.batchIterations)
  raiseIf ((timing.processId, timing.processStartToken) ≠ identity.key)
    (safety "Formal workload timing does not match its procfs identity")
  raiseIf (timing.segment ≠ segment ∨ timing.batchIterations ≠ plan.batchIterations)
    (safety "Formal workload timing does not match its requested segment")
  let sample : RawSampleV2 :=
    { processId := identity.pid
      processStartToken := identity.startToken
      restartOrdinal := restartOrdinal
      arm := segmentArm segment
      segment := segment
      acquisitionOrdinal := samples.length
      segmentSampleOrdinal := segmentSampleOrdinal
      startedMonotonicNs := timing.startedMonotonicNs
      finishedMonotonicNs := timing.finishedMonotonicNs
      startedDeviceTicks := timing.startedDeviceTicks
      finishedDeviceTicks := timing.finishedDeviceTicks
      batchIterations := plan.batchIterations }
  raiseIf (¬ sample.Valid) (invalid "RawSampleV2")
  return samples ++ [sample]

/-- The warm-up and the samples of a segment. -/
def measureSegment (workload : W) (identity : ProcessIdentity) (restartOrdinal : Nat)
    (samples : List RawSampleV2) (segment : Stage0Segment) : Code W (List RawSampleV2) := do
  warmUp host plan workload segment
  (List.range plan.samplesPerSegment).foldlM
    (measureSample host context plan workload identity restartOrdinal segment) samples

/-- The body of the `try` of a restart. -/
def measureRestart (collected : Collected) (workload : W) (identity : ProcessIdentity)
    (restartOrdinal : Nat) : Code W (List DynamicObservationV2 × List RawSampleV2) := do
  let startedAt ← nextObservationTime host collected.observations []
  let observation ← observeLifecycle host binding workload identity restartOrdinal .started
    .beforeRestart startedAt
  configureFixture host plan workload
  let samples ← plan.segmentOrder.foldlM
    (measureSegment host context plan workload identity restartOrdinal) collected.samples
  return (collected.observations ++ [observation], samples)

/-- What follows the `try` of a restart. -/
def reapRestart (collected : Collected) (workload : W) (identity : ProcessIdentity)
    (restartOrdinal : Nat) : Code W Collected := do
  let alive ← quiet (fun past => host.isAlive past workload) (.isAlive workload)
  raiseIf (alive = true) (safety "Formal measurement workload remained alive after close")
  let reapedAt ← nextObservationTime host collected.observations collected.samples
  let observation ← observeLifecycle host binding workload identity restartOrdinal .reaped
    .afterRestart reapedAt
  return { collected with observations := collected.observations ++ [observation] }

/-- One restart. The workload is closed by the `finally`, which the checks of its identity
precede. -/
def restart (collected : Collected) (restartOrdinal : Nat) : Code W Collected := do
  let workload ← asking (fun past => host.workload past restartOrdinal) (.workload restartOrdinal)
  let identity ← asking (fun past => host.processIdentity past workload)
    (.processIdentity workload)
  raiseIf (identity.pid = harness.ownPid)
    (safety "Formal measurement workloads must run outside the harness process")
  raiseIf (identity.key ∈ collected.processIdentities.map ProcessIdentity.key)
    (safety "Formal process restart groups must use distinct process identities")
  let ((observations, samples), _) ← finallyDo
    (measureRestart host context binding plan collected workload identity restartOrdinal)
    (quiet (fun past => host.close past workload) (.close workload))
  reapRestart host binding
    ⟨observations, samples, collected.processIdentities ++ [identity]⟩
    workload identity restartOrdinal

/-- The calibration and the observation before the run. -/
def prepare : Code W (ClockCalibrationV2 × DynamicObservationV2) := do
  let deviceIndex ← formalDeviceIndex host binding
  let calibration ← quiet (fun past => host.calibrate past deviceIndex) (.calibrate deviceIndex)
  let captured ← nowNs host
  let observation ← observe host .beforeRun captured none none none
  return (calibration, observation)

/-- The observation after the run, and the envelope. -/
def publish (adapterProvenance : List Json) (calibration : ClockCalibrationV2)
    (collected : Collected) : Code W (MeasurementEvidenceV2 × Evidence.EvidenceArtifact) := do
  let captured ← nextObservationTime host collected.observations collected.samples
  let observation ← observe host .afterRun captured none none none
  let evidence : MeasurementEvidenceV2 :=
    { binding := binding
      plan := plan
      calibration := calibration
      samples := collected.samples
      observations := collected.observations ++ [observation]
      adapterProvenance := adapterProvenance }
  raiseIf (host.envelopeAccepted evidence = false) (invalid "MeasurementEvidenceV2")
  let path := runRoot binding ++ ["measurement-evidence-v2.json"]
  let artifact ← quiet (fun past => host.write past path) (.write path)
  return (evidence, artifact)

/-- The body of the `try` of a run. -/
def collect (adapterProvenance : List Json) :
    Code W (MeasurementEvidenceV2 × Evidence.EvidenceArtifact) := do
  let (calibration, observation) ← prepare host binding
  let collected ← (List.range plan.restartCount).foldlM (restart host harness context binding plan)
    ⟨[observation], [], []⟩
  publish host binding plan adapterProvenance calibration collected

/-- The checks before the `try` of a run. -/
def admitRun : Code W Unit := do
  raiseIf (binding.runMode ≠ .formal)
    (safety "run_stage0_v2 requires a Formal evidence binding")
  raiseIf (binding.environmentFingerprint ≠ harness.environmentFingerprint)
    (safety "Formal evidence binding does not match the harness environment")
  requireFormalContext host harness context
  raiseIf (harness.formalWorkloadFactory = false)
    (safety "Formal Stage 0 requires a segmented external-process workload factory")
  raiseIf (harness.lifecycleRecorder = false)
    (safety "Formal Stage 0 requires a raw process lifecycle recorder")

/-- What `run_stage0_v2` does once it admitted the context. -/
def measure (adapterProvenance : List Json) : Code W FormalHarnessRun := do
  let ((evidence, artifact), cleanupEvidence) ← finallyDo
    (collect host harness context binding plan adapterProvenance) (cleanup host context)
  raiseIf (cleanupIsHealthy cleanupEvidence = false)
    (safety "formal measurement cleanup is unhealthy")
  return ⟨evidence, artifact, cleanupEvidence⟩

/-- `run_stage0_v2`. -/
def runStage0V2 (adapterProvenance : List Json) : Code W FormalHarnessRun := do
  admitRun host harness context binding
  measure host harness context binding plan adapterProvenance

end Run

end Harness

end FormalRun

end HcuAutoOpt
