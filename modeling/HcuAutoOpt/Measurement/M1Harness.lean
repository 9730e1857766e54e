import HcuAutoOpt.Evaluation.ProcStat
import HcuAutoOpt.Foundation.CommittedCalls
import HcuAutoOpt.Measurement.Stage0Harness

/-!
# The M1 measurement harness

`M1TrustedMeasurementHarness.run_manual_performance` of `measurement/m1_harness.py`, from the
start of the collection on. It calibrates a timer, which may be bound to the job, starts a
process for each acquisition of the plan, measures samples in it, closes it, and fences the
leased resource when all is done or has failed. Then it writes `performance.json` and returns, or
it writes `failure.json` and raises.

The surroundings are the timer factory, the timer, the workloads, the recorder, the telemetry, the
clock, the reader, the cleaner and the disk; they answer each call in any way. A call that is
answered by a value that its model does not let through counts as a call that raised.
-/

set_option autoImplicit false

namespace HcuAutoOpt

namespace M1Run

open Foundation Foundation.Raising
open FormalRun (ProcessIdentity LifecycleEvent)
open Stage0 (ClockCalibrationV2)

/-! ## Models -/

/-- A raised exception by its type. A text with a lone surrogate in it is not encoded. -/
structure Raised where
  typeName : String
  message : String
  encodable : Bool := true
  deriving DecidableEq, Repr

/-- `MeasurementSafetyError`. -/
def safety (message : String) : Raised := ⟨"MeasurementSafetyError", message, true⟩

/-- A `ValidationError` of a model. -/
def invalid (model : String) : Raised := ⟨"ValidationError", model, true⟩

/-- What the parsers of a stat record raise. -/
def statRaised : ProcStat.StatError → Raised
  | .measurementSafety message => safety message
  | .m1Evidence code message => ⟨"M1EvidenceError", s!"{code}: {message}", true⟩
  | .stage0Evidence code message => ⟨"Stage0EvidenceError", s!"{code}: {message}", true⟩
  | .valueError => ⟨"ValueError", "Exceeds the limit for integer string conversion", true⟩

/-- `M1Arm`. -/
inductive M1Arm where
  | baseline | candidate
  deriving DecidableEq, Repr

/-- `M1MeasurementPlan`, as far as the harness reads it. -/
structure M1MeasurementPlan where
  acquisitionOrder : List M1Arm
  warmupCount : Nat
  samplesPerAcquisition : Nat
  batchIterations : Nat
  deriving DecidableEq, Repr

/-- `M1MeasurementBinding`, as far as the harness reads it, with the lease. -/
structure M1MeasurementBinding where
  imageDigest : String
  artifactContentHash : String
  resourceId : String
  fencingToken : Int
  deriving DecidableEq, Repr

/-- `RawEvidenceFileV2`. -/
structure RawEvidenceFileV2 where
  uri : String
  sha256 : String
  deriving DecidableEq, Repr

/-- `M1ActivationEvidence`, as far as the harness reads it. -/
structure M1ActivationEvidence where
  arm : M1Arm
  imageDigest : String
  loadedArtifactHash : Option String
  importAttestation : Option RawEvidenceFileV2
  cacheNamespaceHash : String
  cacheNamespaceEvidence : RawEvidenceFileV2
  deriving DecidableEq, Repr

/-- `M1OverlayImportRecord`. -/
structure M1OverlayImportRecord where
  acquisitionOrdinal : Int
  processId : Int
  processStartToken : String
  imageDigest : String
  artifactContentHash : String
  deriving DecidableEq, Repr

/-- `M1CacheNamespaceRecord`. -/
structure M1CacheNamespaceRecord where
  acquisitionOrdinal : Int
  arm : M1Arm
  processId : Int
  processStartToken : String
  namespaceHash : String
  emptyBeforeExecution : Bool
  deriving DecidableEq, Repr

/-- `M1DeviceEventRecord`; the readings are a document. -/
structure M1DeviceEventRecord where
  processId : Int
  processStartToken : String
  arm : M1Arm
  acquisitionOrdinal : Int
  sampleOrdinal : Int
  batchIterations : Int
  timerProvenance : Json
  readings : Json
  deriving DecidableEq

/-- `M1RawSample`. -/
structure M1RawSample where
  event : M1DeviceEventRecord
  deviceEventRecord : RawEvidenceFileV2
  deriving DecidableEq

/-- `ProcessLifecycleRecordV2`, as far as the harness reads it. -/
structure ProcessLifecycleRecordV2 where
  event : LifecycleEvent
  restartOrdinal : Int
  processId : Int
  procStatLine : List Char
  capturedMonotonicNs : Int
  waitpidResultPid : Option Int
  waitStatus : Option Int
  deriving DecidableEq, Repr

/-- `M1AcquisitionEvidence`. -/
structure M1AcquisitionEvidence where
  acquisitionOrdinal : Nat
  arm : M1Arm
  processId : Int
  processStartToken : String
  activation : M1ActivationEvidence
  startedLifecycle : Evidence.EvidenceArtifact
  reapedLifecycle : Evidence.EvidenceArtifact
  before : Json
  after : Json
  samples : List M1RawSample
  deriving DecidableEq

/-- A mapping that the cleaner returned, or that stands for its error. -/
structure CleanerReply where
  fields : Json.Object
  /-- `M1CleanupEvidence` takes its keys and values. -/
  accepted : Bool
  /-- `json.dumps` takes its keys and values as they are. -/
  encodable : Bool
  deriving DecidableEq

/-- What `_cleanup_resource` returns. -/
structure CleanupEvidence where
  fence : CleanerReply
  health : CleanerReply
  deriving DecidableEq

/-- `M1MeasurementEvidence`. -/
structure M1MeasurementEvidence where
  binding : M1MeasurementBinding
  plan : M1MeasurementPlan
  calibration : ClockCalibrationV2
  acquisitions : List M1AcquisitionEvidence
  cleanupEvidence : CleanupEvidence

/-- The document of `_write_failure_evidence`. -/
structure FailureEvidence where
  binding : M1MeasurementBinding
  plan : M1MeasurementPlan
  completedAcquisitions : List M1AcquisitionEvidence
  calibration : Option ClockCalibrationV2
  cleanupEvidence : CleanupEvidence
  error : Raised

/-- A document that is written. -/
inductive Document where
  | lifecycle (event : LifecycleEvent) (ordinal : Nat) (record : ProcessLifecycleRecordV2)
  | performance (evidence : M1MeasurementEvidence)
  | failure (evidence : FailureEvidence)

/-- `ManualPerformanceEvidenceResult`, with the evidence that its series refers to. -/
structure ManualPerformanceEvidenceResult where
  evidence : M1MeasurementEvidence
  rawSamples : Evidence.EvidenceArtifact
  cleanupEvidence : CleanupEvidence

/-! ## Calls -/

/-- What a reading of the clock or of the telemetry is for. -/
inductive Moment where
  | budget | started | reaped
  deriving DecidableEq, Repr

/-- A call that the harness made, and what the claims about a run need of its answer. -/
inductive Event (W T : Type) where
  | now (moment : Moment) (answer : Except Raised Int)
  | leaseLost
  | timer (answer : Except Raised T)
  | calibrate (timer : T)
  | closeTimer (timer : T)
  | workload (ordinal : Nat) (answer : Except Raised W)
  | processIdentity (workload : W) (answer : Except Raised ProcessIdentity)
  | lifecycle (event : LifecycleEvent) (workload : W) (ordinal : Nat) (identity : ProcessIdentity)
      (answer : Except Raised ProcessLifecycleRecordV2)
  | telemetry (moment : Moment) (answer : Except Raised Json)
  | activation (workload : W)
  | read (reference : RawEvidenceFileV2)
  | synchronize (workload : W)
  | warmup (workload : W)
  | measureBatch (workload : W) (iterations : Nat)
  | close (workload : W)
  | isAlive (workload : W)
  | fence (resourceId : String) (fencingToken : Int) (answer : Except Raised CleanerReply)
  | healthCheck (resourceId : String) (answer : Except Raised CleanerReply)
  | write (document : Document) (answer : Except Raised Evidence.EvidenceArtifact)

/-- The calls made so far. -/
abbrev Past (W T : Type) := List (Event W T)

/-- What answers the calls: a workload is of any type `W`, a timer of any type `T`. -/
structure Surroundings (W T : Type) where
  now : Past W T → Except Raised Int
  leaseLost : Past W T → Except Raised Bool
  timer : Past W T → Except Raised T
  /-- The timer has a callable attribute `close`. -/
  closable : T → Bool
  calibrate : Past W T → T → Except Raised ClockCalibrationV2
  closeTimer : Past W T → T → Except Raised Unit
  workload : Past W T → M1Arm → Nat → Except Raised W
  processIdentity : Past W T → W → Except Raised ProcessIdentity
  lifecycle : Past W T → LifecycleEvent → W → Nat → Int → Except Raised ProcessLifecycleRecordV2
  telemetry : Past W T → Except Raised Json
  activation : Past W T → W → Except Raised M1ActivationEvidence
  readImport : Past W T → RawEvidenceFileV2 → Except Raised M1OverlayImportRecord
  readCache : Past W T → RawEvidenceFileV2 → Except Raised M1CacheNamespaceRecord
  readEvent : Past W T → RawEvidenceFileV2 → Except Raised M1DeviceEventRecord
  synchronize : Past W T → W → Except Raised Unit
  warmup : Past W T → W → Except Raised Unit
  measureBatch : Past W T → W → Nat → Except Raised RawEvidenceFileV2
  close : Past W T → W → Except Raised Unit
  isAlive : Past W T → W → Except Raised Bool
  fence : Past W T → String → Int → Except Raised CleanerReply
  healthCheck : Past W T → String → Except Raised CleanerReply
  /-- The disk, for a document that is encoded. -/
  write : Past W T → Document → Except Raised Evidence.EvidenceArtifact
  /-- `canonical_json_bytes` encodes the evidence. -/
  evidenceEncodes : M1MeasurementEvidence → Bool
  /-- `M1AcquisitionEvidence` lets an acquisition through. -/
  acquisitionAccepted : M1AcquisitionEvidence → Bool
  /-- `M1MeasurementEvidence` lets the evidence through. -/
  evidenceAccepted : M1MeasurementEvidence → Bool

/-- The timer that a harness was given, or the factory of a job-bound one. -/
inductive TimerSource (T : Type) where
  | fixed (timer : T)
  | jobBound

/-- What the harness knows when the collection starts. -/
structure Collection (T : Type) where
  plan : M1MeasurementPlan
  binding : M1MeasurementBinding
  timer : TimerSource T
  deadlineNs : Option Int
  /-- The context has an event with a method `is_set`. -/
  leaseLostEvent : Bool
  /-- The provenance of the harness, as an event record has it. -/
  provenance : Json

/-- Code of the harness. -/
abbrev Code (W T α : Type) := Raising Raised (Past W T) α

section Harness

variable {W T : Type} (host : Surroundings W T) (start : Collection T)

/-- A call whose answer is not kept. -/
def quiet {α : Type} (answer : Past W T → Except Raised α) (event : Event W T) : Code W T α :=
  asking answer fun _ => event

/-- `_require_live_lease`. -/
def requireLiveLease : Code W T Unit := do
  if start.leaseLostEvent then
    let lost ← quiet host.leaseLost .leaseLost
    raiseIf (lost = true) (safety "M1 performance lease was lost")

/-- `_require_within_wall_budget`. -/
def requireWithinWallBudget : Code W T Unit :=
  match start.deadlineNs with
  | none => pure ()
  | some deadline => do
      let now ← asking host.now (.now .budget)
      raiseIf (deadline < now) (safety "M1 trusted measurement exceeded max_wall_seconds")

/-- `write_evidence`: a document that is not encoded does not reach the disk. -/
def writeEvidence (document : Document) (encodes : Bool) :
    Code W T Evidence.EvidenceArtifact :=
  asking (fun past =>
    if encodes then host.write past document
    else .error ⟨"ValueError", "the document is not JSON compliant", true⟩) (.write document)

/-! ## One acquisition -/

/-- `_validate_lifecycle`. -/
def validateLifecycle (record : ProcessLifecycleRecordV2) (event : LifecycleEvent)
    (ordinal : Nat) (identity : ProcessIdentity) : Except Raised Unit := do
  require (record.event = event ∧ record.restartOrdinal = ordinal ∧
      record.processId = identity.pid)
    (safety "M1 lifecycle record does not match the acquisition")
  let token ← (ProcStat.M1Harness.procStartToken record.procStatLine record.processId).mapError
    statRaised
  require (token = identity.startToken.toList)
    (safety "M1 lifecycle start token does not match the process")
  require (event = .reaped →
      record.waitpidResultPid = some identity.pid ∧ record.waitStatus = some 0)
    (safety "M1 measured process did not exit successfully")

/-- A lifecycle record that is captured and validated. -/
def recordLifecycle (event : LifecycleEvent) (moment : Moment) (workload : W) (ordinal : Nat)
    (identity : ProcessIdentity) : Code W T ProcessLifecycleRecordV2 := do
  let captured ← asking host.now (.now moment)
  let record ← asking (fun past => host.lifecycle past event workload ordinal captured)
    (.lifecycle event workload ordinal identity)
  ending (validateLifecycle record event ordinal identity)
  return record

/-- What an acquisition has before its `try`. -/
structure Opened where
  identity : ProcessIdentity
  started : ProcessLifecycleRecordV2
  startedFile : Evidence.EvidenceArtifact
  before : Json

/-- The steps of an acquisition between the factory and the `try`. -/
def openAcquisition (ordinal : Nat) (workload : W) : Code W T Opened := do
  let identity ← asking (fun past => host.processIdentity past workload)
    (.processIdentity workload)
  let started ← recordLifecycle host .started .started workload ordinal identity
  let startedFile ← writeEvidence host (.lifecycle .started ordinal started) true
  let before ← asking host.telemetry (.telemetry .started)
  return ⟨identity, started, startedFile, before⟩

/-- The checks of the activation, of the import attestation and of the cache namespace. -/
def activate (arm : M1Arm) (ordinal : Nat) (workload : W) (identity : ProcessIdentity) :
    Code W T M1ActivationEvidence := do
  let binding := start.binding
  let activation ← quiet (fun past => host.activation past workload) (.activation workload)
  raiseIf (activation.arm ≠ arm ∨ activation.imageDigest ≠ binding.imageDigest)
    (safety "M1 process activation does not match its arm/image")
  raiseIf (arm = .candidate ∧ activation.loadedArtifactHash ≠ some binding.artifactContentHash)
    (safety "M1 Candidate process loaded another Artifact")
  if arm = .candidate then
    let attestation ← orRaise activation.importAttestation ⟨"AssertionError", "", true⟩
    let imported ← quiet (fun past => host.readImport past attestation) (.read attestation)
    raiseIf (imported.acquisitionOrdinal ≠ ordinal ∨ imported.processId ≠ identity.pid ∨
        imported.processStartToken ≠ identity.startToken ∨
        imported.imageDigest ≠ binding.imageDigest ∨
        imported.artifactContentHash ≠ binding.artifactContentHash)
      (safety "M1 Overlay import attestation belongs to another process or Artifact")
  let reference := activation.cacheNamespaceEvidence
  let cacheRecord ← quiet (fun past => host.readCache past reference) (.read reference)
  raiseIf (cacheRecord.acquisitionOrdinal ≠ ordinal ∨ cacheRecord.arm ≠ arm ∨
      cacheRecord.processId ≠ identity.pid ∨
      cacheRecord.processStartToken ≠ identity.startToken ∨
      cacheRecord.namespaceHash ≠ activation.cacheNamespaceHash ∨
      cacheRecord.emptyBeforeExecution = false)
    (safety "M1 cache evidence does not prove a fresh empty acquisition namespace")
  return activation

/-- One turn of the warm-up. -/
def warmUp (workload : W) : Code W T Unit := do
  requireLiveLease host start
  requireWithinWallBudget host start
  quiet (fun past => host.synchronize past workload) (.synchronize workload)
  quiet (fun past => host.warmup past workload) (.warmup workload)

/-- One sample, behind the samples before it. -/
def measureSample (arm : M1Arm) (ordinal : Nat) (workload : W) (identity : ProcessIdentity)
    (samples : List M1RawSample) (sampleOrdinal : Nat) : Code W T (List M1RawSample) := do
  let iterations := start.plan.batchIterations
  requireLiveLease host start
  requireWithinWallBudget host start
  let reference ← quiet (fun past => host.measureBatch past workload iterations)
    (.measureBatch workload iterations)
  let event ← quiet (fun past => host.readEvent past reference) (.read reference)
  raiseIf ((event.processId, event.processStartToken) ≠ identity.key)
    (safety "M1 timing came from another process")
  raiseIf (event.arm ≠ arm ∨ event.acquisitionOrdinal ≠ ordinal ∨
      event.sampleOrdinal ≠ sampleOrdinal ∨ event.batchIterations ≠ iterations)
    (safety "M1 device Event record does not match its planned acquisition")
  raiseIf (event.timerProvenance ≠ start.provenance)
    (safety "M1 device Event record was not produced by the registered B Harness")
  requireWithinWallBudget host start
  return samples ++ [⟨event, reference⟩]

/-- The body of the `try` of an acquisition. -/
def measureAcquisition (arm : M1Arm) (ordinal : Nat) (workload : W) (identity : ProcessIdentity) :
    Code W T (M1ActivationEvidence × List M1RawSample) := do
  let activation ← activate host start arm ordinal workload identity
  (List.range start.plan.warmupCount).forM fun _ => warmUp host start workload
  let samples ← (List.range start.plan.samplesPerAcquisition).foldlM
    (measureSample host start arm ordinal workload identity) []
  return (activation, samples)

/-- The `finally` of an acquisition. -/
def reap (ordinal : Nat) (workload : W) (opened : Opened) :
    Code W T Evidence.EvidenceArtifact := do
  quiet (fun past => host.close past workload) (.close workload)
  let alive ← quiet (fun past => host.isAlive past workload) (.isAlive workload)
  raiseIf (alive = true) (safety "M1 acquisition process remained alive after close")
  let reaped ← recordLifecycle host .reaped .reaped workload ordinal opened.identity
  raiseIf (reaped.capturedMonotonicNs ≤ opened.started.capturedMonotonicNs)
    (safety "M1 lifecycle timestamps are not ordered")
  writeEvidence host (.lifecycle .reaped ordinal reaped) true

/-- `_acquire`. -/
def acquire (arm : M1Arm) (ordinal : Nat) : Code W T M1AcquisitionEvidence := do
  let workload ← asking (fun past => host.workload past arm ordinal) (.workload ordinal)
  let opened ← openAcquisition host ordinal workload
  let ((activation, samples), reapedFile) ← finallyDo
    (measureAcquisition host start arm ordinal workload opened.identity)
    (reap host ordinal workload opened)
  let after ← asking host.telemetry (.telemetry .reaped)
  let evidence : M1AcquisitionEvidence :=
    { acquisitionOrdinal := ordinal
      arm := arm
      processId := opened.identity.pid
      processStartToken := opened.identity.startToken
      activation := activation
      startedLifecycle := opened.startedFile
      reapedLifecycle := reapedFile
      before := opened.before
      after := after
      samples := samples }
  raiseIf (host.acquisitionAccepted evidence = false) (invalid "M1AcquisitionEvidence")
  return evidence

/-! ## The run -/

/-- The timer as the loop over the acquisitions finds it: calibrated and closed, or with an error
and, when it is the job's own, still to be closed. -/
structure Prepared (T : Type) where
  calibration : Option ClockCalibrationV2
  owned : Option T
  error : Option Raised

/-- The timer to calibrate, and what the job has to close. -/
def openTimer : Code W T (T × Option T) := do
  requireWithinWallBudget host start
  match start.timer with
  | .fixed timer => return (timer, none)
  | .jobBound =>
      let timer ← asking host.timer .timer
      return (timer, some timer)

/-- The close of a timer that the job owns. -/
def closeOwned : Option T → Code W T Unit
  | none => pure ()
  | some timer => do
      raiseIf (host.closable timer = false)
        (safety "M1 Job-bound device timer does not expose deterministic cleanup")
      quiet (fun past => host.closeTimer past timer) (.closeTimer timer)

/-- The collection up to the loop over the acquisitions. -/
def prepare : Code W T (Prepared T) := do
  match ← catching (openTimer host start) with
  | .error raised => return ⟨none, none, some raised⟩
  | .ok (timer, owned) =>
      match ← catching (quiet (fun past => host.calibrate past timer) (.calibrate timer)) with
      | .error raised => return ⟨none, owned, some raised⟩
      | .ok calibration =>
          match ← catching (closeOwned host owned) with
          | .error raised => return ⟨some calibration, owned, some raised⟩
          | .ok _ => return ⟨some calibration, none, none⟩

/-- The loop over the acquisitions. What was acquired before an error is kept. -/
def acquireAll : List (M1Arm × Nat) → List M1AcquisitionEvidence →
    Code W T (List M1AcquisitionEvidence × Option Raised)
  | [], acquisitions => return (acquisitions, none)
  | (arm, ordinal) :: others, acquisitions => do
      let turn : Code W T M1AcquisitionEvidence := do
        requireLiveLease host start
        requireWithinWallBudget host start
        acquire host start arm ordinal
      match ← catching turn with
      | .error raised => return (acquisitions, some raised)
      | .ok evidence => acquireAll others (acquisitions ++ [evidence])

/-- The loop, when nothing was raised before it. -/
def collect (prepared : Prepared T) : Code W T (List M1AcquisitionEvidence × Option Raised) :=
  match prepared.error with
  | some raised => return ([], some raised)
  | none => acquireAll host start start.plan.acquisitionOrder.zipIdx []

/-- The `finally` of the collection, as far as the timer goes: it returns the error of the
collection. -/
def releaseTimer (owned : Option T) (raised : Option Raised) : Code W T (Option Raised) :=
  match owned with
  | none => return raised
  | some timer => do
      if host.closable timer then
        match ← catching (quiet (fun past => host.closeTimer past timer) (.closeTimer timer)) with
        | .error closing => return raised.or (some closing)
        | .ok _ => return raised
      else return raised

/-- What stands for a fence that raised. -/
def fenceReply (binding : M1MeasurementBinding) : Except Raised CleanerReply → CleanerReply
  | .ok reply => reply
  | .error raised =>
      ⟨[("resource_id", .str binding.resourceId), ("fencing_token", .int binding.fencingToken),
        ("fenced", .bool false), ("error_type", .str raised.typeName),
        ("error", .str raised.message)], true, raised.encodable⟩

/-- What stands for a health check that raised. -/
def healthReply (binding : M1MeasurementBinding) : Except Raised CleanerReply → CleanerReply
  | .ok reply => reply
  | .error raised =>
      ⟨[("resource_id", .str binding.resourceId), ("healthy", .bool false),
        ("error_type", .str raised.typeName), ("error", .str raised.message)], true,
        raised.encodable⟩

/-- `_cleanup_resource`. -/
def cleanupResource : Code W T CleanupEvidence := do
  let resourceId := start.binding.resourceId
  let fencingToken := start.binding.fencingToken
  let fence ← catching (asking (fun past => host.fence past resourceId fencingToken)
    (.fence resourceId fencingToken))
  let health ← catching (asking (fun past => host.healthCheck past resourceId)
    (.healthCheck resourceId))
  return ⟨fenceReply start.binding fence, healthReply start.binding health⟩

/-- `M1CleanupEvidence` lets the clean-up through. -/
def CleanupEvidence.Healthy (cleanup : CleanupEvidence) : Prop :=
  cleanup.fence.accepted = true ∧ cleanup.health.accepted = true ∧
    cleanup.fence.fields.get? "fenced" = some (.bool true) ∧
    cleanup.health.fields.get? "healthy" = some (.bool true)

instance instDecidableHealthy (cleanup : CleanupEvidence) : Decidable cleanup.Healthy :=
  inferInstanceAs (Decidable (_ ∧ _ ∧ _ ∧ _))

/-- `_require_cleanup_binding` lets the clean-up through. -/
def CleanupEvidence.Bound (binding : M1MeasurementBinding) (cleanup : CleanupEvidence) : Prop :=
  cleanup.fence.fields.get? "resource_id" = some (.str binding.resourceId) ∧
    (∃ token, cleanup.fence.fields.get? "fencing_token" = some token ∧
      token.alike (.int binding.fencingToken) = true) ∧
    cleanup.health.fields.get? "resource_id" = some (.str binding.resourceId)

instance instDecidableBound (binding : M1MeasurementBinding) (cleanup : CleanupEvidence) :
    Decidable (cleanup.Bound binding) :=
  haveI : Decidable (∃ token, cleanup.fence.fields.get? "fencing_token" = some token ∧
      token.alike (.int binding.fencingToken) = true) :=
    match cleanup.fence.fields.get? "fencing_token" with
    | none => .isFalse fun ⟨_, found, _⟩ => by cases found
    | some token => decidable_of_iff (token.alike (.int binding.fencingToken) = true)
        ⟨fun same => ⟨token, rfl, same⟩, fun ⟨_, found, same⟩ => Option.some.inj found ▸ same⟩
  inferInstanceAs (Decidable (_ ∧ _ ∧ _))

/-- The checks behind a collection that did not fail. -/
def checkCleanup (cleanup : CleanupEvidence) : Code W T Unit := do
  requireWithinWallBudget host start
  raiseIf (¬cleanup.Healthy) (invalid "M1CleanupEvidence")
  raiseIf (¬cleanup.Bound start.binding)
    (safety "M1 cleanup evidence belongs to another lease resource")

/-- `json.dumps` takes the document: the models in it dump to plain values. -/
def FailureEvidence.encodes (evidence : FailureEvidence) : Bool :=
  evidence.cleanupEvidence.fence.encodable && evidence.cleanupEvidence.health.encodable &&
    evidence.error.encodable

/-- `_write_failure_evidence`, and the `raise` behind it. -/
def fail {α : Type} (evidence : FailureEvidence) : Code W T α := do
  let _ ← writeEvidence host (.failure evidence) evidence.encodes
  raise evidence.error

/-- The evidence of a collection that did not fail, validated and written. -/
def publish (evidence : M1MeasurementEvidence) : Code W T Evidence.EvidenceArtifact := do
  raiseIf (host.evidenceAccepted evidence = false) (invalid "M1MeasurementEvidence")
  writeEvidence host (.performance evidence) (host.evidenceEncodes evidence)

/-- What follows the collection and its clean-up. -/
def conclude (calibration : Option ClockCalibrationV2)
    (acquisitions : List M1AcquisitionEvidence) (raised : Option Raised)
    (cleanup : CleanupEvidence) : Code W T ManualPerformanceEvidenceResult := do
  let failed := fun error : Raised =>
    (⟨start.binding, start.plan, acquisitions, calibration, cleanup, error⟩ : FailureEvidence)
  let checked ← match raised with
    | some error => pure (.error error)
    | none => catching (checkCleanup host start cleanup)
  match checked with
  | .error error => fail host (failed error)
  | .ok _ =>
      let calibrated ← orRaise calibration ⟨"AssertionError", "", true⟩
      let evidence : M1MeasurementEvidence :=
        ⟨start.binding, start.plan, calibrated, acquisitions, cleanup⟩
      match ← catching (publish host evidence) with
      | .error error => fail host (failed error)
      | .ok rawSamples => return ⟨evidence, rawSamples, cleanup⟩

/-- `run_manual_performance` from the start of the collection on. -/
def runManualPerformance : Code W T ManualPerformanceEvidenceResult := do
  let prepared ← prepare host start
  let (acquisitions, collecting) ← collect host start prepared
  let raised ← releaseTimer host prepared.owned collecting
  let cleanup ← cleanupResource host start
  conclude host start prepared.calibration acquisitions raised cleanup

end Harness

end M1Run

end HcuAutoOpt
