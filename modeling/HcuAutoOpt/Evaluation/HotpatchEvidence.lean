import HcuAutoOpt.Domain.Enums
import HcuAutoOpt.Evaluation.EvidenceReader
import HcuAutoOpt.Evaluation.ProcStat
import HcuAutoOpt.Foundation.StoredJson
import HcuAutoOpt.Measurement.PhaseRunner

/-!
# Evidence of a hot patch

A Stage 0 hot-patch probe runs an implementation three times: the baseline, the candidate and the
baseline again. Each phase leaves a manifest with its execution request, the files it had, what it
wrote and its cache, and records of the start and the end of its process. `classify_hotpatch`
reads the manifests of an evidence and what they name, and decides whether the candidate was
loaded into a running process (`hot_patch`), into processes started for it (`overlay_only`), or
whether the evidence shows neither.

A document is what the validation library makes of some bytes (`HotpatchDocuments`). What the
validators of the documents demand is carried by the documents.
-/

set_option autoImplicit false

namespace HcuAutoOpt

namespace Hotpatch

open Foundation EvidenceReading M2Runner

/-! ## Documents -/

/-- `HotPatchCapability`. -/
inductive HotPatchCapability where
  | hotPatch | overlayOnly | none
  deriving DecidableEq, Repr

/-- `RawEvidenceFileV2`. -/
structure RawEvidenceFileV2 where
  uri : List Char
  sha256 : String
  valid : (1 ≤ uri.length ∧ uri.length ≤ 4000) ∧ IsSha256 sha256
  deriving DecidableEq

/-- The kinds of a source snapshot. -/
inductive SnapshotKind where
  | baseline | candidate
  deriving DecidableEq, Repr

/-- `SourceSnapshot`. -/
structure SourceSnapshot where
  snapshotId : Uuid
  kind : SnapshotKind
  repository : String
  commit : String
  treeHash : String
  sourceHash : String
  worktreeUri : List Char
  clean : Bool
  parentSnapshotId : Option Uuid
  parented : kind = .candidate ↔ parentSnapshotId ≠ none
  deriving DecidableEq

/-- `ArtifactManifest`. -/
structure ArtifactManifest where
  candidateId : Option Uuid
  kind : String
  uri : List Char
  contentHash : String
  sourceSnapshotId : Option Uuid
  synthetic : Bool
  digest : IsSha256 contentHash

/-- `MountSpec`. -/
structure MountSpec where
  source : List Char
  target : List Char
  readOnly : Bool
  absolute : source.head? = some '/' ∧ target.head? = some '/'
  deriving DecidableEq

/-- `ExecutionRequest`. -/
structure ExecutionRequest where
  requestId : Uuid
  targetId : String
  argv : List String
  workingDirectory : List Char
  environment : List (String × String)
  timeoutSeconds : Nat
  leaseScope : LeaseScope
  resourceId : Option String
  fencingToken : Option Nat
  containerImage : Option String
  mounts : List MountSpec
  named : targetId ≠ "" ∧ argv ≠ [] ∧ "" ∉ argv ∧ workingDirectory.head? = some '/'
  distinct : (environment.map Prod.fst).Nodup
  timed : 1 ≤ timeoutSeconds ∧ timeoutSeconds ≤ 86400
  leased : leaseScope ≠ .none → resourceId ≠ none ∧ fencingToken ≠ none
  deriving DecidableEq

/-- How an execution ended. -/
inductive ExecutionStatus where
  | succeeded | failed | timedOut | cancelled
  deriving DecidableEq, Repr

/-- The kinds of an adapter. -/
inductive ImplementationKind where
  | real | fake
  deriving DecidableEq, Repr

/-- `ExecutionResult`. -/
structure ExecutionResult where
  requestId : Uuid
  status : ExecutionStatus
  exitCode : Option Int
  stdoutUri : Option (List Char)
  metadata : Json.Object
  implementationKind : ImplementationKind
  synthetic : Bool
  deriving DecidableEq

/-- `PurePosixPath.as_posix`. -/
def posixText (path : PurePath) : List Char :=
  if path = ⟨[], []⟩ then ['.'] else path.text

/-- A normalized relative path: `require_normalized_relative_path`. -/
def IsRelativePath (text : List Char) : Prop :=
  (readPath text).root = [] ∧ ['.', '.'] ∉ (readPath text).parts ∧ posixText (readPath text) = text

instance (text : List Char) : Decidable (IsRelativePath text) :=
  inferInstanceAs (Decidable (_ ∧ _ ∧ _))

/-- A normalized absolute path below the root: `require_safe_mount_target` and
`require_safe_replacement_point`. -/
def IsSafeTarget (text : List Char) : Prop :=
  Char.ofNat 0 ∉ text ∧ (readPath text).root ≠ [] ∧ readPath text ≠ ⟨['/'], []⟩ ∧
    ['.', '.'] ∉ (readPath text).parts ∧ posixText (readPath text) = text

instance (text : List Char) : Decidable (IsSafeTarget text) :=
  inferInstanceAs (Decidable (_ ∧ _ ∧ _ ∧ _ ∧ _))

/-- `HotpatchStateEntryV2`. -/
structure HotpatchStateEntryV2 where
  path : List Char
  content : RawEvidenceFileV2
  normalized : IsRelativePath path
  deriving DecidableEq

/-- The phases of a hot-patch probe. -/
inductive HotpatchPhase where
  | baseline | candidate | recovery
  deriving DecidableEq, Repr

/-- The name of a phase. -/
def HotpatchPhase.value : HotpatchPhase → String
  | .baseline => "baseline"
  | .candidate => "candidate"
  | .recovery => "recovery"

/-- `HotpatchPhaseManifestV2`, with what `bind_execution` demands. -/
structure HotpatchPhaseManifestV2 where
  phase : HotpatchPhase
  sourceSnapshotId : Uuid
  executionRequest : ExecutionRequest
  executionResult : ExecutionResult
  processId : Nat
  processStartToken : List Char
  processStartRecord : RawEvidenceFileV2
  processExitRecord : RawEvidenceFileV2
  containerId : String
  entries : List HotpatchStateEntryV2
  output : RawEvidenceFileV2
  normalizedOutput : RawEvidenceFileV2
  cacheNamespace : RawEvidenceFileV2
  positive : 1 ≤ processId
  sameRequest : executionResult.requestId = executionRequest.requestId
  successful : executionResult.status = .succeeded ∧ executionResult.exitCode = some 0 ∧
    executionResult.synthetic = false ∧ executionResult.implementationKind = .real
  container : executionResult.metadata.get? "container_name" = some (.str containerId)
  stdout : executionResult.stdoutUri = some output.uri
  filled : entries ≠ []
  uniquePaths : (entries.map HotpatchStateEntryV2.path).Nodup
  deriving DecidableEq

/-- `HotpatchExecutionObservationV2`. -/
structure HotpatchExecutionObservationV2 where
  activationMarker : String
  outputHash : String
  replacementPoint : List Char
  implementationHash : String
  processId : Nat
  loadedArtifactHash : Option String
  safe : IsSafeTarget replacementPoint
  deriving DecidableEq

/-- The two records of a process. -/
inductive LifecycleEvent where
  | started | reaped
  deriving DecidableEq, Repr

/-- `ProcessLifecycleRecordV2`, with what `bind_wait_result` demands. -/
structure ProcessLifecycleRecordV2 where
  event : LifecycleEvent
  restartOrdinal : Nat
  observerProcessId : Nat
  processId : Nat
  procStatLine : List Char
  capturedMonotonicNs : Nat
  waitpidResultPid : Option Nat
  waitStatus : Option Nat
  running : event = .started → waitpidResultPid = none ∧ waitStatus = none
  waited : event = .reaped → waitpidResultPid = some processId ∧ waitStatus ≠ none
  deriving DecidableEq

/-- `TargetSpec`, as far as the classification reads it. -/
structure TargetSpec where
  targetId : String
  immutableReference : String
  repository : String
  commit : String
  cleanCheckout : List Char
  deriving DecidableEq, Repr

/-- `Stage0EvidenceBinding`, as far as the classification reads it. -/
structure Stage0EvidenceBinding where
  targetId : String
  resourceId : String
  fencingToken : Nat
  deriving DecidableEq, Repr

/-- `OverlayMountEvidenceV2`. -/
structure OverlayMountEvidenceV2 where
  sourceUri : List Char
  sourceHash : String
  targetPath : List Char
  containerId : String
  safe : IsSafeTarget targetPath
  deriving DecidableEq

/-- The files of an activation. -/
structure ActivationFiles where
  baselineSource : RawEvidenceFileV2
  candidateSource : RawEvidenceFileV2
  artifactManifest : RawEvidenceFileV2
  artifact : RawEvidenceFileV2
  baselineState : RawEvidenceFileV2
  candidateState : RawEvidenceFileV2
  recoveryState : RawEvidenceFileV2
  deriving DecidableEq

/-- The activation of an evidence. These are the shapes that `bind_overlay_capability` leaves: an
activation has all its files or none, and only an overlay has a mount. -/
inductive Activation where
  | none
  | runtimeHotPatch (files : ActivationFiles)
  | startupOverlay (files : ActivationFiles) (mount : OverlayMountEvidenceV2)
  deriving DecidableEq

/-- The files of an activation, if it has any. -/
def Activation.files? : Activation → Option ActivationFiles
  | .none => Option.none
  | .runtimeHotPatch files => some files
  | .startupOverlay files _ => some files

/-- `activation_mode == "startup_overlay"`. -/
def Activation.isOverlay : Activation → Bool
  | .startupOverlay _ _ => true
  | _ => false

/-- `HotpatchEvidenceV2`. -/
structure HotpatchEvidenceV2 where
  binding : Stage0EvidenceBinding
  activation : Activation
  deriving DecidableEq

/-- `model_validate_json` of the documents, with the text of a `ValidationError`. -/
structure HotpatchDocuments where
  sourceSnapshot : List UInt8 → Except String SourceSnapshot
  artifactManifest : List UInt8 → Except String ArtifactManifest
  phaseManifest : List UInt8 → Except String HotpatchPhaseManifestV2
  observation : List UInt8 → Except String HotpatchExecutionObservationV2
  processLifecycle : List UInt8 → Except String ProcessLifecycleRecordV2

/-! ## Reading -/

section Reading

variable {disk : Disk} (env : ReaderEnv) (reader : Reader disk) (documents : HotpatchDocuments)

/-- `read_raw_bytes` of a reference. -/
def readFile (reference : RawEvidenceFileV2) : Except ReadError (List UInt8) :=
  readRawBytes env reader reference.uri reference.sha256

/-- What the validation library makes of some bytes. -/
def validated {α : Type} (parse : List UInt8 → Except String α) (errorCode : String)
    (encoded : List UInt8) : Except ReadError α :=
  (parse encoded).mapError (.evidence errorCode)

/-- `_read_contract`. -/
def readContract {α : Type} (parse : List UInt8 → Except String α) (errorCode : String)
    (reference : RawEvidenceFileV2) : Except ReadError α := do
  validated parse errorCode (← readBytes env reader reference.uri reference.sha256)

/-- `_read_hotpatch_phase`. -/
def readHotpatchPhase : RawEvidenceFileV2 → Except ReadError HotpatchPhaseManifestV2 :=
  readContract env reader documents.phaseManifest "hotpatch_state_invalid"

/-- `_read_process_lifecycle`. -/
def readProcessLifecycle : RawEvidenceFileV2 → Except ReadError ProcessLifecycleRecordV2 :=
  readContract env reader documents.processLifecycle "process_lifecycle_invalid"

/-- `_read_hotpatch_observation`. -/
def readHotpatchObservation (phase : HotpatchPhaseManifestV2) :
    Except ReadError HotpatchExecutionObservationV2 := do
  let encoded ← readFile env reader phase.output
  let observation ← validated documents.observation "hotpatch_output_invalid" encoded
  let _ ← readFile env reader phase.normalizedOutput
  require (observation.outputHash = phase.normalizedOutput.sha256)
    (.evidence "hotpatch_output_invalid"
      s!"{phase.phase.value} output hash does not bind the normalized output bytes")
  return observation

/-- `_verified_state_entries`. -/
def verifiedStateEntries (entries : List HotpatchStateEntryV2) :
    Except ReadError (List (List Char × String)) :=
  entries.mapM fun entry => do
    let _ ← readFile env reader entry.content
    return (entry.path, entry.content.sha256)

/-! ## Checks -/

/-- The schemes whose paths have parameters: `uses_params`. -/
def usesParams : List (List Char) :=
  ["", "ftp", "hdl", "prospero", "http", "https", "shttp", "rtsp", "rtsps", "rtspu", "sip", "sips",
    "mms", "sftp", "tel"].map String.toList

/-- `_splitparams`, without the parameters. -/
def splitParams (path : List Char) : List Char :=
  let last := (path.reverse.takeWhile (· ≠ '/')).reverse
  path.take (path.length - last.length) ++ last.takeWhile (· ≠ ';')

/-- `unquote(urlparse(uri).path)`. -/
def uriPath (uri : List Char) : Except ReadError (List Char) := do
  let parsed ← requireSome (urlSplit env.rules uri) .valueError
  let path := if usesParams.contains parsed.scheme then splitParams parsed.path else parsed.path
  return unquote env.rules path

/-- `_valid_source_and_artifact_chain`. -/
def validSourceAndArtifactChain (baseline candidate : SourceSnapshot)
    (artifactManifest : ArtifactManifest) (artifactReference : RawEvidenceFileV2)
    (artifact : List UInt8) (target : TargetSpec) : Except ReadError Bool := do
  let baselinePath ← uriPath env baseline.worktreeUri
  return decide (
    baseline.kind = .baseline ∧
    baseline.clean = true ∧
    baseline.parentSnapshotId = none ∧
    baseline.repository = target.repository ∧
    baseline.commit = target.commit ∧
    baselinePath = target.cleanCheckout ∧
    candidate.kind = .candidate ∧
    candidate.clean = true ∧
    candidate.parentSnapshotId = some baseline.snapshotId ∧
    candidate.repository = baseline.repository ∧
    candidate.commit ≠ baseline.commit ∧
    candidate.treeHash ≠ baseline.treeHash ∧
    candidate.sourceHash ≠ baseline.sourceHash ∧
    artifactManifest.synthetic = false ∧
    artifactManifest.candidateId ≠ none ∧
    artifactManifest.kind ∈ ["python_overlay", "triton_source_overlay"] ∧
    artifactManifest.sourceSnapshotId = some candidate.snapshotId ∧
    artifactManifest.uri = artifactReference.uri ∧
    artifactManifest.contentHash = artifactReference.sha256 ∧
    artifact ≠ [])

/-- `_valid_hotpatch_execution`. -/
def validHotpatchExecution (evidence : HotpatchEvidenceV2) (phase : HotpatchPhaseManifestV2)
    (target : TargetSpec) : Bool :=
  let request := phase.executionRequest
  let metadata := phase.executionResult.metadata
  let binding := evidence.binding
  decide (
    request.targetId = binding.targetId ∧ binding.targetId = target.targetId ∧
    request.leaseScope = .exclusive ∧
    request.resourceId = some binding.resourceId ∧
    request.fencingToken = some binding.fencingToken ∧
    request.containerImage = some target.immutableReference ∧
    metadata.get? "target_id" = some (.str target.targetId) ∧
    metadata.get? "resource_id" = some (.str binding.resourceId) ∧
    (metadata.get? "fencing_token").any (Json.alike · (.int binding.fencingToken)) = true ∧
    metadata.get? "container_image" = some (.str target.immutableReference))

/-- `_terminal_wait_status`. -/
def terminalWaitStatus : Option Nat → Bool
  | none => false
  | some waitStatus =>
      if 0xFFFF ≤ waitStatus then false
      else if waitStatus &&& 0x7F = 0 then waitStatus &&& 0xFF = 0
      else if waitStatus &&& 0x7F = 0x7F then false
      else waitStatus >>> 8 = 0

/-- A start token, when its record is no `Stage0EvidenceError`. -/
def tokenOf : Except ProcStat.StatError (List Char) → Except ReadError (Option (List Char))
  | .ok token => .ok (some token)
  | .error (.stage0Evidence _ _) => .ok none
  | .error _ => .error .valueError

/-- `_verify_hotpatch_process`. -/
def verifyHotpatchProcess (phase : HotpatchPhaseManifestV2) (ordinal : Nat) :
    Except ReadError Bool := do
  let started ← readProcessLifecycle env reader documents phase.processStartRecord
  let reaped ← readProcessLifecycle env reader documents phase.processExitRecord
  match ← tokenOf (ProcStat.Stage0Verifier.procStartToken started.procStatLine
      started.processId) with
  | none => return false
  | some startToken =>
      match ← tokenOf (ProcStat.Stage0Verifier.procStartToken reaped.procStatLine
          reaped.processId) with
      | none => return false
      | some exitToken =>
          return decide (
            started.event = .started ∧
            reaped.event = .reaped ∧
            started.restartOrdinal = ordinal ∧
            reaped.restartOrdinal = ordinal ∧
            started.observerProcessId = reaped.observerProcessId ∧
            (started.processId, startToken) = (phase.processId, phase.processStartToken) ∧
            (reaped.processId, exitToken) = (phase.processId, phase.processStartToken) ∧
            started.capturedMonotonicNs < reaped.capturedMonotonicNs ∧
            terminalWaitStatus reaped.waitStatus = true)

/-- The loop over the phases. -/
def validPhases (evidence : HotpatchEvidenceV2) (target : TargetSpec) :
    List HotpatchPhaseManifestV2 → Nat → Except ReadError Bool
  | [], _ => return true
  | phase :: phases, ordinal =>
      if validHotpatchExecution evidence phase target = false then return false
      else do
        let expected := if evidence.activation.isOverlay then ordinal else 0
        if (← verifyHotpatchProcess env reader documents phase expected) = false then return false
        else validPhases evidence target phases (ordinal + 1)

/-! ## Classification -/

/-- What is read of a phase. -/
structure PhaseReading where
  manifest : HotpatchPhaseManifestV2
  entries : List (List Char × String)
  observation : HotpatchExecutionObservationV2
  normalizedOutput : List UInt8
  cache : List UInt8

/-- `HCUOPT_CANDIDATE_CACHE_DIR` of the environment of a phase. -/
def HotpatchPhaseManifestV2.cacheDirectory (phase : HotpatchPhaseManifestV2) : Option String :=
  phase.executionRequest.environment.lookup "HCUOPT_CANDIDATE_CACHE_DIR"

/-- `phase_relations_are_safe`. -/
def PhaseRelationsAreSafe (artifact : List UInt8) (artifactHash : String)
    (baselineSource candidateSource : SourceSnapshot)
    (baseline candidate recovery : PhaseReading) : Prop :=
  artifact ≠ [] ∧
  baseline.manifest.sourceSnapshotId = baselineSource.snapshotId ∧
  candidate.manifest.sourceSnapshotId = candidateSource.snapshotId ∧
  recovery.manifest.sourceSnapshotId = baselineSource.snapshotId ∧
  baseline.observation.processId = baseline.manifest.processId ∧
  candidate.observation.processId = candidate.manifest.processId ∧
  recovery.observation.processId = recovery.manifest.processId ∧
  baseline.observation.loadedArtifactHash = none ∧
  baseline.observation.activationMarker = "baseline" ∧
  candidate.observation.loadedArtifactHash = some artifactHash ∧
  candidate.observation.implementationHash = artifactHash ∧
  candidate.observation.activationMarker ≠ "baseline" ∧
  recovery.observation.loadedArtifactHash = none ∧
  recovery.observation.activationMarker = "baseline" ∧
  baseline.observation.implementationHash = recovery.observation.implementationHash ∧
  baseline.observation.implementationHash ∈ baseline.entries.map Prod.snd ∧
  candidate.observation.implementationHash ∈ candidate.entries.map Prod.snd ∧
  recovery.observation.implementationHash ∈ recovery.entries.map Prod.snd ∧
  baseline.observation.replacementPoint = candidate.observation.replacementPoint ∧
  candidate.observation.replacementPoint = recovery.observation.replacementPoint ∧
  baseline.entries = recovery.entries ∧
  candidate.entries ≠ baseline.entries ∧
  baseline.observation.outputHash = candidate.observation.outputHash ∧
  candidate.observation.outputHash = recovery.observation.outputHash ∧
  baseline.normalizedOutput = candidate.normalizedOutput ∧
  candidate.normalizedOutput = recovery.normalizedOutput ∧
  baseline.cache = recovery.cache ∧
  candidate.cache ≠ baseline.cache ∧
  baseline.manifest.cacheDirectory = recovery.manifest.cacheDirectory ∧
  candidate.manifest.cacheDirectory ≠ none ∧ candidate.manifest.cacheDirectory ≠ some "" ∧
  candidate.manifest.cacheDirectory ≠ baseline.manifest.cacheDirectory

instance (artifact : List UInt8) (artifactHash : String)
    (baselineSource candidateSource : SourceSnapshot)
    (baseline candidate recovery : PhaseReading) :
    Decidable (PhaseRelationsAreSafe artifact artifactHash baselineSource candidateSource baseline
      candidate recovery) := by
  unfold PhaseRelationsAreSafe
  infer_instance

/-- The process of a phase. -/
def HotpatchPhaseManifestV2.identity (phase : HotpatchPhaseManifestV2) : Nat × List Char :=
  (phase.processId, phase.processStartToken)

/-- The request id of a phase. -/
def HotpatchPhaseManifestV2.requestId (phase : HotpatchPhaseManifestV2) : Uuid :=
  phase.executionRequest.requestId

/-- The size of the set of what three phases have. -/
def distinct {α : Type} [DecidableEq α] (part : HotpatchPhaseManifestV2 → α)
    (baseline candidate recovery : HotpatchPhaseManifestV2) : Nat :=
  ([part baseline, part candidate, part recovery].dedup).length

/-- The decision of `activation_mode = "runtime_hot_patch"`. -/
def runtimeCapability (baseline candidate recovery : HotpatchPhaseManifestV2) :
    HotPatchCapability :=
  if distinct HotpatchPhaseManifestV2.identity baseline candidate recovery ≠ 1 ∨
      distinct HotpatchPhaseManifestV2.requestId baseline candidate recovery ≠ 1 then .none
  else if distinct (fun phase => (phase.processStartRecord.uri, phase.processStartRecord.sha256))
        baseline candidate recovery ≠ 1 ∨
      distinct (fun phase => (phase.processExitRecord.uri, phase.processExitRecord.sha256))
        baseline candidate recovery ≠ 1 then .none
  else .hotPatch

/-- The mounts of the artifact at the replacement point. -/
def candidateMounts (artifactSource : List Char) (mount : OverlayMountEvidenceV2)
    (candidate : HotpatchPhaseManifestV2) : List MountSpec :=
  candidate.executionRequest.mounts.filter fun item =>
    item.source = artifactSource ∧ item.target = mount.targetPath

/-- `_valid_startup_overlay_mount`. -/
def validStartupOverlayMount (mount : OverlayMountEvidenceV2) (artifact : ArtifactManifest)
    (observation : HotpatchExecutionObservationV2)
    (baseline candidate recovery : HotpatchPhaseManifestV2) : Except ReadError Bool :=
  if mount.sourceUri ≠ artifact.uri ∨ mount.sourceHash ≠ artifact.contentHash ∨
      mount.targetPath ≠ observation.replacementPoint ∨
      mount.containerId ≠ candidate.containerId then return false
  else do
    let artifactSource ← uriPath env artifact.uri
    if (candidateMounts artifactSource mount candidate).length ≠ 1 ∨
        (candidateMounts artifactSource mount candidate).any (fun item => !item.readOnly) then
      return false
    else
      return (baseline.executionRequest.mounts ++ recovery.executionRequest.mounts).all
        fun item => item.source ≠ artifactSource

/-- The decision of `activation_mode = "startup_overlay"`. -/
def overlayCapability (mount : OverlayMountEvidenceV2) (artifact : ArtifactManifest)
    (observation : HotpatchExecutionObservationV2)
    (baseline candidate recovery : HotpatchPhaseManifestV2) :
    Except ReadError HotPatchCapability :=
  if distinct HotpatchPhaseManifestV2.identity baseline candidate recovery ≠ 3 ∨
      distinct HotpatchPhaseManifestV2.requestId baseline candidate recovery ≠ 3 then return .none
  else do
    if (← validStartupOverlayMount env mount artifact observation baseline candidate recovery) =
        false then return .none
    else return .overlayOnly

/-- The end of `classify_hotpatch`: what the phases show, once each of them is valid. -/
def classifyPhases (activation : Activation) (artifact : List UInt8)
    (artifactManifest : ArtifactManifest) (baselineSource candidateSource : SourceSnapshot)
    (baseline candidate recovery : HotpatchPhaseManifestV2) :
    Except ReadError HotPatchCapability := do
  let baselineEntries ← verifiedStateEntries env reader baseline.entries
  let candidateEntries ← verifiedStateEntries env reader candidate.entries
  let recoveryEntries ← verifiedStateEntries env reader recovery.entries
  let baselineObservation ← readHotpatchObservation env reader documents baseline
  let candidateObservation ← readHotpatchObservation env reader documents candidate
  let recoveryObservation ← readHotpatchObservation env reader documents recovery
  let baselineOutput ← readFile env reader baseline.normalizedOutput
  let candidateOutput ← readFile env reader candidate.normalizedOutput
  let recoveryOutput ← readFile env reader recovery.normalizedOutput
  let baselineCache ← readFile env reader baseline.cacheNamespace
  let candidateCache ← readFile env reader candidate.cacheNamespace
  let recoveryCache ← readFile env reader recovery.cacheNamespace
  if ¬PhaseRelationsAreSafe artifact artifactManifest.contentHash baselineSource candidateSource
      ⟨baseline, baselineEntries, baselineObservation, baselineOutput, baselineCache⟩
      ⟨candidate, candidateEntries, candidateObservation, candidateOutput, candidateCache⟩
      ⟨recovery, recoveryEntries, recoveryObservation, recoveryOutput, recoveryCache⟩ then
    return .none
  else
    match activation with
    | .none => return .none
    | .runtimeHotPatch _ => return runtimeCapability baseline candidate recovery
    | .startupOverlay _ mount =>
        overlayCapability env mount artifactManifest candidateObservation baseline candidate
          recovery

/-- `classify_hotpatch`. -/
def classifyHotpatch (evidence : HotpatchEvidenceV2) (target : TargetSpec) :
    Except ReadError HotPatchCapability :=
  match evidence.activation.files? with
  | none => return .none
  | some files => do
      let baselineSource ← readContract env reader documents.sourceSnapshot
        "hotpatch_baseline_source_invalid" files.baselineSource
      let candidateSource ← readContract env reader documents.sourceSnapshot
        "hotpatch_candidate_source_invalid" files.candidateSource
      let artifactManifest ← readContract env reader documents.artifactManifest
        "hotpatch_artifact_manifest_invalid" files.artifactManifest
      let artifact ← readFile env reader files.artifact
      let baseline ← readHotpatchPhase env reader documents files.baselineState
      let candidate ← readHotpatchPhase env reader documents files.candidateState
      let recovery ← readHotpatchPhase env reader documents files.recoveryState
      if [baseline.phase, candidate.phase, recovery.phase] ≠
          [.baseline, .candidate, .recovery] then return .none
      else do
        if (← validSourceAndArtifactChain env baselineSource candidateSource artifactManifest
            files.artifact artifact target) = false then return .none
        else do
          if (← validPhases env reader documents evidence target
              [baseline, candidate, recovery] 0) = false then return .none
          else
            classifyPhases env reader documents evidence.activation artifact artifactManifest
              baselineSource candidateSource baseline candidate recovery

end Reading

end Hotpatch

end HcuAutoOpt
