import HcuAutoOpt.Foundation.CanonicalJson
import HcuAutoOpt.Foundation.Raising
import HcuAutoOpt.Storage.RoundAuthority

/-!
# The phase measurement runner

`M2PhaseMeasurementRunner` of `measurement/m2_runner.py`, with the models of
`measurement/m2_models.py` that it reads and builds. A run reserves the budget of one
phase of one member, lets the harness measure it, and settles the reservation with what
the measurement used.

What the harness, the fence callback, the clocks, the disk and the hash function answer
is an input of the run (`Surroundings`, `Host`), and the budget authority is any object with
the two calls of `M2RoundBudgetAuthority`. A run keeps the list of the calls it made.
-/

set_option autoImplicit false

namespace HcuAutoOpt

namespace M2Runner

open Foundation Foundation.Raising

/-! ## Values of a dictionary -/

/-- A mapping of arbitrary values: the fields that are JSON, and whether all are. -/
structure Evidence where
  fields : Json.Object
  encodable : Bool := true
  deriving DecidableEq

/-- `dict.get` of a field that is to hold a mapping. -/
def Evidence.mapping? (evidence : Evidence) (name : String) : Option Json.Object :=
  match evidence.fields.get? name with
  | some (.obj fields) => some fields
  | _ => none

/-- `fields.get(name) is True`. -/
def isTrue (fields : Json.Object) (name : String) : Bool :=
  decide (fields.get? name = some (.bool true))

/-- `fields.get(name) == value`. -/
def holds (fields : Json.Object) (name : String) (value : Json) : Bool :=
  match fields.get? name with
  | some held => held.alike value
  | none => false

/-! ## Exceptions -/

/-- `SHA256_PATTERN`. -/
def IsSha256 (text : String) : Prop :=
  text.toList.take 7 = "sha256:".toList ∧ text.length = 71 ∧
    IsHex (String.ofList (text.toList.drop 7))

instance (text : String) : Decidable (IsSha256 text) :=
  inferInstanceAs (Decidable (_ ∧ _ ∧ _))

/-- Sixty-four hexadecimal digits are the text of a digest. -/
theorem isSha256_hexText (digest : Nat) :
    IsSha256 ("sha256:" ++ String.ofList (hexText 64 digest)) := by
  have head : "sha256:".toList = ['s', 'h', 'a', '2', '5', '6', ':'] := by decide
  have digits : (String.ofList (hexText 64 digest)).toList = hexText 64 digest :=
    String.toList_ofList
  rw [IsSha256, ← String.length_toList, String.toList_append, head, digits]
  refine ⟨List.take_left' rfl, ?_, fun c member => ?_⟩
  · rw [List.length_append, length_hexText]
    rfl
  · have rest : (['s', 'h', 'a', '2', '5', '6', ':'] ++ hexText 64 digest).drop 7 =
        hexText 64 digest := List.drop_left' rfl
    rw [String.toList_ofList, rest] at member
    exact mem_hexText member

/-- `M2PhaseHarnessFailure`. -/
structure M2PhaseHarnessFailure where
  message : String
  errorCode : String
  actualSampleCount : Int := 0
  rawEvidenceUri : Option String := none
  rawEvidenceHash : Option String := none
  cleanupEvidence : Option Evidence := none
  telemetryWarnings : List String := []
  deriving DecidableEq

/-- A raised exception: the failure that a harness reports, or another by its type. -/
inductive Raised where
  | harnessFailure (failure : M2PhaseHarnessFailure)
  | other (typeName message : String)
  deriving DecidableEq

/-- `MeasurementSafetyError`. -/
def safety (message : String) : Raised := .other "MeasurementSafetyError" message

/-- A `ValidationError` of a model. -/
def invalid (model : String) : Raised := .other "ValidationError" model

/-- What reading a file may raise. -/
inductive FileError where
  | sourceIntegrity | fileNotFound | permission | os | value | runtime
  deriving DecidableEq, Repr

/-- The name of the exception type. -/
def FileError.typeName : FileError → String
  | .sourceIntegrity => "SourceIntegrityError"
  | .fileNotFound => "FileNotFoundError"
  | .permission => "PermissionError"
  | .os => "OSError"
  | .value => "ValueError"
  | .runtime => "RuntimeError"

/-! ## The request -/

/-- `M2PhaseBudgetReservationPlan`. -/
structure M2PhaseBudgetReservationPlan where
  roundId : Uuid
  roundCandidateId : Uuid
  candidateId : Uuid
  phase : RoundPhase
  phasePlanHash : String
  measurementPlanHash : String
  expectedSampleCount : Nat
  reservationId : Uuid
  jobId : Uuid
  attempt : Nat
  planned : BudgetUsage
  idempotencyKey : String
  deriving DecidableEq

/-- `bind_planned_phase_usage`, and the bounds of the numeric fields. -/
structure M2PhaseBudgetReservationPlan.Valid (plan : M2PhaseBudgetReservationPlan) : Prop where
  sampleCount : 1 ≤ plan.expectedSampleCount ∧ plan.expectedSampleCount ≤ 10000000
  attempt : 1 ≤ plan.attempt
  measurementOnly : plan.planned.candidates = 0 ∧ plan.planned.buildAttempts = 0 ∧
    plan.planned.correctnessAttempts = 0
  samples : match plan.phase with
    | .search => plan.planned.searchSamples = plan.expectedSampleCount ∧
        plan.planned.holdoutSamples = 0
    | .holdout => plan.planned.holdoutSamples = plan.expectedSampleCount ∧
        plan.planned.searchSamples = 0
  runtime : 0 < plan.planned.wallSeconds ∧ 0 < plan.planned.exclusiveLeaseSeconds

/-- `M2PhaseExecutionContext`. -/
structure M2PhaseExecutionContext where
  leaseId : Uuid
  resourceId : String
  fencingToken : Nat
  leaseAcquiredMonotonicNs : Nat
  jobStartedMonotonicNs : Nat
  tokenIssued : 1 ≤ fencingToken
  leaseBeforeJob : leaseAcquiredMonotonicNs ≤ jobStartedMonotonicNs

/-- `M2PhaseMeasurementRequest`. -/
structure M2PhaseMeasurementRequest where
  reservation : M2PhaseBudgetReservationPlan
  execution : M2PhaseExecutionContext
  holdoutRevealEvidenceHash : Option String := none
  harnessPayload : Json.Object := []
  valid : reservation.Valid
  revealOfHoldout : reservation.phase = .search ↔ holdoutRevealEvidenceHash = none

/-! ## What a measurement leaves -/

/-- The fields that `M2ScriptedHarnessResult` and `M2ScriptedPhaseEvidence` share. -/
structure ScriptedObservation where
  measurementId : Uuid
  measurementPlanHash : String
  sampleCount : Nat
  baselineSampleSetHash : String
  processIdentitySetHash : String
  cacheNamespaceSetHash : String
  cleanupEvidence : Evidence
  telemetryAttemptCount : Nat := 1
  telemetryWarnings : List String := []
  adapterProvenance : AdapterProvenance

/-- The validators that the two models share. -/
structure ScriptedObservation.Valid (observation : ScriptedObservation) : Prop where
  sampleCount : 1 ≤ observation.sampleCount ∧ observation.sampleCount ≤ 10000000
  attempts : 1 ≤ observation.telemetryAttemptCount ∧ observation.telemetryAttemptCount ≤ 3
  warningCount : observation.telemetryWarnings.length ≤ 16
  warnings : ∀ warning ∈ observation.telemetryWarnings, warning ≠ "" ∧ warning.length ≤ 2000
  fake : observation.adapterProvenance.capability = "measurement_harness" ∧
    observation.adapterProvenance.implementationKind = "fake"

/-- `M2ScriptedHarnessResult`. -/
structure M2ScriptedHarnessResult extends ScriptedObservation where
  rawEvidenceUri : String
  rawEvidenceHash : String
  valid : toScriptedObservation.Valid
  uriBounded : rawEvidenceUri ≠ "" ∧ rawEvidenceUri.length ≤ 4000
  hashPattern : IsSha256 rawEvidenceHash

/-- `M2ScriptedPhaseEvidence`. -/
structure M2ScriptedPhaseEvidence extends ScriptedObservation where
  roundId : Uuid
  roundCandidateId : Uuid
  candidateId : Uuid
  phase : RoundPhase
  phasePlanHash : String
  valid : toScriptedObservation.Valid

/-- `M2ScriptedPhaseReceipt`. -/
structure M2ScriptedPhaseReceipt where
  scriptedPhaseReceiptId : Uuid
  roundId : Uuid
  roundCandidateId : Uuid
  candidateId : Uuid
  phase : RoundPhase
  candidateFamilyHash : String
  artifactFamilyHash : String
  holdoutFamilyHash : Option String
  artifactId : Uuid
  artifactHash : String
  measurementId : Uuid
  rawEvidenceUri : String
  rawEvidenceHash : String
  measurementPlanHash : String
  phasePlanHash : String
  holdoutRevealEvidenceHash : Option String
  baselineSampleSetHash : String
  processIdentitySetHash : String
  cacheNamespaceSetHash : String
  leaseId : Uuid
  resourceId : String
  fencingToken : Nat
  deriving DecidableEq, Repr

/-- `require_phase_specific_bindings`. -/
def M2ScriptedPhaseReceipt.Bound (receipt : M2ScriptedPhaseReceipt) : Prop :=
  match receipt.phase with
  | .search => receipt.holdoutFamilyHash = none ∧ receipt.holdoutRevealEvidenceHash = none
  | .holdout => receipt.holdoutFamilyHash ≠ none ∧ receipt.holdoutRevealEvidenceHash ≠ none

instance (receipt : M2ScriptedPhaseReceipt) : Decidable receipt.Bound := by
  unfold M2ScriptedPhaseReceipt.Bound
  split <;> infer_instance

/-- The `status` of a usage record. -/
inductive UsageStatus where
  | notMeasured | failed | released
  deriving DecidableEq, Repr

/-- `M2PhaseUsageEvidence`. -/
structure M2PhaseUsageEvidence where
  roundId : Uuid
  candidateId : Uuid
  phase : RoundPhase
  reservationId : Uuid
  status : UsageStatus
  planned : BudgetUsage
  actual : BudgetUsage
  leaseHeldSeconds : NNRat
  harnessActiveSeconds : NNRat
  measurementId : Option Uuid := none
  rawEvidenceUri : Option String := none
  rawEvidenceHash : Option String := none
  cleanupEvidence : Option Evidence := none
  telemetryWarnings : List String := []
  errorCode : Option String := none
  deriving DecidableEq

namespace M2PhaseUsageEvidence

/-- The bounds of the fields. -/
def Bounded (usage : M2PhaseUsageEvidence) : Prop :=
  (∀ uri ∈ usage.rawEvidenceUri, uri.length ≤ 4000) ∧
  (∀ hash ∈ usage.rawEvidenceHash, IsSha256 hash) ∧
  usage.telemetryWarnings.length ≤ 16 ∧
  ∀ code ∈ usage.errorCode, 1 ≤ code.length ∧ code.length ≤ 200

instance (usage : M2PhaseUsageEvidence) : Decidable usage.Bounded :=
  inferInstanceAs (Decidable (_ ∧ _))

/-- `require_terminal_usage_shape`. -/
def TerminalShape (usage : M2PhaseUsageEvidence) : Prop :=
  usage.harnessActiveSeconds ≤ usage.leaseHeldSeconds ∧
  match usage.status with
  | .notMeasured => (usage.measurementId ≠ none ∧ usage.rawEvidenceUri ≠ none ∧
      usage.rawEvidenceHash ≠ none ∧ usage.cleanupEvidence ≠ none) ∧ usage.errorCode = none
  | .failed => usage.errorCode ≠ none
  | .released => usage.actual.isZero = true ∧ (usage.measurementId = none ∧
      usage.rawEvidenceUri = none ∧ usage.rawEvidenceHash = none ∧
      usage.cleanupEvidence = none) ∧
      usage.leaseHeldSeconds = 0 ∧ usage.harnessActiveSeconds = 0

instance (usage : M2PhaseUsageEvidence) : Decidable usage.TerminalShape := by
  unfold TerminalShape
  split <;> infer_instance

/-- The record has a JSON text: its one field of arbitrary values has. -/
def encodable (usage : M2PhaseUsageEvidence) : Bool :=
  usage.cleanupEvidence.all Evidence.encodable

end M2PhaseUsageEvidence

/-! ## Surroundings -/

/-- The library functions the runner calls. -/
structure Host where
  /-- `uuid5` in the URL namespace. -/
  uuid5 : String → Uuid
  /-- The nearest float of a quotient; none when it overflows. -/
  toFloat : NNRat → Option NNRat
  /-- The digest of the canonical JSON of a reservation. -/
  reservationHash : M2PhaseBudgetReservationPlan → String
  /-- The digest of the canonical JSON of a usage record. -/
  usageHash : M2PhaseUsageEvidence → String
  /-- `"sha256:" + sha256(..).hexdigest()`. -/
  sha256 : ByteArray → String

/-- What one run is answered from outside, in the order of its questions. -/
structure Surroundings where
  /-- The fence callback before the reservation. -/
  fenceBefore : Except Raised Bool
  /-- Placing the record of the reservation on the disk. -/
  storeReservation : Except Raised Unit
  /-- `utcnow` for the reserve entry. -/
  reservedAt : Int
  /-- The first reading of the monotonic clock. -/
  harnessStartedNs : Int
  /-- `run_manual_performance`, with the validation of what it returns. -/
  harness : Json.Object → Except Raised M2ScriptedHarnessResult
  /-- The second reading of the monotonic clock. -/
  harnessFinishedNs : Int
  /-- The third reading of the monotonic clock. -/
  finishedNs : Int
  /-- The fence callback after the harness. -/
  fenceAfter : Except Raised Bool
  /-- Reading the one regular file at a file URI. -/
  readEvidence : String → Except FileError ByteArray
  /-- `M2ScriptedPhaseEvidence.model_validate_json`. -/
  parseEvidence : ByteArray → Option M2ScriptedPhaseEvidence
  /-- Placing the usage record on the disk. -/
  storeUsage : Except Raised Unit
  /-- `utcnow` for the settle entry. -/
  settledAt : Int

/-- `RoundBudgetMutationResult`. -/
abbrev MutationResult : Type := RoundBudgetReservation × RoundBudgetLedgerEntry

/-- `M2RoundBudgetAuthority` with states `σ`. -/
structure BudgetAuthority (σ : Type) where
  reserve : RoundBudgetReservation → RoundBudgetLedgerEntry → Raising Raised σ MutationResult
  finalize : RoundBudgetLedgerEntry → Raising Raised σ MutationResult

/-- A call of the budget authority and whether it was accepted. -/
inductive AuthorityCall where
  | reserve (request : RoundBudgetReservation) (entry : RoundBudgetLedgerEntry) (accepted : Bool)
  | finalize (entry : RoundBudgetLedgerEntry) (accepted : Bool)
  deriving DecidableEq

/-- What a run changes: the budget authority, the receipts of the isolation registry, the
last first, and the calls made so far. -/
structure World (σ : Type) where
  authority : σ
  registry : List M2ScriptedPhaseReceipt
  issued : List AuthorityCall

/-- A world in which no call was made yet. -/
def World.start {σ : Type} (authority : σ) (registry : List M2ScriptedPhaseReceipt) : World σ :=
  ⟨authority, registry, []⟩

/-! ## Checks before the harness -/

/-- `_validate_authority`. -/
def validateAuthority (round : SearchRound) (member : RoundCandidate)
    (request : M2PhaseMeasurementRequest) : Except Raised Unit := do
  let plan := request.reservation
  let expectedRoundState :=
    if plan.phase = .search then SearchRoundState.searchMeasuring else .holdoutMeasuring
  let expectedCandidateState :=
    if plan.phase = .search then RoundCandidateState.correctnessPassed else .searchMeasured
  require (round.runMode = .scripted ∧ round.state = expectedRoundState ∧
      round.candidateFamilyHash ≠ none ∧ round.artifactFamilyHash ≠ none)
    (safety "M2 phase measurement requires a frozen Scripted Round in the expected state")
  require (member.roundId = round.roundId ∧ member.roundCandidateId = plan.roundCandidateId ∧
      member.candidateId = plan.candidateId ∧ member.state = expectedCandidateState ∧
      member.artifactId ≠ none ∧ member.artifactHash ≠ none)
    (safety "M2 phase measurement member is not the expected frozen Artifact terminal")
  require (plan.roundId = round.roundId) (safety "M2 phase plan belongs to another Round")
  match plan.phase with
  | .search =>
      require (plan.phasePlanHash = round.searchPlanHash ∧ round.holdoutPlanHash = none ∧
          round.holdoutFamilyHash = none)
        (safety "Search measurement requires the frozen Search Plan before Holdout reveal")
  | .holdout =>
      require (round.holdoutPlanHash ≠ none ∧ round.holdoutFamilyHash ≠ none ∧
          round.holdoutRevealEvidenceHash ≠ none ∧
          some plan.phasePlanHash = round.holdoutPlanHash ∧
          request.holdoutRevealEvidenceHash = round.holdoutRevealEvidenceHash ∧
          round.holdoutPlanHash ≠ some round.searchPlanHash)
        (safety "Holdout measurement requires a distinct revealed Plan and frozen Family")

/-- The value of a phase. -/
def phaseValue : RoundPhase → String
  | .search => "search"
  | .holdout => "holdout"

/-- A hash or `None`. -/
def hashValue : Option String → Json
  | some hash => .str hash
  | none => .null

/-- The fields of the harness payload that the caller may not choose. -/
def protectedPayload (round : SearchRound) (member : RoundCandidate)
    (request : M2PhaseMeasurementRequest) : Json.Object :=
  [("round_id", .str round.roundId.text),
    ("round_candidate_id", .str member.roundCandidateId.text),
    ("candidate_id", .str member.candidateId.text),
    ("phase", .str (phaseValue request.reservation.phase)),
    ("phase_plan_hash", .str request.reservation.phasePlanHash),
    ("measurement_plan_hash", .str request.reservation.measurementPlanHash),
    ("candidate_family_hash", hashValue round.candidateFamilyHash),
    ("artifact_family_hash", hashValue round.artifactFamilyHash),
    ("holdout_family_hash", hashValue round.holdoutFamilyHash),
    ("artifact_id", .str ((member.artifactId.map Uuid.text).getD "None")),
    ("artifact_hash", hashValue member.artifactHash),
    ("lease_id", .str request.execution.leaseId.text),
    ("resource_id", .str request.execution.resourceId),
    ("fencing_token", .int request.execution.fencingToken),
    ("expected_sample_count", .int request.reservation.expectedSampleCount),
    ("adapter_profile", .str round.adapterProfile),
    ("synthetic", .bool true),
    ("producer_verdict", .null)]

/-- `_harness_payload`. -/
def harnessPayload (round : SearchRound) (member : RoundCandidate)
    (request : M2PhaseMeasurementRequest) : Except Raised Json.Object :=
  (protectedPayload round member request).foldlM (fun payload field =>
    match payload.get? field.1 with
    | some held =>
        if held.alike field.2 then .ok (payload.set field.1 field.2)
        else .error (safety s!"M2 Harness payload attempted to override frozen {field.1}")
    | none => .ok (payload.set field.1 field.2)) request.harnessPayload

/-! ## Checks after the harness -/

/-- The evidence file holds what the result and the request say. -/
def MatchesEvidence (round : SearchRound) (member : RoundCandidate)
    (request : M2PhaseMeasurementRequest) (result : M2ScriptedHarnessResult)
    (evidence : M2ScriptedPhaseEvidence) : Prop :=
  evidence.roundId = round.roundId ∧ evidence.roundCandidateId = member.roundCandidateId ∧
  evidence.candidateId = member.candidateId ∧ evidence.phase = request.reservation.phase ∧
  evidence.phasePlanHash = request.reservation.phasePlanHash ∧
  evidence.measurementPlanHash = request.reservation.measurementPlanHash ∧
  evidence.measurementId = result.measurementId ∧ evidence.sampleCount = result.sampleCount ∧
  evidence.baselineSampleSetHash = result.baselineSampleSetHash ∧
  evidence.processIdentitySetHash = result.processIdentitySetHash ∧
  evidence.cacheNamespaceSetHash = result.cacheNamespaceSetHash ∧
  Json.alike (.obj evidence.cleanupEvidence.fields) (.obj result.cleanupEvidence.fields) = true ∧
  evidence.cleanupEvidence.encodable = result.cleanupEvidence.encodable ∧
  evidence.telemetryAttemptCount = result.telemetryAttemptCount ∧
  evidence.telemetryWarnings = result.telemetryWarnings ∧
  evidence.adapterProvenance = result.adapterProvenance

instance (round : SearchRound) (member : RoundCandidate) (request : M2PhaseMeasurementRequest)
    (result : M2ScriptedHarnessResult) (evidence : M2ScriptedPhaseEvidence) :
    Decidable (MatchesEvidence round member request result evidence) :=
  inferInstanceAs (Decidable (_ ∧ _))

/-- The cleanup evidence reports the lease fenced and the resource healthy. -/
def HealthyCleanup (request : M2PhaseMeasurementRequest) (cleanup : Evidence) : Prop :=
  (∃ fence ∈ cleanup.mapping? "fence", isTrue fence "fenced" = true ∧
      holds fence "resource_id" (.str request.execution.resourceId) = true ∧
      holds fence "fencing_token" (.int request.execution.fencingToken) = true) ∧
  ∃ health ∈ cleanup.mapping? "health", isTrue health "healthy" = true ∧
    holds health "resource_id" (.str request.execution.resourceId) = true

instance (request : M2PhaseMeasurementRequest) (cleanup : Evidence) :
    Decidable (HealthyCleanup request cleanup) :=
  inferInstanceAs (Decidable (_ ∧ _))

section

variable (host : Host) (surroundings : Surroundings)

/-- The bytes of the raw evidence file. -/
def Surroundings.readRaw (uri : String) : Except Raised ByteArray :=
  match surroundings.readEvidence uri with
  | .ok encoded => .ok encoded
  | .error e => .error (.other e.typeName uri)

/-- `_validate_harness_result`. -/
def validateHarnessResult (round : SearchRound) (member : RoundCandidate)
    (request : M2PhaseMeasurementRequest) (result : M2ScriptedHarnessResult) :
    Except Raised Unit := do
  require (result.adapterProvenance.profile = round.adapterProfile ∧
      result.measurementPlanHash = request.reservation.measurementPlanHash ∧
      result.sampleCount = request.reservation.expectedSampleCount ∧
      HealthyCleanup request result.cleanupEvidence ∧
      member.artifactId ≠ none ∧ member.artifactHash ≠ none)
    (safety "M2 Harness result is partial, mismatched, or lacks healthy cleanup")
  let encoded ← surroundings.readRaw result.rawEvidenceUri
  require (host.sha256 encoded = result.rawEvidenceHash)
    (safety "M2 Harness raw evidence Hash does not match")
  let evidence ← requireSome (surroundings.parseEvidence encoded)
    (invalid "M2ScriptedPhaseEvidence")
  require (MatchesEvidence round member request result evidence)
    (safety "M2 Harness raw evidence does not match its frozen Phase binding")

/-- `_scripted_receipt`. -/
def scriptedReceipt (round : SearchRound) (member : RoundCandidate)
    (request : M2PhaseMeasurementRequest) (result : M2ScriptedHarnessResult) :
    Except Raised M2ScriptedPhaseReceipt := do
  let candidateFamilyHash ← requireSome round.candidateFamilyHash (.other "AssertionError" "")
  let artifactFamilyHash ← requireSome round.artifactFamilyHash (.other "AssertionError" "")
  let artifactId ← requireSome member.artifactId (.other "AssertionError" "")
  let artifactHash ← requireSome member.artifactHash (.other "AssertionError" "")
  let receipt : M2ScriptedPhaseReceipt := {
    scriptedPhaseReceiptId := host.uuid5
      s!"hcuopt:m2-scripted-phase-receipt:{round.roundId.text}:{member.candidateId.text}:{
        phaseValue request.reservation.phase}:{result.measurementId.text}"
    roundId := round.roundId
    roundCandidateId := member.roundCandidateId
    candidateId := member.candidateId
    phase := request.reservation.phase
    candidateFamilyHash
    artifactFamilyHash
    holdoutFamilyHash :=
      if request.reservation.phase = .holdout then round.holdoutFamilyHash else none
    artifactId
    artifactHash
    measurementId := result.measurementId
    rawEvidenceUri := result.rawEvidenceUri
    rawEvidenceHash := result.rawEvidenceHash
    measurementPlanHash := result.measurementPlanHash
    phasePlanHash := request.reservation.phasePlanHash
    holdoutRevealEvidenceHash := request.holdoutRevealEvidenceHash
    baselineSampleSetHash := result.baselineSampleSetHash
    processIdentitySetHash := result.processIdentitySetHash
    cacheNamespaceSetHash := result.cacheNamespaceSetHash
    leaseId := request.execution.leaseId
    resourceId := request.execution.resourceId
    fencingToken := request.execution.fencingToken }
  require receipt.Bound (invalid "M2ScriptedPhaseReceipt")
  return receipt

/-- The first field of `_UNIQUE_FIELDS` whose value a committed receipt has. -/
def reusedField? (registry : List M2ScriptedPhaseReceipt) (receipt : M2ScriptedPhaseReceipt) :
    Option String :=
  ([("measurement_id", registry.any fun seen => seen.measurementId == receipt.measurementId),
    ("raw_evidence_uri", registry.any fun seen => seen.rawEvidenceUri == receipt.rawEvidenceUri),
    ("raw_evidence_hash",
      registry.any fun seen => seen.rawEvidenceHash == receipt.rawEvidenceHash),
    ("baseline_sample_set_hash",
      registry.any fun seen => seen.baselineSampleSetHash == receipt.baselineSampleSetHash),
    ("process_identity_set_hash",
      registry.any fun seen => seen.processIdentitySetHash == receipt.processIdentitySetHash),
    ("cache_namespace_set_hash",
      registry.any fun seen =>
        seen.cacheNamespaceSetHash == receipt.cacheNamespaceSetHash)].find? Prod.snd).map Prod.fst

/-- `M2PhaseIsolationRegistry.validate`. -/
def isolationValidate (registry : List M2ScriptedPhaseReceipt)
    (receipt : M2ScriptedPhaseReceipt) : Except Raised Unit :=
  match reusedField? registry receipt with
  | some field => .error (safety s!"M2 phase isolation rejected reused {field}")
  | none =>
      let otherPhase := if receipt.phase = .search then RoundPhase.holdout else .search
      let planned := registry.find? fun other =>
        decide (other.roundId = receipt.roundId ∧ other.phase = otherPhase)
      require (planned.map M2ScriptedPhaseReceipt.phasePlanHash ≠ some receipt.phasePlanHash)
        (safety "Search and Holdout cannot reuse one Phase Plan")

/-! ## Budget calls -/

/-- `_reserve_request`. -/
def reserveRequest (plan : M2PhaseBudgetReservationPlan) (evidenceHash : String) (now : Int) :
    RoundBudgetReservation × RoundBudgetLedgerEntry :=
  ({ reservationId := plan.reservationId
     roundId := plan.roundId
     jobId := plan.jobId
     attempt := plan.attempt
     candidateId := some plan.candidateId
     phase := some plan.phase
     planned := plan.planned
     state := .reserved
     idempotencyKey := s!"{plan.idempotencyKey}:reservation" },
   { ledgerEntryId := host.uuid5 s!"hcuopt:m2-budget:{plan.reservationId.text}:reserve"
     reservationId := plan.reservationId
     roundId := plan.roundId
     entryType := .reserve
     reserved := plan.planned
     actual := {}
     leaseHeldSeconds := 0
     harnessActiveSeconds := 0
     rawUsageEvidenceHash := evidenceHash
     idempotencyKey := s!"{plan.idempotencyKey}:reserve"
     createdAt := now })

/-- The value of an entry type. -/
def entryTypeValue : RoundBudgetEntryType → String
  | .reserve => "reserve"
  | .settle => "settle"
  | .release => "release"

/-- The identifier of a terminal entry. -/
def terminalId (plan : M2PhaseBudgetReservationPlan) (entryType : RoundBudgetEntryType) : Uuid :=
  host.uuid5 s!"hcuopt:m2-budget:{plan.reservationId.text}:{entryTypeValue entryType}"

/-- The idempotency key of a terminal entry. -/
def terminalKey (plan : M2PhaseBudgetReservationPlan) (entryType : RoundBudgetEntryType) :
    String :=
  s!"{plan.idempotencyKey}:{entryTypeValue entryType}"

/-- The entry that `_terminal_ledger` builds. -/
def terminalEntry (plan : M2PhaseBudgetReservationPlan) (entryType : RoundBudgetEntryType)
    (actual : BudgetUsage) (leaseHeldSeconds harnessActiveSeconds : NNRat)
    (rawUsageEvidenceHash : String) (now : Int) : RoundBudgetLedgerEntry where
  ledgerEntryId := terminalId host plan entryType
  reservationId := plan.reservationId
  roundId := plan.roundId
  entryType := entryType
  reserved := plan.planned
  actual := actual
  leaseHeldSeconds := leaseHeldSeconds
  harnessActiveSeconds := harnessActiveSeconds
  rawUsageEvidenceHash := rawUsageEvidenceHash
  idempotencyKey := terminalKey plan entryType
  createdAt := now

/-- `_terminal_ledger`, and the finalize request around it. -/
def terminalLedger (plan : M2PhaseBudgetReservationPlan) (entryType : RoundBudgetEntryType)
    (actual : BudgetUsage) (leaseHeldSeconds harnessActiveSeconds : NNRat)
    (rawUsageEvidenceHash : String) (now : Int) : Except Raised RoundBudgetLedgerEntry := do
  let entry := terminalEntry host plan entryType actual leaseHeldSeconds harnessActiveSeconds
    rawUsageEvidenceHash now
  require entry.Valid (invalid "RoundBudgetLedgerEntry")
  require (entry.entryType ∈ [RoundBudgetEntryType.settle, .release])
    (invalid "RoundBudgetFinalizeRequest")
  return entry

/-- `_actual_sample_count`. -/
def actualSampleCount (result : Option M2ScriptedHarnessResult) (failure : Option Raised) : Int :=
  match result, failure with
  | some result, _ => result.sampleCount
  | none, some (.harnessFailure failure) => failure.actualSampleCount
  | none, _ => 0

/-- `_seconds`. -/
def seconds (deltaNs : Int) : Except Raised NNRat := do
  require (0 ≤ deltaNs) (safety "M2 phase monotonic timestamps are not ordered")
  requireSome (host.toFloat ((deltaNs.toNat : NNRat) / 1000000000)) (.other "OverflowError" "")

/-- `_actual_usage`. -/
def actualUsage (phase : RoundPhase) (samples : Int) (wallSeconds leaseSeconds : NNRat) :
    Except Raised BudgetUsage := do
  require (0 ≤ samples) (invalid "BudgetUsage")
  return {
    searchSamples := if phase = .search then samples.toNat else 0
    holdoutSamples := if phase = .holdout then samples.toNat else 0
    wallSeconds := wallSeconds
    exclusiveLeaseSeconds := leaseSeconds }

/-- The record that `_usage_evidence` builds. -/
def usageRecord (request : M2PhaseMeasurementRequest) (result : Option M2ScriptedHarnessResult)
    (failure : Option Raised) (actual : BudgetUsage) (leaseSeconds harnessSeconds : NNRat) :
    M2PhaseUsageEvidence :=
  let reported : M2PhaseUsageEvidence := {
    roundId := request.reservation.roundId
    candidateId := request.reservation.candidateId
    phase := request.reservation.phase
    reservationId := request.reservation.reservationId
    status := if failure = none then .notMeasured else .failed
    planned := request.reservation.planned
    actual
    leaseHeldSeconds := leaseSeconds
    harnessActiveSeconds := harnessSeconds
    measurementId := result.map (·.measurementId)
    rawEvidenceUri := result.map (·.rawEvidenceUri)
    rawEvidenceHash := result.map (·.rawEvidenceHash)
    cleanupEvidence := result.map (·.cleanupEvidence)
    telemetryWarnings := (result.map (·.telemetryWarnings)).getD [] }
  match failure with
  | none => reported
  | some (.other typeName _) => { reported with errorCode := some typeName }
  | some (.harnessFailure failure) => { reported with
      errorCode := some failure.errorCode
      cleanupEvidence := failure.cleanupEvidence
      telemetryWarnings := failure.telemetryWarnings
      rawEvidenceUri := failure.rawEvidenceUri
      rawEvidenceHash := failure.rawEvidenceHash }

/-- `_usage_evidence`. -/
def usageEvidence (request : M2PhaseMeasurementRequest) (result : Option M2ScriptedHarnessResult)
    (failure : Option Raised) (actual : BudgetUsage) (leaseSeconds harnessSeconds : NNRat) :
    Except Raised M2PhaseUsageEvidence := do
  let usage := usageRecord request result failure actual leaseSeconds harnessSeconds
  require (usage.Bounded ∧ usage.TerminalShape) (invalid "M2PhaseUsageEvidence")
  return usage

/-! ## The run -/

/-- Code that changes nothing. -/
def lift {σ α : Type} (x : Except Raised α) : Raising Raised σ α := fun s => (x, s)

/-- A call of the budget authority, which the run keeps on its list. -/
def issue {σ : Type} (call : Raising Raised σ MutationResult) (record : Bool → AuthorityCall) :
    Raising Raised (World σ) MutationResult :=
  fun w =>
    let answer := call.run w.authority
    (answer.1, { w with
      authority := answer.2
      issued := w.issued ++ [record answer.1.isOk] })

/-- What the code between the two budget calls found out: the result, the failure and the
receipt, each if there is one. -/
structure Finding where
  result : Option M2ScriptedHarnessResult := none
  failure : Option Raised := none
  receipt : Option M2ScriptedPhaseReceipt := none

/-- The part of `run` up to the answer of `reserve`. -/
def reservePhase {σ : Type} (authority : BudgetAuthority σ) (round : SearchRound)
    (member : RoundCandidate) (request : M2PhaseMeasurementRequest) :
    Raising Raised (World σ) MutationResult := do
  lift (validateAuthority round member request)
  let live ← lift surroundings.fenceBefore
  raiseIf (live = false) (safety "M2 phase execution rejected a stale Fence")
  lift surroundings.storeReservation
  let reserve := reserveRequest host request.reservation
    (host.reservationHash request.reservation) surroundings.reservedAt
  issue (authority.reserve reserve.1 reserve.2) (.reserve reserve.1 reserve.2)

/-- The first `try` of `run`: the payload, the harness and the validation of its result. -/
def measure (round : SearchRound) (member : RoundCandidate) (request : M2PhaseMeasurementRequest) :
    Except Raised M2ScriptedHarnessResult := do
  let payload ← harnessPayload round member request
  surroundings.harness payload

/-- The other two `try` blocks of `run`. -/
def acceptResult (registry : List M2ScriptedPhaseReceipt) (round : SearchRound)
    (member : RoundCandidate) (request : M2PhaseMeasurementRequest)
    (result : M2ScriptedHarnessResult) : Except Raised M2ScriptedPhaseReceipt := do
  validateHarnessResult host surroundings round member request result
  let receipt ← scriptedReceipt host round member request result
  isolationValidate registry receipt
  return receipt

/-- The part of `run` between the two budget calls that collects the failure. Only the
fence callback is outside a `try`. -/
def observe (registry : List M2ScriptedPhaseReceipt) (round : SearchRound)
    (member : RoundCandidate) (request : M2PhaseMeasurementRequest) : Except Raised Finding :=
  match measure surroundings round member request with
  | .error raised => .ok { failure := some raised }
  | .ok result =>
      match surroundings.fenceAfter with
      | .error raised => .error raised
      | .ok false => .ok {
          result := some result
          failure :=
            some (safety "M2 phase Fence became stale before evidence finalization") }
      | .ok true =>
          match acceptResult host surroundings registry round member request result with
          | .error raised => .ok { result := some result, failure := some raised }
          | .ok receipt => .ok { result := some result, receipt := some receipt }

/-- The part of `run` that turns what was found into the terminal entry. -/
def settlement (request : M2PhaseMeasurementRequest) (finding : Finding) :
    Except Raised RoundBudgetLedgerEntry := do
  let context := request.execution
  let actualSamples := actualSampleCount finding.result finding.failure
  let harnessSeconds ← seconds host
    (surroundings.harnessFinishedNs - surroundings.harnessStartedNs)
  let leaseSeconds ← seconds host (surroundings.finishedNs - context.leaseAcquiredMonotonicNs)
  let wallSeconds ← seconds host (surroundings.finishedNs - context.jobStartedMonotonicNs)
  let actual ← actualUsage request.reservation.phase actualSamples wallSeconds leaseSeconds
  let usage ← usageEvidence request finding.result finding.failure actual leaseSeconds
    harnessSeconds
  require (usage.encodable = true) (.other "PydanticSerializationError" "")
  surroundings.storeUsage
  terminalLedger host request.reservation .settle actual leaseSeconds harnessSeconds
    (host.usageHash usage) surroundings.settledAt

/-- The end of `run`: the failure is raised again, or the receipt is committed. -/
def conclude {σ : Type} (finding : Finding) (reserved settled : MutationResult) :
    Raising Raised (World σ) (M2ScriptedPhaseReceipt × MutationResult × MutationResult) :=
  match finding.failure, finding.receipt with
  | some raised, _ => raise raised
  | none, none => raise (.other "AssertionError" "")
  | none, some receipt => do
      let w ← get
      lift (isolationValidate w.registry receipt)
      modify fun w => { w with registry := receipt :: w.registry }
      return (receipt, reserved, settled)

/-- `run`. -/
def run {σ : Type} (authority : BudgetAuthority σ) (round : SearchRound)
    (member : RoundCandidate) (request : M2PhaseMeasurementRequest) :
    Raising Raised (World σ) (M2ScriptedPhaseReceipt × MutationResult × MutationResult) := do
  let reserved ← reservePhase host surroundings authority round member request
  let w ← get
  let finding ← lift (observe host surroundings w.registry round member request)
  let entry ← lift (settlement host surroundings request finding)
  let settled ← issue (authority.finalize entry) (.finalize entry)
  conclude finding reserved settled

end

/-! ## The repository as the budget authority -/

/-- The exception of a repository error. -/
def raisedOf : Error → Raised
  | .contractError message => .other "ContractError" message
  | .invalidTransition message => .other "InvalidTransition" message
  | .staleFencingToken message => .other "StaleFencingToken" message
  | .notFound message => .other "NotFound" message
  | .conflict message => .other "Conflict" message
  | .staleClaimToken message => .other "StaleClaimToken" message
  | .evaluationError code => .other "EvaluationError" code
  | .valueError message => .other "ValueError" message
  | .keyError message => .other "KeyError" message
  | .typeError message => .other "TypeError" message
  | .overflowError message => .other "OverflowError" message
  | .validationError message => .other "ValidationError" message
  | .databaseError message => .other "DatabaseError" message

/-- A transaction of the repository as a call: it commits, or raises and rolls back. -/
def ofTransaction (op : Transaction Store Error MutationResult) :
    Raising Raised Store MutationResult :=
  fun s =>
    match op s with
    | .ok (t, reply) => (.ok reply, t)
    | .error e => (.error (raisedOf e), s)

/-- `reserve_round_budget` and `finalize_round_budget` behind the two calls. -/
def repositoryAuthority : BudgetAuthority Store where
  reserve request entry := ofTransaction (reserveRoundBudget request entry)
  finalize entry := ofTransaction (finalizeRoundBudget entry)

end M2Runner

end HcuAutoOpt
