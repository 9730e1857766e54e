import HcuAutoOpt.Domain.Transitions
import HcuAutoOpt.Domain.SearchRounds
import HcuAutoOpt.Domain.FormalRounds
import HcuAutoOpt.Domain.FormalStarts

/-!
# The tables of the control plane

One structure for each table of `storage/sql`, with the columns that the modelled
operations read or return, and `Store`, the tables together. A primary key is the
`Keyed` instance of its row type, so `Foundation.Table` keeps it unique.

Times are microseconds. The `updated_at` columns and the event tables are
written and never read by the operations modelled here, and are left out.
-/

set_option autoImplicit false

namespace HcuAutoOpt

open Foundation

/-- A point in time, in microseconds. -/
abbrev Timestamp := Int

/-- A number of seconds as a difference of times. -/
def seconds (n : Int) : Int := n * 1000000

/-! ## Workflow rows -/

/-- A row of `tasks`. -/
structure Task where
  taskId : Uuid
  workflowType : WorkflowType
  state : TaskState
  version : Nat := 1
  workloadId : String := ""
  idempotencyKey : String := ""
  targetId : Option String := none
  targetSnapshotId : Option Uuid := none
  adapterProfile : Option String := none
  stage0RunId : Option Uuid := none
  stage0Authority : Option String := none
  projectMode : Option ProjectMode := none
  roundBudget : Option RoundBudget := none
  automaticReleaseAllowed : Bool := false
  deriving DecidableEq, Repr

instance : Keyed Task Uuid := ⟨Task.taskId⟩

/-- A row of `candidates`. -/
structure Candidate where
  candidateId : Uuid
  taskId : Uuid
  roundId : Uuid
  baselineEpochId : Uuid := 0
  sourceHash : String := ""
  state : CandidateState
  ordinal : Nat := 0
  candidateKind : Option ManualCandidateKind := none
  optimizationIntent : Option String := none
  replacementPoint : Option String := none
  idempotencyKey : Option String := none
  hotspotId : Option Uuid := none
  deriving DecidableEq, Repr

instance : Keyed Candidate Uuid := ⟨Candidate.candidateId⟩

/-- A row of `target_snapshots`. -/
structure TargetSnapshot where
  targetSnapshotId : Uuid
  targetId : String
  deriving DecidableEq, Repr

instance : Keyed TargetSnapshot Uuid := ⟨TargetSnapshot.targetSnapshotId⟩

/-- A row of `source_snapshots`. -/
structure SourceSnapshot where
  snapshotId : Uuid
  sourceHash : String
  deriving DecidableEq, Repr

instance : Keyed SourceSnapshot Uuid := ⟨SourceSnapshot.snapshotId⟩

/-- A row of `baseline_epochs`. -/
structure BaselineEpoch where
  baselineEpochId : Uuid
  sourceSnapshotId : Option Uuid
  targetSnapshotId : Option Uuid
  stage0RunId : Option Uuid
  stage0ProtocolHash : Option String
  workloadId : String
  workloadHash : Option String
  configurationHash : String
  imageDigest : String
  adapterProfile : Option String
  deriving DecidableEq, Repr

instance : Keyed BaselineEpoch Uuid := ⟨BaselineEpoch.baselineEpochId⟩

/-- A row of `hotspots`. -/
structure Hotspot where
  hotspotId : Uuid
  baselineEpochId : Uuid
  candidateKind : ManualCandidateKind
  evidence : Json.Object
  deriving DecidableEq

instance : Keyed Hotspot Uuid := ⟨Hotspot.hotspotId⟩

/-- A row of `artifacts`. -/
structure Artifact where
  artifactId : Uuid
  taskId : Uuid
  candidateId : Uuid
  contentHash : String
  synthetic : Bool := false
  deriving DecidableEq, Repr

instance : Keyed Artifact Uuid := ⟨Artifact.artifactId⟩

/-- A row of `stage0_runs`. -/
structure Stage0Run where
  stage0RunId : Uuid
  taskId : Uuid
  mode : Stage0RunMode := .formal
  state : Stage0RunState
  targetSnapshotId : Uuid := 0
  deriving DecidableEq, Repr

instance : Keyed Stage0Run Uuid := ⟨Stage0Run.stage0RunId⟩

/-- The states of an endpoint validation run. -/
inductive EndpointRunState where
  | queued | running | provisionalPassed | failed
  deriving DecidableEq, Repr

/-- A row of `endpoint_validation_runs`. -/
structure EndpointValidationRun where
  endpointRunId : Uuid
  taskId : Uuid
  jobId : Uuid
  state : EndpointRunState
  failureError : Option Json := none
  cleanupEvidence : Option Json.Object := none
  deriving DecidableEq

instance : Keyed EndpointValidationRun Uuid := ⟨EndpointValidationRun.endpointRunId⟩

/-- The states of an endpoint validation campaign. -/
inductive EndpointCampaignState where
  | awaitingAdjudication | adjudicating | awaitingSignoff | invalid | adjudicationFailed
  | completed | rejected
  deriving DecidableEq, Repr

/-- A row of `endpoint_validation_campaigns`. -/
structure EndpointValidationCampaign where
  campaignId : Uuid
  signedM1TaskId : Uuid
  adjudicationJobId : Option Uuid
  state : EndpointCampaignState
  deriving DecidableEq, Repr

instance : Keyed EndpointValidationCampaign Uuid := ⟨EndpointValidationCampaign.campaignId⟩

/-! ## Search round rows -/

/-- A row of `round_barriers`, by its payload: the decision of the search barrier, or the
result of the holdout barrier. -/
inductive RoundBarrierRow where
  | search (decision : SearchBarrierDecision)
  | holdout (result : RoundBarrierResult)
  deriving DecidableEq, Repr

namespace RoundBarrierRow

/-- The barrier of the row. -/
def barrier : RoundBarrierRow → RoundBarrierResult
  | .search decision => decision.barrier
  | .holdout result => result

/-- The `phase` column. -/
def phase : RoundBarrierRow → RoundPhase
  | .search _ => .search
  | .holdout _ => .holdout

end RoundBarrierRow

/-- A round has at most one barrier of each phase. -/
instance : Keyed RoundBarrierRow (Uuid × RoundPhase) :=
  ⟨fun row => (row.barrier.roundId, row.phase)⟩

/-- A round has at most one row of `round_holdout_reveals`. -/
instance : Keyed HoldoutRevealResult Uuid := ⟨HoldoutRevealResult.roundId⟩

/-- A round has at most one row of `multiple_comparison_results`. -/
instance : Keyed MultipleComparisonResult Uuid := ⟨MultipleComparisonResult.roundId⟩

/-- A round has at most one row of `round_evidence_bundles`. -/
instance : Keyed RoundEvidenceBundle Uuid := ⟨RoundEvidenceBundle.roundId⟩

/-! ## Queue rows -/

/-- A row of `workers`. -/
structure Worker where
  workerId : String
  workerType : WorkerType
  adapterProfile : Option String := none
  capabilities : Json.Object := []
  deriving DecidableEq

instance : Keyed Worker String := ⟨Worker.workerId⟩

/-- A row of `resources`. -/
structure Resource where
  resourceId : String
  state : LeaseState := .available
  ownerJobId : Option Uuid := none
  leaseId : Option Uuid := none
  fencingToken : Int := 0
  expiresAt : Option Timestamp := none
  cleanupEvidence : Option Json.Object := none
  deriving DecidableEq

instance : Keyed Resource String := ⟨Resource.resourceId⟩

/-- A row of `jobs`. -/
structure Job where
  jobId : Uuid
  taskId : Uuid
  jobType : JobType
  acceptedWorkerType : WorkerType
  adapterProfile : Option String := none
  leaseScope : LeaseScope := .none
  payload : Json.Object
  idempotencyKey : String
  priority : Int := 0
  state : JobState := .queued
  availableAt : Timestamp
  claimedBy : Option String := none
  claimToken : Option Uuid := none
  claimedAt : Option Timestamp := none
  heartbeatAt : Option Timestamp := none
  leaseId : Option Uuid := none
  resourceId : Option String := none
  fencingToken : Option Int := none
  attempts : Nat := 0
  maxAttempts : Nat := 3
  result : Option Json.Object := none
  lastError : Option Json := none
  workflowAdvancedAt : Option Timestamp := none
  finishedAt : Option Timestamp := none
  createdAt : Timestamp
  deriving DecidableEq

instance : Keyed Job Uuid := ⟨Job.jobId⟩

/-! ## The store -/

/-- The tables together. -/
structure Store where
  tasks : Table Task := ∅
  targetSnapshots : Table TargetSnapshot := ∅
  sourceSnapshots : Table SourceSnapshot := ∅
  baselineEpochs : Table BaselineEpoch := ∅
  hotspots : Table Hotspot := ∅
  candidates : Table Candidate := ∅
  artifacts : Table Artifact := ∅
  stage0Runs : Table Stage0Run := ∅
  endpointRuns : Table EndpointValidationRun := ∅
  endpointCampaigns : Table EndpointValidationCampaign := ∅
  searchRounds : Table SearchRound := ∅
  roundCandidates : Table RoundCandidate := ∅
  budgetReservations : Table RoundBudgetReservation := ∅
  budgetLedger : Table RoundBudgetLedgerEntry := ∅
  roundBarriers : Table RoundBarrierRow := ∅
  holdoutReveals : Table HoldoutRevealResult := ∅
  multipleComparisons : Table MultipleComparisonResult := ∅
  roundEvidenceBundles : Table RoundEvidenceBundle := ∅
  formal : FormalTables := {}
  formalStarts : FormalStartTables := {}
  workers : Table Worker := ∅
  resources : Table Resource := ∅
  jobs : Table Job := ∅
  deriving DecidableEq

@[simp] theorem key_task (row : Task) : key row = row.taskId := rfl

@[simp] theorem key_candidate (row : Candidate) : key row = row.candidateId := rfl

@[simp] theorem key_stage0Run (row : Stage0Run) : key row = row.stage0RunId := rfl

@[simp] theorem key_endpointRun (row : EndpointValidationRun) :
    key row = row.endpointRunId := rfl

@[simp] theorem key_endpointCampaign (row : EndpointValidationCampaign) :
    key row = row.campaignId := rfl

@[simp] theorem key_searchRound (row : SearchRound) : key row = row.roundId := rfl

@[simp] theorem key_budgetReservation (row : RoundBudgetReservation) :
    key row = row.reservationId := rfl

@[simp] theorem key_roundCandidate (row : RoundCandidate) : key row = row.roundCandidateId := rfl

@[simp] theorem key_roundBarrier (row : RoundBarrierRow) :
    key row = (row.barrier.roundId, row.phase) := rfl

@[simp] theorem key_holdoutReveal (row : HoldoutRevealResult) : key row = row.roundId := rfl

@[simp] theorem key_multipleComparison (row : MultipleComparisonResult) :
    key row = row.roundId := rfl

@[simp] theorem key_roundEvidenceBundle (row : RoundEvidenceBundle) :
    key row = row.roundId := rfl

@[simp] theorem key_worker (row : Worker) : key row = row.workerId := rfl

@[simp] theorem key_resource (row : Resource) : key row = row.resourceId := rfl

@[simp] theorem key_job (row : Job) : key row = row.jobId := rfl

/-- A lookup that raises `NotFound`. -/
def requireRow {α : Type} (found : Option α) (message : String) : Except Error α :=
  match found with
  | some row => .ok row
  | none => .error (.notFound message)

@[simp] theorem requireRow_eq_ok {α : Type} {found : Option α} {message : String} {row : α} :
    requireRow found message = .ok row ↔ found = some row := by
  cases found <;> simp [requireRow]

/-- What the database driver makes of a JSON value passed as a statement
parameter. -/
structure Driver where
  /-- The identifier a value denotes in a comparison with a `UUID` column; a value
  that cannot be adapted or cast raises. -/
  sqlUuid : Json → Option Uuid
  /-- The text a value that is not a string is stored as in a `TEXT` column. -/
  sqlText : Json → Option String

/-- A driver that adapts every value by its text. -/
def textDriver : Driver where
  sqlUuid raw := Uuid.parse raw.text
  sqlText raw := some raw.text

end HcuAutoOpt
