import HcuAutoOpt.Evaluation.RoundBarriers
import HcuAutoOpt.Storage.FailureConvergence

/-!
# Intake and build of search rounds

The first operations of a search round in `storage/repository.py`:
`create_search_round`, `add_round_candidate`, `close_search_round_intake`,
`record_round_candidate_build` and `freeze_search_round_artifact_family`. Each looks
for what it would write before it checks whether the round accepts it, so that a
repetition is answered with the row that is already there.

Requests are the validated models of `contracts/m2.py`; an operation is used with a
request that meets its `Valid` predicate.
-/

set_option autoImplicit false

namespace HcuAutoOpt

open Foundation

/-- The round of an operation. -/
def Store.requireRound (s : Store) (roundId : Uuid) : Except Error SearchRound :=
  requireRow (s.searchRounds.find? roundId) s!"M2a SearchRound not found: {roundId.text}"

theorem Store.requireRound_eq_ok {s : Store} {roundId : Uuid} {round : SearchRound} :
    s.requireRound roundId = .ok round ↔ s.searchRounds.find? roundId = some round :=
  requireRow_eq_ok

/-- The members of a round. -/
def Store.membersOf (s : Store) (roundId : Uuid) : List RoundCandidate :=
  s.roundCandidates.rows.filter fun member => decide (member.roundId = roundId)

/-! ## Creation -/

/-- The rows that a round is created under the authority of. -/
structure RoundAuthority where
  run : Stage0Run
  stage0Task : Task
  snapshot : TargetSnapshot
  baseline : BaselineEpoch
  hotspot : Hotspot

/-- The join of the authority rows of a request. -/
def Store.roundAuthority (s : Store) (request : RoundCreation) : Option RoundAuthority := do
  let run ← s.stage0Runs.find? request.stage0RunId
  let stage0Task ← s.tasks.find? run.taskId
  let snapshot ← s.targetSnapshots.find? run.targetSnapshotId
  let baseline ← s.baselineEpochs.find? request.baselineEpochId
  let hotspot ← s.hotspots.find? request.hotspotId
  return { run, stage0Task, snapshot, baseline, hotspot }

/-- The authority rows carry the bindings of the request. -/
def RoundAuthority.Binds (authority : RoundAuthority) (request : RoundCreation) : Prop :=
  authority.run.mode = .dryRun ∧ authority.run.state = .finalized ∧
  authority.stage0Task.stage0Authority = some "synthetic" ∧
  authority.run.targetSnapshotId = request.targetSnapshotId ∧
  authority.baseline.targetSnapshotId = some request.targetSnapshotId ∧
  authority.baseline.stage0RunId = some request.stage0RunId ∧
  authority.baseline.stage0ProtocolHash = some request.stage0ProtocolHash ∧
  authority.baseline.workloadId = request.workloadId ∧
  authority.baseline.workloadHash = some request.workloadHash ∧
  authority.baseline.configurationHash = request.configurationHash ∧
  authority.baseline.imageDigest = request.imageDigest ∧
  authority.baseline.adapterProfile = some request.adapterProfile ∧
  authority.hotspot.baselineEpochId = request.baselineEpochId ∧
  authority.hotspot.candidateKind = .fixture ∧
  authority.hotspot.evidence.get? "replacement_point" = some (.str request.replacementPoint)

instance (authority : RoundAuthority) (request : RoundCreation) :
    Decidable (authority.Binds request) := by
  unfold RoundAuthority.Binds
  infer_instance

/-- A new round carries nothing that a later operation freezes. -/
def SearchRound.Unfrozen (request : SearchRound) : Prop :=
  request.state = .intakeOpen ∧ request.version = 1 ∧ request.candidateFamilyHash = none ∧
  request.artifactFamilyHash = none ∧ request.holdoutFamilyHash = none ∧
  request.holdoutPlanHash = none ∧ request.intakeClosedAt = none

instance (request : SearchRound) : Decidable request.Unfrozen := by
  unfold SearchRound.Unfrozen
  infer_instance

/-- The task of a new round. -/
def RoundCreation.task (request : RoundCreation) (targetId : String) : Task where
  taskId := request.taskId
  workflowType := .searchRound
  state := .created
  workloadId := request.workloadId
  idempotencyKey := request.idempotencyKey
  targetId := some targetId
  targetSnapshotId := some request.targetSnapshotId
  adapterProfile := some request.adapterProfile
  stage0RunId := some request.stage0RunId
  stage0Authority := some "synthetic"
  projectMode := none
  roundBudget := some request.budget
  automaticReleaseAllowed := false

/-- The task was created from the same inputs; its state and version may have moved on. -/
def Task.SameInputs (task expected : Task) : Prop :=
  { task with state := expected.state, version := expected.version } = expected

instance (task expected : Task) : Decidable (task.SameInputs expected) := by
  unfold Task.SameInputs
  infer_instance

/-- The task has the identifier or the key of the request. -/
def RoundCreation.selectsTask (request : RoundCreation) (task : Task) : Bool :=
  decide (task.taskId = request.taskId ∨ task.idempotencyKey = request.idempotencyKey)

/-- The round has the identifier or the key of the request. -/
def RoundCreation.selectsRound (request : RoundCreation) (round : SearchRound) : Bool :=
  decide (round.roundId = request.roundId ∨ round.idempotencyKey = request.idempotencyKey)

/-- The states that end a round. -/
def SearchRoundState.isTerminal (state : SearchRoundState) : Bool :=
  decide (state ∈ [SearchRoundState.scriptedCompleted, .completed, .rejected, .cancelled])

/-- The unique indexes of `search_rounds`. -/
def RoundCreation.clashesRound (request : RoundCreation) (round : SearchRound) : Bool :=
  request.selectsRound round ||
    (decide (round.taskId = request.taskId) && !round.state.isTerminal)

/-- `create_search_round`. -/
def createSearchRound (request : SearchRound) : Transaction Store Error SearchRound :=
  fun s => do
    require (request.runMode = .scripted) (.conflict "M2a Formal Round creation is not approved")
    require request.Unfrozen
      (.conflict "new M2a Round must be an unfrozen intake_open authority")
    let authority ← requireRow (s.roundAuthority request.toRoundCreation)
      "M2a Scripted Stage 0, Baseline, or Hotspot authority not found"
    require (authority.Binds request.toRoundCreation)
      (.conflict "M2a Scripted Round authority bindings do not match")
    let task ← requireSome
      (s.tasks.insertedOr (request.task authority.snapshot.targetId) request.selectsTask
        request.selectsTask)
      (.conflict "M2a task identity conflict could not be resolved")
    require (task.SameInputs (request.task authority.snapshot.targetId))
      (.conflict "M2a Round idempotency_key was reused with different task inputs")
    let round ← requireSome
      (s.searchRounds.insertedOr request request.clashesRound request.selectsRound)
      (.conflict "M2a Round identity conflict could not be resolved")
    require (round.toRoundCreation = request.toRoundCreation)
      (.conflict "M2a Round idempotency_key was reused with different inputs")
    return ({ s with
      tasks := s.tasks.insertUnless (request.task authority.snapshot.targetId) request.selectsTask
      searchRounds := s.searchRounds.insertUnless request request.clashesRound }, round)

/-! ## Intake -/

/-- The unique indexes of `round_candidates`. -/
def RoundCandidate.clashes (request member : RoundCandidate) : Bool :=
  decide (member.roundCandidateId = request.roundCandidateId ∨
    member.idempotencyKey = request.idempotencyKey ∨
    member.roundId = request.roundId ∧ (member.candidateId = request.candidateId ∨
      member.ordinal = request.ordinal ∨
      member.candidateSourceHash = request.candidateSourceHash ∨
      member.sourcePackageHash = request.sourcePackageHash ∨
      member.sourceManifestHash = request.sourceManifestHash))

/-- The generic candidate of a new member. -/
def RoundCandidate.candidate (request : RoundCandidate) (round : SearchRound) : Candidate where
  candidateId := request.candidateId
  taskId := round.taskId
  roundId := request.roundId
  baselineEpochId := round.baselineEpochId
  sourceHash := request.candidateSourceHash
  state := .proposed
  ordinal := request.ordinal
  candidateKind := some request.candidateKind
  optimizationIntent := some request.optimizationIntent
  replacementPoint := some request.replacementPoint
  idempotencyKey := some request.idempotencyKey
  hotspotId := some round.hotspotId

/-- The candidate has the identifier or the key of the new one. -/
def Candidate.selects (expected candidate : Candidate) : Bool :=
  decide (candidate.candidateId = expected.candidateId ∨
    candidate.idempotencyKey = expected.idempotencyKey)

/-- The unique indexes of `candidates`. -/
def Candidate.clashes (expected candidate : Candidate) : Bool :=
  expected.selects candidate || decide (candidate.taskId = expected.taskId ∧
    (candidate.roundId = expected.roundId ∧ candidate.ordinal = expected.ordinal ∨
      candidate.sourceHash = expected.sourceHash))

/-- The source hash of the baseline of a round. -/
def Store.baselineSourceHash (s : Store) (baselineEpochId : Uuid) : Option String := do
  let baseline ← s.baselineEpochs.find? baselineEpochId
  let sourceSnapshotId ← baseline.sourceSnapshotId
  let source ← s.sourceSnapshots.find? sourceSnapshotId
  return source.sourceHash

/-- The registration of a member that is not there yet. -/
def registerMember (request : RoundCandidate) (round : SearchRound) :
    Transaction Store Error RoundCandidate :=
  fun s => do
    require (round.state = .intakeOpen) (.conflict "M2a Candidate intake is closed")
    require (request.ordinal < round.declaredCandidateCount)
      (.conflict "M2a Candidate ordinal exceeds the declared family")
    require (request.replacementPoint = round.replacementPoint ∧ request.candidateKind = .fixture)
      (.conflict "M2a Scripted Candidate does not match its Round bindings")
    require (s.baselineSourceHash round.baselineEpochId = some request.baselineSourceHash)
      (.conflict "M2a Candidate Baseline source binding does not match")
    let candidate ← requireSome
      (s.candidates.insertedOr (request.candidate round) (request.candidate round).clashes
        (request.candidate round).selects)
      (.conflict "M2a generic Candidate identity conflict could not be resolved")
    require ({ candidate with state := .proposed } = request.candidate round)
      (.conflict "M2a generic Candidate identity belongs to different inputs")
    let member ← requireSome
      (s.roundCandidates.insertedOr request request.clashes fun _ => false)
      (.conflict "M2a Candidate unique identity conflicts with another member")
    return ({ s with
      candidates := s.candidates.insertUnless (request.candidate round)
        (request.candidate round).clashes
      roundCandidates := s.roundCandidates.insertUnless request request.clashes }, member)

/-- `add_round_candidate`. -/
def addRoundCandidate (request : RoundCandidate) : Transaction Store Error RoundCandidate :=
  fun s => do
    require (request.state = .intakeAccepted ∧ request.artifactId = none ∧
        request.terminalFailureCode = none)
      (.conflict "M2a intake accepts only unfrozen intake_accepted Candidates")
    let round ← s.requireRound request.roundId
    match s.roundCandidates.rows.find? request.clashes with
    | some existing => do
        require (existing.toRoundCandidateIdentity = request.toRoundCandidateIdentity)
          (.conflict "M2a Candidate identity was reused with different inputs")
        return (s, existing)
    | none => registerMember request round s

/-- The round with its intake closed. -/
def SearchRound.closeIntake (now : Timestamp) (familyHash : String) (round : SearchRound) :
    SearchRound :=
  { round with
    state := .intakeClosed
    candidateFamilyHash := some familyHash
    intakeClosedAt := some now
    version := round.version + 1 }

instance (now : Timestamp) (familyHash : String) :
    KeepsKey (SearchRound.closeIntake now familyHash) := ⟨fun _ => rfl⟩

/-- `close_search_round_intake`. -/
def closeSearchRoundIntake (env : RoundEnv) (now : Timestamp) (roundId : Uuid) :
    Transaction Store Error SearchRound :=
  fun s => do
    let round ← s.requireRound roundId
    require ((s.membersOf roundId).length = round.declaredCandidateCount)
      (.conflict "M2a Intake Close requires the declared Candidate count")
    require (∀ member ∈ s.membersOf roundId, member.state = .intakeAccepted)
      (.conflict "M2a Intake Close requires all Candidates intake_accepted")
    if round.state ≠ .intakeOpen then
      require (round.candidateFamilyHash =
          some (candidateFamilyHash env round (s.membersOf roundId)) ∧
          round.intakeClosedAt ≠ none)
        (.conflict "M2a Candidate Intake is already closed with different inputs")
      return (s, round)
    else
      let familyHash := candidateFamilyHash env round (s.membersOf roundId)
      return ({ s with
        searchRounds := s.searchRounds.update roundId (SearchRound.closeIntake now familyHash) },
        round.closeIntake now familyHash)

/-! ## Build -/

/-- The member with its build terminal. -/
def RoundCandidate.terminate (terminal : BuildTerminal) (member : RoundCandidate) :
    RoundCandidate :=
  { member with toBuildTerminal := terminal }

instance (terminal : BuildTerminal) : KeepsKey (RoundCandidate.terminate terminal) :=
  ⟨fun _ => rfl⟩

/-- The round with its build begun. -/
def SearchRound.startBuilding (round : SearchRound) : SearchRound :=
  { round with state := .building, version := round.version + 1 }

instance : KeepsKey SearchRound.startBuilding := ⟨fun _ => rfl⟩

/-- The state of the generic candidate of a built or failed member. -/
def BuildTerminal.candidateState (terminal : BuildTerminal) : CandidateState :=
  if terminal.state = .built then .built else .buildFailed

/-- The artifact of a build terminal is a synthetic artifact of the member. -/
def Store.HasSyntheticArtifact (s : Store) (round : SearchRound) (candidateId : Uuid)
    (terminal : BuildTerminal) : Prop :=
  match terminal.artifactId with
  | none => True
  | some artifactId => ∃ artifact ∈ s.artifacts.find? artifactId,
      artifact.candidateId = candidateId ∧ artifact.taskId = round.taskId ∧
        some artifact.contentHash = terminal.artifactHash ∧ artifact.synthetic = true

instance (s : Store) (round : SearchRound) (candidateId : Uuid) (terminal : BuildTerminal) :
    Decidable (s.HasSyntheticArtifact round candidateId terminal) := by
  unfold Store.HasSyntheticArtifact
  split <;> infer_instance

/-- `record_round_candidate_build`. -/
def recordRoundCandidateBuild (request : RoundCandidateBuildTerminal) :
    Transaction Store Error RoundCandidate :=
  fun s => do
    let round ← s.requireRound request.roundId
    let member ← requireSome (s.roundCandidates.find? request.roundCandidateId)
      (.conflict "M2a Build terminal does not match one Round member")
    require (member.roundId = request.roundId ∧ member.candidateId = request.candidateId)
      (.conflict "M2a Build terminal does not match one Round member")
    if member.state ∈ buildTerminalStates then
      require (member.toBuildTerminal = request.terminal)
        (.conflict "M2a Candidate already has another Build terminal")
      return (s, member)
    else
      require (round.candidateFamilyHash ≠ none ∧ round.artifactFamilyHash = none ∧
          round.state ∈ [SearchRoundState.intakeClosed, .building])
        (.conflict "M2a Round is not accepting Build terminals")
      require (s.HasSyntheticArtifact round request.candidateId request.terminal)
        (.conflict "M2a Scripted Build terminal requires its synthetic Artifact")
      let s := setCandidateState request.candidateId request.terminal.candidateState s
      return ({ s with
        roundCandidates := s.roundCandidates.update request.roundCandidateId
          (RoundCandidate.terminate request.terminal)
        searchRounds := s.searchRounds.update request.roundId SearchRound.startBuilding },
        member.terminate request.terminal)

/-- The round with its artifact family frozen. -/
def SearchRound.freezeArtifacts (familyHash : String) (round : SearchRound) : SearchRound :=
  { round with
    state := .correctness
    artifactFamilyHash := some familyHash
    version := round.version + 1 }

instance (familyHash : String) : KeepsKey (SearchRound.freezeArtifacts familyHash) :=
  ⟨fun _ => rfl⟩

/-- A family that cannot be hashed is a conflict of the caller. -/
def familyOrConflict (family : Except Error String) : Except Error String :=
  match family with
  | .error (.valueError message) =>
      .error (.conflict s!"M2a Artifact Family is not ready: {message}")
  | other => other

@[simp] theorem familyOrConflict_eq_ok {family : Except Error String} {hash : String} :
    familyOrConflict family = .ok hash ↔ family = .ok hash := by
  unfold familyOrConflict
  split <;> simp

/-- `freeze_search_round_artifact_family`. -/
def freezeSearchRoundArtifactFamily (env : RoundEnv) (request : ArtifactFamilyFreezeRequest) :
    Transaction Store Error SearchRound :=
  fun s => do
    let round ← s.requireRound request.roundId
    require (round.candidateFamilyHash = some request.candidateFamilyHash)
      (.conflict "M2a Artifact Family changed its Candidate Family binding")
    let computed ← familyOrConflict (artifactFamilyHash env round (s.membersOf request.roundId))
    require (computed = request.expectedArtifactFamilyHash)
      (.conflict "M2a Artifact Family Hash does not match the frozen members")
    if round.artifactFamilyHash ≠ none then
      require (round.artifactFamilyHash = some computed)
        (.conflict "M2a Artifact Family is already frozen with other members")
      return (s, round)
    else
      require (round.state = .building)
        (.conflict "M2a Artifact Family requires a building Round")
      return ({ s with
        searchRounds := s.searchRounds.update request.roundId
          (SearchRound.freezeArtifacts computed) },
        round.freezeArtifacts computed)

end HcuAutoOpt
