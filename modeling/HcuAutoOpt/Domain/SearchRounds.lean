import HcuAutoOpt.Domain.Enums
import HcuAutoOpt.Foundation.KeyedTable
import HcuAutoOpt.Foundation.StoredJson
import HcuAutoOpt.Foundation.UuidText
import Mathlib.Algebra.BigOperators.Group.List.Basic
import Mathlib.Data.NNRat.Defs

/-!
# The contracts of a search round

The models of `contracts/m2.py`, `evaluation/m2_models.py` and
`evaluation/m2_statistics.py` that a scripted search round is run with: the round and
its members, the budget, the two barriers, the holdout reveal, the multiple comparison
and the evidence bundle. A `Valid` predicate is the model validator of its class.

Floating point numbers are rationals, and the arithmetic on them rounds. Where a model carries
parts that no operation of the repository looks into, they are one JSON value. A payload is stored
as a document; `ReadsBack` says that what the database gives back of it equals it.
-/

set_option autoImplicit false

namespace HcuAutoOpt

open Foundation

/-! ## The round -/

/-- `RoundBudget`. -/
structure RoundBudget where
  maxCandidates : Nat
  maxBuildAttempts : Nat
  maxCorrectnessAttempts : Nat
  maxSearchSamples : Nat
  maxHoldoutSamples : Nat
  maxWallSeconds : Nat
  maxExclusiveLeaseSeconds : Nat
  deriving DecidableEq, Repr

/-- The fields of a round that its creation fixes. -/
structure RoundCreation where
  roundId : Uuid
  taskId : Uuid
  idempotencyKey : String
  runMode : SearchRoundRunMode
  projectMode : Option ProjectMode := none
  targetSnapshotId : Uuid
  stage0RunId : Uuid
  stage0ProtocolHash : String
  baselineEpochId : Uuid
  hotspotId : Uuid
  replacementPoint : String
  workloadId : String
  workloadHash : String
  configurationHash : String
  imageDigest : String
  adapterProfile : String
  declaredCandidateCount : Nat
  maxPromoted : Nat
  familyAlpha : Rat
  searchPlanHash : String
  holdoutPlanCommitment : String
  holdoutPlanAuthorityId : String
  holdoutPlanAuthorityHash : String
  selectionRuleHash : String
  budget : RoundBudget
  automaticReleaseAllowed : Bool := false
  createdAt : Int
  deriving DecidableEq, Repr

/-- A row of `search_rounds`, and the `SearchRound` model over it. -/
structure SearchRound extends RoundCreation where
  state : SearchRoundState
  version : Nat := 1
  candidateFamilyHash : Option String := none
  artifactFamilyHash : Option String := none
  holdoutFamilyHash : Option String := none
  holdoutPlanHash : Option String := none
  holdoutRevealLeaseId : Option Uuid := none
  holdoutRevealEvidenceHash : Option String := none
  intakeClosedAt : Option Int := none
  deriving DecidableEq, Repr

instance : Keyed SearchRound Uuid := ⟨fun row => row.roundId⟩

/-- The validator of `SearchRound`. -/
structure SearchRound.Valid (round : SearchRound) : Prop where
  candidateCount : 2 ≤ round.declaredCandidateCount ∧ round.declaredCandidateCount ≤ 4
  promotedCount : 1 ≤ round.maxPromoted ∧ round.maxPromoted ≤ 2
  familyAlpha : 0 < round.familyAlpha ∧ round.familyAlpha < 1
  noRelease : round.automaticReleaseAllowed = false
  version : 1 ≤ round.version
  scripted : round.runMode = .scripted →
    round.projectMode = none ∧ round.state ∉ [.awaitingSignoff, .completed, .rejected]
  formal : round.runMode = .formal →
    round.projectMode = some .degradedManualIntake ∧ round.state ≠ .scriptedCompleted
  promotion : round.maxPromoted ≤ round.declaredCandidateCount
  budget : round.budget.maxCandidates = round.declaredCandidateCount
  reveal : (round.holdoutPlanHash.isSome = round.holdoutRevealLeaseId.isSome) ∧
    (round.holdoutPlanHash.isSome = round.holdoutRevealEvidenceHash.isSome)
  revealFamily : round.holdoutPlanHash ≠ none → round.holdoutFamilyHash ≠ none

instance (round : SearchRound) : Decidable round.Valid :=
  decidable_of_iff
    ((2 ≤ round.declaredCandidateCount ∧ round.declaredCandidateCount ≤ 4) ∧
      (1 ≤ round.maxPromoted ∧ round.maxPromoted ≤ 2) ∧
      (0 < round.familyAlpha ∧ round.familyAlpha < 1) ∧
      round.automaticReleaseAllowed = false ∧ 1 ≤ round.version ∧
      (round.runMode = .scripted →
        round.projectMode = none ∧ round.state ∉ [.awaitingSignoff, .completed, .rejected]) ∧
      (round.runMode = .formal →
        round.projectMode = some .degradedManualIntake ∧ round.state ≠ .scriptedCompleted) ∧
      round.maxPromoted ≤ round.declaredCandidateCount ∧
      round.budget.maxCandidates = round.declaredCandidateCount ∧
      ((round.holdoutPlanHash.isSome = round.holdoutRevealLeaseId.isSome) ∧
        (round.holdoutPlanHash.isSome = round.holdoutRevealEvidenceHash.isSome)) ∧
      (round.holdoutPlanHash ≠ none → round.holdoutFamilyHash ≠ none))
    ⟨fun ⟨a, b, c, d, e, f, g, h, i, j, k⟩ => ⟨a, b, c, d, e, f, g, h, i, j, k⟩,
      fun v => ⟨v.candidateCount, v.promotedCount, v.familyAlpha, v.noRelease, v.version,
        v.scripted, v.formal, v.promotion, v.budget, v.reveal, v.revealFamily⟩⟩

/-! ## Members -/

/-- The fields that make a member of a round the same member. -/
structure RoundCandidateIdentity where
  roundCandidateId : Uuid
  roundId : Uuid
  candidateId : Uuid
  ordinal : Nat
  sourcePackageStoreId : String
  sourcePackageStoreHash : String
  sourcePackageHash : String
  sourceManifestHash : String
  baselineSourceHash : String
  candidateSourceHash : String
  optimizationIntent : String
  replacementPoint : String
  candidateKind : ManualCandidateKind
  idempotencyKey : String
  deriving DecidableEq, Repr

/-- How a build ended. -/
structure BuildTerminal where
  state : RoundCandidateState
  artifactId : Option Uuid := none
  artifactHash : Option String := none
  terminalFailureCode : Option String := none
  failureEvidenceHash : Option String := none
  deriving DecidableEq, Repr

/-- A row of `round_candidates`, and the `RoundCandidate` model over it. -/
structure RoundCandidate extends RoundCandidateIdentity, BuildTerminal where
  deriving DecidableEq, Repr

instance : Keyed RoundCandidate Uuid := ⟨fun row => row.roundCandidateId⟩

/-- The validator of `RoundCandidate`. -/
def RoundCandidate.Valid (member : RoundCandidate) : Prop :=
  member.ordinal ≤ 3 ∧ (member.artifactId = none ↔ member.artifactHash = none) ∧
  (member.terminalFailureCode = none ↔ member.failureEvidenceHash = none) ∧
  (member.artifactId = none ∨ member.terminalFailureCode = none) ∧
  member.baselineSourceHash ≠ member.candidateSourceHash

instance (member : RoundCandidate) : Decidable member.Valid := by
  unfold RoundCandidate.Valid
  infer_instance

/-- A build ended with an artifact, or with the failure of a failed or invalid member. -/
def BuildTerminal.Ended (terminal : BuildTerminal) : Prop :=
  (terminal.state = .built ∧ terminal.artifactId.isSome ∧ terminal.artifactHash.isSome ∧
      terminal.terminalFailureCode = none ∧ terminal.failureEvidenceHash = none) ∨
    (terminal.state ∈ [RoundCandidateState.buildFailed, .invalid] ∧
      terminal.artifactId = none ∧ terminal.artifactHash = none ∧
      terminal.terminalFailureCode.isSome ∧ terminal.failureEvidenceHash.isSome)

instance (terminal : BuildTerminal) : Decidable terminal.Ended := by
  unfold BuildTerminal.Ended
  infer_instance

/-- `RoundCandidateBuildTerminal`; its validator demands that the build ended. -/
structure RoundCandidateBuildTerminal where
  roundId : Uuid
  roundCandidateId : Uuid
  candidateId : Uuid
  terminal : BuildTerminal
  valid : terminal.Ended

/-- `ArtifactFamilyFreezeRequest`. -/
structure ArtifactFamilyFreezeRequest where
  roundId : Uuid
  candidateFamilyHash : String
  expectedArtifactFamilyHash : String

/-! ## Budget -/

/-- `BudgetUsage`. -/
structure BudgetUsage where
  candidates : Nat := 0
  buildAttempts : Nat := 0
  correctnessAttempts : Nat := 0
  searchSamples : Nat := 0
  holdoutSamples : Nat := 0
  wallSeconds : NNRat := 0
  exclusiveLeaseSeconds : NNRat := 0
  deriving DecidableEq

/-- `is_zero`. -/
def BudgetUsage.isZero (usage : BudgetUsage) : Bool := decide (usage = {})

/-- `plus`; seconds are added as doubles are. -/
def BudgetUsage.plus (usage other : BudgetUsage) : BudgetUsage where
  candidates := usage.candidates + other.candidates
  buildAttempts := usage.buildAttempts + other.buildAttempts
  correctnessAttempts := usage.correctnessAttempts + other.correctnessAttempts
  searchSamples := usage.searchSamples + other.searchSamples
  holdoutSamples := usage.holdoutSamples + other.holdoutSamples
  wallSeconds := Binary64.add usage.wallSeconds other.wallSeconds
  exclusiveLeaseSeconds := Binary64.add usage.exclusiveLeaseSeconds other.exclusiveLeaseSeconds

/-- `_round_budget_violation`: the first limit the usage exceeds. -/
def RoundBudget.violation (budget : RoundBudget) (usage : BudgetUsage) : Option String :=
  ([("candidates", decide ((budget.maxCandidates : Rat) < usage.candidates)),
    ("build_attempts", decide ((budget.maxBuildAttempts : Rat) < usage.buildAttempts)),
    ("correctness_attempts",
      decide ((budget.maxCorrectnessAttempts : Rat) < usage.correctnessAttempts)),
    ("search_samples", decide ((budget.maxSearchSamples : Rat) < usage.searchSamples)),
    ("holdout_samples", decide ((budget.maxHoldoutSamples : Rat) < usage.holdoutSamples)),
    ("wall_seconds", decide ((budget.maxWallSeconds : Rat) < usage.wallSeconds)),
    ("exclusive_lease_seconds",
      decide ((budget.maxExclusiveLeaseSeconds : Rat) < usage.exclusiveLeaseSeconds))].find?
    Prod.snd).map Prod.fst

/-- The fields of a reservation that never change. -/
structure ReservationIdentity where
  reservationId : Uuid
  roundId : Uuid
  jobId : Uuid
  attempt : Nat
  candidateId : Option Uuid := none
  phase : Option RoundPhase := none
  planned : BudgetUsage
  idempotencyKey : String
  deriving DecidableEq

/-- A row of `round_budget_reservations`. -/
structure RoundBudgetReservation extends ReservationIdentity where
  state : RoundBudgetReservationState
  deriving DecidableEq

instance : Keyed RoundBudgetReservation Uuid := ⟨fun row => row.reservationId⟩

/-- A row of `round_budget_ledger`. -/
structure RoundBudgetLedgerEntry where
  ledgerEntryId : Uuid
  reservationId : Uuid
  roundId : Uuid
  entryType : RoundBudgetEntryType
  reserved : BudgetUsage
  actual : BudgetUsage := {}
  leaseHeldSeconds : Rat := 0
  harnessActiveSeconds : Rat := 0
  rawUsageEvidenceHash : String
  idempotencyKey : String
  createdAt : Int
  deriving DecidableEq

instance : Keyed RoundBudgetLedgerEntry Uuid := ⟨fun row => row.ledgerEntryId⟩

/-- `math.isclose` with both tolerances `1e-12`. -/
def isClose (a b : Rat) : Prop :=
  ∃ scale ∈ [a, -a, b, -b, 1], a - b ≤ scale / 1000000000000 ∧ b - a ≤ scale / 1000000000000

instance (a b : Rat) : Decidable (isClose a b) := by
  unfold isClose
  infer_instance

theorem isClose_self (a : Rat) : isClose a a :=
  ⟨1, by simp, by rw [sub_self]; decide +kernel, by rw [sub_self]; decide +kernel⟩

/-- The validator of `RoundBudgetLedgerEntry`. -/
def RoundBudgetLedgerEntry.Valid (entry : RoundBudgetLedgerEntry) : Prop :=
  0 ≤ entry.leaseHeldSeconds ∧ 0 ≤ entry.harnessActiveSeconds ∧
  entry.harnessActiveSeconds ≤ entry.leaseHeldSeconds ∧
  (entry.entryType = .settle →
    isClose entry.actual.exclusiveLeaseSeconds entry.leaseHeldSeconds) ∧
  (entry.entryType ≠ .settle → entry.actual.isZero = true ∧ entry.leaseHeldSeconds = 0 ∧
    entry.harnessActiveSeconds = 0)

instance (entry : RoundBudgetLedgerEntry) : Decidable entry.Valid := by
  unfold RoundBudgetLedgerEntry.Valid
  infer_instance

/-! ## Barriers -/

/-- `BarrierMemberResult`: one member at a barrier. -/
structure BarrierMemberResult where
  roundCandidateId : Uuid
  candidateId : Uuid
  candidateState : RoundCandidateState
  artifactId : Option Uuid := none
  artifactHash : Option String := none
  correctnessEvidenceHash : Option String := none
  roundMeasurementRefId : Option Uuid := none
  scriptedPhaseReceiptId : Option Uuid := none
  failureEvidenceHash : Option String := none
  budgetUsageEvidenceHash : String
  cleanupEvidenceHash : Option String := none
  synthetic : Bool := true
  deriving DecidableEq, Repr

namespace BarrierMemberResult

/-- The member was measured. -/
def Measured (member : BarrierMemberResult) : Prop :=
  member.candidateState ∈ [RoundCandidateState.searchMeasured, .holdoutMeasured]

instance (member : BarrierMemberResult) : Decidable member.Measured := by
  unfold Measured
  infer_instance

/-- The member failed. -/
def Failed (member : BarrierMemberResult) : Prop :=
  member.candidateState ∈ [RoundCandidateState.buildFailed, .correctnessFailed, .searchFailed,
    .holdoutFailed, .invalid]

instance (member : BarrierMemberResult) : Decidable member.Failed := by
  unfold Failed
  infer_instance

/-- The validator of `BarrierMemberResult`. -/
def Valid (member : BarrierMemberResult) : Prop :=
  (member.artifactId = none ↔ member.artifactHash = none) ∧
  (member.Measured ∨ member.Failed) ∧
  (member.Measured → member.artifactId ≠ none ∧ member.correctnessEvidenceHash ≠ none ∧
    member.cleanupEvidenceHash ≠ none ∧ member.failureEvidenceHash = none ∧
    (member.roundMeasurementRefId = none ↔ member.scriptedPhaseReceiptId ≠ none)) ∧
  (member.Measured → (member.synthetic = true → member.scriptedPhaseReceiptId ≠ none) ∧
    (member.synthetic = false → member.roundMeasurementRefId ≠ none)) ∧
  (member.Failed → member.failureEvidenceHash ≠ none ∧ member.roundMeasurementRefId = none ∧
    member.scriptedPhaseReceiptId = none) ∧
  (member.candidateState ∈ [RoundCandidateState.searchFailed, .holdoutFailed] →
    member.artifactId ≠ none ∧ member.correctnessEvidenceHash ≠ none)

instance (member : BarrierMemberResult) : Decidable member.Valid := by
  unfold Valid
  infer_instance

end BarrierMemberResult

/-- `RoundBarrierResult`. -/
structure RoundBarrierResult where
  barrierId : Uuid
  roundId : Uuid
  runMode : SearchRoundRunMode
  synthetic : Bool
  phase : RoundPhase
  inputFamilyHash : String
  expectedMemberCount : Nat
  members : List BarrierMemberResult
  ruleVersion : String
  ruleHash : String
  promotedCandidateIds : List Uuid := []
  outcome : RoundBarrierOutcome
  inputSummaryHash : String
  closedBy : String
  closedAt : Int
  idempotencyKey : String
  deriving DecidableEq, Repr

namespace RoundBarrierResult

/-- The states a member may end the phase of a barrier in. -/
def terminalStates : RoundPhase → List RoundCandidateState
  | .search => [.buildFailed, .correctnessFailed, .searchFailed, .searchMeasured, .invalid]
  | .holdout => [.holdoutFailed, .holdoutMeasured, .invalid]

/-- What the validator asks of the promotions and the outcome in each phase. -/
def PhaseValid (barrier : RoundBarrierResult) : Prop :=
  match barrier.phase with
  | .search =>
      barrier.outcome = (if barrier.promotedCandidateIds = [] then .noPromotableCandidate
        else .membersPromoted) ∧
      ∀ member ∈ barrier.members, member.candidateId ∈ barrier.promotedCandidateIds →
        member.candidateState = .searchMeasured
  | .holdout =>
      (∀ member ∈ barrier.members,
        member.artifactId ≠ none ∧ member.correctnessEvidenceHash ≠ none) ∧
      barrier.outcome = .completed ∧ barrier.promotedCandidateIds = [] ∧
      barrier.expectedMemberCount ≤ 2

instance (barrier : RoundBarrierResult) : Decidable barrier.PhaseValid := by
  unfold PhaseValid
  split <;> infer_instance

/-- The validator of `RoundBarrierResult`; the order of the texts of identifiers is
their order as numbers. -/
def Valid (barrier : RoundBarrierResult) : Prop :=
  (1 ≤ barrier.members.length ∧ barrier.members.length ≤ 4) ∧
  (∀ member ∈ barrier.members, member.Valid) ∧
  (barrier.runMode = .scripted ↔ barrier.synthetic = true) ∧
  (∀ member ∈ barrier.members, member.synthetic = barrier.synthetic) ∧
  barrier.members.length = barrier.expectedMemberCount ∧
  (barrier.members.map BarrierMemberResult.candidateId).Pairwise (· < ·) ∧
  barrier.promotedCandidateIds.length ≤ 2 ∧
  barrier.promotedCandidateIds.Pairwise (· < ·) ∧
  barrier.promotedCandidateIds ⊆ barrier.members.map BarrierMemberResult.candidateId ∧
  (∀ member ∈ barrier.members, member.candidateState ∈ terminalStates barrier.phase) ∧
  barrier.PhaseValid

instance (barrier : RoundBarrierResult) : Decidable barrier.Valid := by
  unfold Valid
  infer_instance

end RoundBarrierResult

/-- `ScriptedCandidateStatisticsInput`. -/
structure CandidateStatistics where
  candidateId : Uuid
  scriptedPhaseReceiptId : Uuid
  correctnessEvidenceHash : String
  rawEvidenceHash : String
  baselineSampleSetHash : String
  restartEffects : List Rat
  /-- The positions of the effects that are `-0.0`, which are `0` among the rationals. -/
  negativeZeros : List Nat := []
  baselineRestartMeansNs : List Rat
  stage0MdeRatio : Rat
  bindingsValid : Bool := true
  correctnessPassed : Bool := true
  cleanupHealthy : Bool := true
  failureCodes : List String := []
  deriving DecidableEq, Repr

/-- The statistics as the stored document gives them back: a zero loses its sign. -/
def CandidateStatistics.unsigned (item : CandidateStatistics) : CandidateStatistics :=
  { item with negativeZeros := [] }

/-- Every number of the statistics equals the decimal it is stored as. -/
def CandidateStatistics.ReadsBack (item : CandidateStatistics) : Prop :=
  ∀ value ∈ item.stage0MdeRatio :: (item.restartEffects ++ item.baselineRestartMeansNs),
    Binary64.stored value = value

instance (item : CandidateStatistics) : Decidable item.ReadsBack := by
  unfold CandidateStatistics.ReadsBack
  infer_instance

/-- `SearchBarrierInputSummary`. -/
structure SearchBarrierInputSummary where
  roundId : Uuid
  artifactFamilyHash : String
  selectionRuleHash : String
  members : List BarrierMemberResult
  statistics : List CandidateStatistics
  promotedCandidateIds : List Uuid
  deriving DecidableEq, Repr

/-- `SearchBarrierDecision`. -/
structure SearchBarrierDecision where
  barrier : RoundBarrierResult
  inputSummary : SearchBarrierInputSummary
  holdoutFamilyHash : Option String
  deriving DecidableEq, Repr

namespace SearchBarrierDecision

/-- The decision as its stored document gives it back. -/
def unsigned (decision : SearchBarrierDecision) : SearchBarrierDecision :=
  { decision with
    inputSummary := { decision.inputSummary with
      statistics := decision.inputSummary.statistics.map CandidateStatistics.unsigned } }

/-- The stored document of the decision equals the decision. -/
def ReadsBack (decision : SearchBarrierDecision) : Prop :=
  ∀ item ∈ decision.inputSummary.statistics, item.ReadsBack

instance (decision : SearchBarrierDecision) : Decidable decision.ReadsBack := by
  unfold ReadsBack
  infer_instance

end SearchBarrierDecision

/-! ## Reveal, comparison and evidence -/

/-- `HoldoutRevealResult`. -/
structure HoldoutRevealResult where
  revealLeaseId : Uuid
  roundId : Uuid
  holdoutFamilyHash : String
  commitment : String
  planHash : String
  authorityId : String
  authorityHash : String
  revealEvidenceHash : String
  revealedAt : Int
  /-- The plan, the nonce and the lease it was revealed under: texts and one integer. -/
  protectedPlan : Json
  deriving DecidableEq

/-- `MultipleComparisonResult`. -/
structure MultipleComparisonResult where
  multipleComparisonId : Uuid
  roundId : Uuid
  runMode : SearchRoundRunMode
  synthetic : Bool
  holdoutBarrierId : Uuid
  holdoutFamilyHash : String
  protocolVersion : String
  protocolHash : String
  familyAlpha : Rat
  m : Nat
  alphaCandidate : Rat
  candidateResults : Json
  recommendedCandidateId : Option Uuid
  resultHash : String
  createdAt : Int
  deriving DecidableEq

/-- The stored document of the result equals the result. -/
def MultipleComparisonResult.ReadsBack (result : MultipleComparisonResult) : Prop :=
  Binary64.stored result.familyAlpha = result.familyAlpha ∧
    Binary64.stored result.alphaCandidate = result.alphaCandidate ∧
    result.candidateResults.readsBack = true

instance (result : MultipleComparisonResult) : Decidable result.ReadsBack := by
  unfold MultipleComparisonResult.ReadsBack
  infer_instance

/-- `RoundEvidenceBundle`. -/
structure RoundEvidenceBundle where
  roundEvidenceBundleId : Uuid
  roundId : Uuid
  runMode : SearchRoundRunMode
  terminalReason : RoundTerminalReason
  budgetLedgerHash : String
  synthetic : Bool
  automaticReleaseAllowed : Bool := false
  createdAt : Int
  /-- What only the verifier reads: the families, the barriers and the evidence index. -/
  evidence : Json
  deriving DecidableEq

/-- The stored document of the bundle equals the bundle. -/
def RoundEvidenceBundle.ReadsBack (bundle : RoundEvidenceBundle) : Prop :=
  bundle.evidence.readsBack = true

instance (bundle : RoundEvidenceBundle) : Decidable bundle.ReadsBack := by
  unfold RoundEvidenceBundle.ReadsBack
  infer_instance

end HcuAutoOpt
