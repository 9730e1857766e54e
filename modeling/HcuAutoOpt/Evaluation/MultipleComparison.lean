import HcuAutoOpt.Evaluation.SearchSelection
import HcuAutoOpt.Foundation.SampleQuantiles

/-!
# The Bonferroni comparison of a holdout family

`bonferroni_fwer` gives every member of a closed holdout barrier a verdict at the level
`family_alpha / m`, where `m` is the frozen size of the family. A measured member with
valid statistics is judged by a bootstrap interval of its mean effect; a member that failed,
or whose statistics are invalid, is `invalid` and still counts in `m`.

The arithmetic is exact. The generator of the bootstrap, the normal quantile and the two
square roots are parameters, and so are the hash functions and the texts they are given
(`FwerEnv`). A model of the result that its validator refuses is an error of the function.
-/

set_option autoImplicit false

namespace HcuAutoOpt

namespace M2Statistics

open Foundation

/-! ## Models -/

/-- The fields of `ScriptedCandidateStatisticsInput` and its validator. -/
structure StatisticsValid (item : CandidateStatistics) : Prop where
  effects : 4 ≤ item.restartEffects.length ∧ item.restartEffects.length ≤ 1000
  means : 4 ≤ item.baselineRestartMeansNs.length ∧ item.baselineRestartMeansNs.length ≤ 1000
  mde : 0 < item.stage0MdeRatio ∧ item.stage0MdeRatio < 1
  codes : item.failureCodes.length ≤ 32
  aligned : item.restartEffects.length = item.baselineRestartMeansNs.length
  positive : ∀ value ∈ item.baselineRestartMeansNs, 0 < value
  failures : item.valid = true ↔ item.failureCodes = []

/-- `AdjustedCandidateResult`. -/
structure AdjustedCandidateResult where
  candidateId : Uuid
  roundMeasurementRefId : Option Uuid := none
  scriptedPhaseReceiptId : Option Uuid := none
  synthetic : Bool
  correctnessEvidenceHash : String
  rawEvidenceHash : Option String := none
  baselineSampleSetHash : Option String := none
  verdict : ManualCandidateVerdict
  adjustedCiLower : Option Rat := none
  adjustedCiUpper : Option Rat := none
  stage0MdeRatio : Option Rat := none
  workloadMdeRatio : Option Rat := none
  credibleThreshold : Option Rat := none
  failureCodes : List String := []
  deriving DecidableEq, Repr

namespace AdjustedCandidateResult

/-- Exactly one of the two evidence identifiers is set. -/
def Measured (result : AdjustedCandidateResult) : Prop :=
  result.roundMeasurementRefId = none ↔ result.scriptedPhaseReceiptId ≠ none

instance (result : AdjustedCandidateResult) : Decidable result.Measured :=
  inferInstanceAs (Decidable (_ ↔ _))

/-- What the validator asks of an invalid result. -/
def InvalidShape (result : AdjustedCandidateResult) : Prop :=
  result.failureCodes ≠ [] ∧
  (result.adjustedCiLower = none ∧ result.adjustedCiUpper = none ∧
    result.stage0MdeRatio = none ∧ result.workloadMdeRatio = none ∧
    result.credibleThreshold = none) ∧
  (result.Measured ↔ result.rawEvidenceHash ≠ none ∧ result.baselineSampleSetHash ≠ none)

instance (result : AdjustedCandidateResult) : Decidable result.InvalidShape :=
  inferInstanceAs (Decidable (_ ∧ _ ∧ _))

/-- The verdict matches the interval and the threshold. -/
def Matches (verdict : ManualCandidateVerdict) (lower upper threshold : Rat) : Prop :=
  match verdict with
  | .faster => threshold < lower
  | .slower => upper < -threshold
  | _ => ¬(threshold < lower ∨ upper < -threshold)

instance (verdict : ManualCandidateVerdict) (lower upper threshold : Rat) :
    Decidable (Matches verdict lower upper threshold) := by
  unfold Matches
  split <;> infer_instance

/-- What the validator asks of a conclusion. -/
def ConclusionShape (result : AdjustedCandidateResult) : Prop :=
  result.Measured ∧
  (result.rawEvidenceHash ≠ none ∧ result.baselineSampleSetHash ≠ none) ∧
  result.failureCodes = [] ∧
  ∃ lower ∈ result.adjustedCiLower, ∃ upper ∈ result.adjustedCiUpper,
    ∃ stage0 ∈ result.stage0MdeRatio, ∃ workload ∈ result.workloadMdeRatio,
      ∃ threshold ∈ result.credibleThreshold,
        lower ≤ upper ∧ isClose threshold (max stage0 workload) ∧
          Matches result.verdict lower upper threshold

instance (result : AdjustedCandidateResult) : Decidable result.ConclusionShape :=
  inferInstanceAs (Decidable (_ ∧ _ ∧ _))

/-- The fields and the validator of `AdjustedCandidateResult`. -/
structure Valid (result : AdjustedCandidateResult) : Prop where
  stage0 : ∀ ratio ∈ result.stage0MdeRatio, 0 < ratio ∧ ratio < 1
  workload : ∀ ratio ∈ result.workloadMdeRatio, 0 ≤ ratio
  threshold : ∀ threshold ∈ result.credibleThreshold, 0 < threshold
  codes : result.failureCodes.length ≤ 32
  oneIdentity : result.roundMeasurementRefId = none ∨ result.scriptedPhaseReceiptId = none
  scripted : result.synthetic = true → result.roundMeasurementRefId = none
  formal : result.synthetic = false → result.scriptedPhaseReceiptId = none
  shape : if result.verdict = .invalid then result.InvalidShape else result.ConclusionShape

instance (result : AdjustedCandidateResult) : Decidable result.Valid :=
  decidable_of_iff
    ((∀ ratio ∈ result.stage0MdeRatio, 0 < ratio ∧ ratio < 1) ∧
      (∀ ratio ∈ result.workloadMdeRatio, 0 ≤ ratio) ∧
      (∀ threshold ∈ result.credibleThreshold, 0 < threshold) ∧
      result.failureCodes.length ≤ 32 ∧
      (result.roundMeasurementRefId = none ∨ result.scriptedPhaseReceiptId = none) ∧
      (result.synthetic = true → result.roundMeasurementRefId = none) ∧
      (result.synthetic = false → result.scriptedPhaseReceiptId = none) ∧
      if result.verdict = .invalid then result.InvalidShape else result.ConclusionShape)
    ⟨fun ⟨a, b, c, d, e, f, g, h⟩ => ⟨a, b, c, d, e, f, g, h⟩,
      fun v => ⟨v.stage0, v.workload, v.threshold, v.codes, v.oneIdentity, v.scripted, v.formal,
        v.shape⟩⟩

end AdjustedCandidateResult

/-- The accepted results. -/
def faster (results : List AdjustedCandidateResult) : List AdjustedCandidateResult :=
  results.filter fun result => result.verdict = .faster

/-- `min` over the accepted results by the negated lower bound and the identifier; an
accepted result has a lower bound. -/
def recommendation (results : List AdjustedCandidateResult) : Option Uuid :=
  (best? (fun result => result.adjustedCiLower.getD 0) AdjustedCandidateResult.candidateId
    (faster results)).map AdjustedCandidateResult.candidateId

/-- `MultipleComparisonResult` with its candidate results, which the records of a round
carry as one JSON value. -/
structure MultipleComparison where
  multipleComparisonId : Uuid
  roundId : Uuid
  runMode : SearchRoundRunMode
  synthetic : Bool
  holdoutBarrierId : Uuid
  holdoutFamilyHash : String
  protocolVersion : String
  protocolHash : String
  familyAlpha : Rat
  m : Nat
  alphaCandidate : Rat
  candidateResults : List AdjustedCandidateResult
  recommendedCandidateId : Option Uuid
  resultHash : String
  createdAt : DateTime
  deriving DecidableEq, Repr

namespace MultipleComparison

/-- The record of the comparison, for a dump of its candidate results. -/
def record (dump : List AdjustedCandidateResult → Json) (result : MultipleComparison) :
    MultipleComparisonResult where
  multipleComparisonId := result.multipleComparisonId
  roundId := result.roundId
  runMode := result.runMode
  synthetic := result.synthetic
  holdoutBarrierId := result.holdoutBarrierId
  holdoutFamilyHash := result.holdoutFamilyHash
  protocolVersion := result.protocolVersion
  protocolHash := result.protocolHash
  familyAlpha := result.familyAlpha
  m := result.m
  alphaCandidate := result.alphaCandidate
  candidateResults := dump result.candidateResults
  recommendedCandidateId := result.recommendedCandidateId
  resultHash := result.resultHash
  createdAt := result.createdAt.micros

/-- The fields and the validator of `MultipleComparisonResult`. -/
structure Valid (result : MultipleComparison) : Prop where
  protocolVersion : 1 ≤ result.protocolVersion.length ∧ result.protocolVersion.length ≤ 200
  familyAlpha : 0 < result.familyAlpha ∧ result.familyAlpha < 1
  m : 1 ≤ result.m ∧ result.m ≤ 2
  alphaCandidate : 0 < result.alphaCandidate ∧ result.alphaCandidate < 1
  results : 1 ≤ result.candidateResults.length ∧ result.candidateResults.length ≤ 2
  aware : result.createdAt.offset ≠ none
  mode : result.runMode = .scripted ↔ result.synthetic = true
  members : ∀ item ∈ result.candidateResults, item.synthetic = result.synthetic
  bonferroni : isClose result.alphaCandidate (result.familyAlpha / result.m)
  complete : result.candidateResults.length = result.m
  ordered : (result.candidateResults.map AdjustedCandidateResult.candidateId).Pairwise (· < ·)
  recommended : result.recommendedCandidateId = recommendation result.candidateResults

instance (result : MultipleComparison) : Decidable result.Valid :=
  decidable_of_iff
    ((1 ≤ result.protocolVersion.length ∧ result.protocolVersion.length ≤ 200) ∧
      (0 < result.familyAlpha ∧ result.familyAlpha < 1) ∧ (1 ≤ result.m ∧ result.m ≤ 2) ∧
      (0 < result.alphaCandidate ∧ result.alphaCandidate < 1) ∧
      (1 ≤ result.candidateResults.length ∧ result.candidateResults.length ≤ 2) ∧
      result.createdAt.offset ≠ none ∧ (result.runMode = .scripted ↔ result.synthetic = true) ∧
      (∀ item ∈ result.candidateResults, item.synthetic = result.synthetic) ∧
      isClose result.alphaCandidate (result.familyAlpha / result.m) ∧
      result.candidateResults.length = result.m ∧
      (result.candidateResults.map AdjustedCandidateResult.candidateId).Pairwise (· < ·) ∧
      result.recommendedCandidateId = recommendation result.candidateResults)
    ⟨fun ⟨a, b, c, d, e, f, g, h, i, j, k, l⟩ => ⟨a, b, c, d, e, f, g, h, i, j, k, l⟩,
      fun v => ⟨v.protocolVersion, v.familyAlpha, v.m, v.alphaCandidate, v.results, v.aware,
        v.mode, v.members, v.bonferroni, v.complete, v.ordered, v.recommended⟩⟩

end MultipleComparison

/-! ## Statistics -/

/-- The surroundings of the comparison. -/
structure FwerEnv where
  /-- The hash functions. -/
  round : RoundEnv
  /-- `model_dump(mode="json")` of the candidate results. -/
  dump : List AdjustedCandidateResult → Json
  /-- The text of a float. -/
  floatText : Rat → String
  /-- The seed from the SHA-256 of the seed material. -/
  seed : String → Nat
  /-- `random.Random(seed).randrange(count)` at each of its calls. -/
  randrange : (seed count index : Nat) → Nat
  randrange_lt : ∀ seed count index, 0 < count → randrange seed count index < count
  /-- `NormalDist().inv_cdf`. -/
  invCdf : Rat → Rat
  /-- `statistics.stdev`. -/
  stdev : List Rat → Rat
  /-- `math.sqrt`. -/
  sqrt : Rat → Rat

/-- `fmean` in exact arithmetic. -/
def fmean (values : List Rat) : Rat := values.sum / values.length

/-- `M2_FWER_BOOTSTRAP_RESAMPLES`. -/
def bootstrapResamples : Nat := 2000

/-- `M2_FWER_POWER`. -/
def fwerPower : Rat := 4 / 5

/-- One resample of the bootstrap. -/
def resample (env : FwerEnv) (seed : Nat) (values : List Rat) (iteration : Nat) :
    Option (List Rat) :=
  (List.range values.length).mapM fun draw =>
    values[env.randrange seed values.length (iteration * values.length + draw)]?

/-- The sorted means of the resamples. -/
def bootstrapMeans (env : FwerEnv) (seed : Nat) (values : List Rat) (iterations : Nat) :
    Option (List Rat) :=
  ((List.range iterations).mapM fun iteration =>
    (resample env seed values iteration).map fmean).map fun means => means.insertionSort (· ≤ ·)

/-- `_bootstrap_mean_ci`; an index outside the sample would be an `IndexError`. -/
def bootstrapMeanCi (env : FwerEnv) (values : List Rat) (seedMaterial : String)
    (iterations : Nat) (confidence : Rat) : Except Error (Rat × Rat) :=
  let tail := (1 - confidence) / 2
  let interval := do
    let estimates ← bootstrapMeans env (env.seed seedMaterial) values iterations
    let lower ← percentile estimates tail
    let upper ← percentile estimates (1 - tail)
    return (lower, upper)
  requireSome interval (.valueError "list index out of range")

/-- `_workload_baseline_mde`. -/
def workloadBaselineMde (env : FwerEnv) (baselineMeans : List Rat) (alpha power : Rat) :
    Except Error Rat := do
  let value := (env.invCdf (1 - alpha / 2) + env.invCdf power) * env.stdev baselineMeans *
    env.sqrt (2 / baselineMeans.length) / fmean baselineMeans
  require (0 ≤ value) (.evaluationError "workload_mde_invalid")
  return value

/-! ## The comparison -/

/-- The verdict of an interval at a threshold. -/
def verdictOf (lower upper threshold : Rat) : ManualCandidateVerdict :=
  if threshold < lower then .faster
  else if upper < -threshold then .slower
  else .inconclusive

/-- The result of a member that failed. -/
def failedResult (member : BarrierMemberResult) (correctness : String) :
    AdjustedCandidateResult where
  candidateId := member.candidateId
  synthetic := true
  correctnessEvidenceHash := correctness
  verdict := .invalid
  failureCodes := ["holdout_member_failed"]

/-- The result of a measured member with invalid statistics. -/
def invalidResult (item : CandidateStatistics) : AdjustedCandidateResult where
  candidateId := item.candidateId
  scriptedPhaseReceiptId := some item.scriptedPhaseReceiptId
  synthetic := true
  correctnessEvidenceHash := item.correctnessEvidenceHash
  rawEvidenceHash := some item.rawEvidenceHash
  baselineSampleSetHash := some item.baselineSampleSetHash
  verdict := .invalid
  failureCodes := item.failureCodes

/-- The result of a measured member with valid statistics. -/
def concludedResult (item : CandidateStatistics) (lower upper workloadMde : Rat) :
    AdjustedCandidateResult where
  candidateId := item.candidateId
  scriptedPhaseReceiptId := some item.scriptedPhaseReceiptId
  synthetic := true
  correctnessEvidenceHash := item.correctnessEvidenceHash
  rawEvidenceHash := some item.rawEvidenceHash
  baselineSampleSetHash := some item.baselineSampleSetHash
  verdict := verdictOf lower upper (max item.stage0MdeRatio workloadMde)
  adjustedCiLower := some lower
  adjustedCiUpper := some upper
  stage0MdeRatio := some item.stage0MdeRatio
  workloadMdeRatio := some workloadMde
  credibleThreshold := some (max item.stage0MdeRatio workloadMde)

/-- The construction of an `AdjustedCandidateResult`. -/
def construct (result : AdjustedCandidateResult) : Except Error AdjustedCandidateResult := do
  require result.Valid (.validationError "AdjustedCandidateResult")
  return result

/-- The confidence interval of valid statistics at a level. -/
def adjustedInterval (env : FwerEnv) (authority : SearchRound) (alpha : Rat)
    (item : CandidateStatistics) : Except Error (Rat × Rat) :=
  bootstrapMeanCi env item.restartEffects
    (item.rawEvidenceHash ++ ":" ++ authority.holdoutFamilyHash.getD "None" ++ ":" ++
      env.floatText alpha) bootstrapResamples (1 - alpha)

/-- The result of a member with its statistics. -/
def adjustedResult (env : FwerEnv) (authority : SearchRound) (alpha : Rat)
    (statistics : List CandidateStatistics) (member : BarrierMemberResult) :
    Except Error AdjustedCandidateResult :=
  let found := statistics.find? fun item => item.candidateId = member.candidateId
  if member.candidateState ≠ .holdoutMeasured then
    match found, member.correctnessEvidenceHash with
    | some _, _ => .error (.evaluationError "holdout_statistics_for_failed_member")
    | none, none => .error (.evaluationError "holdout_failure_correctness_missing")
    | none, some correctness => construct (failedResult member correctness)
  else
    match found with
    | none => .error (.evaluationError "holdout_statistics_family_mismatch")
    | some item =>
        if item.valid = false then construct (invalidResult item)
        else do
          let interval ← adjustedInterval env authority alpha item
          let workloadMde ← workloadBaselineMde env item.baselineRestartMeansNs alpha fwerPower
          construct (concludedResult item interval.1 interval.2 workloadMde)

/-- The comparison of a list of results, with its hash and its identifier. -/
def comparisonOf (env : FwerEnv) (authority : SearchRound) (barrier : RoundBarrierResult)
    (results : List AdjustedCandidateResult) (createdAt : DateTime) : MultipleComparison :=
  let draft : MultipleComparison := {
    multipleComparisonId := 0
    roundId := authority.roundId
    runMode := .scripted
    synthetic := true
    holdoutBarrierId := barrier.barrierId
    holdoutFamilyHash := barrier.inputFamilyHash
    protocolVersion := "m2-bonferroni-bootstrap-v1"
    protocolHash := fwerProtocolHash env.round
    familyAlpha := authority.familyAlpha
    m := barrier.expectedMemberCount
    alphaCandidate := authority.familyAlpha / barrier.expectedMemberCount
    candidateResults := results
    recommendedCandidateId := recommendation results
    resultHash := ""
    createdAt := createdAt }
  let resultHash := multipleComparisonResultHash env.round (draft.record env.dump)
  { draft with
    multipleComparisonId := env.round.uuid5 ("hcuopt:m2-bonferroni:" ++ resultHash)
    resultHash := resultHash }

/-- The barrier is the closed holdout barrier of the round. -/
def BindsHoldout (authority : SearchRound) (barrier : RoundBarrierResult) : Prop :=
  barrier.roundId = authority.roundId ∧ barrier.phase = .holdout ∧
    barrier.outcome = .completed ∧ barrier.synthetic = true ∧
    authority.holdoutFamilyHash = some barrier.inputFamilyHash

instance (authority : SearchRound) (barrier : RoundBarrierResult) :
    Decidable (BindsHoldout authority barrier) :=
  inferInstanceAs (Decidable (_ ∧ _))

/-- `bonferroni_fwer`. -/
def bonferroniFwer (env : FwerEnv) (authority : SearchRound) (holdoutBarrier : RoundBarrierResult)
    (statistics : List CandidateStatistics) (createdAt : DateTime) :
    Except Error MultipleComparison := do
  requireScriptedRound authority .holdoutBarrier
  require (BindsHoldout authority holdoutBarrier)
    (.evaluationError "holdout_barrier_binding_mismatch")
  let m := holdoutBarrier.expectedMemberCount
  require (1 ≤ m ∧ m ≤ authority.maxPromoted) (.evaluationError "holdout_m_invalid")
  checkStatistics .holdoutMeasured "holdout_statistics_family_mismatch" holdoutBarrier.members
    statistics
  let adjusted ← (byCandidate holdoutBarrier.members).mapM
    (adjustedResult env authority (authority.familyAlpha / m) statistics)
  let result := comparisonOf env authority holdoutBarrier adjusted createdAt
  require result.Valid (.validationError "MultipleComparisonResult")
  return result

end M2Statistics

end HcuAutoOpt
