import HcuAutoOpt.Evaluation.MultipleComparison

/-!
# What the comparison of a holdout family says

Every member of a closed holdout family is judged once (`Judged`): a member that failed and
a member with invalid statistics are invalid, and the others have the verdict of their
bootstrap interval at the level of the whole family. The recommended candidate is the
accepted one with the greatest lower bound.

The models of the result check the same facts again. On an input that passes the checks of
the function (`FwerChecks`) they can only refuse the time of the comparison, when it has
no time zone.
-/

set_option autoImplicit false

namespace HcuAutoOpt

namespace M2Statistics

open Foundation

/-! ## The interval -/

section Interval

variable {values : List Rat}

theorem resample_ok (env : FwerEnv) (seed iteration : Nat) (filled : values ≠ []) :
    ∃ draws, resample env seed values iteration = some draws := by
  have inside : ∀ draw ∈ List.range values.length, ∃ value,
      values[env.randrange seed values.length (iteration * values.length + draw)]? =
        some value := fun draw _ =>
    ⟨_, List.getElem?_eq_getElem (env.randrange_lt _ _ _ (List.length_pos_of_ne_nil filled))⟩
  obtain ⟨draws, drawn, -⟩ := mapM_eq_some_of_forall inside
  exact ⟨draws, drawn⟩

/-- The means of the resamples are there and in order. -/
theorem bootstrapMeans_ok (env : FwerEnv) (seed : Nat) {iterations : Nat} (some_ : iterations ≠ 0)
    (filled : values ≠ []) :
    ∃ means, bootstrapMeans env seed values iterations = some means ∧ means ≠ [] ∧
      means.Pairwise (· ≤ ·) := by
  have found : ∀ iteration ∈ List.range iterations, ∃ mean,
      (resample env seed values iteration).map fmean = some mean := by
    intro iteration _
    obtain ⟨draws, drawn⟩ := resample_ok env seed iteration filled
    exact ⟨fmean draws, by rw [drawn]; rfl⟩
  obtain ⟨means, drawn, length⟩ := mapM_eq_some_of_forall found
  refine ⟨means.insertionSort (· ≤ ·), by rw [bootstrapMeans, drawn]; rfl, ?_,
    List.pairwise_insertionSort _ means⟩
  intro empty
  have size := congrArg List.length empty
  rw [List.length_insertionSort, length, List.length_range] at size
  exact some_ size

/-- **The bootstrap interval of a sample is ordered.** -/
theorem bootstrapMeanCi_ok (env : FwerEnv) (seedMaterial : String) {alpha : Rat}
    (positive : 0 < alpha) (proper : alpha < 1) (filled : values ≠ []) :
    ∃ lower upper, bootstrapMeanCi env values seedMaterial bootstrapResamples (1 - alpha) =
      .ok (lower, upper) ∧ lower ≤ upper := by
  obtain ⟨means, drawn, some_, sorted⟩ := bootstrapMeans_ok env (env.seed seedMaterial)
    (show bootstrapResamples ≠ 0 by decide) filled
  have tail : (1 - (1 - alpha)) / 2 = alpha / 2 := by ring
  have nonneg : 0 ≤ alpha / 2 := by linarith
  have ordered : alpha / 2 ≤ 1 - alpha / 2 := by linarith
  obtain ⟨lower, upper, atTail, atHead, le⟩ :=
    percentile_mono sorted some_ nonneg ordered (by linarith)
  refine ⟨lower, upper, ?_, le⟩
  simp only [bootstrapMeanCi, tail, drawn, atTail, atHead, bind, Option.bind, pure, requireSome]

/-- The minimal detectable effect of the baseline is not negative, or it is refused. -/
theorem workloadBaselineMde_cases (env : FwerEnv) (means : List Rat) (alpha power : Rat) :
    (∃ value, workloadBaselineMde env means alpha power = .ok value ∧ 0 ≤ value) ∨
      workloadBaselineMde env means alpha power =
        .error (.evaluationError "workload_mde_invalid") := by
  simp only [workloadBaselineMde]
  generalize (env.invCdf (1 - alpha / 2) + env.invCdf power) * env.stdev means *
    env.sqrt (2 / means.length) / fmean means = value
  by_cases nonneg : 0 ≤ value
  · exact .inl ⟨value, Except.bind_eq_ok.mpr ⟨(), require_eq_ok.mpr nonneg, rfl⟩, nonneg⟩
  · exact .inr (Except.bind_eq_error.mpr (.inl (require_eq_error.mpr ⟨nonneg, rfl⟩)))

end Interval

/-! ## The results of the members -/

theorem verdictOf_matches (lower upper threshold : Rat) :
    AdjustedCandidateResult.Matches (verdictOf lower upper threshold) lower upper threshold := by
  unfold verdictOf
  by_cases accepts : threshold < lower
  · rw [if_pos accepts]
    exact accepts
  · rw [if_neg accepts]
    by_cases rejects : upper < -threshold
    · rw [if_pos rejects]
      exact rejects
    · rw [if_neg rejects]
      exact not_or.mpr ⟨accepts, rejects⟩

theorem verdictOf_ne_invalid (lower upper threshold : Rat) :
    verdictOf lower upper threshold ≠ .invalid := by
  unfold verdictOf
  split
  · simp
  · split <;> simp

theorem failedResult_valid (member : BarrierMemberResult) (correctness : String) :
    (failedResult member correctness).Valid where
  stage0 := by simp [failedResult]
  workload := by simp [failedResult]
  threshold := by simp [failedResult]
  codes := by simp [failedResult]
  oneIdentity := .inl rfl
  scripted _ := rfl
  formal := by simp [failedResult]
  shape := by
    simp [failedResult, AdjustedCandidateResult.InvalidShape, AdjustedCandidateResult.Measured]

theorem invalidResult_valid {item : CandidateStatistics} (sample : StatisticsValid item)
    (invalid : item.valid = false) : (invalidResult item).Valid where
  stage0 := by simp [invalidResult]
  workload := by simp [invalidResult]
  threshold := by simp [invalidResult]
  codes := sample.codes
  oneIdentity := .inl rfl
  scripted _ := rfl
  formal := by simp [invalidResult]
  shape := by
    have failures : item.failureCodes ≠ [] := fun empty => by
      rw [sample.failures.mpr empty] at invalid
      cases invalid
    simp [invalidResult, AdjustedCandidateResult.InvalidShape, AdjustedCandidateResult.Measured,
      failures]

theorem concludedResult_valid {item : CandidateStatistics} (sample : StatisticsValid item)
    {lower upper workloadMde : Rat} (ordered : lower ≤ upper) (nonneg : 0 ≤ workloadMde) :
    (concludedResult item lower upper workloadMde).Valid where
  stage0 := by simpa [concludedResult] using sample.mde
  workload := by simpa [concludedResult] using nonneg
  threshold := by simpa [concludedResult] using Or.inl sample.mde.1
  codes := by simp [concludedResult]
  oneIdentity := .inl rfl
  scripted _ := rfl
  formal := by simp [concludedResult]
  shape := by
    have concluded : (concludedResult item lower upper workloadMde).verdict ≠ .invalid :=
      verdictOf_ne_invalid _ _ _
    rw [if_neg concluded]
    refine ⟨by simp [concludedResult, AdjustedCandidateResult.Measured],
      by simp [concludedResult], rfl, lower, rfl, upper, rfl, _, rfl, _, rfl, _, rfl, ordered,
      isClose_self _, verdictOf_matches _ _ _⟩

/-- What the comparison says of a member: that it failed, that its statistics are invalid,
or the verdict of its interval at the greater of its two minimal detectable effects. -/
inductive Judged (env : FwerEnv) (authority : SearchRound) (alpha : Rat)
    (statistics : List CandidateStatistics) (member : BarrierMemberResult) :
    AdjustedCandidateResult → Prop where
  | failed (correctness : String) (state : member.candidateState ≠ .holdoutMeasured)
      (retained : member.correctnessEvidenceHash = some correctness) :
      Judged env authority alpha statistics member (failedResult member correctness)
  | invalid (item : CandidateStatistics) (state : member.candidateState = .holdoutMeasured)
      (present : item ∈ statistics) (same : item.candidateId = member.candidateId)
      (invalid : item.valid = false) :
      Judged env authority alpha statistics member (invalidResult item)
  | concluded (item : CandidateStatistics) (lower upper workloadMde : Rat)
      (state : member.candidateState = .holdoutMeasured)
      (present : item ∈ statistics) (same : item.candidateId = member.candidateId)
      (valid : item.valid = true)
      (interval : adjustedInterval env authority alpha item = .ok (lower, upper))
      (workload : workloadBaselineMde env item.baselineRestartMeansNs alpha fwerPower =
        .ok workloadMde)
      (ordered : lower ≤ upper) (nonneg : 0 ≤ workloadMde) :
      Judged env authority alpha statistics member
        (concludedResult item lower upper workloadMde)

/-- The minimal detectable effect of the baseline of valid statistics is refused. -/
def MdeRefused (env : FwerEnv) (alpha : Rat) (statistics : List CandidateStatistics) : Prop :=
  ∃ item ∈ statistics, item.valid = true ∧
    workloadBaselineMde env item.baselineRestartMeansNs alpha fwerPower =
      .error (.evaluationError "workload_mde_invalid")

section Members

variable {env : FwerEnv} {authority : SearchRound} {alpha : Rat}
variable {statistics : List CandidateStatistics} {members : List BarrierMemberResult}
variable {member : BarrierMemberResult} {result : AdjustedCandidateResult}

theorem Judged.candidateId (judged : Judged env authority alpha statistics member result) :
    result.candidateId = member.candidateId := by
  cases judged with
  | failed => rfl
  | invalid _ _ _ same => exact same
  | concluded _ _ _ _ _ _ same => exact same

theorem Judged.synthetic (judged : Judged env authority alpha statistics member result) :
    result.synthetic = true := by
  cases judged <;> rfl

/-- The validator of a candidate result accepts what the comparison builds. -/
theorem Judged.valid (judged : Judged env authority alpha statistics member result)
    (samples : ∀ item ∈ statistics, StatisticsValid item) : result.Valid := by
  cases judged with
  | failed => exact failedResult_valid _ _
  | invalid item _ present _ invalid => exact invalidResult_valid (samples item present) invalid
  | concluded item _ _ _ _ present _ _ _ _ ordered nonneg =>
      exact concludedResult_valid (samples item present) ordered nonneg

theorem construct_of_valid (valid : result.Valid) : construct result = .ok result :=
  Except.bind_eq_ok.mpr ⟨(), require_eq_ok.mpr valid, rfl⟩

variable (bound : StatisticsBound .holdoutMeasured members statistics)
  (unique : (members.map BarrierMemberResult.candidateId).Nodup)
  (samples : ∀ item ∈ statistics, StatisticsValid item)
  (positive : 0 < alpha) (proper : alpha < 1)
include bound unique samples positive proper

/-- **Each member of a holdout family is judged**, unless the minimal detectable effect of
its baseline is refused. -/
theorem adjustedResult_cases (present : member ∈ members)
    (retained : member.correctnessEvidenceHash ≠ none) :
    (∃ result, adjustedResult env authority alpha statistics member = .ok result ∧
        Judged env authority alpha statistics member result) ∨
      adjustedResult env authority alpha statistics member =
          .error (.evaluationError "workload_mde_invalid") ∧
        MdeRefused env alpha statistics := by
  simp only [adjustedResult]
  by_cases state : member.candidateState = .holdoutMeasured
  · rw [if_neg (not_not.mpr state)]
    obtain ⟨item, there, same⟩ := bound.covers member present state
    rw [(find?_eq_some_iff_of_nodup bound.distinct).mpr ⟨there, same⟩]
    by_cases invalid : item.valid = false
    · have judged : Judged env authority alpha statistics member (invalidResult item) :=
        .invalid item state there same invalid
      refine .inl ⟨_, ?_, judged⟩
      simp only [if_pos invalid]
      exact construct_of_valid (judged.valid samples)
    · simp only [if_neg invalid]
      have filled : item.restartEffects ≠ [] := by
        intro empty
        have size := (samples item there).effects.1
        rw [empty] at size
        exact absurd size (by decide)
      obtain ⟨lower, upper, interval, ordered⟩ := bootstrapMeanCi_ok env
        (item.rawEvidenceHash ++ ":" ++ authority.holdoutFamilyHash.getD "None" ++ ":" ++
          env.floatText alpha) positive proper filled
      have interval' : adjustedInterval env authority alpha item = .ok (lower, upper) := interval
      rcases workloadBaselineMde_cases env item.baselineRestartMeansNs alpha fwerPower with
        ⟨workloadMde, workload, nonneg⟩ | refused
      · have judged : Judged env authority alpha statistics member
            (concludedResult item lower upper workloadMde) :=
          .concluded item lower upper workloadMde state there same (by simpa using invalid)
            interval' workload ordered nonneg
        refine .inl ⟨_, ?_, judged⟩
        exact Except.bind_eq_ok.mpr ⟨_, interval', Except.bind_eq_ok.mpr
          ⟨_, workload, construct_of_valid (judged.valid samples)⟩⟩
      · exact .inr ⟨Except.bind_eq_error.mpr (.inr ⟨_, interval', Except.bind_eq_error.mpr
          (.inl refused)⟩), item, there, by simpa using invalid, refused⟩
  · rw [if_pos state]
    have absent : statistics.find? (fun item => decide (item.candidateId = member.candidateId)) =
        none := by
      refine List.find?_eq_none.mpr fun item there same => state ?_
      obtain ⟨other, there', same', measured⟩ := bound.measured item there
      rw [List.inj_on_of_nodup_map unique present there'
        ((of_decide_eq_true same).symm.trans same'.symm)]
      exact measured
    obtain ⟨correctness, retained⟩ := Option.ne_none_iff_exists'.mp retained
    have judged : Judged env authority alpha statistics member (failedResult member correctness) :=
      .failed correctness state retained
    refine .inl ⟨_, ?_, judged⟩
    rw [absent, retained]
    exact construct_of_valid (judged.valid samples)

/-- The results of all members are there, or the minimal detectable effect of a baseline is
refused. -/
theorem adjustedResults_cases
    (retained : ∀ member ∈ members, member.correctnessEvidenceHash ≠ none) :
    (∃ results, (byCandidate members).mapM (adjustedResult env authority alpha statistics) =
          .ok results ∧
        List.Forall₂ (Judged env authority alpha statistics) (byCandidate members) results) ∨
      (byCandidate members).mapM (adjustedResult env authority alpha statistics) =
          .error (.evaluationError "workload_mde_invalid") ∧
        MdeRefused env alpha statistics := by
  have turn : ∀ member ∈ byCandidate members,
      (∃ result, adjustedResult env authority alpha statistics member = .ok result ∧
          Judged env authority alpha statistics member result) ∨
        adjustedResult env authority alpha statistics member =
            .error (.evaluationError "workload_mde_invalid") ∧
          MdeRefused env alpha statistics := fun member there =>
    adjustedResult_cases bound unique samples positive proper (mem_byCandidate.mp there)
      (retained member (mem_byCandidate.mp there))
  rcases mapM_cases fun member there => (turn member there).imp_right And.left with
    done | ⟨refused, member, there, failed⟩
  · exact .inl done
  · refine .inr ⟨refused, ?_⟩
    rcases turn member there with ⟨result, ok, -⟩ | ⟨-, mde⟩
    · rw [failed] at ok
      cases ok
    · exact mde

end Members


/-! ## The recommendation -/

section Recommendation

variable {results : List AdjustedCandidateResult} {candidateId : Uuid}

/-- The lower bound of a result, which an accepted result has. -/
abbrev lowerBound (result : AdjustedCandidateResult) : Rat := result.adjustedCiLower.getD 0

theorem mem_faster {result : AdjustedCandidateResult} :
    result ∈ faster results ↔ result ∈ results ∧ result.verdict = .faster := by
  simp [faster]

/-- The recommended candidate is accepted and outranks the other accepted ones. -/
theorem recommendation_spec (recommended : recommendation results = some candidateId) :
    ∃ best ∈ results, best.candidateId = candidateId ∧ best.verdict = .faster ∧
      ∀ other ∈ results, other.verdict = .faster →
        Outranks lowerBound AdjustedCandidateResult.candidateId best other := by
  obtain ⟨best, found, rfl⟩ := Option.map_eq_some_iff.mp recommended
  obtain ⟨present, ranks⟩ := best?_spec found
  obtain ⟨there, accepted⟩ := mem_faster.mp present
  exact ⟨best, there, rfl, accepted, fun other present accepted =>
    ranks other (mem_faster.mpr ⟨present, accepted⟩)⟩

theorem recommendation_eq_none :
    recommendation results = none ↔ ∀ result ∈ results, result.verdict ≠ .faster := by
  rw [recommendation, Option.map_eq_none_iff, best?_eq_none_iff, List.eq_nil_iff_forall_not_mem]
  simp only [mem_faster, not_and]

end Recommendation

/-! ## The comparison -/

/-- What the comparison of a family says: each member is judged once, at the level of the
whole family, and the recommended candidate is the first of the accepted ones. -/
structure Compares (env : FwerEnv) (authority : SearchRound) (barrier : RoundBarrierResult)
    (statistics : List CandidateStatistics) (result : MultipleComparison) : Prop where
  once : (result.candidateResults.map AdjustedCandidateResult.candidateId).Perm
    (barrier.members.map BarrierMemberResult.candidateId)
  distinct : (barrier.members.map BarrierMemberResult.candidateId).Nodup
  frozen : result.m = barrier.members.length
  level : result.alphaCandidate = authority.familyAlpha / barrier.members.length
  judged : ∀ item ∈ result.candidateResults, ∃ member ∈ barrier.members,
    Judged env authority result.alphaCandidate statistics member item
  recommended : ∀ candidateId, result.recommendedCandidateId = some candidateId →
    ∃ best ∈ result.candidateResults, best.candidateId = candidateId ∧ best.verdict = .faster ∧
      ∀ other ∈ result.candidateResults, other.verdict = .faster →
        Outranks lowerBound AdjustedCandidateResult.candidateId best other
  silent : result.recommendedCandidateId = none ↔
    ∀ item ∈ result.candidateResults, item.verdict ≠ .faster

/-- The checks of the function on its input. -/
structure FamilyChecks (authority : SearchRound) (barrier : RoundBarrierResult)
    (statistics : List CandidateStatistics) : Prop where
  round : requireScriptedRound authority .holdoutBarrier = .ok ()
  binds : BindsHoldout authority barrier
  frozen : 1 ≤ barrier.expectedMemberCount ∧ barrier.expectedMemberCount ≤ authority.maxPromoted
  bound : StatisticsBound .holdoutMeasured barrier.members statistics

/-- All checks of the function before it builds its result. -/
structure FwerChecks (env : FwerEnv) (authority : SearchRound) (barrier : RoundBarrierResult)
    (statistics : List CandidateStatistics) : Prop extends
    FamilyChecks authority barrier statistics where
  detectable : ¬MdeRefused env (authority.familyAlpha / barrier.expectedMemberCount) statistics

section Comparison

variable {env : FwerEnv} {authority : SearchRound} {barrier : RoundBarrierResult}
variable {statistics : List CandidateStatistics} {createdAt : DateTime}
variable {result : MultipleComparison} {results : List AdjustedCandidateResult}

theorem bonferroniFwer_eq_ok :
    bonferroniFwer env authority barrier statistics createdAt = .ok result ↔
      FamilyChecks authority barrier statistics ∧
      ∃ results, (byCandidate barrier.members).mapM (adjustedResult env authority
          (authority.familyAlpha / barrier.expectedMemberCount) statistics) = .ok results ∧
        (comparisonOf env authority barrier results createdAt).Valid ∧
        result = comparisonOf env authority barrier results createdAt := by
  simp only [bonferroniFwer, Except.bind_eq_ok, require_eq_ok, checkStatistics_eq_ok]
  constructor
  · rintro ⟨_, round, _, binds, _, frozen, _, bound, results, adjusted, _, valid, ok⟩
    cases ok
    exact ⟨⟨round, binds, frozen, bound⟩, results, adjusted, valid, rfl⟩
  · rintro ⟨checks, results, adjusted, valid, rfl⟩
    exact ⟨(), checks.round, (), checks.binds, (), checks.frozen, (), checks.bound, results, adjusted,
      (), valid, rfl⟩

/-- The function raises an error of its own, or an error of the result of a member, or its
own result is refused. -/
theorem bonferroniFwer_eq_error {e : Error}
    (failed : bonferroniFwer env authority barrier statistics createdAt = .error e) :
    (∃ code, e = .evaluationError code) ∨
      FamilyChecks authority barrier statistics ∧
        ((byCandidate barrier.members).mapM (adjustedResult env authority
            (authority.familyAlpha / barrier.expectedMemberCount) statistics) = .error e ∨
          ∃ results, (byCandidate barrier.members).mapM (adjustedResult env authority
              (authority.familyAlpha / barrier.expectedMemberCount) statistics) = .ok results ∧
            ¬(comparisonOf env authority barrier results createdAt).Valid) := by
  rcases Except.bind_eq_error.mp failed with refused | ⟨_, round, failed⟩
  · exact .inl ⟨_, (require_eq_error.mp refused).2.symm⟩
  rcases Except.bind_eq_error.mp failed with refused | ⟨_, binds, failed⟩
  · exact .inl ⟨_, (require_eq_error.mp refused).2.symm⟩
  rcases Except.bind_eq_error.mp failed with refused | ⟨_, frozen, failed⟩
  · exact .inl ⟨_, (require_eq_error.mp refused).2.symm⟩
  rcases Except.bind_eq_error.mp failed with refused | ⟨_, bound, failed⟩
  · exact .inl (checkStatistics_eq_error refused)
  refine .inr ⟨⟨round, require_eq_ok.mp binds, require_eq_ok.mp frozen,
    checkStatistics_eq_ok.mp bound⟩, ?_⟩
  rcases Except.bind_eq_error.mp failed with refused | ⟨results, adjusted, failed⟩
  · exact .inl refused
  · rcases Except.bind_eq_error.mp failed with refused | ⟨_, -, failed⟩
    · exact .inr ⟨results, adjusted, (require_eq_error.mp refused).1⟩
    · cases failed

/-- When every member is judged, no minimal detectable effect was refused. -/
theorem not_mdeRefused {alpha : Rat}
    (bound : StatisticsBound .holdoutMeasured barrier.members statistics)
    (judged : ∀ member ∈ barrier.members, ∃ result,
      Judged env authority alpha statistics member result) : ¬MdeRefused env alpha statistics := by
  rintro ⟨item, there, valid, refused⟩
  obtain ⟨member, present, same, measured⟩ := bound.measured item there
  obtain ⟨result, judged⟩ := judged member present
  cases judged with
  | failed _ state => exact state measured
  | invalid other _ there' same' invalid =>
      rw [List.inj_on_of_nodup_map bound.distinct there' there (same'.trans same)] at invalid
      rw [valid] at invalid
      cases invalid
  | concluded other _ _ _ _ there' same' _ _ workload =>
      rw [List.inj_on_of_nodup_map bound.distinct there' there (same'.trans same), refused]
        at workload
      cases workload

theorem bonferroniFwer_refused (checks : FamilyChecks authority barrier statistics)
    (adjusted : (byCandidate barrier.members).mapM (adjustedResult env authority
      (authority.familyAlpha / barrier.expectedMemberCount) statistics) = .ok results)
    (refused : ¬(comparisonOf env authority barrier results createdAt).Valid) :
    bonferroniFwer env authority barrier statistics createdAt =
      .error (.validationError "MultipleComparisonResult") := by
  refine Except.bind_eq_error.mpr (.inr ⟨(), checks.round, ?_⟩)
  refine Except.bind_eq_error.mpr (.inr ⟨(), require_eq_ok.mpr checks.binds, ?_⟩)
  refine Except.bind_eq_error.mpr (.inr ⟨(), require_eq_ok.mpr checks.frozen, ?_⟩)
  refine Except.bind_eq_error.mpr (.inr ⟨(), checkStatistics_eq_ok.mpr checks.bound, ?_⟩)
  refine Except.bind_eq_error.mpr (.inr ⟨results, adjusted, ?_⟩)
  exact Except.bind_eq_error.mpr (.inl (require_eq_error.mpr ⟨refused, rfl⟩))

variable (env) in
/-- The results of a family that passes the checks are there, or a minimal detectable effect
is refused. -/
theorem familyResults_cases (checks : FamilyChecks authority barrier statistics)
    (round : authority.Valid) (valid : barrier.Valid)
    (samples : ∀ item ∈ statistics, StatisticsValid item) :
    (∃ results, (byCandidate barrier.members).mapM (adjustedResult env authority
          (authority.familyAlpha / barrier.expectedMemberCount) statistics) = .ok results ∧
        List.Forall₂ (Judged env authority
          (authority.familyAlpha / barrier.expectedMemberCount) statistics)
          (byCandidate barrier.members) results) ∨
      (byCandidate barrier.members).mapM (adjustedResult env authority
          (authority.familyAlpha / barrier.expectedMemberCount) statistics) =
          .error (.evaluationError "workload_mde_invalid") ∧
        MdeRefused env (authority.familyAlpha / barrier.expectedMemberCount) statistics := by
  obtain ⟨-, -, -, -, -, ordered, -, -, -, -, phase⟩ := valid
  obtain ⟨positive, proper⟩ := round.familyAlpha
  have one : (1 : Rat) ≤ barrier.expectedMemberCount := by exact_mod_cast checks.frozen.1
  rw [RoundBarrierResult.PhaseValid, checks.binds.2.1] at phase
  exact adjustedResults_cases checks.bound (ordered.imp fun less => Std.ne_of_lt less) samples
    (div_pos positive (by linarith)) (lt_of_le_of_lt (div_le_self positive.le one) proper)
    fun member present => (phase.1 member present).2

/-- Each member of a family with results is judged. -/
theorem exists_judged {alpha : Rat}
    (judged : List.Forall₂ (Judged env authority alpha statistics)
      (byCandidate barrier.members) results) :
    ∀ member ∈ barrier.members, ∃ result, Judged env authority alpha statistics member result := by
  intro member present
  obtain ⟨result, -, judged⟩ := exists_of_forall₂ (List.Forall₂.flip judged)
    (mem_byCandidate.mpr present)
  exact ⟨result, judged⟩

variable (checks : FamilyChecks authority barrier statistics)
  (judged : List.Forall₂ (Judged env authority
    (authority.familyAlpha / barrier.expectedMemberCount) statistics)
    (byCandidate barrier.members) results)
include judged

/-- The results have the candidates of the members, in order. -/
theorem candidates_of_judged : results.map AdjustedCandidateResult.candidateId =
    (byCandidate barrier.members).map BarrierMemberResult.candidateId := by
  have same : List.Forall₂ (· = ·)
      ((byCandidate barrier.members).map BarrierMemberResult.candidateId)
      (results.map AdjustedCandidateResult.candidateId) := by
    rw [List.forall₂_map_left_iff, List.forall₂_map_right_iff]
    exact judged.imp fun member result judged => judged.candidateId.symm
  rw [List.forall₂_eq_eq_eq] at same
  exact same.symm

theorem length_of_judged : results.length = barrier.members.length := by
  rw [← judged.length_eq]
  exact (List.perm_insertionSort _ barrier.members).length_eq

variable (round : authority.Valid) (valid : barrier.Valid)
include checks round valid

/-- **Of the result of an accepted family its model can only refuse the time.** -/
theorem comparisonOf_valid_iff (createdAt : DateTime) :
    (comparisonOf env authority barrier results createdAt).Valid ↔ createdAt.offset ≠ none := by
  obtain ⟨-, -, -, -, count, ordered, -⟩ := valid
  refine ⟨fun accepted => accepted.aware, fun aware => ?_⟩
  have length := length_of_judged judged
  obtain ⟨atLeast, atMost⟩ := checks.frozen
  have atMost' : barrier.expectedMemberCount ≤ 2 := atMost.trans round.promotedCount.2
  have complete : results.length = barrier.expectedMemberCount := length.trans count
  have one : (1 : Rat) ≤ barrier.expectedMemberCount := by exact_mod_cast atLeast
  obtain ⟨positive, proper⟩ := round.familyAlpha
  exact {
    protocolVersion := show 1 ≤ "m2-bonferroni-bootstrap-v1".length ∧
      "m2-bonferroni-bootstrap-v1".length ≤ 200 by decide
    familyAlpha := round.familyAlpha
    m := ⟨atLeast, atMost'⟩
    alphaCandidate := ⟨div_pos positive (by linarith),
      lt_of_le_of_lt (div_le_self positive.le one) proper⟩
    results := ⟨atLeast.trans complete.ge, complete.le.trans atMost'⟩
    aware := aware
    mode := iff_of_true rfl rfl
    members := fun item present => (exists_of_forall₂ judged present).choose_spec.2.synthetic
    bonferroni := isClose_self _
    complete := complete
    ordered := by
      have sorted : ((byCandidate barrier.members).map
          BarrierMemberResult.candidateId).Pairwise (· < ·) :=
        pairwise_lt_insertionSort_tag BarrierMemberResult.candidateId
          (ordered.imp fun less => Std.ne_of_lt less)
      rw [← candidates_of_judged judged] at sorted
      exact sorted
    recommended := rfl }

omit checks round in
/-- The comparison of judged members says what a comparison says. -/
theorem compares_of_judged (createdAt : DateTime) :
    Compares env authority barrier statistics
      (comparisonOf env authority barrier results createdAt) := by
  obtain ⟨-, -, -, -, count, ordered, -⟩ := valid
  have perm := (List.perm_insertionSort (fun a b : BarrierMemberResult =>
    a.candidateId ≤ b.candidateId) barrier.members).map BarrierMemberResult.candidateId
  exact {
    once := by
      have same := candidates_of_judged judged
      exact same ▸ perm
    distinct := ordered.imp fun less => Std.ne_of_lt less
    frozen := count.symm
    level := by rw [count]; rfl
    judged := fun item present => by
      obtain ⟨member, there, judged⟩ := exists_of_forall₂ judged present
      exact ⟨member, mem_byCandidate.mp there, judged⟩
    recommended := fun _ recommended => recommendation_spec recommended
    silent := recommendation_eq_none }

end Comparison

/-! ## The order of the input -/

section Order

variable {env : FwerEnv} {authority : SearchRound} {barrier : RoundBarrierResult}
variable {statistics statistics' : List CandidateStatistics} {members' : List BarrierMemberResult}

/-- The order of the members does not matter to the checks of their statistics. -/
theorem checkStatistics_members_perm {state : RoundCandidateState} {mismatch : String}
    {members : List BarrierMemberResult} (perm : members.Perm members') :
    checkStatistics state mismatch members' statistics =
      checkStatistics state mismatch members statistics := by
  unfold checkStatistics
  have bound : ∀ item : CandidateStatistics, item.BoundTo members' ↔ item.BoundTo members :=
    fun item => exists_congr fun member => and_congr perm.symm.mem_iff Iff.rfl
  rw [require_congr (p := _ ∧ _) (and_congr
      (forall₂_congr fun item _ => exists_congr fun member =>
        and_congr perm.symm.mem_iff Iff.rfl)
      (forall_congr' fun member => imp_congr perm.symm.mem_iff Iff.rfl)),
    require_congr (forall₂_congr fun item _ => bound item)]

/-- The result of a member does not depend on the order of the statistics. -/
theorem adjustedResult_perm (alpha : Rat) (member : BarrierMemberResult)
    (distinct : (statistics.map CandidateStatistics.candidateId).Nodup)
    (perm : statistics.Perm statistics') :
    adjustedResult env authority alpha statistics' member =
      adjustedResult env authority alpha statistics member := by
  unfold adjustedResult
  rw [find?_perm distinct perm]

/-- **The comparison does not depend on the order of members and statistics.** -/
theorem bonferroniFwer_perm (createdAt : DateTime)
    (distinct : (barrier.members.map BarrierMemberResult.candidateId).Nodup)
    (sameMembers : barrier.members.Perm members') (sameStatistics : statistics.Perm statistics') :
    bonferroniFwer env authority { barrier with members := members' } statistics' createdAt =
      bonferroniFwer env authority barrier statistics createdAt := by
  have sorted : byCandidate members' = byCandidate barrier.members :=
    (insertionSort_tag_eq_of_perm BarrierMemberResult.candidateId sameMembers distinct).symm
  unfold bonferroniFwer
  refine Except.bind_congr_ok fun _ _ => Except.bind_congr_ok fun _ _ =>
    Except.bind_congr_ok fun _ _ => ?_
  rw [checkStatistics_members_perm sameMembers,
    ← checkStatistics_perm _ _ barrier.members sameStatistics]
  refine Except.bind_congr_ok fun _ bound => ?_
  have unique := (checkStatistics_eq_ok.mp bound).distinct
  have same : adjustedResult env authority (authority.familyAlpha / barrier.expectedMemberCount)
      statistics' = adjustedResult env authority
        (authority.familyAlpha / barrier.expectedMemberCount) statistics :=
    funext fun member => adjustedResult_perm _ member unique sameStatistics
  simp only [sorted, same]
  rfl

end Order

/-! ## The result -/

/-- **The Bonferroni comparison of a holdout family.** An accepted comparison judges each
member once at the level of the whole family and recommends the first of the accepted
members, if there is one; the models of its result accept it. It does not depend on the
order of members and statistics. An input that passes the checks is accepted when the time
of the comparison has a time zone, and otherwise the model of the result refuses it; an
input that fails them is refused by the function itself. -/
theorem bonferroni_comparison (env : FwerEnv) (authority : SearchRound)
    (barrier : RoundBarrierResult) (statistics : List CandidateStatistics) (createdAt : DateTime)
    (round : authority.Valid) (valid : barrier.Valid)
    (samples : ∀ item ∈ statistics, StatisticsValid item) :
    (∀ result, bonferroniFwer env authority barrier statistics createdAt = .ok result →
      Compares env authority barrier statistics result ∧ result.Valid ∧
        ∀ item ∈ result.candidateResults, item.Valid) ∧
    (∀ members' statistics', barrier.members.Perm members' → statistics.Perm statistics' →
      bonferroniFwer env authority { barrier with members := members' } statistics' createdAt =
        bonferroniFwer env authority barrier statistics createdAt) ∧
    (FwerChecks env authority barrier statistics →
      if createdAt.offset ≠ none then
        ∃ result, bonferroniFwer env authority barrier statistics createdAt = .ok result
      else bonferroniFwer env authority barrier statistics createdAt =
        .error (.validationError "MultipleComparisonResult")) ∧
    (¬FwerChecks env authority barrier statistics → ∃ code,
      bonferroniFwer env authority barrier statistics createdAt =
        .error (.evaluationError code)) := by
  have unique : (barrier.members.map BarrierMemberResult.candidateId).Nodup := by
    obtain ⟨-, -, -, -, -, ordered, -⟩ := valid
    exact ordered.imp fun less => Std.ne_of_lt less
  have familyCases := fun checks : FamilyChecks authority barrier statistics =>
    familyResults_cases env checks round valid samples
  refine ⟨fun result ok => ?_, fun members' statistics' sameMembers sameStatistics =>
    bonferroniFwer_perm createdAt unique sameMembers sameStatistics, fun checks => ?_,
    fun unchecked => ?_⟩
  · obtain ⟨checks, results, adjusted, accepted, rfl⟩ := bonferroniFwer_eq_ok.mp ok
    rcases familyCases checks with ⟨results', adjusted', judged⟩ | ⟨refused, -⟩
    · rw [adjusted] at adjusted'
      cases adjusted'
      refine ⟨compares_of_judged judged valid createdAt, accepted, fun item present => ?_⟩
      obtain ⟨member, -, judged⟩ := exists_of_forall₂ judged present
      exact judged.valid samples
    · rw [adjusted] at refused
      cases refused
  · rcases familyCases checks.toFamilyChecks with ⟨results, adjusted, judged⟩ | ⟨-, mde⟩
    · have accepts := comparisonOf_valid_iff checks.toFamilyChecks judged round valid createdAt
      split
      · rename_i aware
        exact ⟨_, bonferroniFwer_eq_ok.mpr
          ⟨checks.toFamilyChecks, results, adjusted, accepts.mpr aware, rfl⟩⟩
      · rename_i naive
        exact bonferroniFwer_refused checks.toFamilyChecks adjusted fun accepted =>
          naive (accepts.mp accepted)
    · exact absurd mde checks.detectable
  · cases outcome : bonferroniFwer env authority barrier statistics createdAt with
    | ok result =>
        obtain ⟨checks, results, adjusted, -, -⟩ := bonferroniFwer_eq_ok.mp outcome
        refine absurd ⟨checks, fun mde => ?_⟩ unchecked
        rcases familyCases checks with ⟨results', adjusted', judged⟩ | ⟨refused, -⟩
        · exact not_mdeRefused checks.bound (exists_judged judged) mde
        · rw [adjusted] at refused
          cases refused
    | error e =>
        rcases bonferroniFwer_eq_error outcome with ⟨code, rfl⟩ | ⟨checks, failed⟩
        · exact ⟨code, rfl⟩
        · rcases familyCases checks with ⟨results, adjusted, judged⟩ | ⟨refused, -⟩
          · exact absurd ⟨checks, not_mdeRefused checks.bound (exists_judged judged)⟩ unchecked
          · rcases failed with failed | ⟨results, adjusted, -⟩
            · rw [refused] at failed
              cases failed
              exact ⟨_, rfl⟩
            · rw [refused] at adjusted
              cases adjusted

/-! ### A family of two members -/

/-- A generator that goes round the sample, and exact statistics without spread. -/
def steadyEnv : FwerEnv where
  round := sameDigestEnv
  dump _ := .null
  floatText _ := "0.035"
  seed _ := 0
  randrange _ count index := index % count
  randrange_lt _ _ _ positive := Nat.mod_lt _ positive
  invCdf probability := probability
  stdev _ := 0
  sqrt value := value

/-- A round that waits for its holdout barrier. -/
def holdoutRound : SearchRound :=
  { barrierRound with
    maxPromoted := 2
    familyAlpha := ⟨7, 100, by decide, by decide⟩
    state := .holdoutBarrier
    holdoutFamilyHash := some "family"
    holdoutPlanHash := some "plan"
    holdoutRevealLeaseId := some 8
    holdoutRevealEvidenceHash := some "reveal" }

/-- A closed holdout barrier with a measured and a failed member. -/
def holdoutFamily : RoundBarrierResult where
  barrierId := 12
  roundId := 11
  runMode := .scripted
  synthetic := true
  phase := .holdout
  inputFamilyHash := "family"
  expectedMemberCount := 2
  members := [{ measuredMember 30 with candidateState := .holdoutMeasured },
    failedMember 31 .holdoutFailed]
  ruleVersion := "rule"
  ruleHash := "rule"
  outcome := .completed
  inputSummaryHash := "summary"
  closedBy := "closer"
  closedAt := 0
  idempotencyKey := "holdout-barrier"

theorem holdoutFamily_checks :
    FwerChecks steadyEnv holdoutRound holdoutFamily [steadyStatistics 30 "a" (1 / 20)] where
  round := rfl
  binds := by decide
  frozen := by decide
  bound := ⟨by decide, by decide, by decide, by decide, by decide⟩
  detectable := by
    rintro ⟨item, there, -, refused⟩
    rw [List.mem_singleton.mp there] at refused
    revert refused
    decide +kernel

theorem steadyStatistics_valid :
    ∀ item ∈ [steadyStatistics 30 "a" (1 / 20)], StatisticsValid item := by
  intro item there
  rw [List.mem_singleton.mp there]
  exact ⟨by decide, by decide, by decide +kernel, by decide, rfl, by decide, by decide⟩

/-- A measured and a failed member are compared at half the level of the family. -/
theorem bonferroni_comparison_pair : ∃ result,
    bonferroniFwer steadyEnv holdoutRound holdoutFamily [steadyStatistics 30 "a" (1 / 20)]
        ⟨0, some 0⟩ = .ok result ∧
      result.m = 2 ∧ result.alphaCandidate = 7 / 200 ∧ result.Valid := by
  have result := bonferroni_comparison steadyEnv holdoutRound holdoutFamily
    [steadyStatistics 30 "a" (1 / 20)] ⟨0, some 0⟩ (by decide) (by decide)
    steadyStatistics_valid
  have accepted := result.2.2.1 holdoutFamily_checks
  rw [if_pos (by decide)] at accepted
  obtain ⟨comparison, ok⟩ := accepted
  obtain ⟨compares, valid, -⟩ := result.1 comparison ok
  refine ⟨comparison, ok, compares.frozen, ?_, valid⟩
  rw [compares.level]
  decide +kernel

/-- A comparison at a time without a time zone passes the checks of the function and is
refused by the model of its result. -/
theorem naive_time_refused :
    holdoutRound.Valid ∧ holdoutFamily.Valid ∧
      (∀ item ∈ [steadyStatistics 30 "a" (1 / 20)], StatisticsValid item) ∧
      FwerChecks steadyEnv holdoutRound holdoutFamily [steadyStatistics 30 "a" (1 / 20)] ∧
      bonferroniFwer steadyEnv holdoutRound holdoutFamily [steadyStatistics 30 "a" (1 / 20)]
        ⟨0, none⟩ = .error (.validationError "MultipleComparisonResult") := by
  refine ⟨by decide, by decide, steadyStatistics_valid, holdoutFamily_checks, ?_⟩
  have checks := holdoutFamily_checks.toFamilyChecks
  rcases familyResults_cases steadyEnv checks (by decide) (by decide) steadyStatistics_valid with
    ⟨results, adjusted, -⟩ | ⟨-, mde⟩
  · exact bonferroniFwer_refused checks adjusted fun accepted => accepted.aware rfl
  · exact absurd mde holdoutFamily_checks.detectable

end M2Statistics

end HcuAutoOpt
