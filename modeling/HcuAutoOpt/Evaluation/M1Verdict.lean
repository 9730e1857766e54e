import HcuAutoOpt.Evaluation.M1Performance
import Mathlib.Analysis.Real.Sqrt

/-!
# What the performance verdict means

With exact roots, and a bootstrap that only draws indices of the sample, the verdict is a function
of the restarts (`conclusion`). Its interval is ordered, shorter candidate times can only move it
up, and the unit of time does not matter: effects and both detectability bounds are ratios.
-/

set_option autoImplicit false

namespace HcuAutoOpt

namespace M1

open Foundation

variable {K : Type} [Field K] [LinearOrder K] {A : Type}

/-- What the verdict relies on: exact roots, quantiles with a positive sum, and a bootstrap that
draws, for each resample, as many indices as the sample has items. -/
structure VerifierEnv.Exact (env : VerifierEnv K A) : Prop where
  sqrt_nonneg : ∀ x, 0 ≤ x → 0 ≤ env.sqrt x
  sqrt_mul_self : ∀ x, 0 ≤ x → env.sqrt x * env.sqrt x = x
  quantiles : ∀ alpha power, 0 < alpha → alpha < 1 → 1 / 2 < power → power < 1 →
    0 < env.invCdf (1 - alpha / 2) + env.invCdf power
  drawCount : ∀ evidenceHash count iterations,
    (env.draws evidenceHash count iterations).length = iterations
  drawLength : ∀ evidenceHash count iterations, ∀ draw ∈ env.draws evidenceHash count iterations,
    draw.length = count
  drawInside : ∀ evidenceHash count iterations, ∀ draw ∈ env.draws evidenceHash count iterations,
    ∀ index ∈ draw, index < count

/-! ## The interval -/

section Interval

variable [IsStrictOrderedRing K] [FloorRing K] {env : VerifierEnv K A} {values values' : List K}
  {evidenceHash : String} {iterations : Nat} {confidence : K}

omit [IsStrictOrderedRing K] [FloorRing K] in
theorem length_estimatesOf (exact : env.Exact) (values : List K) (evidenceHash : String)
    (iterations : Nat) :
    (estimatesOf env values evidenceHash iterations).length = iterations := by
  rw [estimatesOf, List.length_insertionSort, List.length_map, exact.drawCount]

omit [IsStrictOrderedRing K] [FloorRing K] in
theorem bootstrapEstimates_eq (exact : env.Exact) :
    bootstrapEstimates env values evidenceHash iterations =
      some (estimatesOf env values evidenceHash iterations) := by
  have inside := exact.drawInside evidenceHash values.length iterations
  have means : ∀ {draws : List (List Nat)},
      (∀ draw ∈ draws, ∀ index ∈ draw, index < values.length) →
        (draws.mapM fun (draw : List Nat) =>
          (draw.mapM fun index => values[index]?).map sampleMean) =
        some (draws.map fun draw => sampleMean (resample values draw)) := by
    intro draws within
    induction draws with
    | nil => rfl
    | cons draw draws ih =>
        rw [List.mapM_cons, ih fun other later => within other (List.mem_cons_of_mem draw later),
          mapM_getElem?_eq_some (within draw List.mem_cons_self)]
        rfl
  rw [bootstrapEstimates, means inside]
  rfl

/-- The positions of both percentiles are inside a sample, in order. -/
theorem positions_ordered (filled : values ≠ []) (nonneg : 0 ≤ confidence)
    (proper : confidence ≤ 1) :
    0 ≤ (1 - confidence) / 2 * ((values.length : K) - 1) ∧
      (1 - confidence) / 2 * ((values.length : K) - 1) ≤
        (1 - (1 - confidence) / 2) * ((values.length : K) - 1) ∧
      (1 - (1 - confidence) / 2) * ((values.length : K) - 1) ≤ (values.length : K) - 1 := by
  have width : (0 : K) ≤ (values.length : K) - 1 :=
    sub_nonneg.mpr (Nat.one_le_cast.mpr (List.length_pos_of_ne_nil filled))
  have tail : 0 ≤ (1 - confidence) / 2 := by linarith
  have half : (1 - confidence) / 2 ≤ 1 - (1 - confidence) / 2 := by linarith
  have whole : 1 - (1 - confidence) / 2 ≤ 1 := by linarith
  exact ⟨mul_nonneg tail width, mul_le_mul_of_nonneg_right half width,
    mul_le_of_le_one_left width whole⟩

omit [IsStrictOrderedRing K] [FloorRing K] in
theorem estimatesOf_ne_nil (exact : env.Exact) (count : 1 ≤ iterations) (values : List K)
    (evidenceHash : String) : estimatesOf env values evidenceHash iterations ≠ [] := by
  intro empty
  have length := length_estimatesOf exact values evidenceHash iterations
  rw [empty] at length
  exact absurd length.symm (Nat.one_le_iff_ne_zero.mp count)

/-- **The bootstrap interval.** -/
theorem bootstrapMeanCi_eq (exact : env.Exact) (enough : 2 ≤ values.length)
    (count : 1 ≤ iterations) (nonneg : 0 ≤ confidence) (proper : confidence ≤ 1) :
    bootstrapMeanCi env values evidenceHash iterations confidence =
      .ok (intervalOf env values evidenceHash iterations confidence) := by
  have filled := estimatesOf_ne_nil exact count values evidenceHash
  obtain ⟨-, ordered, inside⟩ := positions_ordered filled nonneg proper
  have lower := quantileAt_eq (ordered.trans inside) filled
  have upper := quantileAt_eq inside filled
  unfold bootstrapMeanCi
  refine Except.bind_eq_ok.mpr ⟨(), require_eq_ok.mpr enough, ?_⟩
  refine Except.bind_eq_ok.mpr ⟨_, requireSome_eq_ok.mpr (bootstrapEstimates_eq exact), ?_⟩
  refine Except.bind_eq_ok.mpr ⟨_, requireSome_eq_ok.mpr lower, ?_⟩
  exact Except.bind_eq_ok.mpr ⟨_, requireSome_eq_ok.mpr upper, rfl⟩

/-- **The interval is ordered.** -/
theorem intervalOf_ordered (exact : env.Exact) (count : 1 ≤ iterations)
    (nonneg : 0 ≤ confidence) (proper : confidence ≤ 1) :
    (intervalOf env values evidenceHash iterations confidence).1 ≤
      (intervalOf env values evidenceHash iterations confidence).2 := by
  have filled := estimatesOf_ne_nil exact count values evidenceHash
  obtain ⟨low, ordered, inside⟩ := positions_ordered filled nonneg proper
  exact lineValue_le_of_le (List.pairwise_insertionSort _ _) low ordered inside filled

omit [FloorRing K] in
/-- The estimates grow with the values. -/
theorem estimatesOf_mono (exact : env.Exact) (le : List.Forall₂ (· ≤ ·) values values')
    (evidenceHash : String) (iterations : Nat) :
    List.Forall₂ (· ≤ ·) (estimatesOf env values evidenceHash iterations)
      (estimatesOf env values' evidenceHash iterations) := by
  rw [estimatesOf, estimatesOf, ← le.length_eq]
  refine forall₂_insertionSort ?_
  rw [List.forall₂_map_left_iff, List.forall₂_map_right_iff, List.forall₂_same]
  exact fun draw member => sampleMean_mono
    (resample_mono le (exact.drawInside _ _ _ draw member))

/-- **The interval moves up with the values.** -/
theorem intervalOf_mono (exact : env.Exact) (count : 1 ≤ iterations) (nonneg : 0 ≤ confidence)
    (proper : confidence ≤ 1) (le : List.Forall₂ (· ≤ ·) values values')
    (evidenceHash : String) :
    (intervalOf env values evidenceHash iterations confidence).1 ≤
        (intervalOf env values' evidenceHash iterations confidence).1 ∧
      (intervalOf env values evidenceHash iterations confidence).2 ≤
        (intervalOf env values' evidenceHash iterations confidence).2 := by
  have filled := estimatesOf_ne_nil exact count values evidenceHash
  have grows := estimatesOf_mono exact le evidenceHash iterations
  obtain ⟨low, ordered, inside⟩ := positions_ordered filled nonneg proper
  simp only [intervalOf, ← grows.length_eq]
  exact ⟨lineValue_mono grows low (ordered.trans inside) filled,
    lineValue_mono grows (low.trans ordered) inside filled⟩

end Interval

/-! ## The effects and the bound of the baselines -/

section Restarts

variable [IsStrictOrderedRing K] {env : VerifierEnv K A}
  {restart restart' : RestartSamples K} {restarts restarts' : List (RestartSamples K)}
  {alpha power factor : K}

theorem baselineMean_pos (restart : RestartSamples K) : 0 < sampleMean restart.baselineNs :=
  sampleMean_pos (List.ne_nil_of_length_pos restart.baselineCount.1) fun value member =>
    restart.positive value (List.mem_append_left _ member)

/-- A restart with the same baseline whose candidate took no longer. -/
structure RestartSamples.Quicker (restart restart' : RestartSamples K) : Prop where
  baselineNs : restart'.baselineNs = restart.baselineNs
  candidateNs : List.Forall₂ (· ≤ ·) restart'.candidateNs restart.candidateNs

/-- A restart in another unit of time. -/
structure RestartSamples.Rescaled (factor : K) (restart restart' : RestartSamples K) : Prop where
  baselineNs : restart'.baselineNs = restart.baselineNs.map (factor * ·)
  candidateNs : restart'.candidateNs = restart.candidateNs.map (factor * ·)

/-- A shorter candidate time has a greater effect. -/
theorem restartEffect_mono (quicker : restart.Quicker restart') :
    restartEffect restart ≤ restartEffect restart' := by
  rw [restartEffect, restartEffect, quicker.baselineNs]
  exact div_le_div_of_nonneg_right
    (sub_le_sub_left (sampleMean_mono quicker.candidateNs) _) (baselineMean_pos restart).le

omit [IsStrictOrderedRing K] in
/-- The effect does not depend on the unit. -/
theorem restartEffect_rescaled (scaled : restart.Rescaled factor restart')
    (nonzero : factor ≠ 0) : restartEffect restart' = restartEffect restart := by
  rw [restartEffect, restartEffect, scaled.baselineNs, scaled.candidateNs, sampleMean_map_mul,
    sampleMean_map_mul, ← mul_sub, mul_div_mul_left _ _ nonzero]

theorem mdeOf_nonneg (exact : env.Exact) (filled : restarts ≠ []) (alphaPos : 0 < alpha)
    (alphaLess : alpha < 1) (powerMore : 1 / 2 < power) (powerLess : power < 1) :
    0 ≤ mdeOf env restarts alpha power := by
  have means : baselineMeans restarts ≠ [] := fun empty => filled (List.map_eq_nil_iff.mp empty)
  have positive : ∀ mean ∈ baselineMeans restarts, 0 < mean := by
    intro mean member
    obtain ⟨restart, -, rfl⟩ := List.mem_map.mp member
    exact baselineMean_pos restart
  have quantiles := (exact.quantiles alpha power alphaPos alphaLess powerMore powerLess).le
  have sigma := exact.sqrt_nonneg _ (sampleVariance_nonneg means)
  have share := exact.sqrt_nonneg (2 / ((baselineMeans restarts).length : K)) (by positivity)
  exact div_nonneg (mul_nonneg (mul_nonneg quantiles sigma) share)
    (sampleMean_pos means positive).le

/-- **The bound of the baselines.** -/
theorem workloadBaselineMde_eq (exact : env.Exact) (enough : 2 ≤ restarts.length)
    (alphaPos : 0 < alpha) (alphaLess : alpha < 1) (powerMore : 1 / 2 < power)
    (powerLess : power < 1) :
    workloadBaselineMde env restarts alpha power = .ok (mdeOf env restarts alpha power) := by
  have filled : restarts ≠ [] := List.ne_nil_of_length_pos (by omega)
  have nonneg := mdeOf_nonneg exact filled alphaPos alphaLess powerMore powerLess
  have count : 2 ≤ (baselineMeans restarts).length := by
    rw [baselineMeans, List.length_map]
    exact enough
  have sigma : stdev env (baselineMeans restarts) =
      .ok (env.sqrt (sampleVariance (baselineMeans restarts))) :=
    Except.bind_eq_ok.mpr ⟨(), require_eq_ok.mpr count, rfl⟩
  exact Except.bind_eq_ok.mpr ⟨_, sigma, Except.bind_eq_ok.mpr
    ⟨(), require_eq_ok.mpr nonneg, rfl⟩⟩

omit [IsStrictOrderedRing K] in
/-- The bound only depends on the baselines. -/
theorem mdeOf_quicker (quicker : List.Forall₂ RestartSamples.Quicker restarts restarts') :
    mdeOf env restarts' alpha power = mdeOf env restarts alpha power := by
  have means : baselineMeans restarts' = baselineMeans restarts := by
    induction quicker with
    | nil => rfl
    | cons first _ ih => exact congrArg₂ List.cons (congrArg sampleMean first.baselineNs) ih
  rw [mdeOf, mdeOf, means]

/-- A root of a square times a number. -/
theorem VerifierEnv.Exact.sqrt_sq_mul (exact : env.Exact) (positive : 0 < factor) {value : K}
    (nonneg : 0 ≤ value) : env.sqrt (factor ^ 2 * value) = factor * env.sqrt value := by
  have scaled : 0 ≤ factor ^ 2 * value := mul_nonneg (sq_nonneg factor) nonneg
  refine (mul_self_inj (exact.sqrt_nonneg _ scaled)
    (mul_nonneg positive.le (exact.sqrt_nonneg _ nonneg))).mp ?_
  calc env.sqrt (factor ^ 2 * value) * env.sqrt (factor ^ 2 * value)
      = factor ^ 2 * value := exact.sqrt_mul_self _ scaled
    _ = factor ^ 2 * (env.sqrt value * env.sqrt value) := by rw [exact.sqrt_mul_self _ nonneg]
    _ = factor * env.sqrt value * (factor * env.sqrt value) := by ring

/-- **The bound does not depend on the unit.** -/
theorem mdeOf_rescaled (exact : env.Exact) (positive : 0 < factor) (filled : restarts ≠ [])
    (scaled : List.Forall₂ (RestartSamples.Rescaled factor) restarts restarts') :
    mdeOf env restarts' alpha power = mdeOf env restarts alpha power := by
  have means : baselineMeans restarts' = (baselineMeans restarts).map (factor * ·) := by
    clear filled
    induction scaled with
    | nil => rfl
    | cons first _ ih =>
        exact congrArg₂ List.cons
          ((congrArg sampleMean first.baselineNs).trans (sampleMean_map_mul factor _)) ih
  have variance : 0 ≤ sampleVariance (baselineMeans restarts) :=
    sampleVariance_nonneg fun empty => filled (List.map_eq_nil_iff.mp empty)
  rw [mdeOf, mdeOf, means, sampleVariance_map_mul, exact.sqrt_sq_mul positive variance,
    sampleMean_map_mul, List.length_map, mul_left_comm, mul_assoc factor,
    mul_div_mul_left _ _ positive.ne']

end Restarts

/-! ## The verdict at a threshold -/

section Threshold

variable {lower upper lower' upper' threshold : K}

theorem verdictAt_faster_iff : verdictAt lower upper threshold = .faster ↔ threshold < lower := by
  unfold verdictAt
  split
  · simp [*]
  · split <;> simp [*]

theorem verdictAt_inconclusive_iff : verdictAt lower upper threshold = .inconclusive ↔
    ¬ threshold < lower ∧ ¬ upper < -threshold := by
  unfold verdictAt
  split
  · simp [*]
  · split <;> simp [*]

variable [IsStrictOrderedRing K]

theorem verdictAt_slower_iff (ordered : lower ≤ upper) (positive : 0 < threshold) :
    verdictAt lower upper threshold = .slower ↔ upper < -threshold := by
  unfold verdictAt
  split
  next above =>
    have no : ¬ upper < -threshold := by linarith
    simp [no]
  next => split <;> simp [*]

/-- **An interval that moves up does not turn to a worse verdict.** -/
theorem verdictAt_mono (ordered : lower ≤ upper) (ordered' : lower' ≤ upper')
    (positive : 0 < threshold) (lowerLe : lower ≤ lower') (upperLe : upper ≤ upper') :
    (verdictAt lower upper threshold = .faster → verdictAt lower' upper' threshold = .faster) ∧
      (verdictAt lower upper threshold ≠ .slower →
        verdictAt lower' upper' threshold ≠ .slower) := by
  rw [verdictAt_faster_iff, verdictAt_faster_iff, Ne, verdictAt_slower_iff ordered positive, Ne,
    verdictAt_slower_iff ordered' positive]
  exact ⟨fun above => above.trans_le lowerLe, fun not below => not (upperLe.trans_lt below)⟩

end Threshold

/-! ## The conclusion -/

section Conclusion

variable {env : VerifierEnv K A} {evidence : MeasurementEvidence A}
  {input other : VerifiedInput K A} {factor : K}

/-- The samples of an arm of a restart. -/
def RestartSamples.arm (restart : RestartSamples K) : Arm → List K
  | .baseline => restart.baselineNs
  | .candidate => restart.candidateNs

/-- Over all restarts, an arm has the samples of its acquisitions, each once and in order. -/
theorem Grouped.flatMap_arm {nsPerTick : K} {acquisitions : List Acquisition}
    {restarts : List (RestartSamples K)} (grouped : Grouped nsPerTick acquisitions restarts)
    (arm : Arm) : (restarts.flatMap fun restart => restart.arm arm) =
      (acquisitions.filter fun item => item.arm = arm).flatMap (durations nsPerTick) := by
  obtain ⟨groups, rfl, makes⟩ := grouped
  induction makes with
  | nil => rfl
  | @cons group restart groups restarts here _ ih =>
      have arms : group.first.arm = .baseline ∧ group.second.arm = .candidate ∧
          group.third.arm = .candidate ∧ group.fourth.arm = .baseline := by
        simpa [AbbaGroup.acquisitions] using here.arms
      obtain ⟨first, second, third, fourth⟩ := arms
      rw [List.flatMap_cons, List.flatMap_cons, List.filter_append, List.flatMap_append, ih]
      refine congrArg (· ++ _) ?_
      cases arm with
      | baseline =>
          simp [AbbaGroup.acquisitions, RestartSamples.arm, first, second, third, fourth,
            here.baseline]
      | candidate =>
          simp [AbbaGroup.acquisitions, RestartSamples.arm, first, second, third, fourth,
            here.candidate]

/-- **What an accepted evidence is turned into.** -/
theorem verifyEvidence_eq_ok (accepted : verifyEvidence env evidence = .ok input) :
    (∃ nsPerTick, env.authority evidence = .ok (input.authority, nsPerTick) ∧
      Grouped nsPerTick evidence.acquisitions input.restarts) ∧
    input.evidenceHash = evidence.evidenceHash ∧ input.cleanupHealthy = true ∧
    input.bindingsValid = true := by
  obtain ⟨⟨authority, nsPerTick⟩, found, onward⟩ := Except.bind_eq_ok.mp accepted
  obtain ⟨read, reads, judged⟩ := Except.bind_eq_ok.mp onward
  obtain ⟨restarts, grouped, built⟩ := Except.bind_eq_ok.mp judged
  dsimp only at built
  split at built
  · cases built
    have related := (mapM_ok_iff.mp reads).imp fun _ _ => readAcquisition_eq_ok
    exact ⟨⟨nsPerTick, found, groupRestarts_eq_ok related grouped⟩, rfl, rfl, rfl⟩
  · cases built

variable [IsStrictOrderedRing K] [FloorRing K]

/-- The interval of an input. -/
def VerifiedInput.interval (env : VerifierEnv K A) (input : VerifiedInput K A) : K × K :=
  intervalOf env (input.restarts.map restartEffect) input.evidenceHash
    input.authority.bootstrapResamples (1 - input.authority.alpha)

/-- The bound of the baselines of an input. -/
def VerifiedInput.workloadMde (env : VerifierEnv K A) (input : VerifiedInput K A) : K :=
  mdeOf env input.restarts input.authority.alpha input.authority.power

/-- The threshold of an input. -/
def VerifiedInput.threshold (env : VerifierEnv K A) (input : VerifiedInput K A) : K :=
  max input.authority.mdeRatio (input.workloadMde env)

/-- The result for an input that is judged. -/
def conclusion (env : VerifierEnv K A) (input : VerifiedInput K A) : VerificationResult K A :=
  let effects := input.restarts.map restartEffect
  let interval := input.interval env
  let threshold := input.threshold env
  let verdict := verdictAt interval.1 interval.2 threshold
  ⟨verdict, some (sampleMean effects), some interval, input.authority.mdeRatio,
    input.workloadMde env, threshold, effects, [], [reasonOf verdict], input.evidenceHash,
    input.processIdentities, input.cacheNamespaces, input.audit⟩

omit [IsStrictOrderedRing K] [FloorRing K] in
theorem VerifiedInput.restarts_ne_nil (input : VerifiedInput K A) : input.restarts ≠ [] :=
  List.ne_nil_of_length_pos (Nat.lt_of_lt_of_le Nat.zero_lt_two input.valid.restartCount.1)

/-- **The verdict is a function of the input.** -/
theorem adjudicateVerifiedPerformance_eq (exact : env.Exact)
    (healthy : input.cleanupHealthy = true) (bound : input.bindingsValid = true) :
    adjudicateVerifiedPerformance env "correct" input = .ok (conclusion env input) := by
  have enough : 2 ≤ (input.restarts.map restartEffect).length := by
    rw [List.length_map]
    exact input.valid.restartCount.1
  have count : 1 ≤ input.authority.bootstrapResamples :=
    le_trans (by decide) input.valid.resamples
  obtain ⟨alphaPos, alphaLess⟩ := input.valid.alpha
  have interval : bootstrapMeanCi env (input.restarts.map restartEffect) input.evidenceHash
      input.authority.bootstrapResamples (1 - input.authority.alpha) = .ok (input.interval env) :=
    bootstrapMeanCi_eq exact enough count (sub_nonneg.mpr alphaLess.le) (sub_le_self 1 alphaPos.le)
  have mde := workloadBaselineMde_eq exact input.valid.restartCount.1 alphaPos alphaLess
    input.valid.power.1 input.valid.power.2
  rw [adjudicateVerifiedPerformance, if_neg (by simp), if_neg (by simp [healthy, bound])]
  refine Except.bind_eq_ok.mpr ⟨_, interval, ?_⟩
  exact Except.bind_eq_ok.mpr ⟨_, mde, rfl⟩

theorem VerifiedInput.interval_ordered (exact : env.Exact) (input : VerifiedInput K A) :
    (input.interval env).1 ≤ (input.interval env).2 :=
  intervalOf_ordered exact (le_trans (by decide) input.valid.resamples)
    (sub_nonneg.mpr input.valid.alpha.2.le) (sub_le_self 1 input.valid.alpha.1.le)

omit [IsStrictOrderedRing K] [FloorRing K] in
theorem VerifiedInput.threshold_pos (input : VerifiedInput K A) : 0 < input.threshold env :=
  lt_max_of_lt_left input.valid.mdeRatio.1

/-- The same measurement with candidates that took no longer. -/
structure VerifiedInput.Quicker (input other : VerifiedInput K A) : Prop where
  evidenceHash : other.evidenceHash = input.evidenceHash
  authority : other.authority = input.authority
  cleanupHealthy : other.cleanupHealthy = input.cleanupHealthy
  bindingsValid : other.bindingsValid = input.bindingsValid
  restarts : List.Forall₂ RestartSamples.Quicker input.restarts other.restarts

/-- The same measurement in another unit of time. -/
structure VerifiedInput.Rescaled (factor : K) (input other : VerifiedInput K A) : Prop where
  evidenceHash : other.evidenceHash = input.evidenceHash
  authority : other.authority = input.authority
  cleanupHealthy : other.cleanupHealthy = input.cleanupHealthy
  bindingsValid : other.bindingsValid = input.bindingsValid
  restarts : List.Forall₂ (RestartSamples.Rescaled factor) input.restarts other.restarts

/-- **Shorter candidate times never make the verdict worse.** -/
theorem conclusion_quicker (exact : env.Exact) (quicker : input.Quicker other) :
    ((conclusion env input).verdict = .faster → (conclusion env other).verdict = .faster) ∧
      ((conclusion env input).verdict ≠ .slower → (conclusion env other).verdict ≠ .slower) := by
  have effects : List.Forall₂ (· ≤ ·) (input.restarts.map restartEffect)
      (other.restarts.map restartEffect) := by
    rw [List.forall₂_map_left_iff, List.forall₂_map_right_iff]
    exact quicker.restarts.imp fun _ _ => restartEffect_mono
  have count : 1 ≤ input.authority.bootstrapResamples :=
    le_trans (by decide) input.valid.resamples
  have moves := intervalOf_mono exact count (sub_nonneg.mpr input.valid.alpha.2.le)
    (sub_le_self 1 input.valid.alpha.1.le) effects input.evidenceHash
  have sameThreshold : other.threshold env = input.threshold env := by
    rw [VerifiedInput.threshold, VerifiedInput.workloadMde, quicker.authority,
      mdeOf_quicker quicker.restarts]
    rfl
  have lowerLe : (input.interval env).1 ≤ (other.interval env).1 := by
    rw [VerifiedInput.interval, VerifiedInput.interval, quicker.authority, quicker.evidenceHash]
    exact moves.1
  have upperLe : (input.interval env).2 ≤ (other.interval env).2 := by
    rw [VerifiedInput.interval, VerifiedInput.interval, quicker.authority, quicker.evidenceHash]
    exact moves.2
  simp only [conclusion, sameThreshold]
  exact verdictAt_mono (input.interval_ordered exact) (other.interval_ordered exact)
    input.threshold_pos lowerLe upperLe

/-- **The unit of time does not matter.** -/
theorem conclusion_rescaled (exact : env.Exact) (positive : 0 < factor)
    (scaled : input.Rescaled factor other) :
    (conclusion env other).restartEffects = (conclusion env input).restartEffects ∧
      (conclusion env other).confidenceInterval = (conclusion env input).confidenceInterval ∧
      (conclusion env other).credibleThreshold = (conclusion env input).credibleThreshold ∧
      (conclusion env other).verdict = (conclusion env input).verdict := by
  have effects : other.restarts.map restartEffect = input.restarts.map restartEffect := by
    have each : List.Forall₂ (· = ·) (input.restarts.map restartEffect)
        (other.restarts.map restartEffect) := by
      rw [List.forall₂_map_left_iff, List.forall₂_map_right_iff]
      exact scaled.restarts.imp fun _ _ here => (restartEffect_rescaled here positive.ne').symm
    rw [List.forall₂_eq_eq_eq] at each
    exact each.symm
  have sameInterval : other.interval env = input.interval env := by
    rw [VerifiedInput.interval, VerifiedInput.interval, effects, scaled.authority,
      scaled.evidenceHash]
  have sameThreshold : other.threshold env = input.threshold env := by
    rw [VerifiedInput.threshold, VerifiedInput.workloadMde, scaled.authority,
      mdeOf_rescaled exact positive input.restarts_ne_nil scaled.restarts]
    rfl
  simp only [conclusion, effects, sameInterval, sameThreshold]
  exact ⟨trivial, trivial, trivial, trivial⟩

/-- **The performance verdict.** The restarts of an accepted evidence are its acquisitions in
groups, each sample in one arm of one restart. The verdict says where the interval lies relative
to the greater of both bounds; it does not become worse with shorter candidate times, and does not
change with the unit of time. -/
theorem m1_performance_verdict (exact : env.Exact)
    (accepted : verifyEvidence env evidence = .ok input) :
    (∃ nsPerTick, env.authority evidence = .ok (input.authority, nsPerTick) ∧
      Grouped nsPerTick evidence.acquisitions input.restarts ∧
      ∀ arm, (input.restarts.flatMap fun restart => restart.arm arm) =
        (evidence.acquisitions.filter fun item => item.arm = arm).flatMap
          (durations nsPerTick)) ∧
    ∃ result lower upper, adjudicateVerifiedPerformance env "correct" input = .ok result ∧
      result.confidenceInterval = some (lower, upper) ∧ lower ≤ upper ∧
      result.stage0MdeRatio = input.authority.mdeRatio ∧
      workloadBaselineMde env input.restarts input.authority.alpha input.authority.power =
        .ok result.workloadMdeRatio ∧
      result.credibleThreshold = max result.stage0MdeRatio result.workloadMdeRatio ∧
      (result.verdict = .faster ↔ result.credibleThreshold < lower) ∧
      (result.verdict = .slower ↔ upper < -result.credibleThreshold) ∧
      (result.verdict = .inconclusive ↔
        ¬ result.credibleThreshold < lower ∧ ¬ upper < -result.credibleThreshold) ∧
      (∀ other, input.Quicker other → ∃ result',
        adjudicateVerifiedPerformance env "correct" other = .ok result' ∧
        (result.verdict = .faster → result'.verdict = .faster) ∧
        (result.verdict ≠ .slower → result'.verdict ≠ .slower)) ∧
      (∀ factor, 0 < factor → ∀ other, input.Rescaled factor other → ∃ result',
        adjudicateVerifiedPerformance env "correct" other = .ok result' ∧
        result'.restartEffects = result.restartEffects ∧
        result'.confidenceInterval = result.confidenceInterval ∧
        result'.credibleThreshold = result.credibleThreshold ∧
        result'.verdict = result.verdict) := by
  obtain ⟨⟨nsPerTick, found, grouped⟩, -, healthy, bound⟩ := verifyEvidence_eq_ok accepted
  have ordered := input.interval_ordered exact
  have mde := workloadBaselineMde_eq exact input.valid.restartCount.1 input.valid.alpha.1
    input.valid.alpha.2 input.valid.power.1 input.valid.power.2
  refine ⟨⟨nsPerTick, found, grouped, grouped.flatMap_arm⟩, conclusion env input,
    (input.interval env).1, (input.interval env).2,
    adjudicateVerifiedPerformance_eq exact healthy bound, rfl, ordered, rfl, mde, rfl,
    verdictAt_faster_iff, verdictAt_slower_iff ordered input.threshold_pos,
    verdictAt_inconclusive_iff, ?_, ?_⟩
  · intro other quicker
    exact ⟨conclusion env other, adjudicateVerifiedPerformance_eq exact
      (quicker.cleanupHealthy.trans healthy) (quicker.bindingsValid.trans bound),
      conclusion_quicker exact quicker⟩
  · intro factor positive other scaled
    exact ⟨conclusion env other, adjudicateVerifiedPerformance_eq exact
      (scaled.cleanupHealthy.trans healthy) (scaled.bindingsValid.trans bound),
      conclusion_rescaled exact positive scaled⟩

end Conclusion

/-! ## A measurement of two restarts -/

/-- The event of an arm: the candidate takes half as long as the baseline. -/
def halvedEvent (arm : Arm) : DeviceEvent :=
  ⟨0, if arm = .baseline then 10 else 5, 1, ["timer"], []⟩

/-- Surroundings of the measurement, with the quantiles of its two levels. -/
noncomputable def halvedEnv : VerifierEnv ℝ Unit where
  authority _ := .ok (⟨1 / 10, 1 / 25, 9 / 10, 1000⟩, 1)
  acquisition _ item := .ok item.processStartToken
  readEvent uri _ := .ok (halvedEvent (if uri = "baseline" then .baseline else .candidate))
  invCdf p := if p ≤ 9 / 10 then 1.2815515655446 else 1.95996398454005
  sqrt := Real.sqrt
  draws _ count iterations := List.replicate iterations (List.range count)

theorem halvedEnv_exact : halvedEnv.Exact where
  sqrt_nonneg x _ := Real.sqrt_nonneg x
  sqrt_mul_self _ nonneg := Real.mul_self_sqrt nonneg
  quantiles alpha power _ _ _ _ := by
    simp only [halvedEnv]
    split <;> split <;> norm_num
  drawCount _ _ _ := List.length_replicate
  drawLength _ count _ draw member := by
    rw [List.eq_of_mem_replicate member, List.length_range]
  drawInside _ count _ draw member index inside := by
    rw [List.eq_of_mem_replicate member] at inside
    exact List.mem_range.mp inside

/-- An acquisition with one sample. -/
def halvedAcquisition (acquisitionOrdinal : Nat) (arm : Arm) (token : String) : Acquisition :=
  ⟨acquisitionOrdinal, arm, 7, token,
    [⟨halvedEvent arm, if arm = .baseline then "baseline" else "candidate", "digest"⟩]⟩

/-- The evidence of two restarts. -/
def halvedEvidence : MeasurementEvidence Unit where
  acquisitions := [halvedAcquisition 0 .baseline "a", halvedAcquisition 1 .candidate "b",
    halvedAcquisition 2 .candidate "c", halvedAcquisition 3 .baseline "d",
    halvedAcquisition 4 .baseline "e", halvedAcquisition 5 .candidate "f",
    halvedAcquisition 6 .candidate "g", halvedAcquisition 7 .baseline "h"]
  producerIdentities := [["timer"]]
  evidenceHash := "hash"
  processRestartCount := 8
  audit := ()

/-- What is read of an acquisition. -/
noncomputable def halvedRead (arm : Arm) (token : String) : ReadAcquisition ℝ :=
  ⟨arm, [if arm = .baseline then 10 else 5], s!"{7}:{token}", token⟩

theorem readAcquisition_halved (acquisitionOrdinal : Nat) (arm : Arm) (token : String) :
    readAcquisition halvedEnv halvedEvidence 1 (halvedAcquisition acquisitionOrdinal arm token) =
      .ok (halvedRead arm token) := by
  cases arm <;>
    simp [readAcquisition, readSample, halvedAcquisition, halvedEnv, halvedEvent, halvedEvidence,
      halvedRead, elapsedNs, require, bind, Except.bind, pure, Except.pure]

/-- A restart of the measurement. -/
noncomputable def halvedRestart (restartOrdinal : Nat) : RestartSamples ℝ where
  restartOrdinal := restartOrdinal
  baselineNs := [10, 10]
  candidateNs := [5, 5]
  baselineCount := by simp
  sameCount := rfl
  positive := by simp

theorem restartSamples_halved (restartOrdinal : Nat) :
    restartSamples restartOrdinal [(10 : ℝ), 10] [5, 5] = .ok (halvedRestart restartOrdinal) :=
  dif_pos ⟨(halvedRestart restartOrdinal).baselineCount, rfl,
    (halvedRestart restartOrdinal).positive⟩

theorem groupRestarts_halved (restartOrdinal : Nat) (a b c d : String)
    {rest : List (ReadAcquisition ℝ)} {restarts : List (RestartSamples ℝ)}
    (onward : groupRestarts (restartOrdinal + 1) rest = .ok restarts) :
    groupRestarts restartOrdinal (halvedRead .baseline a :: halvedRead .candidate b ::
      halvedRead .candidate c :: halvedRead .baseline d :: rest) =
        .ok (halvedRestart restartOrdinal :: restarts) := by
  rw [groupRestarts]
  refine Except.bind_eq_ok.mpr ⟨(), require_eq_ok.mpr rfl, ?_⟩
  refine Except.bind_eq_ok.mpr ⟨_, restartSamples_halved restartOrdinal, ?_⟩
  exact Except.bind_eq_ok.mpr ⟨_, onward, rfl⟩

/-- The input of the measurement. -/
noncomputable def halvedInput : VerifiedInput ℝ Unit where
  evidenceHash := "hash"
  authority := ⟨1 / 10, 1 / 25, 9 / 10, 1000⟩
  restarts := [halvedRestart 0, halvedRestart 1]
  processRestartCount := 8
  processIdentities := ["7:a", "7:b", "7:c", "7:d", "7:e", "7:f", "7:g", "7:h"]
  cacheNamespaces := ["a", "b", "c", "d", "e", "f", "g", "h"]
  cleanupHealthy := true
  bindingsValid := true
  audit := ()
  valid := {
    mdeRatio := by norm_num
    alpha := by norm_num
    power := by norm_num
    resamples := by norm_num
    restartCount := by simp
    processCount := by norm_num
    ordinals := rfl
    identities := by decide
    namespaces := by decide }

theorem verifyEvidence_halved : verifyEvidence halvedEnv halvedEvidence = .ok halvedInput := by
  refine Except.bind_eq_ok.mpr ⟨(⟨1 / 10, 1 / 25, 9 / 10, 1000⟩, 1), rfl, ?_⟩
  refine Except.bind_eq_ok.mpr ⟨[halvedRead .baseline "a", halvedRead .candidate "b",
    halvedRead .candidate "c", halvedRead .baseline "d", halvedRead .baseline "e",
    halvedRead .candidate "f", halvedRead .candidate "g", halvedRead .baseline "h"], ?_, ?_⟩
  · refine mapM_ok_iff.mpr ?_
    repeat' first
      | exact readAcquisition_halved _ _ _
      | apply List.Forall₂.cons
      | apply List.Forall₂.nil
  · have none : groupRestarts 2 ([] : List (ReadAcquisition ℝ)) = .ok [] := by
      rw [groupRestarts]
      rfl
    have last := groupRestarts_halved 1 "e" "f" "g" "h" none
    refine Except.bind_eq_ok.mpr ⟨_, groupRestarts_halved 0 "a" "b" "c" "d" last, ?_⟩
    exact dif_pos halvedInput.valid

theorem m1_performance_verdict_halved :
    verifyEvidence halvedEnv halvedEvidence = .ok halvedInput ∧
    ∃ result lower upper, adjudicateVerifiedPerformance halvedEnv "correct" halvedInput =
      .ok result ∧ result.confidenceInterval = some (lower, upper) ∧ lower ≤ upper ∧
      (result.verdict = .faster ↔ result.credibleThreshold < lower) := by
  obtain ⟨-, result, lower, upper, judged, interval, ordered, -, -, -, faster, -⟩ :=
    m1_performance_verdict halvedEnv_exact verifyEvidence_halved
  exact ⟨verifyEvidence_halved, result, lower, upper, judged, interval, ordered, faster⟩

end M1

end HcuAutoOpt
