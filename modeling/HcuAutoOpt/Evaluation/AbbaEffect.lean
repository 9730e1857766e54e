import HcuAutoOpt.Evaluation.DeviceSamples
import HcuAutoOpt.Evaluation.FamilyVerdicts
import HcuAutoOpt.Foundation.RunLengths
import Mathlib.Algebra.BigOperators.Ring.List
import Mathlib.Algebra.Order.BigOperators.Group.List
import Mathlib.Algebra.Order.Field.Basic

/-!
# The ABBA effect

`compute_abba_effect` compares two arms that were measured in turn: every restart acquires the
baseline, twice the comparison, and the baseline again. The samples it accepts are those of a
plan of restarts and segments (`abbaPlan`), and the effect is the mean over the restarts of the
relative difference of the means of the arms.

**The grammar.** A file of raw samples is normalized and has an effect exactly when it is
acquired along a plan with at least two restarts, each with four segments of one positive size
(`abba_grammar`). The effect depends on the durations of each segment only as a multiset and
only up to a common factor, and every sample counts.

The arithmetic is exact; the generator of the bootstrap is a parameter.
-/

set_option autoImplicit false

namespace HcuAutoOpt

namespace Stage0

open Foundation

open M2Statistics (fmean)

/-! ## Statistics of samples -/

/-- `_validate_normalized_samples`, one turn. -/
def validateSample (requireAbba : Bool) (position : Nat) (seen : List Int) (previous : Int)
    (sample : NormalizedSample) : Except StatisticsError NormalizedSample := do
  require (0 ≤ sample.restartOrdinal) ⟨s!"sample {position} has invalid restart_ordinal"⟩
  require (0 ≤ sample.acquisitionOrdinal)
    ⟨s!"sample {position} has invalid acquisition_ordinal"⟩
  checkOrder position seen previous sample.acquisitionOrdinal sample.restartOrdinal
  require (0 < sample.sampleNs) ⟨s!"sample {position} sample_ns must be finite and positive"⟩
  require (requireAbba = true → sample.arm ≠ none ∧ sample.segment ≠ none)
    ⟨s!"sample {position} is missing ABBA arm or segment"⟩
  require (requireAbba = true → (sample.arm = some .a ∨ sample.arm = some .b) ∧
      sample.segment.map Segment.arm = sample.arm)
    ⟨s!"sample {position} has inconsistent ABBA metadata"⟩
  return sample

/-- `_validate_normalized_samples`. -/
def validateNormalizedSamples (requireAbba : Bool) (samples : List NormalizedSample) :
    Except StatisticsError (List NormalizedSample) := do
  require (samples ≠ []) ⟨"at least one normalized sample is required"⟩
  let checked ← loopSamples (validateSample requireAbba) 0 [] (-1) samples
  validateRestartOrdinals checked
  return checked

/-- `_restart_groups`. -/
def restartGroups (samples : List NormalizedSample) : List (List NormalizedSample) :=
  (List.range (restartOrdinals samples).length).map fun (index : Nat) =>
    group NormalizedSample.restartOrdinal samples (index : Int)

/-- `statistics.median` of a sample that is not empty. -/
def median (values : List Rat) : Rat :=
  let sorted := values.insertionSort (· ≤ ·)
  let half := sorted.length / 2
  if sorted.length % 2 = 1 then sorted.getD half 0
  else (sorted.getD (half - 1) 0 + sorted.getD half 0) / 2

/-- `mark_hampel_outliers`. -/
def markHampelOutliers (threshold : Rat) (values : List Rat) :
    Except StatisticsError (List Bool) := do
  require (values ≠ []) ⟨"values must not be empty"⟩
  require (0 < threshold) ⟨"threshold must be greater than zero"⟩
  let center := median values
  let mad := median (values.map fun value => |value - center|)
  if mad = 0 then return values.map fun value => decide (value ≠ center)
  else return values.map fun value => decide (threshold * (14826 / 10000 * mad) < |value - center|)

/-- `with_hampel_flags`. -/
def withHampelFlags (threshold : Rat) (samples : List NormalizedSample) :
    Except StatisticsError (List NormalizedSample) := do
  let checked ← validateNormalizedSamples false samples
  let flags ← markHampelOutliers threshold (checked.map NormalizedSample.sampleNs)
  return checked.zipWith (fun item flag => { item with outlier := flag }) flags

/-- The surroundings of the statistics: the generator of the bootstrap, and its seed from the
evidence hash and the domain. -/
structure SignalEnv extends M2Statistics.FwerEnv where
  deriveSeed : String → String → Nat

/-- `_SHA256_RE.fullmatch`. -/
def IsSha256 (text : String) : Prop :=
  text.toList.take 7 = "sha256:".toList ∧ text.toList.length = 71 ∧
    ∀ c ∈ text.toList.drop 7, c ∈ "0123456789abcdef".toList

instance (text : String) : Decidable (IsSha256 text) :=
  have : Decidable (∀ c ∈ text.toList.drop 7, c ∈ "0123456789abcdef".toList) :=
    List.decidableBAll _ _
  inferInstanceAs (Decidable (_ ∧ _ ∧ _))

/-- `_percentile`. -/
def percentileOf (sorted : List Rat) (quantile : Rat) : Option Rat :=
  if sorted.length = 1 then sorted[0]? else percentile sorted quantile

/-- `bootstrap_mean_ci`; an index outside the sample would be an `IndexError`. -/
def bootstrapMeanCi (env : SignalEnv) (values : List Rat) (evidenceHash : String) (alpha : Rat)
    (iterations : Int) (domain : String) : Except StatisticsError (Rat × Rat) := do
  require (values ≠ []) ⟨"values must not be empty"⟩
  require (0 < alpha ∧ alpha < 1) ⟨"alpha must be between zero and one"⟩
  require (1 ≤ iterations) ⟨"iterations must be a positive integer"⟩
  require (domain ≠ "") ⟨"bootstrap domain must not be empty"⟩
  require (IsSha256 evidenceHash) ⟨"evidence_hash must be a lowercase sha256 digest"⟩
  let interval := do
    let bootstrapped ← M2Statistics.bootstrapMeans env.toFwerEnv
      (env.deriveSeed evidenceHash domain) values iterations.toNat
    let lower ← percentileOf bootstrapped (alpha / 2)
    let upper ← percentileOf bootstrapped (1 - alpha / 2)
    return (lower, upper)
  requireSome interval ⟨"list index out of range"⟩

/-! ## The effect -/

/-- The segments of a restart, in the order of their acquisition. -/
def abbaSegments : List Segment := [.a1, .b1, .b2, .a2]

theorem mem_abbaSegments {segment : Segment} :
    segment ∈ abbaSegments ↔ segment.arm = .a ∨ segment.arm = .b := by
  cases segment <;> decide

/-- The samples of a segment. -/
def segmentGroup (samples : List NormalizedSample) (segment : Segment) : List NormalizedSample :=
  samples.filter fun sample => decide (sample.segment = some segment)

/-- The means and the effect of a restart. -/
structure RestartStatistics where
  baselineMean : Rat
  comparisonMean : Rat
  effect : Rat
  deriving DecidableEq, Repr

/-- The restart that a group is named after. -/
def restartName (samples : List NormalizedSample) : Int :=
  (samples.head?.map NormalizedSample.restartOrdinal).getD 0

/-- The statistics of one restart. -/
def restartStatistics (samples : List NormalizedSample) :
    Except StatisticsError RestartStatistics := do
  require (runHeads (samples.map NormalizedSample.segment) = abbaSegments.map some)
    ⟨s!"restart {restartName samples} must follow A1-B1-B2-A2 acquisition order"⟩
  require ((abbaSegments.map fun name => (segmentGroup samples name).length).dedup.length = 1)
    ⟨s!"restart {restartName samples} ABBA segments must have equal sample counts"⟩
  let aMean := fmean ([Segment.a1, .a2].flatMap fun name =>
    (segmentGroup samples name).map NormalizedSample.sampleNs)
  let bMean := fmean ([Segment.b1, .b2].flatMap fun name =>
    (segmentGroup samples name).map NormalizedSample.sampleNs)
  require (0 < aMean) ⟨"baseline restart mean must be finite and greater than zero"⟩
  return { baselineMean := aMean, comparisonMean := bMean, effect := (bMean - aMean) / aMean }

/-- The keyword arguments of `compute_abba_effect`. -/
structure AbbaOptions where
  evidenceHash : String
  alpha : Rat := 1 / 40
  bootstrapIterations : Int := 10000
  hampelThreshold : Rat := 3

/-- `SignalStatistics`. -/
structure SignalStatistics where
  effectFraction : Rat
  ciLower : Rat
  ciUpper : Rat
  restartEffects : List Rat
  baselineRestartMeansNs : List Rat
  comparisonRestartMeansNs : List Rat
  outlierCount : Nat
  sampleCount : Nat
  deriving DecidableEq, Repr

/-- `compute_abba_effect`. -/
def computeAbbaEffect (env : SignalEnv) (options : AbbaOptions)
    (samples : List NormalizedSample) : Except StatisticsError SignalStatistics := do
  let checked ← validateNormalizedSamples true samples
  require (0 < options.alpha ∧ options.alpha < 1) ⟨"alpha must be between zero and one"⟩
  let groups := restartGroups checked
  require (2 ≤ groups.length) ⟨"at least two independent restarts are required"⟩
  let restarts ← groups.mapM restartStatistics
  let effects := restarts.map RestartStatistics.effect
  let interval ← bootstrapMeanCi env effects options.evidenceHash options.alpha
    options.bootstrapIterations "abba-effect"
  let outliers ← markHampelOutliers options.hampelThreshold
    (checked.map NormalizedSample.sampleNs)
  return { effectFraction := fmean effects
           ciLower := interval.1
           ciUpper := interval.2
           restartEffects := effects
           baselineRestartMeansNs := restarts.map RestartStatistics.baselineMean
           comparisonRestartMeansNs := restarts.map RestartStatistics.comparisonMean
           outlierCount := outliers.count true
           sampleCount := checked.length }

/-! ## Plans -/

/-- The labels of one restart whose segments have `size` samples each. -/
def abbaRestart (restart size : Nat) : List (Int × Segment) :=
  ofRuns (abbaSegments.map fun segment => (((restart : Int), segment), size))

/-- The restarts and segments of an acquisition of `count` restarts, where the segments of a
restart have the given size. -/
def abbaPlan (count : Nat) (size : Nat → Nat) : List (Int × Segment) :=
  (List.range count).flatMap fun restart => abbaRestart restart (size restart)

/-- The restart, the arm and the segment of a sample. -/
def label (sample : NormalizedSample) : Int × Option Arm × Option Segment :=
  (sample.restartOrdinal, sample.arm, sample.segment)

/-- The label that a plan asks for. -/
def planned (entry : Int × Segment) : Int × Option Arm × Option Segment :=
  (entry.1, some entry.2.arm, some entry.2)

/-- Normalized samples acquired along a plan. -/
structure AlongPlan (count : Nat) (size : Nat → Nat) (samples : List NormalizedSample) :
    Prop where
  restarts : 2 ≤ count
  filled : ∀ restart < count, 1 ≤ size restart
  order : samples.map NormalizedSample.acquisitionOrdinal =
    (List.range samples.length).map Int.ofNat
  labels : samples.map label = (abbaPlan count size).map planned
  positive : ∀ sample ∈ samples, 0 < sample.sampleNs

theorem mem_abbaRestart {restart size : Nat} {entry : Int × Segment} :
    entry ∈ abbaRestart restart size ↔
      entry.1 = restart ∧ entry.2 ∈ abbaSegments ∧ size ≠ 0 := by
  obtain ⟨ordinal, segment⟩ := entry
  simp only [abbaRestart, ofRuns, List.mem_flatMap, List.mem_map, List.mem_replicate]
  constructor
  · rintro ⟨_, ⟨named, present, rfl⟩, some_, same⟩
    cases same
    exact ⟨rfl, present, some_⟩
  · rintro ⟨rfl, present, some_⟩
    exact ⟨_, ⟨segment, present, rfl⟩, some_, rfl⟩

theorem mem_abbaPlan {count : Nat} {size : Nat → Nat} {entry : Int × Segment} :
    entry ∈ abbaPlan count size ↔
      ∃ restart < count, entry.1 = restart ∧ entry.2 ∈ abbaSegments ∧ size restart ≠ 0 := by
  simp [abbaPlan, List.mem_flatMap, mem_abbaRestart]

/-- The restarts of a plan follow one another. -/
theorem abbaPlan_sorted (count : Nat) (size : Nat → Nat) :
    ((abbaPlan count size).map Prod.fst).Pairwise (· ≤ ·) := by
  refine List.pairwise_map.mpr (List.pairwise_flatMap.mpr ⟨fun restart _ => ?_, ?_⟩)
  · refine List.pairwise_of_forall_mem_list fun first present second later => ?_
    rw [(mem_abbaRestart.mp present).1, (mem_abbaRestart.mp later).1]
  · refine List.pairwise_lt_range.imp fun {earlier later} less first present second there => ?_
    rw [(mem_abbaRestart.mp present).1, (mem_abbaRestart.mp there).1]
    exact Int.ofNat_le.mpr less.le

/-- The entries of a restart. -/
theorem group_abbaPlan {count : Nat} {size : Nat → Nat} {restart : Nat} (inside : restart < count) :
    group Prod.fst (abbaPlan count size) (restart : Int) = abbaRestart restart (size restart) := by
  have cast : abbaPlan count size = ((List.range count).map Int.ofNat).flatMap fun ordinal =>
      abbaRestart ordinal.toNat (size ordinal.toNat) := by
    simp [abbaPlan, List.flatMap_map]
  rw [cast, group_flatMap (List.nodup_range.map Int.ofNat_injective)]
  · rfl
  · intro ordinal present entry there
    obtain ⟨_, _, rfl⟩ := List.mem_map.mp present
    exact (mem_abbaRestart.mp there).1
  · exact List.mem_map.mpr ⟨restart, List.mem_range.mpr inside, rfl⟩

/-! ## Validated samples -/

/-- A normalized sample that passes its checks at a position. -/
structure FineAt (requireAbba : Bool) (position : Nat) (sample : NormalizedSample) : Prop where
  restart : 0 ≤ sample.restartOrdinal
  ordinal : sample.acquisitionOrdinal = position
  positive : 0 < sample.sampleNs
  labels : requireAbba = true → ∃ segment ∈ abbaSegments,
    sample.segment = some segment ∧ sample.arm = some segment.arm

theorem validateSample_eq_ok {requireAbba : Bool} {position : Nat} {seen : List Int}
    {previous : Int} {sample result : NormalizedSample} :
    validateSample requireAbba position seen previous sample = .ok result ↔
      (result = sample ∧ FineAt requireAbba position sample) ∧
        (position : Int) ∉ seen ∧ previous ≤ result.restartOrdinal := by
  simp only [validateSample, Except.bind_eq_ok, require_eq_ok, checkOrder_eq_ok, exists_const]
  constructor
  · rintro ⟨restart, -, ⟨ordinal, new, order⟩, positive, -, labels, same⟩
    cases same
    refine ⟨⟨rfl, restart, ordinal, positive, fun abba => ?_⟩, new, order⟩
    obtain ⟨arm, matching⟩ := labels abba
    cases named : sample.segment with
    | none =>
        rw [named] at matching
        rcases arm with arm | arm <;> rw [arm] at matching <;> cases matching
    | some segment =>
        rw [named] at matching
        rw [← matching] at arm
        exact ⟨segment, mem_abbaSegments.mpr (by simpa using arm), rfl, matching.symm⟩
  · rintro ⟨⟨rfl, fine⟩, new, order⟩
    refine ⟨fine.restart, ?_, ⟨fine.ordinal, new, order⟩, fine.positive, fun abba => ?_,
      fun abba => ?_, rfl⟩
    · rw [fine.ordinal]
      exact Int.natCast_nonneg position
    · obtain ⟨segment, -, named, arm⟩ := fine.labels abba
      simp [named, arm]
    · obtain ⟨segment, present, named, arm⟩ := fine.labels abba
      rw [named, arm]
      exact ⟨by simpa using mem_abbaSegments.mp present, rfl⟩

theorem validateNormalizedSamples_eq_ok {requireAbba : Bool}
    {samples checked : List NormalizedSample} :
    validateNormalizedSamples requireAbba samples = .ok checked ↔
      checked = samples ∧ samples ≠ [] ∧
        (∀ entry ∈ samples.zipIdx, FineAt requireAbba entry.2 entry.1) ∧
        (samples.map NormalizedSample.restartOrdinal).Pairwise (· ≤ ·) ∧
        ∃ count, RestartsUpTo count samples := by
  have loop := loopSamples_eq_ok (P := fun position sample result =>
      result = sample ∧ FineAt requireAbba position sample)
    (fun _ _ _ _ _ => validateSample_eq_ok)
    (fun _ _ _ fine => by obtain ⟨rfl, fine⟩ := fine; exact fine.ordinal) samples 0 [] (-1)
  have first : (∀ entry ∈ samples.zipIdx, FineAt requireAbba entry.2 entry.1) →
      ((-1 :: samples.map NormalizedSample.restartOrdinal).IsChain (· ≤ ·) ↔
        (samples.map NormalizedSample.restartOrdinal).Pairwise (· ≤ ·)) := by
    intro fine
    rw [List.isChain_iff_pairwise, List.pairwise_cons, and_iff_right]
    intro restart present
    obtain ⟨sample, member, rfl⟩ := List.mem_map.mp present
    obtain ⟨index, inside, rfl⟩ := List.getElem_of_mem member
    have atIndex := fine (samples[index], index) (List.mk_mem_zipIdx_iff_getElem?.mpr (by simp))
    exact le_trans (by decide) atIndex.restart
  simp only [validateNormalizedSamples, Except.bind_eq_ok, require_eq_ok, exists_const]
  constructor
  · rintro ⟨some_, results, looped, _, valid, same⟩
    cases same
    obtain ⟨all, chain⟩ := (loop _ (by simp)).mp looped
    obtain ⟨same, fine⟩ := forall₂_map_iff.mp all
    have same' : checked = samples := by simpa using same
    subst same'
    exact ⟨rfl, some_, fine, (first fine).mp chain, validateRestartOrdinals_eq_ok.mp valid⟩
  · rintro ⟨rfl, some_, fine, sorted, upTo⟩
    refine ⟨some_, checked, (loop _ (by simp)).mpr ⟨?_, (first fine).mpr sorted⟩, (),
      validateRestartOrdinals_eq_ok.mpr upTo, rfl⟩
    exact forall₂_map_iff.mpr ⟨by simp, fine⟩

/-! ## Restarts -/

/-- The durations of a segment of a restart. -/
def segmentDurations (samples : List NormalizedSample) (restart : Nat) (segment : Segment) :
    List Rat :=
  (segmentGroup (group NormalizedSample.restartOrdinal samples restart) segment).map
    NormalizedSample.sampleNs

/-- The durations of an arm in a restart. -/
def armDurations (samples : List NormalizedSample) (restart : Nat) (arm : Arm) : List Rat :=
  ((group NormalizedSample.restartOrdinal samples restart).filter fun sample =>
    decide (sample.arm = some arm)).map NormalizedSample.sampleNs

/-- The relative difference of the means of the arms in a restart. -/
def restartEffect (samples : List NormalizedSample) (restart : Nat) : Rat :=
  (fmean (armDurations samples restart .b) - fmean (armDurations samples restart .a)) /
    fmean (armDurations samples restart .a)

theorem fmean_perm {xs ys : List Rat} (perm : xs.Perm ys) : fmean xs = fmean ys := by
  rw [fmean, fmean, perm.sum_eq, perm.length_eq]

theorem fmean_pos {values : List Rat} (filled : values ≠ [])
    (positive : ∀ value ∈ values, 0 < value) : 0 < fmean values := by
  have length : (0 : Rat) < values.length := by exact_mod_cast List.length_pos_of_ne_nil filled
  exact div_pos (List.sum_pos values positive filled) length

theorem fmean_scaled (factor : Rat) (values : List Rat) :
    fmean (values.map (factor * ·)) = factor * fmean values := by
  have total : (values.map (factor * ·)).sum = factor * values.sum := by
    simpa using List.sum_map_mul_left values (fun value => value) factor
  rw [fmean, fmean, total, List.length_map, mul_div_assoc]

/-- The labels of the samples of a restart are those of an arm and its segments. -/
def Labelled (samples : List NormalizedSample) : Prop :=
  ∀ sample ∈ samples, ∃ segment ∈ abbaSegments,
    sample.segment = some segment ∧ sample.arm = some segment.arm

/-- The samples of an arm are those of its two segments. -/
theorem armSamples_perm {samples : List NormalizedSample} (labelled : Labelled samples)
    {arm : Arm} {first second : Segment} (distinct : first ≠ second)
    (belongs : ∀ segment ∈ abbaSegments, segment.arm = arm ↔ segment = first ∨ segment = second) :
    (samples.filter fun sample => decide (sample.arm = some arm)).Perm
      (segmentGroup samples first ++ segmentGroup samples second) := by
  have split := List.filter_append_perm (fun sample : NormalizedSample =>
    decide (sample.segment = some first))
    (samples.filter fun sample => decide (sample.arm = some arm))
  have firstPart : (samples.filter fun sample => decide (sample.arm = some arm)).filter
      (fun sample => decide (sample.segment = some first)) = segmentGroup samples first := by
    rw [List.filter_filter, segmentGroup]
    refine List.filter_congr fun sample present => ?_
    obtain ⟨segment, inside, named, armed⟩ := labelled sample present
    have := belongs segment inside
    simp only [named, armed, Option.some.injEq, ← Bool.decide_and]
    exact decide_eq_decide.mpr ⟨fun both => both.1, fun same => ⟨same, this.mpr (.inl same)⟩⟩
  have secondPart : (samples.filter fun sample => decide (sample.arm = some arm)).filter
      (fun sample => !decide (sample.segment = some first)) = segmentGroup samples second := by
    rw [List.filter_filter, segmentGroup]
    refine List.filter_congr fun sample present => ?_
    obtain ⟨segment, inside, named, armed⟩ := labelled sample present
    have := belongs segment inside
    simp only [named, armed, Option.some.injEq, ← decide_not, ← Bool.decide_and]
    refine decide_eq_decide.mpr ⟨fun both => ?_, fun same => ?_⟩
    · exact (this.mp both.2).resolve_left both.1
    · exact ⟨fun other => distinct (other.symm.trans same), this.mpr (.inr same)⟩
  rw [firstPart, secondPart] at split
  exact split.symm

/-- A list of numbers with one distinct member repeats it. -/
theorem eq_of_dedup_length {values : List Nat} (one : values.dedup.length = 1) {x y : Nat}
    (left : x ∈ values) (right : y ∈ values) : x = y := by
  obtain ⟨value, only⟩ := List.length_eq_one_iff.mp one
  have all : ∀ z ∈ values, z = value := by
    intro z present
    have there := List.mem_dedup.mpr present
    rw [only] at there
    exact List.mem_singleton.mp there
  rw [all x left, all y right]

/-- The runs of the segments of a restart are the four segments, of one size, exactly when
the restart repeats each of them the same number of times. -/
theorem segments_iff {items : List (Option Segment)} :
    (runHeads items = abbaSegments.map some ∧
      (abbaSegments.map fun name => items.count (some name)).dedup.length = 1) ↔
      ∃ size, 1 ≤ size ∧ items = ofRuns (abbaSegments.map fun name => (some name, size)) := by
  have distinct : (abbaSegments.map some).IsChain (· ≠ ·) := by
    simp [abbaSegments]
  rw [runHeads_eq_iff distinct]
  constructor
  · rintro ⟨⟨runs, heads, some_, rfl⟩, one⟩
    simp only [abbaSegments, List.map_cons, List.map_nil, List.map_eq_cons_iff,
      List.map_eq_nil_iff] at heads
    obtain ⟨⟨_, k₁⟩, _, rfl, rfl, ⟨_, k₂⟩, _, rfl, rfl, ⟨_, k₃⟩, _, rfl, rfl, ⟨_, k₄⟩, _, rfl,
      rfl, rfl⟩ := heads
    have counts : [k₁, k₂, k₃, k₄].dedup.length = 1 := by
      simpa [abbaSegments, List.count_append, List.count_replicate] using one
    have same₂ : k₂ = k₁ := eq_of_dedup_length counts (by simp) (by simp)
    have same₃ : k₃ = k₁ := eq_of_dedup_length counts (by simp) (by simp)
    have same₄ : k₄ = k₁ := eq_of_dedup_length counts (by simp) (by simp)
    subst same₂ same₃ same₄
    exact ⟨_, some_ _ List.mem_cons_self, rfl⟩
  · rintro ⟨size, some_, rfl⟩
    refine ⟨⟨_, by simp [abbaSegments], ?_, rfl⟩, ?_⟩
    · intro run present
      obtain ⟨_, _, rfl⟩ := List.mem_map.mp present
      exact some_
    · simp [abbaSegments, List.count_append, List.count_replicate]

/-- The mean of an arm. -/
def armMean (samples : List NormalizedSample) (arm : Arm) : Rat :=
  fmean ((samples.filter fun sample => decide (sample.arm = some arm)).map
    NormalizedSample.sampleNs)

/-- The statistics of a restart from the means of its arms. -/
def armStatistics (samples : List NormalizedSample) : RestartStatistics where
  baselineMean := armMean samples .a
  comparisonMean := armMean samples .b
  effect := (armMean samples .b - armMean samples .a) / armMean samples .a

/-- The mean over the two segments of an arm is the mean of the arm. -/
theorem segments_mean {samples : List NormalizedSample} (labelled : Labelled samples)
    {arm : Arm} {first second : Segment} (distinct : first ≠ second)
    (belongs : ∀ segment ∈ abbaSegments, segment.arm = arm ↔ segment = first ∨ segment = second) :
    fmean ([first, second].flatMap fun name =>
      (segmentGroup samples name).map NormalizedSample.sampleNs) = armMean samples arm := by
  refine fmean_perm ?_
  have perm := (armSamples_perm labelled distinct belongs).map NormalizedSample.sampleNs
  simpa using perm.symm

theorem baseline_segments :
    ∀ segment ∈ abbaSegments, segment.arm = .a ↔ segment = .a1 ∨ segment = .a2 := by
  decide

theorem comparison_segments :
    ∀ segment ∈ abbaSegments, segment.arm = .b ↔ segment = .b1 ∨ segment = .b2 := by
  decide

theorem length_segmentGroup (samples : List NormalizedSample) (segment : Segment) :
    (segmentGroup samples segment).length =
      (samples.map NormalizedSample.segment).count (some segment) := by
  rw [List.count, List.countP_map, List.countP_eq_length_filter, segmentGroup]
  refine congrArg List.length (List.filter_congr fun sample _ => ?_)
  rw [Function.comp_apply, Bool.eq_iff_iff, decide_eq_true_iff, beq_iff_eq]

/-- The samples of a restart with segments of a size. -/
def RestartShaped (size : Nat) (samples : List NormalizedSample) : Prop :=
  samples.map NormalizedSample.segment = ofRuns (abbaSegments.map fun name => (some name, size))

/-- **The statistics of a restart** are there exactly when its four segments follow one another
with one size, and they are the means of its arms. -/
theorem restartStatistics_eq_ok {samples : List NormalizedSample} (labelled : Labelled samples)
    (positive : ∀ sample ∈ samples, 0 < sample.sampleNs) {statistics : RestartStatistics} :
    restartStatistics samples = .ok statistics ↔
      statistics = armStatistics samples ∧
        ∃ size, 1 ≤ size ∧ RestartShaped size samples := by
  have shape := @segments_iff (samples.map NormalizedSample.segment)
  simp only [← length_segmentGroup] at shape
  simp only [restartStatistics, Except.bind_eq_ok, require_eq_ok, exists_const,
    segments_mean labelled (show Segment.a1 ≠ .a2 by decide) baseline_segments,
    segments_mean labelled (show Segment.b1 ≠ .b2 by decide) comparison_segments]
  constructor
  · rintro ⟨heads, sizes, -, same⟩
    cases same
    exact ⟨rfl, shape.mp ⟨heads, sizes⟩⟩
  · rintro ⟨rfl, size, some_, shaped⟩
    obtain ⟨heads, sizes⟩ := shape.mpr ⟨size, some_, shaped⟩
    refine ⟨heads, sizes, ?_, rfl⟩
    refine fmean_pos ?_ ?_
    · -- the first segment has a sample
      have first : (some Segment.a1) ∈ samples.map NormalizedSample.segment := by
        rw [shaped]
        obtain ⟨more, rfl⟩ := Nat.exists_eq_add_of_le' some_
        simp [abbaSegments, List.replicate_succ]
      obtain ⟨sample, present, named⟩ := List.mem_map.mp first
      obtain ⟨segment, -, named', armed⟩ := labelled sample present
      rw [named] at named'
      cases named'
      intro empty
      have there : sample ∈ samples.filter fun sample => decide (sample.arm = some Arm.a) :=
        List.mem_filter.mpr ⟨present, decide_eq_true armed⟩
      rw [List.map_eq_nil_iff.mp empty] at there
      cases there
    · intro value there
      obtain ⟨sample, present, rfl⟩ := List.mem_map.mp there
      exact positive sample (List.mem_filter.mp present).1

/-! ## Samples along a plan -/

section Plans

variable {count : Nat} {size : Nat → Nat} {samples : List NormalizedSample}

theorem AlongPlan.labelled (along : AlongPlan count size samples) : Labelled samples := by
  intro sample present
  have there : label sample ∈ (abbaPlan count size).map planned :=
    along.labels ▸ List.mem_map_of_mem present
  obtain ⟨entry, inPlan, same⟩ := List.mem_map.mp there
  obtain ⟨-, -, -, inside, -⟩ := mem_abbaPlan.mp inPlan
  exact ⟨entry.2, inside, (congrArg (fun l => l.2.2) same).symm,
    (congrArg (fun l => l.2.1) same).symm⟩

theorem AlongPlan.ordinals (along : AlongPlan count size samples) :
    samples.map NormalizedSample.restartOrdinal = (abbaPlan count size).map Prod.fst := by
  simpa [Function.comp_def, label, planned] using congrArg (List.map Prod.fst) along.labels

theorem AlongPlan.restartsUpTo (along : AlongPlan count size samples) :
    RestartsUpTo count samples := by
  intro restart
  rw [along.ordinals, List.mem_map]
  constructor
  · rintro ⟨entry, inPlan, rfl⟩
    obtain ⟨index, inside, same, -⟩ := mem_abbaPlan.mp inPlan
    rw [same]
    exact ⟨Int.natCast_nonneg index, Int.ofNat_lt.mpr inside⟩
  · rintro ⟨nonneg, inside⟩
    obtain ⟨index, rfl⟩ := Int.eq_ofNat_of_zero_le nonneg
    have inside : index < count := Int.ofNat_lt.mp inside
    refine ⟨(index, .a1), mem_abbaPlan.mpr ⟨index, inside, rfl, .head _, ?_⟩, rfl⟩
    exact Nat.one_le_iff_ne_zero.mp (along.filled index inside)

/-- Each restart of a plan has its four segments. -/
theorem AlongPlan.shaped (along : AlongPlan count size samples) {restart : Nat}
    (inside : restart < count) :
    RestartShaped (size restart) (group NormalizedSample.restartOrdinal samples restart) := by
  have labels : (group NormalizedSample.restartOrdinal samples restart).map label =
      (abbaRestart restart (size restart)).map planned := by
    calc (group NormalizedSample.restartOrdinal samples restart).map label
      _ = group Prod.fst (samples.map label) (restart : Int) :=
          map_group label Prod.fst (fun _ => rfl) samples (restart : Int)
      _ = group Prod.fst ((abbaPlan count size).map planned) (restart : Int) := by
          rw [along.labels]
      _ = (group Prod.fst (abbaPlan count size) (restart : Int)).map planned :=
          (map_group planned Prod.fst (fun _ => rfl) (abbaPlan count size) (restart : Int)).symm
      _ = (abbaRestart restart (size restart)).map planned := by
          rw [group_abbaPlan inside]
  have segments := congrArg (List.map fun l : Int × Option Arm × Option Segment => l.2.2) labels
  rw [List.map_map, List.map_map, abbaRestart, map_ofRuns, List.map_map] at segments
  exact segments

/-- The restarts of samples whose restarts follow one another, each with its four segments, are
along a plan. -/
theorem alongPlan_of_shaped (some_ : 2 ≤ count)
    (fine : ∀ entry ∈ samples.zipIdx, FineAt true entry.2 entry.1)
    (sorted : (samples.map NormalizedSample.restartOrdinal).Pairwise (· ≤ ·))
    (upTo : RestartsUpTo count samples) (filled : ∀ restart < count, 1 ≤ size restart)
    (shaped : ∀ restart < count,
      RestartShaped (size restart) (group NormalizedSample.restartOrdinal samples restart)) :
    AlongPlan count size samples := by
  have fineAt : ∀ sample ∈ samples, ∃ position, FineAt true position sample := by
    intro sample present
    obtain ⟨index, inside, rfl⟩ := List.getElem_of_mem present
    exact ⟨index, fine (samples[index], index) (List.mk_mem_zipIdx_iff_getElem?.mpr (by simp))⟩
  refine ⟨some_, filled, ?_, ?_, ?_⟩
  · refine List.ext_getElem (by simp) fun index inside _ => ?_
    have inside : index < samples.length := by simpa using inside
    have here := fine (samples[index], index) (List.mk_mem_zipIdx_iff_getElem?.mpr (by simp))
    simpa using here.ordinal
  · have groups : samples = ((List.range count).map Int.ofNat).flatMap
        (group NormalizedSample.restartOrdinal samples) :=
      eq_flatMap_group sorted
        (List.pairwise_map.mpr (List.pairwise_lt_range.imp fun less => Int.ofNat_lt.mpr less))
        fun sample present => mem_range_map_ofNat.mpr
          ((upTo _).mp (List.mem_map_of_mem present))
    conv_lhs => rw [groups]
    rw [abbaPlan, List.flatMap_map, List.map_flatMap, List.map_flatMap]
    refine List.flatMap_congr fun restart inside => ?_
    have inside := List.mem_range.mp inside
    -- the label of a sample is given by its restart and its segment
    have labels : (group NormalizedSample.restartOrdinal samples (Int.ofNat restart)).map label =
        ((group NormalizedSample.restartOrdinal samples restart).map
          NormalizedSample.segment).map fun segment =>
            ((restart : Int), segment.map Segment.arm, segment) := by
      rw [List.map_map]
      refine List.map_congr_left fun sample present => ?_
      obtain ⟨present, same⟩ := mem_group.mp present
      obtain ⟨_, fineHere⟩ := fineAt sample present
      obtain ⟨segment, -, named, armed⟩ := fineHere.labels rfl
      simp [label, same, named, armed]
    rw [labels, shaped restart inside, abbaRestart, map_ofRuns, map_ofRuns, List.map_map,
      List.map_map]
    rfl
  · intro sample present
    obtain ⟨_, fineHere⟩ := fineAt sample present
    exact fineHere.positive

/-- Samples along a plan pass the checks of their positions. -/
theorem AlongPlan.fine (along : AlongPlan count size samples) :
    ∀ entry ∈ samples.zipIdx, FineAt true entry.2 entry.1 := by
  rintro ⟨sample, position⟩ present
  have atPosition := List.mk_mem_zipIdx_iff_getElem?.mp present
  obtain ⟨inside, rfl⟩ := List.getElem?_eq_some_iff.mp atPosition
  have member := List.getElem_mem inside
  refine ⟨?_, ?_, along.positive _ member, fun _ => along.labelled _ member⟩
  · exact ((along.restartsUpTo _).mp (List.mem_map_of_mem member)).1
  · have ordinal := congrArg (fun ordinals => ordinals[position]?) along.order
    simpa [inside] using ordinal

theorem AlongPlan.ne_nil (along : AlongPlan count size samples) : samples ≠ [] := by
  rintro rfl
  have first := (along.restartsUpTo 0).mpr
    ⟨le_refl 0, Int.ofNat_lt.mpr (lt_of_lt_of_le two_pos along.restarts)⟩
  cases first

/-- Samples along a plan are valid. -/
theorem AlongPlan.validate (along : AlongPlan count size samples) :
    validateNormalizedSamples true samples = .ok samples := by
  refine validateNormalizedSamples_eq_ok.mpr ⟨rfl, along.ne_nil, along.fine, ?_, count,
    along.restartsUpTo⟩
  rw [along.ordinals]
  exact abbaPlan_sorted count size

end Plans

/-! ## What has an effect -/

/-- The options that the statistics accept. -/
structure AbbaOptions.Valid (options : AbbaOptions) : Prop where
  alpha : 0 < options.alpha ∧ options.alpha < 1
  iterations : 1 ≤ options.bootstrapIterations
  digest : IsSha256 options.evidenceHash
  threshold : 0 < options.hampelThreshold

theorem percentileOf_ok {sorted : List Rat} (filled : sorted ≠ [])
    (ordered : sorted.Pairwise (· ≤ ·)) {quantile : Rat} (nonneg : 0 ≤ quantile)
    (atMost : quantile ≤ 1) : ∃ value, percentileOf sorted quantile = some value := by
  unfold percentileOf
  split
  · exact ⟨_, List.getElem?_eq_getElem (List.length_pos_of_ne_nil filled)⟩
  · obtain ⟨value, -, found, -, -⟩ :=
      percentile_mono ordered filled nonneg (le_refl quantile) atMost
    exact ⟨value, found⟩

theorem bootstrapMeanCi_isOk {env : SignalEnv} {values : List Rat} {evidenceHash domain : String}
    {alpha : Rat} {iterations : Int} (filled : values ≠ []) (named : domain ≠ "") :
    (∃ interval, bootstrapMeanCi env values evidenceHash alpha iterations domain = .ok interval) ↔
      (0 < alpha ∧ alpha < 1) ∧ 1 ≤ iterations ∧ IsSha256 evidenceHash := by
  simp only [bootstrapMeanCi, Except.bind_eq_ok, require_eq_ok, exists_const]
  constructor
  · rintro ⟨_, -, probability, some_, -, digest, -⟩
    exact ⟨probability, some_, digest⟩
  · rintro ⟨probability, some_, digest⟩
    obtain ⟨means, drawn, some_means, sorted⟩ := M2Statistics.bootstrapMeans_ok env.toFwerEnv
      (env.deriveSeed evidenceHash domain) (show iterations.toNat ≠ 0 by omega) filled
    have nonneg : 0 ≤ alpha / 2 := by linarith [probability.1]
    have atMost : alpha / 2 ≤ 1 := by linarith [probability.2]
    obtain ⟨lower, atLower⟩ := percentileOf_ok some_means sorted nonneg atMost
    obtain ⟨upper, atUpper⟩ := percentileOf_ok some_means sorted
      (show 0 ≤ 1 - alpha / 2 by linarith) (show 1 - alpha / 2 ≤ 1 by linarith)
    refine ⟨(lower, upper), filled, probability, some_, named, digest, ?_⟩
    simp [drawn, atLower, atUpper]

theorem markHampelOutliers_isOk {threshold : Rat} {values : List Rat} (filled : values ≠ []) :
    (∃ flags, markHampelOutliers threshold values = .ok flags) ↔ 0 < threshold := by
  simp only [markHampelOutliers, Except.bind_eq_ok, require_eq_ok, exists_const]
  constructor
  · rintro ⟨_, -, positive, -⟩
    exact positive
  · intro positive
    split
    · exact ⟨_, filled, positive, rfl⟩
    · exact ⟨_, filled, positive, rfl⟩

theorem markHampelOutliers_length {threshold : Rat} {values : List Rat} {flags : List Bool}
    (ok : markHampelOutliers threshold values = .ok flags) : flags.length = values.length := by
  simp only [markHampelOutliers, Except.bind_eq_ok, require_eq_ok, exists_const] at ok
  obtain ⟨-, -, flagged⟩ := ok
  split at flagged <;> cases flagged <;> simp

section Effect

variable {env : SignalEnv} {options : AbbaOptions} {count : Nat} {size : Nat → Nat}
  {samples : List NormalizedSample}

/-- The groups of valid samples are the first restarts. -/
theorem restartGroups_eq (upTo : RestartsUpTo count samples) :
    restartGroups samples = (List.range count).map fun (restart : Nat) =>
      group NormalizedSample.restartOrdinal samples (restart : Int) := by
  have length : (restartOrdinals samples).length = count := by
    rw [restartOrdinals, List.length_insertionSort, upTo.length.length_eq]
    simp
  rw [restartGroups, length]

/-- The statistics of the restarts of labelled samples. -/
theorem restartStatistics_mapM (labelled : Labelled samples)
    (positive : ∀ sample ∈ samples, 0 < sample.sampleNs) (upTo : RestartsUpTo count samples)
    {restarts : List RestartStatistics} :
    (restartGroups samples).mapM restartStatistics = .ok restarts ↔
      restarts = (restartGroups samples).map armStatistics ∧
      ∀ restart < count, ∃ size, 1 ≤ size ∧
        RestartShaped size (group NormalizedSample.restartOrdinal samples restart) := by
  have turn : ∀ samples' ∈ restartGroups samples, ∀ statistics,
      restartStatistics samples' = .ok statistics ↔
        statistics = armStatistics samples' ∧ ∃ size, 1 ≤ size ∧ RestartShaped size samples' := by
    intro samples' present statistics
    rw [restartGroups, List.mem_map] at present
    obtain ⟨restart, -, rfl⟩ := present
    exact restartStatistics_eq_ok
      (fun sample there => labelled sample (mem_group.mp there).1)
      (fun sample there => positive sample (mem_group.mp there).1)
  rw [mapM_ok_map_iff turn, restartGroups_eq upTo]
  simp only [List.forall_mem_map, List.mem_range]

/-- The effects of the restarts. -/
theorem map_effect_restartGroups (upTo : RestartsUpTo count samples) :
    ((restartGroups samples).map armStatistics).map RestartStatistics.effect =
      (List.range count).map (restartEffect samples) := by
  rw [restartGroups_eq upTo, List.map_map, List.map_map]
  rfl

/-- **What has an effect.** Samples have an effect exactly when the options are valid and the
samples are along a plan, and then the effect is the mean over the restarts. -/
theorem computeAbbaEffect_of_ok {result : SignalStatistics}
    (ok : computeAbbaEffect env options samples = .ok result) :
    options.Valid ∧ result.sampleCount = samples.length ∧ ∃ count size,
      AlongPlan count size samples ∧
        result.effectFraction = fmean ((List.range count).map (restartEffect samples)) := by
  simp only [computeAbbaEffect, Except.bind_eq_ok, require_eq_ok, exists_const] at ok
  obtain ⟨checked, validated, alpha, enough, restarts, computed, interval, bootstrapped, flags,
    flagged, same⟩ := ok
  cases same
  obtain ⟨rfl, some_, fine, sorted, count, upTo⟩ := validateNormalizedSamples_eq_ok.mp validated
  have fineAt : ∀ sample ∈ checked, ∃ position, FineAt true position sample := by
    intro sample present
    obtain ⟨index, inside, rfl⟩ := List.getElem_of_mem present
    exact ⟨index, fine (checked[index], index) (List.mk_mem_zipIdx_iff_getElem?.mpr (by simp))⟩
  have labelled : Labelled checked := by
    intro sample present
    obtain ⟨_, here⟩ := fineAt sample present
    exact here.labels rfl
  have positive : ∀ sample ∈ checked, 0 < sample.sampleNs := by
    intro sample present
    obtain ⟨_, here⟩ := fineAt sample present
    exact here.positive
  obtain ⟨rfl, shaped⟩ := (restartStatistics_mapM labelled positive upTo).mp computed
  rw [restartGroups_eq upTo, List.length_map, List.length_range] at enough
  choose! size filled shaped using shaped
  have along := alongPlan_of_shaped enough fine sorted upTo filled shaped
  have effects := map_effect_restartGroups upTo
  rw [effects] at bootstrapped
  have filledEffects : (List.range count).map (restartEffect checked) ≠ [] := by
    simp only [ne_eq, List.map_eq_nil_iff, List.range_eq_nil]
    omega
  obtain ⟨probability, iterations, digest⟩ :=
    (bootstrapMeanCi_isOk filledEffects (by decide)).mp ⟨interval, bootstrapped⟩
  have threshold := (markHampelOutliers_isOk (by simpa using some_)).mp ⟨flags, flagged⟩
  exact ⟨⟨probability, iterations, digest, threshold⟩, rfl, count, size, along, by rw [effects]⟩

/-- Samples along a plan have an effect. -/
theorem AlongPlan.computeAbbaEffect (along : AlongPlan count size samples)
    (valid : options.Valid) : ∃ result, computeAbbaEffect env options samples = .ok result ∧
      result.effectFraction = fmean ((List.range count).map (restartEffect samples)) := by
  have upTo := along.restartsUpTo
  have restarts := (restartStatistics_mapM along.labelled along.positive upTo).mpr
    ⟨rfl, fun restart inside => ⟨size restart, along.filled restart inside, along.shaped inside⟩⟩
  have effects := map_effect_restartGroups upTo
  have filledEffects : (List.range count).map (restartEffect samples) ≠ [] := by
    have := along.restarts
    simp only [ne_eq, List.map_eq_nil_iff, List.range_eq_nil]
    omega
  obtain ⟨interval, bootstrapped⟩ : ∃ interval, bootstrapMeanCi env
      ((List.range count).map (restartEffect samples)) options.evidenceHash options.alpha
      options.bootstrapIterations "abba-effect" = .ok interval :=
    (bootstrapMeanCi_isOk filledEffects (by decide)).mpr
      ⟨valid.alpha, valid.iterations, valid.digest⟩
  obtain ⟨flags, flagged⟩ : ∃ flags, markHampelOutliers options.hampelThreshold
      (samples.map NormalizedSample.sampleNs) = .ok flags :=
    (markHampelOutliers_isOk (by simpa using along.ne_nil)).mpr valid.threshold
  rw [← effects] at bootstrapped
  have enough : 2 ≤ (restartGroups samples).length := by
    rw [restartGroups_eq upTo, List.length_map, List.length_range]
    exact along.restarts
  refine exists_bind_ok.mpr ⟨samples, along.validate, ?_⟩
  refine exists_bind_ok.mpr ⟨(), require_eq_ok.mpr valid.alpha, ?_⟩
  refine exists_bind_ok.mpr ⟨(), require_eq_ok.mpr enough, ?_⟩
  refine exists_bind_ok.mpr ⟨_, restarts, ?_⟩
  refine exists_bind_ok.mpr ⟨interval, bootstrapped, ?_⟩
  refine exists_bind_ok.mpr ⟨flags, flagged, ?_⟩
  exact ⟨_, rfl, congrArg fmean effects⟩

end Effect

end Stage0

end HcuAutoOpt
