import Mathlib.Algebra.BigOperators.Ring.List
import Mathlib.Algebra.Order.BigOperators.Group.List
import Mathlib.Algebra.Order.Field.Basic
import Mathlib.Algebra.Order.Floor.Ring
import Mathlib.Data.List.GetD
import Mathlib.Data.List.Sort
import Mathlib.Data.Rat.Floor
import Mathlib.Tactic.Linarith
import Mathlib.Tactic.Ring

/-!
# Means and quantiles of samples

A sample is a list over an ordered field. Its mean grows with its items (`sampleMean_mono`) and
is scaled with them (`sampleMean_map_mul`). A sorted sample is read at a position that need not be
whole, on the line between the items around it (`quantileAt`); the value grows with the position
(`lineValue_le_of_le`) and with the items (`lineValue_mono`). Sorting keeps a pointwise order
(`forall₂_insertionSort`), so the quantiles of unsorted samples grow with the items too.

The quantile of a probability `p` in a sample of `n` rationals is read at the position
`p * (n - 1)` (`percentile`), and it grows with the probability (`percentile_mono`).
-/

set_option autoImplicit false

namespace Foundation

universe u

variable {K : Type u} [Field K] [LinearOrder K] [IsStrictOrderedRing K]

/-! ## Means -/

/-- The mean of a sample. -/
def sampleMean (values : List K) : K := values.sum / values.length

/-- **The mean grows with the items.** -/
theorem sampleMean_mono {values values' : List K} (le : List.Forall₂ (· ≤ ·) values values') :
    sampleMean values ≤ sampleMean values' := by
  rw [sampleMean, sampleMean, le.length_eq]
  exact div_le_div_of_nonneg_right le.sum_le_sum (Nat.cast_nonneg _)

theorem sampleMean_pos {values : List K} (filled : values ≠ [])
    (positive : ∀ value ∈ values, 0 < value) : 0 < sampleMean values :=
  div_pos (List.sum_pos _ positive filled)
    (Nat.cast_pos.mpr (List.length_pos_of_ne_nil filled))

omit [LinearOrder K] [IsStrictOrderedRing K] in
/-- A mean of items that are multiplied by a factor. -/
theorem sampleMean_map_mul (factor : K) (values : List K) :
    sampleMean (values.map (factor * ·)) = factor * sampleMean values := by
  rw [sampleMean, sampleMean, List.sum_map_mul_left, List.length_map, mul_div_assoc]
  simp

/-! ## Deviations and resamples -/

/-- The variance of a sample, with the count less one. -/
def sampleVariance (values : List K) : K :=
  (values.map fun value => (value - sampleMean values) ^ 2).sum / ((values.length : K) - 1)

theorem sampleVariance_nonneg {values : List K} (filled : values ≠ []) :
    0 ≤ sampleVariance values := by
  have count : (1 : K) ≤ values.length :=
    Nat.one_le_cast.mpr (List.length_pos_of_ne_nil filled)
  refine div_nonneg (List.sum_nonneg fun square member => ?_) (sub_nonneg.mpr count)
  obtain ⟨value, -, rfl⟩ := List.mem_map.mp member
  exact sq_nonneg _

omit [LinearOrder K] [IsStrictOrderedRing K] in
/-- The variance of items that are multiplied by a factor. -/
theorem sampleVariance_map_mul (factor : K) (values : List K) :
    sampleVariance (values.map (factor * ·)) = factor ^ 2 * sampleVariance values := by
  have squares : (fun value => (factor * value - factor * sampleMean values) ^ 2) =
      fun value => factor ^ 2 * (value - sampleMean values) ^ 2 := by
    funext value
    ring
  rw [sampleVariance, sampleVariance, sampleMean_map_mul, List.map_map, List.length_map,
    mul_div_assoc', ← List.sum_map_mul_left]
  exact congrArg (fun f => (values.map f).sum / ((values.length : K) - 1)) squares

/-- The items of a sample at indices. -/
def resample (values : List K) (indices : List Nat) : List K :=
  indices.map fun index => values.getD index 0

omit [LinearOrder K] [IsStrictOrderedRing K] in
/-- Indices inside the sample are all found. -/
theorem mapM_getElem?_eq_some {values : List K} {indices : List Nat}
    (inside : ∀ index ∈ indices, index < values.length) :
    (indices.mapM fun index => values[index]?) = some (resample values indices) := by
  induction indices with
  | nil => rfl
  | cons index indices ih =>
      have first := inside index List.mem_cons_self
      have rest := ih fun other later => inside other (List.mem_cons_of_mem index later)
      have here : values[index]? = some (values.getD index 0) := by
        rw [List.getElem?_eq_getElem first, List.getD_eq_getElem _ _ first]
      rw [List.mapM_cons, rest, here]
      rfl

omit [IsStrictOrderedRing K] in
/-- The items at an index are ordered as the samples are. -/
theorem getD_mono {values values' : List K} (le : List.Forall₂ (· ≤ ·) values values') {i : Nat}
    (inside : i < values.length) : values.getD i 0 ≤ values'.getD i 0 := by
  have inside' : i < values'.length := le.length_eq ▸ inside
  rw [List.getD_eq_getElem _ _ inside, List.getD_eq_getElem _ _ inside']
  exact (List.forall₂_iff_get.mp le).2 i inside inside'

omit [IsStrictOrderedRing K] in
/-- A resample grows with the items. -/
theorem resample_mono {values values' : List K} (le : List.Forall₂ (· ≤ ·) values values')
    {indices : List Nat} (inside : ∀ index ∈ indices, index < values.length) :
    List.Forall₂ (· ≤ ·) (resample values indices) (resample values' indices) := by
  induction indices with
  | nil => exact .nil
  | cons index indices ih =>
      exact .cons (getD_mono le (inside index List.mem_cons_self))
        (ih fun other later => inside other (List.mem_cons_of_mem index later))

/-! ## Sorting -/

omit [Field K] [IsStrictOrderedRing K] in
/-- An item in front of greater ones is not moved. -/
theorem orderedInsert_of_le {item : K} {items : List K} (least : ∀ other ∈ items, item ≤ other) :
    items.orderedInsert (· ≤ ·) item = item :: items := by
  cases items with
  | nil => rfl
  | cons first items => exact if_pos (least first List.mem_cons_self)

omit [Field K] [IsStrictOrderedRing K] in
/-- **Insertion keeps a pointwise order.** -/
theorem forall₂_orderedInsert {items items' : List K}
    (le : List.Forall₂ (· ≤ ·) items items') :
    ∀ {item item' : K}, item ≤ item' → items.Pairwise (· ≤ ·) → items'.Pairwise (· ≤ ·) →
      List.Forall₂ (· ≤ ·) (items.orderedInsert (· ≤ ·) item)
        (items'.orderedInsert (· ≤ ·) item') := by
  induction le with
  | nil => exact fun le _ _ => .cons le .nil
  | @cons first first' items items' firsts rest ih =>
      intro item item' le sorted sorted'
      obtain ⟨least, sortedRest⟩ := List.pairwise_cons.mp sorted
      obtain ⟨least', sortedRest'⟩ := List.pairwise_cons.mp sorted'
      rw [List.orderedInsert_cons, List.orderedInsert_cons]
      by_cases here : item ≤ first
      · rw [if_pos here]
        by_cases here' : item' ≤ first'
        · rw [if_pos here']
          exact .cons le (.cons firsts rest)
        · -- the first item takes the place of the one that goes on
          rw [if_neg here']
          have onward := ih (firsts.trans (not_le.mp here').le) sortedRest sortedRest'
          rw [orderedInsert_of_le least] at onward
          exact .cons (here.trans firsts) onward
      · rw [if_neg here]
        by_cases here' : item' ≤ first'
        · rw [if_pos here']
          have onward := ih (le.trans here') sortedRest sortedRest'
          rw [orderedInsert_of_le least'] at onward
          exact .cons ((not_le.mp here).le.trans le) onward
        · rw [if_neg here']
          exact .cons firsts (ih le sortedRest sortedRest')

omit [Field K] [IsStrictOrderedRing K] in
/-- **Sorting keeps a pointwise order.** -/
theorem forall₂_insertionSort {items items' : List K} (le : List.Forall₂ (· ≤ ·) items items') :
    List.Forall₂ (· ≤ ·) (items.insertionSort (· ≤ ·)) (items'.insertionSort (· ≤ ·)) := by
  induction le with
  | nil => exact .nil
  | cons first _ ih =>
      exact forall₂_orderedInsert ih first (List.pairwise_insertionSort _ _)
        (List.pairwise_insertionSort _ _)

/-! ## Quantiles -/

section Quantiles

variable [FloorRing K]

/-- The value of a sample at a position, on the line between the items around it. -/
def quantileAt (values : List K) (position : K) : Option K :=
  let lower := ⌊position⌋₊
  let upper := ⌈position⌉₊
  if lower = upper then values[lower]?
  else do
    let below ← values[lower]?
    let above ← values[upper]?
    let fraction := position - lower
    return below * (1 - fraction) + above * fraction

variable {values values' : List K} {x y : K}

omit [IsStrictOrderedRing K] [FloorRing K] in
/-- A sample in increasing order grows with the index. -/
theorem getD_le_getD (sorted : values.Pairwise (· ≤ ·)) {i j : Nat} (le : i ≤ j)
    (inside : j < values.length) : values.getD i 0 ≤ values.getD j 0 := by
  rw [List.getD_eq_getElem _ _ inside, List.getD_eq_getElem _ _ (lt_of_le_of_lt le inside)]
  rcases Nat.eq_or_lt_of_le le with rfl | less
  · exact le_refl _
  · exact List.pairwise_iff_getElem.mp sorted i j _ inside less

omit [IsStrictOrderedRing K] in
/-- The indices around a position inside the sample are inside the sample. -/
theorem natCeil_lt_length (inside : x ≤ values.length - 1) (filled : values ≠ []) :
    ⌈x⌉₊ < values.length := by
  have positive : 1 ≤ values.length := List.length_pos_of_ne_nil filled
  have bound : ⌈x⌉₊ ≤ values.length - 1 := by
    refine Nat.ceil_le.mpr ?_
    push_cast [positive]
    exact inside
  omega

/-- The value at a position. -/
def lineValue (values : List K) (position : K) : K :=
  values.getD ⌊position⌋₊ 0 +
    (values.getD ⌈position⌉₊ 0 - values.getD ⌊position⌋₊ 0) * (position - ⌊position⌋₊)

/-- **A position inside the sample has a value.** -/
theorem quantileAt_eq (inside : x ≤ values.length - 1) (filled : values ≠ []) :
    quantileAt values x = some (lineValue values x) := by
  have above := natCeil_lt_length inside filled
  have below := lt_of_le_of_lt (Nat.floor_le_ceil x) above
  simp only [quantileAt, lineValue]
  by_cases whole : ⌊x⌋₊ = ⌈x⌉₊
  · rw [if_pos whole, ← whole, List.getElem?_eq_getElem below, List.getD_eq_getElem _ _ below,
      sub_self, zero_mul, add_zero]
  · rw [if_neg whole, List.getElem?_eq_getElem below, List.getElem?_eq_getElem above,
      List.getD_eq_getElem _ _ below, List.getD_eq_getElem _ _ above]
    simp only [bind, Option.bind, pure, Option.some.injEq]
    ring

/-- The value at a position lies between the items around it. -/
theorem lineValue_bounds (sorted : values.Pairwise (· ≤ ·)) (nonneg : 0 ≤ x)
    (inside : x ≤ values.length - 1) (filled : values ≠ []) :
    values.getD ⌊x⌋₊ 0 ≤ lineValue values x ∧ lineValue values x ≤ values.getD ⌈x⌉₊ 0 := by
  have grows := getD_le_getD sorted (Nat.floor_le_ceil x) (natCeil_lt_length inside filled)
  have fraction : 0 ≤ x - ⌊x⌋₊ := sub_nonneg.mpr (Nat.floor_le nonneg)
  have proper : x - ⌊x⌋₊ ≤ 1 := by linarith [Nat.lt_floor_add_one x]
  unfold lineValue
  constructor
  · linarith [mul_nonneg (sub_nonneg.mpr grows) fraction]
  · linarith [mul_le_mul_of_nonneg_left proper (sub_nonneg.mpr grows)]

/-- **The value grows with the position.** -/
theorem lineValue_le_of_le (sorted : values.Pairwise (· ≤ ·)) (nonneg : 0 ≤ x) (le : x ≤ y)
    (inside : y ≤ values.length - 1) (filled : values ≠ []) :
    lineValue values x ≤ lineValue values y := by
  have insideX := le.trans inside
  obtain ⟨-, belowCeil⟩ := lineValue_bounds sorted nonneg insideX filled
  obtain ⟨aboveFloor, -⟩ := lineValue_bounds sorted (nonneg.trans le) inside filled
  rcases Nat.lt_or_ge ⌈x⌉₊ (⌊y⌋₊ + 1) with apart | same
  · -- a whole number lies between the positions, and the item there between the values
    have between := getD_le_getD sorted (Nat.le_of_lt_succ apart)
      (lt_of_le_of_lt (Nat.floor_le_ceil y) (natCeil_lt_length inside filled))
    exact belowCeil.trans (between.trans aboveFloor)
  · -- otherwise both positions lie strictly between the same two whole numbers
    have ceilX := Nat.ceil_le_floor_add_one x
    have floors := Nat.floor_mono le
    have floorSame : ⌊y⌋₊ = ⌊x⌋₊ := by omega
    have ceilSame : ⌈y⌉₊ = ⌈x⌉₊ := by
      have upper := Nat.ceil_le_floor_add_one y
      have lower := Nat.ceil_mono le
      omega
    have grows := getD_le_getD sorted (Nat.floor_le_ceil x) (natCeil_lt_length insideX filled)
    have steps := mul_le_mul_of_nonneg_left (sub_le_sub_right le (⌊x⌋₊ : K))
      (sub_nonneg.mpr grows)
    rw [lineValue, lineValue, floorSame, ceilSame]
    linarith

/-- **The value grows with the items.** -/
theorem lineValue_mono (le : List.Forall₂ (· ≤ ·) values values') (nonneg : 0 ≤ x)
    (inside : x ≤ values.length - 1) (filled : values ≠ []) :
    lineValue values x ≤ lineValue values' x := by
  have above := natCeil_lt_length inside filled
  have lower := getD_mono le (lt_of_le_of_lt (Nat.floor_le_ceil x) above)
  have upper := getD_mono le above
  have fraction : 0 ≤ x - ⌊x⌋₊ := sub_nonneg.mpr (Nat.floor_le nonneg)
  have rest : 0 ≤ 1 - (x - ⌊x⌋₊) := by linarith [Nat.lt_floor_add_one x]
  have lowerPart := mul_le_mul_of_nonneg_right lower rest
  have upperPart := mul_le_mul_of_nonneg_right upper fraction
  unfold lineValue
  linarith

end Quantiles

/-! ## Percentiles -/

/-- The value of a sample at a position, on the line between the items around it. -/
def interpolate (values : List Rat) (position : Rat) : Option Rat :=
  let lower := ⌊position⌋₊
  let upper := ⌈position⌉₊
  if lower = upper then values[lower]?
  else do
    let below ← values[lower]?
    let above ← values[upper]?
    let fraction := position - lower
    return below * (1 - fraction) + above * fraction

/-- The percentile of a probability. -/
def percentile (values : List Rat) (probability : Rat) : Option Rat :=
  interpolate values (probability * (values.length - 1))

section Sorted

variable {values : List Rat} {x y : Rat}

/-- **A position inside the sample has a value.** -/
theorem interpolate_eq (inside : x ≤ values.length - 1) (filled : values ≠ []) :
    interpolate values x = some (values.getD ⌊x⌋₊ 0 +
      (values.getD ⌈x⌉₊ 0 - values.getD ⌊x⌋₊ 0) * (x - ⌊x⌋₊)) :=
  quantileAt_eq inside filled

/-- **The value grows with the position.** -/
theorem interpolate_mono (sorted : values.Pairwise (· ≤ ·)) (nonneg : 0 ≤ x) (le : x ≤ y)
    (inside : y ≤ values.length - 1) (filled : values ≠ []) :
    ∃ lower upper, interpolate values x = some lower ∧ interpolate values y = some upper ∧
      lower ≤ upper :=
  ⟨_, _, interpolate_eq (le.trans inside) filled, interpolate_eq inside filled,
    lineValue_le_of_le sorted nonneg le inside filled⟩

/-- **The percentile grows with the probability.** -/
theorem percentile_mono (sorted : values.Pairwise (· ≤ ·)) (filled : values ≠ []) {p q : Rat}
    (nonneg : 0 ≤ p) (le : p ≤ q) (atMost : q ≤ 1) :
    ∃ lower upper, percentile values p = some lower ∧ percentile values q = some upper ∧
      lower ≤ upper := by
  have positive : (1 : Rat) ≤ values.length := by
    exact_mod_cast List.length_pos_of_ne_nil filled
  have size : 0 ≤ (values.length : Rat) - 1 := sub_nonneg.mpr positive
  refine interpolate_mono sorted (mul_nonneg nonneg size) (mul_le_mul_of_nonneg_right le size) ?_
    filled
  exact mul_le_of_le_one_left size atMost

end Sorted

end Foundation
