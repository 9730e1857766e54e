import Mathlib.Algebra.Order.Field.Power
import Mathlib.Algebra.Ring.Int.Parity
import Mathlib.Data.Int.Log
import Mathlib.Data.NNRat.Defs
import Mathlib.Data.Rat.Floor
import Mathlib.Tactic.FieldSimp
import Mathlib.Tactic.Linarith
import Mathlib.Tactic.Positivity

/-!
# Doubles

The numbers of a language runtime are binary64: 53 significant bits, the exponent of the last
one at least `-1074`. A result is the nearest double, the one with an even last bit of two
(`round`); whether it is in range is a question of its own (`overflows`). Rounding keeps the
order (`round_mono`) and doubles (`round_round`), so a sum of nonnegative doubles is never below
its parts (`le_add`).

`fmean` is the mean of the standard library, and `shortest` the value of the shortest decimal
that is read back as a double, which is what a double is printed as.
-/

set_option autoImplicit false

namespace Foundation

namespace Binary64

/-! ## Rounding -/

/-- The exponent of the last place of the doubles around a number. -/
def lastPlace (q : ℚ) : ℤ := max (Int.log 2 |q| - 52) (-1074)

/-- The nearest integer, the even one of two. -/
def nearestEven (q : ℚ) : ℤ :=
  if q - ⌊q⌋ < 1 / 2 ∨ q - ⌊q⌋ = 1 / 2 ∧ ⌊q⌋ % 2 = 0 then ⌊q⌋ else ⌊q⌋ + 1

/-- The nearest double, were there no largest one. -/
def round (q : ℚ) : ℚ := nearestEven (q / 2 ^ lastPlace q) * 2 ^ lastPlace q

/-- The number is beyond the largest double. -/
def overflows (q : ℚ) : Bool := decide ((2 ^ 53 - 1) * 2 ^ 971 < |round q|)

theorem nearestEven_intCast (n : ℤ) : nearestEven n = n := by
  simp [nearestEven]

theorem nearestEven_mono {p q : ℚ} (le : p ≤ q) : nearestEven p ≤ nearestEven q := by
  have floors : ⌊p⌋ ≤ ⌊q⌋ := Int.floor_mono le
  rcases floors.lt_or_eq with below | same
  · -- The integer above the smaller number is at most the one below the greater.
    have up : nearestEven p ≤ ⌊p⌋ + 1 := by unfold nearestEven; split <;> omega
    have down : ⌊q⌋ ≤ nearestEven q := by unfold nearestEven; split <;> omega
    omega
  · unfold nearestEven
    rw [same]
    split
    · split <;> omega
    · rename_i above
      rw [if_neg]
      rintro (small | ⟨half, even⟩)
      · exact above (.inl (by linarith))
      · rcases le.lt_or_eq with less | rfl
        · exact above (.inl (by linarith))
        · exact above (.inr ⟨half, even⟩)

theorem two_zpow_pos (e : ℤ) : (0 : ℚ) < 2 ^ e := zpow_pos (by norm_num) e

theorem round_zero : round 0 = 0 := by
  simp [round, nearestEven]

theorem round_nonneg {q : ℚ} (nonneg : 0 ≤ q) : 0 ≤ round q := by
  have scaled : 0 ≤ q / 2 ^ lastPlace q := div_nonneg nonneg (two_zpow_pos _).le
  have zero := nearestEven_mono scaled
  rw [show (0 : ℚ) = ((0 : ℤ) : ℚ) by norm_num, nearestEven_intCast] at zero
  exact mul_nonneg (by exact_mod_cast zero) (two_zpow_pos _).le

/-- A number has 53 bits down to its last place. -/
theorem lt_zpow_lastPlace {q : ℚ} (positive : 0 < q) : q < 2 ^ (lastPlace q + 53) := by
  have bound := Int.lt_zpow_succ_log_self (b := 2) (by norm_num) q
  refine lt_of_lt_of_le bound (zpow_le_zpow_right₀ (by norm_num) ?_)
  have place : Int.log 2 |q| - 52 ≤ lastPlace q := le_max_left _ _
  rw [abs_of_pos positive] at place
  omega

/-- A number whose last place is not the least has all of them. -/
theorem zpow_lastPlace_le {q : ℚ} (positive : 0 < q) (normal : -1074 < lastPlace q) :
    (2 : ℚ) ^ (lastPlace q + 52) ≤ q := by
  have place : lastPlace q = Int.log 2 q - 52 := by
    unfold lastPlace at normal ⊢
    rw [abs_of_pos positive] at normal ⊢
    omega
  rw [place, sub_add_cancel]
  exact_mod_cast Int.zpow_log_le_self (b := 2) (by norm_num) positive

theorem lastPlace_mono {p q : ℚ} (positive : 0 < p) (le : p ≤ q) : lastPlace p ≤ lastPlace q := by
  have logs := Int.log_mono_right (b := 2) positive le
  unfold lastPlace
  rw [abs_of_pos positive, abs_of_pos (positive.trans_le le)]
  omega

/-- Rounding at a place does not pass a power of two from that place on. -/
theorem round_le_zpow {q : ℚ} {e : ℤ} (place : lastPlace q ≤ e) (le : q ≤ 2 ^ e) :
    round q ≤ 2 ^ e := by
  have scaled : q / 2 ^ lastPlace q ≤ ((2 ^ (e - lastPlace q).toNat : ℤ) : ℚ) := by
    rw [div_le_iff₀ (two_zpow_pos _)]
    push_cast
    rw [← zpow_natCast, ← zpow_add₀ (by norm_num), Int.toNat_of_nonneg (by omega)]
    simpa using le
  have nearest := nearestEven_mono scaled
  rw [nearestEven_intCast] at nearest
  have cast : (nearestEven (q / 2 ^ lastPlace q) : ℚ) ≤ 2 ^ (e - lastPlace q).toNat := by
    exact_mod_cast nearest
  calc round q ≤ 2 ^ (e - lastPlace q).toNat * 2 ^ lastPlace q :=
        mul_le_mul_of_nonneg_right cast (two_zpow_pos _).le
    _ = 2 ^ e := by
        rw [← zpow_natCast, ← zpow_add₀ (by norm_num), Int.toNat_of_nonneg (by omega),
          sub_add_cancel]

theorem zpow_le_round {q : ℚ} {e : ℤ} (place : lastPlace q ≤ e) (le : 2 ^ e ≤ q) :
    2 ^ e ≤ round q := by
  have scaled : ((2 ^ (e - lastPlace q).toNat : ℤ) : ℚ) ≤ q / 2 ^ lastPlace q := by
    rw [le_div_iff₀ (two_zpow_pos _)]
    push_cast
    rw [← zpow_natCast, ← zpow_add₀ (by norm_num), Int.toNat_of_nonneg (by omega)]
    simpa using le
  have nearest := nearestEven_mono scaled
  rw [nearestEven_intCast] at nearest
  have cast : (2 : ℚ) ^ (e - lastPlace q).toNat ≤ nearestEven (q / 2 ^ lastPlace q) := by
    exact_mod_cast nearest
  calc (2 : ℚ) ^ e = 2 ^ (e - lastPlace q).toNat * 2 ^ lastPlace q := by
        rw [← zpow_natCast, ← zpow_add₀ (by norm_num), Int.toNat_of_nonneg (by omega),
          sub_add_cancel]
    _ ≤ round q := mul_le_mul_of_nonneg_right cast (two_zpow_pos _).le

/-- **Rounding keeps the order.** -/
theorem round_mono {p q : ℚ} (nonneg : 0 ≤ p) (le : p ≤ q) : round p ≤ round q := by
  rcases nonneg.eq_or_lt with rfl | positive
  · rw [round_zero]
    exact round_nonneg le
  rcases (lastPlace_mono positive le).lt_or_eq with coarser | same
  · -- A power of two lies between the numbers, and rounding does not pass it.
    have normal : -1074 < lastPlace q := lt_of_le_of_lt (le_max_right _ _) coarser
    have above := zpow_le_round (by omega) (zpow_lastPlace_le (positive.trans_le le) normal)
    refine le_trans (round_le_zpow (by omega) ?_) above
    exact (lt_zpow_lastPlace positive).le.trans
      (zpow_le_zpow_right₀ (by norm_num) (by omega))
  · unfold round
    rw [same]
    have nearest := nearestEven_mono (div_le_div_of_nonneg_right le (two_zpow_pos (lastPlace q)).le)
    exact mul_le_mul_of_nonneg_right (by exact_mod_cast nearest) (two_zpow_pos _).le

/-- A multiple of its last place is a double. -/
theorem round_of_multiple {q : ℚ} {n : ℤ} (multiple : q = n * 2 ^ lastPlace q) : round q = q := by
  have scaled : q / 2 ^ lastPlace q = n := by
    rw [div_eq_iff (two_zpow_pos _).ne']
    exact multiple
  rw [round, scaled, nearestEven_intCast]
  exact multiple.symm

/-- **Rounding keeps doubles.** -/
theorem round_round {q : ℚ} (nonneg : 0 ≤ q) : round (round q) = round q := by
  rcases nonneg.eq_or_lt with rfl | positive
  · rw [round_zero, round_zero]
  have below : round q ≤ 2 ^ (lastPlace q + 53) :=
    round_le_zpow (by omega) (lt_zpow_lastPlace positive).le
  rcases (round_nonneg nonneg).eq_or_lt with zero | rounded
  · rw [← zero, round_zero]
  rcases below.eq_or_lt with power | less
  · rw [power]
    refine le_antisymm (round_le_zpow ?_ le_rfl) (zpow_le_round ?_ le_rfl)
    all_goals
      unfold lastPlace
      rw [abs_of_pos (two_zpow_pos _), show (2 : ℚ) = ((2 : ℕ) : ℚ) by norm_num,
        Int.log_zpow (by norm_num)]
      have least : -1074 ≤ lastPlace q := le_max_right _ _
      omega
  · -- The double has no finer places than the number it comes from, or the same.
    have place : lastPlace (round q) ≤ lastPlace q := by
      have log := (Int.lt_zpow_iff_log_lt (b := 2) (by norm_num) rounded).mp
        (by exact_mod_cast less)
      have least : -1074 ≤ lastPlace q := le_max_right _ _
      unfold lastPlace at least ⊢
      rw [abs_of_pos rounded]
      unfold lastPlace at log
      omega
    refine round_of_multiple
      (n := nearestEven (q / 2 ^ lastPlace q) * 2 ^ (lastPlace q - lastPlace (round q)).toNat) ?_
    push_cast
    rw [mul_assoc, ← zpow_natCast, ← zpow_add₀ (by norm_num), Int.toNat_of_nonneg (by omega),
      sub_add_cancel]
    rfl

/-! ## Sums -/

/-- The sum of two durations. -/
def add (a b : NNRat) : NNRat := ⟨round (a + b), round_nonneg (add_nonneg a.2 b.2)⟩

theorem add_zero_zero : add 0 0 = 0 :=
  Subtype.ext (by
    change round (0 + 0) = 0
    rw [add_zero, round_zero])

theorem add_mono {a b c d : NNRat} (first : a ≤ c) (second : b ≤ d) : add a b ≤ add c d :=
  round_mono (add_nonneg a.2 b.2) (add_le_add (Subtype.coe_le_coe.mpr first)
    (Subtype.coe_le_coe.mpr second))

/-- A sum is a double. -/
theorem add_add_zero (a b : NNRat) : add (add a b) 0 = add a b :=
  Subtype.ext (by
    change round (round (a + b) + 0) = round (a + b)
    rw [add_zero]
    exact round_round (add_nonneg a.2 b.2))

/-- **A sum is not below a part that is a double.** -/
theorem le_add {a : NNRat} (double : add a 0 = a) (b : NNRat) : a ≤ add a b :=
  double.symm.le.trans (add_mono le_rfl b.2)

/-- `math.fsum` takes one more number into its partial sums, the smallest first: the rounded
sums go on, what they lost is kept. -/
def takePartial : List ℚ → ℚ → Option (List ℚ)
  | [], x => some (if x = 0 then [] else [x])
  | y :: partials, x =>
      if overflows (x + y) then none
      else
        let lost := x + y - round (x + y)
        (takePartial partials (round (x + y))).map fun kept =>
          if lost = 0 then kept else lost :: kept

/-- `math.fsum`: the sum rounded once, unless a partial sum overflows. -/
def fsum (values : List ℚ) : Option ℚ :=
  (values.foldlM takePartial []).map fun partials => round partials.sum

/-- `statistics.fmean` of a list that is not empty; it has no value where `fsum` raises
`OverflowError`. -/
def fmean (values : List ℚ) : Option ℚ :=
  (fsum values).map fun total => round (total / values.length)

example : fmean [1 / 2, 1 / 4, 1 / 8, 1 / 8] = some (1 / 4) ∧
    fmean (List.replicate 4 (round (10 ^ 308))) = none := by decide +kernel

/-! ## Printed numbers -/

/-- The nearer of the decimals with the given number of digits that are read back as the
double, if there is one. -/
def decimal? (x : ℚ) (digits : ℕ) : Option ℚ :=
  let place : ℚ := 10 ^ (Int.log 10 |x| - (digits - 1))
  let below := ⌊x / place⌋ * place
  let above := below + place
  let nearer := if x - below ≤ above - x then [below, above] else [above, below]
  nearer.find? fun decimal => decide (round decimal = x)

/-- The value of `repr` of a double: the shortest decimal that is read back as it. Seventeen
digits are always enough. -/
def shortest (x : ℚ) : ℚ := ((List.range 17).findSome? fun n => decimal? x (n + 1)).getD x

/-- A double that is printed with a positive exponent is stored as the integer that the text
stands for; the others come back as they are. -/
def stored (x : ℚ) : ℚ := if |x| < 10 ^ 16 then x else shortest x

example : stored (round (10 ^ 22)) = 10 ^ 22 ∧ round (10 ^ 22) = 10 ^ 22 ∧
    stored (round (10 ^ 23)) = 10 ^ 23 ∧ round (10 ^ 23) = 99999999999999991611392 := by
  decide +kernel

end Binary64

end Foundation
