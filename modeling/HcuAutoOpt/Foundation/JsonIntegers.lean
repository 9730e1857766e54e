import HcuAutoOpt.Foundation.JsonReadBack
import HcuAutoOpt.Foundation.TextFields

/-!
# JSON texts with integers

The numbers of most documents are integers, and these are read as they are printed
(`integerNumbers_lawful`). For a document of such numbers, that it can be printed is decided by
walking through it (`fits_of_fitsWithin`).
-/

set_option autoImplicit false

namespace Foundation

namespace Json

variable {rest : List Char}

/-- A natural number at the start of a text, without superfluous zeros. -/
def scanNat (text : List Char) : Option (Nat × List Char) :=
  match text.takeWhile Char.isDigit with
  | [] => none
  | '0' :: _ => some (0, text.drop 1)
  | digits => some (Nat.ofDigitChars 10 digits 0, text.dropWhile Char.isDigit)

/-- The integers of JSON texts, without fractions and exponents. -/
def integerNumbers : NumberSyntax where
  scan text :=
    if text.head? = some '-' then
      (scanNat text.tail).map fun read => (some (.int (-read.1)), read.2)
    else (scanNat text).map fun read => (some (.int read.1), read.2)
  Printable value := ∃ n, value = .int n

theorem scanNat_toDigits (n : Nat) (ends : NumberEnds rest) :
    scanNat (Nat.toDigits 10 n ++ rest) = some (n, rest) := by
  have digit : ∀ c ∈ Nat.toDigits 10 n, c.isDigit = true := fun c member =>
    Nat.isDigit_of_mem_toDigits (by decide) (by decide) member
  have behind : rest.takeWhile Char.isDigit = [] ∧ rest.dropWhile Char.isDigit = rest := by
    cases rest with
    | nil => exact ⟨rfl, rfl⟩
    | cons c rest =>
        have other : ¬c.isDigit = true := by
          have mark := ends c rfl
          simp only [List.mem_cons, List.not_mem_nil, or_false] at mark
          rcases mark with rfl | rfl | rfl | rfl <;> decide
        exact ⟨List.takeWhile_cons_of_neg other, List.dropWhile_cons_of_neg other⟩
  have taken : (Nat.toDigits 10 n ++ rest).takeWhile Char.isDigit = Nat.toDigits 10 n := by
    rw [List.takeWhile_append_of_pos digit, behind.1, List.append_nil]
  have dropped : (Nat.toDigits 10 n ++ rest).dropWhile Char.isDigit = rest := by
    rw [List.dropWhile_append_of_pos digit, behind.2]
  unfold scanNat
  rw [taken, dropped]
  by_cases zero : n = 0
  · subst zero
    rfl
  · split
    · next none => exact absurd none Nat.toDigits_ne_nil
    · next others digits =>
        have first := head?_toDigits_ne (Nat.pos_of_ne_zero zero)
        rw [digits] at first
        exact absurd rfl first
    · rw [Nat.ofDigitChars_ten_toDigits]

/-- The first character of a printed number is a digit. -/
theorem toDigits_opens (n : Nat) : ∃ c more, Nat.toDigits 10 n = c :: more ∧ c.isDigit = true := by
  obtain ⟨c, more, digits⟩ := List.exists_cons_of_ne_nil (Nat.toDigits_ne_nil (n := n) (b := 10))
  exact ⟨c, more, digits, Nat.isDigit_of_mem_toDigits (b := 10) (n := n) (by decide) (by decide)
    (by rw [digits]; exact List.mem_cons_self)⟩

/-- **Integers are read as they are printed.** -/
theorem integerNumbers_lawful : integerNumbers.Lawful where
  scan_dumps value printable rest ends := by
    obtain ⟨n, rfl⟩ := printable
    rw [dumps, toList_toString_int]
    split
    · next positive =>
        obtain ⟨c, more, digits, digit⟩ := toDigits_opens n.toNat
        have unsigned : (Nat.toDigits 10 n.toNat ++ rest).head? ≠ some '-' := by
          rw [digits]
          intro same
          cases same
          exact absurd digit (by decide)
        simp only [integerNumbers, if_neg unsigned, scanNat_toDigits _ ends, Option.map_some,
          Int.toNat_of_nonneg positive]
    · next negative =>
        simp only [integerNumbers, List.cons_append, List.head?_cons, if_true, List.tail_cons,
          scanNat_toDigits _ ends, Option.map_some]
        have same : -(n.natAbs : Int) = n := by omega
        rw [same]
  opens value printable := by
    obtain ⟨n, rfl⟩ := printable
    rw [dumps, toList_toString_int]
    split
    · obtain ⟨c, more, digits, digit⟩ := toDigits_opens n.toNat
      exact ⟨c, more, digits, .inr digit⟩
    · exact ⟨'-', _, rfl, .inl rfl⟩
  printable text value rest scanned := by
    simp only [integerNumbers] at scanned
    split at scanned
    · obtain ⟨read, -, same⟩ := Option.map_eq_some_iff.mp scanned
      exact ⟨_, (Option.some.inj (Prod.mk.inj same).1).symm⟩
    · obtain ⟨read, -, same⟩ := Option.map_eq_some_iff.mp scanned
      exact ⟨_, (Option.some.inj (Prod.mk.inj same).1).symm⟩

/-- A document of integers within a depth, with distinct names in every object. -/
def fitsWithin : Nat → Json → Bool
  | 0, _ => false
  | _ + 1, .float _ _ => false
  | depth + 1, .arr items => items.all (fitsWithin depth)
  | depth + 1, .obj fields =>
      decide (fields.map Prod.fst).Nodup && fields.all fun field => fitsWithin depth field.2
  | _ + 1, _ => true

theorem fits_of_fitsWithin {depth : Nat} {value : Json} (within : fitsWithin depth value = true) :
    Fits integerNumbers depth value := by
  induction depth generalizing value with
  | zero => cases within
  | succ depth ih =>
      cases value with
      | null => exact .null depth
      | bool value => exact .bool depth value
      | int value => exact .int depth value ⟨value, rfl⟩
      | float significand exponent => cases within
      | str value => exact .str depth value
      | arr items =>
          exact .arr depth items fun item member => ih (List.all_eq_true.mp within item member)
      | obj fields =>
          obtain ⟨distinct, each⟩ := Bool.and_eq_true_iff.mp within
          exact .obj depth fields (of_decide_eq_true distinct) fun field member =>
            ih (List.all_eq_true.mp each field member)

/-- Such a document has no other numbers. -/
theorem integral_of_fitsWithin {depth : Nat} {value : Json}
    (within : fitsWithin depth value = true) : value.integral = true := by
  induction depth generalizing value with
  | zero => cases within
  | succ depth ih =>
      cases value with
      | float significand exponent => cases within
      | arr items =>
          exact integralItems_iff.mpr fun item member =>
            ih (List.all_eq_true.mp within item member)
      | obj fields =>
          exact integralFields_iff.mpr fun field member =>
            ih (List.all_eq_true.mp (Bool.and_eq_true_iff.mp within).2 field member)
      | _ => rfl

end Json

end Foundation
