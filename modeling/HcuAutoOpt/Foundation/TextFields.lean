import HcuAutoOpt.Foundation.CanonicalReading
import HcuAutoOpt.Foundation.UuidText
import Mathlib.Data.List.DropRight
import Mathlib.Tactic.IntervalCases

/-!
# Fields of a text and integers in them

`splitFields` cuts a text at its blanks and keeps what is not empty. Everything about it follows
from one equation, that a blank cuts a text in two (`splitFields_append_cons`): blanks at the
ends change nothing (`splitFields_stripEnds`), and fields that a single blank joins are read back
(`splitFields_joined`).

An integer is read from its digits, in any script, with an optional sign and single underscores
between digits; a text of more than `maxStrDigits` digits is refused, as is writing an integer of
that size (`readInt`, `writeInt`). What is written is read back (`readInt_toDigits`).
-/

set_option autoImplicit false

namespace Foundation

/-! ## Fields between blanks -/

section Fields

variable {α : Type} {blank : α → Bool}

/-- `text.split()`. -/
def splitFields (blank : α → Bool) (text : List α) : List (List α) :=
  (text.splitOnP blank).filter (!·.isEmpty)

/-- A field: it is not empty, and no blank stands in it. -/
structure IsField (blank : α → Bool) (text : List α) : Prop where
  some_ : text ≠ []
  solid : ∀ item ∈ text, blank item = false

/-- **A blank cuts a text in two.** -/
theorem splitFields_append_cons (front : List α) {sep : α} (isSep : blank sep = true)
    (rest : List α) : splitFields blank (front ++ sep :: rest) =
      splitFields blank front ++ splitFields blank rest := by
  unfold splitFields
  rw [List.splitOnP_append_cons front rest isSep, List.filter_append]

theorem splitFields_nil : splitFields blank [] = [] := by
  rw [splitFields, List.splitOnP_nil]
  rfl

theorem splitFields_cons {sep : α} (isSep : blank sep = true) (rest : List α) :
    splitFields blank (sep :: rest) = splitFields blank rest := by
  have cut := splitFields_append_cons [] isSep rest
  rwa [splitFields_nil] at cut

theorem splitFields_concat (front : List α) {sep : α} (isSep : blank sep = true) :
    splitFields blank (front ++ [sep]) = splitFields blank front := by
  rw [splitFields_append_cons front isSep, splitFields_nil, List.append_nil]

theorem splitFields_dropWhile (text : List α) :
    splitFields blank (text.dropWhile blank) = splitFields blank text := by
  induction text with
  | nil => rfl
  | cons item text ih =>
      cases isSep : blank item with
      | true => rw [List.dropWhile_cons_of_pos isSep, ih, splitFields_cons isSep]
      | false => rw [List.dropWhile_cons_of_neg (by simp [isSep])]

theorem splitFields_rdropWhile (text : List α) :
    splitFields blank (text.rdropWhile blank) = splitFields blank text := by
  induction text using List.reverseRecOn with
  | nil => rfl
  | append_singleton text item ih =>
      cases isSep : blank item with
      | true =>
          rw [List.rdropWhile_concat_pos blank text item isSep, ih,
            splitFields_concat text isSep]
      | false => rw [List.rdropWhile_concat_neg blank text item (by simp [isSep])]

/-- A field alone. -/
theorem IsField.splitFields {field : List α} (isField : IsField blank field) :
    splitFields blank field = [field] := by
  rw [Foundation.splitFields, List.splitOnP_eq_singleton isField.solid]
  simp [isField.some_]

/-- **Joined fields are read back.** -/
theorem splitFields_joined {sep : α} (isSep : blank sep = true) {first : List α}
    {fields : List (List α)} (isField : IsField blank first)
    (areFields : ∀ field ∈ fields, IsField blank field) :
    splitFields blank (first ++ fields.flatMap (sep :: ·)) = first :: fields := by
  induction fields generalizing first with
  | nil => rw [List.flatMap_nil, List.append_nil, isField.splitFields]
  | cons field fields ih =>
      obtain ⟨next, areFields⟩ := List.forall_mem_cons.mp areFields
      rw [List.flatMap_cons, List.cons_append, splitFields_append_cons first isSep,
        isField.splitFields, ih next areFields, List.singleton_append]

end Fields

/-- `text.strip().split()` has the fields of `text.split()`. -/
theorem splitFields_stripEnds {blank : Char → Bool} (text : List Char) :
    splitFields blank (stripEnds blank text) = splitFields blank text := by
  have trimmed : splitFields blank ((text.dropWhile blank).rdropWhile blank) =
      splitFields blank (text.dropWhile blank) := splitFields_rdropWhile _
  exact trimmed.trans (splitFields_dropWhile text)

/-! ## Digits -/

/-- The zeros of the decimal digits of Unicode. -/
def digitZeros : List Nat :=
  [0x30, 0x660, 0x6F0, 0x7C0, 0x966, 0x9E6, 0xA66, 0xAE6, 0xB66, 0xBE6, 0xC66, 0xCE6, 0xD66,
    0xDE6, 0xE50, 0xED0, 0xF20, 0x1040, 0x1090, 0x17E0, 0x1810, 0x1946, 0x19D0, 0x1A80, 0x1A90,
    0x1B50, 0x1BB0, 0x1C40, 0x1C50, 0xA620, 0xA8D0, 0xA900, 0xA9D0, 0xA9F0, 0xAA50, 0xABF0,
    0xFF10, 0x104A0, 0x10D30, 0x11066, 0x110F0, 0x11136, 0x111D0, 0x112F0, 0x11450, 0x114D0,
    0x11650, 0x116C0, 0x11730, 0x118E0, 0x11950, 0x11C50, 0x11D50, 0x11DA0, 0x11F50, 0x16A60,
    0x16AC0, 0x16B50, 0x1D7CE, 0x1D7D8, 0x1D7E2, 0x1D7EC, 0x1D7F6, 0x1E140, 0x1E2F0, 0x1E4F0,
    0x1E950, 0x1FBF0]

/-- The value of a character that `\d` matches. -/
def digitValue (c : Char) : Option Nat :=
  (digitZeros.find? fun first => decide (first ≤ c.toNat ∧ c.toNat ≤ first + 9)).map
    fun first => c.toNat - first

/-- The characters that are digits to Unicode without being decimal digits, such as
superscripts, from the first to the last of each row. -/
def otherDigits : List (Nat × Nat) :=
  [(0xB2, 0xB3), (0xB9, 0xB9), (0x1369, 0x1371), (0x19DA, 0x19DA), (0x2070, 0x2070),
    (0x2074, 0x2079), (0x2080, 0x2089), (0x2460, 0x2468), (0x2474, 0x247C), (0x2488, 0x2490),
    (0x24EA, 0x24EA), (0x24F5, 0x24FD), (0x24FF, 0x24FF), (0x2776, 0x277E), (0x2780, 0x2788),
    (0x278A, 0x2792), (0x10A40, 0x10A43), (0x10E60, 0x10E68), (0x11052, 0x1105A),
    (0x1F100, 0x1F10A)]

/-- `text.isdigit()`. -/
def isDigits (text : List Char) : Bool :=
  !text.isEmpty && text.all fun c =>
    (digitValue c).isSome || otherDigits.any fun row => row.1 ≤ c.toNat && c.toNat ≤ row.2

theorem digitValue_of_isDigit {c : Char} (digit : c.isDigit = true) :
    digitValue c = some (c.toNat - '0'.toNat) := by
  have bounds : 0x30 ≤ c.toNat ∧ c.toNat ≤ 0x30 + 9 := by
    rw [Char.isDigit_iff_toNat] at digit
    exact digit
  rw [digitValue, digitZeros, List.find?_cons_of_pos (by simpa using bounds)]
  rfl

/-! ## Integers -/

/-- The digits that a conversion between integers and texts takes at most. -/
def maxStrDigits : Nat := 4300

/-- Digits with single underscores between them. The flag says that the last character read was
a digit. -/
def readDecimal (value : Nat) : Bool → List Char → Option Nat
  | true, [] => some value
  | false, [] => none
  | afterDigit, c :: rest =>
      if afterDigit = true ∧ c = '_' then readDecimal value false rest
      else (digitValue c).bind fun digit => readDecimal (10 * value + digit) true rest

/-- An integer without a sign. -/
def readUnsigned (text : List Char) : Option Nat :=
  if (text.filter (· != '_')).length ≤ maxStrDigits then readDecimal 0 false text else none

/-- `int(text)` of a text without blanks; none where it is a `ValueError`. -/
def readInt : List Char → Option Int
  | [] => none
  | c :: rest =>
      if c = '-' then (readUnsigned rest).map fun n => -Int.ofNat n
      else if c = '+' then (readUnsigned rest).map Int.ofNat
      else (readUnsigned (c :: rest)).map Int.ofNat

/-- `str(value)`; none where it is a `ValueError`. -/
def writeInt (value : Int) : Option (List Char) :=
  if (Nat.toDigits 10 value.natAbs).length ≤ maxStrDigits then some (toString value).toList
  else none

/-- A number that is converted between integer and text. -/
def Convertible (n : Nat) : Prop := (Nat.toDigits 10 n).length ≤ maxStrDigits

instance instDecidableConvertible (n : Nat) : Decidable (Convertible n) :=
  inferInstanceAs (Decidable (_ ≤ _))

/-- Numbers of 64 bits are converted. -/
theorem convertible_of_lt {n : Nat} (small : n < 2 ^ 64) : Convertible n := by
  have short : (Nat.toDigits 10 n).length ≤ 20 :=
    (Nat.length_toDigits_le_iff (by decide) (by decide)).mpr (small.trans (by decide))
  exact short.trans (by decide)

theorem isDigits_toDigits (n : Nat) : isDigits (Nat.toDigits 10 n) = true := by
  have digit : ∀ c ∈ Nat.toDigits 10 n, c.isDigit = true := fun c member =>
    Nat.isDigit_of_mem_toDigits (by decide) (by decide) member
  simp only [isDigits, Bool.and_eq_true, Bool.not_eq_true', List.isEmpty_eq_false_iff,
    List.all_eq_true, Bool.or_eq_true]
  refine ⟨Nat.toDigits_ne_nil, fun c member => Or.inl ?_⟩
  rw [digitValue_of_isDigit (digit c member)]
  rfl

/-- The text of a positive number starts with no zero. -/
theorem head?_toDigits_ne {n : Nat} (positive : 1 ≤ n) : (Nat.toDigits 10 n).head? ≠ some '0' := by
  induction n using Nat.strong_induction_on with
  | h n ih =>
      rw [Nat.toDigits_eq_if (by decide)]
      split
      · rename_i small
        rw [List.head?_cons]
        intro zero
        interval_cases n <;> exact absurd (Option.some.inj zero) (by decide)
      · rename_i large
        rw [List.head?_append_of_ne_nil _ Nat.toDigits_ne_nil]
        exact ih (n / 10) (by omega) (by omega)

/-- A number is determined by its text. -/
theorem toDigits_inj {n n' : Nat} : Nat.toDigits 10 n = Nat.toDigits 10 n' ↔ n = n' := by
  refine ⟨fun same => ?_, congrArg _⟩
  have values := congrArg (Nat.ofDigitChars 10 · 0) same
  simpa only [Nat.ofDigitChars_ten_toDigits] using values

/-- ASCII digits have the value that they are written for. -/
theorem readDecimal_digits {digits : List Char} (digit : ∀ c ∈ digits, c.isDigit = true)
    (value : Nat) {afterDigit : Bool} (some_ : afterDigit = true ∨ digits ≠ []) :
    readDecimal value afterDigit digits = some (Nat.ofDigitChars 10 digits value) := by
  induction digits generalizing value afterDigit with
  | nil =>
      cases some_.resolve_right (by simp)
      rw [readDecimal, Nat.ofDigitChars_nil]
  | cons c digits ih =>
      obtain ⟨first, others⟩ := List.forall_mem_cons.mp digit
      have noUnderscore : ¬(afterDigit = true ∧ c = '_') := by
        rintro ⟨_, rfl⟩
        exact absurd first (by decide)
      rw [readDecimal, if_neg noUnderscore, digitValue_of_isDigit first, Option.bind_some,
        ih others _ (Or.inl rfl), Nat.ofDigitChars_cons]

/-- **A written number is read back.** -/
theorem readInt_toDigits {n : Nat} (convertible : Convertible n) :
    readInt (Nat.toDigits 10 n) = some (n : Int) := by
  have digit : ∀ c ∈ Nat.toDigits 10 n, c.isDigit = true := fun c member =>
    Nat.isDigit_of_mem_toDigits (by decide) (by decide) member
  have unsigned : readUnsigned (Nat.toDigits 10 n) = some n := by
    have few : ((Nat.toDigits 10 n).filter (· != '_')).length ≤ maxStrDigits :=
      (List.length_filter_le _ _).trans convertible
    rw [readUnsigned, if_pos few, readDecimal_digits digit 0 (Or.inr Nat.toDigits_ne_nil),
      Nat.ofDigitChars_ten_toDigits]
  cases digits : Nat.toDigits 10 n with
  | nil => exact absurd digits Nat.toDigits_ne_nil
  | cons c rest =>
      rw [digits] at digit unsigned
      have other : ∀ sign : Char, sign.isDigit = false → c ≠ sign := by
        rintro sign letter rfl
        rw [digit c List.mem_cons_self] at letter
        cases letter
      rw [readInt, if_neg (other '-' (by decide)), if_neg (other '+' (by decide)), unsigned,
        Option.map_some, Int.ofNat_eq_natCast]

theorem writeInt_natCast {n : Nat} (convertible : Convertible n) :
    writeInt (n : Int) = some (Nat.toDigits 10 n) := by
  have short : (Nat.toDigits 10 (n : Int).natAbs).length ≤ maxStrDigits := convertible
  rw [writeInt, if_pos short, Json.toList_toString_int, if_pos (Int.natCast_nonneg n),
    Int.toNat_natCast]

/-- The text of an integer is digits, and a minus sign perhaps. -/
theorem mem_toString_int {value : Int} {c : Char} (member : c ∈ (toString value).toList) :
    c.isDigit = true ∨ c = '-' := by
  have digits : ∀ n : Nat, c ∈ Nat.toDigits 10 n → c.isDigit = true := fun n member =>
    Nat.isDigit_of_mem_toDigits (by decide) (by decide) member
  rw [Json.toList_toString_int] at member
  split at member
  · exact Or.inl (digits _ member)
  · rcases List.mem_cons.mp member with rfl | member
    · exact Or.inr rfl
    · exact Or.inl (digits _ member)

theorem isBlank_of_isDigit {c : Char} (digit : c.isDigit = true) : isBlank c = false := by
  rw [Char.isDigit_iff_toNat] at digit
  simp only [isBlank]
  grind

theorem isBlank_of_isAlpha {c : Char} (letter : c.isAlpha = true) : isBlank c = false := by
  change (decide (65 ≤ c.val ∧ c.val ≤ 90) || (decide (97 ≤ c.val) && decide (c.val ≤ 122))) = true
    at letter
  simp only [Bool.or_eq_true, Bool.and_eq_true, decide_eq_true_eq, UInt32.le_iff_toNat_le,
    Char.toNat_val] at letter
  change 65 ≤ c.toNat ∧ c.toNat ≤ 90 ∨ 97 ≤ c.toNat ∧ c.toNat ≤ 122 at letter
  have bounds : 65 ≤ c.toNat ∧ c.toNat ≤ 122 := by omega
  simp only [isBlank]
  grind

/-- The text of an integer is a field. -/
theorem isField_toString (value : Int) : IsField isBlank (toString value).toList := by
  constructor
  · rw [Json.toList_toString_int]
    split
    · exact Nat.toDigits_ne_nil
    · exact List.cons_ne_nil _ _
  · intro c member
    rcases mem_toString_int member with digit | rfl
    · exact isBlank_of_isDigit digit
    · decide

/-! ## Labels -/

/-- `text.strip()`. -/
def strip (text : String) : String := String.ofList (stripEnds isBlank text.toList)

/-- The characters beyond ASCII whose capitals are ASCII letters: the dotless i, the sharp and
the long s, and the ligatures. -/
def ligatureCapitals : List (Nat × List Char) :=
  [(0x131, ['I']), (0xDF, ['S', 'S']), (0x17F, ['S']), (0xFB00, ['F', 'F']),
    (0xFB01, ['F', 'I']), (0xFB02, ['F', 'L']), (0xFB03, ['F', 'F', 'I']),
    (0xFB04, ['F', 'F', 'L']), (0xFB05, ['S', 'T']), (0xFB06, ['S', 'T'])]

/-- The capitals of a character. A character whose capitals are not all in ASCII stands for
itself: no comparison with an ASCII name can tell. -/
def upperChar (c : Char) : List Char :=
  match ligatureCapitals.lookup c.toNat with
  | some capitals => capitals
  | none => [c.toUpper]

/-- `text.upper()`, up to capitals outside ASCII. -/
def upper (text : String) : String := String.ofList (text.toList.flatMap upperChar)

example : upper "ba\u017feline" = "BASELINE" := by decide

end Foundation
