import Mathlib.Data.List.Basic
import Mathlib.Tactic.Ring

/-!
# Identifiers and their text

A 128-bit identifier, its canonical text of 32 hexadecimal digits in five groups
(`Uuid.text`), and the reading of a text as an identifier (`Uuid.parse`), which
accepts what the constructor of the standard `uuid` module accepts: the prefixes
`urn:` and `uuid:` anywhere, enclosing braces, hyphens anywhere, and then exactly
32 characters that read as one base-16 integer.

`Uuid.parse_text` is the round trip; `Uuid.text_injective` follows from it.
-/

set_option autoImplicit false

namespace Foundation

/-- A 128-bit identifier. -/
abbrev Uuid := BitVec 128

instance Uuid.lawfulBEq : LawfulBEq Uuid := inferInstance

/-! ## Hexadecimal digits -/

/-- The lower-case digit of a value below sixteen. -/
def hexDigit (value : Nat) : Char :=
  ['0', '1', '2', '3', '4', '5', '6', '7', '8', '9', 'a', 'b', 'c', 'd', 'e', 'f'].getD value '0'

/-- The value of a digit of either case. -/
def hexValue (digit : Char) : Option Nat :=
  if '0' ≤ digit ∧ digit ≤ '9' then some (digit.toNat - 48)
  else if 'a' ≤ digit ∧ digit ≤ 'f' then some (digit.toNat - 87)
  else if 'A' ≤ digit ∧ digit ≤ 'F' then some (digit.toNat - 55)
  else none

theorem hexValue_hexDigit : ∀ value < 16, hexValue (hexDigit value) = some value := by
  decide

/-- The lowest `width` digits of a number, the most significant first. -/
def hexText : Nat → Nat → List Char
  | 0, _ => []
  | width + 1, n => hexText width (n / 16) ++ [hexDigit (n % 16)]

@[simp] theorem length_hexText (width n : Nat) : (hexText width n).length = width := by
  induction width generalizing n with
  | zero => rfl
  | succ width ih => simp [hexText, ih]

/-- Every character of a hexadecimal text is one of the sixteen digits. -/
theorem mem_hexText {width n : Nat} {c : Char} (member : c ∈ hexText width n) :
    ∃ value < 16, hexDigit value = c := by
  induction width generalizing n with
  | zero => simp [hexText] at member
  | succ width ih =>
      rcases List.mem_append.mp member with before | last
      · exact ih before
      · exact ⟨n % 16, Nat.mod_lt _ (by decide), (List.mem_singleton.mp last).symm⟩

/-! ## Reading a base-16 integer -/

/-- Digits with single underscores between them. The flag says that the last
character read was a digit. -/
def readDigits (value : Nat) : Bool → List Char → Option Nat
  | true, [] => some value
  | false, [] => none
  | afterDigit, c :: rest =>
      if afterDigit = true ∧ c = '_' then readDigits value false rest
      else (hexValue c).bind fun digit => readDigits (16 * value + digit) true rest

/-- The blanks that a number may be surrounded by. -/
def isBlank (c : Char) : Bool :=
  let code := c.toNat
  (9 ≤ code && code ≤ 13) || (28 ≤ code && code ≤ 32) || code == 133 || code == 160 ||
    code == 5760 || (8192 ≤ code && code ≤ 8202) || code == 8232 || code == 8233 ||
    code == 8239 || code == 8287 || code == 12288

/-- Drop the characters of a kind at both ends. -/
def stripEnds (p : Char → Bool) (text : List Char) : List Char :=
  ((text.dropWhile p).reverse.dropWhile p).reverse

/-- Drop a leading plus sign. -/
def dropSign : List Char → List Char
  | [] => []
  | c :: rest => if c = '+' then rest else c :: rest

/-- Drop a leading `0x`, with one underscore after it. -/
def dropRadix : List Char → List Char
  | zero :: x :: rest =>
      if zero = '0' ∧ (x = 'x' ∨ x = 'X') then
        match rest with
        | [] => []
        | c :: digits => if c = '_' then digits else rest
      else zero :: x :: rest
  | short => short

/-- `int(text, 16)` of a text without a minus sign: blanks around, a plus sign, a
`0x` prefix, and underscores between digits. -/
def readInt16 (text : List Char) : Option Nat :=
  readDigits 0 false (dropRadix (dropSign (stripEnds isBlank text)))

/-- `text.replace(pattern, "")`, for a non-empty pattern. -/
def removeAll (pattern : List Char) : Nat → List Char → List Char
  | 0, text => text
  | _ + 1, [] => []
  | fuel + 1, c :: rest =>
      if pattern.isPrefixOf (c :: rest) then
        removeAll pattern fuel ((c :: rest).drop pattern.length)
      else c :: removeAll pattern fuel rest

/-- A pattern whose first character does not occur is nowhere found. -/
theorem removeAll_eq_self {first : Char} {pattern : List Char} (fuel : Nat) {text : List Char}
    (absent : first ∉ text) : removeAll (first :: pattern) fuel text = text := by
  induction fuel generalizing text with
  | zero => rfl
  | succ fuel ih =>
      cases text with
      | nil => rfl
      | cons c rest =>
          simp only [List.mem_cons, not_or] at absent
          simp [removeAll, List.isPrefixOf, absent.1, ih absent.2]

theorem stripEnds_eq_self {p : Char → Bool} {text : List Char}
    (clean : ∀ c ∈ text, p c = false) : stripEnds p text = text := by
  have keep : ∀ text : List Char, (∀ c ∈ text, p c = false) → text.dropWhile p = text := by
    intro text clean
    cases text with
    | nil => rfl
    | cons c rest => simp [clean c (by simp)]
  rw [stripEnds, keep text clean, keep text.reverse (by simpa using clean), List.reverse_reverse]

/-- Reading the digits of a number gives the number. -/
theorem readDigits_hexText (width n value : Nat) (rest : List Char) (flag : Bool) :
    readDigits value flag (hexText (width + 1) n ++ rest) =
      readDigits (16 ^ (width + 1) * value + n % 16 ^ (width + 1)) true rest := by
  have digit : ∀ (flag : Bool) (value d : Nat) (rest : List Char), d < 16 →
      readDigits value flag (hexDigit d :: rest) = readDigits (16 * value + d) true rest := by
    intro flag value d rest small
    have notMark : ¬ hexDigit d = '_' := by
      revert d
      decide
    simp [readDigits, notMark, hexValue_hexDigit d small]
  induction width generalizing n rest with
  | zero => simp [hexText, digit _ _ _ _ (Nat.mod_lt n (by decide : 0 < 16))]
  | succ width ih =>
      rw [hexText, List.append_assoc, ih]
      simp only [List.singleton_append]
      rw [digit _ _ _ _ (Nat.mod_lt n (by decide : 0 < 16))]
      congr 1
      have split := Nat.mod_mul (a := 16) (b := 16 ^ (width + 1)) (x := n)
      rw [pow_succ' 16 (width + 1), split]
      ring

/-! ## The text of an identifier -/

namespace Uuid

/-- The canonical text: 32 lower-case digits in groups of 8, 4, 4, 4 and 12. -/
def text (id : Uuid) : String :=
  let digits := hexText 32 id.toNat
  String.ofList <|
    digits.take 8 ++ '-' :: ((digits.drop 8).take 4 ++ '-' :: ((digits.drop 12).take 4 ++
      '-' :: ((digits.drop 16).take 4 ++ '-' :: digits.drop 20)))

/-- `UUID(text)`; a text that is not an identifier raises. -/
def parse (text : String) : Option Uuid :=
  let chars := text.toList
  let chars := removeAll ['u', 'r', 'n', ':'] chars.length chars
  let chars := removeAll ['u', 'u', 'i', 'd', ':'] chars.length chars
  let chars := (stripEnds (fun c => c = '{' || c = '}') chars).filter (fun c => c ≠ '-')
  if chars.length = 32 then (readInt16 chars).map (BitVec.ofNat 128) else none

/-- The hyphenated form of 32 digits. -/
theorem mem_groups {digits : List Char} {c : Char}
    (member : c ∈ digits.take 8 ++ '-' :: ((digits.drop 8).take 4 ++ '-' ::
      ((digits.drop 12).take 4 ++ '-' :: ((digits.drop 16).take 4 ++ '-' :: digits.drop 20)))) :
    c = '-' ∨ c ∈ digits := by
  simp only [List.mem_append, List.mem_cons] at member
  have taken : ∀ {n m : Nat}, c ∈ (digits.drop n).take m → c ∈ digits :=
    fun inside => List.mem_of_mem_drop (List.mem_of_mem_take inside)
  rcases member with h | h | h | h | h | h | h | h | h
  · exact .inr (List.mem_of_mem_take h)
  · exact .inl h
  · exact .inr (taken h)
  · exact .inl h
  · exact .inr (taken h)
  · exact .inl h
  · exact .inr (taken h)
  · exact .inl h
  · exact .inr (List.mem_of_mem_drop h)

/-- Dropping the hyphens of the groups gives the digits back. -/
theorem filter_groups {digits : List Char} (clean : ∀ c ∈ digits, c ≠ '-') :
    (digits.take 8 ++ '-' :: ((digits.drop 8).take 4 ++ '-' :: ((digits.drop 12).take 4 ++
      '-' :: ((digits.drop 16).take 4 ++ '-' :: digits.drop 20)))).filter
        (fun c => c ≠ '-') = digits := by
  have keep : ∀ part : List Char, (∀ c ∈ part, c ∈ digits) →
      part.filter (fun c => c ≠ '-') = part := by
    intro part inside
    rw [List.filter_eq_self]
    intro c member
    simpa using clean c (inside c member)
  have taken : ∀ n m : Nat, ∀ c ∈ (digits.drop n).take m, c ∈ digits :=
    fun n m c inside => List.mem_of_mem_drop (List.mem_of_mem_take inside)
  simp only [List.filter_append, List.filter_cons, ne_eq, not_true_eq_false, decide_false,
    Bool.false_eq_true, if_false]
  rw [keep (digits.take 8) (fun c => List.mem_of_mem_take), keep _ (taken 8 4),
    keep _ (taken 12 4), keep _ (taken 16 4), keep (digits.drop 20) (fun c => List.mem_of_mem_drop)]
  have join : ∀ n m : Nat, (digits.drop n).take m ++ digits.drop (n + m) = digits.drop n := by
    intro n m
    rw [← List.drop_drop, List.take_append_drop]
  rw [join 16 4, join 12 4, join 8 4, List.take_append_drop]

/-- A hexadecimal text of 32 digits reads as its number. -/
theorem readInt16_hexText {n : Nat} (small : n < 2 ^ 128) :
    readInt16 (hexText 32 n) = some n := by
  have digits : ∀ c ∈ hexText 32 n, isBlank c = false ∧ c ≠ '+' ∧ c ≠ 'x' ∧ c ≠ 'X' := by
    intro c member
    obtain ⟨value, below, rfl⟩ := mem_hexText member
    clear member
    revert value
    decide
  have whole : readDigits 0 false (hexText 32 n) = some n := by
    have read := readDigits_hexText 31 n 0 [] false
    rw [List.append_nil] at read
    rw [read, readDigits]
    simp only [Nat.mul_zero, Nat.zero_add, Option.some.injEq]
    exact Nat.mod_eq_of_lt small
  have noSign : dropSign (hexText 32 n) = hexText 32 n := by
    cases shape : hexText 32 n with
    | nil => rfl
    | cons c rest => simp [dropSign, (digits c (by simp [shape])).2.1]
  have noRadix : dropRadix (hexText 32 n) = hexText 32 n := by
    match shape : hexText 32 n with
    | [] => rfl
    | [_] => rfl
    | zero :: x :: rest =>
        have letter := digits x (by simp [shape])
        simp [dropRadix, letter.2.2.1, letter.2.2.2]
  rw [readInt16, stripEnds_eq_self fun c member => (digits c member).1, noSign, noRadix, whole]

/-- **The text of an identifier reads as that identifier.** -/
@[simp] theorem parse_text (id : Uuid) : parse id.text = some id := by
  have digits : ∀ c ∈ hexText 32 id.toNat, c ≠ '-' ∧ c ≠ 'u' ∧ (c = '{' || c = '}') = false := by
    intro c member
    obtain ⟨value, below, rfl⟩ := mem_hexText member
    clear member
    revert value
    decide
  have clean := fun (p : Char → Prop) (hyphen : p '-')
      (digit : ∀ c ∈ hexText 32 id.toNat, p c) =>
    show ∀ c ∈ (text id).toList, p c by
      intro c member
      rw [text, String.toList_ofList] at member
      rcases mem_groups member with rfl | inside
      · exact hyphen
      · exact digit c inside
  have noU : 'u' ∉ (text id).toList := fun member =>
    clean (fun c => c ≠ 'u') (by decide) (fun c inside => (digits c inside).2.1) 'u' member rfl
  have noBrace := clean (fun c => (c = '{' || c = '}') = false) (by decide)
    (fun c inside => (digits c inside).2.2)
  simp only [parse]
  rw [removeAll_eq_self _ noU, removeAll_eq_self _ noU, stripEnds_eq_self noBrace, text,
    String.toList_ofList, filter_groups fun c inside => (digits c inside).1]
  rw [if_pos (length_hexText _ _), readInt16_hexText id.isLt]
  simp

theorem text_injective {id id' : Uuid} (same : id.text = id'.text) : id = id' := by
  have read := congrArg parse same
  simpa using read

end Uuid

end Foundation
