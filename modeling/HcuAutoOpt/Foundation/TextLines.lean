import Mathlib.Data.List.Basic
import Mathlib.Tactic.Common

/-!
# Lines of a text

A text is cut into lines after each break; the breaks stay with their lines, and a carriage
return and a line feed after it are one break (`splitKeeping`). Which characters break a line
differs: a diff tool knows the line feed, `bytes.splitlines` also the carriage return, and
`str.splitlines` the separators of Unicode as well.

The lines of a text make up the text again (`splitKeeping_flatten`).
-/

set_option autoImplicit false

namespace Foundation

/-- A line, with its break. -/
abbrev Line := List Char

/-- A character at the front of the first line. -/
def consChar (c : Char) : List Line → List Line
  | [] => [[c]]
  | line :: lines => (c :: line) :: lines

/-- A break after a character: not between a carriage return and its line feed. -/
def breaksAfter (isBreak : Char → Bool) (c : Char) (rest : List Char) : Bool :=
  isBreak c && !(c == '\r' && rest.head? == some '\n')

/-- The lines of a text, with their breaks. -/
def splitKeeping (isBreak : Char → Bool) : List Char → List Line
  | [] => []
  | c :: rest =>
      if breaksAfter isBreak c rest then [c] :: splitKeeping isBreak rest
      else consChar c (splitKeeping isBreak rest)

/-- The line feed alone breaks a line. -/
def isLineFeed (c : Char) : Bool := c == '\n'

/-- The breaks of `bytes.splitlines`. -/
def isByteBreak (c : Char) : Bool := c == '\n' || c == '\r'

/-- The breaks of `str.splitlines`. -/
def isTextBreak (c : Char) : Bool :=
  let code := c.toNat
  (10 ≤ code && code ≤ 13) || (28 ≤ code && code ≤ 30) || code == 133 || code == 8232 ||
    code == 8233

/-- The lines that a diff tool sees. -/
def lfLines (text : List Char) : List Line := splitKeeping isLineFeed text

/-- `bytes.splitlines(keepends=True)` of a text in UTF-8. -/
def byteLines (text : List Char) : List Line := splitKeeping isByteBreak text

/-- `str.splitlines(keepends=True)`. -/
def textLines (text : List Char) : List Line := splitKeeping isTextBreak text

theorem flatten_consChar (c : Char) (lines : List Line) :
    (consChar c lines).flatten = c :: lines.flatten := by
  cases lines <;> rfl

/-- **Lines make up their text.** -/
theorem splitKeeping_flatten (isBreak : Char → Bool) (text : List Char) :
    (splitKeeping isBreak text).flatten = text := by
  induction text with
  | nil => rfl
  | cons c rest ih =>
      rw [splitKeeping]
      split
      · rw [List.flatten_cons, ih]
        rfl
      · rw [flatten_consChar, ih]

/-! ## Single lines -/

section Splits

variable {isBreak : Char → Bool}

/-- A text that is one line. -/
def OneLine (isBreak : Char → Bool) (line : Line) : Prop := splitKeeping isBreak line = [line]

instance (isBreak : Char → Bool) (line : Line) : Decidable (OneLine isBreak line) :=
  inferInstanceAs (Decidable (_ = _))

/-- A line that has its break. -/
def Closed (isBreak : Char → Bool) (line : Line) : Prop := line.getLast?.any isBreak = true

instance (isBreak : Char → Bool) (line : Line) : Decidable (Closed isBreak line) :=
  inferInstanceAs (Decidable (_ = true))

theorem splitKeeping_eq_nil {text : List Char} : splitKeeping isBreak text = [] ↔ text = [] := by
  constructor
  · intro none_
    rw [← splitKeeping_flatten isBreak text, none_, List.flatten_nil]
  · rintro rfl
    rfl

theorem OneLine.ne_nil {line : Line} (single : OneLine isBreak line) : line ≠ [] := by
  rintro rfl
  cases single

/-- A closed line is closed at its end. -/
theorem closed_cons {c d : Char} {line : Line} :
    Closed isBreak (c :: d :: line) ↔ Closed isBreak (d :: line) := Iff.rfl

/-- A character that does not end a line stands at the front of its line. -/
theorem splitKeeping_cons_of_not {c : Char} {rest : List Char}
    (continues : breaksAfter isBreak c rest = false) :
    splitKeeping isBreak (c :: rest) = consChar c (splitKeeping isBreak rest) := by
  rw [splitKeeping, continues]
  rfl

theorem breaksAfter_of_not {c : Char} {rest : List Char} (plain : isBreak c = false) :
    breaksAfter isBreak c rest = false := by
  rw [breaksAfter, plain, Bool.false_and]

/-- A longer line is its first character and a line. -/
theorem oneLine_cons {c d : Char} {line : Line} :
    OneLine isBreak (c :: d :: line) ↔
      breaksAfter isBreak c (d :: line) = false ∧ OneLine isBreak (d :: line) := by
  unfold OneLine
  cases ends : breaksAfter isBreak c (d :: line) with
  | true => simp [splitKeeping, ends]
  | false =>
      rw [splitKeeping_cons_of_not ends]
      cases split : splitKeeping isBreak (d :: line) with
      | nil => cases splitKeeping_eq_nil.mp split
      | cons first others => simp [consChar]

/-- A character before a line that it does not end. -/
theorem OneLine.cons {c : Char} {line : Line} (single : OneLine isBreak line)
    (plain : isBreak c = false) : OneLine isBreak (c :: line) := by
  cases line with
  | nil => cases single
  | cons d line => exact oneLine_cons.mpr ⟨breaksAfter_of_not plain, single⟩

/-- **The lines of a text are lines**, and only the last one may lack its break. -/
theorem splitKeeping_lines (isBreak : Char → Bool) (text : List Char) :
    (∀ line ∈ splitKeeping isBreak text, OneLine isBreak line) ∧
      ∀ line ∈ (splitKeeping isBreak text).dropLast, Closed isBreak line := by
  induction text with
  | nil => exact ⟨by simp [splitKeeping], by simp [splitKeeping]⟩
  | cons c rest ih =>
      obtain ⟨single, closed⟩ := ih
      cases ends : breaksAfter isBreak c rest with
      | true =>
          have split : splitKeeping isBreak (c :: rest) = [c] :: splitKeeping isBreak rest := by
            rw [splitKeeping, ends, if_pos rfl]
          have isClosed : Closed isBreak [c] := (Bool.and_eq_true_iff.mp ends).1
          rw [split]
          refine ⟨List.forall_mem_cons.mpr ⟨?_, single⟩, fun line member => ?_⟩
          · simp [OneLine, splitKeeping, consChar]
          · cases others : splitKeeping isBreak rest with
            | nil =>
                rw [others] at member
                cases member
            | cons first lines =>
                rw [others, List.dropLast_cons_of_ne_nil (List.cons_ne_nil _ _)] at member
                rcases List.mem_cons.mp member with rfl | later
                · exact isClosed
                · exact closed line (others ▸ later)
      | false =>
          rw [splitKeeping_cons_of_not ends]
          cases others : splitKeeping isBreak rest with
          | nil => exact ⟨by simp [consChar, OneLine, splitKeeping], by simp [consChar]⟩
          | cons first lines =>
              rw [others] at single closed
              obtain ⟨firstSingle, othersSingle⟩ := List.forall_mem_cons.mp single
              -- the first line starts with what follows the character
              have front : first.head? = rest.head? := by
                rw [← splitKeeping_flatten isBreak rest, others, List.flatten_cons,
                  List.head?_append_of_ne_nil _ firstSingle.ne_nil]
              obtain ⟨d, tail, rfl⟩ := List.exists_cons_of_ne_nil firstSingle.ne_nil
              have continues : breaksAfter isBreak c (d :: tail) = false := by
                rw [breaksAfter, front]
                exact ends
              refine ⟨List.forall_mem_cons.mpr
                ⟨oneLine_cons.mpr ⟨continues, firstSingle⟩, othersSingle⟩, fun line member => ?_⟩
              cases lines with
              | nil => cases member
              | cons second lines =>
                  change line ∈ ((c :: d :: tail) :: second :: lines).dropLast at member
                  rw [List.dropLast_cons_of_ne_nil (List.cons_ne_nil _ _)] at member closed
                  obtain ⟨firstClosed, closed⟩ := List.forall_mem_cons.mp closed
                  rcases List.mem_cons.mp member with rfl | later
                  · exact closed_cons.mpr firstClosed
                  · exact closed line later

/-- The breaks in a line stand together at its end. -/
theorem OneLine.breaks_last {line : Line} (feed : isBreak '\n' = true)
    (single : OneLine isBreak line) : ∃ body ending, line = body ++ ending ∧
      (∀ c ∈ body, isBreak c = false) ∧ ∀ c ∈ ending, isBreak c = true := by
  induction line with
  | nil => cases single
  | cons c line ih =>
      cases line with
      | nil =>
          cases isEnd : isBreak c with
          | true => exact ⟨[], [c], rfl, by simp, by simpa using isEnd⟩
          | false => exact ⟨[c], [], rfl, by simpa using isEnd, by simp⟩
      | cons d line =>
          obtain ⟨continues, single⟩ := oneLine_cons.mp single
          obtain ⟨body, ending, split, plain, breaks⟩ := ih single
          cases isEnd : isBreak c with
          | false =>
              exact ⟨c :: body, ending, congrArg (c :: ·) split,
                List.forall_mem_cons.mpr ⟨isEnd, plain⟩, breaks⟩
          | true =>
              -- a break inside a line is a carriage return before a line feed
              have next : d = '\n' := by
                simp only [breaksAfter, isEnd, Bool.true_and, Bool.not_eq_false',
                  Bool.and_eq_true, List.head?_cons, beq_iff_eq, Option.some.injEq] at continues
                exact continues.2
              cases body with
              | nil =>
                  exact ⟨[], c :: ending, congrArg (c :: ·) split, by simp,
                    List.forall_mem_cons.mpr ⟨isEnd, breaks⟩⟩
              | cons e body =>
                  obtain ⟨rfl, -⟩ := List.cons.inj split
                  have := plain d List.mem_cons_self
                  rw [next, feed] at this
                  cases this

/-! ## Finer rules -/

/-- A character in front of lines is in front of the first of them. -/
theorem consChar_append (c : Char) {lines : List Line} (some_ : lines ≠ []) (others : List Line) :
    consChar c (lines ++ others) = consChar c lines ++ others := by
  cases lines with
  | nil => exact absurd rfl some_
  | cons line lines => rfl

/-- Rules that agree on a text cut it alike. -/
theorem splitKeeping_congr {isBreak isBreak' : Char → Bool} {text : List Char}
    (same : ∀ c ∈ text, isBreak c = isBreak' c) :
    splitKeeping isBreak text = splitKeeping isBreak' text := by
  induction text with
  | nil => rfl
  | cons c rest ih =>
      obtain ⟨here, later⟩ := List.forall_mem_cons.mp same
      rw [splitKeeping, splitKeeping, breaksAfter, breaksAfter, here, ih later]

/-- **A finer rule cuts each line.** -/
theorem splitKeeping_finer {coarse fine : Char → Bool}
    (finer : ∀ c, coarse c = true → fine c = true) (text : List Char) :
    splitKeeping fine text = (splitKeeping coarse text).flatMap (splitKeeping fine) := by
  induction text with
  | nil => rfl
  | cons c rest ih =>
      cases ends : breaksAfter coarse c rest with
      | true =>
          have ends' : breaksAfter fine c rest = true := by
            obtain ⟨isEnd, last⟩ := Bool.and_eq_true_iff.mp ends
            exact Bool.and_eq_true_iff.mpr ⟨finer c isEnd, last⟩
          rw [splitKeeping, ends', if_pos rfl, splitKeeping, ends, if_pos rfl, List.flatMap_cons, ih]
          simp [splitKeeping, consChar]
      | false =>
          rw [splitKeeping_cons_of_not ends]
          cases lines : splitKeeping coarse rest with
          | nil =>
              obtain rfl := splitKeeping_eq_nil.mp lines
              simp [consChar]
          | cons line lines' =>
              rw [lines, List.flatMap_cons] at ih
              have single := (splitKeeping_lines coarse rest).1 line (by simp [lines])
              -- the first line starts with what follows the character
              have front : line.head? = rest.head? := by
                rw [← splitKeeping_flatten coarse rest, lines, List.flatten_cons,
                  List.head?_append_of_ne_nil _ single.ne_nil]
              have same : breaksAfter fine c rest = breaksAfter fine c line := by
                rw [breaksAfter, breaksAfter, front]
              rw [consChar, List.flatMap_cons, splitKeeping, splitKeeping, same, ih]
              split
              · rfl
              · refine consChar_append c (fun none_ => single.ne_nil ?_) _
                exact splitKeeping_eq_nil.mp none_

end Splits

end Foundation
