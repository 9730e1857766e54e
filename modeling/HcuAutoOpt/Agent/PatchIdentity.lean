import HcuAutoOpt.Foundation.CommittedCalls
import HcuAutoOpt.Foundation.TextLines
import Mathlib.Data.List.DropRight

/-!
# The identity of a patch

`normalize_patch_v1` of `agent/patch_identity.py` gives a patch one representation, so that two
patches that differ in their line endings, in blanks at line ends, in `index` lines, in the
timestamps of file headers or in empty lines at the end are known as one.

Each line is rewritten once: the blanks at its end go, an `index` line goes, and a file header is
cut at its first tab. What stands before that tab may end in a blank, and no step takes it away:
a normal form is its own exactly when no header has such a blank (`normalForm_normalForm_iff`).
-/

set_option autoImplicit false

namespace HcuAutoOpt

namespace PatchIdentity

open Foundation

/-! ## Normalization -/

/-- `PatchIdentityError`. -/
structure PatchIdentityError where
  message : String
  deriving DecidableEq, Repr

/-- `text.replace("\r\n", "\n")`. -/
def replaceCrLf : List Char → List Char
  | [] => []
  | [c] => [c]
  | c :: d :: rest =>
      if c = '\r' ∧ d = '\n' then '\n' :: replaceCrLf rest else c :: replaceCrLf (d :: rest)

/-- `text.replace("\r", "\n")`. -/
def replaceCr (text : List Char) : List Char := text.map fun c => if c = '\r' then '\n' else c

/-- The lines of a patch, whatever its line endings. -/
def patchLines (text : List Char) : List Line := (replaceCr (replaceCrLf text)).splitOn '\n'

/-- A blank or a tab. -/
def isTrailing (c : Char) : Bool := c == ' ' || c == '\t'

/-- `line.rstrip(" \t")`. -/
def stripRight (line : Line) : Line := line.rdropWhile isTrailing

/-- `line.startswith("index ")`. -/
def isIndexLine (line : Line) : Bool := "index ".toList.isPrefixOf line

/-- `line.startswith(("--- ", "+++ "))`. -/
def isFileHeader (line : Line) : Bool :=
  "--- ".toList.isPrefixOf line || "+++ ".toList.isPrefixOf line

/-- `line.split("\t", 1)[0]`. -/
def cutAtTab (line : Line) : Line := line.takeWhile fun c => c != '\t'

/-- What becomes of a line. -/
def normalizeLine (line : Line) : Option Line :=
  let line := stripRight line
  if isIndexLine line then none
  else if isFileHeader line then some (cutAtTab line)
  else some line

/-- What becomes of the lines: the empty ones at the end go. -/
def normalizeLines (lines : List Line) : List Line :=
  (lines.filterMap normalizeLine).rdropWhile List.isEmpty

/-- `"\n".join(lines) + "\n"`. -/
def joinLines (lines : List Line) : List Char := ['\n'].intercalate lines ++ ['\n']

/-- `normalize_patch_v1` of a text in UTF-8. -/
def normalizePatch (text : List Char) : Except PatchIdentityError (List Char) := do
  require ('\x00' ∉ text) ⟨"Patch must not contain NUL"⟩
  return joinLines (normalizeLines (patchLines text))

/-! ## Lines of a text -/

/-- A list is what a function makes of it when the function keeps its items. -/
theorem map_eq_self_iff {α : Type} {f : α → α} {items : List α} :
    items.map f = items ↔ ∀ item ∈ items, f item = item := by
  conv_lhs => rhs; rw [← List.map_id items]
  rw [List.map_inj_left]
  rfl

section Pieces

variable {α : Type} [DecidableEq α]

/-- The pieces between separators have no separator, and only items of the text. -/
theorem mem_splitOn {separator : α} {text piece : List α} (member : piece ∈ text.splitOn separator) :
    separator ∉ piece ∧ ∀ item ∈ piece, item ∈ text := by
  induction text generalizing piece with
  | nil =>
      rw [List.splitOn_nil, List.mem_singleton] at member
      subst member
      simp
  | cons first text ih =>
      rw [List.splitOn_cons_eq_if_modifyHead] at member
      split at member
      · rcases List.mem_cons.mp member with rfl | later
        · simp
        · exact ⟨(ih later).1, fun item inPiece => List.mem_cons_of_mem _ ((ih later).2 item inPiece)⟩
      · rename_i different
        cases pieces : text.splitOn separator with
        | nil => exact absurd pieces (List.splitOn_ne_nil separator text)
        | cons head pieces' =>
            rw [pieces, List.modifyHead_cons] at member
            rcases List.mem_cons.mp member with rfl | later
            · have isPiece : head ∈ text.splitOn separator := by simp [pieces]
              obtain ⟨apart, inside⟩ := ih isPiece
              refine ⟨?_, List.forall_mem_cons.mpr ⟨List.mem_cons_self, fun item inPiece =>
                List.mem_cons_of_mem _ (inside item inPiece)⟩⟩
              rw [List.mem_cons, not_or]
              exact ⟨fun same => different (by simp [same]), apart⟩
            · have isPiece : piece ∈ text.splitOn separator := by simp [pieces, later]
              obtain ⟨apart, inside⟩ := ih isPiece
              exact ⟨apart, fun item inPiece => List.mem_cons_of_mem _ (inside item inPiece)⟩

omit [DecidableEq α] in
/-- A separator at the end is a piece without items after it. -/
theorem intercalate_concat (separator : α) {pieces : List (List α)} (some_ : pieces ≠ []) :
    [separator].intercalate pieces ++ [separator] =
      [separator].intercalate (pieces ++ [[]]) := by
  induction pieces with
  | nil => exact absurd rfl some_
  | cons first pieces ih =>
      cases pieces with
      | nil => simp [List.intercalate_cons_cons]
      | cons second pieces =>
          rw [List.intercalate_cons_cons, List.append_assoc, ih (List.cons_ne_nil _ _)]
          simp [List.intercalate_cons_cons]

omit [DecidableEq α] in
/-- What stands in joined pieces. -/
theorem mem_intercalate {separator item : α} {pieces : List (List α)}
    (member : item ∈ [separator].intercalate pieces) :
    item = separator ∨ ∃ piece ∈ pieces, item ∈ piece := by
  induction pieces with
  | nil => simp [List.intercalate] at member
  | cons first pieces ih =>
      cases pieces with
      | nil => exact .inr ⟨first, by simp, by simpa using member⟩
      | cons second pieces =>
          rw [List.intercalate_cons_cons] at member
          simp only [List.mem_append, List.mem_singleton] at member
          rcases member with (inFirst | same) | later
          · exact .inr ⟨first, by simp, inFirst⟩
          · exact .inl same
          · rcases ih later with same | ⟨piece, inPieces, here⟩
            · exact .inl same
            · exact .inr ⟨piece, List.mem_cons_of_mem _ inPieces, here⟩

end Pieces

/-- A line without line endings. -/
def Unbroken (line : Line) : Prop := '\n' ∉ line ∧ '\r' ∉ line

theorem replaceCrLf_eq_self : ∀ {text : List Char}, '\r' ∉ text → replaceCrLf text = text
  | [], _ => rfl
  | [_], _ => rfl
  | c :: d :: rest, plain => by
      rw [List.mem_cons, not_or] at plain
      rw [replaceCrLf, if_neg fun both => plain.1 both.1.symm, replaceCrLf_eq_self plain.2]

theorem mem_replaceCrLf {c : Char} : ∀ {text : List Char}, c ∈ replaceCrLf text →
    c = '\n' ∨ c ∈ text
  | [], member => .inr member
  | [_], member => .inr member
  | first :: second :: rest, member => by
      rw [replaceCrLf] at member
      split at member
      · rcases List.mem_cons.mp member with same | later
        · exact .inl same
        · exact (mem_replaceCrLf later).imp_right fun inside => by simp [inside]
      · rcases List.mem_cons.mp member with same | later
        · exact .inr (by simp [same])
        · exact (mem_replaceCrLf later).imp_right fun inside => List.mem_cons_of_mem _ inside

theorem replaceCr_eq_self {text : List Char} (plain : '\r' ∉ text) : replaceCr text = text := by
  rw [replaceCr, map_eq_self_iff]
  intro c member
  refine if_neg ?_
  rintro rfl
  exact plain member

theorem not_mem_replaceCr (text : List Char) : '\r' ∉ replaceCr text := by
  intro member
  obtain ⟨c, -, same⟩ := List.mem_map.mp member
  split at same
  · exact absurd same (by decide)
  · contradiction

/-- The lines of a text are unbroken, and have only its characters. -/
theorem mem_patchLines {text : List Char} {line : Line} (member : line ∈ patchLines text) :
    Unbroken line ∧ ∀ c ∈ line, c ∈ text := by
  obtain ⟨noFeed, inside⟩ := mem_splitOn member
  refine ⟨⟨noFeed, fun return_ => not_mem_replaceCr _ (inside _ return_)⟩, fun c inLine => ?_⟩
  obtain ⟨before, inside', same⟩ := List.mem_map.mp (inside c inLine)
  split at same
  · exact absurd (same ▸ inLine) noFeed
  · subst same
    rcases mem_replaceCrLf inside' with rfl | here
    · exact absurd inLine noFeed
    · exact here

theorem replaceCrLf_cons {c : Char} {rest : List Char}
    (apart : ¬(c = '\r' ∧ rest.head? = some '\n')) :
    replaceCrLf (c :: rest) = c :: replaceCrLf rest := by
  cases rest with
  | nil => rfl
  | cons d rest =>
      rw [replaceCrLf, if_neg]
      simpa using apart

/-- A character that does not stand before the line feed of its break ends a line or starts
one. -/
theorem patchLines_cons {c : Char} {rest : List Char}
    (apart : ¬(c = '\r' ∧ rest.head? = some '\n')) : patchLines (c :: rest) =
      if isByteBreak c then [] :: patchLines rest
      else (patchLines rest).modifyHead (List.cons c) := by
  rw [patchLines, replaceCrLf_cons apart, replaceCr, List.map_cons,
    List.splitOn_cons_eq_if_modifyHead]
  by_cases feed : c = '\n'
  · subst feed
    rfl
  · by_cases return_ : c = '\r'
    · subst return_
      rfl
    · have plain : isByteBreak c = false := by simp [isByteBreak, feed, return_]
      rw [if_neg return_, if_neg (by simpa using feed), plain]
      rfl

/-- A carriage return and a line feed end a line together. -/
theorem patchLines_crLf (rest : List Char) :
    patchLines ('\r' :: '\n' :: rest) = [] :: patchLines rest := by
  rw [patchLines, replaceCrLf, if_pos ⟨rfl, rfl⟩, replaceCr, List.map_cons,
    List.splitOn_cons_eq_if_modifyHead]
  rfl

theorem mem_joinLines {lines : List Line} {c : Char} (member : c ∈ joinLines lines) :
    c = '\n' ∨ ∃ line ∈ lines, c ∈ line := by
  rcases List.mem_append.mp member with inside | last
  · exact mem_intercalate inside
  · exact .inl (List.mem_singleton.mp last)

/-- **Joined lines are found again**, with an empty one behind them. -/
theorem patchLines_joinLines {lines : List Line} (some_ : lines ≠ [])
    (unbroken : ∀ line ∈ lines, Unbroken line) :
    patchLines (joinLines lines) = lines ++ [[]] := by
  have plain : '\r' ∉ joinLines lines := by
    intro member
    rcases mem_joinLines member with same | ⟨line, inLines, here⟩
    · exact absurd same (by decide)
    · exact (unbroken line inLines).2 here
  rw [patchLines, replaceCrLf_eq_self plain, replaceCr_eq_self plain, joinLines,
    intercalate_concat '\n' some_]
  refine List.splitOn_intercalate '\n' ?_ (by simp)
  intro line member
  rcases List.mem_append.mp member with inLines | last
  · exact (unbroken line inLines).1
  · rw [List.mem_singleton.mp last]
    exact List.not_mem_nil

theorem patchLines_joinLines_nil : patchLines (joinLines []) = [[], []] := by decide

/-! ## Lines after normalization -/

theorem prefix_stripRight (line : Line) : stripRight line <+: line :=
  List.rdropWhile_prefix isTrailing line

@[simp] theorem stripRight_stripRight (line : Line) : stripRight (stripRight line) = stripRight line :=
  List.rdropWhile_idempotent isTrailing line

theorem prefix_cutAtTab (line : Line) : cutAtTab line <+: line := List.takeWhile_prefix _

theorem not_mem_cutAtTab (line : Line) : '\t' ∉ cutAtTab line := by
  intro member
  have kept := List.mem_takeWhile_imp member
  simp at kept

theorem cutAtTab_eq_self {line : Line} (untabbed : '\t' ∉ line) : cutAtTab line = line := by
  rw [cutAtTab, List.takeWhile_eq_self_iff]
  intro c member
  simp only [bne_iff_ne]
  rintro rfl
  exact untabbed member

/-- A line of one mark is not one of another. -/
theorem not_isIndexLine {line longer : Line} (header : isFileHeader longer = true)
    (front : line <+: longer) : isIndexLine line = false := by
  rw [Bool.eq_false_iff]
  intro index
  have marked : "index ".toList <+: longer :=
    (List.isPrefixOf_iff_prefix.mp index).trans front
  rcases Bool.or_eq_true_iff.mp header with old | new
  · obtain ⟨rest, same⟩ := marked
    obtain ⟨rest', same'⟩ := List.isPrefixOf_iff_prefix.mp old
    rw [← same'] at same
    exact absurd (List.cons.inj same).1 (by decide)
  · obtain ⟨rest, same⟩ := marked
    obtain ⟨rest', same'⟩ := List.isPrefixOf_iff_prefix.mp new
    rw [← same'] at same
    exact absurd (List.cons.inj same).1 (by decide)

/-- What a kept line becomes. -/
theorem normalizeLine_eq_some {line normal : Line} :
    normalizeLine line = some normal ↔ isIndexLine (stripRight line) = false ∧
      normal = if isFileHeader (stripRight line) then cutAtTab (stripRight line)
        else stripRight line := by
  unfold normalizeLine
  dsimp only
  cases isIndexLine (stripRight line) with
  | true => simp
  | false =>
      simp only [Bool.false_eq_true, if_false, true_and]
      split <;> simp [eq_comm]

theorem normalizeLine_of_header {line : Line} (header : isFileHeader (stripRight line) = true) :
    normalizeLine line = some (cutAtTab (stripRight line)) := by
  rw [normalizeLine_eq_some, if_pos header]
  exact ⟨not_isIndexLine header (List.prefix_refl _), rfl⟩

/-- A line that was normalized has no tab when it is a file header. -/
theorem normal_untabbed {line normal : Line} (kept : normalizeLine line = some normal)
    (header : isFileHeader (stripRight normal) = true) : '\t' ∉ stripRight normal := by
  obtain ⟨-, same⟩ := normalizeLine_eq_some.mp kept
  split at same
  · intro member
    exact not_mem_cutAtTab _ (same ▸ (prefix_stripRight normal).subset member)
  · rename_i plain
    rw [same, stripRight_stripRight] at header
    exact absurd header plain

/-- **A second normalization** of a line takes the blanks at its end. -/
theorem normalizeLine_normal {line normal : Line} (kept : normalizeLine line = some normal) :
    normalizeLine normal = some (stripRight normal) := by
  rw [normalizeLine_eq_some]
  constructor
  · obtain ⟨index, same⟩ := normalizeLine_eq_some.mp kept
    split at same
    · rename_i header
      refine not_isIndexLine header ((prefix_stripRight normal).trans ?_)
      exact same ▸ prefix_cutAtTab _
    · rw [same, stripRight_stripRight]
      exact index
  · split
    · rename_i header
      rw [cutAtTab_eq_self (normal_untabbed kept header)]
    · rfl

/-- A file header is not blank. -/
theorem header_ne_nil {line : Line} (header : isFileHeader line = true) :
    stripRight (cutAtTab line) ≠ [] := by
  have inside : ∀ c ∈ cutAtTab line, isTrailing c = true → c = ' ' := by
    intro c member trailing
    rcases Bool.or_eq_true_iff.mp trailing with blank | tab
    · exact beq_iff_eq.mp blank
    · exact absurd (beq_iff_eq.mp tab ▸ member) (not_mem_cutAtTab line)
  intro empty
  have blank := List.rdropWhile_eq_nil_iff.mp empty
  have start : ∃ first rest, line = first :: rest ∧ (first = '-' ∨ first = '+') := by
    rcases Bool.or_eq_true_iff.mp header with old | new
    · obtain ⟨rest, same⟩ := List.isPrefixOf_iff_prefix.mp old
      exact ⟨_, _, same.symm, .inl rfl⟩
    · obtain ⟨rest, same⟩ := List.isPrefixOf_iff_prefix.mp new
      exact ⟨_, _, same.symm, .inr rfl⟩
  obtain ⟨first, rest, rfl, mark⟩ := start
  have member : first ∈ cutAtTab (first :: rest) := by
    rcases mark with rfl | rfl <;> simp [cutAtTab]
  have same := inside first member (blank first member)
  rcases mark with rfl | rfl <;> exact absurd same (by decide)

/-- A line that was normalized and is not empty is not blank. -/
theorem normal_ne_blank {line normal : Line} (kept : normalizeLine line = some normal)
    (some_ : normal ≠ []) : stripRight normal ≠ [] := by
  obtain ⟨-, same⟩ := normalizeLine_eq_some.mp kept
  split at same
  · rename_i header
    rw [same]
    exact header_ne_nil header
  · rw [same, stripRight_stripRight, ← same]
    exact some_

/-- Normalized lines end with one that is not empty. -/
theorem mem_normalizeLines {lines : List Line} {normal : Line}
    (member : normal ∈ normalizeLines lines) : ∃ line ∈ lines, normalizeLine line = some normal :=
  List.mem_filterMap.mp ((List.rdropWhile_prefix _ _).subset member)

/-- Lines that are not empty are not dropped. -/
theorem mem_rdropWhile {lines : List Line} {line : Line} (member : line ∈ lines)
    (some_ : line ≠ []) : line ∈ lines.rdropWhile List.isEmpty := by
  have split := List.rdropWhile_append_rtakeWhile (p := List.isEmpty) (l := lines)
  rw [← split] at member
  rcases List.mem_append.mp member with kept | dropped
  · exact kept
  · exact absurd (List.isEmpty_iff.mp (List.mem_rtakeWhile_imp dropped)) some_

/-- **Normalizing again** takes the blanks at the ends of the lines. -/
theorem normalizeLines_normalizeLines (lines : List Line) :
    normalizeLines (normalizeLines lines) = (normalizeLines lines).map stripRight := by
  have kept : (normalizeLines lines).filterMap normalizeLine =
      (normalizeLines lines).map stripRight := by
    rw [← List.filterMap_eq_map]
    refine List.filterMap_congr fun normal member => ?_
    obtain ⟨line, -, here⟩ := mem_normalizeLines member
    exact normalizeLine_normal here
  conv_lhs => rw [normalizeLines, kept]
  rw [List.rdropWhile_eq_self_iff]
  intro some_
  have some_' : normalizeLines lines ≠ [] := fun empty => some_ (by rw [empty]; rfl)
  rw [List.getLast_map]
  obtain ⟨line, -, here⟩ := mem_normalizeLines (List.getLast_mem some_')
  have last := List.rdropWhile_last_not List.isEmpty (lines.filterMap normalizeLine) some_'
  rw [List.isEmpty_iff] at last ⊢
  exact normal_ne_blank here last

/-- The empty line behind the others changes nothing. -/
theorem normalizeLines_concat_nil (lines : List Line) :
    normalizeLines (lines ++ [[]]) = normalizeLines lines := by
  rw [normalizeLines, List.filterMap_append]
  exact List.rdropWhile_concat_pos _ _ _ rfl

/-- A blank stands right before the first tab of a file header. -/
def BlankBeforeTab (line : Line) : Prop :=
  isFileHeader (stripRight line) ∧ (cutAtTab (stripRight line)).getLast? = some ' '

/-- **No blank stands before a tab** exactly when no normalized line ends in a blank. -/
theorem stripped_iff {lines : List Line} :
    (∀ normal ∈ normalizeLines lines, stripRight normal = normal) ↔
      ∀ line ∈ lines, ¬BlankBeforeTab line := by
  constructor
  · rintro stripped line member ⟨header, blank⟩
    have kept := normalizeLine_of_header header
    have some_ : cutAtTab (stripRight line) ≠ [] := by
      intro empty
      rw [empty] at blank
      cases blank
    have here : cutAtTab (stripRight line) ∈ normalizeLines lines :=
      mem_rdropWhile (List.mem_filterMap.mpr ⟨line, member, kept⟩) some_
    have last := List.rdropWhile_eq_self_iff.mp (stripped _ here) some_
    rw [List.getLast?_eq_some_getLast some_, Option.some.injEq] at blank
    exact last (by rw [blank]; rfl)
  · intro clean normal member
    obtain ⟨line, inLines, kept⟩ := mem_normalizeLines member
    obtain ⟨-, same⟩ := normalizeLine_eq_some.mp kept
    split at same
    · rename_i header
      subst same
      refine List.rdropWhile_eq_self_iff.mpr fun some_ trailing => ?_
      have untabbed := not_mem_cutAtTab (stripRight line)
      rcases Bool.or_eq_true_iff.mp trailing with blank | tab
      · refine clean line inLines ⟨header, ?_⟩
        rw [List.getLast?_eq_some_getLast some_, beq_iff_eq.mp blank]
      · exact untabbed (beq_iff_eq.mp tab ▸ List.getLast_mem some_)
    · rw [same, stripRight_stripRight]

/-! ## Normal forms -/

/-- The normal form of a text. -/
def normalForm (text : List Char) : List Char := joinLines (normalizeLines (patchLines text))

theorem normalizePatch_eq_ok {text : List Char} (plain : '\x00' ∉ text) :
    normalizePatch text = .ok (normalForm text) := by
  simp only [normalizePatch, Except.bind_eq_ok, require_eq_ok]
  exact ⟨(), plain, rfl⟩

theorem unbroken_normal {text : List Char} {normal : Line}
    (member : normal ∈ normalizeLines (patchLines text)) :
    Unbroken normal ∧ ∀ c ∈ normal, c ∈ text := by
  obtain ⟨line, inLines, kept⟩ := mem_normalizeLines member
  obtain ⟨unbroken, inside⟩ := mem_patchLines inLines
  have front : normal <+: line := by
    obtain ⟨-, same⟩ := normalizeLine_eq_some.mp kept
    split at same
    · exact same ▸ (prefix_cutAtTab _).trans (prefix_stripRight line)
    · exact same ▸ prefix_stripRight line
  exact ⟨⟨fun feed => unbroken.1 (front.subset feed), fun return_ =>
    unbroken.2 (front.subset return_)⟩, fun c here => inside c (front.subset here)⟩

theorem plain_normalForm {text : List Char} (plain : '\x00' ∉ text) :
    '\x00' ∉ normalForm text := by
  intro member
  rcases mem_joinLines member with same | ⟨normal, inLines, here⟩
  · exact absurd same (by decide)
  · exact plain ((unbroken_normal inLines).2 _ here)

/-- The lines of a normal form, normalized. -/
theorem normalizeLines_normalForm (text : List Char) :
    normalizeLines (patchLines (normalForm text)) =
      normalizeLines (normalizeLines (patchLines text)) := by
  by_cases empty : normalizeLines (patchLines text) = []
  · rw [normalForm, empty, patchLines_joinLines_nil]
    decide
  · rw [normalForm, patchLines_joinLines empty fun normal member => (unbroken_normal member).1,
      normalizeLines_concat_nil]

/-- Texts with one normal form have the same normalized lines. -/
theorem normalizeLines_eq_of_normalForm {text other : List Char}
    (same : normalForm text = normalForm other) :
    normalizeLines (patchLines text) = normalizeLines (patchLines other) := by
  -- the last normalized line is not empty, so an empty one behind the others can be told apart
  have last : ∀ {lines : List Line}, normalizeLines lines ≠ [] →
      normalizeLines lines ++ [[]] ≠ [[], []] := by
    intro lines some_ equal
    have single : normalizeLines lines = [[]] :=
      (List.append_inj' (equal : _ = [[]] ++ [[]]) rfl).1
    have end_ := List.rdropWhile_last_not List.isEmpty (lines.filterMap normalizeLine) some_
    have inLines : (normalizeLines lines).getLast some_ ∈ [([] : Line)] :=
      single ▸ List.getLast_mem some_
    exact end_ (List.isEmpty_iff.mpr (List.mem_singleton.mp inLines))
  have lines := congrArg patchLines same
  unfold normalForm at lines
  by_cases empty : normalizeLines (patchLines text) = [] <;>
    by_cases empty' : normalizeLines (patchLines other) = []
  · rw [empty, empty']
  · rw [empty, patchLines_joinLines_nil,
      patchLines_joinLines empty' fun normal member => (unbroken_normal member).1] at lines
    exact absurd lines.symm (last empty')
  · rw [empty', patchLines_joinLines_nil,
      patchLines_joinLines empty fun normal member => (unbroken_normal member).1] at lines
    exact absurd lines (last empty)
  · rw [patchLines_joinLines empty fun normal member => (unbroken_normal member).1,
      patchLines_joinLines empty' fun normal member => (unbroken_normal member).1] at lines
    exact List.append_cancel_right lines

/-- A patch without a blank right before the first tab of a file header. -/
def Clean (text : List Char) : Prop := ∀ line ∈ patchLines text, ¬BlankBeforeTab line

/-- **A normal form is its own** exactly when the patch is clean. -/
theorem normalForm_normalForm_iff (text : List Char) :
    normalForm (normalForm text) = normalForm text ↔ Clean text := by
  have stripped : normalizeLines (normalizeLines (patchLines text)) =
      normalizeLines (patchLines text) ↔ Clean text := by
    rw [normalizeLines_normalizeLines, map_eq_self_iff]
    exact stripped_iff
  rw [← stripped]
  constructor
  · intro same
    rw [← normalizeLines_normalForm]
    exact normalizeLines_eq_of_normalForm same
  · intro same
    rw [normalForm, normalizeLines_normalForm, same]
    rfl

end PatchIdentity

end HcuAutoOpt
