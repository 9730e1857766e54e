import HcuAutoOpt.Agent.PatchIdentity
import Mathlib.Logic.Relation

/-!
# When the identity of a patch is canonical

Two patches are the same when one becomes the other by changes of its line endings, of blanks and
tabs at line ends, of `index` lines, of the timestamps of file headers and of empty lines at the
end (`SamePatch`). The changes are stated on the lines of the texts, which a line feed, a carriage
return or the two together end (`HasLines`).

The normal form keeps what these changes leave alone, and two things besides: a blank before the
tab of a file header, and a line that is `index` with nothing but blanks behind it, which is no
`index` line any more once the blanks are gone. So a patch and a changed one have one normal form,
which is its own, exactly when neither has such a blank and both have such lines at the same
places (`normalization_canonical_iff`).
-/

set_option autoImplicit false

namespace HcuAutoOpt

namespace PatchIdentity

open Foundation

/-! ## Changes that leave a patch the same -/

/-- The lines of a text: all but the last end with a line feed, a carriage return, or the two
together. -/
inductive HasLines : List Char → List Line → Prop
  | last {line : Line} (unbroken : Unbroken line) : HasLines line [line]
  | lf {line : Line} {rest : List Char} {lines : List Line} (unbroken : Unbroken line)
      (more : HasLines rest lines) : HasLines (line ++ '\n' :: rest) (line :: lines)
  | crLf {line : Line} {rest : List Char} {lines : List Line} (unbroken : Unbroken line)
      (more : HasLines rest lines) : HasLines (line ++ '\r' :: '\n' :: rest) (line :: lines)
  | cr {line : Line} {rest : List Char} {lines : List Line} (unbroken : Unbroken line)
      (apart : rest.head? ≠ some '\n') (more : HasLines rest lines) :
      HasLines (line ++ '\r' :: rest) (line :: lines)

/-- A line that starts as a file header does. -/
def FileHeader (line : Line) : Prop := "--- ".toList <+: line ∨ "+++ ".toList <+: line

/-- A file header without a timestamp or with one behind a tab. -/
def Stamped (header line : Line) : Prop :=
  line = header ∨ ∃ stamp, line = header ++ '\t' :: stamp

/-- One change of a patch that does not change what it is. -/
inductive PatchChange (text other : List Char) : Prop
  | lineEndings (lines : List Line) (old : HasLines text lines) (new : HasLines other lines)
  | lineEnd (before after : List Line) (line blanks blanks' : Line)
      (old : HasLines text (before ++ (line ++ blanks) :: after))
      (new : HasLines other (before ++ (line ++ blanks') :: after))
      (blank : ∀ c ∈ blanks ++ blanks', c = ' ' ∨ c = '\t')
  | indexLine (before after : List Line) (rest : Line)
      (old : HasLines text (before ++ after))
      (new : HasLines other (before ++ ("index ".toList ++ rest) :: after))
  | timestamp (before after : List Line) (header line line' : Line)
      (old : HasLines text (before ++ line :: after))
      (new : HasLines other (before ++ line' :: after))
      (marked : FileHeader header) (untabbed : '\t' ∉ header)
      (stamped : Stamped header line) (stamped' : Stamped header line')
  | emptyLine (lines : List Line) (old : HasLines text lines) (new : HasLines other (lines ++ [[]]))

/-- Patches that differ by any combination of such changes, made and undone. -/
def SamePatch : List Char → List Char → Prop := Relation.EqvGen PatchChange

/-! ## The normalizer reads the lines -/

theorem patchLines_append {line : Line} (unbroken : Unbroken line) (rest : List Char) :
    patchLines (line ++ rest) = (patchLines rest).modifyHead (line ++ ·) := by
  induction line with
  | nil => cases lines : patchLines rest <;> simp [lines]
  | cons c line ih =>
      obtain ⟨noFeed, noReturn⟩ := unbroken
      rw [List.mem_cons, not_or] at noFeed noReturn
      have apart : ¬(c = '\r' ∧ (line ++ rest).head? = some '\n') :=
        fun both => noReturn.1 both.1.symm
      have plain : isByteBreak c = false := by
        simp [isByteBreak, Ne.symm noFeed.1, Ne.symm noReturn.1]
      rw [List.cons_append, patchLines_cons apart, plain, ih ⟨noFeed.2, noReturn.2⟩]
      cases lines : patchLines rest <;> simp

theorem HasLines.lines_eq {text : List Char} {lines : List Line} (reads : HasLines text lines) :
    patchLines text = lines := by
  induction reads with
  | @last line unbroken =>
      have alone := patchLines_append unbroken []
      rw [List.append_nil] at alone
      rw [alone]
      simp [patchLines, replaceCrLf, replaceCr]
  | lf unbroken _ ih =>
      rw [patchLines_append unbroken, patchLines_cons (by simp), ih]
      simp [isByteBreak]
  | crLf unbroken _ ih =>
      rw [patchLines_append unbroken, patchLines_crLf, ih]
      simp
  | cr unbroken apart _ ih =>
      rw [patchLines_append unbroken, patchLines_cons fun both => apart both.2, ih]
      simp [isByteBreak]

/-- A character in front of the first line. -/
theorem HasLines.cons {text : List Char} {lines : List Line} (reads : HasLines text lines)
    {c : Char} (plain : isByteBreak c = false) :
    HasLines (c :: text) (lines.modifyHead (List.cons c)) := by
  have longer : ∀ {line : Line}, Unbroken line → Unbroken (c :: line) := by
    intro line unbroken
    simp only [isByteBreak, Bool.or_eq_false_iff, beq_eq_false_iff_ne] at plain
    simp [Unbroken, unbroken.1, unbroken.2, Ne.symm plain.1, Ne.symm plain.2]
  cases reads with
  | last unbroken => exact .last (longer unbroken)
  | lf unbroken more => exact .lf (longer unbroken) more
  | crLf unbroken more => exact .crLf (longer unbroken) more
  | cr unbroken apart more => exact .cr (longer unbroken) apart more

theorem unbroken_nil : Unbroken [] := ⟨List.not_mem_nil, List.not_mem_nil⟩

theorem hasLines_patchLines (text : List Char) : HasLines text (patchLines text) := by
  have step : ∀ (c : Char) (rest : List Char), ¬(c = '\r' ∧ rest.head? = some '\n') →
      HasLines rest (patchLines rest) → HasLines (c :: rest) (patchLines (c :: rest)) := by
    intro c rest apart reads
    rw [patchLines_cons apart]
    cases isEnd : isByteBreak c with
    | false => exact reads.cons isEnd
    | true =>
        simp only [isByteBreak, Bool.or_eq_true, beq_iff_eq] at isEnd
        rcases isEnd with rfl | rfl
        · exact .lf unbroken_nil reads
        · exact .cr unbroken_nil (fun feed => apart ⟨rfl, feed⟩) reads
  induction text using replaceCrLf.induct with
  | case1 => exact .last unbroken_nil
  | case2 c => exact step c [] (by simp) (.last unbroken_nil)
  | case3 c d rest both ih =>
      obtain ⟨rfl, rfl⟩ := both
      rw [patchLines_crLf]
      exact .crLf unbroken_nil ih
  | case4 c d rest apart ih => exact step c (d :: rest) (by simpa using apart) ih

/-- **The normalizer reads the lines of a text**, whatever ends them. -/
theorem hasLines_iff {text : List Char} {lines : List Line} :
    HasLines text lines ↔ patchLines text = lines :=
  ⟨HasLines.lines_eq, fun same => same ▸ hasLines_patchLines text⟩

/-! ## What the changes keep -/

/-- A line that is `index` with nothing but blanks behind it. -/
def isBareIndex (line : Line) : Bool := decide (stripRight line = "index".toList)

/-- What a line means: its normal form without the blanks at its end, where it is no `index`
line. -/
def idealLine (line : Line) : Option Line :=
  if isBareIndex line then none else (normalizeLine line).map stripRight

/-- What lines mean. -/
def idealLines (lines : List Line) : List Line :=
  (lines.filterMap idealLine).rdropWhile List.isEmpty

theorem idealLine_congr {line line' : Line} (same : stripRight line = stripRight line') :
    idealLine line = idealLine line' := by
  rw [idealLine, idealLine, isBareIndex, isBareIndex, normalizeLine, normalizeLine, same]

/-- The end of a text is dropped first. -/
theorem stripRight_append (line rest : Line) : stripRight (line ++ rest) =
    if stripRight rest = [] then stripRight line else line ++ stripRight rest := by
  simp only [stripRight, List.rdropWhile, List.reverse_append, List.dropWhile_append,
    List.isEmpty_iff, List.reverse_eq_nil_iff]
  split <;> simp

theorem stripRight_blanks {blanks : Line} (blank : ∀ c ∈ blanks, c = ' ' ∨ c = '\t') (line : Line) :
    stripRight (line ++ blanks) = stripRight line := by
  rw [stripRight_append, if_pos]
  refine List.rdropWhile_eq_nil_iff.mpr fun c member => ?_
  rcases blank c member with rfl | rfl <;> rfl

theorem isFileHeader_iff {line : Line} : isFileHeader line = true ↔ FileHeader line := by
  rw [isFileHeader, Bool.or_eq_true, List.isPrefixOf_iff_prefix, List.isPrefixOf_iff_prefix]
  rfl

/-- A line that starts with `index` and a blank means nothing. -/
theorem idealLine_index (rest : Line) : idealLine ("index ".toList ++ rest) = none := by
  by_cases blank : stripRight rest = []
  · have bare : isBareIndex ("index ".toList ++ rest) = true := by
      rw [isBareIndex, stripRight_append, if_pos blank]
      decide
    rw [idealLine, if_pos bare]
  · have index : isIndexLine (stripRight ("index ".toList ++ rest)) = true := by
      rw [stripRight_append, if_neg blank]
      exact List.isPrefixOf_iff_prefix.mpr (List.prefix_append _ _)
    have dropped : normalizeLine ("index ".toList ++ rest) = none := by
      rw [normalizeLine]
      exact if_pos index
    rw [idealLine, dropped]
    split <;> rfl

/-- A file header does not start with `index`. -/
theorem FileHeader.not_indexed {header : Line} (marked : FileHeader header) :
    ¬"index".toList <+: header := by
  intro front
  rcases marked with old | new
  · have same := List.prefix_or_prefix_of_prefix front old
    revert same
    decide
  · have same := List.prefix_or_prefix_of_prefix front new
    revert same
    decide

/-- A file header is no bare `index` line. -/
theorem not_isBareIndex {header : Line} (marked : FileHeader header) :
    isBareIndex header = false :=
  decide_eq_false fun bare => marked.not_indexed (bare ▸ prefix_stripRight header)

/-- **A timestamp does not change what a file header means.** -/
theorem idealLine_stamped {header line : Line} (marked : FileHeader header)
    (untabbed : '\t' ∉ header) (stamped : Stamped header line) :
    idealLine line = some (stripRight header) := by
  have plain : idealLine header = some (stripRight header) := by
    have untabbed' : '\t' ∉ stripRight header := fun member =>
      untabbed ((prefix_stripRight header).subset member)
    have kept : normalizeLine header = some (stripRight header) := by
      rw [normalizeLine_eq_some]
      refine ⟨not_isIndexLine (isFileHeader_iff.mpr marked) (prefix_stripRight header), ?_⟩
      split
      · rw [cutAtTab_eq_self untabbed']
      · rfl
    rw [idealLine, not_isBareIndex marked, kept, if_neg Bool.false_ne_true, Option.map_some,
      stripRight_stripRight]
  rcases stamped with rfl | ⟨stamp, rfl⟩
  · exact plain
  · by_cases blank : stripRight ('\t' :: stamp) = []
    · rw [← plain]
      refine idealLine_congr ?_
      rw [stripRight_append, if_pos blank]
    · obtain ⟨rest, split⟩ : ∃ rest, stripRight ('\t' :: stamp) = '\t' :: rest := by
        obtain ⟨first, rest, split⟩ := List.exists_cons_of_ne_nil blank
        have front := prefix_stripRight ('\t' :: stamp)
        rw [split, List.cons_prefix_cons] at front
        exact ⟨rest, by rw [split, front.1]⟩
      have stripped : stripRight (header ++ '\t' :: stamp) = header ++ '\t' :: rest := by
        rw [stripRight_append, if_neg blank, split]
      have longer : ∀ rest, FileHeader (header ++ '\t' :: rest) := fun rest =>
        marked.imp (·.trans (List.prefix_append _ _)) (·.trans (List.prefix_append _ _))
      have marked' : isFileHeader (stripRight (header ++ '\t' :: stamp)) = true := by
        rw [stripped]
        exact isFileHeader_iff.mpr (longer rest)
      have cut : cutAtTab (header ++ '\t' :: rest) = header := by
        have kept : ∀ c ∈ header, (c != '\t') = true := by
          intro c member
          rw [bne_iff_ne]
          rintro rfl
          exact untabbed member
        rw [cutAtTab, List.takeWhile_append_of_pos kept]
        simp
      rw [idealLine, not_isBareIndex (longer stamp), if_neg Bool.false_ne_true,
        normalizeLine_of_header marked', stripped, cut, Option.map_some]

/-- **A change keeps what the lines mean.** -/
theorem PatchChange.ideal_eq {text other : List Char} (change : PatchChange text other) :
    idealLines (patchLines text) = idealLines (patchLines other) := by
  cases change with
  | lineEndings lines old new => rw [old.lines_eq, new.lines_eq]
  | lineEnd before after line blanks blanks' old new blank =>
      have same : idealLine (line ++ blanks) = idealLine (line ++ blanks') := idealLine_congr <| by
        rw [stripRight_blanks fun c member => blank c (List.mem_append_left _ member),
          stripRight_blanks fun c member => blank c (List.mem_append_right _ member)]
      simp only [old.lines_eq, new.lines_eq, idealLines, List.filterMap_append,
        List.filterMap_cons, same]
  | indexLine before after rest old new =>
      simp only [old.lines_eq, new.lines_eq, idealLines, List.filterMap_append,
        List.filterMap_cons, idealLine_index]
  | timestamp before after header line line' old new marked untabbed stamped stamped' =>
      simp only [old.lines_eq, new.lines_eq, idealLines, List.filterMap_append,
        List.filterMap_cons, idealLine_stamped marked untabbed stamped,
        idealLine_stamped marked untabbed stamped']
  | emptyLine lines old new =>
      rw [old.lines_eq, new.lines_eq, idealLines, idealLines, List.filterMap_append]
      exact (List.rdropWhile_concat_pos _ _ _ rfl).symm

theorem SamePatch.ideal_eq {text other : List Char} (same : SamePatch text other) :
    idealLines (patchLines text) = idealLines (patchLines other) := by
  induction same with
  | rel _ _ change => exact change.ideal_eq
  | refl => rfl
  | symm _ _ _ ih => exact ih.symm
  | trans _ _ _ _ _ first second => exact first.trans second

/-! ## Marked lines among others -/

/-- How many lines without a mark stand before each line with one. -/
def places (marked : Line → Bool) : Nat → List Line → List Nat
  | _, [] => []
  | count, line :: lines =>
      if marked line then count :: places marked count lines
      else places marked (count + 1) lines

/-- The lines without the empty ones at the end. -/
def trim (lines : List Line) : List Line := lines.rdropWhile List.isEmpty

theorem trim_cons (line : Line) (lines : List Line) : trim (line :: lines) =
    if trim lines = [] then (if line = [] then [] else [line]) else line :: trim lines := by
  simp only [trim, List.rdropWhile, List.reverse_cons, List.dropWhile_append, List.isEmpty_iff,
    List.reverse_eq_nil_iff]
  split
  · rename_i none_
    by_cases empty : line = [] <;> simp [empty]
  · simp

theorem trim_cons_inj {first second : Line} {lines lines' : List Line} :
    trim (first :: lines) = trim (second :: lines') ↔
      first = second ∧ trim lines = trim lines' := by
  rw [trim_cons, trim_cons]
  split <;> split <;> grind

theorem trim_eq_nil_iff {lines : List Line} : trim lines = [] ↔ ∀ line ∈ lines, line = [] := by
  simp [trim, List.rdropWhile_eq_nil_iff, List.isEmpty_iff]

section Marked

variable {marked : Line → Bool}

theorem places_map (f : Line → Line) (count : Nat) (lines : List Line) :
    places marked count (lines.map f) = places (fun line => marked (f line)) count lines := by
  induction lines generalizing count with
  | nil => rfl
  | cons line lines ih => simp only [List.map_cons, places, ih]

theorem places_congr {marked' : Line → Bool} {lines : List Line}
    (same : ∀ line ∈ lines, marked line = marked' line) (count : Nat) :
    places marked count lines = places marked' count lines := by
  induction lines generalizing count with
  | nil => rfl
  | cons line lines ih =>
      rw [List.forall_mem_cons] at same
      simp only [places, same.1, ih same.2]

theorem le_of_mem_places {count place : Nat} {lines : List Line}
    (member : place ∈ places marked count lines) : count ≤ place := by
  induction lines generalizing count with
  | nil => cases member
  | cons line lines ih =>
      rw [places] at member
      split at member
      · rcases List.mem_cons.mp member with rfl | later
        · exact le_refl _
        · exact ih later
      · exact Nat.le_of_succ_le (ih member)

theorem places_eq_nil_iff {count : Nat} {lines : List Line} :
    places marked count lines = [] ↔ ∀ line ∈ lines, marked line = false := by
  induction lines generalizing count with
  | nil => simp [places]
  | cons line lines ih => cases mark : marked line <;> simp [places, mark, ih]

variable {mark : Line} (only : ∀ line, marked line = true ↔ line = mark) (some_ : mark ≠ [])

include only some_

theorem trim_eq_nil_iff_places (count : Nat) (lines : List Line) : trim lines = [] ↔
    trim (lines.filter fun line => !marked line) = [] ∧ places marked count lines = [] := by
  have unmarked : marked [] = false := by
    rw [Bool.eq_false_iff, ne_eq, only]
    exact some_.symm
  rw [trim_eq_nil_iff, trim_eq_nil_iff, places_eq_nil_iff]
  constructor
  · intro empty
    refine ⟨fun line member => empty line (List.mem_filter.mp member).1, fun line member => ?_⟩
    rw [empty line member]
    exact unmarked
  · rintro ⟨empty, none_⟩ line member
    exact empty line (List.mem_filter.mpr ⟨member, by simp [none_ line member]⟩)

/-- **Lines are told apart by those without a mark and by where the marked ones stand.** -/
theorem trim_eq_iff (count : Nat) (lines lines' : List Line) : trim lines = trim lines' ↔
    trim (lines.filter fun line => !marked line) = trim (lines'.filter fun line => !marked line) ∧
      places marked count lines = places marked count lines' := by
  induction lines generalizing lines' count with
  | nil =>
      have none_ := trim_eq_nil_iff_places only some_ count lines'
      rw [eq_comm, show trim [] = [] from rfl, none_]
      exact and_congr eq_comm eq_comm
  | cons line lines ih =>
      cases lines' with
      | nil => exact trim_eq_nil_iff_places only some_ count (line :: lines)
      | cons line' lines' =>
          rw [trim_cons_inj]
          -- a place is at least the number of lines counted so far
          have apart : ∀ {rest : List Nat} {lines : List Line},
              count :: rest ≠ places marked (count + 1) lines := by
            intro rest lines same
            have member : count ∈ places marked (count + 1) lines := same ▸ List.mem_cons_self
            exact absurd (le_of_mem_places member) (Nat.not_succ_le_self count)
          have told : marked line ≠ marked line' → line ≠ line' := mt (congrArg marked)
          cases here : marked line <;> cases here' : marked line'
          · simp only [List.filter_cons, here, here', places, Bool.not_false, if_true,
              Bool.false_eq_true, if_false, trim_cons_inj, and_assoc, ← ih]
          · have different := told (by simp [here, here'])
            simp only [different, false_and, false_iff, not_and, places, here, here',
              Bool.false_eq_true, if_false, if_true]
            exact fun _ same => apart same.symm
          · have different := told (by simp [here, here'])
            simp only [different, false_and, false_iff, not_and, places, here, here',
              Bool.false_eq_true, if_false, if_true]
            exact fun _ same => apart same
          · have same : line = line' := ((only line).mp here).trans ((only line').mp here').symm
            simp only [same, List.filter_cons, here', places, Bool.not_true, Bool.false_eq_true,
              if_false, if_true, true_and, List.cons.injEq, ← ih]

end Marked

/-! ## When normalization is canonical -/

/-- Where the bare `index` lines stand: how many lines that are no `index` lines are before each. -/
def bareIndexPlaces (text : List Char) : List Nat :=
  places isBareIndex 0 ((patchLines text).filter fun line => !isIndexLine (stripRight line))

/-- What is kept of a line. -/
def keptLine (line : Line) : Line :=
  if isFileHeader (stripRight line) then cutAtTab (stripRight line) else stripRight line

theorem normalizeLine_eq (line : Line) : normalizeLine line =
    if !isIndexLine (stripRight line) then some (keptLine line) else none := by
  rw [normalizeLine, keptLine]
  cases isIndexLine (stripRight line) <;> cases isFileHeader (stripRight line) <;> rfl

/-- A line is kept as a bare `index` line when it is one. -/
theorem keptLine_eq_index_iff (line : Line) :
    decide (keptLine line = "index".toList) = isBareIndex line := by
  rw [isBareIndex, keptLine]
  split
  · rename_i header
    have marked := isFileHeader_iff.mp header
    have stripped := not_isBareIndex marked
    rw [isBareIndex, stripRight_stripRight] at stripped
    rw [stripped]
    exact decide_eq_false fun cut => marked.not_indexed (cut ▸ prefix_cutAtTab (stripRight line))
  · rfl

/-- The bare `index` lines of a patch stand where they stand in what is kept. -/
theorem places_filterMap (text : List Char) :
    places (fun line => decide (line = "index".toList)) 0
      ((patchLines text).filterMap normalizeLine) = bareIndexPlaces text := by
  have kept : (patchLines text).filterMap normalizeLine =
      ((patchLines text).filter fun line => !isIndexLine (stripRight line)).map keptLine := by
    rw [← List.filterMap_eq_map, List.filterMap_filter]
    exact List.filterMap_congr fun line _ => normalizeLine_eq line
  rw [kept, places_map, bareIndexPlaces]
  exact places_congr (fun line _ => keptLine_eq_index_iff line) 0

/-- What a clean patch means is what is kept of it but for the bare `index` lines. -/
theorem idealLines_eq {text : List Char} (clean : Clean text) :
    idealLines (patchLines text) = trim (((patchLines text).filterMap normalizeLine).filter
      fun line => !decide (line = "index".toList)) := by
  rw [idealLines, trim, List.filter_filterMap]
  congr 1
  refine List.filterMap_congr fun line member => ?_
  rw [idealLine, normalizeLine_eq, ← keptLine_eq_index_iff]
  cases index : isIndexLine (stripRight line) with
  | true => simp
  | false =>
      have stripped : stripRight (keptLine line) = keptLine line := by
        by_cases some_ : keptLine line = []
        · rw [some_]
          rfl
        · refine stripped_iff.mpr clean _ (mem_rdropWhile (List.mem_filterMap.mpr
            ⟨line, member, ?_⟩) some_)
          rw [normalizeLine_eq, index]
          rfl
      by_cases bare : keptLine line = "index".toList
      · simp [bare, Option.filter]
      · simp only [Bool.not_false, if_true, decide_eq_false bare, Bool.false_eq_true, if_false,
          Option.map_some, stripped, Option.filter]

/-- **When normalization is canonical.** Of a patch and another that differs from it only in line
endings, blanks and tabs at line ends, `index` lines, timestamps and empty lines at the end, the
normal form is its own normal form and the one of both exactly when in neither a blank stands
right before the first tab of a file header, and in both the lines that are `index` with nothing
but blanks behind it stand at the same places. -/
theorem normalization_canonical_iff (text other : List Char) (plain : '\x00' ∉ text)
    (plain' : '\x00' ∉ other) (same : SamePatch text other) :
    ∃ normal normal', normalizePatch text = .ok normal ∧ normalizePatch other = .ok normal' ∧
      ((normalizePatch normal = .ok normal ∧ normal' = normal) ↔
        (Clean text ∧ Clean other) ∧ bareIndexPlaces text = bareIndexPlaces other) := by
  refine ⟨_, _, normalizePatch_eq_ok plain, normalizePatch_eq_ok plain', ?_⟩
  rw [normalizePatch_eq_ok (plain_normalForm plain), Except.ok.injEq, normalForm_normalForm_iff,
    and_assoc]
  refine and_congr_right fun clean => ?_
  have told : Clean other → (normalizeLines (patchLines text) = normalizeLines (patchLines other) ↔
      bareIndexPlaces text = bareIndexPlaces other) := by
    intro clean'
    have apart := @trim_eq_iff (fun line => decide (line = "index".toList)) "index".toList
      (fun _ => decide_eq_true_iff) (by decide) 0
      ((patchLines text).filterMap normalizeLine) ((patchLines other).filterMap normalizeLine)
    rw [← idealLines_eq clean, ← idealLines_eq clean', places_filterMap, places_filterMap] at apart
    exact apart.trans (and_iff_right same.ideal_eq)
  constructor
  · intro equal
    have lines := normalizeLines_eq_of_normalForm equal
    have clean' : Clean other := stripped_iff.mp (lines ▸ stripped_iff.mpr clean)
    exact ⟨clean', (told clean').mp lines.symm⟩
  · rintro ⟨clean', places⟩
    rw [normalForm, normalForm, (told clean').mpr places]

/-- A file header with a timestamp. -/
def stampedPatch : List Char := "--- a/f\t2024-05-01\r\nindex 1..2\r\n".toList

/-- The same header without one. -/
def barePatch : List Char := "--- a/f\n".toList

/-- A timestamp, an `index` line and other line endings leave the normal form. -/
theorem normalization_canonical_stamped :
    ∃ normal, normalizePatch stampedPatch = .ok normal ∧ normalizePatch barePatch = .ok normal ∧
      normalizePatch normal = .ok normal := by
  have stamp : PatchChange barePatch "--- a/f\t2024-05-01\r\n".toList :=
    .timestamp [] [[]] "--- a/f".toList "--- a/f".toList "--- a/f\t2024-05-01".toList
      (hasLines_iff.mpr (by decide)) (hasLines_iff.mpr (by decide)) (.inl ⟨"a/f".toList, rfl⟩)
      (by decide)
      (.inl rfl) (.inr ⟨"2024-05-01".toList, rfl⟩)
  have index : PatchChange "--- a/f\t2024-05-01\r\n".toList stampedPatch :=
    .indexLine ["--- a/f\t2024-05-01".toList] [[]] "1..2".toList (hasLines_iff.mpr (by decide))
      (hasLines_iff.mpr (by decide))
  have same : SamePatch barePatch stampedPatch := .trans _ _ _ (.rel _ _ stamp) (.rel _ _ index)
  have clean : (Clean barePatch ∧ Clean stampedPatch) ∧
      bareIndexPlaces barePatch = bareIndexPlaces stampedPatch := by
    unfold Clean BlankBeforeTab
    decide
  obtain ⟨normal, normal', form, form', canonical⟩ :=
    normalization_canonical_iff barePatch stampedPatch (by decide) (by decide) same
  obtain ⟨fixed, rfl⟩ := canonical.mpr clean
  exact ⟨normal', form', form, fixed⟩

/-- A file header with a blank before its timestamp. -/
def blankPatch : List Char := "--- a/f \t2024-05-01\n".toList

/-- The normal form of such a patch ends in a blank, which a second normalization takes. -/
theorem blank_before_tab_kept :
    normalizePatch blankPatch = .ok "--- a/f \n".toList ∧
      ¬∀ text normal, '\x00' ∉ text → normalizePatch text = .ok normal →
        normalizePatch normal = .ok normal := by
  have kept : normalizePatch blankPatch = .ok "--- a/f \n".toList := by decide
  refine ⟨kept, fun canonical => ?_⟩
  exact absurd (canonical blankPatch _ (by decide) kept) (by decide)

-- An `index` line with nothing but blanks behind it is kept, without the blanks.
example : PatchChange "a\n".toList "a\nindex \n".toList ∧
      normalizePatch "a\n".toList = .ok "a\n".toList ∧
      normalizePatch "a\nindex \n".toList = .ok "a\nindex\n".toList :=
  ⟨.indexLine ["a".toList] [[]] [] (hasLines_iff.mpr (by decide)) (hasLines_iff.mpr (by decide)),
    by decide, by decide⟩

end PatchIdentity

end HcuAutoOpt
