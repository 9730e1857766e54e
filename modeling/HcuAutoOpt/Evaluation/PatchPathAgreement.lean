import HcuAutoOpt.Adapters.PatchCleanup
import HcuAutoOpt.Evaluation.PatchPaths

/-!
# Intake and verification read the paths of a patch

The applier takes the path of a patch from the two lines that start with a file header, among the
lines of `str.splitlines`, and strips it. The verifier looks at the lines of the normal form, for
every marker with a blank behind it, and takes what it finds up to a tab or the line end.

**When they agree.** A patch that the applier accepts passes the verifier exactly when every file
header ends with its path, every other marker names the path or `/dev/null`, and one of them names
the path (`patch_paths_agree_iff`).
-/

set_option autoImplicit false

namespace HcuAutoOpt

namespace PatchPaths

open Foundation PatchIdentity Promotion

/-! ## Patches whose markers are plain -/

/-- A line without a soft break that ends with a text. -/
def PlainHeader (line : Line) : Prop :=
  (∀ c ∈ line, isTextBreak c = false) ∧ line.getLast?.all (fun c => !isBlank c) = true

/-- Each file header is plain, any other marker names the path or `/dev/null`, and there is a
marker for the path. -/
structure PathsPlain (path : List Char) (lines : List Line) : Prop where
  headers : ∀ before line content after, Marker lines before line content after →
    isFileHeader line = true → PlainHeader line
  others : ∀ before line content after, Marker lines before line content after →
    isFileHeader line = false → ∀ found ∈ named content after, found = path ∨ found = devNull
  names : ∃ before line content after, Marker lines before line content after ∧
    (isFileHeader line = true ∨ path ∈ named content after)

/-! ## What the applier strips -/

section Strips

variable {p q : Char → Bool}

theorem stripEnds_eq (text : List Char) :
    stripEnds p text = (text.dropWhile p).rdropWhile p := rfl

/-- Blanks at the end are stripped. -/
theorem stripEnds_append {blanks : List Char} (blank : ∀ c ∈ blanks, p c = true)
    (text : List Char) : stripEnds p (text ++ blanks) = stripEnds p text := by
  rw [stripEnds_eq, stripEnds_eq, List.dropWhile_append]
  split
  · rename_i none_
    rw [List.isEmpty_iff.mp none_, List.dropWhile_eq_nil_iff.mpr blank]
  · have none_ : TrimmedAlike p blanks [] := by
      rw [TrimmedAlike, List.rdropWhile_nil]
      exact List.rdropWhile_eq_nil_iff.mpr blank
    have trimmed := none_.append_left (text.dropWhile p)
    rw [List.append_nil] at trimmed
    exact trimmed

/-- Blanks behind what is cut do not matter. -/
theorem stripEnds_takeWhile_append {blanks : List Char} (blank : ∀ c ∈ blanks, p c = true)
    (text : List Char) :
    stripEnds p ((text ++ blanks).takeWhile q) = stripEnds p (text.takeWhile q) := by
  rw [List.takeWhile_append]
  split
  · rename_i whole
    rw [(List.takeWhile_prefix q).eq_of_length whole]
    exact stripEnds_append (fun c member => blank c ((List.takeWhile_prefix q).subset member)) text
  · rfl

end Strips

theorem isBlank_of_isTextBreak {c : Char} (isEnd : isTextBreak c = true) : isBlank c = true := by
  simp only [isTextBreak, isBlank, Bool.or_eq_true, Bool.and_eq_true, decide_eq_true_eq,
    beq_iff_eq] at isEnd ⊢
  omega

theorem isBlank_of_isTrailing {c : Char} (blank : isTrailing c = true) : isBlank c = true := by
  rcases Bool.or_eq_true_iff.mp blank with space | tab
  · rw [beq_iff_eq.mp space]
    decide
  · rw [beq_iff_eq.mp tab]
    decide

/-- The first line of a text ends at the first break. -/
theorem exists_first_textLine {text : List Char} (some_ : text ≠ []) :
    ∃ line ∈ textLines text, ∃ ending, line = text.takeWhile (fun c => !isTextBreak c) ++ ending ∧
      ∀ c ∈ ending, isTextBreak c = true := by
  cases split : splitKeeping isTextBreak text with
  | nil => exact absurd (splitKeeping_eq_nil.mp split) some_
  | cons line others =>
      obtain ⟨single, closed⟩ := splitKeeping_lines isTextBreak text
      have whole := splitKeeping_flatten isTextBreak text
      rw [split] at single closed whole
      obtain ⟨body, ending, parts, plain, breaks⟩ :=
        (single line List.mem_cons_self).breaks_last (by decide)
      refine ⟨line, by rw [textLines, split]; exact List.mem_cons_self, ending, ?_, breaks⟩
      have cut : text.takeWhile (fun c => !isTextBreak c) = body := by
        rw [← whole, List.flatten_cons, parts, List.append_assoc,
          List.takeWhile_append_of_pos (by simpa using plain)]
        cases ending with
        | cons c ending =>
            rw [List.cons_append, List.takeWhile_cons_of_neg (by simp [breaks c]),
              List.append_nil]
        | nil =>
            cases others with
            | nil => simp
            | cons next others =>
                -- a line before others has its break
                have isClosed := closed line (by simp)
                rw [parts, List.append_nil, Closed] at isClosed
                obtain ⟨c, last, isEnd⟩ := (Option.any_eq_true _ _).mp isClosed
                rw [plain c (List.mem_of_getLast? last)] at isEnd
                cases isEnd
      rw [cut]
      exact parts

/-! ## Headers on both sides -/

/-- A path without its side. -/
def dropSide (value : List Char) : List Char := if hasSide value then value.drop 2 else value

theorem headerPath_eq (line : Line) (marker : String) : headerPath line marker =
    dropSide (stripEnds isBlank (beforeTab (line.drop marker.toList.length))) := rfl

/-- The two markers of the applier. -/
def IsMarker (marker : String) : Prop := marker = "--- " ∨ marker = "+++ "

theorem isFileHeader_iff {line : Line} : isFileHeader line = true ↔
    ∃ marker, IsMarker marker ∧ marker.toList <+: line := by
  rw [isFileHeader, Bool.or_eq_true, List.isPrefixOf_iff_prefix, List.isPrefixOf_iff_prefix]
  constructor
  · rintro (old | new)
    · exact ⟨_, .inl rfl, old⟩
    · exact ⟨_, .inr rfl, new⟩
  · rintro ⟨marker, rfl | rfl, front⟩
    · exact .inl front
    · exact .inr front

theorem IsMarker.plain {marker : String} (isMarker : IsMarker marker) :
    (∀ c ∈ marker.toList, isTextBreak c = false) ∧ '\t' ∉ marker.toList := by
  have unbroken : (marker.toList.all fun c => !isTextBreak c) = true ∧ '\t' ∉ marker.toList := by
    rcases isMarker with rfl | rfl <;> decide
  exact ⟨fun c member => by simpa using List.all_eq_true.mp unbroken.1 c member, unbroken.2⟩

/-- **What the applier reads of a file header** of the normal form: the text up to a soft break,
stripped. -/
theorem exists_applier_header {text : List Char} {line : Line}
    (member : line ∈ normalizeLines (patchLines text)) (header : isFileHeader line = true) :
    ∃ marker rest, IsMarker marker ∧ line = marker.toList ++ rest ∧ '\t' ∉ rest ∧ '\n' ∉ rest ∧
      ∃ textLine ∈ textLines text, startsWith marker textLine = true ∧
        headerPath textLine marker =
          dropSide (stripEnds isBlank (rest.takeWhile fun c => !isTextBreak c)) := by
  obtain ⟨marker, isMarker, front⟩ := isFileHeader_iff.mp header
  have flat := (unbroken_normal member).1.1
  obtain ⟨hard, inLines, kept⟩ := mem_normalizeLines member
  obtain ⟨-, same⟩ := normalizeLine_eq_some.mp kept
  have isCut : line = cutAtTab (stripRight hard) := by
    split at same
    · exact same
    · rename_i plain
      rw [same] at header
      exact absurd header plain
  obtain ⟨behind, parts⟩ : marker.toList <+: stripRight hard :=
    front.trans (isCut ▸ prefix_cutAtTab _)
  have split : line = marker.toList ++ cutAtTab behind := by
    rw [isCut, ← parts, cutAtTab, List.takeWhile_append_of_pos]
    · rfl
    · intro c inMarker
      simp only [bne_iff_ne]
      rintro rfl
      exact isMarker.plain.2 inMarker
  -- the line of the applier that starts where the line of the verifier does
  have long : hard ≠ [] := by
    rintro rfl
    rw [stripRight, List.rdropWhile_nil, List.append_eq_nil_iff] at parts
    rcases isMarker with rfl | rfl <;> exact absurd parts.1 (by decide)
  obtain ⟨byteLine, inBytes, body⟩ : ∃ byteLine ∈ byteLines text, lineBody byteLine = hard := by
    obtain ⟨ending, empty, all⟩ := patchLines_eq text
    rw [all] at inLines
    rcases List.mem_append.mp inLines with mapped | last
    · exact List.mem_map.mp mapped
    · rcases empty with rfl | rfl
      · cases last
      · exact absurd (List.mem_singleton.mp last) long
  have single := (splitKeeping_lines isByteBreak text).1 byteLine inBytes
  obtain ⟨blanks, ending, whole, -, -, blank, breaks, -⟩ := exists_parts single
  rw [tidy, body, ← parts] at whole
  obtain ⟨textLine, inText, ending', first, breaks'⟩ := exists_first_textLine single.ne_nil
  have front' : byteLine.takeWhile (fun c => !isTextBreak c) =
      marker.toList ++ (behind ++ (blanks ++ ending)).takeWhile fun c => !isTextBreak c := by
    rw [whole, List.append_assoc, List.takeWhile_append_of_pos]
    intro c inMarker
    simpa using isMarker.plain.1 c inMarker
  have blank' : ∀ c ∈ blanks ++ ending, isBlank c = true := by
    intro c inTail
    rcases List.mem_append.mp inTail with inBlanks | inEnding
    · exact isBlank_of_isTrailing (blank c inBlanks)
    · exact isBlank_of_isTextBreak (isTextBreak_of_isByteBreak c (breaks c inEnding))
  rw [front', List.append_assoc] at first
  refine ⟨marker, cutAtTab behind, isMarker, split, not_mem_cutAtTab behind, fun feed => flat ?_,
    textLine, ?_, startsWith_iff.mpr ⟨_, first.symm⟩, ?_⟩
  · rw [split]
    exact List.mem_append_right _ feed
  · rw [textLines, splitKeeping_finer isTextBreak_of_isByteBreak text]
    exact List.mem_flatMap.mpr ⟨byteLine, inBytes, inText⟩
  · rw [headerPath_eq, first, List.drop_left]
    congr 1
    rw [beforeTab, stripEnds_takeWhile_append fun c member => isBlank_of_isTextBreak
      (breaks' c member), List.takeWhile_takeWhile, stripEnds_takeWhile_append blank', cutAtTab,
      List.takeWhile_takeWhile]
    simp only [and_comm]

theorem suffix_of_safe {path : List Char} (safe : safeRelativePythonPath path = true) :
    ".py".toList <:+ path ∨ ".pyi".toList <:+ path := by
  simp only [safeRelativePythonPath, Bool.not_or, Bool.and_eq_true, Bool.not_eq_true'] at safe
  rw [or_iff_not_imp_left, ← List.isSuffixOf_iff_suffix, Bool.not_eq_true]
  simpa using safe.2

/-- A safe path is not short and starts inside the tree. -/
theorem two_le_length {path : List Char} (safe : safeRelativePythonPath path = true) :
    2 ≤ path.length ∧ path.head? ≠ some '/' := by
  constructor
  · rcases suffix_of_safe safe with py | pyi
    · exact le_trans (by decide) py.length_le
    · exact le_trans (by decide) pyi.length_le
  · simp only [safeRelativePythonPath, Bool.not_or, Bool.and_eq_true, Bool.not_eq_true'] at safe
    simpa using safe.1.1.1

theorem matchRun_flat {text : List Char} (some_ : text ≠ []) (tab : '\t' ∉ text)
    (feed : '\n' ∉ text) : matchRun text = some (text, []) := by
  have whole : ∀ c ∈ text, isPathChar c = true := by
    intro c member
    simp only [isPathChar, Bool.and_eq_true, bne_iff_ne]
    exact ⟨fun same => tab (same ▸ member), fun same => feed (same ▸ member)⟩
  rw [matchRun_eq, List.takeWhile_eq_self_iff.mpr whole, if_neg some_,
    List.dropWhile_eq_nil_iff.mpr whole]

theorem hasSide_append {start : List Char} (long : 2 ≤ start.length) (rest : List Char) :
    hasSide (start ++ rest) = hasSide start := by
  have front : ∀ side : List Char, side.length = 2 →
      side.isPrefixOf (start ++ rest) = side.isPrefixOf start := by
    intro side length
    rw [Bool.eq_iff_iff, List.isPrefixOf_iff_prefix, List.isPrefixOf_iff_prefix]
    exact ⟨fun whole => List.prefix_of_prefix_length_le whole (List.prefix_append _ _)
      (length ▸ long), fun inStart => inStart.trans (List.prefix_append _ _)⟩
  rw [hasSide, front _ rfl, front _ rfl]
  rfl

/-- **What the verifier reads of a file header**: the path of the applier and what stands behind
it, which is nothing when the header is plain. -/
theorem named_header {path rest : List Char} {marker : String}
    (safe : safeRelativePythonPath path = true) (isMarker : IsMarker marker) (tab : '\t' ∉ rest)
    (feed : '\n' ∉ rest)
    (same : dropSide (stripEnds isBlank (rest.takeWhile fun c => !isTextBreak c)) = path)
    {content : List Char} (marked : headerRest (marker.toList ++ rest) = some content)
    (after : List Line) : ∃ tail, named content after = some (path ++ tail) ∧
      (tail = [] ↔ PlainHeader (marker.toList ++ rest)) := by
  obtain ⟨long, inside⟩ := two_le_length safe
  -- the text up to a soft break: blanks, what is stripped to, and blanks
  set start := rest.takeWhile fun c => !isTextBreak c with isStart
  set value := (start.dropWhile isBlank).rdropWhile isBlank with isValue
  rw [stripEnds_eq, ← isValue] at same
  have longValue : 2 ≤ value.length := by
    rw [dropSide] at same
    split at same
    · rw [← same, List.length_drop] at long
      omega
    · exact same ▸ long
  have parts : start.dropWhile isBlank =
      value ++ (start.dropWhile isBlank).rtakeWhile isBlank :=
    List.rdropWhile_append_rtakeWhile.symm
  have whole : rest = start ++ rest.dropWhile fun c => !isTextBreak c :=
    List.takeWhile_append_dropWhile.symm
  have someValue : value ≠ [] := by
    intro none_
    rw [none_] at longValue
    simp at longValue
  set tail := (start.dropWhile isBlank).rtakeWhile isBlank ++
    rest.dropWhile fun c => !isTextBreak c with isTail
  have text : rest.dropWhile isBlank = value ++ tail := by
    conv_lhs => rw [whole, List.dropWhile_append]
    rw [if_neg, parts, List.append_assoc]
    rw [parts]
    simp [someValue]
  have inRest : ∀ c ∈ value ++ tail, c ∈ rest := fun c member =>
    (List.dropWhile_suffix isBlank).subset (text ▸ member)
  refine ⟨tail, ?_, ?_⟩
  · have isContent : content = ' ' :: rest := by
      have front : afterMarker (marker.toList ++ rest) = some (' ' :: rest) := by
        rcases isMarker with rfl | rfl <;> rfl
      exact Option.some.inj ((headerRest_eq_some.mp marked).1.symm.trans front)
    have dropped : content.dropWhile isBlank = value ++ tail := by
      rw [isContent, List.dropWhile_cons_of_pos (by decide), text]
    have solid : blankLine content = false := by
      rw [Bool.eq_false_iff]
      intro blank
      rw [List.dropWhile_eq_nil_iff.mpr (List.all_eq_true.mp blank)] at dropped
      exact someValue (List.append_eq_nil_iff.mp dropped.symm).1
    rw [named, solid, if_neg (by simp), namedBy, dropped, matchPath, hasSide_append longValue,
      List.drop_append_of_le_length longValue]
    rw [dropSide] at same
    split at same
    · rename_i sided
      have some_ : value.drop 2 ++ tail ≠ [] := by
        intro none_
        rw [same, List.append_eq_nil_iff] at none_
        rw [none_.1] at long
        simp at long
      have inValue : ∀ c ∈ value.drop 2 ++ tail, c ∈ rest := by
        intro c member
        rcases List.mem_append.mp member with inDrop | inTail
        · exact inRest c (List.mem_append_left _ ((List.drop_suffix 2 value).subset inDrop))
        · exact inRest c (List.mem_append_right _ inTail)
      rw [if_pos sided, matchRun_flat some_ (fun member => tab (inValue _ member))
        (fun member => feed (inValue _ member)), same]
      rfl
    · rename_i plain
      rw [if_neg plain, matchRun_flat (by simp [someValue]) (fun member => tab (inRest _ member))
        (fun member => feed (inRest _ member)), same]
      rfl
  · have startPlain : ∀ c ∈ start, isTextBreak c = false := by
      intro c member
      simpa using List.mem_takeWhile_imp member
    constructor
    · intro none_
      obtain ⟨unblank, unbroken⟩ := List.append_eq_nil_iff.mp none_
      rw [unbroken, List.append_nil] at whole
      refine ⟨fun c member => ?_, ?_⟩
      · rcases List.mem_append.mp member with inMarker | inRest
        · exact isMarker.plain.1 c inMarker
        · exact startPlain c (whole ▸ inRest)
      · have last : rest = rest.takeWhile isBlank ++ value := by
          conv_lhs => rw [← List.takeWhile_append_dropWhile (p := isBlank) (l := rest), text,
            none_, List.append_nil]
        have solid := List.rdropWhile_last_not isBlank (start.dropWhile isBlank) someValue
        rw [last, ← List.append_assoc, List.getLast?_append_of_ne_nil _ someValue,
          List.getLast?_eq_some_getLast someValue, Option.all_some]
        simpa using solid
    · rintro ⟨unbroken, solid⟩
      have none_ : (rest.dropWhile fun c => !isTextBreak c) = [] := by
        rw [List.dropWhile_eq_nil_iff]
        intro c member
        simpa using unbroken c (List.mem_append_right _ member)
      rw [isTail, none_, List.append_nil]
      by_contra some_
      have last : rest.getLast? = ((start.dropWhile isBlank).rtakeWhile isBlank).getLast? := by
        rw [← List.takeWhile_append_dropWhile (p := isBlank) (l := rest), text, isTail, none_,
          List.append_nil, ← List.append_assoc, List.getLast?_append_of_ne_nil _ some_]
      have someRest : rest ≠ [] := by
        rintro rfl
        rw [List.dropWhile_nil] at text
        exact someValue (List.append_eq_nil_iff.mp text.symm).1
      rw [List.getLast?_append_of_ne_nil _ someRest, last,
        List.getLast?_eq_some_getLast some_, Option.all_some,
        List.mem_rtakeWhile_imp (List.getLast_mem some_)] at solid
      cases solid

/-! ## Agreement -/

/-- A path stands in the text it was found in. -/
theorem matchPath_subset {text path rest : List Char} (found : matchPath text = some (path, rest)) :
    ∀ c ∈ path, c ∈ text := by
  have run : ∀ {text : List Char}, matchRun text = some (path, rest) → ∀ c ∈ path, c ∈ text := by
    intro text found
    rw [matchRun_eq] at found
    split at found
    · cases found
    · cases found
      exact fun c member => (List.takeWhile_prefix _).subset member
  unfold matchPath at found
  split at found
  · rcases Option.or_eq_some_iff.mp found with sided | ⟨-, plain⟩
    · exact fun c member => (List.drop_suffix 2 text).subset (run sided c member)
    · exact run plain
  · exact run found

theorem namedBy_subset (line : Line) : ∀ c ∈ namedBy line, c ∈ line := by
  intro c member
  rw [namedBy] at member
  cases found : matchPath (line.dropWhile isBlank) with
  | none =>
      rw [found] at member
      cases member
  | some pair =>
      rw [found] at member
      exact (List.dropWhile_suffix isBlank).subset (matchPath_subset found c member)

/-- A bare marker has no letter. -/
theorem Bare.not_mem {line : Line} (bare : Bare line) {c : Char} (solid : isBlank c = false)
    (letter : c ≠ '-' ∧ c ≠ '+') : c ∉ line := by
  obtain ⟨content, marked, blank⟩ := bare
  have front := (headerRest_eq_some.mp marked).1
  unfold afterMarker at front
  split at front
  · rename_i marker
    cases front
    intro member
    rw [← List.take_append_drop 3 line] at member
    rcases List.mem_append.mp member with first | second
    · rcases Bool.or_eq_true_iff.mp marker with old | new
      · have taken : "---".toList = line.take 3 :=
          List.prefix_iff_eq_take.mp (List.isPrefixOf_iff_prefix.mp old)
        rw [← taken] at first
        exact letter.1 (by simpa using first)
      · have taken : "+++".toList = line.take 3 :=
          List.prefix_iff_eq_take.mp (List.isPrefixOf_iff_prefix.mp new)
        rw [← taken] at first
        exact letter.2 (by simpa using first)
    · rw [List.all_eq_true.mp blank c second] at solid
      cases solid
  · cases front

/-- A bare marker is no path and not `/dev/null`. -/
theorem not_named_by_bare {path : List Char} (safe : safeRelativePythonPath path = true)
    (line : Line) (bare : Bare line) : ¬(namedBy line = path ∨ namedBy line = devNull) := by
  have letter : 'p' ∈ path := by
    rcases suffix_of_safe safe with py | pyi
    · exact py.subset (by decide)
    · exact pyi.subset (by decide)
  rintro (own | null)
  · exact bare.not_mem (c := 'p') (by decide) (by decide)
      (namedBy_subset line 'p' (own ▸ letter))
  · exact bare.not_mem (c := 'd') (by decide) (by decide)
      (namedBy_subset line 'd' (null ▸ by decide))

/-- The checked headers name the path. -/
theorem headerPath_of_checkHeaders {path : List Char} {lines : List Line}
    (checked : checkHeaders path lines = .ok ()) {marker : String} (isMarker : IsMarker marker)
    {line : Line} (member : line ∈ lines) (starts : startsWith marker line = true) :
    headerPath line marker = path := by
  unfold checkHeaders at checked
  split at checked
  · rename_i old new oldOnly newOnly
    obtain ⟨oldPath, newPath⟩ := require_eq_ok.mp checked
    have listed := List.mem_filter.mpr ⟨member, starts⟩
    rcases isMarker with rfl | rfl
    · rw [oldOnly, List.mem_singleton] at listed
      exact listed ▸ oldPath
    · rw [newOnly, List.mem_singleton] at listed
      exact listed ▸ newPath
  · cases checked

/-- **When intake and verification agree.** A patch that the applier accepts for a safe path
passes the verifier with that path exactly when its markers are plain. -/
theorem patch_paths_agree_iff {baseline path patch candidate : List Char}
    (safe : safeRelativePythonPath path = true)
    (accepted : applySingleFileUnifiedPatch baseline patch path = .ok candidate) :
    (∃ normalized, normalizePatchV1 patch = .ok normalized ∧
        verifyPatchPaths normalized [path] = .ok ()) ↔
      PathsPlain path (normalizeLines (patchLines patch)) := by
  obtain ⟨⟨-, text⟩, -, headers, -⟩ := applySingleFileUnifiedPatch_eq_ok.mp accepted
  set lines := normalizeLines (patchLines patch) with isLines
  have normal : normalizePatchV1 patch = .ok (joinLines lines) := by
    simp only [normalizePatchV1, Except.bind_eq_ok, require_eq_ok]
    exact ⟨(), text, rfl⟩
  have flat : ∀ line ∈ lines, '\n' ∉ line := fun line member => (unbroken_normal member).1.1
  have found : (∃ normalized, normalizePatchV1 patch = .ok normalized ∧
      verifyPatchPaths normalized [path] = .ok ()) ↔
        (∀ before line content after, Marker lines before line content after →
          ∀ found ∈ named content after, found = path ∨ found = devNull) ∧
          ∃ before line content after, Marker lines before line content after ∧
            path ∈ named content after := by
    rw [← lineWalk_iff (not_named_by_bare safe), ← diffPaths_joinLines flat,
      ← verifyPatchPaths_eq_ok safe]
    constructor
    · rintro ⟨normalized, same, verified⟩
      cases normal.symm.trans same
      exact verified
    · exact fun verified => ⟨_, normal, verified⟩
  -- the headers of the applier name the path
  have header : ∀ {before line content after}, Marker lines before line content after →
      isFileHeader line = true → ∃ tail, named content after = some (path ++ tail) ∧
        (tail = [] ↔ PlainHeader line) := by
    intro before line content after marker isHeader
    have member : line ∈ lines := by
      rw [marker.split]
      simp
    obtain ⟨marker', rest, isMarker, rfl, tab, feed, textLine, inText, starts, path'⟩ :=
      exists_applier_header member isHeader
    have same := headerPath_of_checkHeaders headers isMarker inText starts
    exact named_header safe isMarker tab feed (path'.symm.trans same) marker.marked after
  rw [found]
  constructor
  · rintro ⟨all, before, line, content, after, marker, names⟩
    refine ⟨?_, fun _ _ _ _ marker' _ => all _ _ _ _ marker',
      before, line, content, after, marker, .inr names⟩
    intro before' line' content' after' marker' isHeader
    obtain ⟨tail, named', plain⟩ := header marker' isHeader
    rcases all _ _ _ _ marker' _ named' with own | null
    · exact plain.mp (by simpa using own)
    · -- a path inside the tree is no front of `/dev/null`
      obtain ⟨long, inside⟩ := two_le_length safe
      have some_ : path ≠ [] := by
        rintro rfl
        simp at long
      have front : (path ++ tail).head? = path.head? := List.head?_append_of_ne_nil path some_
      rw [← front, null] at inside
      exact absurd rfl inside
  · intro plain
    have own : ∀ {before line content after}, Marker lines before line content after →
        isFileHeader line = true → named content after = some path := by
      intro before line content after marker isHeader
      obtain ⟨tail, named', plain'⟩ := header marker isHeader
      rw [named', plain'.mpr (plain.headers _ _ _ _ marker isHeader), List.append_nil]
    refine ⟨fun before line content after marker found' names => ?_, ?_⟩
    · cases isHeader : isFileHeader line with
      | true =>
          rw [own marker isHeader] at names
          exact .inl (Option.some.inj names).symm
      | false => exact plain.others _ _ _ _ marker isHeader found' names
    · obtain ⟨before, line, content, after, marker, isHeader | names⟩ := plain.names
      · exact ⟨before, line, content, after, marker, own marker isHeader⟩
      · exact ⟨before, line, content, after, marker, names⟩

/-! ## A deleted line of dashes -/

/-- A patch that replaces a line. -/
def plainPatch : List Char := "--- a/m.py\n+++ b/m.py\n@@ -1 +1 @@\n-a\n+b\n".toList

/-- The markers of a patch that replaces a line are plain. -/
theorem patch_paths_agree_plain :
    PathsPlain "m.py".toList (normalizeLines (patchLines plainPatch)) := by
  have applied : applySingleFileUnifiedPatch "a\n".toList plainPatch "m.py".toList =
      .ok "b\n".toList := by decide
  exact (patch_paths_agree_iff (by decide) applied).mp ⟨plainPatch, by decide, by decide⟩

/-- A source with a line of two dashes. -/
def dashedSource : List Char := "T\n--\nx\n".toList

/-- A patch that deletes that line. -/
def dashedPatch : List Char :=
  "--- a/m.py\n+++ b/m.py\n@@ -1,3 +1,2 @@\n T\n---\n x\n".toList

/-- **A deleted line of dashes is a marker.** The applier deletes it, and the verifier takes the
line after it as a path and raises. -/
theorem deleted_dashes_name_a_path :
    applySingleFileUnifiedPatch dashedSource dashedPatch "m.py".toList = .ok "T\nx\n".toList ∧
      verifyPatchPaths dashedPatch ["m.py".toList] =
        .error ⟨"patch_path_binding_mismatch", "patch paths do not match touched_paths"⟩ ∧
      ¬∀ baseline path patch candidate : List Char, safeRelativePythonPath path = true →
        applySingleFileUnifiedPatch baseline patch path = .ok candidate →
          ∃ normalized, normalizePatchV1 patch = .ok normalized ∧
            verifyPatchPaths normalized [path] = .ok () := by
  have applied : applySingleFileUnifiedPatch dashedSource dashedPatch "m.py".toList =
      .ok "T\nx\n".toList := by decide
  have normal : normalizePatchV1 dashedPatch = .ok dashedPatch := by decide
  have refused : verifyPatchPaths dashedPatch ["m.py".toList] =
      .error ⟨"patch_path_binding_mismatch", "patch paths do not match touched_paths"⟩ := by decide
  refine ⟨applied, refused, fun agree => ?_⟩
  obtain ⟨normalized, same, verified⟩ := agree _ _ _ _ (by decide) applied
  cases normal.symm.trans same
  rw [refused] at verified
  cases verified

end PatchPaths

end HcuAutoOpt
