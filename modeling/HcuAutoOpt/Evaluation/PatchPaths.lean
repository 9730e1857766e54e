import HcuAutoOpt.Agent.PatchIdentity
import HcuAutoOpt.Foundation.UuidText

/-!
# The paths of a patch, as the verifier reads them

`_verify_patch_paths` finds the file headers of a normalized patch by a regular expression that
is tried at every start of a line: a marker, blanks, and a path up to a tab or the end of its
line. A line end is a blank, so a marker with nothing behind it takes its path from the next line
that has one.

`lineWalk` says what the expression finds line by line (`diffPaths_joinLines`): a marker names
what stands behind it, or what the next line with a text holds, and that line is not looked at
again. So exactly the markers that stand free are read, as long as what they name is no marker
(`lineWalk_iff`).
-/

set_option autoImplicit false

namespace HcuAutoOpt

namespace PatchPaths

open Foundation PatchIdentity

/-- `AgentProposalEvidenceError`. -/
structure AgentProposalEvidenceError where
  code : String
  message : String
  deriving DecidableEq, Repr

/-- `normalize_patch_v1` of the verifier, of a text in UTF-8. -/
def normalizePatchV1 (text : List Char) : Except AgentProposalEvidenceError (List Char) := do
  require ('\x00' ∉ text) ⟨"patch_invalid", "patch contains NUL"⟩
  return joinLines (normalizeLines (patchLines text))

/-! ## The expression -/

/-- `[^\t\n]`. -/
def isPathChar (c : Char) : Bool := c != '\t' && c != '\n'

/-- `([^\t\n]+)`, and what follows. -/
def matchRun (text : List Char) : Option (List Char × List Char) :=
  match text.takeWhile isPathChar with
  | [] => none
  | run => some (run, text.dropWhile isPathChar)

/-- `[ab]/` is at the front. -/
def hasSide (text : List Char) : Bool := "a/".toList.isPrefixOf text || "b/".toList.isPrefixOf text

/-- `(?:[ab]/)?([^\t\n]+)`. -/
def matchPath (text : List Char) : Option (List Char × List Char) :=
  if hasSide text then (matchRun (text.drop 2)).or (matchRun text) else matchRun text

/-- `\s+(?:[ab]/)?([^\t\n]+)`: as many blanks as leave a path. -/
def matchBlanks : List Char → Option (List Char × List Char)
  | [] => none
  | c :: rest => if isBlank c then (matchBlanks rest).or (matchPath rest) else none

/-- `(?:---|\+\+\+)`. -/
def afterMarker (text : List Char) : Option (List Char) :=
  if "---".toList.isPrefixOf text || "+++".toList.isPrefixOf text then some (text.drop 3) else none

/-- `_DIFF_PATH.finditer`: the paths from a place of the text on. Every turn takes a character
away, so the number of characters is fuel enough. -/
def findPaths : Nat → (atStart : Bool) → List Char → List (List Char)
  | 0, _, _ => []
  | _ + 1, _, [] => []
  | fuel + 1, atStart, c :: rest =>
      match if atStart then (afterMarker (c :: rest)).bind matchBlanks else none with
      | some (path, rest') => path :: findPaths fuel false rest'
      | none => findPaths fuel (c == '\n') rest

/-- The paths of a patch. -/
def diffPaths (text : List Char) : List (List Char) := findPaths text.length true text

/-- `"/dev/null"`. -/
def devNull : List Char := "/dev/null".toList

/-- `candidate.is_absolute() or ".." in candidate.parts`. -/
def leavesTree (path : List Char) : Bool :=
  path.head? == some '/' || (path.splitOn '/').contains ['.', '.']

/-- `_verify_patch_paths`. -/
def verifyPatchPaths (normalized : List Char) (declared : List (List Char)) :
    Except AgentProposalEvidenceError Unit := do
  let paths := (diffPaths normalized).filter fun path => path ≠ devNull
  require (∀ path ∈ paths, leavesTree path = false) ⟨"patch_path_invalid", "unsafe patch path"⟩
  require ((∀ path ∈ paths, path ∈ declared) ∧ ∀ path ∈ declared, path ∈ paths)
    ⟨"patch_path_binding_mismatch", "patch paths do not match touched_paths"⟩

/-- `_safe_relative_python_path` admits the path. -/
def safeRelativePythonPath (path : List Char) : Bool :=
  !(path.head? == some '/' || path.contains '\\' ||
    (path.splitOn '/').any (fun part => part ∈ [[], ['.'], ['.', '.']]) ||
    !(".py".toList.isSuffixOf path || ".pyi".toList.isSuffixOf path))

/-! ## What the verifier accepts -/

/-- A safe path does not leave the tree. -/
theorem leavesTree_eq_false {path : List Char} (safe : safeRelativePythonPath path = true) :
    leavesTree path = false := by
  simp only [safeRelativePythonPath, Bool.not_or, Bool.and_eq_true, Bool.not_eq_true',
    List.any_eq_false, decide_eq_true_eq] at safe
  rw [leavesTree, safe.1.1.1, Bool.false_or, ← Bool.not_eq_true, List.contains_iff_mem]
  intro member
  exact safe.1.2 _ member (by simp)

theorem ne_devNull {path : List Char} (safe : safeRelativePythonPath path = true) :
    path ≠ devNull := by
  rintro rfl
  exact absurd safe (by decide)

/-- **What the verifier accepts**: nothing but the declared path and `/dev/null` is found, and the
declared path is. -/
theorem verifyPatchPaths_eq_ok {normalized path : List Char}
    (safe : safeRelativePythonPath path = true) :
    verifyPatchPaths normalized [path] = .ok () ↔
      (∀ found ∈ diffPaths normalized, found = path ∨ found = devNull) ∧
        path ∈ diffPaths normalized := by
  simp only [verifyPatchPaths, Except.bind_eq_ok, require_eq_ok, exists_const, List.mem_filter,
    decide_eq_true_eq, List.mem_singleton, forall_eq]
  constructor
  · rintro ⟨-, only, there, -⟩
    refine ⟨fun found member => ?_, there⟩
    by_cases null : found = devNull
    · exact .inr null
    · exact .inl (only found ⟨member, null⟩)
  · rintro ⟨only, there⟩
    have own : ∀ found, found ∈ diffPaths normalized ∧ found ≠ devNull → found = path :=
      fun found known => (only found known.1).resolve_right known.2
    refine ⟨fun found known => ?_, own, there, ne_devNull safe⟩
    rw [own found known]
    exact leavesTree_eq_false safe

/-! ## Line by line -/

/-- What stands behind a marker that the expression can take: nothing, or a blank first. -/
def headerRest (line : Line) : Option (List Char) :=
  (afterMarker line).filter fun rest => rest.head?.all isBlank

/-- A line without a text. -/
def blankLine (line : Line) : Bool := line.all isBlank

/-- What a line with a text names, behind its blanks. -/
def namedBy (line : Line) : List Char :=
  ((matchPath (line.dropWhile isBlank)).map Prod.fst).getD []

/-- What a marker names when no line with a text follows it: a last blank that is no tab and no
line end, if it does not have to follow the marker. -/
def lastBlank (content : List Char) (after : List Line) : Option (List Char) :=
  ((content ++ '\n' :: after.flatMap (· ++ ['\n'])).tail.reverse.find? isPathChar).map ([·])

/-- What a marker names, with `content` behind it and the lines after it. -/
def named (content : List Char) (after : List Line) : Option (List Char) :=
  if blankLine content then
    match after.dropWhile blankLine with
    | [] => lastBlank content after
    | next :: _ => some (namedBy next)
  else some (namedBy content)

/-- The lines after a marker that the expression has not read. -/
def unread (content : List Char) (after : List Line) : List Line :=
  if blankLine content then (after.dropWhile blankLine).tail else after

theorem length_unread (content : List Char) (after : List Line) :
    (unread content after).length ≤ after.length := by
  unfold unread
  split
  · rw [List.length_tail]
    have := List.length_dropWhile_le (p := blankLine) after
    omega
  · rfl

/-- What the expression finds. -/
def lineWalk : List Line → List (List Char)
  | [] => []
  | line :: after =>
      match headerRest line with
      | none => lineWalk after
      | some content => (named content after).toList ++ lineWalk (unread content after)
  termination_by lines => lines.length
  decreasing_by
    · simp
    · have := length_unread content after
      simp only [List.length_cons]
      omega

/-! ## The expression on a line -/

theorem isPathChar_of_not_isBlank {c : Char} (solid : isBlank c = false) : isPathChar c = true := by
  have apart : ∀ other : Char, isBlank other = true → c ≠ other := by
    rintro _ blank rfl
    rw [solid] at blank
    cases blank
  simp [isPathChar, apart '\t' (by decide), apart '\n' (by decide)]

theorem matchRun_eq {text : List Char} : matchRun text =
    if text.takeWhile isPathChar = [] then none
    else some (text.takeWhile isPathChar, text.dropWhile isPathChar) := by
  unfold matchRun
  cases text.takeWhile isPathChar <;> simp

/-- A run ends where its line ends. -/
theorem matchRun_line (line more : List Char) : matchRun (line ++ '\n' :: more) =
    (matchRun line).map fun found => (found.1, found.2 ++ '\n' :: more) := by
  have stop : ('\n' :: more).takeWhile isPathChar = [] := rfl
  have rest : ('\n' :: more).dropWhile isPathChar = '\n' :: more := rfl
  have taken : (line ++ '\n' :: more).takeWhile isPathChar = line.takeWhile isPathChar := by
    rw [List.takeWhile_append]
    split
    · rename_i whole
      rw [stop, List.append_nil, (List.takeWhile_prefix _).eq_of_length whole]
    · rfl
  have left : (line ++ '\n' :: more).dropWhile isPathChar =
      line.dropWhile isPathChar ++ '\n' :: more := by
    rw [List.dropWhile_append]
    split
    · rename_i whole
      rw [rest, List.isEmpty_iff.mp whole, List.nil_append]
    · rfl
  rw [matchRun_eq, matchRun_eq, taken, left]
  split <;> rfl

/-- What has no line end stands in front of one. -/
theorem prefix_line_iff {front line more : List Char} (flat : '\n' ∉ front) :
    front <+: line ++ '\n' :: more ↔ front <+: line := by
  refine ⟨fun whole => ?_, fun inLine => inLine.trans (List.prefix_append _ _)⟩
  rcases List.prefix_or_prefix_of_prefix whole (List.prefix_append line _) with here | ⟨tail, same⟩
  · exact here
  · rw [← same] at whole flat
    cases tail with
    | nil =>
        rw [← same]
        simp
    | cons c tail =>
        obtain ⟨rfl, -⟩ := List.cons_prefix_cons.mp ((List.prefix_append_right_inj line).mp whole)
        simp at flat

theorem isPrefixOf_line {front : List Char} (flat : '\n' ∉ front) (line more : List Char) :
    front.isPrefixOf (line ++ '\n' :: more) = front.isPrefixOf line := by
  rw [Bool.eq_iff_iff, List.isPrefixOf_iff_prefix, List.isPrefixOf_iff_prefix, prefix_line_iff flat]

/-- A path ends where its line ends. -/
theorem matchPath_line (line more : List Char) :
    matchPath (line ++ '\n' :: more) =
      (matchPath line).map fun found => (found.1, found.2 ++ '\n' :: more) := by
  have side : hasSide (line ++ '\n' :: more) = hasSide line := by
    rw [hasSide, isPrefixOf_line (by decide), isPrefixOf_line (by decide)]
    rfl
  unfold matchPath
  rw [side]
  split
  · rename_i sided
    have long : 2 ≤ line.length := by
      rcases Bool.or_eq_true_iff.mp sided with old | new
      · exact (List.isPrefixOf_iff_prefix.mp old).length_le
      · exact (List.isPrefixOf_iff_prefix.mp new).length_le
    rw [List.drop_append_of_le_length long, matchRun_line, matchRun_line]
    cases matchRun (line.drop 2) <;> rfl
  · exact matchRun_line line more

/-- A text that does not start with a blank starts with a path. -/
theorem matchPath_solid (text : List Char) {c : Char} (solid : isBlank c = false) :
    ∃ path rest, matchPath (c :: text) = some (path, rest) := by
  have run : ∃ path rest, matchRun (c :: text) = some (path, rest) := by
    rw [matchRun_eq, List.takeWhile_cons_of_pos (isPathChar_of_not_isBlank solid)]
    exact ⟨_, _, rfl⟩
  obtain ⟨path, rest, run⟩ := run
  unfold matchPath
  rw [run]
  split
  · cases matchRun ((c :: text).drop 2) with
    | none => exact ⟨_, _, rfl⟩
    | some found => exact ⟨_, _, rfl⟩
  · exact ⟨_, _, rfl⟩

/-- What stands behind a path is the end of its text. -/
theorem matchPath_suffix {text path rest : List Char} (found : matchPath text = some (path, rest)) :
    rest <:+ text := by
  have run : ∀ {text : List Char}, matchRun text = some (path, rest) → rest <:+ text := by
    intro text found
    rw [matchRun_eq] at found
    split at found
    · cases found
    · cases found
      exact List.dropWhile_suffix _
  unfold matchPath at found
  split at found
  · rcases Option.or_eq_some_iff.mp found with sided | ⟨-, plain⟩
    · exact (run sided).trans (List.drop_suffix _ _)
    · exact run plain
  · exact run found

theorem matchBlanks_suffix {text path rest : List Char}
    (found : matchBlanks text = some (path, rest)) : rest <:+ text := by
  induction text with
  | nil => cases found
  | cons c text ih =>
      rw [matchBlanks] at found
      split at found
      · rcases Option.or_eq_some_iff.mp found with later | ⟨-, here⟩
        · exact (ih later).trans (List.suffix_cons c text)
        · exact (matchPath_suffix here).trans (List.suffix_cons c text)
      · cases found

/-- **Blanks in front of a text** are all taken. -/
theorem matchBlanks_solid {blanks text : List Char} {c : Char} (some_ : blanks ≠ [])
    (blank : ∀ b ∈ blanks, isBlank b = true) (solid : isBlank c = false) :
    matchBlanks (blanks ++ c :: text) = matchPath (c :: text) := by
  obtain ⟨path, rest, found⟩ := matchPath_solid text solid
  induction blanks with
  | nil => exact absurd rfl some_
  | cons b blanks ih =>
      obtain ⟨here, later⟩ := List.forall_mem_cons.mp blank
      rw [List.cons_append, matchBlanks, if_pos here]
      cases blanks with
      | nil =>
          have none_ : matchBlanks (c :: text) = none := by
            rw [matchBlanks, if_neg (by simp [solid])]
          rw [List.nil_append, none_, Option.none_or]
      | cons b' blanks =>
          rw [ih (List.cons_ne_nil _ _) later, found, Option.some_or]

/-- A text of blanks leaves at most its last one that is no tab and no line end. -/
theorem matchBlanks_blank {blanks : List Char} (blank : ∀ b ∈ blanks, isBlank b = true) :
    (matchBlanks blanks).map Prod.fst = (blanks.tail.reverse.find? isPathChar).map ([·]) ∧
      ∀ path rest, matchBlanks blanks = some (path, rest) →
        ∀ b ∈ rest, isPathChar b = false := by
  induction blanks with
  | nil => exact ⟨rfl, by simp [matchBlanks]⟩
  | cons b blanks ih =>
      obtain ⟨here, later⟩ := List.forall_mem_cons.mp blank
      obtain ⟨last, behind⟩ := ih later
      have step : matchBlanks (b :: blanks) = (matchBlanks blanks).or (matchPath blanks) :=
        if_pos here
      rw [step, List.tail_cons]
      cases blanks with
      | nil => exact ⟨rfl, by simp [matchBlanks, matchPath, hasSide, matchRun]⟩
      | cons c blanks =>
          rw [List.tail_cons] at last
          rw [List.reverse_cons, List.find?_append]
          cases found : matchBlanks (c :: blanks) with
          | some pair =>
              rw [found, Option.map_some] at last
              rw [found] at behind
              obtain ⟨d, there, same⟩ := Option.map_eq_some_iff.mp last.symm
              refine ⟨?_, behind⟩
              rw [Option.some_or, Option.map_some, there, ← same]
              rfl
          | none =>
              rw [found, Option.map_none, eq_comm, Option.map_eq_none_iff] at last
              have tabs : ∀ d ∈ blanks, isPathChar d = false := by simpa using last
              have unsided : hasSide (c :: blanks) = false := by
                rw [Bool.eq_false_iff]
                intro sided
                have blankHere := later c List.mem_cons_self
                rcases Bool.or_eq_true_iff.mp sided with old | new
                · cases (List.cons_prefix_cons.mp (List.isPrefixOf_iff_prefix.mp old)).1
                  exact absurd blankHere (by decide)
                · cases (List.cons_prefix_cons.mp (List.isPrefixOf_iff_prefix.mp new)).1
                  exact absurd blankHere (by decide)
              have stop : blanks.takeWhile isPathChar = [] ∧
                  blanks.dropWhile isPathChar = blanks := by
                cases blanks with
                | nil => exact ⟨rfl, rfl⟩
                | cons d blanks => simp [tabs d List.mem_cons_self]
              rw [last, Option.none_or, Option.none_or, matchPath, unsided, if_neg (by simp),
                matchRun_eq]
              cases isPath : isPathChar c with
              | true => simpa [isPath, stop.1, stop.2] using tabs
              | false => simp [isPath]

/-! ## From place to place -/

/-- A match at a place, of the expression or its start. -/
def matchHere (atStart : Bool) (text : List Char) : Option (List Char × List Char) :=
  if atStart then (afterMarker text).bind matchBlanks else none

theorem matchHere_shorter {atStart : Bool} {c : Char} {rest path rest' : List Char}
    (found : matchHere atStart (c :: rest) = some (path, rest')) : rest'.length ≤ rest.length := by
  unfold matchHere at found
  split at found
  · obtain ⟨content, marked, found⟩ := Option.bind_eq_some_iff.mp found
    unfold afterMarker at marked
    split at marked
    · cases marked
      have shorter := (matchBlanks_suffix found).length_le
      simp only [List.length_drop, List.length_cons] at shorter
      omega
    · cases marked
  · cases found

/-- More fuel than characters changes nothing. -/
theorem findPaths_of_le {text : List Char} : ∀ {fuel : Nat} {atStart : Bool},
    text.length ≤ fuel → findPaths fuel atStart text = findPaths text.length atStart text := by
  induction size : text.length using Nat.strongRecOn generalizing text with
  | ind size ih =>
      subst size
      intro fuel atStart enough
      cases text with
      | nil => cases fuel <;> rfl
      | cons c rest =>
          obtain ⟨fuel, rfl⟩ : ∃ more, fuel = more + 1 :=
            Nat.exists_eq_add_one.mpr (Nat.lt_of_lt_of_le (by simp) enough)
          have enough' : rest.length ≤ fuel := by simpa using enough
          rw [List.length_cons, findPaths, findPaths]
          split
          · rename_i path rest' found
            have shorter := matchHere_shorter found
            have fewer : rest'.length < (c :: rest).length := Nat.lt_succ_of_le shorter
            rw [ih _ fewer rfl (shorter.trans enough'), ih _ fewer rfl shorter]
          · rw [ih _ (by simp) rfl enough']

/-- The paths from a place on. -/
def pathsFrom (atStart : Bool) (text : List Char) : List (List Char) :=
  findPaths text.length atStart text

theorem pathsFrom_match {atStart : Bool} {text path rest : List Char} (some_ : text ≠ [])
    (found : matchHere atStart text = some (path, rest)) :
    pathsFrom atStart text = path :: pathsFrom false rest := by
  obtain ⟨c, text, rfl⟩ := List.exists_cons_of_ne_nil some_
  have shorter := matchHere_shorter found
  unfold matchHere at found
  rw [pathsFrom, List.length_cons, findPaths, found]
  dsimp only
  rw [findPaths_of_le shorter]
  rfl

theorem pathsFrom_skip {atStart : Bool} {c : Char} {rest : List Char}
    (none_ : matchHere atStart (c :: rest) = none) :
    pathsFrom atStart (c :: rest) = pathsFrom (c == '\n') rest := by
  unfold matchHere at none_
  rw [pathsFrom, List.length_cons, findPaths, none_]
  rfl

/-- Inside a line nothing is found. -/
theorem pathsFrom_inside {line : List Char} (flat : '\n' ∉ line) (more : List Char) :
    pathsFrom false (line ++ '\n' :: more) = pathsFrom true more := by
  induction line with
  | nil => exact pathsFrom_skip rfl
  | cons c line ih =>
      rw [List.mem_cons, not_or] at flat
      have apart : (c == '\n') = false := beq_eq_false_iff_ne.mpr (Ne.symm flat.1)
      rw [List.cons_append, pathsFrom_skip rfl, apart, ih flat.2]

/-- A line without a match at its start is passed over. -/
theorem pathsFrom_line {line : List Char} (flat : '\n' ∉ line) {more : List Char}
    (none_ : matchHere true (line ++ '\n' :: more) = none) :
    pathsFrom true (line ++ '\n' :: more) = pathsFrom true more := by
  cases line with
  | nil => exact pathsFrom_skip none_
  | cons c line =>
      rw [List.mem_cons, not_or] at flat
      have apart : (c == '\n') = false := beq_eq_false_iff_ne.mpr (Ne.symm flat.1)
      rw [List.cons_append] at none_ ⊢
      rw [pathsFrom_skip none_, apart, pathsFrom_inside flat.2]

/-- Tabs and line ends name nothing. -/
theorem pathsFrom_empty {text : List Char} (none_ : ∀ c ∈ text, isPathChar c = false) :
    ∀ atStart, pathsFrom atStart text = [] := by
  induction text with
  | nil => exact fun _ => rfl
  | cons c rest ih =>
      obtain ⟨here, later⟩ := List.forall_mem_cons.mp none_
      intro atStart
      have unmarked : afterMarker (c :: rest) = none := by
        refine if_neg fun marked => ?_
        rcases Bool.or_eq_true_iff.mp marked with old | new
        · cases (List.cons_prefix_cons.mp (List.isPrefixOf_iff_prefix.mp old)).1
          exact absurd here (by decide)
        · cases (List.cons_prefix_cons.mp (List.isPrefixOf_iff_prefix.mp new)).1
          exact absurd here (by decide)
      rw [pathsFrom_skip (by simp [matchHere, unmarked]), ih later]

/-! ## From line to line -/

/-- Lines, each with its end. -/
def endedLines (lines : List Line) : List Char := lines.flatMap (· ++ ['\n'])

theorem endedLines_cons (line : Line) (lines : List Line) :
    endedLines (line :: lines) = line ++ '\n' :: endedLines lines := by
  rw [endedLines, List.flatMap_cons, List.append_assoc]
  rfl

/-- Lines that were joined. -/
theorem joinLines_eq {lines : List Line} (some_ : lines ≠ []) :
    joinLines lines = endedLines lines := by
  induction lines with
  | nil => exact absurd rfl some_
  | cons line lines ih =>
      rw [endedLines_cons]
      cases lines with
      | nil => simp [joinLines, endedLines]
      | cons next lines =>
          rw [← ih (List.cons_ne_nil _ _), joinLines, joinLines, List.intercalate_cons_cons]
          simp

/-- A marker is found in its line. -/
theorem afterMarker_line (line more : List Char) : afterMarker (line ++ '\n' :: more) =
    (afterMarker line).map (· ++ '\n' :: more) := by
  unfold afterMarker
  rw [isPrefixOf_line (by decide), isPrefixOf_line (by decide)]
  split
  · rename_i marked
    have long : 3 ≤ line.length := by
      rcases Bool.or_eq_true_iff.mp marked with old | new
      · exact (List.isPrefixOf_iff_prefix.mp old).length_le
      · exact (List.isPrefixOf_iff_prefix.mp new).length_le
    rw [List.drop_append_of_le_length long, Option.map_some]
  · rfl

theorem afterMarker_suffix {line content : List Char} (marked : afterMarker line = some content) :
    content <:+ line := by
  unfold afterMarker at marked
  split at marked
  · cases marked
    exact List.drop_suffix 3 line
  · cases marked

theorem headerRest_eq_some {line content : List Char} : headerRest line = some content ↔
    afterMarker line = some content ∧ content.head?.all isBlank = true :=
  Option.filter_eq_some_iff

/-- A marker is no blank. -/
theorem blankLine_of_headerRest {line content : List Char}
    (marked : headerRest line = some content) : blankLine line = false := by
  have front := (headerRest_eq_some.mp marked).1
  unfold afterMarker at front
  split at front
  · rename_i marker
    rw [Bool.eq_false_iff]
    intro blank
    have all := List.all_eq_true.mp blank
    rcases Bool.or_eq_true_iff.mp marker with old | new
    · exact absurd (all '-' ((List.isPrefixOf_iff_prefix.mp old).subset (by decide))) (by decide)
    · exact absurd (all '+' ((List.isPrefixOf_iff_prefix.mp new).subset (by decide))) (by decide)
  · cases front

theorem takeWhile_blank (text : List Char) : ∀ c ∈ text.takeWhile isBlank, isBlank c = true :=
  fun _ member => List.mem_takeWhile_imp member

/-- What is not blank has a first character that is not. -/
theorem exists_solid {line : Line} (solid : blankLine line = false) :
    ∃ c rest, line.dropWhile isBlank = c :: rest ∧ isBlank c = false := by
  cases split : line.dropWhile isBlank with
  | nil =>
      rw [List.dropWhile_eq_nil_iff] at split
      rw [blankLine, List.all_eq_true.mpr split] at solid
      cases solid
  | cons c rest =>
      have here := List.head?_dropWhile_not isBlank line
      rw [split, List.head?_cons] at here
      exact ⟨c, rest, rfl, here⟩

/-- **What is named** behind blanks, in a line with a text. -/
theorem matchBlanks_named {blanks : List Char} {next : Line}
    (some_ : blanks ++ next.takeWhile isBlank ≠ []) (blank : ∀ b ∈ blanks, isBlank b = true)
    (flat : '\n' ∉ next) (solid : blankLine next = false) (more : List Char) :
    ∃ rest, '\n' ∉ rest ∧ matchBlanks (blanks ++ (next ++ '\n' :: more)) =
      some (namedBy next, rest ++ '\n' :: more) := by
  obtain ⟨c, tail, split, solid'⟩ := exists_solid solid
  obtain ⟨path, rest, found⟩ := matchPath_solid tail solid'
  have whole : next = next.takeWhile isBlank ++ c :: tail := by
    rw [← split, List.takeWhile_append_dropWhile]
  have blank' : ∀ b ∈ blanks ++ next.takeWhile isBlank, isBlank b = true := by
    intro b member
    rcases List.mem_append.mp member with first | second
    · exact blank b first
    · exact takeWhile_blank next b second
  have text : blanks ++ (next ++ '\n' :: more) =
      (blanks ++ next.takeWhile isBlank) ++ c :: (tail ++ '\n' :: more) := by
    conv_lhs => rw [whole]
    simp
  refine ⟨rest, fun member => flat ?_, ?_⟩
  · rw [whole]
    exact List.mem_append_right _ ((matchPath_suffix found).subset member)
  · rw [text, matchBlanks_solid some_ blank' solid', ← List.cons_append, matchPath_line, found,
      namedBy, split, found]
    rfl

/-- Blank lines name nothing. -/
theorem lineWalk_blank {lines : List Line} (blank : ∀ line ∈ lines, blankLine line = true) :
    lineWalk lines = [] := by
  induction lines with
  | nil => rw [lineWalk]
  | cons line lines ih =>
      obtain ⟨here, later⟩ := List.forall_mem_cons.mp blank
      rw [lineWalk]
      cases marked : headerRest line with
      | none => exact ih later
      | some content =>
          rw [blankLine_of_headerRest marked] at here
          cases here

theorem endedLines_append (lines lines' : List Line) :
    endedLines (lines ++ lines') = endedLines lines ++ endedLines lines' := List.flatMap_append

/-- Blank lines are blanks. -/
theorem endedLines_blank {lines : List Line} (blank : ∀ line ∈ lines, blankLine line = true) :
    ∀ c ∈ endedLines lines, isBlank c = true := by
  intro c member
  obtain ⟨line, inLines, inLine⟩ := List.mem_flatMap.mp member
  rcases List.mem_append.mp inLine with inside | last
  · exact List.all_eq_true.mp (blank line inLines) c inside
  · rw [List.mem_singleton.mp last]
    decide

/-- Blank lines behind blanks are blanks. -/
theorem blank_behind {content : List Char} (blank : blankLine content = true) {lines : List Line}
    (skipped : ∀ line ∈ lines, blankLine line = true) :
    ∀ c ∈ content ++ '\n' :: endedLines lines, isBlank c = true := by
  intro c member
  rcases List.mem_append.mp member with inside | behind
  · exact List.all_eq_true.mp blank c inside
  · rcases List.mem_cons.mp behind with rfl | behind
    · decide
    · exact endedLines_blank skipped c behind

/-- **What the expression finds** in lines, line by line. -/
theorem pathsFrom_endedLines {lines : List Line} (flat : ∀ line ∈ lines, '\n' ∉ line) :
    pathsFrom true (endedLines lines) = lineWalk lines := by
  induction size : lines.length using Nat.strongRecOn generalizing lines with
  | ind size ih =>
      subst size
      cases lines with
      | nil => rw [lineWalk]; rfl
      | cons line after =>
          obtain ⟨flatHere, flatLater⟩ := List.forall_mem_cons.mp flat
          have onward : pathsFrom true (endedLines after) = lineWalk after :=
            ih after.length (by simp) flatLater rfl
          rw [endedLines_cons, lineWalk]
          cases marked : headerRest line with
          | none =>
              have none_ : matchHere true (line ++ '\n' :: endedLines after) = none := by
                rw [matchHere, if_pos rfl, afterMarker_line]
                cases front : afterMarker line with
                | none => rfl
                | some content =>
                    -- the marker is followed by a text at once
                    have text : content.head?.all isBlank = false := by
                      rw [headerRest, front] at marked
                      simpa using marked
                    cases content with
                    | nil => cases text
                    | cons c content =>
                        rw [Option.map_some, Option.bind_some, List.cons_append, matchBlanks,
                          if_neg (by simpa using text)]
              rw [pathsFrom_line flatHere none_, onward]
          | some content =>
              obtain ⟨front, first⟩ := headerRest_eq_some.mp marked
              have flatContent : '\n' ∉ content :=
                fun member => flatHere ((afterMarker_suffix front).subset member)
              have here : matchHere true (line ++ '\n' :: endedLines after) =
                  matchBlanks (content ++ '\n' :: endedLines after) := by
                rw [matchHere, if_pos rfl, afterMarker_line, front]
                rfl
              have some_ : line ++ '\n' :: endedLines after ≠ [] := by simp
              dsimp only
              cases blank : blankLine content with
              | false =>
                  have blankFirst : [] ++ content.takeWhile isBlank ≠ [] := by
                    cases content with
                    | nil => cases blank
                    | cons c content =>
                        rw [List.nil_append, List.takeWhile_cons_of_pos (by simpa using first)]
                        exact List.cons_ne_nil _ _
                  obtain ⟨rest, flatRest, found⟩ := matchBlanks_named blankFirst
                    (by simp) flatContent blank (endedLines after)
                  rw [pathsFrom_match some_ (here.trans found), pathsFrom_inside flatRest, onward,
                    named, unread, blank]
                  rfl
              | true =>
                  have skipped : ∀ other ∈ after.takeWhile blankLine, blankLine other = true :=
                    fun _ member => List.mem_takeWhile_imp member
                  rw [named, unread, if_pos blank, if_pos blank]
                  cases split : after.dropWhile blankLine with
                  | cons next later =>
                      have whole : after = after.takeWhile blankLine ++ next :: later := by
                        rw [← split, List.takeWhile_append_dropWhile]
                      have solid : blankLine next = false := by
                        have here := List.head?_dropWhile_not blankLine after
                        rwa [split, List.head?_cons] at here
                      have flatNext : '\n' ∉ next := flatLater next (by rw [whole]; simp)
                      have flatRest : ∀ other ∈ later, '\n' ∉ other := fun other member =>
                        flatLater other (by rw [whole]; simp [member])
                      have front' : content ++ '\n' :: endedLines after =
                          (content ++ '\n' :: endedLines (after.takeWhile blankLine)) ++
                            (next ++ '\n' :: endedLines later) := by
                        conv_lhs => rw [whole, endedLines_append, endedLines_cons]
                        simp
                      obtain ⟨rest, flatBehind, found⟩ := matchBlanks_named (by simp)
                        (blank_behind blank skipped) flatNext solid (endedLines later)
                      have shorter : later.length < (line :: after).length := by
                        rw [whole]
                        simp
                        omega
                      rw [← front', ← here] at found
                      rw [pathsFrom_match some_ found, pathsFrom_inside flatBehind,
                        ih later.length shorter flatRest rfl]
                      rfl
                  | nil =>
                      have none_ : ∀ other ∈ after, blankLine other = true := by
                        rwa [List.dropWhile_eq_nil_iff] at split
                      obtain ⟨last, behind⟩ := matchBlanks_blank (blank_behind blank none_)
                      change (matchBlanks _).map Prod.fst = lastBlank content after at last
                      dsimp only
                      rw [← last, List.tail_nil, lineWalk, List.append_nil]
                      cases found : matchBlanks (content ++ '\n' :: endedLines after) with
                      | none =>
                          rw [pathsFrom_line flatHere (here.trans found), onward,
                            lineWalk_blank none_]
                          rfl
                      | some pair =>
                          rw [pathsFrom_match some_ (here.trans found),
                            pathsFrom_empty (behind _ _ found)]
                          rfl

/-- **What the verifier finds** in joined lines. -/
theorem diffPaths_joinLines {lines : List Line} (flat : ∀ line ∈ lines, '\n' ∉ line) :
    diffPaths (joinLines lines) = lineWalk lines := by
  cases lines with
  | nil => rw [lineWalk]; rfl
  | cons line lines =>
      rw [joinLines_eq (List.cons_ne_nil _ _)]
      exact pathsFrom_endedLines flat

/-! ## Markers that stand free -/

/-- A marker with nothing but blanks behind it. -/
def Bare (line : Line) : Prop := ∃ content, headerRest line = some content ∧
  blankLine content = true

/-- The last line with a text. -/
def lastText (lines : List Line) : Option Line := lines.reverse.find? fun line => !blankLine line

/-- The next line with a text is what a bare marker names. -/
def TakenAfter (before : List Line) : Prop := ∃ line, lastText before = some line ∧ Bare line

/-- A marker that no bare marker takes as its path. -/
structure Marker (lines before : List Line) (line : Line) (content : List Char)
    (after : List Line) : Prop where
  split : lines = before ++ line :: after
  marked : headerRest line = some content
  free : ¬TakenAfter before

theorem lastText_append (first second : List Line) :
    lastText (first ++ second) = (lastText second).or (lastText first) := by
  rw [lastText, List.reverse_append, List.find?_append]
  rfl

theorem lastText_singleton (line : Line) :
    lastText [line] = if blankLine line then none else some line := by
  cases blank : blankLine line <;> simp [lastText, blank]

theorem lastText_blank {lines : List Line} (blank : ∀ line ∈ lines, blankLine line = true) :
    lastText lines = none := by
  simpa [lastText] using blank

/-- What was taken is taken with more in front. -/
theorem TakenAfter.append_left {before : List Line} (taken : TakenAfter before)
    (front : List Line) : TakenAfter (front ++ before) := by
  obtain ⟨line, last, bare⟩ := taken
  exact ⟨line, by rw [lastText_append, last, Option.some_or], bare⟩

/-- A line that is no bare marker takes nothing. -/
theorem not_takenAfter_concat {before : List Line} (free : ¬TakenAfter before) {line : Line}
    (other : ¬Bare line) : ¬TakenAfter (before ++ [line]) := by
  rintro ⟨last, found, bare⟩
  rw [lastText_append, lastText_singleton] at found
  split at found
  · exact free ⟨last, found, bare⟩
  · cases found
    exact other bare

/-- **A marker that stands free is read.** -/
theorem Marker.mem_lineWalk {lines before after : List Line} {line : Line} {content : List Char}
    (marker : Marker lines before line content after) :
    ∀ path ∈ named content after, path ∈ lineWalk lines := by
  induction lines using lineWalk.induct generalizing before with
  | case1 =>
      have split := marker.split
      simp at split
  | case2 first rest unmarked ih =>
      rw [lineWalk, unmarked]
      cases before with
      | nil =>
          obtain ⟨rfl, -⟩ := List.cons.inj marker.split
          have marked := marker.marked
          rw [unmarked] at marked
          cases marked
      | cons first' before =>
          obtain ⟨rfl, split⟩ := List.cons.inj marker.split
          exact ih ⟨split, marker.marked, fun taken => marker.free (taken.append_left [first])⟩
  | case3 first rest content' marked ih =>
      rw [lineWalk, marked]
      intro path member
      dsimp only
      cases before with
      | nil =>
          obtain ⟨rfl, rfl⟩ := List.cons.inj marker.split
          cases marked.symm.trans marker.marked
          exact List.mem_append_left _ (Option.mem_toList.mpr member)
      | cons first' before =>
          obtain ⟨rfl, split⟩ := List.cons.inj marker.split
          refine List.mem_append_right _ ?_
          have free : ¬TakenAfter before := fun taken => marker.free (taken.append_left [first])
          cases blank : blankLine content' with
          | false =>
              rw [unread, blank, if_neg (by simp)] at ih ⊢
              exact ih ⟨split, marker.marked, free⟩ path member
          | true =>
              -- the bare marker takes a line before this one
              rw [unread, if_pos blank] at ih ⊢
              cases skipped : before.dropWhile blankLine with
              | nil =>
                  rw [List.dropWhile_eq_nil_iff] at skipped
                  refine absurd ⟨first, ?_, content', marked, blank⟩ marker.free
                  rw [← List.singleton_append, lastText_append, lastText_blank skipped,
                    lastText_singleton, blankLine_of_headerRest marked]
                  rfl
              | cons next before' =>
                  have whole : before = before.takeWhile blankLine ++ next :: before' := by
                    rw [← skipped, List.takeWhile_append_dropWhile]
                  have left : (rest.dropWhile blankLine).tail = before' ++ line :: after := by
                    change rest = before ++ line :: after at split
                    rw [split, List.dropWhile_append, skipped]
                    rfl
                  refine ih ⟨left, marker.marked, fun taken => free ?_⟩ path member
                  rw [whole, ← List.singleton_append (x := next), ← List.append_assoc]
                  exact taken.append_left _

/-- **What is read stands free**, when no bare marker names another one. -/
theorem exists_marker_of_mem_lineWalk {good : List Char → Prop} (done : List Line)
    (solid : ∀ line, Bare line → ¬good (namedBy line)) {lines : List Line}
    (free : ¬TakenAfter done)
    (all : ∀ before line content after, Marker (done ++ lines) before line content after →
      ∀ path ∈ named content after, good path) :
    ∀ path ∈ lineWalk lines, ∃ before line content after,
      Marker (done ++ lines) before line content after ∧ path ∈ named content after := by
  induction lines using lineWalk.induct generalizing done with
  | case1 =>
      rw [lineWalk]
      simp
  | case2 first rest unmarked ih =>
      rw [lineWalk, unmarked]
      have next : done ++ first :: rest = (done ++ [first]) ++ rest := by simp
      rw [next] at all ⊢
      refine ih _ (not_takenAfter_concat free ?_) all
      rintro ⟨content, marked, -⟩
      rw [unmarked] at marked
      cases marked
  | case3 first rest content marked ih =>
      rw [lineWalk, marked]
      intro path member
      have here : Marker (done ++ first :: rest) done first content rest := ⟨rfl, marked, free⟩
      rcases List.mem_append.mp member with own | later
      · exact ⟨done, first, content, rest, here, Option.mem_toList.mp own⟩
      · cases blank : blankLine content with
        | false =>
            rw [unread, blank, if_neg (by simp)] at ih later
            have next : done ++ first :: rest = (done ++ [first]) ++ rest := by simp
            rw [next] at all ⊢
            refine ih _ (not_takenAfter_concat free ?_) all path later
            rintro ⟨content', marked', blank'⟩
            cases marked.symm.trans marked'
            rw [blank] at blank'
            cases blank'
        | true =>
            rw [unread, if_pos blank] at ih later
            cases split : rest.dropWhile blankLine with
            | nil =>
                rw [split, List.tail_nil, lineWalk] at later
                cases later
            | cons taken others =>
                rw [split, List.tail_cons] at ih later
                have whole : rest = rest.takeWhile blankLine ++ taken :: others := by
                  rw [← split, List.takeWhile_append_dropWhile]
                have next : done ++ first :: rest =
                    ((done ++ first :: rest.takeWhile blankLine) ++ [taken]) ++ others := by
                  conv_lhs => rw [whole]
                  simp
                have names : namedBy taken ∈ named content rest := by
                  rw [named, if_pos blank, split]
                  rfl
                have good_ := all done first content rest here _ names
                rw [next] at all ⊢
                refine ih _ ?_ all path later
                rintro ⟨last, found, bare⟩
                have solidTaken : blankLine taken = false := by
                  have head := List.head?_dropWhile_not blankLine rest
                  rwa [split, List.head?_cons] at head
                rw [lastText_append, lastText_singleton, solidTaken, if_neg (by simp),
                  Option.some_or, Option.some.injEq] at found
                exact solid last bare (found ▸ good_)

/-- **The markers of a patch.** Only good paths are found, a certain one among them, exactly when
the markers that stand free name only good ones and one of them that path. -/
theorem lineWalk_iff {good : List Char → Prop} {path : List Char}
    (solid : ∀ line, Bare line → ¬good (namedBy line)) (lines : List Line) :
    (∀ found ∈ lineWalk lines, good found) ∧ path ∈ lineWalk lines ↔
      (∀ before line content after, Marker lines before line content after →
        ∀ found ∈ named content after, good found) ∧
        ∃ before line content after, Marker lines before line content after ∧
          path ∈ named content after := by
  have free : ¬TakenAfter [] := by
    rintro ⟨line, none_, -⟩
    cases none_
  constructor
  · rintro ⟨only, there⟩
    have all : ∀ before line content after, Marker lines before line content after →
        ∀ found ∈ named content after, good found :=
      fun _ _ _ _ marker found member => only found (marker.mem_lineWalk found member)
    exact ⟨all, exists_marker_of_mem_lineWalk [] solid free all path there⟩
  · rintro ⟨all, before, line, content, after, marker, names⟩
    refine ⟨fun found member => ?_, marker.mem_lineWalk path names⟩
    obtain ⟨_, _, _, _, marker', names'⟩ :=
      exists_marker_of_mem_lineWalk [] solid free all found member
    exact all _ _ _ _ marker' found names'

end PatchPaths

end HcuAutoOpt
