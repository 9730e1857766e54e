import HcuAutoOpt.Adapters.PatchSemantics
import HcuAutoOpt.Agent.PatchIdentity
import HcuAutoOpt.Foundation.Trimming

/-!
# The lines of a patch and of its normal form

`normalize_patch_v1` cuts a patch at LF, CRLF and CR; the applier reads the lines of
`str.splitlines`, which knows more breaks. Both see the same lines where it matters when no
`index` line and no file header, which the normalizer drops or cuts, has another break in it
(`CutAlike`): what the applier reads, without the blanks and breaks at line ends, then follows
from the normal form (`readable_textLines`).
-/

set_option autoImplicit false

namespace HcuAutoOpt

namespace Promotion

open Foundation PatchIdentity

/-! ## Line ends -/

/-- A line without its break. -/
def lineBody (line : Line) : Line := line.rdropWhile isByteBreak

/-- A line without its break and the blanks before it. -/
def tidy (line : Line) : Line := stripRight (lineBody line)

/-- A character in front of a tidy line. -/
def consTidy (c : Char) (line : Line) : Line :=
  if line = [] ∧ isTrailing c = true then [] else c :: line

theorem tidy_prefix (line : Line) : tidy line <+: line :=
  (prefix_stripRight _).trans (List.rdropWhile_prefix _ _)

theorem lineBody_cons {c : Char} (plain : isByteBreak c = false) (line : Line) :
    lineBody (c :: line) = c :: lineBody line := by
  rw [lineBody, rdropWhile_cons, if_neg (by simp [plain])]
  rfl

theorem tidy_cons {c : Char} (plain : isByteBreak c = false) (line : Line) :
    tidy (c :: line) = consTidy c (tidy line) := by
  rw [tidy, lineBody_cons plain, stripRight, rdropWhile_cons]
  rfl

/-- Blanks and a break are nothing. -/
theorem tidy_eq_nil {blanks ending : List Char} (blank : ∀ c ∈ blanks, isTrailing c = true)
    (breaks : ∀ c ∈ ending, isByteBreak c = true) : tidy (blanks ++ ending) = [] := by
  refine List.rdropWhile_eq_nil_iff.mpr fun c member => ?_
  have inBlanks : lineBody (blanks ++ ending) <+: blanks := by
    rw [lineBody, List.rdropWhile, List.reverse_append, List.dropWhile_append,
      if_pos (by simpa using fun c member => breaks c member)]
    exact List.rdropWhile_prefix _ _
  exact blank c (inBlanks.subset member)

/-- A break of `bytes.splitlines` is one of `str.splitlines`. -/
theorem isTextBreak_of_isByteBreak (c : Char) (isEnd : isByteBreak c = true) :
    isTextBreak c = true := by
  rcases Bool.or_eq_true_iff.mp isEnd with feed | return_
  · rw [beq_iff_eq.mp feed]
    decide
  · rw [beq_iff_eq.mp return_]
    decide

/-- A blank breaks no line. -/
theorem isTextBreak_of_isTrailing (c : Char) (blank : isTrailing c = true) :
    isTextBreak c = false := by
  rcases Bool.or_eq_true_iff.mp blank with space | tab
  · rw [beq_iff_eq.mp space]
    decide
  · rw [beq_iff_eq.mp tab]
    decide

theorem isByteBreak_of_isTrailing (c : Char) (blank : isTrailing c = true) :
    isByteBreak c = false := by
  rw [Bool.eq_false_iff]
  intro isEnd
  have plain := isTextBreak_of_isTrailing c blank
  rw [isTextBreak_of_isByteBreak c isEnd] at plain
  cases plain

/-! ## The lines of the normalizer -/

theorem byteLines_cons {c : Char} {rest : List Char}
    (apart : ¬(c = '\r' ∧ rest.head? = some '\n')) : byteLines (c :: rest) =
      if isByteBreak c then [c] :: byteLines rest else consChar c (byteLines rest) := by
  have same : breaksAfter isByteBreak c rest = isByteBreak c := by
    rw [breaksAfter]
    cases isByteBreak c with
    | false => rfl
    | true =>
        rw [Bool.true_and, Bool.not_eq_true', Bool.eq_false_iff]
        simpa using apart
  rw [byteLines, splitKeeping, same]
  rfl

/-- **The normalizer sees the bodies of the lines**, and an empty line where the text ends with
a break. -/
theorem patchLines_eq (text : List Char) : ∃ ending, (ending = [] ∨ ending = [[]]) ∧
    patchLines text = (byteLines text).map lineBody ++ ending := by
  have step : ∀ (c : Char) (rest : List Char), ¬(c = '\r' ∧ rest.head? = some '\n') →
      (∃ ending, (ending = [] ∨ ending = [[]]) ∧
        patchLines rest = (byteLines rest).map lineBody ++ ending) →
      ∃ ending, (ending = [] ∨ ending = [[]]) ∧
        patchLines (c :: rest) = (byteLines (c :: rest)).map lineBody ++ ending := by
    rintro c rest apart ⟨ending, empty, same⟩
    rw [patchLines_cons apart, byteLines_cons apart, same]
    cases isEnd : isByteBreak c with
    | true =>
        refine ⟨ending, empty, ?_⟩
        have none_ : lineBody [c] = [] := by simp [lineBody, isEnd]
        simp [none_]
    | false =>
        cases lines : byteLines rest with
        | cons line lines' =>
            exact ⟨ending, empty, by simp [consChar, lineBody_cons isEnd]⟩
        | nil =>
            have none_ : rest = [] := splitKeeping_eq_nil.mp lines
            subst none_
            rw [lines] at same
            have ended : ending = [[]] := by
              rw [← List.nil_append ending]
              exact same.symm
            have single : lineBody [c] = [c] := lineBody_cons isEnd []
            exact ⟨[], .inl rfl, by simp [ended, consChar, single]⟩
  induction text using replaceCrLf.induct with
  | case1 => exact ⟨[[]], .inr rfl, rfl⟩
  | case2 c => exact step c [] (by simp) ⟨[[]], .inr rfl, rfl⟩
  | case3 c d rest both ih =>
      obtain ⟨rfl, rfl⟩ := both
      obtain ⟨ending, empty, same⟩ := ih
      refine ⟨ending, empty, ?_⟩
      have lines : byteLines ('\r' :: '\n' :: rest) = ['\r', '\n'] :: byteLines rest := rfl
      have none_ : lineBody ['\r', '\n'] = [] := by decide
      rw [lines, patchLines_crLf, same, List.map_cons, none_]
      rfl
  | case4 c d rest apart ih => exact step c (d :: rest) (by simpa using apart) ih

/-! ## What the applier reads -/

/-- A character in front of tidy lines: a break of `str.splitlines` is a line of its own. -/
def putTidy (c : Char) (lines : List Line) : List Line :=
  if isTextBreak c then [c] :: lines
  else match lines with
    | [] => [consTidy c []]
    | line :: lines => consTidy c line :: lines

/-- A line that the normalizer keeps as it is. -/
def isBodyLike (line : Line) : Bool := !isIndexLine line && !isFileHeader line

/-- The lines that may matter to the applier, tidy. -/
def readable (lines : List Line) : List Line := (lines.map tidy).filter isBodyLike

theorem readable_append (lines lines' : List Line) :
    readable (lines ++ lines') = readable lines ++ readable lines' := by
  rw [readable, List.map_append, List.filter_append]
  rfl

/-- **The tidy lines of a text** that starts with part of a line of the normalizer. -/
theorem map_tidy_textLines {start : List Char} (plain : ∀ c ∈ start, isByteBreak c = false)
    (rest : List Char) : (textLines (start ++ rest)).map tidy =
      start.foldr putTidy ((textLines rest).map tidy) := by
  induction start with
  | nil => rfl
  | cons c start ih =>
      obtain ⟨here, later⟩ := List.forall_mem_cons.mp plain
      have apart : c ≠ '\r' := by
        rintro rfl
        exact absurd here (by decide)
      have ends : breaksAfter isTextBreak c (start ++ rest) = isTextBreak c := by
        rw [breaksAfter, beq_eq_false_iff_ne.mpr apart, Bool.false_and, Bool.not_false,
          Bool.and_true]
      rw [List.foldr_cons, ← ih later, List.cons_append, textLines, splitKeeping, ends]
      unfold putTidy
      have alone : tidy [c] = consTidy c [] := tidy_cons here []
      cases isEnd : isTextBreak c with
      | true =>
          have unblank : isTrailing c = false := by
            rw [Bool.eq_false_iff]
            intro blank
            rw [isTextBreak_of_isTrailing c blank] at isEnd
            cases isEnd
          rw [if_pos rfl, if_pos rfl, List.map_cons, alone, consTidy,
            if_neg (by simp [unblank])]
          rfl
      | false =>
          rw [if_neg (by simp), if_neg (by simp), textLines]
          cases splitKeeping isTextBreak (start ++ rest) with
          | nil => simp [consChar, alone]
          | cons line lines => simp [consChar, tidy_cons here]

/-- Empty lines at the end stay there. -/
theorem putTidy_alike (c : Char) {lines lines' : List Line}
    (alike : TrimmedAlike List.isEmpty lines lines') :
    TrimmedAlike List.isEmpty (putTidy c lines) (putTidy c lines') := by
  have empty : ∀ line line' : Line, line.isEmpty = true → line'.isEmpty = true → line = line' := by
    intro line line' none_ none_'
    rw [List.isEmpty_iff.mp none_, List.isEmpty_iff.mp none_']
  have front : ∀ {line line' : Line} {lines lines' : List Line}, line = line' →
      TrimmedAlike List.isEmpty lines lines' →
        TrimmedAlike List.isEmpty (line :: lines) (line' :: lines') :=
    fun same later => (trimmedAlike_cons_cons empty).mpr ⟨same, later⟩
  unfold putTidy
  split
  · exact front rfl alike
  · cases lines with
    | nil =>
        cases lines' with
        | nil => exact .rfl
        | cons line' lines' =>
            obtain ⟨none_, later⟩ := trimmedAlike_nil_cons.mp alike
            exact front (by rw [List.isEmpty_iff.mp none_]) later
    | cons line lines =>
        cases lines' with
        | nil =>
            obtain ⟨none_, later⟩ := trimmedAlike_nil_cons.mp alike.symm
            exact front (by rw [List.isEmpty_iff.mp none_]) later.symm
        | cons line' lines' =>
            obtain ⟨rfl, later⟩ := (trimmedAlike_cons_cons empty).mp alike
            exact front rfl later

/-- The tidy lines of a line of the normalizer. -/
def pieces (line : Line) : List Line := line.foldr putTidy [[]]

/-- The end of a line is a line. -/
theorem OneLine.of_append {isBreak : Char → Bool} {start rest : Line} (some_ : rest ≠ [])
    (single : OneLine isBreak (start ++ rest)) : OneLine isBreak rest := by
  induction start with
  | nil => exact single
  | cons c start ih =>
      obtain ⟨d, tail, split⟩ := List.exists_cons_of_ne_nil
        (List.append_ne_nil_of_right_ne_nil start some_)
      rw [List.cons_append, split] at single
      rw [split] at ih
      exact ih (oneLine_cons.mp single).2

/-- The parts of a line: what is left of it, the blanks that go, and its break. -/
theorem exists_parts {line : Line} (single : OneLine isByteBreak line) : ∃ blanks ending,
    line = tidy line ++ (blanks ++ ending) ∧ lineBody line = tidy line ++ blanks ∧
      (∀ c ∈ lineBody line, isByteBreak c = false) ∧ (∀ c ∈ blanks, isTrailing c = true) ∧
      (∀ c ∈ ending, isByteBreak c = true) ∧ (Closed isByteBreak line → ending ≠ []) := by
  obtain ⟨body, ending, split, plain, breaks⟩ := single.breaks_last (by decide)
  have kept : lineBody line = body := by
    have last : body.rdropWhile isByteBreak = body := by
      refine List.rdropWhile_eq_self_iff.mpr fun some_ => ?_
      rw [plain _ (List.getLast_mem some_)]
      exact Bool.false_ne_true
    rw [← last, lineBody, split, List.rdropWhile, List.reverse_append, List.dropWhile_append,
      if_pos (by simpa using fun c member => breaks c member)]
    rfl
  have strip := List.rdropWhile_append_rtakeWhile (p := isTrailing) (l := body)
  refine ⟨body.rtakeWhile isTrailing, ending, ?_, ?_, ?_, ?_, breaks, ?_⟩
  · rw [tidy, kept, stripRight, ← List.append_assoc, strip]
    exact split
  · rw [tidy, kept, stripRight, strip]
  · rw [kept]
    exact plain
  · exact fun c member => List.mem_rtakeWhile_imp member
  · rintro closed rfl
    rw [List.append_nil] at split
    rw [Closed, List.getLast?_eq_some_getLast single.ne_nil, Option.any_some] at closed
    have open_ : ∀ c ∈ line, isByteBreak c = false := by
      rw [split]
      exact plain
    rw [open_ _ (List.getLast_mem single.ne_nil)] at closed
    cases closed

/-- The tidy lines of one line of the normalizer. -/
theorem map_tidy_line {line : Line} (single : OneLine isByteBreak line) :
    TrimmedAlike List.isEmpty ((textLines line).map tidy) (pieces (tidy line)) ∧
      (Closed isByteBreak line → (textLines line).map tidy = pieces (tidy line)) := by
  obtain ⟨blanks, ending, split, body, plain, blank, breaks, closed⟩ := exists_parts single
  have plain' : ∀ c ∈ tidy line, isByteBreak c = false := fun c member =>
    plain c (body ▸ List.mem_append_left blanks member)
  have whole : (textLines line).map tidy =
      (tidy line).foldr putTidy ((textLines (blanks ++ ending)).map tidy) := by
    conv_lhs => rw [split]
    exact map_tidy_textLines plain' _
  by_cases none_ : blanks ++ ending = []
  · obtain ⟨rfl, rfl⟩ := List.append_eq_nil_iff.mp none_
    refine ⟨?_, fun isClosed => absurd rfl (closed isClosed)⟩
    rw [whole, pieces]
    induction tidy line with
    | nil => exact trimmedAlike_nil_cons.mpr ⟨rfl, .rfl⟩
    | cons c start ih => exact putTidy_alike c ih
  · have agree : ∀ c ∈ blanks ++ ending, isTextBreak c = isByteBreak c := by
      intro c member
      rcases List.mem_append.mp member with inBlanks | inEnding
      · rw [isTextBreak_of_isTrailing c (blank c inBlanks),
          isByteBreak_of_isTrailing c (blank c inBlanks)]
      · rw [breaks c inEnding, isTextBreak_of_isByteBreak c (breaks c inEnding)]
    have last : textLines (blanks ++ ending) = [blanks ++ ending] := by
      rw [textLines, splitKeeping_congr agree]
      exact OneLine.of_append none_ (split ▸ single)
    have same : (textLines line).map tidy = pieces (tidy line) := by
      rw [whole, last, List.map_singleton, tidy_eq_nil blank breaks]
      rfl
    exact ⟨same ▸ .rfl, fun _ => same⟩

/-! ## What follows from the normal form -/

/-- What the applier may read of a line of the normal form. -/
def seen (normal : Line) : List Line :=
  if isFileHeader normal then [] else (pieces normal).filter isBodyLike

/-- No line that the normalizer drops or cuts has a break of `str.splitlines` in it. -/
def CutAlike (patch : List Char) : Prop :=
  ∀ line ∈ patchLines patch, isBodyLike (stripRight line) = false →
    ∀ c ∈ line, isTextBreak c = false

theorem cutAlike_of_all {patch : List Char}
    (each : ((patchLines patch).all fun line =>
      isBodyLike (stripRight line) || line.all fun c => !isTextBreak c) = true) :
    CutAlike patch := by
  intro line member notBody c inLine
  have here := List.all_eq_true.mp each line member
  rw [notBody, Bool.false_or] at here
  simpa using List.all_eq_true.mp here c inLine

theorem isFileHeader_cutAtTab {line : Line} (header : isFileHeader line = true) :
    isFileHeader (cutAtTab line) = true := by
  have kept : ∀ marker : Line, (∀ c ∈ marker, (c != '\t') = true) → marker.isPrefixOf line = true →
      marker.isPrefixOf (cutAtTab line) = true := by
    intro marker untabbed front
    obtain ⟨rest, rfl⟩ := List.isPrefixOf_iff_prefix.mp front
    rw [cutAtTab, List.takeWhile_append_of_pos untabbed]
    exact List.isPrefixOf_iff_prefix.mpr (List.prefix_append _ _)
  rcases Bool.or_eq_true_iff.mp header with old | new
  · exact Bool.or_eq_true_iff.mpr (.inl (kept _ (List.all_eq_true.mp (by decide)) old))
  · exact Bool.or_eq_true_iff.mpr (.inr (kept _ (List.all_eq_true.mp (by decide)) new))

/-- The normalizer drops or cuts a line, or takes the blanks at its end. -/
theorem seen_normalizeLine (line : Line) : (normalizeLine line).toList.flatMap seen =
    if isBodyLike (stripRight line) then (pieces (stripRight line)).filter isBodyLike else [] := by
  rw [normalizeLine, isBodyLike]
  cases index : isIndexLine (stripRight line) with
  | true => rfl
  | false =>
      cases header : isFileHeader (stripRight line) with
      | true => simp [seen, isFileHeader_cutAtTab header]
      | false => simp [seen, header]

/-- **What the applier may read of a line** follows from its normal form. -/
theorem readable_line {line : Line} (single : OneLine isByteBreak line)
    (unbroken : isBodyLike (tidy line) = false → ∀ c ∈ lineBody line, isTextBreak c = false) :
    TrimmedAlike List.isEmpty (readable (textLines line))
        ((normalizeLine (lineBody line)).toList.flatMap seen) ∧
      (Closed isByteBreak line → readable (textLines line) =
        (normalizeLine (lineBody line)).toList.flatMap seen) := by
  have known : (normalizeLine (lineBody line)).toList.flatMap seen =
      if isBodyLike (tidy line) then (pieces (tidy line)).filter isBodyLike else [] :=
    seen_normalizeLine (lineBody line)
  rw [known]
  cases bodyLike : isBodyLike (tidy line) with
  | true =>
      obtain ⟨alike, closed⟩ := map_tidy_line single
      constructor
      · have inPieces : ∀ items items' : List Line, (items ++ items').filter isBodyLike =
            items.filter isBodyLike ++ items'.filter isBodyLike := fun _ _ => List.filter_append _ _
        refine alike.map inPieces fun item none_ => ?_
        rw [List.isEmpty_iff.mp none_]
        exact ⟨[], by decide, rfl⟩
      · intro isClosed
        rw [readable, closed isClosed]
        rfl
  | false =>
      obtain ⟨blanks, ending, split, body, plain, -, breaks, -⟩ := exists_parts single
      have agree : ∀ c ∈ line, isTextBreak c = isByteBreak c := by
        intro c member
        rw [split, ← List.append_assoc, ← body] at member
        rcases List.mem_append.mp member with inBody | inEnding
        · rw [unbroken bodyLike c inBody, plain c inBody]
        · rw [breaks c inEnding, isTextBreak_of_isByteBreak c (breaks c inEnding)]
      have none_ : readable (textLines line) = [] := by
        rw [textLines, splitKeeping_congr agree, single]
        simp [readable, bodyLike]
      rw [none_]
      exact ⟨.rfl, fun _ => rfl⟩

/-- What the applier may read of lines of which only the last may lack its break. -/
theorem readable_lines {lines : List Line} (single : ∀ line ∈ lines, OneLine isByteBreak line)
    (closed : ∀ line ∈ lines.dropLast, Closed isByteBreak line)
    (unbroken : ∀ line ∈ lines, isBodyLike (tidy line) = false →
      ∀ c ∈ lineBody line, isTextBreak c = false) :
    TrimmedAlike List.isEmpty (readable (lines.flatMap textLines))
      (((lines.map lineBody).filterMap normalizeLine).flatMap seen) := by
  induction lines with
  | nil => exact .rfl
  | cons line lines ih =>
      obtain ⟨here, later⟩ := List.forall_mem_cons.mp single
      obtain ⟨unbroken, unbroken'⟩ := List.forall_mem_cons.mp unbroken
      obtain ⟨alike, same⟩ := readable_line here unbroken
      have split : ((line :: lines).map lineBody).filterMap normalizeLine =
          (normalizeLine (lineBody line)).toList ++
            (lines.map lineBody).filterMap normalizeLine := by
        rw [List.map_cons, List.filterMap_cons]
        cases normalizeLine (lineBody line) <;> rfl
      rw [split, List.flatMap_append, List.flatMap_cons, readable_append]
      cases lines with
      | nil => simpa [readable] using alike
      | cons second lines =>
          rw [List.dropLast_cons_of_ne_nil (List.cons_ne_nil _ _)] at closed
          obtain ⟨isClosed, closed'⟩ := List.forall_mem_cons.mp closed
          rw [same isClosed]
          exact (ih later closed' unbroken').append_left _

/-- **What the applier may read of a patch** follows from its normal form. -/
theorem readable_textLines {patch : List Char} (unbroken : CutAlike patch) :
    TrimmedAlike List.isEmpty (readable (textLines patch))
      ((normalizeLines (patchLines patch)).flatMap seen) := by
  obtain ⟨ending, empty, lines⟩ := patchLines_eq patch
  obtain ⟨single, closed⟩ := splitKeeping_lines isByteBreak patch
  have finer : textLines patch = (byteLines patch).flatMap textLines :=
    splitKeeping_finer isTextBreak_of_isByteBreak patch
  have unbroken' : ∀ line ∈ byteLines patch, isBodyLike (tidy line) = false →
      ∀ c ∈ lineBody line, isTextBreak c = false := by
    intro line member
    refine unbroken _ ?_
    rw [lines]
    exact List.mem_append_left _ (List.mem_map_of_mem member)
  have pieces_ : ∀ lines lines' : List Line,
      (lines ++ lines').flatMap seen = lines.flatMap seen ++ lines'.flatMap seen :=
    fun _ _ => List.flatMap_append
  have kept : ∀ line : Line, line.isEmpty = true →
      ∃ line', [line].flatMap seen = [line'] ∧ line'.isEmpty = true := by
    intro line none_
    rw [List.isEmpty_iff.mp none_]
    exact ⟨[], by decide, rfl⟩
  have trimmed : TrimmedAlike List.isEmpty (((byteLines patch).map lineBody).filterMap normalizeLine)
      (normalizeLines (patchLines patch)) := by
    have last : TrimmedAlike List.isEmpty ((patchLines patch).filterMap normalizeLine)
        (((byteLines patch).map lineBody).filterMap normalizeLine) := by
      rw [lines, List.filterMap_append]
      rcases empty with rfl | rfl
      · rw [List.filterMap_nil, List.append_nil]
        exact .rfl
      · exact trimmedAlike_concat _ rfl
    refine last.symm.trans ?_
    exact (List.rdropWhile_idempotent _ _).symm
  rw [finer]
  exact (readable_lines single closed unbroken').trans (trimmed.map pieces_ kept)

/-! ## Hunk headers without their line ends -/

theorem takeDigits_suffix (text : List Char) : (takeDigits text).2 <:+ text := by
  induction text with
  | nil => exact List.suffix_rfl
  | cons c rest ih =>
      rw [takeDigits]
      split
      · exact List.suffix_rfl
      · exact ih.trans (List.suffix_cons c rest)

/-- Digits end where a character stands that is none, whatever follows it. -/
theorem takeDigits_swap {front rest rest' : List Char} {digits : List Nat}
    (found : takeDigits (front ++ rest) = (digits, rest)) (same : rest'.head? = rest.head?) :
    takeDigits (front ++ rest') = (digits, rest') := by
  induction front generalizing digits with
  | nil =>
      cases rest with
      | nil =>
          obtain rfl := List.head?_eq_none_iff.mp same
          exact found
      | cons c rest =>
          obtain ⟨tail, rfl⟩ := List.head?_eq_some_iff.mp same
          rw [List.nil_append, takeDigits] at found ⊢
          cases value : digitValue c with
          | none =>
              rw [value] at found
              cases found
              rfl
          | some digit =>
              -- a digit is taken, so what is left is shorter
              rw [value] at found
              have shorter := (takeDigits_suffix rest).length_le
              rw [(Prod.mk.inj found).2] at shorter
              simp at shorter
  | cons c front ih =>
      rw [List.cons_append, takeDigits] at found ⊢
      cases value : digitValue c with
      | none =>
          rw [value] at found
          have longer := congrArg List.length (Prod.mk.inj found).2
          simp at longer
          omega
      | some digit =>
          rw [value] at found
          obtain ⟨taken, left⟩ := Prod.mk.inj found
          have here := ih (Prod.ext rfl left)
          simp only [here]
          rw [taken]

/-- A number at the front of a text is found whatever follows the character behind it. -/
theorem matchNumber_swap {text rest : List Char} {digits : List Nat}
    (found : matchNumber text = some (digits, rest)) : ∃ front, text = front ++ rest ∧
      ∀ rest', rest'.head? = rest.head? → matchNumber (front ++ rest') = some (digits, rest') := by
  obtain ⟨front, split⟩ := takeDigits_suffix text
  have taken : takeDigits text = (digits, rest) ∧ digits ≠ [] := by
    unfold matchNumber at found
    split at found
    · cases found
    · rename_i none_
      have taken := Option.some.inj found
      refine ⟨taken, ?_⟩
      rintro rfl
      exact none_ rest taken
  obtain ⟨taken, some_⟩ := taken
  rw [taken] at split
  refine ⟨front, split.symm, fun rest' same => ?_⟩
  have here : takeDigits (front ++ rest') = (digits, rest') := by
    refine takeDigits_swap ?_ same
    rw [split]
    exact taken
  unfold matchNumber
  rw [here]
  cases digits with
  | nil => exact absurd rfl some_
  | cons digit digits => rfl

/-- A count before a blank is found whatever follows the blank. -/
theorem matchCount_swap {text rest : List Char} {count : Option (List Nat)}
    (found : matchCount text = (count, rest)) (blank : rest.head? = some ' ') :
    ∃ front, text = front ++ rest ∧
      ∀ rest', rest'.head? = some ' ' → matchCount (front ++ rest') = (count, rest') := by
  have plain : ∀ rest' : List Char, rest'.head? = some ' ' → matchCount rest' = (none, rest') := by
    intro rest' blank'
    obtain ⟨tail, rfl⟩ := List.head?_eq_some_iff.mp blank'
    rfl
  unfold matchCount at found
  split at found
  · rename_i tail
    cases number : matchNumber tail with
    | none =>
        rw [number] at found
        cases found
        cases blank
    | some read =>
        obtain ⟨digits, left⟩ := read
        rw [number] at found
        cases found
        obtain ⟨front, rfl, swap⟩ := matchNumber_swap number
        refine ⟨',' :: front, rfl, fun rest' blank' => ?_⟩
        rw [List.cons_append, matchCount, swap rest' (blank'.trans blank.symm)]
  · cases found
    exact ⟨[], rfl, plain⟩

theorem matchText_eq_some {expected : String} {text rest : List Char} :
    matchText expected text = some rest ↔ text = expected.toList ++ rest := by
  unfold matchText
  split
  · rename_i front
    obtain ⟨tail, rfl⟩ := List.isPrefixOf_iff_prefix.mp front
    simp [eq_comm]
  · rename_i other
    simp only [reduceCtorEq, false_iff]
    rintro rfl
    exact other (List.isPrefixOf_iff_prefix.mpr (List.prefix_append _ _))

/-- **A hunk header is found whatever it ends with**, as long as it may. -/
theorem matchHunk_swap {line : Line}
    {groups : (List Nat × Option (List Nat)) × List Nat × Option (List Nat)}
    (matched : matchHunk line = some groups) : ∃ front rest, line = front ++ " @@".toList ++ rest ∧
      startsWith "@@ -" front ∧ matchEnd rest = true ∧
      ∀ rest', matchEnd rest' = true → matchHunk (front ++ " @@".toList ++ rest') = some groups := by
  simp only [matchHunk, Option.bind_eq_bind, Option.bind_eq_some_iff, matchText_eq_some] at matched
  obtain ⟨text₁, rfl, ⟨oldStart, text₂⟩, oldNumber, text₃, oldCount, ⟨newStart, text₄⟩, newNumber,
    rest, newCount, ended⟩ := matched
  obtain ⟨front₁, rfl, swap₁⟩ := matchNumber_swap oldNumber
  have oldRead : matchCount text₂ = ((matchCount text₂).1, " +".toList ++ text₃) :=
    Prod.ext rfl oldCount
  obtain ⟨front₂, rfl, swap₂⟩ := matchCount_swap oldRead rfl
  obtain ⟨front₃, rfl, swap₃⟩ := matchNumber_swap newNumber
  have newRead : matchCount text₄ = ((matchCount text₄).1, " @@".toList ++ rest) :=
    Prod.ext rfl newCount
  obtain ⟨front₄, rfl, swap₄⟩ := matchCount_swap newRead rfl
  split at ended
  · rename_i endOk
    refine ⟨"@@ -".toList ++ (front₁ ++ (front₂ ++ (" +".toList ++ (front₃ ++ front₄)))), rest,
      by simp, ?_, endOk, fun rest' endOk' => ?_⟩
    · exact startsWith_iff.mpr (List.prefix_append _ _)
    · simp only [matchHunk, Option.bind_eq_bind, Option.bind_eq_some_iff, matchText_eq_some]
      have number := swap₁ (front₂ ++ (" +".toList ++ (front₃ ++ (front₄ ++ (" @@".toList ++ rest')))))
        (by simp [List.head?_append])
      have count := swap₂ (" +".toList ++ (front₃ ++ (front₄ ++ (" @@".toList ++ rest')))) rfl
      have number' := swap₃ (front₄ ++ (" @@".toList ++ rest')) (by simp [List.head?_append])
      have count' := swap₄ (" @@".toList ++ rest') rfl
      refine ⟨_, ?_, _, number, _, ?_, _, number', rest', ?_, ?_⟩
      · simp
      · rw [count]
      · rw [count']
      · rw [if_pos endOk', ← ended, count, count']
  · cases ended

/-- The end of a hunk header without blanks and break may still end it. -/
theorem matchEnd_tidy {text : Line} (ended : matchEnd text = true) :
    matchEnd (tidy text) = true := by
  simp only [matchEnd, Bool.or_eq_true, beq_iff_eq, Bool.and_eq_true, Bool.not_eq_true',
    List.contains_eq_mem, decide_eq_false_iff_not] at ended
  rcases ended with ((rfl | rfl) | rfl) | ⟨blank, unbroken⟩
  · decide
  · decide
  · decide
  · cases kept : tidy text with
    | nil => rfl
    | cons c rest =>
        have front : c :: rest <+: text := kept ▸ tidy_prefix text
        obtain ⟨tail, rfl⟩ := front
        obtain rfl : c = ' ' := by simpa using blank
        have inside : (' ' :: rest).dropLast <+: (' ' :: rest ++ tail).dropLast := by
          cases tail with
          | nil =>
              exact ⟨[], by rw [List.append_nil, List.append_nil]⟩
          | cons d tail =>
              rw [List.dropLast_append_of_ne_nil (List.cons_ne_nil d tail)]
              exact (List.dropLast_prefix _).trans (List.prefix_append _ _)
        have unbroken' : '\n' ∉ (' ' :: rest).dropLast := fun member =>
          unbroken (inside.subset member)
        simp only [matchEnd, Bool.or_eq_true, Bool.and_eq_true, Bool.not_eq_true',
          List.contains_eq_mem, decide_eq_false_iff_not]
        exact .inr ⟨rfl, unbroken'⟩

/-- **A hunk header stays one** without the blanks and the break at its end. -/
theorem matchHunk_tidy {line : Line}
    {groups : (List Nat × Option (List Nat)) × List Nat × Option (List Nat)}
    (matched : matchHunk line = some groups) : matchHunk (tidy line) = some groups := by
  obtain ⟨front, rest, rfl, -, ended, swap⟩ := matchHunk_swap matched
  have solid : ∀ test : Char → Bool, test '@' = false →
      (front ++ " @@".toList).rdropWhile test = front ++ " @@".toList := by
    intro test kept
    refine List.rdropWhile_eq_self_iff.mpr fun some_ => ?_
    have last : (front ++ " @@".toList).getLast some_ = '@' := by
      rw [List.getLast_append_of_ne_nil _ (by decide)]
      rfl
    rw [last, kept]
    exact Bool.false_ne_true
  have whole : tidy (front ++ " @@".toList ++ rest) = front ++ " @@".toList ++ tidy rest := by
    rw [tidy, lineBody, rdropWhile_append_of_self (solid _ (by decide)), stripRight,
      rdropWhile_append_of_self (solid _ (by decide))]
    rfl
  rw [whole]
  exact swap (tidy rest) (matchEnd_tidy ended)

theorem startsWith_of_matchHunk {line : Line}
    {groups : (List Nat × Option (List Nat)) × List Nat × Option (List Nat)}
    (matched : matchHunk line = some groups) : startsWith "@@ -" line = true := by
  obtain ⟨front, rest, rfl, marked, -, -⟩ := matchHunk_swap matched
  rw [List.append_assoc]
  exact startsWith_iff.mpr ((startsWith_iff.mp marked).trans (List.prefix_append _ _))

end Promotion

end HcuAutoOpt
