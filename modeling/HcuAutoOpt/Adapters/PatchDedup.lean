import HcuAutoOpt.Adapters.PatchCleanup
import HcuAutoOpt.Agent.ProposalDispositions

/-!
# What patches with one normalized hash do

Proposals whose patches have one normalized hash count as duplicates. Two such patches have the
same hunks up to the blanks and breaks at the ends of their lines, as far as the normalizer reads
them as the applier does (`hunks_alike`). The lines that stand in the baseline cannot differ at
all, so only the added lines can.

**Duplicates.** On one baseline such patches write the same lines up to blanks and breaks at line
ends, and the same source when they add the same lines (`deduplication_up_to_line_ends`).
-/

set_option autoImplicit false

namespace HcuAutoOpt

namespace Promotion

open Foundation PatchIdentity

/-! ## Patches that are read alike -/

/-- The normalizer reads a patch as the applier does: no line that it drops or cuts has another
break in it, no line is a hunk header only without the blanks or the break at its end, and no
line of a hunk looks like a file header. -/
structure PlainlyRead (patch : List Char) : Prop where
  cut : CutAlike patch
  headers : ∀ line ∈ textLines patch, (matchHunk (tidy line)).isSome → (matchHunk line).isSome
  bodies : ∀ preamble sections, ReadsAs (textLines patch) preamble sections →
    ∀ s ∈ sections, ∀ entry ∈ s.hunk.body, ¬HeaderLike (bodyLine entry)

/-- Lines with hunks in them, of which the normalizer reads every line as the applier does. -/
def HunksIn (lines : List Line) (hunks : List (Hunk Line)) : Prop :=
  (∀ line ∈ lines, (matchHunk (tidy line)).isSome → (matchHunk line).isSome) ∧
    (∀ hunk ∈ hunks, ∀ entry ∈ hunk.body, ¬HeaderLike (bodyLine entry)) ∧
    ∃ preamble sections, ReadsAs lines preamble sections ∧ sections.map Section.hunk = hunks

theorem PlainlyRead.hunksIn {patch : List Char} (plain : PlainlyRead patch)
    {preamble : List Line} {sections : List Section}
    (reads : ReadsAs (textLines patch) preamble sections) :
    HunksIn (textLines patch) (sections.map Section.hunk) := by
  refine ⟨plain.headers, ?_, preamble, sections, reads, rfl⟩
  intro hunk member
  obtain ⟨s, inSections, rfl⟩ := List.mem_map.mp member
  exact plain.bodies preamble sections reads s inSections

section HunksIn

variable {line : Line} {lines : List Line} {hunks : List (Hunk Line)}

theorem HunksIn.of_nil (inLines : HunksIn [] hunks) : hunks = [] := by
  obtain ⟨-, -, preamble, sections, reads, rfl⟩ := inLines
  obtain ⟨-, rfl⟩ := readsAs_nil.mp reads
  rfl

theorem HunksIn.of_skipped (skipped : matchHunk line = none)
    (inLines : HunksIn (line :: lines) hunks) : HunksIn lines hunks := by
  obtain ⟨headers, bodies, preamble, sections, reads, same⟩ := inLines
  obtain ⟨others, -, reads'⟩ := reads.of_skipped skipped
  exact ⟨fun other later => headers other (List.mem_cons_of_mem line later), bodies, others,
    sections, reads', same⟩

theorem HunksIn.of_hunk {groups : (List Nat × Option (List Nat)) × List Nat × Option (List Nat)}
    (matched : matchHunk line = some groups) (inLines : HunksIn (line :: lines) hunks) :
    ∃ hunk others left, hunks = hunk :: others ∧ headerOfGroups groups = .ok hunk.toHunkHeader ∧
      hunk.Counted ∧ (∀ entry ∈ hunk.body, ¬HeaderLike (bodyLine entry)) ∧
      lines = hunk.body.map bodyLine ++ left ∧ HunksIn left others := by
  obtain ⟨headers, bodies, preamble, sections, reads, rfl⟩ := inLines
  obtain ⟨hunk, rest, others, -, rfl, read, counted, left, rfl, reads'⟩ := reads.of_hunk matched
  obtain ⟨body, bodies'⟩ := List.forall_mem_cons.mp bodies
  refine ⟨hunk, others.map Section.hunk, left, rfl, read, counted, body, rfl, ?_, bodies', rest,
    others, reads', rfl⟩
  intro other member
  exact headers other (List.mem_cons_of_mem line (List.mem_append_right _ member))

end HunksIn

/-! ## Hunks up to line ends -/

/-- Two lines of hunks: one change of lines that agree up to their ends. -/
def EntryAlike (entry entry' : Change × Line) : Prop :=
  entry.1 = entry'.1 ∧ tidy entry.2 = tidy entry'.2

/-- Two hunks that agree up to the ends of their lines. -/
structure HunkAlike (hunk hunk' : Hunk Line) : Prop where
  header : hunk.toHunkHeader = hunk'.toHunkHeader
  body : List.Forall₂ EntryAlike hunk.body hunk'.body

theorem tidy_bodyLine (entry : Change × Line) :
    tidy (bodyLine entry) = consTidy (changeSign entry.1) (tidy entry.2) := by
  refine tidy_cons ?_ entry.2
  cases entry.1 <;> decide

/-- The sign of a line stays visible. -/
theorem EntryAlike.of_tidy {entry entry' : Change × Line}
    (same : tidy (bodyLine entry) = tidy (bodyLine entry')) : EntryAlike entry entry' := by
  obtain ⟨change, text⟩ := entry
  obtain ⟨change', text'⟩ := entry'
  rw [tidy_bodyLine, tidy_bodyLine] at same
  have context : ∀ line, consTidy ' ' line = if line = [] then [] else ' ' :: line := by
    intro line
    simp [consTidy, isTrailing]
  have deleted : ∀ line, consTidy '-' line = '-' :: line := by
    intro line
    simp [consTidy, isTrailing]
  have added : ∀ line, consTidy '+' line = '+' :: line := by
    intro line
    simp [consTidy, isTrailing]
  cases change <;> cases change' <;>
    simp only [changeSign, context, deleted, added] at same
  case context.context =>
    refine ⟨rfl, ?_⟩
    split at same <;> split at same <;> simp_all
  case deleted.deleted => exact ⟨rfl, (List.cons.inj same).2⟩
  case added.added => exact ⟨rfl, (List.cons.inj same).2⟩
  all_goals
    first
      | (split at same <;> simp at same)
      | simp at same

/-- A line of a hunk may matter to the applier. -/
theorem isBodyLike_bodyLine {entry : Change × Line} (plain : ¬HeaderLike (bodyLine entry)) :
    isBodyLike (tidy (bodyLine entry)) = true := by
  have front := tidy_prefix (bodyLine entry)
  have noIndex : isIndexLine (tidy (bodyLine entry)) = false := by
    rw [Bool.eq_false_iff]
    intro index
    obtain ⟨rest, same⟩ := (List.isPrefixOf_iff_prefix.mp index).trans front
    obtain ⟨sign, -⟩ := List.cons.inj same
    cases change : entry.1 <;> rw [change] at sign <;> exact absurd sign (by decide)
  have noHeader : isFileHeader (tidy (bodyLine entry)) = false := by
    rw [Bool.eq_false_iff]
    intro header
    refine plain ?_
    rcases Bool.or_eq_true_iff.mp header with old | new
    · exact .inl (startsWith_iff.mpr ((List.isPrefixOf_iff_prefix.mp old).trans front))
    · exact .inr (startsWith_iff.mpr ((List.isPrefixOf_iff_prefix.mp new).trans front))
  rw [isBodyLike, noIndex, noHeader]
  rfl

/-- A hunk header may matter to the applier. -/
theorem isBodyLike_of_matchHunk {line : Line}
    {groups : (List Nat × Option (List Nat)) × List Nat × Option (List Nat)}
    (matched : matchHunk (tidy line) = some groups) : isBodyLike (tidy line) = true := by
  obtain ⟨rest, same⟩ := startsWith_iff.mp (startsWith_of_matchHunk matched)
  have apart : ∀ marker : String, marker.toList.head? ≠ some '@' → marker.toList ≠ [] →
      marker.toList.isPrefixOf (tidy line) = false := by
    intro marker other some_
    rw [Bool.eq_false_iff]
    intro front
    obtain ⟨rest', same'⟩ := List.isPrefixOf_iff_prefix.mp front
    refine other ?_
    rw [← List.head?_append_of_ne_nil marker.toList some_, same', ← same]
    rfl
  rw [isBodyLike, isIndexLine, isFileHeader, apart "index " (by decide) (by decide),
    apart "--- " (by decide) (by decide), apart "+++ " (by decide) (by decide)]
  rfl

theorem readable_cons (line : Line) (lines : List Line) : readable (line :: lines) =
    if isBodyLike (tidy line) then tidy line :: readable lines else readable lines := by
  rw [readable, List.map_cons, List.filter_cons]
  rfl

theorem isEmpty_eq (line line' : Line) (none_ : line.isEmpty = true) (none_' : line'.isEmpty = true) :
    line = line' := by
  rw [List.isEmpty_iff.mp none_, List.isEmpty_iff.mp none_']

/-- **The declared counts take alike bodies** from lines that may matter alike. -/
theorem bodies_alike {body : List (Change × Line)} : ∀ {body' : List (Change × Line)}
    {left left' : List Line}, (∀ entry ∈ body, ¬HeaderLike (bodyLine entry)) →
      (∀ entry ∈ body', ¬HeaderLike (bodyLine entry)) →
      (oldItems body).length = (oldItems body').length →
      (newItems body).length = (newItems body').length →
      TrimmedAlike List.isEmpty (readable (body.map bodyLine ++ left))
        (readable (body'.map bodyLine ++ left')) →
      List.Forall₂ EntryAlike body body' ∧
        TrimmedAlike List.isEmpty (readable left) (readable left') := by
  induction body with
  | nil =>
      intro body' left left' _ _ old new alike
      have none_ := body_eq_nil (List.eq_nil_of_length_eq_zero old.symm)
        (List.eq_nil_of_length_eq_zero new.symm)
      subst none_
      exact ⟨.nil, alike⟩
  | cons entry body ih =>
      intro body' left left' plain plain' old new alike
      cases body' with
      | nil =>
          have none_ := body_eq_nil (List.eq_nil_of_length_eq_zero old)
            (List.eq_nil_of_length_eq_zero new)
          cases none_
      | cons entry' body' =>
          obtain ⟨here, later⟩ := List.forall_mem_cons.mp plain
          obtain ⟨here', later'⟩ := List.forall_mem_cons.mp plain'
          rw [List.map_cons, List.map_cons, List.cons_append, List.cons_append, readable_cons,
            readable_cons, if_pos (isBodyLike_bodyLine here), if_pos (isBodyLike_bodyLine here'),
            trimmedAlike_cons_cons isEmpty_eq] at alike
          have first : EntryAlike entry entry' := .of_tidy alike.1
          simp only [length_oldItems_cons, length_newItems_cons, first.1,
            Nat.add_left_cancel_iff] at old new
          obtain ⟨others, rest⟩ := ih later later' old new alike.2
          exact ⟨.cons first others, rest⟩

/-- A line that is over where the other text goes on is no hunk header. -/
theorem matchHunk_of_tidy_eq_nil {line : Line} (none_ : tidy line = []) :
    matchHunk line = none := by
  cases matched : matchHunk line with
  | none => rfl
  | some groups =>
      have matched' := matchHunk_tidy matched
      rw [none_] at matched'
      cases matched'

theorem matchHunk_of_not_isBodyLike {line : Line} (other : isBodyLike (tidy line) = false) :
    matchHunk line = none := by
  cases matched : matchHunk line with
  | none => rfl
  | some groups =>
      rw [isBodyLike_of_matchHunk (matchHunk_tidy matched)] at other
      cases other

/-- Where nothing may matter any more there are no hunks. -/
theorem HunksIn.eq_nil {lines : List Line} {hunks : List (Hunk Line)}
    (inLines : HunksIn lines hunks) (ended : TrimmedAlike List.isEmpty [] (readable lines)) :
    hunks = [] := by
  induction lines with
  | nil => exact inLines.of_nil
  | cons line lines ih =>
      rw [readable_cons] at ended
      cases bodyLike : isBodyLike (tidy line) with
      | false =>
          rw [bodyLike] at ended
          exact ih (inLines.of_skipped (matchHunk_of_not_isBodyLike bodyLike)) ended
      | true =>
          rw [bodyLike] at ended
          obtain ⟨none_, later⟩ := trimmedAlike_nil_cons.mp ended
          exact ih (inLines.of_skipped (matchHunk_of_tidy_eq_nil (List.isEmpty_iff.mp none_))) later

/-- A hunk header on one side is the same one on the other. -/
theorem HunksIn.matchHunk_eq {line line' : Line} {lines : List Line} {hunks : List (Hunk Line)}
    {groups : (List Nat × Option (List Nat)) × List Nat × Option (List Nat)}
    (inLines : HunksIn (line :: lines) hunks) (same : tidy line = tidy line')
    (matched : matchHunk line' = some groups) : matchHunk line = some groups := by
  have matched' := matchHunk_tidy matched
  rw [← same] at matched'
  obtain ⟨groups', here⟩ := Option.isSome_iff_exists.mp
    (inLines.1 line List.mem_cons_self (Option.isSome_of_mem matched'))
  have here' := matchHunk_tidy here
  rw [matched'] at here'
  rw [here, here']

/-- **Lines that may matter alike have the same hunks** up to line ends. -/
theorem hunks_alike_of_lines (size : Nat) : ∀ {lines lines' : List Line}
    {hunks hunks' : List (Hunk Line)}, lines.length + lines'.length ≤ size →
      HunksIn lines hunks → HunksIn lines' hunks' →
      TrimmedAlike List.isEmpty (readable lines) (readable lines') →
      List.Forall₂ HunkAlike hunks hunks' := by
  induction size with
  | zero =>
      intro lines lines' hunks hunks' small inLines inLines' _
      obtain rfl := List.eq_nil_of_length_eq_zero (show lines.length = 0 by omega)
      obtain rfl := List.eq_nil_of_length_eq_zero (show lines'.length = 0 by omega)
      rw [inLines.of_nil, inLines'.of_nil]
      exact .nil
  | succ size ih =>
      intro lines lines' hunks hunks' small inLines inLines' alike
      cases lines with
      | nil =>
          rw [inLines.of_nil, inLines'.eq_nil alike]
          exact .nil
      | cons line lines =>
          cases lines' with
          | nil =>
              rw [inLines'.of_nil, inLines.eq_nil alike.symm]
              exact .nil
          | cons line' lines' =>
              simp only [List.length_cons] at small
              cases bodyLike : isBodyLike (tidy line) with
              | false =>
                  -- a line that cannot matter stands on the left
                  rw [readable_cons line, bodyLike] at alike
                  refine ih ?_ (inLines.of_skipped (matchHunk_of_not_isBodyLike bodyLike)) inLines'
                    alike
                  simp only [List.length_cons]
                  omega
              | true =>
                  cases bodyLike' : isBodyLike (tidy line') with
                  | false =>
                      rw [readable_cons line', bodyLike'] at alike
                      refine ih ?_ inLines
                        (inLines'.of_skipped (matchHunk_of_not_isBodyLike bodyLike')) alike
                      simp only [List.length_cons]
                      omega
                  | true =>
                      rw [readable_cons, readable_cons, bodyLike, bodyLike', if_pos rfl, if_pos rfl,
                        trimmedAlike_cons_cons isEmpty_eq] at alike
                      obtain ⟨same, later⟩ := alike
                      cases matched : matchHunk line with
                      | none =>
                          have matched' : matchHunk line' = none := by
                            cases other : matchHunk line' with
                            | none => rfl
                            | some groups =>
                                rw [inLines.matchHunk_eq same other] at matched
                                cases matched
                          exact ih (by omega) (inLines.of_skipped matched)
                            (inLines'.of_skipped matched') later
                      | some groups =>
                          have matched' := inLines'.matchHunk_eq same.symm matched
                          obtain ⟨hunk, others, left, rfl, read, counted, plain, rfl, rest⟩ :=
                            inLines.of_hunk matched
                          obtain ⟨hunk', others', left', rfl, read', counted', plain', rfl, rest'⟩ :=
                            inLines'.of_hunk matched'
                          have header := Except.ok.inj (read.symm.trans read')
                          have old : (oldItems hunk.body).length = (oldItems hunk'.body).length := by
                            rw [counted.1, counted'.1, header]
                          have new : (newItems hunk.body).length = (newItems hunk'.body).length := by
                            rw [counted.2, counted'.2, header]
                          obtain ⟨bodies, later⟩ := bodies_alike plain plain' old new later
                          refine .cons ⟨header, bodies⟩ (ih ?_ rest rest' later)
                          simp only [List.length_append] at small
                          omega

/-- **Patches with one normal form have the same hunks** up to line ends. -/
theorem hunks_alike {patch patch' : List Char} (plain : PlainlyRead patch)
    (plain' : PlainlyRead patch') (same : normalForm patch = normalForm patch')
    {preamble preamble' : List Line} {sections sections' : List Section}
    (reads : ReadsAs (textLines patch) preamble sections)
    (reads' : ReadsAs (textLines patch') preamble' sections') :
    List.Forall₂ HunkAlike (sections.map Section.hunk) (sections'.map Section.hunk) := by
  refine hunks_alike_of_lines _ (le_refl _) (plain.hunksIn reads) (plain'.hunksIn reads') ?_
  have alike := readable_textLines plain.cut
  rw [normalizeLines_eq_of_normalForm same] at alike
  exact alike.trans (readable_textLines plain'.cut).symm

/-! ## What the hunks write -/

/-- Lines that agree up to the blanks and the breaks at their ends. -/
def SameButEnd (line line' : Line) : Prop := tidy line = tidy line'

/-- The lines that a body adds. -/
def addedItems (body : List (Change × Line)) : List Line :=
  (body.filter fun entry => decide (entry.1 = .added)).map Prod.snd

/-- The lines that hunks add. -/
def addedLines (hunks : List (Hunk Line)) : List Line :=
  hunks.flatMap fun hunk => addedItems hunk.body

theorem addedItems_cons (change : Change) (line : Line) (body : List (Change × Line)) :
    addedItems ((change, line) :: body) =
      if change = .added then line :: addedItems body else addedItems body := by
  cases change <;> rfl

theorem addedLines_cons (hunk : Hunk Line) (hunks : List (Hunk Line)) :
    addedLines (hunk :: hunks) = addedItems hunk.body ++ addedLines hunks :=
  List.flatMap_cons

/-- Two lines of hunks: one change, whose added lines are related. -/
def EntryRelated (related : Line → Line → Prop) (entry entry' : Change × Line) : Prop :=
  entry.1 = entry'.1 ∧ (entry.1 = .added → related entry.2 entry'.2)

/-- Two hunks of the same ranges, whose added lines are related one by one. -/
structure HunkRelated (related : Line → Line → Prop) (hunk hunk' : Hunk Line) : Prop where
  header : hunk.toHunkHeader = hunk'.toHunkHeader
  body : List.Forall₂ (EntryRelated related) hunk.body hunk'.body

theorem HunkAlike.related {hunk hunk' : Hunk Line} (alike : HunkAlike hunk hunk') :
    HunkRelated SameButEnd hunk hunk' :=
  ⟨alike.header, alike.body.imp fun _ _ same => ⟨same.1, fun _ => same.2⟩⟩

section Related

variable {related : Line → Line → Prop}

theorem length_addedItems {body body' : List (Change × Line)}
    (alike : List.Forall₂ (EntryRelated related) body body') :
    (addedItems body).length = (addedItems body').length := by
  induction alike with
  | nil => rfl
  | @cons entry entry' body body' first _ ih =>
      obtain ⟨change, line⟩ := entry
      obtain ⟨change', line'⟩ := entry'
      obtain rfl : change = change' := first.1
      rw [addedItems_cons, addedItems_cons]
      split <;> simp [ih]

/-- **Bodies whose old items stand in one place** write related lines, and the same lines exactly
when they add the same. -/
theorem newItems_related (same_ : ∀ line, related line line) {body body' : List (Change × Line)}
    (alike : List.Forall₂ (EntryRelated related) body body') : ∀ {items : List Line},
      oldItems body <+: items → oldItems body' <+: items →
      List.Forall₂ related (newItems body) (newItems body') ∧
        (newItems body = newItems body' ↔ addedItems body = addedItems body') := by
  induction alike with
  | nil => exact fun _ _ => ⟨.nil, Iff.rfl⟩
  | @cons entry entry' body body' first _ ih =>
      intro items stands stands'
      obtain ⟨change, line⟩ := entry
      obtain ⟨change', line'⟩ := entry'
      obtain ⟨changes, here⟩ := first
      obtain rfl : change = change' := changes
      cases change with
      | context =>
          -- both lines stand in the baseline
          obtain ⟨rest, rfl⟩ := stands
          obtain ⟨standing, following⟩ := List.cons_prefix_cons.mp stands'
          obtain rfl : line' = line := standing
          obtain ⟨others, exactly⟩ := ih (List.prefix_append _ rest) following
          exact ⟨.cons (same_ line') others, (List.cons_inj_right line').trans exactly⟩
      | deleted =>
          obtain ⟨rest, rfl⟩ := stands
          exact ih (List.prefix_append _ rest) (List.cons_prefix_cons.mp stands').2
      | added =>
          obtain ⟨others, exactly⟩ := ih stands stands'
          refine ⟨.cons (here rfl) others, ?_⟩
          change line :: newItems body = line' :: newItems body' ↔
            line :: addedItems body = line' :: addedItems body'
          rw [List.cons.injEq, List.cons.injEq, exactly]

/-- **Hunks of the same ranges** write related lines, and the same lines exactly when they add
the same. -/
theorem walks_related (same_ : ∀ line, related line line) {baselineLines : List Line}
    {hunks hunks' : List (Hunk Line)} (alike : List.Forall₂ (HunkRelated related) hunks hunks') :
    ∀ {progress progress' after after' : Progress},
      progress.sourceIndex = progress'.sourceIndex → Walks baselineLines progress hunks after →
      Walks baselineLines progress' hunks' after' →
      after.sourceIndex = after'.sourceIndex ∧ ∃ written written',
        after.output = progress.output ++ written ∧
          after'.output = progress'.output ++ written' ∧
          List.Forall₂ related written written' ∧
          (written = written' ↔ addedLines hunks = addedLines hunks') := by
  induction alike with
  | nil =>
      intro progress progress' after after' same walks walks'
      obtain rfl : after = progress := walks
      obtain rfl : after' = progress' := walks'
      exact ⟨same, [], [], by simp, by simp, .nil, by simp [addedLines]⟩
  | @cons hunk hunk' hunks hunks' first _ ih =>
      intro progress progress' after after' same walks walks'
      obtain ⟨found, walks⟩ := walks
      obtain ⟨found', walks'⟩ := walks'
      obtain ⟨header, bodies⟩ := first
      have starts : hunk'.oldStart = hunk.oldStart := by rw [header]
      have counts : hunk'.oldCount = hunk.oldCount := by rw [header]
      have stands' := found'.stands
      rw [starts] at stands'
      obtain ⟨items, exactly⟩ := newItems_related same_ bodies found.stands stands'
      have same' : (afterHunk baselineLines progress hunk).sourceIndex =
          (afterHunk baselineLines progress' hunk').sourceIndex := by
        simp only [afterHunk, starts, counts]
      obtain ⟨ends, written, written', output, output', others, exactly'⟩ := ih same' walks walks'
      refine ⟨ends, (baselineLines.take (hunk.oldStart - 1)).drop progress.sourceIndex ++
          newItems hunk.body ++ written,
        (baselineLines.take (hunk.oldStart - 1)).drop progress.sourceIndex ++
          newItems hunk'.body ++ written', ?_, ?_, ?_, ?_⟩
      · rw [output, afterHunk]
        simp
      · rw [output', afterHunk, starts, ← same]
        simp
      · refine List.rel_append (List.rel_append ?_ items) others
        exact List.forall₂_same.mpr fun line _ => same_ line
      · have lengths := List.Forall₂.length_eq items
        rw [List.append_assoc, List.append_assoc, List.append_cancel_left_eq,
          List.append_eq_append_iff_of_size_eq_left lengths, exactly, exactly', addedLines_cons,
          addedLines_cons, List.append_eq_append_iff_of_size_eq_left (length_addedItems bodies)]

end Related

/-! ## Lines that have their breaks -/

/-- A break other than a carriage return, which a line feed may still follow. -/
def isFullBreak (c : Char) : Bool := isTextBreak c && c != '\r'

/-- Every line of a patch has its break, and none has only a carriage return. -/
def LinesEnded (patch : List Char) : Prop := ∀ line ∈ textLines patch, Closed isFullBreak line

/-- A line that ends with a line feed and has no other. -/
def LineFeedEnded (line : Line) : Prop := ∃ start, line = start ++ ['\n'] ∧ '\n' ∉ start

/-- Nothing of a line follows its break. -/
theorem OneLine.break_last {start rest : Line} {c : Char} (isEnd : isFullBreak c = true)
    (single : OneLine isTextBreak (start ++ c :: rest)) : rest = [] := by
  have single' := OneLine.of_append (List.cons_ne_nil c rest) single
  cases rest with
  | nil => rfl
  | cons d rest =>
      obtain ⟨isBreak, full⟩ := Bool.and_eq_true_iff.mp isEnd
      have continues := (oneLine_cons.mp single').1
      rw [breaksAfter, isBreak, beq_eq_false_iff_ne.mpr (bne_iff_ne.mp full)] at continues
      cases continues

/-- **Ended lines that agree up to their ends** are the same, or both end with a line feed. -/
theorem eq_or_lineFeedEnded {line line' : Line}
    (single : OneLine isTextBreak (bodyLine (.added, line)))
    (single' : OneLine isTextBreak (bodyLine (.added, line')))
    (closed : Closed isFullBreak (bodyLine (.added, line)))
    (closed' : Closed isFullBreak (bodyLine (.added, line')))
    (same : SameButEnd line line') :
    line = line' ∨ LineFeedEnded line ∧ LineFeedEnded line' := by
  have ends : ∀ {line : Line}, Closed isFullBreak (bodyLine (.added, line)) →
      ∃ start c, line = start ++ [c] ∧ isFullBreak c = true := by
    intro line closed
    rcases List.eq_nil_or_concat' line with rfl | ⟨start, c, rfl⟩
    · cases closed
    · refine ⟨start, c, rfl, ?_⟩
      rw [Closed, bodyLine, ← List.cons_append, List.getLast?_concat] at closed
      exact closed
  -- a line whose break is not a line feed is tidy, and nothing follows that break
  have whole : ∀ {line line' : Line} {start : Line} {c : Char}, line = start ++ [c] →
      isFullBreak c = true → c ≠ '\n' → OneLine isTextBreak (bodyLine (.added, line')) →
      tidy line = tidy line' → line = line' := by
    intro line line' start c split isEnd other single' same
    obtain ⟨isBreak, full⟩ := Bool.and_eq_true_iff.mp isEnd
    have plain : isByteBreak c = false := by
      simpa [isByteBreak, other] using bne_iff_ne.mp full
    have unblank : isTrailing c = false := by
      rw [Bool.eq_false_iff]
      intro blank
      rw [isTextBreak_of_isTrailing c blank] at isBreak
      cases isBreak
    have kept : tidy line = line := by
      rw [tidy, lineBody, split, List.rdropWhile_concat_neg _ _ _ (by simp [plain]), stripRight,
        List.rdropWhile_concat_neg _ _ _ (by simp [unblank])]
    obtain ⟨rest, here⟩ := tidy_prefix line'
    rw [← same, kept, split, List.append_assoc] at here
    have single'' : OneLine isTextBreak ('+' :: start ++ c :: rest) := by
      rw [← here] at single'
      exact single'
    rw [split, ← here, OneLine.break_last isEnd single'']
    rfl
  have fed : ∀ {line start : Line}, line = start ++ ['\n'] →
      OneLine isTextBreak (bodyLine (.added, line)) → LineFeedEnded line := by
    intro line start split single
    refine ⟨start, split, fun member => ?_⟩
    obtain ⟨before, after, rfl⟩ := List.append_of_mem member
    have single'' : OneLine isTextBreak ('+' :: before ++ '\n' :: (after ++ ['\n'])) := by
      rw [split] at single
      simpa [bodyLine, changeSign] using single
    have none_ := OneLine.break_last (by decide) single''
    simp at none_
  obtain ⟨start, c, split, isEnd⟩ := ends closed
  obtain ⟨start', c', split', isEnd'⟩ := ends closed'
  by_cases feed : c = '\n'
  · by_cases feed' : c' = '\n'
    · subst feed feed'
      exact .inr ⟨fed split single, fed split' single'⟩
    · exact .inl (whole split' isEnd' feed' single same.symm).symm
  · exact .inl (whole split isEnd feed single' same)

/-- **Lines that differ only where they end with a line feed** are the lines of their text. -/
theorem flatten_injective {lines lines' : List Line}
    (related : List.Forall₂ (fun line line' => line = line' ∨ LineFeedEnded line ∧
      LineFeedEnded line') lines lines') (same : lines.flatten = lines'.flatten) :
    lines = lines' := by
  have first : ∀ {start rest : Line}, '\n' ∉ start →
      (start ++ '\n' :: rest).takeWhile (fun c => c != '\n') = start := by
    intro start rest fed
    rw [List.takeWhile_append_of_pos, List.takeWhile_cons_of_neg (by simp), List.append_nil]
    rintro c member
    rw [bne_iff_ne]
    rintro rfl
    exact fed member
  induction related with
  | nil => rfl
  | @cons line line' lines lines' here _ ih =>
      rw [List.flatten_cons, List.flatten_cons] at same
      rcases here with rfl | ⟨⟨start, rfl, fed⟩, start', rfl, fed'⟩
      · rw [ih (List.append_cancel_left same)]
      · rw [List.append_assoc, List.append_assoc] at same
        have starts := congrArg (List.takeWhile fun c => c != '\n') same
        rw [List.singleton_append, List.singleton_append, first fed, first fed'] at starts
        subst starts
        rw [ih (List.append_cancel_left (List.append_cancel_left same))]

/-! ## Sources of patches with one hash -/

/-- `normalized_patch_hash_v1`. -/
def normalizedPatchHash (sha256 : List Char → String) (patch : List Char) :
    Except PatchIdentityError String := do
  let normal ← normalizePatch patch
  return "sha256:" ++ sha256 normal

/-- The lines that a patch makes of a baseline: kept, context and added lines, in order. -/
def Writes (baseline patch : List Char) (lines added : List Line) : Prop :=
  ∃ preamble sections progress, ReadsAs (textLines patch) preamble sections ∧
    Walks (byteLines baseline) ⟨[], 0⟩ (sections.map Section.hunk) progress ∧
    lines = progress.output ++ (byteLines baseline).drop progress.sourceIndex ∧
    added = addedLines (sections.map Section.hunk)

/-- Two patches make one source up to line ends: they write the same lines up to the blanks and
the breaks at their ends, the same source when they add the same lines, and, when the lines of
both have their breaks, only then. -/
def SameUpToLineEnds (baseline patch patch' candidate candidate' : List Char) : Prop :=
  ∃ lines lines' added added', Writes baseline patch lines added ∧
    Writes baseline patch' lines' added' ∧ candidate = lines.flatten ∧
    candidate' = lines'.flatten ∧ List.Forall₂ SameButEnd lines lines' ∧
    (added = added' → candidate = candidate') ∧
    (LinesEnded patch → LinesEnded patch' → candidate = candidate' → added = added')

/-- Patches that were hashed alike have one normal form. -/
theorem normalForm_eq_of_hash {sha256 : List Char → String} (injective : Function.Injective sha256)
    {patch patch' : List Char} (text : '\x00' ∉ patch) (text' : '\x00' ∉ patch')
    (same : normalizedPatchHash sha256 patch = normalizedPatchHash sha256 patch') :
    normalForm patch = normalForm patch' := by
  rw [normalizedPatchHash, normalizedPatchHash, normalizePatch_eq_ok text,
    normalizePatch_eq_ok text'] at same
  have texts : "sha256:" ++ sha256 (normalForm patch) = "sha256:" ++ sha256 (normalForm patch') :=
    Except.ok.inj same
  refine injective (String.toList_injective ?_)
  have lists := congrArg String.toList texts
  rw [String.toList_append, String.toList_append] at lists
  exact List.append_cancel_left lists

/-- Alike hunks of ended lines add lines that are the same or both end with a line feed. -/
theorem HunkAlike.related_of_ended {hunk hunk' : Hunk Line} (alike : HunkAlike hunk hunk')
    (ended : ∀ entry ∈ hunk.body, OneLine isTextBreak (bodyLine entry) ∧
      Closed isFullBreak (bodyLine entry))
    (ended' : ∀ entry ∈ hunk'.body, OneLine isTextBreak (bodyLine entry) ∧
      Closed isFullBreak (bodyLine entry)) :
    HunkRelated (fun line line' => line = line' ∨ LineFeedEnded line ∧ LineFeedEnded line')
      hunk hunk' := by
  refine ⟨alike.header, ?_⟩
  have bodies := alike.body
  generalize hunk.body = body at bodies ended
  generalize hunk'.body = body' at bodies ended'
  induction bodies with
  | nil => exact .nil
  | @cons entry entry' body body' first _ ih =>
      obtain ⟨here, later⟩ := List.forall_mem_cons.mp ended
      obtain ⟨here', later'⟩ := List.forall_mem_cons.mp ended'
      refine .cons ⟨first.1, fun added => ?_⟩ (ih later later')
      obtain ⟨change, line⟩ := entry
      obtain ⟨change', line'⟩ := entry'
      obtain rfl : change = .added := added
      obtain rfl : change' = .added := first.1.symm
      exact eq_or_lineFeedEnded here.1 here'.1 here.2 here'.2 first.2

/-- The lines of hunks are lines of their patch. -/
theorem bodyLine_mem {lines preamble : List Line} {sections : List Section}
    (reads : ReadsAs lines preamble sections) :
    ∀ hunk ∈ sections.map Section.hunk, ∀ entry ∈ hunk.body, bodyLine entry ∈ lines := by
  intro hunk member entry inBody
  obtain ⟨s, inSections, rfl⟩ := List.mem_map.mp member
  rw [reads.split]
  refine List.mem_append_right _ (List.mem_flatMap.mpr ⟨s, inSections, ?_⟩)
  exact List.mem_cons_of_mem _ (List.mem_append_left _ (List.mem_map_of_mem inBody))

theorem LinesEnded.bodies {patch : List Char} (ended : LinesEnded patch) {preamble : List Line}
    {sections : List Section} (reads : ReadsAs (textLines patch) preamble sections) :
    ∀ hunk ∈ sections.map Section.hunk, ∀ entry ∈ hunk.body,
      OneLine isTextBreak (bodyLine entry) ∧ Closed isFullBreak (bodyLine entry) :=
  fun hunk member entry inBody =>
    have inLines := bodyLine_mem reads hunk member entry inBody
    ⟨(splitKeeping_lines isTextBreak patch).1 _ inLines, ended _ inLines⟩

/-- **Patches with one normal form make one source up to line ends**, where the normalizer reads
them as the applier does. -/
theorem sameUpToLineEnds {baseline expectedPath patch patch' candidate candidate' : List Char}
    (plain : PlainlyRead patch) (plain' : PlainlyRead patch')
    (applied : applySingleFileUnifiedPatch baseline patch expectedPath = .ok candidate)
    (applied' : applySingleFileUnifiedPatch baseline patch' expectedPath = .ok candidate')
    (same : normalForm patch = normalForm patch') :
    SameUpToLineEnds baseline patch patch' candidate candidate' := by
  obtain ⟨-, -, -, preamble, sections, reads, -, after, walks, rfl⟩ :=
    applySingleFileUnifiedPatch_eq_ok.mp applied
  obtain ⟨-, -, -, preamble', sections', reads', -, after', walks', rfl⟩ :=
    applySingleFileUnifiedPatch_eq_ok.mp applied'
  have alike := hunks_alike plain plain' same reads reads'
  have same_ : ∀ line, SameButEnd line line := fun _ => rfl
  obtain ⟨ends, written, written', output, output', lines, exactly⟩ :=
    walks_related same_ (alike.imp fun _ _ here => here.related) rfl walks walks'
  rw [List.nil_append] at output output'
  refine ⟨_, _, _, _, ⟨preamble, sections, after, reads, walks, rfl, rfl⟩,
    ⟨preamble', sections', after', reads', walks', rfl, rfl⟩, rfl, rfl, ?_, ?_, ?_⟩
  · rw [output, output', ends]
    exact List.rel_append lines (List.forall₂_same.mpr fun line _ => same_ line)
  · intro added
    rw [output, output', ends, exactly.mpr added]
  · intro ended ended' sources
    have bodies := ended.bodies reads
    have bodies' := ended'.bodies reads'
    have related : List.Forall₂ (HunkRelated fun line line' => line = line' ∨
        LineFeedEnded line ∧ LineFeedEnded line') (sections.map Section.hunk)
        (sections'.map Section.hunk) := by
      generalize sections.map Section.hunk = hunks at alike bodies
      generalize sections'.map Section.hunk = hunks' at alike bodies'
      induction alike with
      | nil => exact .nil
      | cons first _ ih =>
          obtain ⟨here, later⟩ := List.forall_mem_cons.mp bodies
          obtain ⟨here', later'⟩ := List.forall_mem_cons.mp bodies'
          exact .cons (first.related_of_ended here here') (ih later later')
    obtain ⟨-, _, _, output₂, output₂', lines₂, -⟩ :=
      walks_related (fun _ => .inl rfl) related rfl walks walks'
    rw [List.nil_append] at output₂ output₂'
    obtain rfl := output.symm.trans output₂
    obtain rfl := output'.symm.trans output₂'
    refine exactly.mp (flatten_injective lines₂ ?_)
    rw [output, output', ends, List.flatten_append, List.flatten_append] at sources
    exact List.append_cancel_right sources

/-- **Deduplication up to line ends.** Patches of one file that the applier accepts and that have
one normalized hash make one source up to line ends, where the normalizer reads them as the
applier does; and a proposal that is marked as a duplicate carries such a patch, compared with
the patch of the proposal that it is said to duplicate. -/
theorem deduplication_up_to_line_ends {sha256 : List Char → String}
    (injective : Function.Injective sha256) :
    (∀ baseline expectedPath patch patch' candidate candidate', PlainlyRead patch →
      PlainlyRead patch' →
      applySingleFileUnifiedPatch baseline patch expectedPath = .ok candidate →
      applySingleFileUnifiedPatch baseline patch' expectedPath = .ok candidate' →
      normalizedPatchHash sha256 patch = normalizedPatchHash sha256 patch' →
      SameUpToLineEnds baseline patch patch' candidate candidate') ∧
    ∀ (patches : Uuid → List Char) (proposals : List Agent.CandidateProposalRef),
      (∀ proposal ∈ proposals, normalizedPatchHash sha256 (patches proposal.proposalId) =
        .ok proposal.normalizedPatchHash) →
      ∀ proposal ∈ Agent.finalizeProposalDispositions proposals, ∀ retainedId,
        proposal.disposition = .duplicate retainedId →
        PlainlyRead (patches proposal.proposalId) → PlainlyRead (patches retainedId) →
        ∀ baseline expectedPath candidate candidate',
          applySingleFileUnifiedPatch baseline (patches proposal.proposalId) expectedPath =
            .ok candidate →
          applySingleFileUnifiedPatch baseline (patches retainedId) expectedPath =
            .ok candidate' →
          SameUpToLineEnds baseline (patches proposal.proposalId) (patches retainedId) candidate
            candidate' := by
  have pairs : ∀ baseline expectedPath patch patch' candidate candidate', PlainlyRead patch →
      PlainlyRead patch' →
      applySingleFileUnifiedPatch baseline patch expectedPath = .ok candidate →
      applySingleFileUnifiedPatch baseline patch' expectedPath = .ok candidate' →
      normalizedPatchHash sha256 patch = normalizedPatchHash sha256 patch' →
      SameUpToLineEnds baseline patch patch' candidate candidate' := by
    intro baseline expectedPath patch patch' candidate candidate' plain plain' applied applied' same
    obtain ⟨⟨-, text⟩, -⟩ := applySingleFileUnifiedPatch_eq_ok.mp applied
    obtain ⟨⟨-, text'⟩, -⟩ := applySingleFileUnifiedPatch_eq_ok.mp applied'
    exact sameUpToLineEnds plain plain' applied applied'
      (normalForm_eq_of_hash injective text text' same)
  refine ⟨pairs, ?_⟩
  intro patches proposals hashed proposal member retainedId duplicate plain plain' baseline
    expectedPath candidate candidate' applied applied'
  obtain ⟨⟨original, inProposals, result⟩, names⟩ :=
    Agent.madeOf_finalized proposals proposal member
  obtain ⟨retained, inProposals', rfl, hashes⟩ := names retainedId duplicate
  refine pairs _ _ _ _ _ _ plain plain' applied applied' ?_
  have carried : normalizedPatchHash sha256 (patches proposal.proposalId) =
      .ok proposal.normalizedPatchHash := by
    rw [result]
    exact hashed original inProposals
  rw [carried, hashed retained inProposals', hashes]

/-- The patch `replacingPatch` with a blank behind the line that it adds. -/
def blankedPatch : List Char := "--- a/f\n+++ b/f\n@@ -1,2 +1,2 @@\n a\n-b\n+c \n".toList

/-- The section of `blankedPatch`. -/
def blankedSection : Section where
  headerLine := "@@ -1,2 +1,2 @@\n".toList
  hunk := ⟨⟨1, 2, 1, 2⟩, [(.context, "a\n".toList), (.deleted, "b\n".toList),
    (.added, "c \n".toList)]⟩
  rest := []

/-- A patch of one section is read plainly when its lines say so. -/
theorem plainlyRead_of_reading {patch : List Char} {preamble : List Line} {s : Section}
    (reads : ReadsAs (textLines patch) preamble [s]) (cut : CutAlike patch)
    (headers : ∀ line ∈ textLines patch, (matchHunk (tidy line)).isSome →
      (matchHunk line).isSome)
    (bodies : ∀ entry ∈ s.hunk.body, ¬HeaderLike (bodyLine entry)) : PlainlyRead patch where
  cut := cut
  headers := headers
  bodies preamble' sections' reads' s' member := by
    obtain ⟨-, rfl⟩ := reads.unique _ (le_refl _) reads'
    obtain rfl := List.mem_singleton.mp member
    exact bodies

theorem blankedPatch_reads : ReadsAs (textLines blankedPatch)
    ["--- a/f\n".toList, "+++ b/f\n".toList] [blankedSection] where
  split := by decide
  preamble := by decide
  sections := by
    intro s present
    obtain rfl := List.mem_singleton.mp present
    have groups : matchHunk blankedSection.headerLine =
        some (([1], some [2]), [1], some [2]) := by decide +kernel
    exact ⟨⟨_, groups, rfl⟩, ⟨rfl, rfl⟩, fun _ none_ => (List.not_mem_nil none_).elim⟩

/-- Two patches that differ in a blank behind an added line make one source up to line ends. -/
theorem deduplication_up_to_line_ends_blanked :
    SameUpToLineEnds smallFile replacingPatch blankedPatch "a\nc\n".toList "a\nc \n".toList := by
  have lines : textLines replacingPatch = lfLines replacingPatch := by decide
  have plain : PlainlyRead replacingPatch := by
    refine plainlyRead_of_reading (lines ▸ replacingPatch_reads) ?_ ?_ ?_
    · exact cutAlike_of_all (by decide)
    · decide +kernel
    · decide
  have plain' : PlainlyRead blankedPatch := by
    refine plainlyRead_of_reading blankedPatch_reads ?_ ?_ ?_
    · exact cutAlike_of_all (by decide)
    · decide +kernel
    · decide
  exact (deduplication_up_to_line_ends fun _ _ => String.ofList_injective).1 smallFile "f".toList
    _ _ _ _ plain plain' (by decide) (by decide) (by decide)

/-- The blank is kept in the source, though the patches have one normalized hash. -/
theorem trailing_blank_deduplicated : ¬∀ sha256 : List Char → String,
    Function.Injective sha256 → ∀ baseline expectedPath patch patch' candidate candidate',
      applySingleFileUnifiedPatch baseline patch expectedPath = .ok candidate →
      applySingleFileUnifiedPatch baseline patch' expectedPath = .ok candidate' →
      normalizedPatchHash sha256 patch = normalizedPatchHash sha256 patch' →
      candidate = candidate' := by
  intro sound
  have same := sound String.ofList (fun _ _ => String.ofList_injective) smallFile "f".toList
    replacingPatch blankedPatch "a\nc\n".toList "a\nc \n".toList (by decide) (by decide)
    (by decide)
  exact absurd same (by decide)

end Promotion

end HcuAutoOpt
