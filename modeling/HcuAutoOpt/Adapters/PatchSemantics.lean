import HcuAutoOpt.Adapters.UnifiedPatch

/-!
# What a patch means

A patch text reads as sections: a hunk header, the body with the declared counts, and lines up to
the next header (`ReadsAs`). It is a patch of one file when, in its lines, two headers of the path
stand before the first hunk, nothing else outside the hunks looks like a change, the ranges are
consistent, and its hunks replace lines of the baseline (`PatchOf`).

**The applier.** On orderly input the applier returns exactly the text that the patch means
(`applier_exact`). The input is orderly when the applier and the diff read the patch alike
(`ReadAlike`), or when neither gets a text from it (`Orderly`). They read it alike when the breaks
that only `str.splitlines` knows make no other file header and no other hunk, nothing that the
applier skips is a change, the new ranges are consistent, no hunk has an empty old range, and the
baseline splits at line feeds as far as the hunks read it.
-/

set_option autoImplicit false

namespace HcuAutoOpt

namespace Promotion

open Foundation

/-! ## Readings of a patch -/

/-- The sign of a change at the front of its line. -/
def changeSign : Change → Char
  | .context => ' '
  | .deleted => '-'
  | .added => '+'

/-- The line of the body of a hunk. -/
def bodyLine (entry : Change × Line) : Line := changeSign entry.1 :: entry.2

/-- A hunk in a patch: the header line, the hunk, and the lines up to the next hunk. -/
structure Section where
  headerLine : Line
  hunk : Hunk Line
  rest : List Line

/-- The lines of a section. -/
def Section.lines (s : Section) : List Line :=
  s.headerLine :: (s.hunk.body.map bodyLine ++ s.rest)

/-- A line that names the ranges of a hunk. -/
def HunkLine (line : Line) (header : HunkHeader) : Prop :=
  ∃ groups, matchHunk line = some groups ∧ headerOfGroups groups = .ok header

/-- A section whose body has the declared counts. -/
structure Section.Declared (s : Section) : Prop where
  header : HunkLine s.headerLine s.hunk.toHunkHeader
  counted : s.hunk.Counted
  skipped : ∀ line ∈ s.rest, matchHunk line = none

/-- The lines of a patch as sections after a preamble. -/
structure ReadsAs (lines preamble : List Line) (sections : List Section) : Prop where
  split : lines = preamble ++ sections.flatMap Section.lines
  preamble : ∀ line ∈ preamble, matchHunk line = none
  sections : ∀ s ∈ sections, s.Declared

/-! ## The inner loop -/

theorem expectLine_eq_ok {baselineLines : List Line} {sourceIndex : Nat} {expected line : Line}
    {exceeds differs : String} :
    expectLine baselineLines sourceIndex expected exceeds differs = .ok line ↔
      baselineLines[sourceIndex]? = some expected ∧ line = expected := by
  unfold expectLine
  cases baselineLines[sourceIndex]? with
  | none => simp
  | some found =>
      by_cases same : found = expected
      · subst same
        simp [eq_comm]
      · simp [same]

/-- An item and others stand at an index. -/
theorem cons_prefix_drop {α : Type} {items others : List α} {item : α} {index : Nat} :
    item :: others <+: items.drop index ↔
      items[index]? = some item ∧ others <+: items.drop (index + 1) := by
  by_cases inside : index < items.length
  · rw [List.drop_eq_getElem_cons inside, List.cons_prefix_cons, List.getElem?_eq_getElem inside,
      Option.some.injEq, eq_comm]
  · rw [List.drop_eq_nil_of_le (Nat.le_of_not_lt inside),
      List.getElem?_eq_none (Nat.le_of_not_lt inside)]
    simp

/-- **A turn of the inner loop** takes a line of a body whose old item stands in the baseline,
and writes its new item. -/
theorem bodyTurn_eq_ok {baselineLines : List Line} {progress progress' : Progress} {line : Line}
    {change : Change} :
    bodyTurn baselineLines progress line = .ok (change, progress') ↔
      ∃ text, line = bodyLine (change, text) ∧
        oldItems [(change, text)] <+: baselineLines.drop progress.sourceIndex ∧
        progress' = ⟨progress.output ++ newItems [(change, text)],
          progress.sourceIndex + change.oldSize⟩ := by
  unfold bodyTurn
  split
  · rename_i marked
    simp only [reduceCtorEq, false_iff, not_exists, not_and]
    rintro text rfl
    cases change <;> simp [startsWith, bodyLine, changeSign] at marked
  · split
    · rename_i expected _
      simp only [Except.bind_eq_ok, expectLine_eq_ok]
      constructor
      · rintro ⟨read, ⟨stands, rfl⟩, same⟩
        cases same
        exact ⟨read, rfl, cons_prefix_drop.mpr ⟨stands, List.nil_prefix⟩, rfl⟩
      · rintro ⟨text, same, stands, rfl⟩
        cases change <;> simp [bodyLine, changeSign] at same
        subst same
        exact ⟨_, ⟨(cons_prefix_drop.mp stands).1, rfl⟩, rfl⟩
    · rename_i expected _
      simp only [Except.bind_eq_ok, expectLine_eq_ok]
      constructor
      · rintro ⟨read, ⟨stands, rfl⟩, same⟩
        cases same
        exact ⟨read, rfl, cons_prefix_drop.mpr ⟨stands, List.nil_prefix⟩, by simp [Change.oldSize]⟩
      · rintro ⟨text, same, stands, rfl⟩
        cases change <;> simp [bodyLine, changeSign] at same
        subst same
        exact ⟨_, ⟨(cons_prefix_drop.mp stands).1, rfl⟩, by simp [Change.oldSize, pure, Except.pure]⟩
    · rename_i added _
      constructor
      · intro same
        cases same
        exact ⟨added, rfl, List.nil_prefix, rfl⟩
      · rintro ⟨text, same, -, rfl⟩
        cases change <;> simp [bodyLine, changeSign] at same
        subst same
        rfl
    · rename_i notContext notDeleted notAdded
      simp only [reduceCtorEq, false_iff, not_exists, not_and]
      rintro text rfl
      cases change
      · exact absurd rfl (notContext text)
      · exact absurd rfl (notDeleted text)
      · exact absurd rfl (notAdded text)

/-- The old items of a body stand one after another. -/
theorem oldItems_prefix {α : Type} {entry : Change × α} {body : List (Change × α)}
    {items : List α} {index : Nat} :
    oldItems (entry :: body) <+: items.drop index ↔
      oldItems [entry] <+: items.drop index ∧
        oldItems body <+: items.drop (index + entry.1.oldSize) := by
  obtain ⟨change, item⟩ := entry
  cases change <;> simp [cons_prefix_drop, Change.oldSize]

theorem newItems_cons {α : Type} (entry : Change × α) (body : List (Change × α)) :
    newItems (entry :: body) = newItems [entry] ++ newItems body := by
  obtain ⟨change, item⟩ := entry
  cases change <;> rfl

/-- **The inner loop** reads a body with the declared counts whose old items stand in the
baseline, and writes its new items. -/
theorem hunkBody_eq_ok {baselineLines : List Line} {oldCount newCount : Nat}
    (lines : List Line) : ∀ (consumedOld producedNew : Nat) (progress : Progress)
    (rest : List Line) (progress' : Progress),
      hunkBody baselineLines oldCount newCount consumedOld producedNew progress lines =
          .ok (rest, (oldCount, newCount), progress') ↔
        ∃ body, lines = body.map bodyLine ++ rest ∧
          consumedOld + (oldItems body).length = oldCount ∧
          producedNew + (newItems body).length = newCount ∧
          oldItems body <+: baselineLines.drop progress.sourceIndex ∧
          progress' = ⟨progress.output ++ newItems body,
            progress.sourceIndex + (oldItems body).length⟩ := by
  induction lines with
  | nil =>
      intro consumedOld producedNew progress rest progress'
      rw [hunkBody]
      constructor
      · intro ok
        split at ok
        · cases ok
        · cases ok
          exact ⟨[], rfl, rfl, rfl, List.nil_prefix, by simp⟩
      · rintro ⟨body, split, old, new, -, rfl⟩
        obtain ⟨none_, rfl⟩ := List.append_eq_nil_iff.mp split.symm
        obtain rfl := List.map_eq_nil_iff.mp none_
        simp only [oldItems_nil, newItems_nil, List.length_nil, Nat.add_zero] at old new
        subst old new
        simp
  | cons line lines ih =>
      intro consumedOld producedNew progress rest progress'
      rw [hunkBody]
      by_cases active : consumedOld < oldCount ∨ producedNew < newCount
      · rw [if_pos active, Except.bind_eq_ok]
        constructor
        · rintro ⟨⟨change, progress₁⟩, turn, others⟩
          obtain ⟨text, rfl, stands, rfl⟩ := bodyTurn_eq_ok.mp turn
          obtain ⟨body, rfl, old, new, following, rfl⟩ := (ih _ _ _ _ _).mp others
          refine ⟨(change, text) :: body, rfl, ?_, ?_, oldItems_prefix.mpr ⟨stands, following⟩, ?_⟩
          · rw [length_oldItems_cons, ← old, Nat.add_assoc]
          · rw [length_newItems_cons, ← new, Nat.add_assoc]
          · rw [newItems_cons (change, text) body, length_oldItems_cons]
            simp [Nat.add_assoc]
        · rintro ⟨body, split, old, new, stands, rfl⟩
          cases body with
          | nil =>
              -- a count that is not reached asks for another line
              simp only [oldItems_nil, newItems_nil, List.length_nil] at old new
              omega
          | cons entry body =>
              obtain ⟨rfl, rfl⟩ := List.cons.inj split
              obtain ⟨first, following⟩ := oldItems_prefix.mp stands
              refine ⟨(entry.1, _), bodyTurn_eq_ok.mpr ⟨entry.2, rfl, first, rfl⟩, ?_⟩
              refine (ih _ _ _ _ _).mpr ⟨body, rfl, ?_, ?_, following, ?_⟩
              · rw [← old, length_oldItems_cons, Nat.add_assoc]
              · rw [← new, length_newItems_cons, Nat.add_assoc]
              · rw [newItems_cons entry body, length_oldItems_cons]
                simp [Nat.add_assoc]
      · rw [if_neg active]
        constructor
        · intro same
          cases same
          exact ⟨[], rfl, rfl, rfl, List.nil_prefix, by simp⟩
        · rintro ⟨body, split, old, new, -, rfl⟩
          -- the counts are reached, so the body is over
          have none_ : body = [] := by
            refine body_eq_nil (List.eq_nil_of_length_eq_zero ?_)
              (List.eq_nil_of_length_eq_zero ?_) <;> omega
          subst none_
          simp only [oldItems_nil, newItems_nil, List.length_nil, Nat.add_zero] at old new
          subst old new
          simpa using split

/-! ## The outer loop -/

/-- A hunk that the applier finds after some progress. -/
structure Found (baselineLines : List Line) (progress : Progress) (hunk : Hunk Line) : Prop where
  start : 1 ≤ hunk.oldStart
  forwards : progress.sourceIndex ≤ hunk.oldStart - 1
  inside : hunk.oldStart - 1 ≤ baselineLines.length
  stands : oldItems hunk.body <+: baselineLines.drop (hunk.oldStart - 1)

/-- The progress after a hunk. -/
def afterHunk (baselineLines : List Line) (progress : Progress) (hunk : Hunk Line) : Progress :=
  ⟨progress.output ++ (baselineLines.take (hunk.oldStart - 1)).drop progress.sourceIndex ++
      newItems hunk.body,
    hunk.oldStart - 1 + hunk.oldCount⟩

/-- The progress from hunk to hunk. -/
def Walks (baselineLines : List Line) : Progress → List (Hunk Line) → Progress → Prop
  | progress, [], progress' => progress' = progress
  | progress, hunk :: hunks, progress' =>
      Found baselineLines progress hunk ∧
        Walks baselineLines (afterHunk baselineLines progress hunk) hunks progress'

theorem applyHunk_eq_ok {baselineLines : List Line} {header : HunkHeader}
    {progress progress' : Progress} {lines rest : List Line} :
    applyHunk baselineLines header progress lines = .ok (rest, progress') ↔
      ∃ hunk : Hunk Line, hunk.toHunkHeader = header ∧ hunk.Counted ∧
        lines = hunk.body.map bodyLine ++ rest ∧ Found baselineLines progress hunk ∧
        progress' = afterHunk baselineLines progress hunk := by
  simp only [applyHunk, Except.bind_eq_ok, require_eq_ok, not_or, Int.not_lt]
  constructor
  · rintro ⟨_, ⟨forwards, inside⟩, ⟨rest', counts, progress₁⟩, ok, _, counted, same⟩
    cases same
    obtain rfl : counts = (header.oldCount, header.newCount) := counted
    obtain ⟨body, split, old, new, stands, rfl⟩ := (hunkBody_eq_ok _ _ _ _ _ _).mp ok
    have start : 1 ≤ header.oldStart := by omega
    have target : ((header.oldStart : Int) - 1).toNat = header.oldStart - 1 := by omega
    rw [target] at stands
    refine ⟨⟨header, body⟩, rfl, ⟨by simpa using old, by simpa using new⟩, split,
      ⟨start, ?_, ?_, stands⟩, ?_⟩
    · change progress.sourceIndex ≤ header.oldStart - 1
      omega
    · change header.oldStart - 1 ≤ baselineLines.length
      omega
    · rw [Nat.zero_add] at old
      simp only [afterHunk, target, old]
  · rintro ⟨⟨header', body⟩, rfl, ⟨old, new⟩, rfl, found, rfl⟩
    obtain ⟨start, forwards, inside, stands⟩ := found
    simp only at start forwards inside stands old new
    have target : ((header'.oldStart : Int) - 1).toNat = header'.oldStart - 1 := by omega
    have fits : (progress.sourceIndex : Int) ≤ (header'.oldStart : Int) - 1 ∧
        (header'.oldStart : Int) - 1 ≤ baselineLines.length := by omega
    refine ⟨(), fits, (rest, (header'.oldCount, header'.newCount), _), ?_, (), rfl, rfl⟩
    refine (hunkBody_eq_ok _ _ _ _ _ _).mpr ⟨body, rfl, ?_, ?_, ?_, ?_⟩
    · rw [Nat.zero_add, old]
    · rw [Nat.zero_add, new]
    · rw [target]
      exact stands
    · simp only [target, old]

theorem ReadsAs.cons_skipped {line : Line} {lines preamble : List Line}
    {sections : List Section} (skipped : matchHunk line = none)
    (reads : ReadsAs lines preamble sections) :
    ReadsAs (line :: lines) (line :: preamble) sections where
  split := by rw [reads.split]; rfl
  preamble := List.forall_mem_cons.mpr ⟨skipped, reads.preamble⟩
  sections := reads.sections

theorem ReadsAs.cons_hunk {line : Line} {hunk : Hunk Line} {lines preamble : List Line}
    {sections : List Section} (header : HunkLine line hunk.toHunkHeader) (counted : hunk.Counted)
    (reads : ReadsAs lines preamble sections) :
    ReadsAs (line :: (hunk.body.map bodyLine ++ lines)) [] (⟨line, hunk, preamble⟩ :: sections) where
  split := by simp [reads.split, Section.lines]
  preamble := by simp
  sections := List.forall_mem_cons.mpr ⟨⟨header, counted, reads.preamble⟩, reads.sections⟩

/-- A line that is no hunk header belongs to the preamble. -/
theorem ReadsAs.of_skipped {line : Line} {lines preamble : List Line} {sections : List Section}
    (skipped : matchHunk line = none) (reads : ReadsAs (line :: lines) preamble sections) :
    ∃ others, preamble = line :: others ∧ ReadsAs lines others sections := by
  obtain ⟨split, preambleSkipped, declared⟩ := reads
  cases preamble with
  | nil =>
      cases sections with
      | nil => cases split
      | cons s sections =>
          -- the first line of a section is a hunk header
          obtain ⟨same, -⟩ := List.cons.inj split
          obtain ⟨groups, matched, -⟩ := (declared s List.mem_cons_self).header
          rw [← same, skipped] at matched
          cases matched
  | cons first others =>
      obtain ⟨rfl, rest⟩ := List.cons.inj split
      exact ⟨others, rfl, rest, (List.forall_mem_cons.mp preambleSkipped).2, declared⟩

/-- A hunk header starts a section. -/
theorem ReadsAs.of_hunk {line : Line} {lines preamble : List Line} {sections : List Section}
    {groups : (List Nat × Option (List Nat)) × List Nat × Option (List Nat)}
    (matched : matchHunk line = some groups) (reads : ReadsAs (line :: lines) preamble sections) :
    ∃ hunk rest others, preamble = [] ∧ sections = ⟨line, hunk, rest⟩ :: others ∧
      headerOfGroups groups = .ok hunk.toHunkHeader ∧ hunk.Counted ∧
      ∃ left, lines = hunk.body.map bodyLine ++ left ∧ ReadsAs left rest others := by
  obtain ⟨split, preambleSkipped, declared⟩ := reads
  cases preamble with
  | cons first preamble =>
      obtain ⟨rfl, -⟩ := List.cons.inj split
      rw [preambleSkipped line List.mem_cons_self] at matched
      cases matched
  | nil =>
      cases sections with
      | nil => cases split
      | cons s sections =>
          obtain ⟨headerLine, hunk, rest⟩ := s
          obtain ⟨⟨groups', matched', read⟩, counted, skipped⟩ := declared _ List.mem_cons_self
          obtain ⟨same, others⟩ := List.cons.inj split
          obtain rfl : line = headerLine := same
          rw [matched] at matched'
          cases matched'
          refine ⟨hunk, rest, sections, rfl, rfl, read, counted,
            rest ++ sections.flatMap Section.lines, ?_, rfl, skipped,
            (List.forall_mem_cons.mp declared).2⟩
          rw [others]
          simp [List.flatMap]

theorem bodyLine_injective {entry entry' : Change × Line}
    (same : bodyLine entry = bodyLine entry') : entry = entry' := by
  obtain ⟨change, text⟩ := entry
  obtain ⟨change', text'⟩ := entry'
  obtain ⟨signs, texts⟩ := List.cons.inj same
  have changes : change = change' := by
    cases change <;> cases change' <;> simp [changeSign] at signs ⊢
  exact Prod.ext changes texts

/-- The declared counts end a body. -/
theorem body_unique {body : List (Change × Line)} : ∀ {body' : List (Change × Line)}
    {left left' : List Line}, body.map bodyLine ++ left = body'.map bodyLine ++ left' →
      (oldItems body).length = (oldItems body').length →
        (newItems body).length = (newItems body').length → body = body' ∧ left = left' := by
  induction body with
  | nil =>
      intro body' left left' same old new
      have none_ := body_eq_nil (List.eq_nil_of_length_eq_zero old.symm)
        (List.eq_nil_of_length_eq_zero new.symm)
      subst none_
      exact ⟨rfl, same⟩
  | cons entry body ih =>
      intro body' left left' same old new
      cases body' with
      | nil =>
          have none_ := body_eq_nil (List.eq_nil_of_length_eq_zero old)
            (List.eq_nil_of_length_eq_zero new)
          cases none_
      | cons entry' body' =>
          obtain ⟨first, rest⟩ := List.cons.inj same
          obtain rfl := bodyLine_injective first
          simp only [length_oldItems_cons, length_newItems_cons, Nat.add_left_cancel_iff] at old new
          obtain ⟨rfl, rfl⟩ := ih rest old new
          exact ⟨rfl, rfl⟩

/-- No lines read as nothing. -/
theorem readsAs_nil {preamble : List Line} {sections : List Section} :
    ReadsAs [] preamble sections ↔ preamble = [] ∧ sections = [] := by
  constructor
  · intro reads
    obtain ⟨rfl, none_⟩ := List.append_eq_nil_iff.mp reads.split.symm
    cases sections with
    | nil => exact ⟨rfl, rfl⟩
    | cons s sections => simp [Section.lines] at none_
  · rintro ⟨rfl, rfl⟩
    exact ⟨rfl, by simp, by simp⟩

/-- **A patch reads in one way.** -/
theorem ReadsAs.unique (size : Nat) : ∀ {lines preamble preamble' : List Line}
    {sections sections' : List Section}, lines.length ≤ size → ReadsAs lines preamble sections →
      ReadsAs lines preamble' sections' → preamble = preamble' ∧ sections = sections' := by
  induction size with
  | zero =>
      intro lines preamble preamble' sections sections' small reads reads'
      obtain rfl := List.eq_nil_of_length_eq_zero (Nat.le_zero.mp small)
      obtain ⟨rfl, rfl⟩ := readsAs_nil.mp reads
      obtain ⟨rfl, rfl⟩ := readsAs_nil.mp reads'
      exact ⟨rfl, rfl⟩
  | succ size ih =>
      intro lines preamble preamble' sections sections' small reads reads'
      cases lines with
      | nil =>
          obtain ⟨rfl, rfl⟩ := readsAs_nil.mp reads
          obtain ⟨rfl, rfl⟩ := readsAs_nil.mp reads'
          exact ⟨rfl, rfl⟩
      | cons line lines =>
          have small : lines.length ≤ size := Nat.le_of_succ_le_succ small
          cases matched : matchHunk line with
          | none =>
              obtain ⟨others, rfl, inner⟩ := reads.of_skipped matched
              obtain ⟨others', rfl, inner'⟩ := reads'.of_skipped matched
              obtain ⟨rfl, rfl⟩ := ih small inner inner'
              exact ⟨rfl, rfl⟩
          | some groups =>
              obtain ⟨hunk, rest, others, rfl, rfl, read, counted, left, split, inner⟩ :=
                reads.of_hunk matched
              obtain ⟨hunk', rest', others', rfl, rfl, read', counted', left', split', inner'⟩ :=
                reads'.of_hunk matched
              obtain ⟨header, body⟩ := hunk
              obtain ⟨header', body'⟩ := hunk'
              obtain rfl : header = header' := Except.ok.inj (read.symm.trans read')
              obtain ⟨rfl, rfl⟩ := body_unique (split.symm.trans split')
                (counted.1.trans counted'.1.symm) (counted.2.trans counted'.2.symm)
              have shorter : left.length ≤ size := by
                rw [split, List.length_append] at small
                omega
              obtain ⟨rfl, rfl⟩ := ih shorter inner inner'
              exact ⟨rfl, rfl⟩

/-- **The outer loop** reads the lines as sections and goes from hunk to hunk. -/
theorem applyHunks_eq_ok {baselineLines : List Line} (fuel : Nat) :
    ∀ (lines : List Line) (hunkCount count : Nat) (progress progress' : Progress),
      lines.length ≤ fuel →
      (applyHunks baselineLines fuel hunkCount progress lines = .ok (count, progress') ↔
        ∃ preamble sections, ReadsAs lines preamble sections ∧
          count = hunkCount + sections.length ∧
          Walks baselineLines progress (sections.map Section.hunk) progress') := by
  have ended : ∀ fuel hunkCount count progress progress',
      applyHunks baselineLines fuel hunkCount progress [] = .ok (count, progress') ↔
        ∃ preamble sections, ReadsAs [] preamble sections ∧
          count = hunkCount + sections.length ∧
          Walks baselineLines progress (sections.map Section.hunk) progress' := by
    intro fuel hunkCount count progress progress'
    have same : applyHunks baselineLines fuel hunkCount progress [] = .ok (hunkCount, progress) := by
      cases fuel <;> rfl
    rw [same]
    constructor
    · intro here
      cases here
      exact ⟨[], [], readsAs_nil.mpr ⟨rfl, rfl⟩, rfl, rfl⟩
    · rintro ⟨preamble, sections, reads, rfl, walks⟩
      obtain ⟨-, rfl⟩ := readsAs_nil.mp reads
      obtain rfl : progress' = progress := walks
      rfl
  induction fuel with
  | zero =>
      intro lines hunkCount count progress progress' enough
      obtain rfl := List.eq_nil_of_length_eq_zero (Nat.le_zero.mp enough)
      exact ended 0 hunkCount count progress progress'
  | succ fuel ih =>
      intro lines hunkCount count progress progress' enough
      cases lines with
      | nil => exact ended (fuel + 1) hunkCount count progress progress'
      | cons line lines =>
          have enough : lines.length ≤ fuel := Nat.le_of_succ_le_succ enough
          rw [applyHunks]
          cases matched : matchHunk line with
          | none =>
              simp only [ih lines hunkCount count progress progress' enough]
              constructor
              · rintro ⟨preamble, sections, reads, rest⟩
                exact ⟨line :: preamble, sections, reads.cons_skipped matched, rest⟩
              · rintro ⟨preamble, sections, reads, rest⟩
                obtain ⟨others, -, reads'⟩ := reads.of_skipped matched
                exact ⟨others, sections, reads', rest⟩
          | some groups =>
              simp only [Except.bind_eq_ok]
              constructor
              · rintro ⟨header, read, ⟨rest, progress₁⟩, applied, others⟩
                obtain ⟨hunk, rfl, counted, rfl, found, rfl⟩ := applyHunk_eq_ok.mp applied
                have short : rest.length ≤ fuel := by
                  rw [List.length_append] at enough
                  omega
                obtain ⟨preamble, sections, reads, rfl, walks⟩ :=
                  (ih rest _ _ _ _ short).mp others
                refine ⟨[], ⟨line, hunk, preamble⟩ :: sections,
                  reads.cons_hunk ⟨groups, matched, read⟩ counted, ?_, found, walks⟩
                simp [Nat.add_comm, Nat.add_left_comm]
              · rintro ⟨preamble, sections, reads, rfl, walks⟩
                obtain ⟨hunk, rest, others, -, rfl, read, counted, left, rfl, reads'⟩ :=
                  reads.of_hunk matched
                obtain ⟨found, walks⟩ := walks
                have short : left.length ≤ fuel := by
                  rw [List.length_append] at enough
                  omega
                refine ⟨hunk.toHunkHeader, read, (left, _),
                  applyHunk_eq_ok.mpr ⟨hunk, rfl, counted, rfl, found, rfl⟩, ?_⟩
                refine (ih left _ _ _ _ short).mpr ⟨rest, others, reads', ?_, walks⟩
                simp [Nat.add_comm, Nat.add_left_comm]

/-! ## The hunks and the baseline -/

section Walks

variable {baselineLines result : List Line}

/-- A found hunk splits what is left of the baseline. -/
theorem Found.split {progress : Progress} {hunk : Hunk Line}
    (found : Found baselineLines progress hunk) (counted : hunk.Counted) :
    baselineLines.drop progress.sourceIndex =
      (baselineLines.take (hunk.oldStart - 1)).drop progress.sourceIndex ++ oldItems hunk.body ++
        baselineLines.drop (hunk.oldStart - 1 + hunk.oldCount) := by
  obtain ⟨after, here⟩ := found.stands
  have rest : baselineLines.drop (hunk.oldStart - 1 + hunk.oldCount) = after := by
    rw [← List.drop_drop, ← here, ← counted.1, List.drop_left]
  have front : baselineLines.drop progress.sourceIndex =
      (baselineLines.take (hunk.oldStart - 1)).drop progress.sourceIndex ++
        baselineLines.drop (hunk.oldStart - 1) := by
    conv_lhs => rw [← List.take_append_drop (hunk.oldStart - 1) baselineLines]
    rw [List.drop_append_of_le_length]
    rw [List.length_take]
    exact le_min found.forwards (found.forwards.trans found.inside)
  rw [front, ← here, rest, List.append_assoc]

/-- **From hunk to hunk, the applier replaces** old items by new ones, when no old range is
empty. -/
theorem walks_iff_replaces (hunks : List (Hunk Line)) : ∀ progress : Progress,
    progress.sourceIndex ≤ baselineLines.length →
    (∀ hunk ∈ hunks, hunk.Counted ∧ hunk.oldCount ≠ 0) →
      ((∃ progress', Walks baselineLines progress hunks progress' ∧
          progress'.output ++ baselineLines.drop progress'.sourceIndex = result) ↔
        (∀ hunk ∈ hunks, 1 ≤ hunk.oldStart) ∧ ∃ others,
          Replaces progress.sourceIndex (baselineLines.drop progress.sourceIndex) hunks others ∧
            progress.output ++ others = result) := by
  induction hunks with
  | nil =>
      intro progress _ _
      constructor
      · rintro ⟨progress', walks, same⟩
        obtain rfl : progress' = progress := walks
        exact ⟨by simp, _, .done _ _, same⟩
      · rintro ⟨-, others, replaces, same⟩
        obtain rfl := replaces_nil.mp replaces
        exact ⟨progress, rfl, same⟩
  | cons hunk hunks ih =>
      intro progress inside fits
      obtain ⟨counted, old⟩ := fits hunk List.mem_cons_self
      have rest := fun other later => fits other (List.mem_cons_of_mem hunk later)
      have place : hunk.place = hunk.oldStart - 1 := if_neg old
      constructor
      · rintro ⟨progress', ⟨found, walks⟩, same⟩
        have split := found.split counted
        have within : hunk.oldStart - 1 + hunk.oldCount ≤ baselineLines.length := by
          have fitting := found.stands.length_le
          rw [counted.1, List.length_drop] at fitting
          have := found.inside
          omega
        obtain ⟨starts, others, replaces, same'⟩ :=
          (ih (afterHunk baselineLines progress hunk) within rest).mp ⟨progress', walks, same⟩
        refine ⟨List.forall_mem_cons.mpr ⟨found.start, starts⟩,
          (baselineLines.take (hunk.oldStart - 1)).drop progress.sourceIndex ++
            newItems hunk.body ++ others, ?_, ?_⟩
        · rw [split]
          have others' : Replaces (hunk.place + hunk.oldCount)
              (baselineLines.drop (hunk.oldStart - 1 + hunk.oldCount)) hunks others := by
            rw [place]
            exact replaces
          refine .hunk ?_ others'
          have forwards := found.forwards
          have bound := found.inside
          rw [place, List.length_drop, List.length_take]
          omega
        · rw [← same']
          simp [afterHunk]
      · rintro ⟨starts, others, replaces, same⟩
        obtain ⟨start, starts⟩ := List.forall_mem_cons.mp starts
        obtain ⟨before, after, others, split, rfl, placed, replaces⟩ := replaces_cons.mp replaces
        rw [place] at placed replaces
        have length := congrArg List.length split
        simp only [List.length_drop, List.length_append, counted.1] at length
        have atTarget : baselineLines.drop (hunk.oldStart - 1) = oldItems hunk.body ++ after := by
          rw [← placed, ← List.drop_drop, split, List.append_assoc, List.drop_left]
        have found : Found baselineLines progress hunk :=
          ⟨start, by omega, by omega, atTarget ▸ List.prefix_append _ _⟩
        have tail : baselineLines.drop (hunk.oldStart - 1 + hunk.oldCount) = after := by
          rw [← List.drop_drop, atTarget, ← counted.1, List.drop_left]
        have front : (baselineLines.take (hunk.oldStart - 1)).drop progress.sourceIndex = before := by
          have split' := found.split counted
          rw [split, tail] at split'
          exact (List.append_cancel_right (List.append_cancel_right split')).symm
        have within : hunk.oldStart - 1 + hunk.oldCount ≤ baselineLines.length := by omega
        have written : (afterHunk baselineLines progress hunk).output ++ others = result := by
          rw [← same]
          simp [afterHunk, front]
        rw [← tail] at replaces
        obtain ⟨progress', walks, same'⟩ :=
          (ih (afterHunk baselineLines progress hunk) within rest).mpr
            ⟨starts, others, replaces, written⟩
        exact ⟨progress', ⟨found, walks⟩, same'⟩

end Walks

/-! ## Patches of one file -/

/-- A line outside the hunks that is no change and no newline marker. -/
def Inert (line : Line) : Prop :=
  ¬startsWith "+" line ∧ ¬startsWith "-" line ∧ ¬startsWith "\\ No newline at end of file" line

instance (line : Line) : Decidable (Inert line) := inferInstanceAs (Decidable (_ ∧ _ ∧ _))

/-- The preamble of a patch: an old and a new header, one after the other, and lines that are no
changes. -/
structure HeadedBy (preamble : List Line) (old new : Line) : Prop where
  oldMarked : startsWith "--- " old
  newMarked : startsWith "+++ " new
  split : ∃ before after, preamble = before ++ old :: new :: after ∧
    ∀ line ∈ before ++ after, Inert line

/-- The sections of a patch: nothing between the hunks is a change, and the new ranges follow
from the old ones. -/
structure Laid (sections : List Section) : Prop where
  rests : ∀ s ∈ sections, ∀ line ∈ s.rest, Inert line
  consistent : Consistent 0 (sections.map Section.hunk)

/-- A patch text is a unified diff of one file, of the path, and makes the candidate of the
baseline. Lines end with a line feed. -/
def PatchOf (expectedPath baseline patchText candidate : List Char) : Prop :=
  '\x00' ∉ patchText ∧ candidate ≠ baseline ∧
    ∃ preamble old new sections result, ReadsAs (lfLines patchText) preamble sections ∧
      HeadedBy preamble old new ∧
      (headerPath old "--- " = expectedPath ∧ headerPath new "+++ " = expectedPath) ∧
      sections ≠ [] ∧ Laid sections ∧
      Replaces 0 (lfLines baseline) (sections.map Section.hunk) result ∧
      candidate = result.flatten

/-- **A patch means at most one text.** -/
theorem PatchOf.unique {expectedPath baseline patchText candidate candidate' : List Char}
    (means : PatchOf expectedPath baseline patchText candidate)
    (again : PatchOf expectedPath baseline patchText candidate') : candidate = candidate' := by
  obtain ⟨-, -, _, _, _, sections, result, reads, -, -, -, -, replaces, rfl⟩ := means
  obtain ⟨-, -, _, _, _, sections', result', reads', -, -, -, -, replaces', rfl⟩ := again
  obtain ⟨-, rfl⟩ := reads.unique _ (le_refl _) reads'
  rw [replaces.unique replaces']

/-- A line that the applier takes for a file header. -/
def HeaderLike (line : Line) : Prop := startsWith "--- " line ∨ startsWith "+++ " line

instance (line : Line) : Decidable (HeaderLike line) := inferInstanceAs (Decidable (_ ∨ _))

/-- The applier and the diff read the patch alike: the lines at line feeds have two file headers
before the first hunk, no other change outside the hunks, and consistent ranges; all lines have the
same hunks and two file headers of the same paths; and the applier finds the place of each hunk,
whose old range is not empty, where line feeds split the baseline. -/
structure ReadAlike (baseline patchText : List Char) (preamble : List Line)
    (sections : List Section) : Prop where
  reads : ReadsAs (lfLines patchText) preamble sections
  laid : Laid sections
  hunks : ∃ preamble' sections', ReadsAs (textLines patchText) preamble' sections' ∧
    sections'.map Section.hunk = sections.map Section.hunk
  headers : ∃ old new old' new', HeadedBy preamble old new ∧
    (textLines patchText).filter (fun line => decide (HeaderLike line)) = [old', new'] ∧
    (startsWith "--- " old' ∧ startsWith "+++ " new') ∧
    headerPath old' "--- " = headerPath old "--- " ∧ headerPath new' "+++ " = headerPath new "+++ "
  places : ∀ s ∈ sections, s.hunk.oldCount ≠ 0 ∧
    (byteLines baseline).take s.hunk.oldEnd = (lfLines baseline).take s.hunk.oldEnd

/-- The applier gets through the patch: its headers are accepted, its lines read as hunks, the
old lines of each stand in the baseline, and the text changes. -/
def GetsThrough (expectedPath baseline patchText : List Char) : Prop :=
  '\x00' ∉ patchText ∧ checkHeaders expectedPath (textLines patchText) = .ok () ∧
    ∃ preamble sections progress, ReadsAs (textLines patchText) preamble sections ∧
      sections ≠ [] ∧ Walks (byteLines baseline) ⟨[], 0⟩ (sections.map Section.hunk) progress ∧
      (progress.output ++ (byteLines baseline).drop progress.sourceIndex).flatten ≠ baseline

/-- Input on which the applier is exact: where it gets through the patch, or the patch is a diff
that applies, the two read the patch alike. -/
def Orderly (expectedPath baseline patchText : List Char) : Prop :=
  GetsThrough expectedPath baseline patchText ∨
      (∃ candidate, PatchOf expectedPath baseline patchText candidate) →
    ∃ preamble sections, ReadAlike baseline patchText preamble sections

/-! ## The applier -/

theorem startsWith_iff {marker : String} {line : Line} :
    startsWith marker line = true ↔ marker.toList <+: line :=
  List.isPrefixOf_iff_prefix

/-- A line that starts with one text does not start with another of the same length. -/
theorem not_startsWith_of {marker other : String} {line : Line} (marked : startsWith marker line)
    (length : other.toList.length = marker.toList.length) (different : other.toList ≠ marker.toList) :
    ¬startsWith other line := by
  intro marked'
  obtain ⟨rest, here⟩ := startsWith_iff.mp marked
  obtain ⟨rest', here'⟩ := startsWith_iff.mp marked'
  exact different (List.append_inj (here'.trans here.symm) length).1

/-- An inert line is no file header. -/
theorem Inert.not_headerLike {line : Line} (inert : Inert line) : ¬HeaderLike line := by
  rintro (old | new)
  · exact inert.2.1 (startsWith_iff.mpr (.trans (by decide) (startsWith_iff.mp old)))
  · exact inert.1 (startsWith_iff.mpr (.trans (by decide) (startsWith_iff.mp new)))

/-- The two headers are the lines of the preamble that look like file headers. -/
theorem HeadedBy.filter_eq {preamble : List Line} {old new : Line}
    (headed : HeadedBy preamble old new) :
    preamble.filter (fun line => decide (HeaderLike line)) = [old, new] := by
  obtain ⟨oldMarked, newMarked, before, after, rfl, inert⟩ := headed
  have others : ∀ lines : List Line, (∀ line ∈ lines, Inert line) →
      lines.filter (fun line => decide (HeaderLike line)) = [] := by
    intro lines none_
    refine List.filter_eq_nil_iff.mpr fun line member => ?_
    simpa using (none_ line member).not_headerLike
  have oldLike : HeaderLike old := .inl oldMarked
  have newLike : HeaderLike new := .inr newMarked
  rw [List.filter_append,
    others before fun line member => inert line (List.mem_append_left after member)]
  simp [oldLike, newLike,
    others after fun line member => inert line (List.mem_append_right before member)]

/-- The check of the headers looks at the lines that look like file headers alone. -/
theorem checkHeaders_eq_ok {expectedPath : List Char} {lines : List Line} {old new : Line}
    (two : lines.filter (fun line => decide (HeaderLike line)) = [old, new])
    (oldMarked : startsWith "--- " old) (newMarked : startsWith "+++ " new) :
    checkHeaders expectedPath lines = .ok () ↔
      headerPath old "--- " = expectedPath ∧ headerPath new "+++ " = expectedPath := by
  have only : ∀ marker, (∀ line, startsWith marker line → HeaderLike line) →
      lines.filter (startsWith marker) = [old, new].filter (startsWith marker) := by
    intro marker likely
    rw [← two, List.filter_filter]
    refine List.filter_congr fun line _ => ?_
    cases marked : startsWith marker line with
    | false => rfl
    | true => simp [likely line marked]
  have oldOther := not_startsWith_of oldMarked (show "+++ ".toList.length = _ by decide) (by decide)
  have newOther := not_startsWith_of newMarked (show "--- ".toList.length = _ by decide) (by decide)
  have oldOnly : lines.filter (startsWith "--- ") = [old] := by
    rw [only "--- " fun _ => .inl, List.filter_cons_of_pos oldMarked,
      List.filter_cons_of_neg newOther, List.filter_nil]
  have newOnly : lines.filter (startsWith "+++ ") = [new] := by
    rw [only "+++ " fun _ => .inr, List.filter_cons_of_neg oldOther,
      List.filter_cons_of_pos newMarked, List.filter_nil]
  rw [checkHeaders, oldOnly, newOnly]
  exact require_eq_ok

/-! ### Baselines that split alike as far as they are read -/

section Alike

variable {first second : List Line} {hunks : List (Hunk Line)} {progress progress' : Progress}

/-- The lines that a hunk skips and reads are within the end of its old range. -/
theorem found_iff_take {hunk : Hunk Line} (counted : hunk.Counted) (some_ : hunk.oldCount ≠ 0) :
    Found first progress hunk ↔ 1 ≤ hunk.oldStart ∧ progress.sourceIndex ≤ hunk.oldStart - 1 ∧
      (first.take hunk.oldEnd).drop (hunk.oldStart - 1) = oldItems hunk.body := by
  have within : (first.take hunk.oldEnd).drop (hunk.oldStart - 1) =
      (first.drop (hunk.oldStart - 1)).take (oldItems hunk.body).length := by
    rw [List.drop_take, counted.1, Hunk.oldEnd, Hunk.place, rangePlace, if_neg some_,
      Nat.add_sub_cancel_left]
  rw [within]
  constructor
  · rintro ⟨start, forwards, inside, stands⟩
    exact ⟨start, forwards, (List.prefix_iff_eq_take.mp stands).symm⟩
  · rintro ⟨start, forwards, same⟩
    have stands := List.prefix_iff_eq_take.mpr same.symm
    refine ⟨start, forwards, ?_, stands⟩
    have length := stands.length_le
    rw [counted.1, List.length_drop] at length
    omega

/-- **Hunks walk alike** through baselines that agree as far as the hunks read them, and agree in
what they have read. -/
theorem walks_congr (counted : ∀ hunk ∈ hunks, hunk.Counted ∧ hunk.oldCount ≠ 0)
    (alike : ∀ hunk ∈ hunks, first.take hunk.oldEnd = second.take hunk.oldEnd)
    (before : first.take progress.sourceIndex = second.take progress.sourceIndex)
    (walks : Walks first progress hunks progress') :
    Walks second progress hunks progress' ∧
      first.take progress'.sourceIndex = second.take progress'.sourceIndex := by
  induction hunks generalizing progress with
  | nil =>
      obtain rfl : progress' = progress := walks
      exact ⟨rfl, before⟩
  | cons hunk hunks ih =>
      obtain ⟨found, walks⟩ := walks
      obtain ⟨here, counted⟩ := List.forall_mem_cons.mp counted
      obtain ⟨same, alike⟩ := List.forall_mem_cons.mp alike
      have place : first.take (hunk.oldStart - 1) = second.take (hunk.oldStart - 1) := by
        have within : hunk.oldStart - 1 ≤ hunk.oldEnd := by
          rw [Hunk.oldEnd, Hunk.place, rangePlace, if_neg here.2]
          exact Nat.le_add_right _ _
        have shorter := congrArg (List.take (hunk.oldStart - 1)) same
        rwa [List.take_take, List.take_take, min_eq_left within] at shorter
      have found' : Found second progress hunk := by
        rw [found_iff_take here.1 here.2] at found ⊢
        rwa [← same]
      have after : afterHunk first progress hunk = afterHunk second progress hunk := by
        rw [afterHunk, afterHunk, place]
      have read : first.take (afterHunk first progress hunk).sourceIndex =
          second.take (afterHunk first progress hunk).sourceIndex := by
        have ends : (afterHunk first progress hunk).sourceIndex = hunk.oldEnd := by
          rw [Hunk.oldEnd, Hunk.place, rangePlace, if_neg here.2]
          rfl
        rwa [ends]
      obtain ⟨walks', last⟩ := ih counted alike read walks
      exact ⟨⟨found', after ▸ walks'⟩, last⟩

/-- What follows is the same when the texts and what stands before are. -/
theorem flatten_drop_congr {count : Nat} (text : first.flatten = second.flatten)
    (before : first.take count = second.take count) :
    (first.drop count).flatten = (second.drop count).flatten := by
  rw [← List.take_append_drop count first, ← List.take_append_drop count second,
    List.flatten_append, List.flatten_append, before] at text
  exact List.append_cancel_left text

end Alike

/-- Consistent hunks whose old ranges have items start at one of them. -/
theorem start_of_consistent {hunks : List (Hunk Line)} {shift : Int}
    (consistent : Consistent shift hunks) (old : ∀ hunk ∈ hunks, hunk.oldCount ≠ 0) :
    ∀ hunk ∈ hunks, 1 ≤ hunk.oldStart := by
  induction hunks generalizing shift with
  | nil => simp
  | cons hunk hunks ih =>
      obtain ⟨proper, -, -, rest⟩ := consistent
      exact List.forall_mem_cons.mpr ⟨proper (old hunk List.mem_cons_self),
        ih rest fun other later => old other (List.mem_cons_of_mem hunk later)⟩

/-- What the applier accepts, by its own rules. -/
theorem applySingleFileUnifiedPatch_eq_ok {baseline patchText expectedPath candidate : List Char} :
    applySingleFileUnifiedPatch baseline patchText expectedPath = .ok candidate ↔
      ('\x00' ∉ baseline ∧ '\x00' ∉ patchText) ∧ candidate ≠ baseline ∧
        checkHeaders expectedPath (textLines patchText) = .ok () ∧
        ∃ preamble sections, ReadsAs (textLines patchText) preamble sections ∧ sections ≠ [] ∧
          ∃ progress, Walks (byteLines baseline) ⟨[], 0⟩ (sections.map Section.hunk) progress ∧
            candidate =
              (progress.output ++ (byteLines baseline).drop progress.sourceIndex).flatten := by
  simp only [applySingleFileUnifiedPatch, Except.bind_eq_ok, require_eq_ok, exists_const]
  constructor
  · rintro ⟨text, ⟨⟩, headers, ⟨count, progress⟩, applied, some_, changed, same⟩
    cases same
    obtain ⟨preamble, sections, reads, rfl, walks⟩ :=
      (applyHunks_eq_ok _ _ _ _ _ _ (le_refl _)).mp applied
    refine ⟨text, changed, headers, preamble, sections, reads, ?_, progress, walks, rfl⟩
    rintro rfl
    simp at some_
  · rintro ⟨text, changed, headers, preamble, sections, reads, some_, progress, walks, rfl⟩
    refine ⟨text, (), headers, (0 + sections.length, progress),
      (applyHunks_eq_ok _ _ _ _ _ _ (le_refl _)).mpr ⟨preamble, sections, reads, rfl, walks⟩, ?_,
      changed, rfl⟩
    rw [Nat.zero_add]
    exact List.length_pos_iff.mpr some_

namespace ReadAlike

variable {baseline patchText : List Char} {preamble : List Line} {sections : List Section}

theorem fits (alike : ReadAlike baseline patchText preamble sections) :
    ∀ hunk ∈ sections.map Section.hunk, hunk.Counted ∧ hunk.oldCount ≠ 0 := by
  intro hunk present
  obtain ⟨s, member, rfl⟩ := List.mem_map.mp present
  exact ⟨(alike.reads.sections s member).counted, (alike.places s member).1⟩

/-- The applier goes through the baseline as through its lines at line feeds. -/
theorem walks_iff (alike : ReadAlike baseline patchText preamble sections)
    {candidate : List Char} :
    (∃ progress, Walks (byteLines baseline) ⟨[], 0⟩ (sections.map Section.hunk) progress ∧
        candidate = (progress.output ++ (byteLines baseline).drop progress.sourceIndex).flatten) ↔
      ∃ progress, Walks (lfLines baseline) ⟨[], 0⟩ (sections.map Section.hunk) progress ∧
        candidate = (progress.output ++ (lfLines baseline).drop progress.sourceIndex).flatten := by
  have text : (byteLines baseline).flatten = (lfLines baseline).flatten :=
    (splitKeeping_flatten _ _).trans (splitKeeping_flatten _ _).symm
  have places : ∀ hunk ∈ sections.map Section.hunk,
      (byteLines baseline).take hunk.oldEnd = (lfLines baseline).take hunk.oldEnd := by
    intro hunk present
    obtain ⟨s, member, rfl⟩ := List.mem_map.mp present
    exact (alike.places s member).2
  constructor
  · rintro ⟨progress, walks, rfl⟩
    obtain ⟨walks', read⟩ := walks_congr alike.fits places rfl walks
    exact ⟨progress, walks', by
      rw [List.flatten_append, List.flatten_append, flatten_drop_congr text read]⟩
  · rintro ⟨progress, walks, rfl⟩
    obtain ⟨walks', read⟩ := walks_congr alike.fits (fun hunk present => (places hunk present).symm)
      rfl walks
    exact ⟨progress, walks', by
      rw [List.flatten_append, List.flatten_append, flatten_drop_congr text.symm read]⟩

/-- **The applier accepts what the diff means** where the two read the patch alike. -/
theorem applied_iff {expectedPath candidate : List Char} (text : '\x00' ∉ baseline)
    (alike : ReadAlike baseline patchText preamble sections) :
    applySingleFileUnifiedPatch baseline patchText expectedPath = .ok candidate ↔
      PatchOf expectedPath baseline patchText candidate := by
  obtain ⟨preamble', sections', reads', hunks⟩ := alike.hunks
  obtain ⟨old, new, old', new', headed, two, ⟨oldMarked, newMarked⟩, oldPath, newPath⟩ :=
    alike.headers
  have headers := @checkHeaders_eq_ok expectedPath _ _ _ two oldMarked newMarked
  rw [oldPath, newPath] at headers
  have some_ : sections' ≠ [] ↔ sections ≠ [] := by
    rw [not_iff_not, ← List.map_eq_nil_iff (f := Section.hunk), hunks, List.map_eq_nil_iff]
  have starts := start_of_consistent alike.laid.consistent fun hunk present =>
    (alike.fits hunk present).2
  have replaces : ∀ lines : List Line,
      ((∃ progress, Walks (lfLines baseline) ⟨[], 0⟩ (sections.map Section.hunk) progress ∧
        progress.output ++ (lfLines baseline).drop progress.sourceIndex = lines) ↔
      Replaces 0 (lfLines baseline) (sections.map Section.hunk) lines) := by
    intro lines
    rw [walks_iff_replaces _ ⟨[], 0⟩ (Nat.zero_le _) alike.fits, and_iff_right starts]
    simp
  rw [applySingleFileUnifiedPatch_eq_ok, headers]
  constructor
  · rintro ⟨⟨-, plain⟩, changed, paths, preamble₁, sections₁, reads₁, some₁, walked⟩
    obtain ⟨-, rfl⟩ := reads₁.unique _ (le_refl _) reads'
    rw [hunks] at walked
    obtain ⟨progress, walks, rfl⟩ := alike.walks_iff.mp walked
    exact ⟨plain, changed, preamble, old, new, sections, _, alike.reads, headed, paths,
      some_.mp some₁, alike.laid, (replaces _).mp ⟨progress, walks, rfl⟩, rfl⟩
  · rintro ⟨plain, changed, preamble₁, old₁, new₁, sections₁, result, reads₁, headed₁, paths, some₁,
      -, replaced, rfl⟩
    obtain ⟨rfl, rfl⟩ := reads₁.unique _ (le_refl _) alike.reads
    obtain ⟨rfl, rfl⟩ : old₁ = old ∧ new₁ = new := by
      simpa using headed₁.filter_eq.symm.trans headed.filter_eq
    obtain ⟨progress, walks, rfl⟩ := (replaces _).mpr replaced
    refine ⟨⟨text, plain⟩, changed, paths, preamble', sections', reads', some_.mpr some₁, ?_⟩
    rw [hunks]
    exact alike.walks_iff.mpr ⟨progress, walks, rfl⟩

end ReadAlike

/-- A file of two lines. -/
def smallFile : List Char := "a\nb\n".toList

/-- Replaces the second line. -/
def replacingPatch : List Char := "--- a/f\n+++ b/f\n@@ -1,2 +1,2 @@\n a\n-b\n+c\n".toList

/-- The section of `replacingPatch`. -/
def replacingSection : Section where
  headerLine := "@@ -1,2 +1,2 @@\n".toList
  hunk := ⟨⟨1, 2, 1, 2⟩, [(.context, "a\n".toList), (.deleted, "b\n".toList),
    (.added, "c\n".toList)]⟩
  rest := []

theorem replacingPatch_reads : ReadsAs (lfLines replacingPatch)
    ["--- a/f\n".toList, "+++ b/f\n".toList] [replacingSection] where
  split := by decide
  preamble := by decide
  sections := by
    intro s present
    obtain rfl := List.mem_singleton.mp present
    have groups : matchHunk replacingSection.headerLine =
        some (([1], some [2]), [1], some [2]) := by decide +kernel
    exact ⟨⟨_, groups, rfl⟩, ⟨rfl, rfl⟩, fun _ none_ => (List.not_mem_nil none_).elim⟩

/-- Adds a line after the second one. -/
def addingPatch : List Char := "--- a/f\n+++ b/f\n@@ -2,0 +3 @@\n+c\n".toList

/-- The section of `addingPatch`. -/
def addingSection : Section where
  headerLine := "@@ -2,0 +3 @@\n".toList
  hunk := ⟨⟨2, 0, 3, 1⟩, [(.added, "c\n".toList)]⟩
  rest := []

theorem addingPatch_means : PatchOf "f".toList smallFile addingPatch "a\nb\nc\n".toList := by
  refine ⟨by decide, by decide, ["--- a/f\n".toList, "+++ b/f\n".toList], _, _,
    [addingSection], ["a\n".toList, "b\n".toList, "c\n".toList], ⟨by decide, by decide, ?_⟩,
    ⟨by decide, by decide, [], [], rfl, by simp⟩, ⟨by decide, by decide⟩, by simp, ?_, ?_, by decide⟩
  · intro s present
    obtain rfl := List.mem_singleton.mp present
    have groups : matchHunk addingSection.headerLine =
        some (([2], some [0]), [3], none) := by decide +kernel
    exact ⟨⟨_, groups, rfl⟩, ⟨rfl, rfl⟩, fun _ none_ => (List.not_mem_nil none_).elim⟩
  · exact ⟨by decide, fun none_ => absurd rfl none_, fun _ => show 1 ≤ 3 by decide, rfl, trivial⟩
  · exact replaces_cons.mpr ⟨["a\n".toList, "b\n".toList], [], [], by decide, by decide, rfl,
      .done _ _⟩

end Promotion

end HcuAutoOpt
