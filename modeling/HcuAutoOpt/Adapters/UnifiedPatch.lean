import HcuAutoOpt.Foundation.CommittedCalls
import HcuAutoOpt.Foundation.TextFields
import HcuAutoOpt.Foundation.TextLines
import HcuAutoOpt.Foundation.UnifiedDiff

/-!
# Applying a single-file patch

`apply_single_file_unified_patch` applies a unified diff to one source file without a shell. It
looks for one old and one new header, then walks through the lines of the patch: a line that
matches the hunk pattern starts a hunk, whose body is read until the declared counts are reached
and compared with the baseline on the way, and every other line between hunks is skipped.

Sources are texts in UTF-8, here lists of characters: the breaks of `bytes.splitlines` are ASCII,
and two lines have the same bytes when they have the same characters.
-/

set_option autoImplicit false

namespace HcuAutoOpt

namespace Promotion

open Foundation

/-- The exceptions of the patch applier. -/
inductive PatchError where
  | sourceArtifact (message : String)
  | valueError
  deriving DecidableEq, Repr

/-! ## Hunk headers -/

/-- The digits at the front of a text, and what follows them. -/
def takeDigits : List Char → List Nat × List Char
  | [] => ([], [])
  | c :: rest =>
      match digitValue c with
      | none => ([], c :: rest)
      | some digit => (digit :: (takeDigits rest).1, (takeDigits rest).2)

/-- `(\d+)`. -/
def matchNumber (text : List Char) : Option (List Nat × List Char) :=
  match takeDigits text with
  | ([], _) => none
  | found => some found

/-- `(?:,(\d+))?`; a comma without digits is left in the text. -/
def matchCount (text : List Char) : Option (List Nat) × List Char :=
  match text with
  | ',' :: rest =>
      match matchNumber rest with
      | none => (none, text)
      | some (digits, rest) => (some digits, rest)
  | _ => (none, text)

/-- A fixed text at the front. -/
def matchText (expected : String) (text : List Char) : Option (List Char) :=
  if expected.toList.isPrefixOf text then some (text.drop expected.toList.length) else none

/-- `(?: .*)?(?:\r?\n)?$` of the end of a line. -/
def matchEnd (text : List Char) : Bool :=
  text == [] || text == ['\n'] || text == ['\r', '\n'] ||
    (text.head? == some ' ' && !text.dropLast.contains '\n')

/-- The groups of `_HUNK`: the digits of two starts and two optional counts. -/
def matchHunk (line : Line) :
    Option ((List Nat × Option (List Nat)) × List Nat × Option (List Nat)) := do
  let text ← matchText "@@ -" line
  let (oldStart, text) ← matchNumber text
  let (oldCount, text) := matchCount text
  let text ← matchText " +" text
  let (newStart, text) ← matchNumber text
  let (newCount, text) := matchCount text
  let text ← matchText " @@" text
  if matchEnd text then some ((oldStart, oldCount), newStart, newCount) else none

/-- `int(digits)`; more than 4300 digits are a `ValueError`. -/
def intOfDigits (digits : List Nat) : Except PatchError Nat :=
  if digits.length ≤ 4300 then
    .ok (digits.foldl (fun value digit => 10 * value + digit) 0)
  else .error .valueError

/-- The ranges that the groups of a hunk header name. The new start is only matched by the
source, not read. -/
def headerOfGroups
    (groups : (List Nat × Option (List Nat)) × List Nat × Option (List Nat)) :
    Except PatchError HunkHeader := do
  let oldStart ← intOfDigits groups.1.1
  let oldCount ← intOfDigits (groups.1.2.getD [1])
  let newCount ← intOfDigits (groups.2.2.getD [1])
  return { oldStart := oldStart
           oldCount := oldCount
           newStart := groups.2.1.foldl (fun value digit => 10 * value + digit) 0
           newCount := newCount }

/-! ## File headers -/

/-- The text up to the first tab. -/
def beforeTab (text : List Char) : List Char := text.takeWhile fun c => c != '\t'

/-- `header_path`. -/
def headerPath (line : Line) (marker : String) : List Char :=
  let value := stripEnds isBlank (beforeTab (line.drop marker.toList.length))
  if "a/".toList.isPrefixOf value || "b/".toList.isPrefixOf value then value.drop 2 else value

/-- A line that starts with a marker. -/
def startsWith (marker : String) (line : Line) : Bool := marker.toList.isPrefixOf line

/-- The check of the two headers: one old and one new one in the whole patch, of the path. -/
def checkHeaders (expectedPath : List Char) (patchLines : List Line) : Except PatchError Unit :=
  match patchLines.filter (startsWith "--- "), patchLines.filter (startsWith "+++ ") with
  | [old], [new] =>
      require (headerPath old "--- " = expectedPath ∧ headerPath new "+++ " = expectedPath)
        (.sourceArtifact "Candidate Patch path differs from its reviewed Overlay path")
  | _, _ =>
      .error (.sourceArtifact "Candidate promotion requires one unified Patch file")

/-! ## Hunks -/

/-- What has been written and read of the baseline. -/
structure Progress where
  output : List Line
  sourceIndex : Nat

/-- The next line of the baseline, which has to be the expected one. -/
def expectLine (baselineLines : List Line) (sourceIndex : Nat) (expected : Line)
    (exceeds differs : String) : Except PatchError Line :=
  match baselineLines[sourceIndex]? with
  | none => .error (.sourceArtifact exceeds)
  | some line =>
      if line = expected then .ok line else .error (.sourceArtifact differs)

/-- One turn of the inner loop: what a line of a hunk does, and the progress after it. -/
def bodyTurn (baselineLines : List Line) (progress : Progress) (line : Line) :
    Except PatchError (Change × Progress) :=
  if startsWith "\\ No newline at end of file" line then
    .error (.sourceArtifact "Candidate Patch newline markers are not supported")
  else
    match line with
    | ' ' :: expected => do
        let read ← expectLine baselineLines progress.sourceIndex expected
          "Candidate Patch context exceeds Baseline source"
          "Candidate Patch context differs from Baseline source"
        return (.context, ⟨progress.output ++ [read], progress.sourceIndex + 1⟩)
    | '-' :: expected => do
        let _ ← expectLine baselineLines progress.sourceIndex expected
          "Candidate Patch deletion exceeds Baseline source"
          "Candidate Patch deletion differs from Baseline source"
        return (.deleted, ⟨progress.output, progress.sourceIndex + 1⟩)
    | '+' :: added => return (.added, ⟨progress.output ++ [added], progress.sourceIndex⟩)
    | _ => .error (.sourceArtifact "Candidate Patch hunk contains an unsupported line")

/-- The inner loop: the body of a hunk, read while a declared count is not reached. Returns the
rest of the patch and the two counts. -/
def hunkBody (baselineLines : List Line) (oldCount newCount : Nat) :
    (consumedOld producedNew : Nat) → Progress → List Line →
      Except PatchError (List Line × (Nat × Nat) × Progress)
  | consumedOld, producedNew, progress, [] =>
      if consumedOld < oldCount ∨ producedNew < newCount then
        .error (.sourceArtifact "Candidate Patch hunk ended before its declared counts")
      else .ok ([], (consumedOld, producedNew), progress)
  | consumedOld, producedNew, progress, line :: rest =>
      if consumedOld < oldCount ∨ producedNew < newCount then do
        let (change, progress) ← bodyTurn baselineLines progress line
        hunkBody baselineLines oldCount newCount (consumedOld + change.oldSize)
          (producedNew + change.newSize) progress rest
      else .ok (line :: rest, (consumedOld, producedNew), progress)

/-- One hunk, after its header. -/
def applyHunk (baselineLines : List Line) (header : HunkHeader) (progress : Progress)
    (rest : List Line) : Except PatchError (List Line × Progress) := do
  let targetIndex : Int := header.oldStart - 1
  require (¬(targetIndex < progress.sourceIndex ∨ (baselineLines.length : Int) < targetIndex))
    (.sourceArtifact "Candidate Patch hunk is outside the Baseline source")
  let target := targetIndex.toNat
  let skipped := (baselineLines.take target).drop progress.sourceIndex
  let (rest, counts, progress) ← hunkBody baselineLines header.oldCount header.newCount 0 0
    ⟨progress.output ++ skipped, target⟩ rest
  require (counts = (header.oldCount, header.newCount))
    (.sourceArtifact "Candidate Patch hunk counts are inconsistent")
  return (rest, progress)

/-- The outer loop over the lines of the patch, with the number of hunks. Every turn takes a line
away, so the number of lines is fuel enough. -/
def applyHunks (baselineLines : List Line) :
    Nat → Nat → Progress → List Line → Except PatchError (Nat × Progress)
  | _, hunkCount, progress, [] => .ok (hunkCount, progress)
  | 0, _, _, _ :: _ => .error .valueError
  | fuel + 1, hunkCount, progress, line :: rest =>
      match matchHunk line with
      | none => applyHunks baselineLines fuel hunkCount progress rest
      | some groups => do
          let header ← headerOfGroups groups
          let (rest, progress) ← applyHunk baselineLines header progress rest
          applyHunks baselineLines fuel (hunkCount + 1) progress rest

/-- `apply_single_file_unified_patch` of texts in UTF-8. -/
def applySingleFileUnifiedPatch (baseline patchText expectedPath : List Char) :
    Except PatchError (List Char) := do
  require ('\x00' ∉ baseline ∧ '\x00' ∉ patchText)
    (.sourceArtifact "Candidate promotion rejects NUL source bytes")
  let patchLines := textLines patchText
  checkHeaders expectedPath patchLines
  let baselineLines := byteLines baseline
  let (hunkCount, progress) ←
    applyHunks baselineLines patchLines.length 0 ⟨[], 0⟩ patchLines
  require (1 ≤ hunkCount) (.sourceArtifact "Candidate Patch contains no unified hunk")
  let candidate := (progress.output ++ baselineLines.drop progress.sourceIndex).flatten
  require (candidate ≠ baseline)
    (.sourceArtifact "Candidate Patch does not change the Baseline source")
  return candidate

end Promotion

end HcuAutoOpt
