import HcuAutoOpt.Foundation.CommittedCalls
import HcuAutoOpt.Foundation.TextFields
import HcuAutoOpt.Foundation.TextSearch
import Mathlib.Data.List.GetD

/-!
# The start time of a process

A process id names another process once it is used again, so evidence binds a process by its id
and its start time, the field 22 of `/proc/<pid>/stat`. Three parsers read it. The M1 harness and
the M1 verifier search the end of the command name from the right, with one mark and with
another; the Stage 0 verifier matches the whole record with one regular expression. The command
name is what the process chose: it may hold parentheses, blanks and the text of another record.

A record as the kernel writes it is a `StatRecord`. Behind its command name no parenthesis stands
(`StatRecord.not_mem_tail`), so both searches and the greedy run of the expression end at the
same place, and each parser returns the start time of the record (`startTokens_agree`).
-/

set_option autoImplicit false

namespace HcuAutoOpt

namespace ProcStat

open Foundation

/-- The exceptions of the parsers. -/
inductive StatError where
  /-- `MeasurementSafetyError`. -/
  | measurementSafety (message : String)
  /-- `M1EvidenceError`. -/
  | m1Evidence (code message : String)
  /-- `Stage0EvidenceError`. -/
  | stage0Evidence (code message : String)
  | valueError
  deriving DecidableEq, Repr

/-- `linux-proc-startticks:`. -/
def startTicksPrefix : List Char := "linux-proc-startticks:".toList

/-! ## The parsers -/

namespace M1Harness

/-- `_proc_start_token` of the M1 harness. -/
def procStartToken (procStatLine : List Char) (processId : Int) :
    Except StatError (List Char) := do
  let start := (← requireSome (writeInt processId) .valueError) ++ [' ', '(']
  require (start.isPrefixOf procStatLine = true)
    (.measurementSafety "M1 procfs record identifies another process")
  let close ← requireSome ((rfindIndex [')', ' '] procStatLine).filter (start.length ≤ ·))
    (.measurementSafety "M1 procfs record has no parseable command field")
  let remaining := splitFields isBlank (procStatLine.drop (close + 2))
  require (20 ≤ remaining.length)
    (.measurementSafety "M1 procfs record has no starttime field")
  let startTicks ← requireSome (readInt (remaining.getD 19 []))
    (.measurementSafety "M1 procfs starttime is not an integer")
  require (1 ≤ startTicks) (.measurementSafety "M1 procfs starttime must be positive")
  return startTicksPrefix ++ (← requireSome (writeInt startTicks) .valueError)

end M1Harness

namespace M1Verifier

/-- `_procfs_start_token`. -/
def procfsStartToken (statLine : List Char) : Except StatError (List Char) := do
  let close ← requireSome (rfindIndex [')'] statLine)
    (.m1Evidence "process_lifecycle_invalid" "proc stat line has no comm field")
  let fields := splitFields isBlank (stripEnds isBlank (statLine.drop (close + 1)))
  require (20 ≤ fields.length ∧ isDigits (fields.getD 19 []) = true)
    (.m1Evidence "process_lifecycle_invalid" "proc stat starttime is missing")
  return fields.getD 19 []

end M1Verifier

namespace Stage0Verifier

/-- The groups of the expression. -/
structure StatGroups where
  pid : List Char
  comm : List Char
  state : Char
  fields : List Char
  deriving DecidableEq, Repr

/-- `.`. -/
def isDot (c : Char) : Bool := c != '\n'

/-- `\) ([A-Za-z]) (.*)`, to the end of the text. -/
def matchFields (pid comm text : List Char) : Option StatGroups :=
  (text.dropPrefix? [')', ' ']).bind fun
    | [] => none
    | state :: rest =>
        if state.isAlpha = true then
          (rest.dropPrefix? [' ']).bind (greedyRun isDot fun fields rest =>
            if rest = [] then some ⟨pid, comm, state, fields⟩ else none)
        else none

/-- ` \((.*)` and what follows it. -/
def matchComm (pid text : List Char) : Option StatGroups :=
  (text.dropPrefix? [' ', '(']).bind (greedyRun isDot (matchFields pid))

/-- `re.fullmatch(r"([1-9][0-9]*) \((.*)\) ([A-Za-z]) (.*)", text)`. -/
def fullmatchStat : List Char → Option StatGroups
  | [] => none
  | first :: rest =>
      if first.isDigit = true ∧ first ≠ '0' then
        greedyRun Char.isDigit (fun digits => matchComm (first :: digits)) rest
      else none

/-- `_proc_start_token` of the Stage 0 verifier. -/
def procStartToken (procStatLine : List Char) (expectedPid : Int) :
    Except StatError (List Char) := do
  let found ← requireSome (fullmatchStat procStatLine)
    (.stage0Evidence "process_lifecycle_invalid"
      "procfs stat record does not identify the process")
  require ((← requireSome (readInt found.pid) .valueError) = expectedPid)
    (.stage0Evidence "process_lifecycle_invalid"
      "procfs stat record does not identify the process")
  let remainingFields := splitFields isBlank found.fields
  require (19 ≤ remainingFields.length)
    (.stage0Evidence "process_lifecycle_invalid"
      "procfs stat record does not contain starttime")
  let startTicks ← requireSome (readInt (remainingFields.getD 18 []))
    (.stage0Evidence "process_lifecycle_invalid" "procfs starttime is not an integer")
  require (1 ≤ startTicks)
    (.stage0Evidence "process_lifecycle_invalid" "procfs starttime must be positive")
  return startTicksPrefix ++ (← requireSome (writeInt startTicks) .valueError)

end Stage0Verifier

/-! ## Records of the kernel -/

/-- The kernel's record of a process: its id, its command name, the letter of its state, and the
integer fields from the fourth on, of which the field 22 is the start time. -/
structure StatRecord where
  pid : Nat
  comm : List Char
  state : Char
  fields : List Int
  /-- Ids start at one; like the start time, an id is a number that Python converts. -/
  pidFromOne : 1 ≤ pid
  pidConverts : Convertible pid
  commOneLine : '\n' ∉ comm
  stateLetter : state.isAlpha = true
  complete : 22 ≤ fields.length + 3
  started : 1 ≤ fields.getD 18 0
  startConverts : Convertible (fields.getD 18 0).toNat

namespace StatRecord

variable (record : StatRecord)

/-- The field 22. -/
def startTime : Nat := (record.fields.getD 18 0).toNat

/-- The texts of the fields from the fourth on. -/
def fieldTexts : List (List Char) := record.fields.map fun field => (toString field).toList

/-- What stands behind the command name and its parenthesis. -/
def tail : List Char := record.state :: record.fieldTexts.flatMap (' ' :: ·)

/-- `<pid> (<comm>) <state> <fields>`. -/
def line : List Char :=
  Nat.toDigits 10 record.pid ++ ' ' :: '(' :: (record.comm ++ ')' :: ' ' :: record.tail)

/-- Behind the command name stand letters, digits, minus signs and blanks. -/
theorem not_mem_tail {c : Char}
    (other : (c.isAlpha || c.isDigit || c == '-' || c == ' ') = false) : c ∉ record.tail := by
  intro member
  simp only [Bool.or_eq_false_iff, beq_eq_false_iff_ne] at other
  rcases List.mem_cons.mp member with rfl | member
  · rw [record.stateLetter] at other
    cases other.1.1.1
  obtain ⟨text, isText, inField⟩ := List.mem_flatMap.mp member
  obtain ⟨field, _, rfl⟩ := List.mem_map.mp isText
  rcases List.mem_cons.mp inField with rfl | inText
  · exact other.2 rfl
  rcases mem_toString_int inText with digit | rfl
  · rw [digit] at other
    cases other.1.1.2
  · exact other.1.2 rfl

/-- **Behind the parenthesis that ends the command name stands no other one.** -/
theorem close_not_mem : ')' ∉ ' ' :: record.tail := by
  intro member
  rcases List.mem_cons.mp member with mark | behind
  · exact absurd mark (by decide)
  · exact record.not_mem_tail (by decide) behind

theorem isField_of_mem {text : List Char} (member : text ∈ record.fieldTexts) :
    IsField isBlank text := by
  obtain ⟨field, _, rfl⟩ := List.mem_map.mp member
  exact isField_toString field

/-- The state is a field. -/
theorem isField_state : IsField isBlank [record.state] := by
  refine ⟨List.cons_ne_nil _ _, fun c member => ?_⟩
  obtain rfl := List.mem_singleton.mp member
  exact isBlank_of_isAlpha record.stateLetter

/-- The fields of the tail. -/
theorem splitFields_tail :
    splitFields isBlank record.tail = [record.state] :: record.fieldTexts :=
  splitFields_joined (by decide) record.isField_state fun _ => record.isField_of_mem

theorem length_fieldTexts : record.fieldTexts.length = record.fields.length := List.length_map _

/-- The text of the field 22. -/
theorem fieldTexts_getD : record.fieldTexts.getD 18 [] = Nat.toDigits 10 record.startTime := by
  have enough : 18 < record.fields.length := by
    have complete := record.complete
    omega
  have started := record.started
  rw [List.getD_eq_getElem _ _ enough] at started
  rw [fieldTexts, List.getD_eq_getElem _ _ (by rwa [List.length_map]), List.getElem_map,
    Json.toList_toString_int, if_pos (by omega), startTime, List.getD_eq_getElem _ _ enough]

/-- The start time as an integer. -/
theorem startTime_pos : 1 ≤ (record.startTime : Int) := by
  have started := record.started
  rw [startTime]
  omega

/-- Behind the state the fields stand with single blanks between them. -/
theorem exists_joined : ∃ joined, record.tail = record.state :: ' ' :: joined ∧
    splitFields isBlank joined = record.fieldTexts := by
  cases texts : record.fieldTexts with
  | nil =>
      have complete := record.complete
      rw [← record.length_fieldTexts, texts] at complete
      exact absurd complete (by decide)
  | cons first others =>
      have areFields : ∀ text ∈ first :: others, IsField isBlank text := fun text member =>
        record.isField_of_mem (by rwa [texts])
      obtain ⟨isFirst, areOthers⟩ := List.forall_mem_cons.mp areFields
      refine ⟨first ++ others.flatMap (' ' :: ·), ?_,
        splitFields_joined (by decide) isFirst areOthers⟩
      rw [tail, texts, List.flatMap_cons, List.cons_append]

/-- What stands in front of the parenthesis that ends the command name. -/
def opening : List Char := Nat.toDigits 10 record.pid ++ ' ' :: '(' :: record.comm

theorem line_eq : record.line = record.opening ++ ')' :: ' ' :: record.tail := by
  simp [line, opening]

theorem drop_line (n : Nat) :
    record.line.drop (record.opening.length + n) = (')' :: ' ' :: record.tail).drop n := by
  rw [line_eq, List.drop_append, List.drop_eq_nil_of_le (Nat.le_add_right _ _), List.nil_append,
    Nat.add_sub_cancel_left]

end StatRecord

/-! ## What the parsers return -/

/-- The last steps of a parser that reads the field 22. -/
theorem startTicks_eq (record : StatRecord) (notInteger notPositive : StatError) :
    (do
      let startTicks ← requireSome (readInt (Nat.toDigits 10 record.startTime)) notInteger
      require (1 ≤ startTicks) notPositive
      return startTicksPrefix ++ (← requireSome (writeInt startTicks) .valueError)) =
      Except.ok (startTicksPrefix ++ Nat.toDigits 10 record.startTime) := by
  refine Except.bind_eq_ok.mpr
    ⟨_, requireSome_eq_ok.mpr (readInt_toDigits record.startConverts), ?_⟩
  refine Except.bind_eq_ok.mpr ⟨(), require_eq_ok.mpr record.startTime_pos, ?_⟩
  exact Except.bind_eq_ok.mpr
    ⟨_, requireSome_eq_ok.mpr (writeInt_natCast record.startConverts), rfl⟩

/-- The fields behind the command name are all there, and the field 22 is at 19. -/
theorem StatRecord.tail_fields (record : StatRecord) :
    20 ≤ (splitFields isBlank record.tail).length ∧
      (splitFields isBlank record.tail).getD 19 [] = Nat.toDigits 10 record.startTime := by
  have complete := record.complete
  rw [record.splitFields_tail, List.length_cons, record.length_fieldTexts]
  exact ⟨by omega, record.fieldTexts_getD⟩

theorem M1Harness.procStartToken_line (record : StatRecord) :
    procStartToken record.line record.pid =
      .ok (startTicksPrefix ++ Nat.toDigits 10 record.startTime) := by
  have starts : (Nat.toDigits 10 record.pid ++ [' ', '(']).isPrefixOf record.line = true := by
    rw [List.isPrefixOf_iff_prefix]
    exact ⟨record.comm ++ ')' :: ' ' :: record.tail, by simp [StatRecord.line]⟩
  have close : rfindIndex [')', ' '] record.line = some record.opening.length := by
    have absent : ')' ∉ [' '] ++ record.tail := record.close_not_mem
    rw [record.line_eq]
    exact rfindIndex_append record.opening absent
  have behind : (Nat.toDigits 10 record.pid ++ [' ', '(']).length ≤ record.opening.length := by
    simp [StatRecord.opening]
  obtain ⟨enough, field⟩ := record.tail_fields
  refine Except.bind_eq_ok.mpr
    ⟨_, requireSome_eq_ok.mpr (writeInt_natCast record.pidConverts), ?_⟩
  refine Except.bind_eq_ok.mpr ⟨(), require_eq_ok.mpr starts, ?_⟩
  refine Except.bind_eq_ok.mpr ⟨record.opening.length,
    requireSome_eq_ok.mpr (Option.filter_eq_some_iff.mpr ⟨close, decide_eq_true behind⟩), ?_⟩
  rw [show record.line.drop (record.opening.length + 2) = record.tail from record.drop_line 2]
  refine Except.bind_eq_ok.mpr ⟨(), require_eq_ok.mpr enough, ?_⟩
  rw [field]
  exact startTicks_eq record _ _

theorem M1Verifier.procfsStartToken_line (record : StatRecord) :
    procfsStartToken record.line = .ok (Nat.toDigits 10 record.startTime) := by
  have close : rfindIndex [')'] record.line = some record.opening.length := by
    have absent : ')' ∉ [] ++ ' ' :: record.tail := record.close_not_mem
    rw [record.line_eq]
    exact rfindIndex_append record.opening absent
  obtain ⟨enough, field⟩ := record.tail_fields
  refine Except.bind_eq_ok.mpr ⟨_, requireSome_eq_ok.mpr close, ?_⟩
  rw [show record.line.drop (record.opening.length + 1) = ' ' :: record.tail from
    record.drop_line 1, splitFields_stripEnds, splitFields_cons (by decide)]
  dsimp only
  rw [field]
  exact Except.bind_eq_ok.mpr ⟨(), require_eq_ok.mpr ⟨enough, isDigits_toDigits _⟩, rfl⟩

namespace Stage0Verifier

theorem matchFields_of_not_mem {pid comm text : List Char} (absent : ')' ∉ text) :
    matchFields pid comm text = none := by
  cases dropped : text.dropPrefix? [')', ' '] with
  | none => rw [matchFields, dropped, Option.bind_none]
  | some rest =>
      obtain ⟨start, rfl, same⟩ := List.dropPrefix?_eq_some_iff.mp dropped
      obtain rfl := eq_of_beq same
      exact absurd List.mem_cons_self absent

theorem matchFields_tail (pid comm : List Char) {record : StatRecord} {joined : List Char}
    (split : record.tail = record.state :: ' ' :: joined) :
    matchFields pid comm (')' :: ' ' :: record.tail) =
      some ⟨pid, comm, record.state, joined⟩ := by
  have dotted : ∀ c ∈ joined, isDot c = true := by
    intro c member
    have behind : c ∈ record.tail := by
      rw [split]
      exact List.mem_cons_of_mem _ (List.mem_cons_of_mem _ member)
    refine bne_iff_ne.mpr ?_
    rintro rfl
    exact record.not_mem_tail (by decide) behind
  have close : (')' :: ' ' :: record.tail).dropPrefix? [')', ' '] = some record.tail :=
    List.dropPrefix?_append_of_beq record.tail (beq_self_eq_true [')', ' '])
  have blank : (' ' :: joined).dropPrefix? [' '] = some joined :=
    List.dropPrefix?_append_of_beq joined (beq_self_eq_true [' '])
  rw [matchFields, close, Option.bind_some, split]
  dsimp only
  rw [if_pos record.stateLetter, blank, Option.bind_some]
  exact greedyRun_whole dotted (if_pos rfl)

/-- **The expression matches a record with its own command name**: behind a longer run of any
characters no parenthesis is left. -/
theorem fullmatchStat_line {record : StatRecord} {joined : List Char}
    (split : record.tail = record.state :: ' ' :: joined) :
    fullmatchStat record.line =
      some ⟨Nat.toDigits 10 record.pid, record.comm, record.state, joined⟩ := by
  have comm : ∀ pid, matchComm pid
      (' ' :: '(' :: (record.comm ++ ')' :: ' ' :: record.tail)) =
      some ⟨pid, record.comm, record.state, joined⟩ := by
    intro pid
    have dotted : ∀ c ∈ record.comm, isDot c = true := by
      intro c member
      refine bne_iff_ne.mpr ?_
      rintro rfl
      exact record.commOneLine member
    have mark : (' ' :: '(' :: (record.comm ++ ')' :: ' ' :: record.tail)).dropPrefix? [' ', '('] =
        some (record.comm ++ ')' :: ' ' :: record.tail) :=
      List.dropPrefix?_append_of_beq _ (beq_self_eq_true [' ', '('])
    rw [matchComm, mark, Option.bind_some]
    refine greedyRun_append dotted (matchFields_tail pid record.comm split) ?_
    intro more rest' longer some_ _
    refine matchFields_of_not_mem fun member => ?_
    cases more with
    | nil => exact some_ rfl
    | cons mark more =>
        have behind : ' ' :: record.tail = more ++ rest' := (List.cons.inj longer).2
        exact record.close_not_mem (by rw [behind]; exact List.mem_append_right _ member)
  cases digits : Nat.toDigits 10 record.pid with
  | nil => exact absurd digits Nat.toDigits_ne_nil
  | cons first others =>
      have isDigit : ∀ c ∈ first :: others, c.isDigit = true := fun c member =>
        Nat.isDigit_of_mem_toDigits (b := 10) (n := record.pid) (by decide) (by decide)
          (by rwa [digits])
      obtain ⟨isFirst, areOthers⟩ := List.forall_mem_cons.mp isDigit
      have notZero : first ≠ '0' := by
        rintro rfl
        exact head?_toDigits_ne record.pidFromOne (by rw [digits, List.head?_cons])
      rw [StatRecord.line, digits, List.cons_append, fullmatchStat, if_pos ⟨isFirst, notZero⟩]
      refine greedyRun_append_of_stop areOthers (fun c stop => ?_) (comm (first :: others))
      obtain rfl := Option.some.inj stop
      decide

/-- **The Stage 0 verifier returns the start time of a record.** -/
theorem procStartToken_line (record : StatRecord) :
    procStartToken record.line record.pid =
      .ok (startTicksPrefix ++ Nat.toDigits 10 record.startTime) := by
  obtain ⟨joined, split, fields⟩ := record.exists_joined
  have enough : 19 ≤ record.fieldTexts.length := by
    have complete := record.complete
    rw [record.length_fieldTexts]
    omega
  refine Except.bind_eq_ok.mpr ⟨_, requireSome_eq_ok.mpr (fullmatchStat_line split), ?_⟩
  refine Except.bind_eq_ok.mpr
    ⟨_, requireSome_eq_ok.mpr (readInt_toDigits record.pidConverts), ?_⟩
  refine Except.bind_eq_ok.mpr ⟨(), require_eq_ok.mpr rfl, ?_⟩
  rw [fields]
  refine Except.bind_eq_ok.mpr ⟨(), require_eq_ok.mpr enough, ?_⟩
  rw [record.fieldTexts_getD]
  exact startTicks_eq record _ _

end Stage0Verifier

/-! ## Agreement -/

/-- **The three parsers return the field 22 of every record of the kernel**, so two records that
one of them tells apart are told apart by the others, and by their start times. -/
theorem startTokens_agree (record other : StatRecord) :
    (M1Harness.procStartToken record.line record.pid =
        .ok (startTicksPrefix ++ Nat.toDigits 10 record.startTime) ∧
      M1Verifier.procfsStartToken record.line = .ok (Nat.toDigits 10 record.startTime) ∧
      Stage0Verifier.procStartToken record.line record.pid =
        .ok (startTicksPrefix ++ Nat.toDigits 10 record.startTime)) ∧
    (M1Harness.procStartToken record.line record.pid =
        M1Harness.procStartToken other.line other.pid ↔
      M1Verifier.procfsStartToken record.line = M1Verifier.procfsStartToken other.line) ∧
    (M1Verifier.procfsStartToken record.line = M1Verifier.procfsStartToken other.line ↔
      Stage0Verifier.procStartToken record.line record.pid =
        Stage0Verifier.procStartToken other.line other.pid) ∧
    (Stage0Verifier.procStartToken record.line record.pid =
        Stage0Verifier.procStartToken other.line other.pid ↔
      record.startTime = other.startTime) := by
  have harness : M1Harness.procStartToken record.line record.pid =
      M1Harness.procStartToken other.line other.pid ↔ record.startTime = other.startTime := by
    rw [M1Harness.procStartToken_line, M1Harness.procStartToken_line, Except.ok.injEq,
      List.append_cancel_left_eq, toDigits_inj]
  have verifier : M1Verifier.procfsStartToken record.line =
      M1Verifier.procfsStartToken other.line ↔ record.startTime = other.startTime := by
    rw [M1Verifier.procfsStartToken_line, M1Verifier.procfsStartToken_line, Except.ok.injEq,
      toDigits_inj]
  have stage0 : Stage0Verifier.procStartToken record.line record.pid =
      Stage0Verifier.procStartToken other.line other.pid ↔
        record.startTime = other.startTime := by
    rw [Stage0Verifier.procStartToken_line, Stage0Verifier.procStartToken_line, Except.ok.injEq,
      List.append_cancel_left_eq, toDigits_inj]
  exact ⟨⟨M1Harness.procStartToken_line record, M1Verifier.procfsStartToken_line record,
    Stage0Verifier.procStartToken_line record⟩, harness.trans verifier.symm,
    verifier.trans stage0.symm, stage0⟩

/-- A process whose name ends like a command name and goes on like a record, with the start
time 7. -/
def forger : StatRecord where
  pid := 41
  comm := "x) R 1 1 1 0 -1 4 0 0 0 0 0 0 0 0 20 0 1 0 7 0".toList
  state := 'S'
  fields := [1, 41, 41, 0, -1, 4194560, 90, 0, 0, 0, 3, 1, 0, 0, 20, 0, 1, 0, 880012, 4096]
  pidFromOne := by decide
  pidConverts := convertible_of_lt (by decide)
  commOneLine := by decide +kernel
  stateLetter := by decide
  complete := by decide
  started := by decide
  startConverts := convertible_of_lt (by decide)

example : Stage0Verifier.procStartToken forger.line 41 =
    .ok "linux-proc-startticks:880012".toList := by
  decide +kernel

end ProcStat

end HcuAutoOpt
