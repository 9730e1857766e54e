import HcuAutoOpt.Foundation.CommittedCalls
import HcuAutoOpt.Foundation.KeyedTable

/-!
# The clock journal

The journal records an operation before the clock of a device may change, and every state
the operation passes through. An operation that is not `restored` is unresolved, and blocks
further operations on its resource. A recovery takes an unresolved operation over by a claim
and ends its attempt as restored or failed.

Each transaction is described by the rows it writes (`transition_spec`, `claimRecovery_spec`,
`finishRecovery_spec`). The tables stay `Sound`: one unresolved operation a resource, one
attempt for a claimed operation, and a log of each operation that is a path of the state
graph and ends in the state of its row.
-/

set_option autoImplicit false

namespace HcuAutoOpt

namespace Clock

open Foundation

/-! ## Rows -/

/-- The states of an operation. -/
inductive OperationState
  | mutationPossible
  | active
  | restoring
  | reconciliationRequired
  | recoveryClaimed
  | restored
  deriving DecidableEq, Repr

/-- A row of `clock_operations`. -/
structure ClockOperation (Policy : Type) where
  operationId : String
  resourceId : String
  authorizationId : String
  original : Policy
  state : OperationState
  deriving DecidableEq, Repr

instance {Policy : Type} : Keyed (ClockOperation Policy) String := ⟨fun row => row.operationId⟩

/-- The states of a recovery attempt. -/
inductive AttemptState
  | claimed
  | restored
  | failed
  deriving DecidableEq, Repr

/-- A row of `clock_recovery_attempts`. -/
structure RecoveryAttempt where
  attemptId : String
  operationId : String
  resourceId : String
  authorizationId : String
  fencingToken : Int
  state : AttemptState
  deriving DecidableEq, Repr

instance : Keyed RecoveryAttempt String := ⟨fun row => row.attemptId⟩

/-- The state of an event: that of the operation, or the claim or the end of an attempt. -/
inductive EventState
  | entered (state : OperationState)
  | recoveryClaimed (attemptId : String)
  | recoveryRestored (attemptId : String)
  | recoveryFailed (attemptId : String)
  deriving DecidableEq, Repr

/-- The state of the operation after an event. -/
def EventState.operationState : EventState → OperationState
  | .entered state => state
  | .recoveryClaimed _ => .recoveryClaimed
  | .recoveryRestored _ => .restored
  | .recoveryFailed _ => .reconciliationRequired

/-- A row of `clock_events`. -/
structure ClockEvent where
  operationId : String
  state : EventState
  deriving DecidableEq, Repr

/-- The tables of the journal. -/
structure Journal (Policy : Type) where
  operations : Table (ClockOperation Policy) := ∅
  events : List ClockEvent := []
  attempts : Table RecoveryAttempt := ∅

/-! ## Transactions -/

section Transactions

variable {Policy : Type}

/-- The state of an operation is set. -/
def setState (state : OperationState) (row : ClockOperation Policy) : ClockOperation Policy :=
  { row with state := state }

instance (state : OperationState) :
    KeepsKey (setState state : ClockOperation Policy → ClockOperation Policy) := ⟨fun _ => rfl⟩

/-- The state of an attempt is set. -/
def setAttemptState (state : AttemptState) (row : RecoveryAttempt) : RecoveryAttempt :=
  { row with state := state }

instance (state : AttemptState) : KeepsKey (setAttemptState state) := ⟨fun _ => rfl⟩

/-- `unresolved`: the operations of a resource that are not restored. -/
def Journal.unresolved (journal : Journal Policy) (resourceId : String) :
    List (ClockOperation Policy) :=
  journal.operations.rows.filter fun row => row.resourceId = resourceId ∧ row.state ≠ .restored

/-- The operation of an identifier. -/
def Journal.row (journal : Journal Policy) (operationId : String) :
    Option (ClockOperation Policy) :=
  journal.operations.find? operationId

/-- The state of an operation is written, with its event. -/
def Journal.enter (journal : Journal Policy) (operationId : String) (event : EventState) :
    Journal Policy :=
  { journal with
    operations := journal.operations.update operationId (setState event.operationState)
    events := journal.events ++ [⟨operationId, event⟩] }

/-- `begin`, with the fresh identifier of the operation. -/
def begin (operationId resourceId authorizationId : String) (original : Policy)
    (journal : Journal Policy) : Except String (Journal Policy) := do
  require (journal.row operationId = none ∧ journal.unresolved resourceId = [])
    "unresolved clock operation blocks resource reuse"
  return { journal with
    operations := journal.operations.insertIfAbsent {
      operationId := operationId
      resourceId := resourceId
      authorizationId := authorizationId
      original := original
      state := .mutationPossible }
    events := journal.events ++ [⟨operationId, .entered .mutationPossible⟩] }

/-- The transitions a session may make. -/
def allowed : OperationState → List OperationState
  | .mutationPossible => [.active, .restoring, .reconciliationRequired]
  | .active => [.restoring, .reconciliationRequired]
  | .restoring => [.restored, .reconciliationRequired]
  | _ => []

/-- `transition`. -/
def transition (operationId : String) (expected state : OperationState)
    (journal : Journal Policy) : Except String (Journal Policy) := do
  require (state ∈ allowed expected) "invalid clock journal transition"
  require (∃ row ∈ journal.row operationId, row.state = expected)
    "clock journal state changed or operation missing"
  return journal.enter operationId (.entered state)

/-- The states in which an operation can be recovered. -/
def recoverable : List OperationState :=
  [.mutationPossible, .active, .restoring, .reconciliationRequired]

/-- `claim_recovery`, with the fresh identifier of the attempt and the test for a blank
text. It returns the operation as it was. -/
def claimRecovery (blank : String → Bool) (attemptId resourceId authorizationId : String)
    (fencingToken : Int) (journal : Journal Policy) :
    Except String (Journal Policy × ClockOperation Policy) := do
  require (blank authorizationId = false) "explicit recovery authorization reference required"
  require (1 ≤ fencingToken) "positive recovery fencing token required"
  match journal.unresolved resourceId with
  | [operation] =>
      require (operation.state ∈ recoverable) "clock operation is not available for recovery"
      require (journal.attempts.find? attemptId = none ∧ ∀ attempt ∈ journal.attempts.rows,
        attempt.resourceId = resourceId → attempt.state ≠ .claimed)
        "another clock recovery attempt is active"
      let entered := journal.enter operation.operationId (.recoveryClaimed attemptId)
      return ({ entered with attempts := journal.attempts.insertIfAbsent {
        attemptId := attemptId
        operationId := operation.operationId
        resourceId := resourceId
        authorizationId := authorizationId
        fencingToken := fencingToken
        state := .claimed } }, operation)
  | _ => .error "clock operation is not available for recovery"

/-- The event of the end of an attempt. -/
def finishEvent (attemptId : String) (restored : Bool) : EventState :=
  if restored then .recoveryRestored attemptId else .recoveryFailed attemptId

/-- `finish_recovery`. -/
def finishRecovery (attemptId : String) (restored : Bool) (journal : Journal Policy) :
    Except String (Journal Policy) := do
  require (attemptId ≠ "") "recovery attempt id required"
  let attempt ← requireSome ((journal.attempts.find? attemptId).filter fun attempt =>
    attempt.state = .claimed) "clock recovery attempt is missing or already finished"
  require (∃ row ∈ journal.row attempt.operationId, row.state = .recoveryClaimed)
    "clock recovery no longer owns the journal operation"
  let entered := journal.enter attempt.operationId (finishEvent attemptId restored)
  let ended := setAttemptState (if restored then .restored else .failed)
  return { entered with attempts := journal.attempts.update attemptId ended }

end Transactions

/-! ## What the transactions write -/

section Specs

variable {Policy : Type} {journal journal' : Journal Policy} {row : ClockOperation Policy}
variable {operationId resourceId authorizationId attemptId k : String}

theorem row_key (found : journal.row k = some row) : row.operationId = k :=
  Table.key_of_find? found

theorem mem_unresolved : row ∈ journal.unresolved resourceId ↔
    journal.row row.operationId = some row ∧ row.resourceId = resourceId ∧
      row.state ≠ .restored := by
  have there : journal.row row.operationId = some row ↔ row ∈ journal.operations.rows :=
    Table.find?_eq_some_iff.trans (and_iff_left rfl)
  rw [Journal.unresolved, List.mem_filter, there]
  simp

theorem row_enter (found : journal.row operationId = some row) (event : EventState) (k : String) :
    (journal.enter operationId event).row k =
      if k = operationId then some (setState event.operationState row) else journal.row k :=
  Table.find?_update_known found k

theorem begin_spec {original : Policy}
    (ok : begin operationId resourceId authorizationId original journal = .ok journal') :
    journal.row operationId = none ∧ journal.unresolved resourceId = [] ∧
      (∀ k, journal'.row k = if k = operationId then
        some ⟨operationId, resourceId, authorizationId, original, .mutationPossible⟩
        else journal.row k) ∧
      journal'.events = journal.events ++ [⟨operationId, .entered .mutationPossible⟩] ∧
      journal'.attempts = journal.attempts := by
  obtain ⟨_, free, ok⟩ := Except.bind_eq_ok.mp ok
  obtain ⟨absent, clear⟩ := require_eq_ok.mp free
  cases ok
  have absent' : journal.operations.find? (key (⟨operationId, resourceId, authorizationId, original,
      .mutationPossible⟩ : ClockOperation Policy)) = none := absent
  exact ⟨absent, clear, Table.find?_insert_new absent', rfl, rfl⟩

theorem transition_spec {expected state : OperationState}
    (ok : transition operationId expected state journal = .ok journal') :
    state ∈ allowed expected ∧ ∃ row, journal.row operationId = some row ∧ row.state = expected ∧
      journal' = journal.enter operationId (.entered state) := by
  obtain ⟨_, isAllowed, ok⟩ := Except.bind_eq_ok.mp ok
  obtain ⟨_, found, ok⟩ := Except.bind_eq_ok.mp ok
  obtain ⟨row, there, same⟩ := require_eq_ok.mp found
  cases ok
  exact ⟨require_eq_ok.mp isAllowed, row, there, same, rfl⟩

theorem claimRecovery_spec {blank : String → Bool} {fencingToken : Int}
    (ok : claimRecovery blank attemptId resourceId authorizationId fencingToken journal =
      .ok (journal', row)) :
    journal.row row.operationId = some row ∧ row.resourceId = resourceId ∧
      row.state ∈ recoverable ∧ journal.attempts.find? attemptId = none ∧
      (∀ k, journal'.row k = (journal.enter row.operationId (.recoveryClaimed attemptId)).row k) ∧
      journal'.events = journal.events ++ [⟨row.operationId, .recoveryClaimed attemptId⟩] ∧
      ∀ k, journal'.attempts.find? k = if k = attemptId then
        some ⟨attemptId, row.operationId, resourceId, authorizationId, fencingToken, .claimed⟩
        else journal.attempts.find? k := by
  obtain ⟨_, -, ok⟩ := Except.bind_eq_ok.mp ok
  obtain ⟨_, -, ok⟩ := Except.bind_eq_ok.mp ok
  split at ok
  · rename_i operation only
    obtain ⟨_, isRecoverable, ok⟩ := Except.bind_eq_ok.mp ok
    obtain ⟨_, free, ok⟩ := Except.bind_eq_ok.mp ok
    obtain ⟨absent, -⟩ := require_eq_ok.mp free
    cases ok
    obtain ⟨there, same, -⟩ := mem_unresolved.mp
      (show row ∈ journal.unresolved resourceId by rw [only]; exact List.mem_cons_self)
    exact ⟨there, same, require_eq_ok.mp isRecoverable, absent, fun k => rfl, rfl,
      fun k => Table.find?_insert_new absent k⟩
  · cases ok

theorem finishRecovery_spec {restored : Bool}
    (ok : finishRecovery attemptId restored journal = .ok journal') :
    ∃ attempt row, journal.attempts.find? attemptId = some attempt ∧ attempt.state = .claimed ∧
      journal.row attempt.operationId = some row ∧ row.state = .recoveryClaimed ∧
      (∀ k, journal'.row k =
        (journal.enter attempt.operationId (finishEvent attemptId restored)).row k) ∧
      journal'.events = journal.events ++ [⟨attempt.operationId, finishEvent attemptId restored⟩] ∧
      ∀ k, journal'.attempts.find? k = if k = attemptId then
        some (setAttemptState (if restored then .restored else .failed) attempt)
        else journal.attempts.find? k := by
  obtain ⟨_, -, ok⟩ := Except.bind_eq_ok.mp ok
  obtain ⟨attempt, found, ok⟩ := Except.bind_eq_ok.mp ok
  obtain ⟨there, claimed⟩ := Option.filter_eq_some_iff.mp (requireSome_eq_ok.mp found)
  obtain ⟨_, owned, ok⟩ := Except.bind_eq_ok.mp ok
  obtain ⟨row, here, state⟩ := require_eq_ok.mp owned
  cases ok
  exact ⟨attempt, row, there, of_decide_eq_true claimed, here, state, fun k => rfl, rfl,
    fun k => Table.find?_update_known there k⟩

end Specs

/-! ## What the tables keep -/

/-- The steps of the state graph. -/
def Edge (state state' : OperationState) : Prop :=
  state' ∈ allowed state ∨ (state ∈ recoverable ∧ state' = .recoveryClaimed) ∨
    (state = .recoveryClaimed ∧ state' ∈ [OperationState.restored, .reconciliationRequired])

instance (state state' : OperationState) : Decidable (Edge state state') :=
  inferInstanceAs (Decidable (_ ∨ _))

/-- The paths of the state graph from the first state of an operation. -/
inductive LogPath : List OperationState → OperationState → Prop
  | start : LogPath [.mutationPossible] .mutationPossible
  | step {states : List OperationState} {state state' : OperationState}
      (path : LogPath states state) (edge : Edge state state') : LogPath (states ++ [state']) state'

/-- A restored operation has no next state. -/
theorem not_edge_restored (state : OperationState) : ¬Edge .restored state := by
  cases state <;> decide

section Soundness

variable {Policy : Type}

/-- The states of an operation, as its events record them. -/
def Journal.log (journal : Journal Policy) (operationId : String) : List OperationState :=
  (journal.events.filter fun event => event.operationId = operationId).map fun event =>
    event.state.operationState

/-- What every journal satisfies. -/
structure Journal.Sound (journal : Journal Policy) : Prop where
  one : ∀ k l row row', journal.row k = some row → journal.row l = some row' →
    row.resourceId = row'.resourceId → row.state ≠ .restored → row'.state ≠ .restored → k = l
  log : ∀ k row, journal.row k = some row → LogPath (journal.log k) row.state
  logged : ∀ k, journal.row k = none → journal.log k = []
  claim : ∀ k attempt, journal.attempts.find? k = some attempt → attempt.state = .claimed →
    ∃ row, journal.row attempt.operationId = some row ∧ row.state = .recoveryClaimed
  oneClaim : ∀ k l attempt attempt', journal.attempts.find? k = some attempt →
    journal.attempts.find? l = some attempt' → attempt.state = .claimed →
      attempt'.state = .claimed → attempt.operationId = attempt'.operationId → k = l

theorem Journal.sound_empty : ({} : Journal Policy).Sound := by
  constructor <;> intros <;> first | rfl | contradiction

variable {journal journal' : Journal Policy} {row : ClockOperation Policy} {attemptId : String}

theorem log_append {operationId : String} {event : EventState} {k : String}
    (same : journal'.events = journal.events ++ [⟨operationId, event⟩]) :
    journal'.log k = if k = operationId then journal.log k ++ [event.operationState]
      else journal.log k := by
  rw [Journal.log, same, List.filter_append, List.map_append]
  by_cases own : k = operationId
  · subst own
    simp [Journal.log]
  · simp [Journal.log, own, Ne.symm own]

/-- **An operation that goes on along the state graph.** The rows and the log of the journal
stay sound; what the attempts ask is left. -/
theorem Journal.Sound.enter (sound : journal.Sound) {operationId : String} {event : EventState}
    (found : journal.row operationId = some row) (edge : Edge row.state event.operationState)
    (rows : ∀ k, journal'.row k = (journal.enter operationId event).row k)
    (events : journal'.events = journal.events ++ [⟨operationId, event⟩])
    (claim : ∀ k attempt, journal'.attempts.find? k = some attempt → attempt.state = .claimed →
      ∃ row, journal'.row attempt.operationId = some row ∧ row.state = .recoveryClaimed)
    (oneClaim : ∀ k l attempt attempt', journal'.attempts.find? k = some attempt →
      journal'.attempts.find? l = some attempt' → attempt.state = .claimed →
        attempt'.state = .claimed → attempt.operationId = attempt'.operationId → k = l) :
    journal'.Sound := by
  have unresolved : row.state ≠ .restored := fun restored => not_edge_restored _ (restored ▸ edge)
  -- the row of a key before the step, unresolved if it is unresolved after it
  have before : ∀ k row', journal'.row k = some row' → ∃ old, journal.row k = some old ∧
      old.resourceId = row'.resourceId ∧ (row'.state ≠ .restored → old.state ≠ .restored) := by
    intro k row' there
    rw [rows, row_enter found] at there
    by_cases own : k = operationId
    · rw [if_pos own] at there
      cases there
      exact ⟨row, own ▸ found, rfl, fun _ => unresolved⟩
    · rw [if_neg own] at there
      exact ⟨row', there, rfl, id⟩
  refine ⟨?_, ?_, ?_, claim, oneClaim⟩
  · intro k l first second there there' same open_ open'
    obtain ⟨old, oldThere, oldSame, oldOpen⟩ := before k first there
    obtain ⟨old', oldThere', oldSame', oldOpen'⟩ := before l second there'
    exact sound.one k l old old' oldThere oldThere' (by rw [oldSame, oldSame', same])
      (oldOpen open_) (oldOpen' open')
  · intro k row' there
    rw [rows, row_enter found] at there
    rw [log_append events]
    by_cases own : k = operationId
    · rw [if_pos own] at there ⊢
      cases there
      exact .step (sound.log k row (own ▸ found)) edge
    · rw [if_neg own] at there ⊢
      exact sound.log k row' there
  · intro k absent
    rw [rows, row_enter found] at absent
    rw [log_append events]
    by_cases own : k = operationId
    · rw [if_pos own] at absent
      cases absent
    · rw [if_neg own] at absent ⊢
      exact sound.logged k absent

theorem Journal.Sound.begin {operationId resourceId authorizationId : String} {original : Policy}
    (sound : journal.Sound)
    (ok : Clock.begin operationId resourceId authorizationId original journal = .ok journal') :
    journal'.Sound := by
  obtain ⟨absent, clear, rows, events, attempts⟩ := begin_spec ok
  have other : ∀ k row', journal.row k = some row' → row'.resourceId = resourceId →
      row'.state = .restored := by
    intro k row' there same
    by_contra open_
    have listed := mem_unresolved.mpr ⟨(row_key there).symm ▸ there, same, open_⟩
    rw [clear] at listed
    cases listed
  refine ⟨?_, ?_, ?_, ?_, ?_⟩
  · intro k l first second there there' same open_ open'
    rw [rows] at there there'
    by_cases own : k = operationId <;> by_cases own' : l = operationId
    · rw [own, own']
    · rw [if_pos own] at there
      rw [if_neg own'] at there'
      cases there
      exact absurd (other l second there' same.symm) open'
    · rw [if_neg own] at there
      rw [if_pos own'] at there'
      cases there'
      exact absurd (other k first there same) open_
    · rw [if_neg own] at there
      rw [if_neg own'] at there'
      exact sound.one k l first second there there' same open_ open'
  · intro k row' there
    rw [rows] at there
    rw [log_append events]
    by_cases own : k = operationId
    · rw [if_pos own] at there ⊢
      cases there
      rw [sound.logged k (own ▸ absent)]
      exact .start
    · rw [if_neg own] at there ⊢
      exact sound.log k row' there
  · intro k none
    rw [rows] at none
    rw [log_append events]
    by_cases own : k = operationId
    · rw [if_pos own] at none
      cases none
    · rw [if_neg own] at none ⊢
      exact sound.logged k none
  · intro k attempt there claimed
    rw [attempts] at there
    obtain ⟨row, here, state⟩ := sound.claim k attempt there claimed
    refine ⟨row, ?_, state⟩
    rw [rows, if_neg, here]
    rintro same
    rw [same, absent] at here
    cases here
  · rw [attempts]
    exact sound.oneClaim

theorem Journal.Sound.transition {operationId : String} {expected state : OperationState}
    (sound : journal.Sound)
    (ok : Clock.transition operationId expected state journal = .ok journal') :
    journal'.Sound := by
  obtain ⟨isAllowed, row, found, same, rfl⟩ := transition_spec ok
  refine sound.enter found (.inl (same ▸ isAllowed)) (fun _ => rfl) rfl ?_ sound.oneClaim
  intro k attempt there claimed
  obtain ⟨row', here, state'⟩ := sound.claim k attempt there claimed
  refine ⟨row', ?_, state'⟩
  rw [row_enter found, if_neg, here]
  intro own
  rw [own, found] at here
  cases here
  rw [← same, state'] at isAllowed
  cases isAllowed

theorem Journal.Sound.claimRecovery {blank : String → Bool} {resourceId authorizationId : String}
    {fencingToken : Int} (sound : journal.Sound)
    (ok : Clock.claimRecovery blank attemptId resourceId authorizationId fencingToken journal =
      .ok (journal', row)) : journal'.Sound := by
  obtain ⟨found, -, isRecoverable, absent, rows, events, attempts⟩ := claimRecovery_spec ok
  -- a claimed attempt of before is one of another operation
  have other : ∀ k attempt, journal.attempts.find? k = some attempt → attempt.state = .claimed →
      attempt.operationId ≠ row.operationId := by
    intro k attempt there claimed own
    obtain ⟨row', here, state⟩ := sound.claim k attempt there claimed
    rw [own, found] at here
    cases here
    rw [state] at isRecoverable
    revert isRecoverable
    decide
  refine sound.enter found (.inr (.inl ⟨isRecoverable, rfl⟩)) rows events ?_ ?_
  · intro k attempt there claimed
    rw [attempts] at there
    by_cases own : k = attemptId
    · rw [if_pos own] at there
      cases there
      exact ⟨_, by rw [rows, row_enter found, if_pos rfl], rfl⟩
    · rw [if_neg own] at there
      obtain ⟨row', here, state⟩ := sound.claim k attempt there claimed
      exact ⟨row', by rw [rows, row_enter found, if_neg (other k attempt there claimed), here],
        state⟩
  · intro k l first second there there' claimed claimed' same
    rw [attempts] at there there'
    by_cases own : k = attemptId <;> by_cases own' : l = attemptId
    · rw [own, own']
    · rw [if_pos own] at there
      rw [if_neg own'] at there'
      cases there
      exact absurd same.symm (other l second there' claimed')
    · rw [if_neg own] at there
      rw [if_pos own'] at there'
      cases there'
      exact absurd same (other k first there claimed)
    · rw [if_neg own] at there
      rw [if_neg own'] at there'
      exact sound.oneClaim k l first second there there' claimed claimed' same

theorem Journal.Sound.finishRecovery {restored : Bool} (sound : journal.Sound)
    (ok : Clock.finishRecovery attemptId restored journal = .ok journal') : journal'.Sound := by
  obtain ⟨attempt, row, there, claimed, found, state, rows, events, attempts⟩ :=
    finishRecovery_spec ok
  -- what is claimed afterwards was claimed before, and is another attempt
  have before : ∀ k other, journal'.attempts.find? k = some other → other.state = .claimed →
      k ≠ attemptId ∧ journal.attempts.find? k = some other := by
    intro k other there' claimed'
    rw [attempts] at there'
    by_cases own : k = attemptId
    · rw [if_pos own] at there'
      cases there'
      cases restored <;> cases claimed'
    · rw [if_neg own] at there'
      exact ⟨own, there'⟩
  have edge : Edge row.state (finishEvent attemptId restored).operationState := by
    rw [state]
    cases restored <;> exact .inr (.inr ⟨rfl, by simp [finishEvent, EventState.operationState]⟩)
  refine sound.enter found edge rows events ?_ ?_
  · intro k other there' claimed'
    obtain ⟨apart, there'⟩ := before k other there' claimed'
    obtain ⟨row', here, state'⟩ := sound.claim k other there' claimed'
    refine ⟨row', ?_, state'⟩
    rw [rows, row_enter found, if_neg, here]
    intro own
    exact apart (sound.oneClaim k attemptId other attempt there' there claimed' claimed own)
  · intro k l first second there' there'' claimed' claimed'' same
    exact sound.oneClaim k l first second (before k first there' claimed').2
      (before l second there'' claimed'').2 claimed' claimed'' same

end Soundness

end Clock

end HcuAutoOpt
