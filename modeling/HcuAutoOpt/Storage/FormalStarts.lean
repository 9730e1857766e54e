import Mathlib.Data.List.Sort
import HcuAutoOpt.Foundation.CommittedCalls
import HcuAutoOpt.Storage.Schema

/-!
# Formal start intents

The operations of `storage/repository.py` on the start intents of formal rounds:
`create_formal_start_intent`, `get_formal_start_intent`,
`get_formal_start_intent_by_idempotency`, `record_formal_start_reconciliation`,
`cancel_formal_start_intent` and `list_recoverable_formal_start_intent_ids`.

A write checks the constraints of the table on the row it writes and appends one event, whose
sequence number is the version of the row. A row is returned through `_formal_start_intent`
after its transaction has committed, so a row that is not a consistent view raises there and
stays committed.
-/

set_option autoImplicit false

namespace HcuAutoOpt

open Foundation

/-! ## Rows and events -/

/-- `_formal_start_intent`: a row as a validated view. -/
def formalStartIntent (row : FormalStartIntent) : Except Error FormalStartIntentView :=
  if consistent : row.ConsistentState then .ok ⟨row, consistent⟩
  else .error (.validationError "FormalStartIntentView")

theorem formalStartIntent_eq_ok {row : FormalStartIntent} {view : FormalStartIntentView} :
    formalStartIntent row = .ok view ↔ row = view.val := by
  obtain ⟨intent, consistent⟩ := view
  by_cases holds : row.ConsistentState
  · simp [formalStartIntent, holds]
  · simp only [formalStartIntent, holds, dite_false, reduceCtorEq, false_iff]
    rintro rfl
    exact holds consistent

namespace FormalStartTables

variable (tables : FormalStartTables)

/-- The events of an intent, oldest first. -/
def eventsOf (intentId : Uuid) : List FormalStartEvent :=
  tables.events.rows.filter fun event => decide (event.intentId = intentId)

/-- Append an event under a new sequence number. -/
def append (event : FormalStartEvent) : Except Error FormalStartTables := do
  require (tables.events.find? (key event) = none)
    (.databaseError "formal_operator_start_intent_events")
  return { tables with events := tables.events.insertIfAbsent event }

end FormalStartTables

/-- The tables of formal starts, replaced. -/
def Store.withFormalStarts (s : Store) (tables : FormalStartTables) : Store :=
  { s with formalStarts := tables }

@[simp] theorem Store.withFormalStarts_formalStarts (s : Store) (tables : FormalStartTables) :
    (s.withFormalStarts tables).formalStarts = tables := rfl

@[simp] theorem Store.withFormalStarts_withFormalStarts (s : Store)
    (tables tables' : FormalStartTables) :
    (s.withFormalStarts tables).withFormalStarts tables' = s.withFormalStarts tables' := rfl

@[simp] theorem Store.withFormalStarts_self (s : Store) :
    s.withFormalStarts s.formalStarts = s := rfl

/-- The write of a row violates a constraint of the table, or it does not. -/
def FormalStartIntent.requireChecked (row : FormalStartIntent) : Except Error Unit :=
  require row.Checked (.databaseError "formal_operator_start_intents")

/-! ## Creation -/

namespace FormalStartIntent

/-- The row that a creation inserts. -/
def opened (intent : FormalStartIntent) : FormalStartIntent where
  toFormalStartIdentity := intent.toFormalStartIdentity
  state := .awaitingAuthority
  blockerCodes := intent.blockerCodes
  createdAt := intent.createdAt
  updatedAt := intent.updatedAt

/-- The event of a creation. -/
def createdEvent (intent : FormalStartIntent) : FormalStartEvent where
  intentId := intent.intentId
  sequence := 1
  eventType := .created
  state := .awaitingAuthority
  blockerCodes := intent.blockerCodes
  occurredAt := intent.createdAt

/-- The unique columns of the table. -/
def clashes (intent row : FormalStartIntent) : Bool :=
  decide (row.intentId = intent.intentId ∨ row.previewId = intent.previewId ∨
    row.idempotencyKey = intent.idempotencyKey ∨ row.taskId = intent.taskId ∨
    row.roundId = intent.roundId)

/-- The columns by which a refused creation looks for the intent it replays. -/
def selects (intent row : FormalStartIntent) : Bool :=
  decide (row.intentId = intent.intentId ∨ row.previewId = intent.previewId ∨
    row.idempotencyKey = intent.idempotencyKey)

/-- The row is the intent that the request asks for. -/
def Replays (row intent : FormalStartIntent) : Prop :=
  row.toFormalStartIdentity = intent.toFormalStartIdentity ∧ row.NonExecuting

instance (row intent : FormalStartIntent) : Decidable (row.Replays intent) :=
  inferInstanceAs (Decidable (_ ∧ _))

end FormalStartIntent

/-- The only row of a result. -/
def single? {α : Type} : List α → Option α
  | [row] => some row
  | _ => none

/-- `create_formal_start_intent`. -/
def createFormalStartIntent (intent : FormalStartIntentView) :
    Transaction Store Error (FormalStartIntent × Bool) := fun s => do
  require (intent.val.state = .awaitingAuthority ∧ intent.val.NonExecuting)
    (.conflict "new Formal StartIntent must be non-executing and awaiting Authority")
  intent.val.opened.requireChecked
  if s.formalStarts.intents.rows.any intent.val.clashes then
    let row ← requireSome (single? (s.formalStarts.intents.rows.filter intent.val.selects))
      (.conflict "Formal Start idempotency or Preview identity was reused")
    require (row.Replays intent.val)
      (.conflict "Formal Start idempotency or Preview identity was reused")
    return (s, row, false)
  else
    let tables ← FormalStartTables.append
      { s.formalStarts with
        intents := s.formalStarts.intents.insertIfAbsent intent.val.opened }
      intent.val.createdEvent
    return (s.withFormalStarts tables, intent.val.opened, true)

/-! ## Reading -/

/-- `get_formal_start_intent`. -/
def getFormalStartIntent (s : Store) (intentId : Uuid) : Except Error FormalStartIntentView := do
  let row ← requireRow (s.formalStarts.intents.find? intentId)
    s!"Formal StartIntent not found: {intentId}"
  formalStartIntent row

/-- `get_formal_start_intent_by_idempotency`. -/
def getFormalStartIntentByIdempotency (s : Store) (idempotencyKey : String) :
    Except Error (Option FormalStartIntentView) :=
  match s.formalStarts.intents.rows.find? fun row =>
      decide (row.idempotencyKey = idempotencyKey) with
  | none => .ok none
  | some row => (formalStartIntent row).map some

/-- The order in which recovery takes the intents: `ORDER BY updated_at, intent_id`. -/
def FormalStartIntent.ListedBefore (row other : FormalStartIntent) : Prop :=
  row.updatedAt < other.updatedAt ∨
    row.updatedAt = other.updatedAt ∧ row.intentId.toNat ≤ other.intentId.toNat

instance : DecidableRel FormalStartIntent.ListedBefore := fun _ _ =>
  inferInstanceAs (Decidable (_ ∨ _))

/-- The recoverable rows, in the order in which recovery takes them. -/
def FormalStartTables.recoverable (tables : FormalStartTables) : List FormalStartIntent :=
  (tables.intents.rows.filter fun row => decide row.state.Recoverable).insertionSort
    FormalStartIntent.ListedBefore

/-- `list_recoverable_formal_start_intent_ids`. -/
def listRecoverableFormalStartIntentIds (s : Store) (limit : Int) : Except Error (List Uuid) := do
  require (1 ≤ limit ∧ limit ≤ 1000)
    (.valueError "Formal Start recovery limit must be between 1 and 1000")
  return (s.formalStarts.recoverable.take limit.toNat).map fun row => row.intentId

/-! ## Reconciliation -/

/-- The arguments of a reconciliation. -/
structure FormalStartReconciliation where
  state : FormalStartState
  blockerCodes : List String := []
  checkedAt : Int
  errorCode : Option String := none
  errorMessage : Option String := none
  deriving DecidableEq, Repr

namespace FormalStartReconciliation

variable (outcome : FormalStartReconciliation)

/-- The checks of the arguments. -/
def validate : Except Error Unit := do
  require (outcome.state ≠ .cancelled)
    (.valueError "invalid Formal Start reconciliation state")
  require (CanonicalCodes outcome.blockerCodes)
    (.valueError "Formal Start blocker codes must be canonical")
  require (¬ (outcome.state = .awaitingAuthority ∧ outcome.blockerCodes = []))
    (.valueError "awaiting Formal Start reconciliation requires blockers")
  require (¬ (outcome.state ≠ .awaitingAuthority ∧ outcome.blockerCodes ≠ []))
    (.valueError "terminal/ready Formal Start reconciliation cannot carry blockers")
  require (outcome.state = .failed ↔
      (outcome.errorCode.isSome = true ∧ outcome.errorMessage.isSome = true))
    (.valueError "failed Formal Start reconciliation requires one safe error")

/-- The update of a reconciled row. -/
def apply (row : FormalStartIntent) : FormalStartIntent :=
  { row with
    state := outcome.state
    blockerCodes := outcome.blockerCodes
    errorCode := outcome.errorCode
    errorMessage := outcome.errorMessage
    authorityReconcileCount := row.authorityReconcileCount + 1
    version := row.version + 1
    updatedAt := outcome.checkedAt
    lastReconciledAt := some outcome.checkedAt
    readyAt := if outcome.state = .readyForRoundCreation then some outcome.checkedAt else none
    authorityReady := decide (outcome.state = .readyForRoundCreation) }

instance : KeepsKey outcome.apply := ⟨fun _ => rfl⟩

/-- The event of a reconciliation that leaves a row behind. -/
def event (row : FormalStartIntent) : FormalStartEvent where
  intentId := row.intentId
  sequence := row.version
  eventType := .reconciled
  state := outcome.state
  blockerCodes := outcome.blockerCodes
  errorCode := outcome.errorCode
  occurredAt := outcome.checkedAt

end FormalStartReconciliation

/-- `record_formal_start_reconciliation`. A settled intent is returned as it is. -/
def recordFormalStartReconciliation (intentId : Uuid) (outcome : FormalStartReconciliation) :
    Transaction Store Error FormalStartIntent := fun s => do
  outcome.validate
  let row ← requireRow (s.formalStarts.intents.find? intentId)
    s!"Formal StartIntent not found: {intentId}"
  if row.state.Settled then
    return (s, row)
  else
    (outcome.apply row).requireChecked
    let tables ← FormalStartTables.append
      { s.formalStarts with intents := s.formalStarts.intents.update intentId outcome.apply }
      (outcome.event (outcome.apply row))
    return (s.withFormalStarts tables, outcome.apply row)

/-! ## Cancellation -/

namespace FormalStartIntent

/-- The update of a cancelled row. -/
def cancelAt (cancelledAt : Int) (row : FormalStartIntent) : FormalStartIntent :=
  { row with
    state := .cancelled
    blockerCodes := []
    readyAt := none
    authorityReady := false
    cancelledAt := some cancelledAt
    version := row.version + 1
    updatedAt := cancelledAt }

instance (cancelledAt : Int) : KeepsKey (cancelAt cancelledAt) := ⟨fun _ => rfl⟩

/-- The event of a cancellation that leaves the row behind. -/
def cancelledEvent (cancelledAt : Int) (row : FormalStartIntent) : FormalStartEvent where
  intentId := row.intentId
  sequence := row.version
  eventType := .cancelled
  state := .cancelled
  blockerCodes := []
  occurredAt := cancelledAt

end FormalStartIntent

/-- `cancel_formal_start_intent`. -/
def cancelFormalStartIntent (intentId : Uuid) (cancelledAt : Int) :
    Transaction Store Error FormalStartIntent := fun s => do
  let row ← requireRow (s.formalStarts.intents.find? intentId)
    s!"Formal StartIntent not found: {intentId}"
  if row.state = .cancelled then
    return (s, row)
  else
    require (row.state ≠ .failed) (.conflict "failed Formal StartIntent cannot be cancelled")
    (row.cancelAt cancelledAt).requireChecked
    let tables ← FormalStartTables.append
      { s.formalStarts with
        intents := s.formalStarts.intents.update intentId (FormalStartIntent.cancelAt cancelledAt) }
      ((row.cancelAt cancelledAt).cancelledEvent cancelledAt)
    return (s.withFormalStarts tables, row.cancelAt cancelledAt)

end HcuAutoOpt
