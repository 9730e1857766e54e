import HcuAutoOpt.Foundation.Runs
import HcuAutoOpt.Operator.FormalStart

/-!
# The integrity of formal start intents

The deployments that share a store open intents, read them, record verdicts on them and cancel
them, each write in a transaction of its own (`FormalStartCall`, `FormalStartStep`). A verdict
belongs to the intent as the coordinator read it, and may be recorded any time later; a
reconciliation and a recovery are runs of these calls (`FormalStartCoordinator.recover_runs`).

What a write does to the tables is said once (`createFormalStartIntent_cases`,
`recordFormalStartReconciliation_cases`, `cancelFormalStartIntent_cases`): it changes nothing, it
opens an intent under new identifiers, or it moves one unsettled row and appends its event. From
these come the invariant of the tables (`FormalStartTables.Sound`), the permanence of settled
rows and where a ready row comes from (`FormalStartCall.MakesReady`).

**Main result.** `formal_start_integrity`: in every state that any run reaches, versions count
events, the columns follow the state, settled rows stay, a ready row was made ready by a
reconciliation that its authorities cover, and no other table was written.
-/

set_option autoImplicit false

namespace HcuAutoOpt

open Foundation

/-! ## What a write does -/

namespace FormalStartTables

variable (tables : FormalStartTables)

/-- The tables after an intent is opened. -/
def opens (intent : FormalStartIntent) : FormalStartTables where
  intents := tables.intents.insertIfAbsent intent.opened
  events := tables.events.insertIfAbsent intent.createdEvent

/-- The tables after a row is rewritten and its event appended. -/
def rewrites (intentId : Uuid) (f : FormalStartIntent → FormalStartIntent) [KeepsKey f]
    (event : FormalStartEvent) : FormalStartTables where
  intents := tables.intents.update intentId f
  events := tables.events.insertIfAbsent event

theorem append_eq_ok {event : FormalStartEvent} {after : FormalStartTables} :
    tables.append event = .ok after ↔
      tables.events.find? (key event) = none ∧
        after = { tables with events := tables.events.insertIfAbsent event } := by
  simp only [append, Except.bind_eq_ok, require_eq_ok, exists_and_left, exists_const]
  exact and_congr_right fun _ => ⟨fun same => (Except.ok.inj same).symm, fun same => same ▸ rfl⟩

end FormalStartTables

/-- A creation replays, or opens its intent under new identifiers. -/
theorem createFormalStartIntent_cases {intent : FormalStartIntentView} {s t : Store}
    {reply : FormalStartIntent × Bool} (ok : createFormalStartIntent intent s = .ok (t, reply)) :
    t = s ∨ intent.val.opened.Checked ∧
      (∀ row ∈ s.formalStarts.intents, intent.val.clashes row = false) ∧
      s.formalStarts.events.find? (intent.val.intentId, 1) = none ∧
      t = s.withFormalStarts (s.formalStarts.opens intent.val) := by
  unfold createFormalStartIntent FormalStartIntent.requireChecked at ok
  simp only [Except.bind_eq_ok, require_eq_ok, exists_and_left, exists_const] at ok
  obtain ⟨-, checked, ok⟩ := ok
  split at ok
  case isTrue =>
    simp only [Except.bind_eq_ok] at ok
    obtain ⟨_, -, _, -, ok⟩ := ok
    cases ok
    exact .inl rfl
  case isFalse fresh =>
    simp only [Except.bind_eq_ok, FormalStartTables.append_eq_ok] at ok
    obtain ⟨_, ⟨absent, rfl⟩, ok⟩ := ok
    cases ok
    refine .inr ⟨checked, fun row member => ?_, absent, rfl⟩
    have apart := List.any_eq_false.mp (by simpa using fresh) row member
    simpa using apart

/-- The arguments of a reconciliation never cancel, and their blocker codes are canonical. -/
theorem FormalStartReconciliation.of_validate {outcome : FormalStartReconciliation} {u : Unit}
    (ok : outcome.validate = .ok u) :
    outcome.state ≠ .cancelled ∧ CanonicalCodes outcome.blockerCodes := by
  unfold validate at ok
  simp only [Except.bind_eq_ok, require_eq_ok] at ok
  obtain ⟨_, active, _, canonical, -⟩ := ok
  exact ⟨active, canonical⟩

/-- A settled intent is left alone by a reconciliation, and any other is rewritten. -/
theorem recordFormalStartReconciliation_cases {intentId : Uuid}
    {outcome : FormalStartReconciliation} {s t : Store} {row : FormalStartIntent}
    (ok : recordFormalStartReconciliation intentId outcome s = .ok (t, row)) :
    ∃ old, s.formalStarts.intents.find? intentId = some old ∧
      (old.state.Settled ∧ t = s ∧ row = old ∨
        ¬ old.state.Settled ∧ outcome.state ≠ .cancelled ∧ CanonicalCodes outcome.blockerCodes ∧
          (outcome.apply old).Checked ∧
          s.formalStarts.events.find? (intentId, old.version + 1) = none ∧
          t = s.withFormalStarts (s.formalStarts.rewrites intentId outcome.apply
            (outcome.event (outcome.apply old))) ∧
          row = outcome.apply old) := by
  unfold recordFormalStartReconciliation FormalStartIntent.requireChecked at ok
  simp only [Except.bind_eq_ok, requireRow_eq_ok] at ok
  obtain ⟨_, valid, old, found, ok⟩ := ok
  obtain ⟨active, canonical⟩ := FormalStartReconciliation.of_validate valid
  refine ⟨old, found, ?_⟩
  split at ok
  case isTrue settled =>
    cases ok
    exact .inl ⟨settled, rfl, rfl⟩
  case isFalse unsettled =>
    simp only [Except.bind_eq_ok, require_eq_ok, FormalStartTables.append_eq_ok, exists_and_left,
      exists_const] at ok
    obtain ⟨checked, _, ⟨absent, rfl⟩, ok⟩ := ok
    cases ok
    have same : old.intentId = intentId := Table.key_of_find? found
    refine .inr ⟨unsettled, active, canonical, checked, ?_, rfl, rfl⟩
    rw [← same]
    exact absent

/-- A cancelled intent is left alone by a cancellation, and an open one is rewritten. -/
theorem cancelFormalStartIntent_cases {intentId : Uuid} {cancelledAt : Int} {s t : Store}
    {row : FormalStartIntent}
    (ok : cancelFormalStartIntent intentId cancelledAt s = .ok (t, row)) :
    ∃ old, s.formalStarts.intents.find? intentId = some old ∧
      (old.state = .cancelled ∧ t = s ∧ row = old ∨
        ¬ old.state.Settled ∧ (old.cancelAt cancelledAt).Checked ∧
          s.formalStarts.events.find? (intentId, old.version + 1) = none ∧
          t = s.withFormalStarts (s.formalStarts.rewrites intentId
            (FormalStartIntent.cancelAt cancelledAt)
            ((old.cancelAt cancelledAt).cancelledEvent cancelledAt)) ∧
          row = old.cancelAt cancelledAt) := by
  unfold cancelFormalStartIntent FormalStartIntent.requireChecked at ok
  simp only [Except.bind_eq_ok, requireRow_eq_ok] at ok
  obtain ⟨old, found, ok⟩ := ok
  refine ⟨old, found, ?_⟩
  split at ok
  case isTrue cancelled =>
    cases ok
    exact .inl ⟨cancelled, rfl, rfl⟩
  case isFalse uncancelled =>
    simp only [Except.bind_eq_ok, require_eq_ok, FormalStartTables.append_eq_ok, exists_and_left,
      exists_const] at ok
    obtain ⟨unfailed, checked, _, ⟨absent, rfl⟩, ok⟩ := ok
    cases ok
    have same : old.intentId = intentId := Table.key_of_find? found
    refine .inr ⟨fun settled => settled.elim uncancelled unfailed, checked, ?_, rfl, rfl⟩
    rw [← same]
    exact absent

/-! ## The invariant of the tables -/

/-- What the rewrites of a row have in common. -/
structure FormalStartIntent.Moved (row row' : FormalStartIntent) : Prop where
  unsettled : ¬ row.state.Settled
  identity : row'.toFormalStartIdentity = row.toFormalStartIdentity
  version : row'.version = row.version + 1
  checked : row'.Checked
  viewable : row.ConsistentState → row'.state ≠ .cancelled → row'.ConsistentState

theorem FormalStartReconciliation.moved {outcome : FormalStartReconciliation}
    {row : FormalStartIntent} (unsettled : ¬ row.state.Settled)
    (canonical : CanonicalCodes outcome.blockerCodes) (checked : (outcome.apply row).Checked) :
    row.Moved (outcome.apply row) where
  unsettled := unsettled
  identity := rfl
  version := rfl
  checked := checked
  viewable consistent open_ :=
    { toChecked := checked
      ordinals := consistent.ordinals
      canonical := canonical
      persisted := by
        have uncancelled : row.cancelledAt = none := by
          have none : ¬ row.cancelledAt.isSome = true := mt checked.columns.cancelled.mp open_
          simpa using none
        intro time member
        have here : time = outcome.checkedAt := by
          by_cases ready : outcome.state = .readyForRoundCreation <;>
            simpa [FormalStartIntent.eventTimes, apply, ready, uncancelled] using member
        exact le_of_eq here }

theorem FormalStartIntent.moved_cancelAt {row : FormalStartIntent} {cancelledAt : Int}
    (unsettled : ¬ row.state.Settled) (checked : (row.cancelAt cancelledAt).Checked) :
    row.Moved (row.cancelAt cancelledAt) where
  unsettled := unsettled
  identity := rfl
  version := rfl
  checked := checked
  viewable _ open_ := absurd rfl open_

namespace FormalStartTables

/-- The invariant of the tables: every row satisfies the constraints, every row that is not
cancelled is a view, and the events of a row are numbered up to its version. -/
structure Sound (tables : FormalStartTables) : Prop where
  checked : ∀ row ∈ tables.intents, row.Checked
  viewable : ∀ row ∈ tables.intents, row.state ≠ .cancelled → row.ConsistentState
  numbered : ∀ row ∈ tables.intents,
    (tables.eventsOf row.intentId).map FormalStartEvent.sequence = List.range' 1 row.version
  owned : ∀ event ∈ tables.events, ∃ row ∈ tables.intents, row.intentId = event.intentId

theorem Sound.empty : Sound {} where
  checked row member := absurd member (Table.not_mem_empty row)
  viewable row member := absurd member (Table.not_mem_empty row)
  numbered row member := absurd member (Table.not_mem_empty row)
  owned event member := absurd member (Table.not_mem_empty event)

variable {tables : FormalStartTables}

/-- The events of an intent after an event is inserted. -/
theorem eventsOf_insert {event : FormalStartEvent}
    (absent : tables.events.find? (key event) = none) (intentId : Uuid)
    (intents : Table FormalStartIntent) :
    eventsOf ⟨intents, tables.events.insertIfAbsent event⟩ intentId =
      tables.eventsOf intentId ++ if event.intentId = intentId then [event] else [] := by
  unfold eventsOf
  rw [Table.filter_insertIfAbsent absent]
  simp

/-- An intent that is not there has no events. -/
theorem Sound.eventsOf_eq_nil (sound : tables.Sound) {intentId : Uuid}
    (fresh : ∀ row ∈ tables.intents, row.intentId ≠ intentId) :
    tables.eventsOf intentId = [] := by
  rw [eventsOf, List.filter_eq_nil_iff]
  intro event member chosen
  obtain ⟨row, here, same⟩ := sound.owned event member
  exact fresh row here (same.trans (of_decide_eq_true chosen))

/-- Opening an intent keeps the invariant. -/
theorem Sound.opens (sound : tables.Sound) {intent : FormalStartIntent}
    (consistent : intent.ConsistentState) (checked : intent.opened.Checked)
    (fresh : ∀ row ∈ tables.intents, intent.clashes row = false)
    (absent : tables.events.find? (intent.intentId, 1) = none) :
    (tables.opens intent).Sound := by
  have apart : ∀ row ∈ tables.intents, row.intentId ≠ intent.intentId := by
    intro row member same
    have none := fresh row member
    simp [FormalStartIntent.clashes, same] at none
  have members : ∀ row, row ∈ (tables.opens intent).intents →
      row ∈ tables.intents ∨ row = intent.opened := by
    intro row member
    exact (Table.mem_insertIfAbsent.mp member).imp_right And.right
  have events : ∀ intentId, (tables.opens intent).eventsOf intentId =
      tables.eventsOf intentId ++
        if intent.intentId = intentId then [intent.createdEvent] else [] :=
    fun intentId => eventsOf_insert absent intentId _
  have inserted : intent.opened ∈ (tables.opens intent).intents := by
    refine Table.mem_insertIfAbsent.mpr (.inr ⟨?_, rfl⟩)
    exact Table.find?_eq_none_iff.mpr apart
  constructor
  case checked =>
    intro row member
    rcases members row member with old | rfl
    · exact sound.checked row old
    · exact checked
  case viewable =>
    intro row member open_
    rcases members row member with old | rfl
    · exact sound.viewable row old open_
    · exact
        { toChecked := checked
          ordinals := consistent.ordinals
          canonical := consistent.canonical
          persisted := fun time none => by simp [FormalStartIntent.eventTimes,
            FormalStartIntent.opened] at none }
  case numbered =>
    intro row member
    rw [events]
    rcases members row member with old | rfl
    · simpa [Ne.symm (apart row old)] using sound.numbered row old
    · have none : tables.eventsOf intent.intentId = [] := sound.eventsOf_eq_nil apart
      simp [FormalStartIntent.opened, none, FormalStartIntent.createdEvent]
  case owned =>
    intro event member
    rcases Table.mem_insertIfAbsent.mp member with old | ⟨-, rfl⟩
    · obtain ⟨row, here, same⟩ := sound.owned event old
      exact ⟨row, Table.mem_insertIfAbsent.mpr (.inl here), same⟩
    · exact ⟨intent.opened, inserted, rfl⟩

/-- Rewriting a row and numbering its event keeps the invariant. -/
theorem Sound.rewrites (sound : tables.Sound) {intentId : Uuid} {old : FormalStartIntent}
    {f : FormalStartIntent → FormalStartIntent} [KeepsKey f] {event : FormalStartEvent}
    (found : tables.intents.find? intentId = some old) (moved : old.Moved (f old))
    (same : (event.intentId, event.sequence) = (intentId, old.version + 1))
    (absent : tables.events.find? (intentId, old.version + 1) = none) :
    (tables.rewrites intentId f event).Sound := by
  have here := Table.mem_of_find? found
  have named : old.intentId = intentId := Table.key_of_find? found
  subst named
  simp only [Prod.mk.injEq] at same
  have members : ∀ row, row ∈ (tables.rewrites old.intentId f event).intents →
      row ∈ tables.intents ∧ row.intentId ≠ old.intentId ∨ row = f old := by
    intro row member
    obtain ⟨other, inTable, rfl⟩ := Table.mem_update.mp member
    by_cases chosen : key other = old.intentId
    · have equal : other = old := Table.eq_of_key_eq inTable here chosen
      exact .inr (by rw [if_pos chosen, equal])
    · exact .inl (by rw [if_neg chosen]; exact ⟨inTable, chosen⟩)
  have stays : (f old).intentId = old.intentId := congrArg (·.intentId) moved.identity
  have missing : tables.events.find? (key event) = none := by
    rw [key_formalStartEvent, same.1, same.2]
    exact absent
  have events : ∀ intentId, (tables.rewrites old.intentId f event).eventsOf intentId =
      tables.eventsOf intentId ++ if old.intentId = intentId then [event] else [] := by
    intro intentId
    rw [← same.1]
    exact eventsOf_insert missing intentId _
  have consistent : old.ConsistentState := by
    refine sound.viewable old here fun cancelled => moved.unsettled ?_
    exact .inl cancelled
  constructor
  case checked =>
    intro row member
    rcases members row member with ⟨inTable, -⟩ | rfl
    · exact sound.checked row inTable
    · exact moved.checked
  case viewable =>
    intro row member open_
    rcases members row member with ⟨inTable, -⟩ | rfl
    · exact sound.viewable row inTable open_
    · exact moved.viewable consistent open_
  case numbered =>
    intro row member
    rw [events]
    rcases members row member with ⟨inTable, apart⟩ | rfl
    · simpa [Ne.symm apart] using sound.numbered row inTable
    · rw [stays, if_pos rfl, List.map_append, sound.numbered old here, moved.version,
        List.range'_concat]
      simp [same.2, Nat.add_comm]
  case owned =>
    intro other member
    have kept : ∀ row ∈ tables.intents,
        ∃ row' ∈ (tables.rewrites old.intentId f event).intents, row'.intentId = row.intentId := by
      intro row inTable
      refine ⟨if key row = old.intentId then f row else row,
        Table.mem_update.mpr ⟨row, inTable, rfl⟩, ?_⟩
      by_cases chosen : key row = old.intentId
      · have equal : row = old := Table.eq_of_key_eq inTable here chosen
        rw [if_pos chosen, equal, stays]
      · rw [if_neg chosen]
    rcases Table.mem_insertIfAbsent.mp member with inTable | ⟨-, rfl⟩
    · obtain ⟨row, before, equal⟩ := sound.owned other inTable
      obtain ⟨row', after, equal'⟩ := kept row before
      exact ⟨row', after, equal'.trans equal⟩
    · obtain ⟨row', after, equal⟩ := kept old here
      exact ⟨row', after, equal.trans same.1.symm⟩

end FormalStartTables

/-- What a write does to the tables of formal starts. -/
inductive FormalStartTables.Change (tables : FormalStartTables) : FormalStartTables → Prop
  | same : tables.Change tables
  | opens {intent : FormalStartIntent} (consistent : intent.ConsistentState)
      (checked : intent.opened.Checked)
      (fresh : ∀ row ∈ tables.intents, intent.clashes row = false)
      (absent : tables.events.find? (intent.intentId, 1) = none) :
      tables.Change (tables.opens intent)
  | rewrites {intentId : Uuid} {old : FormalStartIntent}
      {f : FormalStartIntent → FormalStartIntent} [KeepsKey f] {event : FormalStartEvent}
      (found : tables.intents.find? intentId = some old) (moved : old.Moved (f old))
      (numbered : (event.intentId, event.sequence) = (intentId, old.version + 1))
      (absent : tables.events.find? (intentId, old.version + 1) = none) :
      tables.Change (tables.rewrites intentId f event)

namespace FormalStartTables.Change

variable {tables after : FormalStartTables}

theorem sound (change : tables.Change after) (before : tables.Sound) : after.Sound := by
  cases change with
  | same => exact before
  | opens consistent checked fresh absent => exact before.opens consistent checked fresh absent
  | rewrites found moved numbered absent => exact before.rewrites found moved numbered absent

/-- A row that was there is there still, or it was not settled and its rewrite is there. -/
theorem row_after (change : tables.Change after) {row : FormalStartIntent}
    (member : row ∈ tables.intents) :
    row ∈ after.intents ∨ ∃ row' ∈ after.intents, row.Moved row' := by
  cases change with
  | same => exact .inl member
  | opens consistent checked fresh absent =>
      exact .inl (Table.mem_insertIfAbsent.mpr (.inl member))
  | @rewrites intentId old f _ event found moved numbered absent =>
      by_cases chosen : key row = intentId
      · have same : row = old := by
          refine Table.eq_of_key_eq member (Table.mem_of_find? found) ?_
          exact chosen.trans (Table.key_of_find? found).symm
        subst same
        exact .inr ⟨f row, Table.mem_update.mpr ⟨row, member, if_pos chosen⟩, moved⟩
      · exact .inl (Table.mem_update.mpr ⟨row, member, if_neg chosen⟩)

/-- A settled row stays. -/
theorem settled (change : tables.Change after) {row : FormalStartIntent}
    (member : row ∈ tables.intents) (settled : row.state.Settled) : row ∈ after.intents := by
  rcases change.row_after member with stays | ⟨row', -, moved⟩
  · exact stays
  · exact absurd settled moved.unsettled

/-- An intent keeps its identity. -/
theorem identity (change : tables.Change after) {row : FormalStartIntent}
    (member : row ∈ tables.intents) :
    ∃ row' ∈ after.intents, row'.toFormalStartIdentity = row.toFormalStartIdentity := by
  rcases change.row_after member with stays | ⟨row', after, moved⟩
  · exact ⟨row, stays, rfl⟩
  · exact ⟨row', after, moved.identity⟩

end FormalStartTables.Change

/-! ## The parties -/

/-- The store, and the intents that coordinators have read and may act on. -/
structure FormalStartSystem where
  store : Store
  reads : List FormalStartIntentView := []

/-- A call of a coordinator: it opens an intent, reads one, records the verdict on one that it
has read, or cancels one that it has read. -/
inductive FormalStartCall where
  | create (c : FormalStartCoordinator) (request : FormalStartIntentRequest)
      (preview : FormalRoundPlanPreview) (now : Int)
  | read (c : FormalStartCoordinator) (intentId : Uuid)
  | record (c : FormalStartCoordinator) (intent : FormalStartIntentView)
      (reading : FormalStartReading)
  | cancel (c : FormalStartCoordinator) (request : FormalStartIntentActionRequest)
      (intent : FormalStartIntentView) (now : Int)

/-- One committed call of a coordinator. -/
inductive FormalStartStep : FormalStartSystem → FormalStartCall → FormalStartSystem → Prop
  | create {sys : FormalStartSystem} {c : FormalStartCoordinator}
      {request : FormalStartIntentRequest} {preview : FormalRoundPlanPreview} {now : Int}
      {intent : FormalStartIntentView}
      (accepted : c.acceptCreate request preview now = .ok intent) :
      FormalStartStep sys (.create c request preview now)
        { sys with store := (commit (createFormalStartIntent intent) sys.store).1 }
  | read {sys : FormalStartSystem} {c : FormalStartCoordinator} {intentId : Uuid}
      {intent : FormalStartIntentView} (found : c.readLocal sys.store intentId = .ok intent) :
      FormalStartStep sys (.read c intentId) { sys with reads := intent :: sys.reads }
  | record {sys : FormalStartSystem} {c : FormalStartCoordinator}
      {verifiers : FormalStartVerifiers} {intent : FormalStartIntentView}
      {reading : FormalStartReading} (known : intent ∈ sys.reads)
      (configured : c.requireVerifiers = .ok verifiers)
      (own : c.requireLocalIntent intent.val.toFormalStartIdentity = .ok ())
      (unsettled : ¬ intent.val.state.Settled) :
      FormalStartStep sys (.record c intent reading)
        { sys with store := (commit (recordFormalStartReconciliation intent.val.intentId
            (c.outcome verifiers reading intent.val.toFormalStartIdentity)) sys.store).1 }
  | cancel {sys : FormalStartSystem} {c : FormalStartCoordinator}
      {request : FormalStartIntentActionRequest} {intent : FormalStartIntentView} {now : Int}
      (known : intent ∈ sys.reads) (named : request.intentId = intent.val.intentId)
      (accepted : c.acceptCancel request intent now = .ok ()) :
      FormalStartStep sys (.cancel c request intent now)
        { sys with store := (commit (cancelFormalStartIntent intent.val.intentId now)
            sys.store).1 }

namespace FormalStartCoordinator

/-- A reconciliation is a run: a read, and unless the intent is settled a recorded verdict. -/
theorem reconcile_runs (c : FormalStartCoordinator)
    {verifiers : FormalStartVerifiers} (configured : c.requireVerifiers = .ok verifiers)
    (reading : FormalStartReading) (intentId : Uuid) (sys : FormalStartSystem) :
    ∃ trace reads, Steps FormalStartStep sys trace
      ⟨(c.reconcile verifiers reading intentId sys.store).1, reads⟩ := by
  unfold reconcile
  cases found : c.readLocal sys.store intentId with
  | error e => exact ⟨[], sys.reads, .refl sys⟩
  | ok intent =>
      have read : FormalStartStep sys (.read c intentId) ⟨sys.store, intent :: sys.reads⟩ :=
        .read found
      obtain ⟨named, own⟩ : intent.val.intentId = intentId ∧
          c.requireLocalIntent intent.val.toFormalStartIdentity = .ok () := by
        unfold readLocal getFormalStartIntent at found
        simp only [Except.bind_eq_ok, raiseRepository_eq_ok, raiseOperator_eq_ok,
          requireRow_eq_ok] at found
        obtain ⟨view, ⟨row, here, viewed⟩, _, own, same⟩ := found
        cases same
        have named : row.intentId = intentId := Table.key_of_find? here
        rw [formalStartIntent_eq_ok.mp viewed] at named
        exact ⟨named, own⟩
      by_cases settled : intent.val.state.Settled
      · exact ⟨_, _, by simpa only [if_pos settled] using Steps.single read⟩
      · subst named
        have known : intent ∈ (FormalStartSystem.mk sys.store (intent :: sys.reads)).reads :=
          List.mem_cons_self
        have recorded : FormalStartStep _ (.record c intent reading) _ :=
          .record known configured own settled
        have run := (Steps.single read).tail recorded
        refine ⟨[.read c intent.val.intentId, .record c intent reading],
          intent :: sys.reads, ?_⟩
        simp only [if_neg settled]
        rcases commit_cases (recordFormalStartReconciliation intent.val.intentId
            (c.outcome verifiers reading intent.val.toFormalStartIdentity)) sys.store with
          ⟨e, -, same⟩ | ⟨t, row, -, same⟩
        all_goals
          simp only [same] at run ⊢
          exact run

/-- A recovery is a run. -/
theorem recover_runs (c : FormalStartCoordinator) (readings : Uuid → FormalStartReading)
    (limit : Int) (sys : FormalStartSystem) :
    ∃ trace reads, Steps FormalStartStep sys trace
      ⟨(c.recover readings limit sys.store).1, reads⟩ := by
  unfold recover
  cases configured : c.requireVerifiers with
  | error e => exact ⟨[], sys.reads, .refl sys⟩
  | ok verifiers =>
      cases listRecoverableFormalStartIntentIds sys.store limit with
      | error e => exact ⟨[], sys.reads, .refl sys⟩
      | ok intentIds =>
          simp only
          induction intentIds generalizing sys with
          | nil => exact ⟨[], sys.reads, .refl sys⟩
          | cons intentId rest ih =>
              obtain ⟨trace, reads, run⟩ :=
                c.reconcile_runs configured (readings intentId) intentId sys
              unfold reconcileEach
              cases first : c.reconcile verifiers (readings intentId) intentId sys.store with
              | mk t reply =>
                  rw [first] at run
                  cases reply with
                  | error e => exact ⟨trace, reads, run⟩
                  | ok view =>
                      obtain ⟨more, reads', rest⟩ := ih ⟨t, reads⟩
                      exact ⟨trace ++ more, reads', run.trans rest⟩

end FormalStartCoordinator

/-- Every call changes the tables of formal starts, as one of the writes does, and nothing
else. -/
theorem FormalStartStep.change {sys sys' : FormalStartSystem} {call : FormalStartCall}
    (taken : FormalStartStep sys call sys') :
    sys.store.formalStarts.Change sys'.store.formalStarts ∧
      sys'.store = sys.store.withFormalStarts sys'.store.formalStarts := by
  cases taken with
  | @create c request preview now intent accepted =>
      rcases commit_cases (createFormalStartIntent intent) sys.store with
        ⟨e, -, same⟩ | ⟨t, reply, ok, same⟩
      · simp only [same]
        exact ⟨.same, rfl⟩
      · simp only [same]
        rcases createFormalStartIntent_cases ok with rfl | ⟨checked, fresh, absent, rfl⟩
        · exact ⟨.same, rfl⟩
        · exact ⟨.opens intent.property checked fresh absent, rfl⟩
  | read found => exact ⟨.same, rfl⟩
  | @record c verifiers intent reading known configured own unsettled =>
      rcases commit_cases (recordFormalStartReconciliation intent.val.intentId
          (c.outcome verifiers reading intent.val.toFormalStartIdentity)) sys.store with
        ⟨e, -, same⟩ | ⟨t, reply, ok, same⟩
      · simp only [same]
        exact ⟨.same, rfl⟩
      · simp only [same]
        obtain ⟨old, found, ⟨-, rfl, -⟩ | ⟨open_, -, canonical, checked, absent, rfl, -⟩⟩ :=
          recordFormalStartReconciliation_cases ok
        · exact ⟨.same, rfl⟩
        · have named : old.intentId = intent.val.intentId := Table.key_of_find? found
          exact ⟨.rewrites found (FormalStartReconciliation.moved open_ canonical checked)
            (Prod.ext named rfl) absent, rfl⟩
  | @cancel c request intent now known named accepted =>
      rcases commit_cases (cancelFormalStartIntent intent.val.intentId now) sys.store with
        ⟨e, -, same⟩ | ⟨t, reply, ok, same⟩
      · simp only [same]
        exact ⟨.same, rfl⟩
      · simp only [same]
        obtain ⟨old, found, ⟨-, rfl, -⟩ | ⟨open_, checked, absent, rfl, -⟩⟩ :=
          cancelFormalStartIntent_cases ok
        · exact ⟨.same, rfl⟩
        · have named : old.intentId = intent.val.intentId := Table.key_of_find? found
          exact ⟨.rewrites found (FormalStartIntent.moved_cancelAt open_ checked)
            (Prod.ext named rfl) absent, rfl⟩

/-- The intents that were read are stored, perhaps moved on. -/
structure FormalStartSystem.Sound (sys : FormalStartSystem) : Prop where
  tables : sys.store.formalStarts.Sound
  known : ∀ intent ∈ sys.reads, ∃ row ∈ sys.store.formalStarts.intents,
    row.toFormalStartIdentity = intent.val.toFormalStartIdentity

theorem FormalStartStep.sound {sys sys' : FormalStartSystem} {call : FormalStartCall}
    (taken : FormalStartStep sys call sys') (before : sys.Sound) : sys'.Sound where
  tables := taken.change.1.sound before.tables
  known := by
    have kept : ∀ intent ∈ sys.reads, ∃ row ∈ sys'.store.formalStarts.intents,
        row.toFormalStartIdentity = intent.val.toFormalStartIdentity := by
      intro intent member
      obtain ⟨row, here, same⟩ := before.known intent member
      obtain ⟨row', after, same'⟩ := taken.change.1.identity here
      exact ⟨row', after, same'.trans same⟩
    cases taken with
    | create accepted => exact kept
    | record known configured own unsettled => exact kept
    | cancel known named accepted => exact kept
    | @read c intentId intent found =>
        intro other member
        rcases List.mem_cons.mp member with rfl | old
        · unfold FormalStartCoordinator.readLocal getFormalStartIntent at found
          simp only [Except.bind_eq_ok, raiseRepository_eq_ok, requireRow_eq_ok] at found
          obtain ⟨view, ⟨row, here, viewed⟩, _, -, same⟩ := found
          cases same
          exact ⟨row, Table.mem_of_find? here, by rw [formalStartIntent_eq_ok.mp viewed]⟩
        · exact kept other old

/-! ## Readiness -/

/-- The parties to a start are six when their identifiers and hashes are pairwise different. -/
theorem requireAuthorityRoleSeparation_eq_ok {intent : FormalStartIdentity}
    {execution : FormalExecutionStartAuthority} {evaluation : FormalEvaluationStartAuthority}
    {preview : FormalRoundPlanPreview} {u : Unit} :
    requireAuthorityRoleSeparation intent execution evaluation preview = .ok u ↔
      (startPartyIds intent execution evaluation preview).Nodup ∧
        (startPartyHashes intent execution evaluation preview).Nodup := by
  have counted : ∀ parties : List String, parties.length = 6 →
      (parties.toFinset.card = 6 ↔ parties.Nodup) := by
    intro parties six
    have rule := Multiset.toFinset_card_eq_card_iff_nodup (m := (parties : Multiset String))
    rwa [Multiset.coe_card, six, Multiset.coe_nodup] at rule
  unfold requireAuthorityRoleSeparation
  rw [require_eq_ok, counted _ rfl, counted _ rfl]

/-- A loaded authority was found when it reads as one. -/
theorem LoadedAuthority.read_eq_some {α : Type} {message : String}
    {loaded : LoadedAuthority α} {authority : α}
    (read : loaded.read message = .ok (some authority)) : loaded = .found authority := by
  cases loaded with
  | found other =>
      cases read
      rfl
  | unavailable => cases read
  | malformed => cases read

namespace FormalStartCoordinator

variable (c : FormalStartCoordinator)

/-- What a ready verdict stands for: the preview of the intent is this deployment's, bound and
unexpired, both authorities are loaded under the hashes of the intent, signed, bound to it and
its plan and in force at the time of the reading, and the six parties are different. -/
def Authorizes (verifiers : FormalStartVerifiers) (reading : FormalStartReading)
    (intent : FormalStartIdentity) : Prop :=
  ∃ preview execution evaluation,
    reading.loadPreview intent.previewId = some preview ∧
    reading.loadExecutionAuthority intent.executionAuthorityHash = .found execution ∧
    reading.loadEvaluationAuthority intent.evaluationAuthorityHash = .found evaluation ∧
    preview.BoundTo c.digests intent.previewId intent.resolvedPlanHash
      intent.formalAuthorizationHash ∧
    (preview.serviceIdentity = c.serviceIdentity ∧ reading.now < preview.expiresAt ∧
      preview.resolvedPlan.Complete) ∧
    verifiers.execution.Accepts execution.signer execution.authorityHash execution.signature ∧
    (execution.decision = .authorized ∧ execution.Binds intent preview.resolvedPlan ∧
      execution.InForce reading.now) ∧
    verifiers.evaluation.Accepts evaluation.signer evaluation.authorityHash
      evaluation.signature ∧
    (evaluation.decision = .authorized ∧ evaluation.Binds intent preview.resolvedPlan ∧
      evaluation.InForce reading.now) ∧
    (startPartyIds intent execution evaluation preview).Nodup ∧
    (startPartyHashes intent execution evaluation preview).Nodup

variable {c}

/-- The examination ends ready only when the intent is authorized. -/
theorem examine_ready {verifiers : FormalStartVerifiers} {reading : FormalStartReading}
    {intent : FormalStartIdentity} (ready : c.examine verifiers reading intent = .ok .ready) :
    c.Authorizes verifiers reading intent := by
  unfold examine validateIntentPreview validateBoundPreview validateCompletePreview at ready
  simp only [Except.bind_eq_ok, requireSome_eq_ok, require_eq_ok] at ready
  obtain ⟨preview, loaded, _, ⟨_, bound, _, own, _, unexpired, complete⟩, revalidated, -, _, -,
    ready⟩ := ready
  split at ready
  case isTrue => cases ready
  case isFalse =>
    simp only [Except.bind_eq_ok] at ready
    obtain ⟨execution, readExecution, evaluation, readEvaluation, ready⟩ := ready
    split at ready
    case h_1 execution evaluation =>
      unfold FormalStartVerifiers.verifyExecutionAuthority
        FormalStartVerifiers.verifyEvaluationAuthority at ready
      simp only [Except.bind_eq_ok, require_eq_ok, FormalStartVerifier.verifySigned_eq_ok,
        requireAuthorityRoleSeparation_eq_ok] at ready
      obtain ⟨_, ⟨_, executionSigned, executionBound⟩, _, ⟨_, evaluationSigned,
        evaluationBound⟩, _, ⟨separateIds, separateHashes⟩, -⟩ := ready
      exact ⟨preview, execution, evaluation, loaded,
        LoadedAuthority.read_eq_some readExecution, LoadedAuthority.read_eq_some readEvaluation,
        bound, ⟨own, unexpired, complete⟩, executionSigned, executionBound, evaluationSigned,
        evaluationBound, separateIds, separateHashes⟩
    case h_2 => cases ready

/-- An error of the examination is never the verdict ready. -/
theorem verdict_ready {verifiers : FormalStartVerifiers} {reading : FormalStartReading}
    {intent : FormalStartIdentity} (ready : c.verdict verifiers reading intent = .ready) :
    c.Authorizes verifiers reading intent := by
  unfold verdict settle at ready
  split at ready
  case h_1 verdict examined =>
    subst ready
    exact examine_ready examined
  all_goals cases ready

end FormalStartCoordinator

/-- Only the verdict ready is recorded as ready. -/
theorem FormalStartVerdict.outcome_ready {verdict : FormalStartVerdict} {checkedAt : Int}
    (ready : (verdict.outcome checkedAt).state = .readyForRoundCreation) : verdict = .ready := by
  cases verdict with
  | awaiting blockerCodes => cases ready
  | ready => rfl
  | failed errorCode errorMessage => cases ready

theorem FormalStartVerdict.outcome_checkedAt (verdict : FormalStartVerdict) (checkedAt : Int) :
    (verdict.outcome checkedAt).checkedAt = checkedAt := by
  cases verdict <;> rfl

/-- The call recorded the row ready, in a reconciliation of the row's own deployment that
authorizes it at the time the row has. -/
def FormalStartCall.MakesReady (row : FormalStartIntent) : FormalStartCall → Prop
  | .record c _ reading =>
      row.readyAt = some reading.now ∧ row.serviceIdentity = c.serviceIdentity ∧
        ∃ verifiers, c.requireVerifiers = .ok verifiers ∧
          c.Authorizes verifiers reading row.toFormalStartIdentity
  | _ => False

/-- A row that a call leaves ready was there before, or the call made it ready. -/
theorem FormalStartStep.ready {sys sys' : FormalStartSystem} {call : FormalStartCall}
    (taken : FormalStartStep sys call sys') (before : sys.Sound) {row : FormalStartIntent}
    (member : row ∈ sys'.store.formalStarts.intents)
    (ready : row.state = .readyForRoundCreation) :
    row ∈ sys.store.formalStarts.intents ∨ call.MakesReady row := by
  cases taken with
  | @create c request preview now intent accepted =>
      rcases commit_cases (createFormalStartIntent intent) sys.store with
        ⟨e, -, same⟩ | ⟨t, reply, ok, same⟩
      · simp only [same] at member
        exact .inl member
      · simp only [same] at member
        rcases createFormalStartIntent_cases ok with rfl | ⟨checked, fresh, absent, rfl⟩
        · exact .inl member
        · rcases Table.mem_insertIfAbsent.mp member with old | ⟨-, rfl⟩
          · exact .inl old
          · cases ready
  | read found => exact .inl member
  | @record c verifiers intent reading known configured own unsettled =>
      rcases commit_cases (recordFormalStartReconciliation intent.val.intentId
          (c.outcome verifiers reading intent.val.toFormalStartIdentity)) sys.store with
        ⟨e, -, same⟩ | ⟨t, reply, ok, same⟩
      · simp only [same] at member
        exact .inl member
      · simp only [same] at member
        obtain ⟨old, found, ⟨-, rfl, -⟩ | ⟨open_, -, canonical, checked, absent, rfl, -⟩⟩ :=
          recordFormalStartReconciliation_cases ok
        · exact .inl member
        · obtain ⟨other, here, rfl⟩ := Table.mem_update.mp member
          by_cases chosen : key other = intent.val.intentId
          · rw [if_pos chosen] at ready ⊢
            have verdictReady := FormalStartVerdict.outcome_ready ready
            have identity : other.toFormalStartIdentity = intent.val.toFormalStartIdentity := by
              obtain ⟨stored, inTable, identity⟩ := before.known intent known
              rw [← identity]
              have named : stored.intentId = intent.val.intentId :=
                congrArg FormalStartIdentity.intentId identity
              have equal : other = stored :=
                Table.eq_of_key_eq here inTable (chosen.trans named.symm)
              rw [equal]
            have local_ : intent.val.serviceIdentity = c.serviceIdentity := require_eq_ok.mp own
            refine .inr ⟨?_, ?_, verifiers, configured, ?_⟩
            · refine (if_pos ready).trans ?_
              exact congrArg some (FormalStartVerdict.outcome_checkedAt _ _)
            · exact (congrArg FormalStartIdentity.serviceIdentity identity).trans local_
            · have authorized := FormalStartCoordinator.verdict_ready verdictReady
              rw [← identity] at authorized
              exact authorized
          · rw [if_neg chosen]
            exact .inl here
  | @cancel c request intent now known named accepted =>
      rcases commit_cases (cancelFormalStartIntent intent.val.intentId now) sys.store with
        ⟨e, -, same⟩ | ⟨t, reply, ok, same⟩
      · simp only [same] at member
        exact .inl member
      · simp only [same] at member
        obtain ⟨old, found, ⟨-, rfl, -⟩ | ⟨open_, checked, absent, rfl, -⟩⟩ :=
          cancelFormalStartIntent_cases ok
        · exact .inl member
        · obtain ⟨other, here, rfl⟩ := Table.mem_update.mp member
          by_cases chosen : key other = intent.val.intentId
          · rw [if_pos chosen] at ready
            cases ready
          · rw [if_neg chosen]
            exact .inl here

/-- Every ready row was made ready by a call of the run. -/
theorem FormalStartSystem.justified {start sys : FormalStartSystem}
    {trace : List FormalStartCall} (run : Steps FormalStartStep start trace sys)
    (initial : start.Sound) (empty : start.store.formalStarts = {}) :
    sys.Sound ∧ ∀ row ∈ sys.store.formalStarts.intents, row.state = .readyForRoundCreation →
      ∃ call ∈ trace, call.MakesReady row := by
  induction run with
  | refl =>
      refine ⟨initial, fun row member => ?_⟩
      rw [empty] at member
      exact absurd member (Table.not_mem_empty row)
  | @tail middle sys trace call _ taken ih =>
      refine ⟨taken.sound ih.1, fun row member ready => ?_⟩
      rcases taken.ready ih.1 member ready with old | made
      · obtain ⟨call', earlier, made⟩ := ih.2 row old ready
        exact ⟨call', List.mem_append_left _ earlier, made⟩
      · exact ⟨call, List.mem_append_right _ (List.mem_singleton_self call), made⟩

/-! ## The main result -/

/-- What holds of a stored intent beside its tables and the calls so far. -/
structure FormalStartIntent.Integrity (tables : FormalStartTables) (trace : List FormalStartCall)
    (row : FormalStartIntent) : Prop where
  version : row.version = (tables.eventsOf row.intentId).length
  numbered : (tables.eventsOf row.intentId).map FormalStartEvent.sequence =
    List.range' 1 row.version
  authority : row.authorityReady = true ↔ row.state = .readyForRoundCreation
  blockers : row.blockerCodes ≠ [] ↔ row.state = .awaitingAuthority
  errorCode : row.errorCode.isSome = true ↔ row.state = .failed
  errorMessage : row.errorMessage.isSome = true ↔ row.state = .failed
  nonExecuting : row.NonExecuting
  ready : row.state = .readyForRoundCreation → ∃ call ∈ trace, call.MakesReady row

/-- **Formal start intents keep their integrity.** In every state that a run of creations,
reads, recorded verdicts and cancellations reaches, every intent satisfies `Integrity`; a
cancelled or failed row is still the same after any further run; and the run wrote no table but
those of the intents and their events. -/
theorem formal_start_integrity {start sys later : FormalStartSystem}
    {trace more : List FormalStartCall} (empty : start.store.formalStarts = {})
    (unread : start.reads = []) (run : Steps FormalStartStep start trace sys)
    (further : Steps FormalStartStep sys more later) :
    (∀ row ∈ sys.store.formalStarts.intents,
      row.Integrity sys.store.formalStarts trace ∧
        (row.state.Settled → row ∈ later.store.formalStarts.intents)) ∧
      sys.store = start.store.withFormalStarts sys.store.formalStarts := by
  have initial : start.Sound :=
    { tables := empty ▸ FormalStartTables.Sound.empty
      known := fun intent member => by simp [unread] at member }
  obtain ⟨sound, justified⟩ := FormalStartSystem.justified run initial empty
  refine ⟨fun row member => ⟨?_, fun settled => ?_⟩, ?_⟩
  · have columns := (sound.tables.checked row member).columns
    have numbered := sound.tables.numbered row member
    exact
      { version := by simpa using (congrArg List.length numbered).symm
        numbered := numbered
        authority := columns.authority
        blockers := columns.blockers
        errorCode := columns.failed
        errorMessage := columns.errors ▸ columns.failed
        nonExecuting := (sound.tables.checked row member).nonExecuting
        ready := justified row member }
  · exact further.invariant (I := fun sys => row ∈ sys.store.formalStarts.intents)
      (fun _ _ _ here taken => taken.change.1.settled here settled) member
  · refine run.relate (I := fun _ => True)
      (R := fun s t => t.store = s.store.withFormalStarts t.store.formalStarts)
      (fun _ _ _ _ _ => trivial) (fun _ => rfl) ?_ (fun _ _ _ _ taken => taken.change.2) trivial
    intro s t u first second
    rw [second, first]
    rfl

/-! ## A start that becomes ready -/

/-- A signer under a name. -/
def sampleSigner (name : String) : FormalStartSignerRef where
  signerId := name
  signerVersion := "1"
  signerHash := s!"hash of {name}"
  signatureScheme := "ed25519"
  keyId := "key"

/-- The verifier of a signer, which accepts every signature. -/
def sampleVerifier (name : String) : FormalStartVerifier where
  signerRef := sampleSigner name
  verifySignature _ _ := some true

/-- The deployment on a server. -/
def sampleIdentity (serverInstanceId : Uuid) : OperatorServiceIdentity where
  sourceCommit := "commit"
  controlContractVersion := "1"
  profileCatalogHash := "catalog"
  serverInstanceId := serverInstanceId

/-- The coordinator of the deployment on a server. -/
def sampleCoordinator (serverInstanceId : Uuid) : FormalStartCoordinator where
  serviceIdentity := sampleIdentity serverInstanceId
  digests :=
    { requestSubject := fun request => s!"request {request.idempotencyKey}"
      actionSubject := fun _ intentId => s!"action on {intentId.toNat}"
      resolvedPlan := fun _ => "plan"
      candidate := fun _ => "candidate"
      startIds := fun idempotencyKey =>
        if idempotencyKey = "start-1" then (1, 11, 21) else (2, 12, 22)
      roundCandidateId := fun _ _ => 30 }
  actorVerifier := some (sampleVerifier "actor")
  executionVerifier := some (sampleVerifier "execution")
  evaluationVerifier := some (sampleVerifier "evaluation")

/-- Its verifiers. -/
def sampleVerifiers : FormalStartVerifiers :=
  ⟨sampleVerifier "actor", sampleVerifier "execution", sampleVerifier "evaluation"⟩

theorem verifiers_sampleCoordinator (serverInstanceId : Uuid) :
    (sampleCoordinator serverInstanceId).requireVerifiers = .ok sampleVerifiers := rfl

/-- The request under a key, of an actor of a deployment. -/
def sampleStartRequest (serverInstanceId : Uuid) (idempotencyKey : String) (previewId : Uuid) :
    FormalStartIntentRequest where
  previewId := previewId
  resolvedPlanHash := "plan"
  formalAuthorizationHash := "authorization"
  executionAuthorityHash := "execution authority"
  evaluationAuthorityHash := "evaluation authority"
  idempotencyKey := idempotencyKey
  expectedServiceIdentity := sampleIdentity serverInstanceId
  actorAssertion :=
    { actorId := "operator", action := .create, subjectDigest := s!"request {idempotencyKey}"
      issuedAt := 0, expiresAt := 100, signer := sampleSigner "actor"
      assertionHash := "assertion", signature := "signature", bounded := by decide }

/-- The budget of the sample plan. -/
def sampleStartBudget : RoundBudget := ⟨2, 1, 1, 1, 1, 1, 1⟩

/-- The preview of a complete plan of a deployment. -/
def samplePreview (serverInstanceId previewId : Uuid) : FormalRoundPlanPreview where
  previewId := previewId
  resolvedPlanHash := "plan"
  resolvedPlan :=
    { adapterProfile := some "adapter", hotspotId := some 40
      candidates := [{ ordinal := 0, candidateId := 41 }, { ordinal := 1, candidateId := 42 }]
      candidateInputSetHash := some "inputs", selectionRuleHash := "rule"
      budget := sampleStartBudget, formalAuthorizationHash := "authorization"
      authorizedHostId := "host", authorizedResourceId := "hcu-0"
      authorizationWindowStartsAt := 0, authorizationWindowExpiresAt := 100
      candidateFamilyId := some "family", sourceFamilyHash := some "family" }
  checks := [⟨"formal_start_authority_not_bound", .block⟩]
  expiresAt := 100
  serviceIdentity := sampleIdentity serverInstanceId
  formalAuthorization := ⟨"authorization", ⟨"owner", "hash of owner"⟩⟩
  codesUnique := by decide

/-- The execution authority of the first intent. -/
def sampleExecutionAuthority : FormalExecutionStartAuthority where
  intentId := 1
  previewId := 5
  taskId := 11
  roundId := 21
  decision := .authorized
  formalAuthorizationHash := "authorization"
  resolvedPlanHash := "plan"
  candidateFamilyHash := "family"
  adapterProfileId := "adapter"
  hostId := "host"
  resourceId := "hcu-0"
  windowStartsAt := 0
  windowExpiresAt := 100
  budget := sampleStartBudget
  issuedAt := 1
  expiresAt := 100
  signer := sampleSigner "execution"
  authorityHash := "execution authority"
  signature := "signature"
  bounded := by decide

/-- The evaluation authority of the first intent. -/
def sampleEvaluationAuthority : FormalEvaluationStartAuthority where
  intentId := 1
  previewId := 5
  taskId := 11
  roundId := 21
  decision := .authorized
  formalAuthorizationHash := "authorization"
  resolvedPlanHash := "plan"
  candidateFamilyHash := "family"
  holdoutPlanAuthorityId := "holdout"
  holdoutPlanAuthorityHash := "hash of holdout"
  selectionRuleHash := "rule"
  independentVerifier := ⟨"verifier", "hash of verifier"⟩
  issuedAt := 1
  expiresAt := 100
  signer := sampleSigner "evaluation"
  authorityHash := "evaluation authority"
  signature := "signature"
  bounded := by decide
  separateIds := by decide
  separateHashes := by decide

/-- What a deployment reads when every object is there and the plan has not drifted. -/
def sampleReading (serverInstanceId : Uuid) (now : Int) : FormalStartReading where
  now := now
  loadPreview previewId := some (samplePreview serverInstanceId previewId)
  revalidate preview _ := .ok preview
  loadExecutionAuthority _ := .found sampleExecutionAuthority
  loadEvaluationAuthority _ := .found sampleEvaluationAuthority

/-- The intent that a deployment builds for a request. -/
def sampleIntent (serverInstanceId : Uuid) (idempotencyKey : String) (previewId : Uuid)
    (now : Int) : FormalStartIntent :=
  (sampleCoordinator serverInstanceId).buildIntent
    (sampleStartRequest serverInstanceId idempotencyKey previewId)
    (samplePreview serverInstanceId previewId) now

/-- The first intent as its deployment opened it. -/
def sampleView : FormalStartIntentView := ⟨sampleIntent 7 "start-1" 5 10, by decide⟩

/-- The store in which the first intent was opened. -/
def openedStore : Store := (commit (createFormalStartIntent sampleView) {}).1

/-- The store in which it was reconciled. -/
def readyStore : Store :=
  (commit (recordFormalStartReconciliation 1
    ((sampleCoordinator 7).outcome sampleVerifiers (sampleReading 7 20)
      sampleView.val.toFormalStartIdentity)) openedStore).1

/-- The calls that make it ready. -/
def readyTrace : List FormalStartCall :=
  [.create (sampleCoordinator 7) (sampleStartRequest 7 "start-1" 5) (samplePreview 7 5) 10,
    .read (sampleCoordinator 7) 1, .record (sampleCoordinator 7) sampleView (sampleReading 7 20)]

theorem step_opened :
    FormalStartStep ⟨{}, []⟩ (.create (sampleCoordinator 7) (sampleStartRequest 7 "start-1" 5)
      (samplePreview 7 5) 10) ⟨openedStore, []⟩ := by
  have accepted : (sampleCoordinator 7).acceptCreate (sampleStartRequest 7 "start-1" 5)
      (samplePreview 7 5) 10 = .ok sampleView := rfl
  exact .create accepted

theorem steps_readyTrace :
    Steps FormalStartStep ⟨{}, []⟩ readyTrace ⟨readyStore, [sampleView]⟩ := by
  have read : FormalStartStep ⟨openedStore, []⟩ (.read (sampleCoordinator 7) 1)
      ⟨openedStore, [sampleView]⟩ := .read rfl
  have recorded : FormalStartStep ⟨openedStore, [sampleView]⟩
      (.record (sampleCoordinator 7) sampleView (sampleReading 7 20))
      ⟨readyStore, [sampleView]⟩ :=
    .record (List.mem_singleton_self sampleView) (verifiers_sampleCoordinator 7) rfl (by decide)
  exact ((Steps.single step_opened).tail read).tail recorded

/-- The run in which the first intent becomes ready. -/
theorem formal_start_integrity_ready :
    readyStore.formalStarts.intents.rows.map (fun row => (row.state, row.version)) =
        [(.readyForRoundCreation, 2)] ∧
      (∀ row ∈ readyStore.formalStarts.intents,
        row.Integrity readyStore.formalStarts readyTrace ∧
          (row.state.Settled → row ∈ readyStore.formalStarts.intents)) ∧
      readyStore = Store.withFormalStarts {} readyStore.formalStarts :=
  ⟨by decide +kernel,
    formal_start_integrity rfl rfl steps_readyTrace (.refl _)⟩

end HcuAutoOpt
