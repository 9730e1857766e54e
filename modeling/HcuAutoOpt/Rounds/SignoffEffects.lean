import HcuAutoOpt.Rounds.SignoffMoves

/-!
# The operations move one signoff

Each operation on formal rounds leaves the store as it is or moves the signoff of one
round by one move (`Store.MovesSignoff`). What lets an operation find its rows is the
invariant `Store.SignoffsConsistent`: every round is at a stage of its signoff, and an
intent is known by its identifier.
-/

set_option autoImplicit false

namespace HcuAutoOpt

open Foundation

/-! ## The invariant -/

/-- The rows about the signoff of a round are the same. -/
structure FormalTables.SameAt (formal formal' : FormalTables) (roundId : Uuid) : Prop where
  evidence : formal'.evidence.find? roundId = formal.evidence.find? roundId
  intents : formal'.intents.find? roundId = formal.intents.find? roundId
  outbox : formal'.outbox.find? roundId = formal.outbox.find? roundId
  signoffs : formal'.signoffs.find? roundId = formal.signoffs.find? roundId

/-- There are no rows about the signoff of a round. -/
structure FormalTables.Blank (formal : FormalTables) (roundId : Uuid) : Prop where
  evidence : formal.evidence.find? roundId = none
  intents : formal.intents.find? roundId = none
  outbox : formal.outbox.find? roundId = none
  signoffs : formal.signoffs.find? roundId = none

/-- **The invariant of the signoffs**: every round is at a stage of its signoff, its
context is its own, and an intent is known by its identifier. -/
structure Store.SignoffsConsistent (s : Store) : Prop where
  owned : s.RoundsOwned
  sealed : ∀ roundId context, s.formal.contexts.find? roundId = some context →
    ∃ round, s.searchRounds.find? roundId = some round ∧ context.taskId = round.taskId ∧
      round.runMode = .formal
  blank : ∀ roundId, s.searchRounds.find? roundId = none → s.formal.Blank roundId
  stage : ∀ roundId round task, s.searchRounds.find? roundId = some round →
    s.tasks.find? round.taskId = some task →
    ∃ action, SignoffStage (s.formal.picture round task) action
  apart : ∀ intent ∈ s.formal.intents, ∀ other ∈ s.formal.intents,
    intent.signoffIntentId = other.signoffIntentId → intent = other

namespace Store.SignoffsConsistent

variable {s : Store} (consistent : s.SignoffsConsistent)
include consistent

/-- An intent has its round, its task and its event. -/
theorem of_intent {intent : FormalRoundSignoffIntent} (present : intent ∈ s.formal.intents) :
    ∃ round task event, s.searchRounds.find? intent.roundId = some round ∧
      s.tasks.find? round.taskId = some task ∧
      (s.formal.picture round task).Linked intent event := by
  have here : s.formal.intents.find? intent.roundId = some intent := Table.find?_of_mem present
  cases found : s.searchRounds.find? intent.roundId with
  | none =>
      rw [(consistent.blank _ found).intents] at here
      cases here
  | some round =>
      obtain ⟨task, tasked⟩ := consistent.owned.task found
      obtain ⟨action, stage⟩ := consistent.stage _ _ _ found tasked
      have key : round.roundId = intent.roundId := Table.key_of_find? found
      have present : (s.formal.picture round task).intent = some intent := by
        simp only [FormalTables.picture, key]
        exact here
      obtain ⟨event, linked⟩ := stage.linked_of_intent present
      exact ⟨round, task, event, rfl, tasked, linked⟩

/-- An event is the event of the intent it names. -/
theorem of_event {event : FormalRoundSignoffOutbox} (present : event ∈ s.formal.outbox) :
    ∃ intent ∈ s.formal.intents, intent.signoffIntentId = event.signoffIntentId ∧
      intent.roundId = event.roundId := by
  have here : s.formal.outbox.find? event.roundId = some event := Table.find?_of_mem present
  cases found : s.searchRounds.find? event.roundId with
  | none =>
      rw [(consistent.blank _ found).outbox] at here
      cases here
  | some round =>
      obtain ⟨task, tasked⟩ := consistent.owned.task found
      obtain ⟨action, stage⟩ := consistent.stage _ _ _ found tasked
      have key : round.roundId = event.roundId := Table.key_of_find? found
      have present : (s.formal.picture round task).outbox = some event := by
        simp only [FormalTables.picture, key]
        exact here
      obtain ⟨intent, linked⟩ := stage.linked_of_event present
      have there := linked.hasIntent
      simp only [FormalTables.picture] at there
      exact ⟨intent, Table.mem_of_find? there, linked.identifier.symm, linked.eventRound.symm⟩

/-- **What an identifier of an intent leads to**: the intent of a round with its event. -/
theorem lookup {signoffIntentId : Uuid} {intent : FormalRoundSignoffIntent}
    {event : FormalRoundSignoffOutbox} (found : s.formal.intent? signoffIntentId = some intent)
    (recorded : s.formal.outbox? signoffIntentId = some event) :
    ∃ round task, s.searchRounds.find? intent.roundId = some round ∧
      s.tasks.find? round.taskId = some task ∧
      (s.formal.picture round task).Linked intent event := by
  obtain ⟨present, identifier⟩ := FormalTables.of_intent? found
  obtain ⟨present', identifier'⟩ := FormalTables.of_outbox? recorded
  obtain ⟨other, there, same, sameRound⟩ := consistent.of_event present'
  have one : other = intent :=
    consistent.apart other there intent present (same.trans (identifier'.trans identifier.symm))
  obtain ⟨round, task, own, foundRound, tasked, linked⟩ := consistent.of_intent present
  have ownKey : round.roundId = intent.roundId := Table.key_of_find? foundRound
  have ownEvent := linked.hasEvent
  simp only [FormalTables.picture, ownKey] at ownEvent
  have here : s.formal.outbox.find? event.roundId = some event := Table.find?_of_mem present'
  rw [← sameRound, one, ownEvent] at here
  cases here
  exact ⟨round, task, foundRound, tasked, linked⟩

/-- Two events of one intent are one event. -/
theorem event_eq {event other : FormalRoundSignoffOutbox} (present : event ∈ s.formal.outbox)
    (present' : other ∈ s.formal.outbox) (same : event.signoffIntentId = other.signoffIntentId) :
    event = other := by
  obtain ⟨intent, there, identifier, sameRound⟩ := consistent.of_event present
  obtain ⟨intent', there', identifier', sameRound'⟩ := consistent.of_event present'
  have one : intent = intent' :=
    consistent.apart intent there intent' there' (identifier.trans (same.trans identifier'.symm))
  refine Table.eq_of_key_eq (t := s.formal.outbox) present present' ?_
  exact sameRound.symm.trans ((congrArg (fun row => row.roundId) one).trans sameRound')

/-- An intent is found by its identifier. -/
theorem intent?_eq {intent : FormalRoundSignoffIntent} (present : intent ∈ s.formal.intents) :
    s.formal.intent? intent.signoffIntentId = some intent := by
  cases found : s.formal.intent? intent.signoffIntentId with
  | none =>
      have absent := List.find?_eq_none.mp found intent present
      simp at absent
  | some other =>
      obtain ⟨there, same⟩ := FormalTables.of_intent? found
      rw [consistent.apart other there intent present same]

/-- An event is found by the identifier of its intent. -/
theorem outbox?_eq {event : FormalRoundSignoffOutbox} (present : event ∈ s.formal.outbox) :
    s.formal.outbox? event.signoffIntentId = some event := by
  cases found : s.formal.outbox? event.signoffIntentId with
  | none =>
      have absent := List.find?_eq_none.mp found event present
      simp at absent
  | some other =>
      obtain ⟨there, same⟩ := FormalTables.of_outbox? found
      rw [consistent.event_eq there present same]

end Store.SignoffsConsistent

/-! ## One signoff at a time -/

/-- **One signoff moves**: its picture by a move, and nothing else about any round. -/
structure Store.MovesSignoff (env : FormalEnv) (s s' : Store) (roundId : Uuid)
    (action : SignoffAction) (p p' : SignoffPicture) : Prop where
  move : SignoffMove env p action p'
  before : s.formal.picture p.round p.task = p
  after : s'.formal.picture p'.round p'.task = p'
  rewrites : s.RewritesRound s' roundId p.round p'.round p.task p'.task
  others : ∀ other, other ≠ roundId → s.formal.SameAt s'.formal other
  contexts : s'.formal.contexts = s.formal.contexts
  measured : s'.formal.barriers = s.formal.barriers ∧ s'.formal.reveals = s.formal.reveals ∧
    s'.formal.comparisons = s.formal.comparisons
  rows : ∀ other, s'.rowsOf other = s.rowsOf other
  fresh : p.intent = none → ∀ intent ∈ p'.intent, ∀ other ∈ s.formal.intents,
    other.signoffIntentId ≠ intent.signoffIntentId

/-- A move keeps the intent but for its state. -/
theorem SignoffMove.sameIntent {env : FormalEnv} {p p' : SignoffPicture} {action : SignoffAction}
    (move : SignoffMove env p action p') {intent : FormalRoundSignoffIntent}
    (present : p.intent = some intent) :
    ∃ state, p'.intent = some (intent.moveTo state) := by
  cases move with
  | finalize => exact ⟨intent.state, present⟩
  | createIntent _ _ _ _ _ _ _ first =>
      rw [first] at present
      cases present
  | publish _ linked | decide linked =>
      cases linked.hasIntent.symm.trans present
      exact ⟨_, rfl⟩

theorem Store.loadFormalContext_eq_ok {s : Store} {reference : FormalAuthorityContextRef}
    {context : FormalAuthorityContext} (ok : s.loadFormalContext reference = .ok context) :
    s.formal.contexts.find? reference.roundId = some context ∧
      context.toFormalAuthorityContextRef = reference := by
  simp only [Store.loadFormalContext, Except.bind_eq_ok, requireSome_eq_ok, require_eq_ok] at ok
  obtain ⟨_, found, _, _, _, same, ok⟩ := ok
  cases ok
  exact ⟨found, same⟩

/-- What the evidence of a formal round was verified against. -/
structure Store.Verifies (env : FormalEnv) (s : Store) (record : FormalEvidenceBundlePersistence)
    (context : FormalAuthorityContext) (round : SearchRound) (expected : SearchRoundState)
    (path : FormalPath) : Prop where
  search : s.formal.barrier? record.bundle.roundId .search = some path.search
  rows : path = s.formalPath record.bundle.roundId path.search
  terminal : path.requireTerminal record.bundle.terminalReason round.state expected = .ok ()
  settled : ∀ row ∈ s.reservationsOf record.bundle.roundId, row.state ≠ .reserved
  hashed : record.bundle.budgetLedgerHash = roundBudgetLedgerHash env.toRoundEnv
    record.bundle.roundId (s.reservationsOf record.bundle.roundId)
    (s.ledgerOf record.bundle.roundId)
  valid : round.Valid
  verified : ∃ verify, env.formalFinalizer = some verify ∧
    verify context { round with state := record.bundle.terminalReason.barrierState }
      path.search.barrier path.reveal (path.holdout.map FormalBarrier.barrier)
      (path.comparison.map FormalMultipleComparison.result) record.bundle = .ok ()

theorem verifyFormalEvidence_eq_ok {env : FormalEnv} {s : Store}
    {record : FormalEvidenceBundlePersistence} {context : FormalAuthorityContext}
    {round : SearchRound} {expected : SearchRoundState} {path : FormalPath} :
    verifyFormalEvidence env record context round expected s = .ok path ↔
      s.Verifies env record context round expected path := by
  simp only [verifyFormalEvidence, SearchRound.authority, Except.bind_eq_ok, requireSome_eq_ok,
    require_eq_ok, verifierVerdict_eq_ok]
  constructor
  · rintro ⟨verify, configured, search, found, _, terminal, _, settled, _, hashed, _,
      ⟨_, valid, authority⟩, _, verified, same⟩
    cases authority
    cases same
    exact ⟨found, rfl, terminal, settled, hashed, valid, verify, configured, verified⟩
  · rintro ⟨found, same, terminal, settled, hashed, valid, verify, configured, verified⟩
    rw [same] at terminal verified
    exact ⟨verify, configured, path.search, found, (), terminal, (), settled, (), hashed, _,
      ⟨(), valid, rfl⟩, (), verified, congrArg _ same.symm⟩

theorem FormalPath.state_of_requireTerminal {path : FormalPath} {reason : RoundTerminalReason}
    {state expected : SearchRoundState} {u : Unit}
    (ok : path.requireTerminal reason state expected = .ok u) : state = expected := by
  unfold FormalPath.requireTerminal at ok
  cases reason <;> exact (require_eq_ok.mp ok).1

theorem SignoffMove.sameTask {env : FormalEnv} {p p' : SignoffPicture} {action : SignoffAction}
    (move : SignoffMove env p action p') :
    p'.task.SameInputs p.task ∧ p'.round.toRoundCreation = p.round.toRoundCreation ∧
      p'.context = p.context := by
  cases move <;> exact ⟨rfl, rfl, rfl⟩

/-- A lookup that was rewritten at one key. -/
def RewrittenAt {Key Row : Type} [DecidableEq Key] (k : Key) (value : Option Row)
    (before after : Key → Option Row) : Prop :=
  ∀ other, after other = if other = k then value else before other

theorem RewrittenAt.refl {Key Row : Type} [DecidableEq Key] {k : Key} {value : Option Row}
    {lookup : Key → Option Row} (here : lookup k = value) : RewrittenAt k value lookup lookup := by
  intro other
  by_cases same : other = k
  · rw [if_pos same, same, here]
  · rw [if_neg same]

section Operations

variable {env : FormalEnv} {s s' : Store}

/-- A signoff moves when the rows of its picture, and no others, are rewritten. -/
theorem movesSignoff_of_rewrites {roundId : Uuid} {round : SearchRound} {task : Task}
    {action : SignoffAction} {p' : SignoffPicture}
    (found : s.searchRounds.find? roundId = some round)
    (tasked : s.tasks.find? round.taskId = some task)
    (move : SignoffMove env (s.formal.picture round task) action p')
    (rounds : RewrittenAt roundId (some p'.round) s.searchRounds.find? s'.searchRounds.find?)
    (tasks : RewrittenAt round.taskId (some p'.task) s.tasks.find? s'.tasks.find?)
    (evidence : RewrittenAt roundId p'.evidence s.formal.evidence.find? s'.formal.evidence.find?)
    (intents : RewrittenAt roundId p'.intent s.formal.intents.find? s'.formal.intents.find?)
    (outbox : RewrittenAt roundId p'.outbox s.formal.outbox.find? s'.formal.outbox.find?)
    (signoffs : RewrittenAt roundId p'.signoff s.formal.signoffs.find? s'.formal.signoffs.find?)
    (contexts : s'.formal.contexts = s.formal.contexts)
    (measured : s'.formal.barriers = s.formal.barriers ∧ s'.formal.reveals = s.formal.reveals ∧
      s'.formal.comparisons = s.formal.comparisons)
    (rows : ∀ other, s'.rowsOf other = s.rowsOf other)
    (fresh : s.formal.intents.find? roundId = none → ∀ intent ∈ p'.intent,
      ∀ other ∈ s.formal.intents, other.signoffIntentId ≠ intent.signoffIntentId) :
    s.MovesSignoff env s' roundId action (s.formal.picture round task) p' := by
  have key : round.roundId = roundId := Table.key_of_find? found
  obtain ⟨inputs, creation, context⟩ := move.sameTask
  have sameId : p'.round.roundId = roundId := (congrArg RoundCreation.roundId creation).trans key
  have sameTask : p'.round.taskId = round.taskId := congrArg RoundCreation.taskId creation
  refine ⟨move, rfl, ?_, ⟨found, tasked, ?_, ?_, creation, inputs, ?_, ?_⟩, ?_, contexts,
    measured, rows, ?_⟩
  · unfold FormalTables.picture
    rw [sameId, evidence, intents, outbox, signoffs, contexts, if_pos rfl, if_pos rfl, if_pos rfl,
      if_pos rfl]
    obtain ⟨_, _, _, _, _, _, _⟩ := p'
    simp only [FormalTables.picture, key] at context
    rw [context]
  · rw [rounds, if_pos rfl]
  · rw [sameTask, tasks, if_pos rfl]
  · exact fun other different => by rw [rounds, if_neg different]
  · exact fun taskId different => (tasks taskId).trans (if_neg different)
  · exact fun other different => ⟨by rw [evidence, if_neg different],
      by rw [intents, if_neg different], by rw [outbox, if_neg different],
      by rw [signoffs, if_neg different]⟩
  · intro absent
    simp only [FormalTables.picture, key] at absent
    exact fresh absent

variable (consistent : s.SignoffsConsistent)
include consistent

theorem finalizeFormalSearchRound_effect {record : FormalEvidenceBundlePersistence}
    {reply : SearchRound} (ok : finalizeFormalSearchRound env record s = .ok (s', reply)) :
    s' = s ∨ ∃ p p', s.MovesSignoff env s' record.bundle.roundId .notSignable p p' ∧
      p'.evidence = some record.row ∧
      (∀ row ∈ s.reservationsOf record.bundle.roundId, row.state ≠ .reserved) ∧
      record.bundle.budgetLedgerHash = roundBudgetLedgerHash env.toRoundEnv record.bundle.roundId
        (s.reservationsOf record.bundle.roundId) (s.ledgerOf record.bundle.roundId) := by
  simp only [finalizeFormalSearchRound, Except.bind_eq_ok, requireSome_eq_ok,
    Store.requireRound_eq_ok] at ok
  obtain ⟨round, found, task, tasked, context, loaded, ok⟩ := ok
  split at ok
  · simp only [Except.bind_eq_ok] at ok
    obtain ⟨_, _, _, _, _, _, ok⟩ := ok
    cases ok
    exact .inl rfl
  · rename_i first
    simp only [Except.bind_eq_ok, require_eq_ok, verifyFormalEvidence_eq_ok] at ok
    obtain ⟨path, verifies, _, _, ok⟩ := ok
    obtain ⟨sealed, same⟩ := Store.loadFormalContext_eq_ok loaded
    obtain ⟨boundRound, boundTask, _⟩ := record.bound
    rw [← boundRound] at sealed
    obtain ⟨own, there, taskId, mode⟩ := consistent.sealed _ _ sealed
    cases there.symm.trans found
    have key : round.roundId = record.bundle.roundId := Table.key_of_find? found
    have ownTask : record.bundle.taskId = round.taskId := by
      rw [boundTask, ← taskId, ← same]
    have running : round.state.isScripted = true := by
      rw [FormalPath.state_of_requireTerminal verifies.terminal]
      cases record.bundle.terminalReason <;> rfl
    have move : SignoffMove env (s.formal.picture round task) .notSignable _ :=
      .finalize record context running verifies.valid (by rw [← sealed, ← key]; rfl) same
        ⟨(Table.key_of_find? sealed).trans key.symm, taskId⟩ mode (by rw [← first, ← key]; rfl)
    rw [ownTask] at ok
    cases ok
    exact .inr ⟨_, _, movesSignoff_of_rewrites found tasked move (Table.find?_update_known found)
      (Table.find?_update_known tasked) (Table.find?_insert_new first) (.refl (by rw [← key]; rfl))
      (.refl (by rw [← key]; rfl)) (.refl (by rw [← key]; rfl)) rfl ⟨rfl, rfl, rfl⟩ (fun _ => rfl)
      (fun absent intent present => by
        rw [← key] at absent
        cases present.symm.trans absent), rfl, verifies.settled, verifies.hashed⟩

theorem createFormalRoundSignoffIntent_effect {now : Timestamp}
    {request : FormalRoundSignoffRequest}
    {reply : FormalRoundSignoffIntent × FormalRoundSignoffOutbox}
    (ok : createFormalRoundSignoffIntent env now request s = .ok (s', reply)) :
    s' = s ∨ ∃ p p', s.MovesSignoff env s' request.roundId .createIntent p p' := by
  simp only [createFormalRoundSignoffIntent, Except.bind_eq_ok, Store.requireRound_eq_ok] at ok
  obtain ⟨round, found, ok⟩ := ok
  split at ok
  · simp only [Except.bind_eq_ok] at ok
    obtain ⟨_, _, _, _, _, _, ok⟩ := ok
    cases ok
    exact .inl rfl
  · rename_i unselected
    simp only [persistSignoffIntent, Except.bind_eq_ok, require_eq_ok, requireSome_eq_ok] at ok
    obtain ⟨_, ⟨_, awaits, _⟩, task, tasked, _, _, evidence, _, context, sealed, _, _, _, _, _, _,
      _, fresh, ok⟩ := ok
    have key : round.roundId = request.roundId := Table.key_of_find? found
    have first : s.formal.intents.find? request.roundId = none := by
      rw [Table.find?_eq_none_iff]
      intro row present same
      have passed := List.find?_eq_none.mp unselected row present
      have sameRound : row.roundId = request.roundId := same
      simp [FormalRoundSignoffRequest.selects, sameRound] at passed
    obtain ⟨action, stage⟩ := consistent.stage _ _ _ found tasked
    have noEvent : s.formal.outbox.find? request.roundId = none := by
      rw [← key] at first ⊢
      cases stage with
      | unfinished running =>
          simp only [FormalTables.picture, awaits] at running
          cases running
      | awaiting _ _ rows => exact rows.2.1
      | prepared _ _ linked | published _ _ linked | signed _ linked =>
          cases first.symm.trans linked.hasIntent
    have move : SignoffMove env (s.formal.picture round task) .createIntent _ :=
      .createIntent now request context evidence awaits key.symm (by rw [← sealed, ← key]; rfl)
        (by rw [← first, ← key]; rfl) (by rw [← noEvent, ← key]; rfl)
    cases ok
    exact .inr ⟨_, _, movesSignoff_of_rewrites found tasked move (.refl found) (.refl tasked)
      (.refl (by rw [← key]; rfl)) (Table.find?_insert_new first) (Table.find?_insert_new noEvent)
      (.refl (by rw [← key]; rfl)) rfl ⟨rfl, rfl, rfl⟩ (fun _ => rfl)
      fun _ intent present other there => by
        cases present
        exact (fresh.1 other there).1⟩

theorem recordFormalRoundSignoffArtifact_effect
    {publication : FormalRoundSignoffArtifactPublication} {reply : FormalRoundSignoffOutbox}
    (ok : recordFormalRoundSignoffArtifact publication s = .ok (s', reply)) :
    s' = s ∨ ∃ intent, s.formal.intent? publication.signoffIntentId = some intent ∧
      ∃ p p', s.MovesSignoff env s' intent.roundId .publishArtifact p p' := by
  simp only [recordFormalRoundSignoffArtifact, Except.bind_eq_ok, require_eq_ok, requireRow_eq_ok,
    requireSome_eq_ok] at ok
  obtain ⟨intent, found, event, recorded, _, ⟨_, _⟩, ok⟩ := ok
  split at ok
  · simp only [Except.bind_eq_ok] at ok
    obtain ⟨_, _, ok⟩ := ok
    cases ok
    exact .inl rfl
  · simp only [Except.bind_eq_ok, require_eq_ok] at ok
    obtain ⟨_, ⟨preparing, pending⟩, ok⟩ := ok
    obtain ⟨round, task, foundRound, tasked, linked⟩ := consistent.lookup found recorded
    have key : round.roundId = intent.roundId := linked.round.symm
    have here : s.formal.intents.find? intent.roundId = some intent := by
      rw [← key]
      exact linked.hasIntent
    have there : s.formal.outbox.find? event.roundId = some event := by
      rw [linked.eventRound, ← key]
      exact linked.hasEvent
    have move : SignoffMove env (s.formal.picture round task) .publishArtifact _ :=
      .publish publication.toDecisionArtifact linked preparing pending
    have outboxes := Table.find?_update_known
      (f := FormalRoundSignoffOutbox.publish publication.toDecisionArtifact) there
    rw [linked.eventRound] at outboxes ok
    cases ok
    exact .inr ⟨intent, found, _, _, movesSignoff_of_rewrites foundRound tasked move (.refl foundRound)
      (.refl tasked) (.refl (by rw [← key]; rfl)) (Table.find?_update_known here) outboxes
      (.refl (by rw [← key]; rfl)) rfl ⟨rfl, rfl, rfl⟩ (fun _ => rfl)
      fun absent => by
        rw [here] at absent
        cases absent⟩

theorem finalizeFormalRoundSignoff_effect {publication : FormalRoundSignoffArtifactPublication}
    {reply : FormalRoundSignoff}
    (ok : finalizeFormalRoundSignoff env publication s = .ok (s', reply)) :
    s' = s ∨ ∃ intent, s.formal.intent? publication.signoffIntentId = some intent ∧
      ∃ p p', s.MovesSignoff env s' intent.roundId .finalizeSignoff p p' ∧
        p'.signoff = some (intent.signoff publication.toDecisionArtifact) := by
  simp only [finalizeFormalRoundSignoff, Except.bind_eq_ok, require_eq_ok, requireRow_eq_ok,
    requireSome_eq_ok, verifierVerdict_eq_ok] at ok
  obtain ⟨intent, found, round, foundRound, task, tasked, _, _, event, recorded, _, _, artifact,
    published, _, ⟨sameArtifact, sameSignoff⟩, verify, configured, _, verified, ok⟩ := ok
  split at ok
  · simp only [Except.bind_eq_ok] at ok
    obtain ⟨_, _, ok⟩ := ok
    cases ok
    exact .inl rfl
  · rename_i first
    simp only [persistSignoff, Except.bind_eq_ok, require_eq_ok, transitionTask_eq_ok] at ok
    obtain ⟨_, ⟨intentState, eventState, awaits, taskAwaits, _⟩, _, _, _, ⟨_, rfl⟩, ok⟩ := ok
    obtain ⟨round', task', foundRound', tasked', linked⟩ := consistent.lookup found recorded
    cases foundRound.symm.trans foundRound'
    have ownTask : intent.taskId = round.taskId := linked.task
    rw [ownTask, tasked'] at tasked
    cases tasked
    have key : round.roundId = intent.roundId := linked.round.symm
    have here : s.formal.intents.find? intent.roundId = some intent := by
      rw [← key]
      exact linked.hasIntent
    have there : s.formal.outbox.find? event.roundId = some event := by
      rw [linked.eventRound, ← key]
      exact linked.hasEvent
    have identifier := (FormalTables.of_intent? found).2
    have named : publication = ⟨artifact, intent.signoffIntentId, intent.roundSignoffId⟩ := by
      obtain ⟨_, _, _⟩ := publication
      simp only at sameArtifact sameSignoff identifier
      rw [sameArtifact, sameSignoff, identifier]
    rw [named] at verified
    have move : SignoffMove env (s.formal.picture round task) .finalizeSignoff _ :=
      .decide linked intentState ⟨eventState, published⟩ ⟨awaits, taskAwaits⟩ configured verified
        (by rw [← first, ← key]; rfl)
    have tasks := Table.find?_update_known (f := Task.inState intent.decision.taskState) tasked'
    have outboxes := Table.find?_update_known (f := FormalRoundSignoffOutbox.finalize) there
    have ownTask' : task.taskId = round.taskId := Table.key_of_find? tasked'
    rw [linked.eventRound] at outboxes
    simp only [linked.eventRound, key, ownTask'] at ok
    cases ok
    exact .inr ⟨intent, found, _, _, movesSignoff_of_rewrites foundRound tasked' move
      (Table.find?_update_known foundRound) tasks (.refl (by rw [← key]; rfl))
      (Table.find?_update_known here) outboxes (Table.find?_insert_new first) rfl ⟨rfl, rfl, rfl⟩
      (fun _ => rfl) (fun absent => by
        rw [here] at absent
        cases absent), by rw [named]⟩

end Operations

end HcuAutoOpt
