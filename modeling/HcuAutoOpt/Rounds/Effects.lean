import HcuAutoOpt.Rounds.Invariant

/-!
# The operations move one round

Each operation on search rounds leaves the store as it is or moves the picture of one
round by one move (`Store.MovesRound`) and touches no other round. A creation adds the
picture of a new round (`createSearchRound_effect`). Together the lemmas say that the
store refines the moves of its rounds.
-/

set_option autoImplicit false

namespace HcuAutoOpt

open Foundation

/-! ## Rows about a round after a write -/

section Rows

variable {s t : Store}

theorem membersOf_of_insert {row : RoundCandidate}
    (inserted : t.roundCandidates = s.roundCandidates.insertIfAbsent row)
    (absent : s.roundCandidates.find? row.roundCandidateId = none) (roundId : Uuid) :
    t.membersOf roundId = s.membersOf roundId ++ if row.roundId = roundId then [row] else [] := by
  unfold Store.membersOf
  rw [inserted, Table.filter_insertIfAbsent absent]
  simp

theorem membersOf_of_update {f : RoundCandidate → RoundCandidate} [KeepsKey f] {k : Uuid}
    (updated : t.roundCandidates = s.roundCandidates.update k f)
    (keeps : ∀ row, (f row).roundId = row.roundId) (roundId : Uuid) :
    t.membersOf roundId =
      (s.membersOf roundId).map fun row => if row.roundCandidateId = k then f row else row := by
  unfold Store.membersOf
  rw [updated, Table.filter_update fun row => by rw [keeps]]
  rfl

theorem membersOf_of_storeMemberStates {items : List BarrierMemberResult}
    (stored : t.roundCandidates = storeMemberStates items s.roundCandidates) (roundId : Uuid) :
    t.membersOf roundId = memberStates items (s.membersOf roundId) := by
  induction items generalizing s with
  | nil =>
      unfold Store.membersOf
      rw [stored]
      rfl
  | cons item items ih =>
      rw [storeMemberStates, List.foldl_cons, ← storeMemberStates] at stored
      rw [ih (s := { s with
            roundCandidates := s.roundCandidates.update item.roundCandidateId
              (RoundCandidate.inState item.candidateState) }) stored,
        membersOf_of_update (f := RoundCandidate.inState item.candidateState) rfl fun _ => rfl,
        memberStates, memberStates, List.foldl_cons]

/-- The members of one round are not those of another. -/
theorem membersOf_apart {roundId other k : Uuid} {member : RoundCandidate}
    (present : member ∈ s.membersOf roundId) (key : member.roundCandidateId = k)
    (different : other ≠ roundId) :
    ∀ row ∈ s.membersOf other, row.roundCandidateId ≠ k := by
  intro row there same
  simp only [Store.membersOf, List.mem_filter, decide_eq_true_eq] at present there
  have one : row = member :=
    Table.eq_of_key_eq (t := s.roundCandidates) there.1 present.1 (same.trans key.symm)
  rw [one] at there
  exact different (there.2.symm.trans present.2)

theorem memberStates_apart {items : List BarrierMemberResult} {members : List RoundCandidate}
    (apart : ∀ item ∈ items, ∀ member ∈ members,
      member.roundCandidateId ≠ item.roundCandidateId) : memberStates items members = members := by
  induction items with
  | nil => rfl
  | cons item items ih =>
      have still : (members.map fun member =>
          if member.roundCandidateId = item.roundCandidateId then member.inState item.candidateState
          else member) = members := by
        conv_rhs => rw [← List.map_id members]
        refine List.map_congr_left fun member present => ?_
        rw [if_neg (apart item List.mem_cons_self member present)]
        rfl
      rw [memberStates, List.foldl_cons, still]
      exact ih fun other there => apart other (List.mem_cons_of_mem _ there)

/-- The members that a barrier stores are members of its round. -/
theorem storeMemberStates_rows {items : List BarrierMemberResult} {roundId : Uuid}
    (stored : t.roundCandidates = storeMemberStates items s.roundCandidates)
    (identified : ∀ item ∈ items, ∃ stored ∈ s.membersOf roundId, stored.Identifies item) :
    t.membersOf roundId = memberStates items (s.membersOf roundId) ∧
      ∀ other, other ≠ roundId → t.membersOf other = s.membersOf other := by
  refine ⟨membersOf_of_storeMemberStates stored roundId, fun other different => ?_⟩
  rw [membersOf_of_storeMemberStates stored other]
  refine memberStates_apart fun item there => ?_
  obtain ⟨member, present, _, identifier, _⟩ := identified item there
  exact membersOf_apart present identifier different

theorem searchDecision_eq_none {roundId : Uuid} :
    s.searchDecision roundId = none ↔ s.roundBarriers.find? (roundId, .search) = none := by
  unfold Store.searchDecision
  cases found : s.roundBarriers.find? (roundId, .search) with
  | none => simp
  | some row =>
      have key := Table.key_of_find? found
      cases row with
      | search decision => simp
      | holdout barrier => cases key

theorem holdoutBarrier_eq_none {roundId : Uuid} :
    s.holdoutBarrier roundId = none ↔ s.roundBarriers.find? (roundId, .holdout) = none := by
  unfold Store.holdoutBarrier
  cases found : s.roundBarriers.find? (roundId, .holdout) with
  | none => simp
  | some row =>
      have key := Table.key_of_find? found
      cases row with
      | search decision => cases key
      | holdout barrier => simp

theorem barriers_of_search {decision : SearchBarrierDecision}
    (inserted : t.roundBarriers = s.roundBarriers.insertIfAbsent (.search decision))
    (absent : s.searchDecision decision.barrier.roundId = none) (roundId : Uuid) :
    t.searchDecision roundId =
        (if roundId = decision.barrier.roundId then some decision else s.searchDecision roundId) ∧
      t.holdoutBarrier roundId = s.holdoutBarrier roundId := by
  rw [searchDecision_eq_none] at absent
  unfold Store.searchDecision Store.holdoutBarrier
  rw [inserted, Table.find?_insertIfAbsent, Table.find?_insertIfAbsent]
  by_cases same : roundId = decision.barrier.roundId
  · subst same
    simp [absent, RoundBarrierRow.barrier, RoundBarrierRow.phase]
  · simp [same, Ne.symm same, RoundBarrierRow.barrier, RoundBarrierRow.phase]

theorem barriers_of_holdout {barrier : RoundBarrierResult}
    (inserted : t.roundBarriers = s.roundBarriers.insertIfAbsent (.holdout barrier))
    (absent : s.holdoutBarrier barrier.roundId = none) (roundId : Uuid) :
    t.holdoutBarrier roundId =
        (if roundId = barrier.roundId then some barrier else s.holdoutBarrier roundId) ∧
      t.searchDecision roundId = s.searchDecision roundId := by
  rw [holdoutBarrier_eq_none] at absent
  unfold Store.searchDecision Store.holdoutBarrier
  rw [inserted, Table.find?_insertIfAbsent, Table.find?_insertIfAbsent]
  by_cases same : roundId = barrier.roundId
  · subst same
    simp [absent, RoundBarrierRow.barrier, RoundBarrierRow.phase]
  · simp [same, Ne.symm same, RoundBarrierRow.barrier, RoundBarrierRow.phase]

theorem ledgerOf_of_insert {entry : RoundBudgetLedgerEntry}
    (inserted : t.budgetLedger = s.budgetLedger.insertIfAbsent entry)
    (absent : s.budgetLedger.find? entry.ledgerEntryId = none) (roundId : Uuid) :
    t.ledgerOf roundId = s.ledgerOf roundId ++ if entry.roundId = roundId then [entry] else [] := by
  unfold Store.ledgerOf
  rw [inserted, Table.filter_insertIfAbsent absent]
  simp

theorem reservationsOf_of_insert {row : RoundBudgetReservation}
    (inserted : t.budgetReservations = s.budgetReservations.insertIfAbsent row)
    (absent : s.budgetReservations.find? row.reservationId = none) (roundId : Uuid) :
    t.reservationsOf roundId =
      s.reservationsOf roundId ++ if row.roundId = roundId then [row] else [] := by
  unfold Store.reservationsOf
  rw [inserted, Table.filter_insertIfAbsent absent]
  simp

theorem reservationsOf_of_close {state : RoundBudgetReservationState} {k : Uuid}
    (updated : t.budgetReservations =
      s.budgetReservations.update k (RoundBudgetReservation.close state)) (roundId : Uuid) :
    t.reservationsOf roundId =
      (s.reservationsOf roundId).map fun row =>
        if row.reservationId = k then row.close state else row := by
  unfold Store.reservationsOf
  rw [updated, Table.filter_update (f := RoundBudgetReservation.close state) fun _ => rfl]
  rfl

end Rows

/-! ## One round at a time -/

/-- **Every round has its own task, and every task of a round its round.** -/
structure Store.RoundsOwned (s : Store) : Prop where
  tasked : ∀ round ∈ s.searchRounds, ∃ task, s.tasks.find? round.taskId = some task ∧
    task.workflowType = .searchRound ∧ task.idempotencyKey = round.idempotencyKey ∧
    task.automaticReleaseAllowed = false
  owned : ∀ task ∈ s.tasks, task.workflowType = .searchRound →
    ∃ round ∈ s.searchRounds, round.taskId = task.taskId
  apart : ∀ round ∈ s.searchRounds, ∀ other ∈ s.searchRounds, round.taskId = other.taskId →
    round = other

theorem Store.RoundsOwned.task {s : Store} (owned : s.RoundsOwned) {roundId : Uuid}
    {round : SearchRound} (found : s.searchRounds.find? roundId = some round) :
    ∃ task, s.tasks.find? round.taskId = some task := by
  obtain ⟨task, tasked, _⟩ := owned.tasked round (Table.mem_of_find? found)
  exact ⟨task, tasked⟩

/-- One round and its task are rewritten, without what their creation fixed. -/
structure Store.RewritesRound (s s' : Store) (roundId : Uuid) (round round' : SearchRound)
    (task task' : Task) : Prop where
  found : s.searchRounds.find? roundId = some round
  tasked : s.tasks.find? round.taskId = some task
  found' : s'.searchRounds.find? roundId = some round'
  tasked' : s'.tasks.find? round'.taskId = some task'
  creation : round'.toRoundCreation = round.toRoundCreation
  inputs : task'.SameInputs task
  otherRounds : ∀ other, other ≠ roundId →
    s'.searchRounds.find? other = s.searchRounds.find? other
  otherTasks : ∀ taskId, taskId ≠ round.taskId → s'.tasks.find? taskId = s.tasks.find? taskId

namespace Store.RewritesRound

variable {s s' : Store} {roundId : Uuid} {round round' : SearchRound} {task task' : Task}
  (rewrites : s.RewritesRound s' roundId round round' task task')
include rewrites

/-- A round afterwards is the rewritten round or a round there was. -/
theorem round_cases {other : SearchRound} (present : other ∈ s'.searchRounds) :
    other = round' ∧ other.roundId = roundId ∨
      other ∈ s.searchRounds ∧ other.roundId ≠ roundId := by
  have found := Table.find?_of_mem present
  by_cases here : other.roundId = roundId
  · rw [key_searchRound, here, rewrites.found'] at found
    exact .inl ⟨(Option.some.inj found).symm, here⟩
  · rw [key_searchRound, rewrites.otherRounds _ here] at found
    exact .inr ⟨Table.mem_of_find? found, here⟩

/-- Another round has another task. -/
theorem other_task (owned : s.RoundsOwned) {other : SearchRound}
    (present : other ∈ s.searchRounds) (different : other.roundId ≠ roundId) :
    other.taskId ≠ round.taskId := by
  intro same
  rw [owned.apart other present round (Table.mem_of_find? rewrites.found) same] at different
  exact different (Table.key_of_find? rewrites.found)

/-- Another round and its task stay. -/
theorem other_found (owned : s.RoundsOwned) {other : Uuid} (different : other ≠ roundId) :
    s'.searchRounds.find? other = s.searchRounds.find? other ∧
      ∀ there, s.searchRounds.find? other = some there →
        s'.tasks.find? there.taskId = s.tasks.find? there.taskId := by
  refine ⟨rewrites.otherRounds other different, fun there found => ?_⟩
  have key : there.roundId = other := Table.key_of_find? found
  exact rewrites.otherTasks _
    (rewrites.other_task owned (Table.mem_of_find? found) (by rw [key]; exact different))

theorem roundsOwned (owned : s.RoundsOwned) : s'.RoundsOwned := by
  have ownTask : round'.taskId = round.taskId := congrArg RoundCreation.taskId rewrites.creation
  refine ⟨fun other present => ?_, fun other present workflow => ?_,
    fun one present other present' same => ?_⟩
  · rcases rewrites.round_cases present with ⟨rfl, _⟩ | ⟨old, different⟩
    · obtain ⟨own, there, workflow, sameKey, release⟩ :=
        owned.tasked round (Table.mem_of_find? rewrites.found)
      cases there.symm.trans rewrites.tasked
      refine ⟨task', rewrites.tasked', (congrArg Task.workflowType rewrites.inputs).trans workflow,
        ?_, (congrArg Task.automaticReleaseAllowed rewrites.inputs).trans release⟩
      rw [congrArg RoundCreation.idempotencyKey rewrites.creation, ← sameKey]
      exact (congrArg Task.idempotencyKey rewrites.inputs).trans rfl
    · obtain ⟨own, there, rest⟩ := owned.tasked other old
      refine ⟨own, ?_, rest⟩
      rw [rewrites.otherTasks _ (rewrites.other_task owned old different)]
      exact there
  · by_cases own : other.taskId = round.taskId
    · exact ⟨round', Table.mem_of_find? rewrites.found', ownTask.trans own.symm⟩
    · have there := Table.find?_of_mem present
      rw [key_task, rewrites.otherTasks _ own] at there
      obtain ⟨one, old, sameId⟩ := owned.owned other (Table.mem_of_find? there) workflow
      have different : one.roundId ≠ roundId := by
        intro same
        have here : one = round := Option.some.inj
          ((Table.find?_of_mem old).symm.trans (by rw [key_searchRound, same, rewrites.found]))
        rw [here] at sameId
        exact own sameId.symm
      refine ⟨one, ?_, sameId⟩
      have found := Table.find?_of_mem old
      rw [key_searchRound, ← rewrites.otherRounds _ different] at found
      exact Table.mem_of_find? found
  · rcases rewrites.round_cases present with ⟨rfl, here⟩ | ⟨old, different⟩ <;>
    rcases rewrites.round_cases present' with ⟨rfl, here'⟩ | ⟨old', different'⟩
    · rfl
    · exact absurd (same.symm.trans ownTask) (rewrites.other_task owned old' different')
    · exact absurd (same.trans ownTask) (rewrites.other_task owned old different)
    · exact owned.apart one old other old' same

end Store.RewritesRound

/-- **One round moves**: its picture by a move, everything about the other rounds and the
other tasks not at all. -/
structure Store.MovesRound (env : RoundEnv) (s s' : Store) (roundId : Uuid)
    (action : Option RoundAction) (p p' : RoundPicture) : Prop where
  before : s.picture roundId = some p
  after : s'.picture roundId = some p'
  move : RoundMove env p action p'
  otherRounds : ∀ other, other ≠ roundId →
    s'.searchRounds.find? other = s.searchRounds.find? other ∧ s'.rowsOf other = s.rowsOf other
  otherTasks : ∀ taskId, taskId ≠ p.round.taskId → s'.tasks.find? taskId = s.tasks.find? taskId
  formal : s'.formal = s.formal

/-- A move changes nothing of a task but its state and version. -/
theorem RoundMove.sameTask {env : RoundEnv} {p p' : RoundPicture} {action : Option RoundAction}
    (move : RoundMove env p action p') :
    p'.task.SameInputs p.task ∧ p'.round.toRoundCreation = p.round.toRoundCreation := by
  cases move <;> exact ⟨rfl, rfl⟩

theorem Store.MovesRound.rewrites {env : RoundEnv} {s s' : Store} {roundId : Uuid}
    {action : Option RoundAction} {p p' : RoundPicture}
    (moves : s.MovesRound env s' roundId action p p') :
    s.RewritesRound s' roundId p.round p'.round p.task p'.task := by
  obtain ⟨inputs, creation⟩ := moves.move.sameTask
  obtain ⟨found, tasked, _⟩ := Store.picture_eq_some.mp moves.before
  obtain ⟨found', tasked', _⟩ := Store.picture_eq_some.mp moves.after
  exact ⟨found, tasked, found', tasked', creation, inputs,
    fun other different => (moves.otherRounds other different).1, moves.otherTasks⟩

/-- A new member carries nothing but its state. -/
theorem RoundCandidate.Valid.accepted {request : RoundCandidate} (valid : request.Valid)
    (state : request.state = .intakeAccepted) (artifact : request.artifactId = none)
    (failure : request.terminalFailureCode = none) : request.toBuildTerminal = .accepted := by
  have hash := valid.2.1.mp artifact
  have evidence := valid.2.2.1.mp failure
  obtain ⟨_, ⟨_, _, _, _, _⟩⟩ := request
  cases state
  cases artifact
  cases failure
  cases hash
  cases evidence
  rfl

/-- A member that clashes with no row is added. -/
theorem insertMember {s : Store} {request : RoundCandidate}
    (unclashed : ∀ other ∈ s.roundCandidates, request.clashes other = false) :
    s.roundCandidates.insertUnless request request.clashes =
        s.roundCandidates.insertIfAbsent request ∧
      s.roundCandidates.find? request.roundCandidateId = none := by
  constructor
  · rcases Table.insertUnless_cases s.roundCandidates request request.clashes fun _ => false with
      ⟨_, same, _⟩ | ⟨⟨other, present, clash⟩, _⟩
    · exact same
    · rw [unclashed other present] at clash
      cases clash
  · rw [Table.find?_eq_none_iff]
    intro other present same
    have clash := unclashed other present
    simp only [key_roundCandidate] at same
    simp [RoundCandidate.clashes, same] at clash

/-- An entry that clashes with no row has a new identifier. -/
theorem insertEntry {s : Store} {entry : RoundBudgetLedgerEntry}
    (unclashed : s.budgetLedger.rows.any entry.clashes = false) :
    s.budgetLedger.find? entry.ledgerEntryId = none := by
  rw [Table.find?_eq_none_iff]
  intro row present same
  have clash := List.any_eq_false.mp unclashed row present
  have identifier : row.ledgerEntryId = entry.ledgerEntryId := same
  simp [RoundBudgetLedgerEntry.clashes, identifier] at clash

/-- A reservation that clashes with no row has a new identifier. -/
theorem insertReservation {s : Store} {request : RoundBudgetReservation}
    (absent : s.budgetReservations.rows.find? request.clashes = none) :
    s.budgetReservations.find? request.reservationId = none := by
  rw [Table.find?_eq_none_iff]
  intro row present same
  have clash := List.find?_eq_none.mp absent row present
  simp only [key_budgetReservation] at same
  simp [RoundBudgetReservation.clashes, same] at clash

/-- A reservation adds itself and its entry to the rows of its round. -/
theorem rowsOf_of_reserve {s : Store} {request : RoundBudgetReservation}
    {entry : RoundBudgetLedgerEntry}
    (absent : s.budgetReservations.rows.find? request.clashes = none)
    (unclashed : s.budgetLedger.rows.any entry.clashes = false) (roundId : Uuid) :
    Store.rowsOf
        { s with
          budgetReservations := s.budgetReservations.insertIfAbsent request
          budgetLedger := s.budgetLedger.insertIfAbsent entry.reserving } roundId =
      { s.rowsOf roundId with
        reservations := s.reservationsOf roundId ++
          if request.roundId = roundId then [request] else []
        ledger := s.ledgerOf roundId ++
          if entry.reserving.roundId = roundId then [entry.reserving] else [] } := by
  have freshEntry : s.budgetLedger.find? entry.reserving.ledgerEntryId = none :=
    insertEntry unclashed
  simp only [Store.rowsOf]
  rw [reservationsOf_of_insert (s := s) rfl (insertReservation absent),
    ledgerOf_of_insert (s := s) rfl freshEntry]
  rfl

section Pictures

variable {env : RoundEnv} {s s' : Store} {roundId : Uuid} {round : SearchRound} {task : Task}
  (found : s.searchRounds.find? roundId = some round)
  (tasked : s.tasks.find? round.taskId = some task)
include found tasked

theorem picture_of_round :
    s.picture roundId = some { round, task, rows := s.rowsOf roundId } :=
  Store.picture_eq_some.mpr ⟨found, tasked, rfl⟩

/-- The picture of a round whose row was rewritten, its task left alone. -/
theorem movesRound_of_update {action : Option RoundAction} {f : SearchRound → SearchRound}
    [KeepsKey f] (rows : RoundRows)
    (rounds : s'.searchRounds = s.searchRounds.update roundId f)
    (tasks : s'.tasks = s.tasks) (formal : s'.formal = s.formal)
    (sameTask : (f round).taskId = round.taskId) (own : s'.rowsOf roundId = rows)
    (others : ∀ other, other ≠ roundId → s'.rowsOf other = s.rowsOf other)
    (move : RoundMove env { round, task, rows := s.rowsOf roundId } action
      { round := f round, task, rows }) :
    ∃ p p', s.MovesRound env s' roundId action p p' := by
  refine ⟨_, _, picture_of_round found tasked, Store.picture_eq_some.mpr ⟨?_, ?_, own⟩, move, ?_,
    fun taskId _ => by rw [tasks], formal⟩
  · simp [rounds, found]
  · rw [tasks, sameTask, tasked]
  · intro other different
    rw [rounds, Table.find?_update_ne different]
    exact ⟨rfl, others other different⟩

/-- The picture of a round only whose rows were written. -/
theorem movesRound_of_rows {action : Option RoundAction} (rows : RoundRows)
    (rounds : s'.searchRounds = s.searchRounds) (tasks : s'.tasks = s.tasks)
    (formal : s'.formal = s.formal) (own : s'.rowsOf roundId = rows)
    (others : ∀ other, other ≠ roundId → s'.rowsOf other = s.rowsOf other)
    (move : RoundMove env { round, task, rows := s.rowsOf roundId } action { round, task, rows }) :
    ∃ p p', s.MovesRound env s' roundId action p p' := by
  refine ⟨_, _, picture_of_round found tasked, Store.picture_eq_some.mpr ⟨?_, ?_, own⟩, move,
    fun other different => ⟨by rw [rounds], others other different⟩, fun taskId _ => by rw [tasks],
    formal⟩
  · rw [rounds, found]
  · rw [tasks, tasked]

/-- The picture of a round that ended with its task. -/
theorem movesRound_of_end {action : Option RoundAction} {f : SearchRound → SearchRound}
    [KeepsKey f] {state : TaskState} (rows : RoundRows)
    (rounds : s'.searchRounds = s.searchRounds.update roundId f)
    (tasks : s'.tasks = s.tasks.update round.taskId (Task.inState state))
    (formal : s'.formal = s.formal) (sameTask : (f round).taskId = round.taskId)
    (own : s'.rowsOf roundId = rows)
    (others : ∀ other, other ≠ roundId → s'.rowsOf other = s.rowsOf other)
    (move : RoundMove env { round, task, rows := s.rowsOf roundId } action
      { round := f round, task := task.inState state, rows }) :
    ∃ p p', s.MovesRound env s' roundId action p p' := by
  refine ⟨_, _, picture_of_round found tasked, Store.picture_eq_some.mpr ⟨?_, ?_, own⟩, move, ?_,
    fun taskId different => ?_, formal⟩
  · simp [rounds, found]
  · rw [tasks, sameTask, Table.find?_update_self, tasked]
    rfl
  · intro other different
    rw [rounds, Table.find?_update_ne different]
    exact ⟨rfl, others other different⟩
  · rw [tasks, Table.find?_update_ne different]

end Pictures

/-! ## One lemma an operation -/

section Operations

variable {env : RoundEnv} {s s' : Store} (owned : s.RoundsOwned)
include owned

theorem addRoundCandidate_effect {request reply : RoundCandidate} (valid : request.Valid)
    (ok : addRoundCandidate request s = .ok (s', reply)) :
    s' = s ∨ ∃ p p', s.MovesRound env s' request.roundId (some .awaitCandidateIntake) p p' := by
  simp only [addRoundCandidate, Except.bind_eq_ok, require_eq_ok, Store.requireRound_eq_ok] at ok
  obtain ⟨_, ⟨state, artifact, failure⟩, round, found, ok⟩ := ok
  obtain ⟨task, tasked⟩ := owned.task found
  split at ok
  · simp only [Except.bind_eq_ok] at ok
    obtain ⟨_, _, ok⟩ := ok
    cases ok
    exact .inl rfl
  · rename_i absent
    right
    have unclashed : ∀ other ∈ s.roundCandidates, request.clashes other = false :=
      fun other present => by simpa using List.find?_eq_none.mp absent other present
    obtain ⟨inserts, fresh⟩ := insertMember unclashed
    simp only [registerMember, Except.bind_eq_ok, require_eq_ok] at ok
    obtain ⟨_, opened, _, small, _, _, _, _, _, _, _, _, _, _, ok⟩ := ok
    rw [inserts] at ok
    cases ok
    refine movesRound_of_rows found tasked
      { s.rowsOf request.roundId with members := s.membersOf request.roundId ++ [request] }
      rfl rfl rfl ?_ (fun other different => ?_) ?_
    · simp only [Store.rowsOf]
      rw [membersOf_of_insert (s := s) rfl fresh, if_pos rfl]
      rfl
    · simp only [Store.rowsOf]
      rw [membersOf_of_insert (s := s) rfl fresh, if_neg (Ne.symm different), List.append_nil]
      rfl
    · refine .join request opened (valid.accepted state artifact failure) small
        fun other present => ?_
      simp only [Store.rowsOf, Store.membersOf, List.mem_filter, decide_eq_true_eq] at present
      have apart := unclashed other present.1
      simp only [RoundCandidate.clashes, decide_eq_false_iff_not, not_or, not_and] at apart
      obtain ⟨identifier, _, inRound⟩ := apart
      obtain ⟨candidate, ordinal, _⟩ := inRound present.2
      exact ⟨ordinal, candidate, identifier⟩

theorem closeSearchRoundIntake_effect {now : Timestamp} {roundId : Uuid} {reply : SearchRound}
    (ok : closeSearchRoundIntake env now roundId s = .ok (s', reply)) :
    s' = s ∨ ∃ p p', s.MovesRound env s' roundId (some .closeIntake) p p' := by
  simp only [closeSearchRoundIntake, Except.bind_eq_ok, require_eq_ok,
    Store.requireRound_eq_ok] at ok
  obtain ⟨round, found, _, count, _, accepted, ok⟩ := ok
  obtain ⟨task, tasked⟩ := owned.task found
  split at ok
  · simp only [Except.bind_eq_ok] at ok
    obtain ⟨_, _, ok⟩ := ok
    cases ok
    exact .inl rfl
  · rename_i opened
    cases ok
    exact .inr (movesRound_of_update found tasked (s.rowsOf roundId) rfl rfl rfl rfl rfl
      (fun _ _ => rfl) (.closeIntake now (not_not.mp opened) count accepted))

theorem recordRoundCandidateBuild_effect {request : RoundCandidateBuildTerminal}
    {reply : RoundCandidate}
    (ok : recordRoundCandidateBuild request s = .ok (s', reply)) :
    s' = s ∨ ∃ p p', s.MovesRound env s' request.roundId (some .awaitBuildTerminals) p p' := by
  simp only [recordRoundCandidateBuild, Except.bind_eq_ok, require_eq_ok, requireSome_eq_ok,
    Store.requireRound_eq_ok] at ok
  obtain ⟨round, found, member, there, _, ⟨inRound, _⟩, ok⟩ := ok
  obtain ⟨task, tasked⟩ := owned.task found
  have key := Table.key_of_find? there
  have present : member ∈ s.membersOf request.roundId := by
    simp only [Store.membersOf, List.mem_filter, decide_eq_true_eq]
    exact ⟨Table.mem_of_find? there, inRound⟩
  split at ok
  · simp only [Except.bind_eq_ok] at ok
    obtain ⟨_, _, ok⟩ := ok
    cases ok
    exact .inl rfl
  · rename_i waiting
    simp only [Except.bind_eq_ok, require_eq_ok] at ok
    obtain ⟨_, ⟨_, unfrozen, accepting⟩, _, _, ok⟩ := ok
    cases ok
    right
    have members := membersOf_of_update (s := s)
      (t := { s with
        roundCandidates := s.roundCandidates.update request.roundCandidateId
          (RoundCandidate.terminate request.terminal) })
      (f := RoundCandidate.terminate request.terminal) rfl fun _ => rfl
    refine movesRound_of_update found tasked (f := SearchRound.startBuilding)
      { s.rowsOf request.roundId with
        members := (s.membersOf request.roundId).map fun other =>
          if other.roundCandidateId = member.roundCandidateId then
            other.terminate request.terminal
          else other } rfl rfl rfl rfl ?_ (fun other different => ?_) ?_
    · simp only [Store.rowsOf]
      rw [show member.roundCandidateId = request.roundCandidateId from key,
        ← members request.roundId]
      rfl
    · have apart := membersOf_apart present key different
      have still : (s.membersOf other).map (fun row =>
          if row.roundCandidateId = request.roundCandidateId then row.terminate request.terminal
          else row) = s.membersOf other := by
        conv_rhs => rw [← List.map_id (s.membersOf other)]
        refine List.map_congr_left fun row inOther => ?_
        rw [if_neg (apart row inOther)]
        rfl
      simp only [Store.rowsOf]
      rw [← still, ← members other]
      rfl
    · exact .build member request.terminal present waiting request.valid ⟨unfrozen, accepting⟩

theorem freezeSearchRoundArtifactFamily_effect {request : ArtifactFamilyFreezeRequest}
    {reply : SearchRound}
    (ok : freezeSearchRoundArtifactFamily env request s = .ok (s', reply)) :
    s' = s ∨ ∃ p p', s.MovesRound env s' request.roundId (some .freezeArtifactFamily) p p' := by
  simp only [freezeSearchRoundArtifactFamily, Except.bind_eq_ok, require_eq_ok,
    Store.requireRound_eq_ok, familyOrConflict_eq_ok] at ok
  obtain ⟨round, found, _, _, computed, hashed, _, _, ok⟩ := ok
  obtain ⟨task, tasked⟩ := owned.task found
  split at ok
  · simp only [Except.bind_eq_ok] at ok
    obtain ⟨_, _, ok⟩ := ok
    cases ok
    exact .inl rfl
  · simp only [Except.bind_eq_ok, require_eq_ok] at ok
    obtain ⟨_, building, ok⟩ := ok
    cases ok
    exact .inr (movesRound_of_update found tasked (s.rowsOf request.roundId) rfl rfl rfl rfl rfl
      (fun _ _ => rfl) (.freeze computed building hashed))

theorem closeScriptedSearchBarrier_effect {decision : SearchBarrierDecision} {reply : SearchRound}
    (ok : closeScriptedSearchBarrier env decision s = .ok (s', reply)) :
    s' = s ∨ ∃ p p', s.MovesRound env s' decision.barrier.roundId (some .closeSearchBarrier) p p' := by
  simp only [closeScriptedSearchBarrier, Except.bind_eq_ok, require_eq_ok,
    Store.requireRound_eq_ok] at ok
  obtain ⟨_, _, round, found, ok⟩ := ok
  obtain ⟨task, tasked⟩ := owned.task found
  split at ok
  · simp only [Except.bind_eq_ok] at ok
    obtain ⟨_, _, ok⟩ := ok
    cases ok
    exact .inl rfl
  · rename_i absent
    simp only [persistSearchBarrier, SearchRound.authority, Except.bind_eq_ok,
      require_eq_ok] at ok
    obtain ⟨_, ⟨_, ready, _⟩, _, _, _, identified, _, _, authority, ⟨_, _, same⟩, expected,
      decided, _, agreed, _, _, ok⟩ := ok
    cases same
    subst agreed
    have key : round.roundId = expected.barrier.roundId := Table.key_of_find? found
    rw [key] at identified decided ok
    cases ok
    right
    have barriers := barriers_of_search (s := s)
      (t := { s with roundBarriers := s.roundBarriers.insertIfAbsent (.search expected) })
      rfl absent
    have members := storeMemberStates_rows (s := s)
      (t := { s with
        roundCandidates := storeMemberStates expected.barrier.members s.roundCandidates })
      rfl identified
    refine movesRound_of_update found tasked
      (f := SearchRound.closeSearch expected.holdoutFamilyHash)
      { s.rowsOf expected.barrier.roundId with
        members := memberStates expected.barrier.members (s.membersOf expected.barrier.roundId)
        search := some expected } rfl rfl rfl rfl ?_ (fun other different => ?_) ?_
    · obtain ⟨search, holdout⟩ := barriers expected.barrier.roundId
      rw [if_pos rfl] at search
      simp only [Store.rowsOf]
      rw [← members.1, ← search, ← holdout]
      rfl
    · obtain ⟨search, holdout⟩ := barriers other
      rw [if_neg different] at search
      simp only [Store.rowsOf]
      rw [← members.2 other different, ← search, ← holdout]
      rfl
    · exact .closeSearch expected _ ready decided

theorem recordScriptedHoldoutReveal_effect {reveal : HoldoutRevealResult} {reply : SearchRound}
    (ok : recordScriptedHoldoutReveal env reveal s = .ok (s', reply)) :
    s' = s ∨ ∃ p p', s.MovesRound env s' reveal.roundId (some .recordHoldoutReveal) p p' := by
  simp only [recordScriptedHoldoutReveal, Except.bind_eq_ok, Store.requireRound_eq_ok] at ok
  obtain ⟨round, found, ok⟩ := ok
  obtain ⟨task, tasked⟩ := owned.task found
  split at ok
  · simp only [Except.bind_eq_ok] at ok
    obtain ⟨_, _, ok⟩ := ok
    cases ok
    exact .inl rfl
  · rename_i absent
    simp only [persistHoldoutReveal, Except.bind_eq_ok, require_eq_ok, requireSome_eq_ok,
      SearchBarrierDecision.reload_eq_ok] at ok
    obtain ⟨search, durable, _, ⟨_, rfl⟩, _, ⟨_, ready, promoted, bound⟩, _, _, ok⟩ := ok
    cases ok
    right
    refine movesRound_of_update found tasked (f := SearchRound.revealHoldout reveal)
      { s.rowsOf reveal.roundId with reveal := some reveal } rfl rfl rfl rfl ?_
      (fun other different => ?_) (.reveal reveal search ready durable promoted bound)
    · have revealed : (s.holdoutReveals.insertIfAbsent reveal).find? reveal.roundId =
          some reveal := by
        simp [Table.find?_insertIfAbsent, absent]
      simp only [Store.rowsOf]
      rw [← revealed]
      rfl
    · have still : (s.holdoutReveals.insertIfAbsent reveal).find? other =
          s.holdoutReveals.find? other := Table.find?_insertIfAbsent_ne (Ne.symm different)
      simp only [Store.rowsOf]
      rw [← still]
      rfl

theorem closeScriptedHoldoutBarrier_effect {barrier : RoundBarrierResult} {reply : SearchRound}
    (ok : closeScriptedHoldoutBarrier env barrier s = .ok (s', reply)) :
    s' = s ∨ ∃ p p', s.MovesRound env s' barrier.roundId (some .closeHoldoutBarrier) p p' := by
  simp only [closeScriptedHoldoutBarrier, Except.bind_eq_ok, require_eq_ok,
    Store.requireRound_eq_ok] at ok
  obtain ⟨_, _, round, found, ok⟩ := ok
  obtain ⟨task, tasked⟩ := owned.task found
  split at ok
  · simp only [Except.bind_eq_ok] at ok
    obtain ⟨_, _, ok⟩ := ok
    cases ok
    exact .inl rfl
  · rename_i absent
    simp only [persistHoldoutBarrier, Except.bind_eq_ok, require_eq_ok, requireSome_eq_ok] at ok
    obtain ⟨_, _, _, _, _, _, _, ⟨ready, _⟩, _, identified, _, _, _, _, _, _, _, _, ok⟩ := ok
    have key : round.roundId = barrier.roundId := Table.key_of_find? found
    rw [key] at identified ok
    cases ok
    right
    have barriers := barriers_of_holdout (s := s)
      (t := { s with roundBarriers := s.roundBarriers.insertIfAbsent (.holdout barrier) })
      rfl absent
    have members := storeMemberStates_rows (s := s)
      (t := { s with
        roundCandidates := storeMemberStates barrier.members s.roundCandidates })
      rfl identified
    refine movesRound_of_update found tasked (f := SearchRound.closeHoldout)
      { s.rowsOf barrier.roundId with
        members := memberStates barrier.members (s.membersOf barrier.roundId)
        holdout := some barrier } rfl rfl rfl rfl ?_ (fun other different => ?_)
      (.closeHoldout barrier ready)
    · obtain ⟨holdout, search⟩ := barriers barrier.roundId
      rw [if_pos rfl] at holdout
      simp only [Store.rowsOf]
      rw [← members.1, ← search, ← holdout]
      rfl
    · obtain ⟨holdout, search⟩ := barriers other
      rw [if_neg different] at holdout
      simp only [Store.rowsOf]
      rw [← members.2 other different, ← search, ← holdout]
      rfl

theorem recordScriptedMultipleComparison_effect {result reply : MultipleComparisonResult}
    (ok : recordScriptedMultipleComparison env result s = .ok (s', reply)) :
    s' = s ∨ ∃ p p', s.MovesRound env s' result.roundId (some .recordMultipleComparison) p p' := by
  simp only [recordScriptedMultipleComparison, Except.bind_eq_ok, require_eq_ok,
    Store.requireRound_eq_ok] at ok
  obtain ⟨_, _, round, found, ok⟩ := ok
  obtain ⟨task, tasked⟩ := owned.task found
  split at ok
  · simp only [Except.bind_eq_ok] at ok
    obtain ⟨_, _, ok⟩ := ok
    cases ok
    exact .inl rfl
  · rename_i absent
    simp only [Except.bind_eq_ok, require_eq_ok] at ok
    obtain ⟨_, ⟨ready, _⟩, _, _, ok⟩ := ok
    cases ok
    right
    refine movesRound_of_update found tasked (f := SearchRound.nextVersion)
      { s.rowsOf result.roundId with comparison := some result } rfl rfl rfl rfl ?_
      (fun other different => ?_) (.compare result ready absent)
    · have recorded : (s.multipleComparisons.insertIfAbsent result).find? result.roundId =
          some result := by
        simp [Table.find?_insertIfAbsent, absent]
      simp only [Store.rowsOf]
      rw [← recorded]
      rfl
    · have still : (s.multipleComparisons.insertIfAbsent result).find? other =
          s.multipleComparisons.find? other := Table.find?_insertIfAbsent_ne (Ne.symm different)
      simp only [Store.rowsOf]
      rw [← still]
      rfl

theorem finalizeScriptedSearchRound_effect {evidence : RoundEvidenceBundle} {reply : SearchRound}
    (ok : finalizeScriptedSearchRound env evidence s = .ok (s', reply)) :
    s' = s ∨ ∃ p p', s.MovesRound env s' evidence.roundId (some .finalizeScriptedRound) p p' := by
  simp only [finalizeScriptedSearchRound, Except.bind_eq_ok, require_eq_ok,
    Store.requireRound_eq_ok] at ok
  obtain ⟨_, ⟨_, _, unreleasable⟩, round, found, ok⟩ := ok
  obtain ⟨task, tasked⟩ := owned.task found
  split at ok
  · simp only [Except.bind_eq_ok] at ok
    obtain ⟨_, _, _, _, ok⟩ := ok
    cases ok
    exact .inl rfl
  · rename_i absent
    simp only [persistEvidence, Except.bind_eq_ok, require_eq_ok, requireSome_eq_ok,
      SearchBarrierDecision.reload_eq_ok] at ok
    obtain ⟨_, _, search, durable, _, ⟨_, rfl⟩, _, path, _, settled, _, hashed, _, _, _, _, _, _,
      ok⟩ := ok
    have key : round.roundId = evidence.roundId := Table.key_of_find? found
    have bound : evidence.budgetLedgerHash = roundBudgetLedgerHash env round.roundId
        (s.reservationsOf evidence.roundId) (s.ledgerOf evidence.roundId) := by
      rw [key]
      exact hashed
    cases ok
    right
    refine movesRound_of_end found tasked (f := SearchRound.complete)
      { s.rowsOf evidence.roundId with evidence := some evidence } rfl rfl rfl rfl ?_
      (fun other different => ?_)
      (.complete evidence search durable path settled bound unreleasable)
    · have bundled : (s.roundEvidenceBundles.insertIfAbsent evidence).find? evidence.roundId =
          some evidence := by
        simp [Table.find?_insertIfAbsent, absent]
      simp only [Store.rowsOf]
      rw [← bundled]
      rfl
    · have still : (s.roundEvidenceBundles.insertIfAbsent evidence).find? other =
          s.roundEvidenceBundles.find? other := Table.find?_insertIfAbsent_ne (Ne.symm different)
      simp only [Store.rowsOf]
      rw [← still]
      rfl

theorem cancelScriptedSearchRound_round {now : Timestamp} {roundId : Uuid} {reason : String}
    {reply : SearchRound}
    (ok : cancelScriptedSearchRound now roundId reason s = .ok (s', reply)) :
    s' = s ∨ ∃ p p', s.MovesRound env s' roundId none p p' := by
  simp only [cancelScriptedSearchRound, Except.bind_eq_ok, requireRow_eq_ok] at ok
  obtain ⟨round, found, _, scripted, ok⟩ := ok
  obtain ⟨task, tasked⟩ := owned.task found
  split at ok
  · cases ok
    exact .inl rfl
  · rename_i uncancelled
    simp only [Except.bind_eq_ok, require_eq_ok] at ok
    obtain ⟨_, unended, _, _, _, ⟨settled, _⟩, ok⟩ := ok
    cases ok
    have live : round.state.isTerminal = false := by
      revert uncancelled unended
      cases round.state <;> decide
    refine .inr (movesRound_of_end found tasked (f := SearchRound.cancel) (s.rowsOf roundId) rfl rfl
      rfl rfl rfl (fun _ _ => rfl) (.cancel (require_eq_ok.mp scripted) live fun row present => ?_))
    simp only [Store.rowsOf, Store.reservationsOf, List.mem_filter, decide_eq_true_eq] at present
    exact fun reserved => settled row present.1 ⟨present.2, reserved⟩

theorem reserveRoundBudget_effect {request : RoundBudgetReservation}
    {entry : RoundBudgetLedgerEntry} {reply : RoundBudgetReservation × RoundBudgetLedgerEntry}
    (ok : reserveRoundBudget request entry s = .ok (s', reply)) :
    s' = s ∨ ∃ p p', s.MovesRound env s' request.roundId none p p' := by
  simp only [reserveRoundBudget, Except.bind_eq_ok, require_eq_ok,
    Store.requireRound_eq_ok] at ok
  obtain ⟨_, reserved, _, _, _, ⟨reserves, owner, sameRound, _⟩, round, found, ok⟩ := ok
  obtain ⟨task, tasked⟩ := owned.task found
  split at ok
  · simp only [Except.bind_eq_ok] at ok
    obtain ⟨_, _, _, _, _, _, ok⟩ := ok
    cases ok
    exact .inl rfl
  · rename_i absent
    simp only [persistReservation, Except.bind_eq_ok, require_eq_ok, requireBudget_eq_ok] at ok
    obtain ⟨_, ⟨_, live⟩, _, _, _, _, _, within, _, unclashed, ok⟩ := ok
    cases ok
    have rows := rowsOf_of_reserve absent unclashed
    right
    refine movesRound_of_rows found tasked _ rfl rfl rfl (rows request.roundId)
      (fun other different => ?_) ?_
    · have elsewhere : entry.reserving.roundId ≠ other := fun same =>
        different (same.symm.trans sameRound)
      rw [rows other, if_neg (Ne.symm different), if_neg elsewhere, List.append_nil, List.append_nil]
      rfl
    · have inRound : entry.reserving.roundId = request.roundId := sameRound
      rw [if_pos rfl, if_pos inRound]
      refine .reserve request _ live (fun row present same => ?_) reserved ⟨reserves, owner⟩ within
      simp only [Store.rowsOf, Store.reservationsOf, List.mem_filter] at present
      exact Table.find?_eq_none_iff.mp (insertReservation absent) row present.1 same

theorem finalizeRoundBudget_effect {entry : RoundBudgetLedgerEntry}
    {reply : RoundBudgetReservation × RoundBudgetLedgerEntry}
    (ok : finalizeRoundBudget entry s = .ok (s', reply)) :
    s' = s ∨ ∃ p p', s.MovesRound env s' entry.roundId none p p' := by
  simp only [finalizeRoundBudget, Except.bind_eq_ok, require_eq_ok, requireSome_eq_ok,
    Store.requireRound_eq_ok] at ok
  obtain ⟨_, terminal, round, found, reservation, there, _, inRound, ok⟩ := ok
  obtain ⟨task, tasked⟩ := owned.task found
  split at ok
  · simp only [Except.bind_eq_ok] at ok
    obtain ⟨_, _, ok⟩ := ok
    cases ok
    exact .inl rfl
  · rename_i first
    simp only [Except.bind_eq_ok, require_eq_ok] at ok
    obtain ⟨_, reserved, _, _, _, unclashed, ok⟩ := ok
    cases ok
    have key : reservation.reservationId = entry.reservationId := Table.key_of_find? there
    have present : reservation ∈ s.reservationsOf entry.roundId := by
      simp only [Store.reservationsOf, List.mem_filter, decide_eq_true_eq]
      exact ⟨Table.mem_of_find? there, inRound⟩
    have freshEntry := insertEntry unclashed
    right
    have rows : ∀ other, Store.rowsOf
        { s with
          budgetLedger := s.budgetLedger.insertIfAbsent entry
          budgetReservations := s.budgetReservations.update entry.reservationId
            (RoundBudgetReservation.close entry.closes) } other =
        { s.rowsOf other with
          reservations := (s.reservationsOf other).map fun row =>
            if row.reservationId = entry.reservationId then row.close entry.closes else row
          ledger := s.ledgerOf other ++ if entry.roundId = other then [entry] else [] } := by
      intro other
      simp only [Store.rowsOf]
      rw [reservationsOf_of_close (s := s) rfl, ledgerOf_of_insert (s := s) rfl freshEntry]
      rfl
    refine movesRound_of_rows found tasked _ rfl rfl rfl (rows entry.roundId)
      (fun other different => ?_) ?_
    · have still : ((s.reservationsOf other).map fun row =>
          if row.reservationId = entry.reservationId then row.close entry.closes else row) =
          s.reservationsOf other := by
        conv_rhs => rw [← List.map_id (s.reservationsOf other)]
        refine List.map_congr_left fun row inOther => ?_
        rw [if_neg]
        · rfl
        · intro same
          simp only [Store.reservationsOf, List.mem_filter, decide_eq_true_eq] at inOther present
          have one : row = reservation :=
            Table.eq_of_key_eq (t := s.budgetReservations) inOther.1 present.1
              (same.trans key.symm)
          rw [one] at inOther
          exact different (inOther.2.symm.trans present.2)
      rw [rows other, still, if_neg (Ne.symm different), List.append_nil]
      rfl
    · rw [if_pos rfl, ← key]
      refine .settle reservation entry present reserved terminal key.symm fun row inLedger same => ?_
      simp only [Store.rowsOf, Store.ledgerOf, List.mem_filter] at inLedger
      intro closed
      have none := List.find?_eq_none.mp first row inLedger.1
      simp only [decide_eq_true_eq, not_and] at none
      exact none (same.trans key) closed

end Operations

/-! ## Creation -/

/-- A round was created: it and its task are new, and nothing else happened. -/
structure Store.CreatesRound (s s' : Store) (request : SearchRound) (task : Task) : Prop where
  newRound : s.searchRounds.find? request.roundId = none
  newTask : s.tasks.find? request.taskId = none
  rounds : s'.searchRounds = s.searchRounds.insertIfAbsent request
  tasks : s'.tasks = s.tasks.insertIfAbsent task
  task : ∃ targetId, task = request.task targetId
  rows : ∀ roundId, s'.rowsOf roundId = s.rowsOf roundId
  formal : s'.formal = s.formal
  scripted : request.runMode = .scripted
  unfrozen : request.Unfrozen

theorem createSearchRound_effect {s s' : Store} {request reply : SearchRound}
    (owned : s.RoundsOwned) (ok : createSearchRound request s = .ok (s', reply)) :
    s' = s ∨ ∃ task, s.CreatesRound s' request task := by
  simp only [createSearchRound, Except.bind_eq_ok, require_eq_ok, requireRow_eq_ok,
    requireSome_eq_ok] at ok
  obtain ⟨_, scripted, _, unfrozen, authority, _, _, _, task, tasked, _, sameTask, round, rounded,
    _, sameRound, ok⟩ := ok
  rcases Table.insertUnless_cases s.tasks (request.task authority.snapshot.targetId)
      request.selectsTask request.selectsTask with
    ⟨noTask, insertsTask, _⟩ | ⟨_, keepsTasks, selectedTask⟩ <;>
  rcases Table.insertUnless_cases s.searchRounds request request.clashesRound
      request.selectsRound with
    ⟨noRound, insertsRound, _⟩ | ⟨_, keepsRounds, selectedRound⟩
  · right
    rw [insertsTask, insertsRound] at ok
    cases ok
    refine ⟨request.task authority.snapshot.targetId, ?_, ?_, rfl, rfl, ⟨_, rfl⟩, fun _ => rfl,
      rfl, scripted, unfrozen⟩
    · rw [Table.find?_eq_none_iff]
      intro other present same
      have clash := noRound other present
      simp only [key_searchRound] at same
      simp [RoundCreation.clashesRound, RoundCreation.selectsRound, same] at clash
    · rw [Table.find?_eq_none_iff]
      intro other present same
      have clash := noTask other present
      simp only [key_task] at same
      simp [RoundCreation.selectsTask, same] at clash
  · -- The selected round has the task of the request, which is not there.
    rw [selectedRound] at rounded
    obtain ⟨own, found, _⟩ := owned.tasked round (List.mem_of_find?_eq_some rounded)
    have clash := noTask own (Table.mem_of_find? found)
    have same : own.taskId = request.taskId :=
      (Table.key_of_find? found).trans (congrArg RoundCreation.taskId sameRound)
    simp [RoundCreation.selectsTask, same] at clash
  · -- The selected task has a round, which has the key of the request.
    rw [selectedTask] at tasked
    have present := List.mem_of_find?_eq_some tasked
    have identifier : task.taskId = request.taskId := congrArg Task.taskId sameTask
    have workflow : task.workflowType = .searchRound := congrArg Task.workflowType sameTask
    have taskKey : task.idempotencyKey = request.idempotencyKey :=
      congrArg Task.idempotencyKey sameTask
    obtain ⟨other, there, ownTask⟩ := owned.owned task present workflow
    obtain ⟨own, found, _, sameKey, _⟩ := owned.tasked other there
    have one : own = task :=
      Table.eq_of_key_eq (t := s.tasks) (Table.mem_of_find? found) present
        ((Table.key_of_find? found).trans ownTask)
    have clash := noRound other there
    have roundKey : other.idempotencyKey = request.idempotencyKey := by
      rw [← sameKey, one, taskKey]
    simp [RoundCreation.clashesRound, RoundCreation.selectsRound, roundKey] at clash
  · rw [keepsTasks, keepsRounds] at ok
    cases ok
    exact .inl rfl

end HcuAutoOpt
