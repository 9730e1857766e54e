import HcuAutoOpt.Rounds.SignoffEffects
import HcuAutoOpt.Rounds.Lifecycle

/-!
# The signoff of formal rounds

Runs of the five operations on formal rounds among all operations on search rounds and
among transactions elsewhere, in any order and with any arguments (`FormalStep`). Every
store of such a run keeps `Store.SignoffsConsistent`.
-/

set_option autoImplicit false

namespace HcuAutoOpt

open Foundation

/-! ## Calls -/

/-- A call of an operation on formal rounds. -/
inductive FormalCall where
  | finalizeFormalSearchRound (record : FormalEvidenceBundlePersistence)
  | createFormalRoundSignoffIntent (now : Timestamp) (request : FormalRoundSignoffRequest)
  | recordFormalRoundSignoffArtifact (publication : FormalRoundSignoffArtifactPublication)
  | finalizeFormalRoundSignoff (publication : FormalRoundSignoffArtifactPublication)
  | reconcileFormalRoundSignoff (roundId : Uuid)

namespace FormalCall

/-- The transaction of a call. -/
def run (env : FormalEnv) : FormalCall → Transaction Store Error Unit
  | finalizeFormalSearchRound record => (HcuAutoOpt.finalizeFormalSearchRound env record).silent
  | createFormalRoundSignoffIntent now request =>
      (HcuAutoOpt.createFormalRoundSignoffIntent env now request).silent
  | recordFormalRoundSignoffArtifact publication =>
      (HcuAutoOpt.recordFormalRoundSignoffArtifact publication).silent
  | finalizeFormalRoundSignoff publication =>
      (HcuAutoOpt.finalizeFormalRoundSignoff env publication).silent
  | reconcileFormalRoundSignoff roundId => (HcuAutoOpt.reconcileFormalRoundSignoff roundId).silent

/-- The action of recovery before which a call may change something. -/
def action : FormalCall → Option SignoffAction
  | finalizeFormalSearchRound _ => some .notSignable
  | createFormalRoundSignoffIntent .. => some .createIntent
  | recordFormalRoundSignoffArtifact _ => some .publishArtifact
  | finalizeFormalRoundSignoff _ => some .finalizeSignoff
  | reconcileFormalRoundSignoff _ => none

/-- The call made again, at another time. -/
def again (now : Timestamp) : FormalCall → FormalCall
  | createFormalRoundSignoffIntent _ request => createFormalRoundSignoffIntent now request
  | call => call

end FormalCall

/-- A call about search rounds. -/
inductive AnyRoundCall where
  | scripted (call : RoundCall)
  | formal (call : FormalCall)

/-- Other transactions, among them the measurements of formal rounds: they move formal
rounds before their evidence, seal contexts, and leave everything about finished rounds. -/
structure FormalUntouched (s s' : Store) : Prop where
  rounds : ∀ roundId, s'.searchRounds.find? roundId = s.searchRounds.find? roundId ∨
    ∃ round round', s.searchRounds.find? roundId = some round ∧
      s'.searchRounds.find? roundId = some round' ∧
      round'.toRoundCreation = round.toRoundCreation ∧ round.runMode = .formal ∧
      round.state.isTerminal = false ∧ round.state.isScripted = true ∧
      round'.state.isScripted = true
  budgets : ∀ roundId, s'.reservationsOf roundId = s.reservationsOf roundId ∧
    s'.ledgerOf roundId = s.ledgerOf roundId
  bundles : s'.roundEvidenceBundles = s.roundEvidenceBundles
  tasks : ∀ taskId task, task.workflowType = .searchRound →
    (s'.tasks.find? taskId = some task ↔ s.tasks.find? taskId = some task)
  signoffs : s'.formal.evidence = s.formal.evidence ∧ s'.formal.intents = s.formal.intents ∧
    s'.formal.outbox = s.formal.outbox ∧ s'.formal.signoffs = s.formal.signoffs
  contexts : ∀ roundId context, s'.formal.contexts.find? roundId = some context →
    s.formal.contexts.find? roundId = some context ∨
      ∃ round, s.searchRounds.find? roundId = some round ∧ context.taskId = round.taskId ∧
        round.runMode = .formal
  sealed : ∀ roundId context, s.formal.contexts.find? roundId = some context →
    s'.formal.contexts.find? roundId = some context
  measured : ∀ roundId, s.formal.evidence.find? roundId ≠ none →
    s'.formal.barrier? roundId .search = s.formal.barrier? roundId .search ∧
      ∀ search, s'.formalPath roundId search = s.formalPath roundId search

/-- One step: a call about search rounds, committed or rolled back, or a transaction elsewhere. -/
inductive FormalStep (env : FormalEnv) : Store → Option AnyRoundCall → Store → Prop
  | formal (call : FormalCall) (s : Store) :
      FormalStep env s (some (.formal call)) (commit (call.run env) s).1
  | scripted (call : RoundCall) (s : Store) :
      FormalStep env s (some (.scripted call)) (commit (call.run env.toRoundEnv) s).1
  | elsewhere {s s' : Store} (untouched : FormalUntouched s s') : FormalStep env s none s'

/-- A store before any evidence of a formal round. -/
structure Store.NoSignoffs (s : Store) : Prop where
  owned : s.RoundsOwned
  sealed : ∀ context ∈ s.formal.contexts, ∃ round,
    s.searchRounds.find? context.roundId = some round ∧ context.taskId = round.taskId ∧
      round.runMode = .formal
  running : ∀ round ∈ s.searchRounds, round.state.isScripted = true
  rows : s.formal.evidence = ∅ ∧ s.formal.intents = ∅ ∧ s.formal.outbox = ∅ ∧
    s.formal.signoffs = ∅

/-! ## What a call does -/

/-- **A call moves one signoff, or changes nothing.** -/
theorem FormalCall.effect {env : FormalEnv} {s s' : Store} {call : FormalCall} {u : Unit}
    (consistent : s.SignoffsConsistent) (ok : call.run env s = .ok (s', u)) :
    s' = s ∨ ∃ roundId action p p', call.action = some action ∧
      s.MovesSignoff env s' roundId action p p' := by
  cases call with
  | finalizeFormalSearchRound record =>
      obtain ⟨reply, ok⟩ := Transaction.silent_eq_ok.mp ok
      exact (finalizeFormalSearchRound_effect consistent ok).imp_right
        fun ⟨p, p', moves, _⟩ => ⟨_, _, p, p', rfl, moves⟩
  | createFormalRoundSignoffIntent now request =>
      obtain ⟨reply, ok⟩ := Transaction.silent_eq_ok.mp ok
      exact (createFormalRoundSignoffIntent_effect consistent ok).imp_right
        fun ⟨p, p', moves⟩ => ⟨_, _, p, p', rfl, moves⟩
  | recordFormalRoundSignoffArtifact publication =>
      obtain ⟨reply, ok⟩ := Transaction.silent_eq_ok.mp ok
      exact (recordFormalRoundSignoffArtifact_effect consistent ok).imp_right
        fun ⟨_, _, p, p', moves⟩ => ⟨_, _, p, p', rfl, moves⟩
  | finalizeFormalRoundSignoff publication =>
      obtain ⟨reply, ok⟩ := Transaction.silent_eq_ok.mp ok
      exact (finalizeFormalRoundSignoff_effect consistent ok).imp_right
        fun ⟨_, _, p, p', moves, _⟩ => ⟨_, _, p, p', rfl, moves⟩
  | reconcileFormalRoundSignoff roundId =>
      obtain ⟨reply, ok⟩ := Transaction.silent_eq_ok.mp ok
      simp only [HcuAutoOpt.reconcileFormalRoundSignoff, Except.bind_eq_ok] at ok
      obtain ⟨_, _, ok⟩ := ok
      cases ok
      exact .inl rfl

/-! ## The invariant -/

theorem Store.NoSignoffs.signoffsConsistent {s : Store} (start : s.NoSignoffs) :
    s.SignoffsConsistent := by
  obtain ⟨evidence, intents, outbox, signoffs⟩ := start.rows
  exact {
    owned := start.owned
    sealed := fun roundId context found => by
      have key : context.roundId = roundId := Table.key_of_find? found
      have here := start.sealed context (Table.mem_of_find? found)
      rw [key] at here
      exact here
    blank := fun roundId _ => by
      constructor
      · rw [evidence]
        rfl
      · rw [intents]
        rfl
      · rw [outbox]
        rfl
      · rw [signoffs]
        rfl
    stage := fun roundId round task found _ => by
      refine ⟨_, .unfinished (start.running round (Table.mem_of_find? found)) ?_⟩
      simp [FormalTables.picture, evidence, intents, outbox, signoffs]
    apart := fun intent present => by
      rw [intents] at present
      exact absurd present (Table.not_mem_empty _) }

section Preservation

variable {env : FormalEnv} {s s' : Store}

/-- The picture of a round whose rows are the same. -/
theorem FormalTables.SameAt.picture {formal formal' : FormalTables} {round : SearchRound}
    (same : formal.SameAt formal' round.roundId)
    (context : formal'.contexts.find? round.roundId = formal.contexts.find? round.roundId)
    (task : Task) : formal'.picture round task = formal.picture round task := by
  unfold FormalTables.picture
  rw [same.evidence, same.intents, same.outbox, same.signoffs, context]

theorem Store.MovesSignoff.signoffsConsistent {roundId : Uuid} {action : SignoffAction}
    {p p' : SignoffPicture} (moves : s.MovesSignoff env s' roundId action p p')
    (consistent : s.SignoffsConsistent) : s'.SignoffsConsistent := by
  have found := moves.rewrites.found
  have found' := moves.rewrites.found'
  obtain ⟨named, stage⟩ := consistent.stage _ _ _ found moves.rewrites.tasked
  rw [moves.before] at stage
  have key : p.round.roundId = roundId := Table.key_of_find? found
  have key' : p'.round.roundId = roundId := Table.key_of_find? found'
  -- An intent is an old one but for its state, or it is new with a new identifier.
  have intents : ∀ intent ∈ s'.formal.intents, ∃ old, old.signoffIntentId = intent.signoffIntentId ∧
      old.roundId = intent.roundId ∧
      (old ∈ s.formal.intents ∨ intent.roundId = roundId ∧ ∀ other ∈ s.formal.intents,
        other.signoffIntentId ≠ intent.signoffIntentId) := by
    intro intent present
    have here : s'.formal.intents.find? intent.roundId = some intent := Table.find?_of_mem present
    by_cases own : intent.roundId = roundId
    · have after := congrArg SignoffPicture.intent moves.after
      simp only [FormalTables.picture, key', ← own, here] at after
      cases before : p.intent with
      | none => exact ⟨intent, rfl, rfl, .inr ⟨own, moves.fresh before intent after.symm⟩⟩
      | some old =>
          obtain ⟨state, same⟩ := moves.move.sameIntent before
          cases after.trans same
          have there := congrArg SignoffPicture.intent moves.before
          simp only [FormalTables.picture, before] at there
          exact ⟨old, rfl, rfl, .inl (Table.mem_of_find? there)⟩
    · rw [(moves.others _ own).intents] at here
      exact ⟨intent, rfl, rfl, .inl (Table.mem_of_find? here)⟩
  exact {
    owned := moves.rewrites.roundsOwned consistent.owned
    sealed := fun other context there => by
      rw [moves.contexts] at there
      obtain ⟨round, foundRound, rest⟩ := consistent.sealed other context there
      by_cases same : other = roundId
      · subst same
        cases foundRound.symm.trans found
        rw [← congrArg RoundCreation.taskId moves.rewrites.creation,
          ← congrArg RoundCreation.runMode moves.rewrites.creation] at rest
        exact ⟨p'.round, found', rest⟩
      · rw [← moves.rewrites.otherRounds other same] at foundRound
        exact ⟨round, foundRound, rest⟩
    blank := fun other absent => by
      have different : other ≠ roundId := by
        rintro rfl
        cases absent.symm.trans found'
      rw [moves.rewrites.otherRounds other different] at absent
      obtain ⟨evidence, intents, outbox, signoffs⟩ := moves.others other different
      obtain ⟨noEvidence, noIntent, noEvent, noSignoff⟩ := consistent.blank other absent
      exact ⟨evidence.trans noEvidence, intents.trans noIntent, outbox.trans noEvent,
        signoffs.trans noSignoff⟩
    stage := fun other round task foundRound tasked => by
      by_cases same : other = roundId
      · subst same
        cases foundRound.symm.trans found'
        cases tasked.symm.trans moves.rewrites.tasked'
        rw [moves.after]
        exact (moves.move.stage stage).2
      · obtain ⟨sameRound, sameTask⟩ := moves.rewrites.other_found consistent.owned same
        rw [sameRound] at foundRound
        rw [sameTask round foundRound] at tasked
        have own : round.roundId = other := Table.key_of_find? foundRound
        have still := moves.others other same
        rw [← own] at still
        rw [still.picture (by rw [moves.contexts])]
        exact consistent.stage other round task foundRound tasked
    apart := fun intent present other present' same => by
      have one : intent.roundId = other.roundId := by
        obtain ⟨old, identifier, sameRound, past⟩ := intents intent present
        obtain ⟨old', identifier', sameRound', past'⟩ := intents other present'
        rcases past with there | ⟨own, fresh⟩ <;> rcases past' with there' | ⟨own', fresh'⟩
        · rw [← sameRound, ← sameRound', consistent.apart old there old' there'
            (identifier.trans (same.trans identifier'.symm))]
        · exact absurd (identifier.trans same) (fresh' old there)
        · exact absurd (identifier'.trans same.symm) (fresh old' there')
        · rw [own, own']
      exact Table.eq_of_key_eq (t := s'.formal.intents) present present' one }

/-- The scripted operations keep a round in a scripted state, and leave a formal round
that has left those states. -/
theorem RoundMove.signoff {env : RoundEnv} {p p' : RoundPicture} {action : Option RoundAction}
    (move : RoundMove env p action p') :
    (p.round.state.isScripted = true → p'.round.state.isScripted = true) ∧
      (p.round.state.isScripted = false → p.round.runMode = .formal →
        p'.round = p.round ∧ p'.task = p.task) := by
  cases move with
  | join | reserve | settle => exact ⟨id, fun _ _ => ⟨rfl, rfl⟩⟩
  | closeIntake _ state | freeze _ state | closeHoldout _ state =>
      refine ⟨fun _ => rfl, fun left => ?_⟩
      rw [state] at left
      cases left
  | reveal _ _ state =>
      refine ⟨fun _ => rfl, fun left => ?_⟩
      rw [state] at left
      cases left
  | build _ _ _ _ _ accepting =>
      refine ⟨fun _ => rfl, fun left => ?_⟩
      rcases List.mem_pair.mp accepting.2 with state | state <;> rw [state] at left <;> cases left
  | closeSearch _ _ ready =>
      refine ⟨fun _ => rfl, fun left => ?_⟩
      rcases List.mem_pair.mp ready with state | state <;> rw [state] at left <;> cases left
  | compare _ state =>
      refine ⟨id, fun left => ?_⟩
      rw [state] at left
      cases left
  | complete evidence _ _ path =>
      refine ⟨fun _ => rfl, fun left => ?_⟩
      unfold requireTerminalPath at path
      split at path <;> rw [(require_eq_ok.mp path).1] at left <;> cases left
  | cancel scripted =>
      refine ⟨fun _ => rfl, fun _ formal => ?_⟩
      rw [scripted] at formal
      cases formal

/-- A stage survives what leaves the rows of the signoff, moves the round only before its
evidence and seals a context only where there is none. -/
theorem SignoffStage.survives {formal formal' : FormalTables} {round round' : SearchRound}
    {task task' : Task} {action : SignoffAction}
    (stage : SignoffStage (formal.picture round task) action)
    (same : formal.SameAt formal' round.roundId)
    (sealed : ∀ context, formal.contexts.find? round.roundId = some context →
      formal'.contexts.find? round.roundId = some context)
    (sameId : round'.roundId = round.roundId)
    (running : round.state.isScripted = true → round'.state.isScripted = true)
    (still : round.state.isScripted = false → round.runMode = .formal →
      round' = round ∧ task' = task) :
    SignoffStage (formal'.picture round' task') action := by
  cases scripted : round.state.isScripted with
  | false =>
      obtain ⟨context, _, evident⟩ := stage.evident_of_signoff scripted
      obtain ⟨rfl, rfl⟩ := still scripted evident.mode
      have before := evident.hasContext
      simp only [FormalTables.picture] at before
      rw [same.picture (by rw [before, sealed context before])]
      exact stage
  | true =>
      cases stage.running_iff.mp scripted
      cases stage with
      | unfinished _ rows =>
          refine .unfinished (running scripted) ?_
          simp only [FormalTables.picture, sameId] at rows ⊢
          rw [same.evidence, same.intents, same.outbox, same.signoffs]
          exact rows

theorem Store.MovesRound.signoffsConsistent {env : RoundEnv} {roundId : Uuid}
    {action : Option RoundAction} {p p' : RoundPicture}
    (moves : s.MovesRound env s' roundId action p p') (consistent : s.SignoffsConsistent) :
    s'.SignoffsConsistent := by
  have rewrites := moves.rewrites
  have creation := rewrites.creation
  obtain ⟨running, still⟩ := moves.move.signoff
  exact {
    owned := rewrites.roundsOwned consistent.owned
    sealed := fun other context there => by
      rw [moves.formal] at there
      obtain ⟨round, found, rest⟩ := consistent.sealed other context there
      by_cases same : other = roundId
      · subst same
        cases found.symm.trans rewrites.found
        rw [← congrArg RoundCreation.taskId creation,
          ← congrArg RoundCreation.runMode creation] at rest
        exact ⟨p'.round, rewrites.found', rest⟩
      · rw [← rewrites.otherRounds other same] at found
        exact ⟨round, found, rest⟩
    blank := fun other absent => by
      have different : other ≠ roundId := by
        rintro rfl
        cases absent.symm.trans rewrites.found'
      rw [rewrites.otherRounds other different] at absent
      rw [moves.formal]
      exact consistent.blank other absent
    stage := fun other round task found tasked => by
      rw [moves.formal]
      by_cases same : other = roundId
      · subst same
        cases found.symm.trans rewrites.found'
        cases tasked.symm.trans rewrites.tasked'
        obtain ⟨named, stage⟩ := consistent.stage _ _ _ rewrites.found rewrites.tasked
        exact ⟨named, stage.survives ⟨rfl, rfl, rfl, rfl⟩ (fun _ => id)
          (congrArg RoundCreation.roundId creation) running still⟩
      · obtain ⟨sameRound, sameTask⟩ := rewrites.other_found consistent.owned same
        rw [sameRound] at found
        rw [sameTask round found] at tasked
        exact consistent.stage other round task found tasked
    apart := by
      rw [moves.formal]
      exact consistent.apart }

theorem Store.CreatesRound.signoffsConsistent {request : SearchRound} {task : Task}
    (created : s.CreatesRound s' request task) (consistent : s.SignoffsConsistent) :
    s'.SignoffsConsistent where
  owned := created.roundsOwned consistent.owned
  sealed := fun roundId context there => by
    rw [created.formal] at there
    obtain ⟨round, found, rest⟩ := consistent.sealed roundId context there
    refine ⟨round, ?_, rest⟩
    rw [created.rounds]
    exact Table.find?_insertIfAbsent_of_some found
  blank := fun roundId absent => by
    rw [created.formal]
    refine consistent.blank roundId ?_
    rw [Table.find?_eq_none_iff] at absent ⊢
    exact fun round present => absent round (created.round_cases.mpr (.inl present))
  stage := fun roundId round own found tasked => by
    rw [created.formal]
    rcases created.round_cases.mp (Table.mem_of_find? found) with old | rfl
    · have before : s.searchRounds.find? round.roundId = some round := Table.find?_of_mem old
      obtain ⟨task', there⟩ := consistent.owned.task before
      have after : s'.tasks.find? round.taskId = some task' := by
        rw [created.tasks]
        exact Table.find?_insertIfAbsent_of_some there
      cases tasked.symm.trans after
      exact consistent.stage _ round _ before there
    · obtain ⟨evidence, intent, outbox, signoff⟩ := consistent.blank _ created.newRound
      refine ⟨_, .unfinished ?_ ⟨evidence, intent, outbox, signoff⟩⟩
      simp only [FormalTables.picture]
      rw [created.unfrozen.1]
      rfl
  apart := by
    rw [created.formal]
    exact consistent.apart

theorem FormalUntouched.round {s s' : Store} (untouched : FormalUntouched s s') {roundId : Uuid}
    {round : SearchRound} (found : s.searchRounds.find? roundId = some round) :
    ∃ round', s'.searchRounds.find? roundId = some round' ∧
      round'.toRoundCreation = round.toRoundCreation ∧
      (round.state.isScripted = true → round'.state.isScripted = true) ∧
      (round.state.isScripted = false → round' = round) := by
  rcases untouched.rounds roundId with same |
    ⟨old, new, before, after, creation, _, _, running, moved⟩
  · exact ⟨round, same.trans found, rfl, id, fun _ => rfl⟩
  · cases before.symm.trans found
    refine ⟨new, after, creation, fun _ => moved, fun left => ?_⟩
    rw [running] at left
    cases left

/-- A round afterwards comes from a round before. -/
theorem FormalUntouched.round_back {s s' : Store} (untouched : FormalUntouched s s')
    {roundId : Uuid} {round' : SearchRound} (found : s'.searchRounds.find? roundId = some round') :
    ∃ round, s.searchRounds.find? roundId = some round ∧
      round'.toRoundCreation = round.toRoundCreation ∧
      (round.state.isScripted = true → round'.state.isScripted = true) ∧
      (round.state.isScripted = false → round' = round) := by
  cases before : s.searchRounds.find? roundId with
  | none =>
      rcases untouched.rounds roundId with same | ⟨old, _, there, _⟩
      · rw [same, before] at found
        cases found
      · cases before.symm.trans there
  | some round =>
      obtain ⟨other, there, rest⟩ := untouched.round before
      cases there.symm.trans found
      exact ⟨round, rfl, rest⟩

theorem FormalUntouched.roundsOwned {s s' : Store} (untouched : FormalUntouched s s')
    (owned : s.RoundsOwned) : s'.RoundsOwned where
  tasked := fun round' present => by
    obtain ⟨round, found, creation, _⟩ := untouched.round_back (Table.find?_of_mem present)
    obtain ⟨task, there, workflow, sameKey, release⟩ :=
      owned.tasked round (Table.mem_of_find? found)
    rw [congrArg RoundCreation.taskId creation, congrArg RoundCreation.idempotencyKey creation]
    exact ⟨task, (untouched.tasks _ _ workflow).mpr there, workflow, sameKey, release⟩
  owned := fun task present workflow => by
    have there := (untouched.tasks _ _ workflow).mp (Table.find?_of_mem present)
    obtain ⟨round, old, same⟩ := owned.owned task (Table.mem_of_find? there) workflow
    obtain ⟨round', found, creation, _⟩ := untouched.round (Table.find?_of_mem old)
    exact ⟨round', Table.mem_of_find? found, (congrArg RoundCreation.taskId creation).trans same⟩
  apart := fun one present other present' same => by
    obtain ⟨round, found, creation, _⟩ := untouched.round_back (Table.find?_of_mem present)
    obtain ⟨round', found', creation', _⟩ := untouched.round_back (Table.find?_of_mem present')
    rw [congrArg RoundCreation.taskId creation, congrArg RoundCreation.taskId creation'] at same
    have old := owned.apart round (Table.mem_of_find? found) round' (Table.mem_of_find? found') same
    refine Table.eq_of_key_eq (t := s'.searchRounds) present present' ?_
    rw [key_searchRound, key_searchRound, congrArg RoundCreation.roundId creation, old,
      congrArg RoundCreation.roundId creation']

theorem FormalUntouched.signoffsConsistent {s s' : Store} (untouched : FormalUntouched s s')
    (consistent : s.SignoffsConsistent) : s'.SignoffsConsistent := by
  obtain ⟨evidence, intents, outbox, signoffs⟩ := untouched.signoffs
  exact {
    owned := untouched.roundsOwned consistent.owned
    sealed := fun roundId context there => by
      have before : ∃ round, s.searchRounds.find? roundId = some round ∧
          context.taskId = round.taskId ∧ round.runMode = .formal := by
        rcases untouched.contexts roundId context there with old | new
        · exact consistent.sealed roundId context old
        · exact new
      obtain ⟨round, found, ownTask, mode⟩ := before
      obtain ⟨round', found', creation, _⟩ := untouched.round found
      exact ⟨round', found', ownTask.trans (congrArg RoundCreation.taskId creation).symm,
        (congrArg RoundCreation.runMode creation).trans mode⟩
    blank := fun roundId absent => by
      have before : s.searchRounds.find? roundId = none := by
        cases found : s.searchRounds.find? roundId with
        | none => rfl
        | some round =>
            obtain ⟨_, there, _⟩ := untouched.round found
            cases absent.symm.trans there
      obtain ⟨noEvidence, noIntent, noEvent, noSignoff⟩ := consistent.blank roundId before
      rw [← evidence] at noEvidence
      rw [← intents] at noIntent
      rw [← outbox] at noEvent
      rw [← signoffs] at noSignoff
      exact ⟨noEvidence, noIntent, noEvent, noSignoff⟩
    stage := fun roundId round' task' found' tasked' => by
      obtain ⟨round, found, creation, running, still⟩ := untouched.round_back found'
      obtain ⟨task, there, workflow, _⟩ := consistent.owned.tasked round (Table.mem_of_find? found)
      have after := (untouched.tasks _ _ workflow).mpr there
      rw [congrArg RoundCreation.taskId creation, after] at tasked'
      cases tasked'
      obtain ⟨action, stage⟩ := consistent.stage _ round _ found there
      refine ⟨action, stage.survives ⟨by rw [evidence], by rw [intents], by rw [outbox],
        by rw [signoffs]⟩ (fun context => untouched.sealed _ context)
        (congrArg RoundCreation.roundId creation) running fun left _ => ⟨still left, rfl⟩⟩
    apart := by
      rw [intents]
      exact consistent.apart }

end Preservation

/-! ## Steps and runs -/

/-- **A step keeps the invariant of the signoffs.** -/
theorem FormalStep.signoffsConsistent {env : FormalEnv} {s s' : Store}
    {label : Option AnyRoundCall} (step : FormalStep env s label s')
    (consistent : s.SignoffsConsistent) : s'.SignoffsConsistent := by
  cases step with
  | elsewhere untouched => exact untouched.signoffsConsistent consistent
  | formal call =>
      rcases commit_cases (call.run env) s with ⟨e, _, committed⟩ | ⟨t, reply, ok, committed⟩
      · rw [committed]
        exact consistent
      · rw [committed]
        rcases call.effect consistent ok with same | ⟨_, _, _, _, _, moves⟩
        · rw [same]
          exact consistent
        · exact moves.signoffsConsistent consistent
  | scripted call =>
      rcases commit_cases (call.run env.toRoundEnv) s with
        ⟨e, _, committed⟩ | ⟨t, reply, ok, committed⟩
      · rw [committed]
        exact consistent
      · rw [committed]
        rcases call.effect consistent.owned ok with same | ⟨p, p', moves⟩ |
          ⟨request, task, valid, created⟩
        · rw [same]
          exact consistent
        · exact moves.signoffsConsistent consistent
        · exact created.signoffsConsistent consistent

theorem signoffsConsistent_of_steps {env : FormalEnv} {s s' : Store}
    {trace : List (Option AnyRoundCall)} (steps : Steps (FormalStep env) s trace s')
    (consistent : s.SignoffsConsistent) : s'.SignoffsConsistent :=
  steps.invariant (fun _ _ _ here step => step.signoffsConsistent here) consistent

/-- What is written about a signoff stays: the evidence, the intent but for its state, a
published artifact, the decision. -/
structure FormalTables.Later (formal formal' : FormalTables) (roundId : Uuid) : Prop where
  evidence : ∀ evidence, formal.evidence.find? roundId = some evidence →
    formal'.evidence.find? roundId = some evidence
  intent : ∀ intent, formal.intents.find? roundId = some intent →
    ∃ state, formal'.intents.find? roundId = some (intent.moveTo state)
  event : ∀ event, formal.outbox.find? roundId = some event → event.state ≠ .pending →
    ∃ event', formal'.outbox.find? roundId = some event' ∧ event'.state ≠ .pending ∧
      event'.signoffIntentId = event.signoffIntentId ∧ event'.artifact = event.artifact
  signoff : ∀ signoff, formal.signoffs.find? roundId = some signoff →
    formal'.signoffs.find? roundId = some signoff

namespace FormalTables

theorem SameAt.later {formal formal' : FormalTables} {roundId : Uuid}
    (same : formal.SameAt formal' roundId) : formal.Later formal' roundId where
  evidence := fun _ there => same.evidence.trans there
  intent := fun intent there => ⟨intent.state, same.intents.trans there⟩
  event := fun event there left => ⟨event, same.outbox.trans there, left, rfl, rfl⟩
  signoff := fun _ there => same.signoffs.trans there

theorem Later.refl (formal : FormalTables) (roundId : Uuid) : formal.Later formal roundId :=
  SameAt.later ⟨rfl, rfl, rfl, rfl⟩

theorem Later.trans {formal formal' formal'' : FormalTables} {roundId : Uuid}
    (first : formal.Later formal' roundId) (second : formal'.Later formal'' roundId) :
    formal.Later formal'' roundId where
  evidence := fun _ there => second.evidence _ (first.evidence _ there)
  intent := fun intent there => by
    obtain ⟨state, next⟩ := first.intent intent there
    obtain ⟨state', last⟩ := second.intent _ next
    exact ⟨state', last⟩
  event := fun event there left => by
    obtain ⟨event', next, left', same, artifact⟩ := first.event event there left
    obtain ⟨event'', last, left'', same', artifact'⟩ := second.event event' next left'
    exact ⟨event'', last, left'', same'.trans same, artifact'.trans artifact⟩
  signoff := fun _ there => second.signoff _ (first.signoff _ there)

end FormalTables

theorem Store.MovesSignoff.later {env : FormalEnv} {s s' : Store} {roundId : Uuid}
    {action : SignoffAction} {p p' : SignoffPicture}
    (moves : s.MovesSignoff env s' roundId action p p') (other : Uuid) :
    s.formal.Later s'.formal other := by
  by_cases same : other = roundId
  · subst same
    have key : p.round.roundId = other := Table.key_of_find? moves.rewrites.found
    have key' : p'.round.roundId = other := Table.key_of_find? moves.rewrites.found'
    have before := moves.before
    have after := moves.after
    unfold FormalTables.picture at before after
    rw [key] at before
    rw [key'] at after
    have evidence := congrArg SignoffPicture.evidence before
    have intent := congrArg SignoffPicture.intent before
    have event := congrArg SignoffPicture.outbox before
    have signoff := congrArg SignoffPicture.signoff before
    have evidence' := congrArg SignoffPicture.evidence after
    have intent' := congrArg SignoffPicture.intent after
    have event' := congrArg SignoffPicture.outbox after
    have signoff' := congrArg SignoffPicture.signoff after
    simp only at evidence intent event signoff evidence' intent' event' signoff'
    refine ⟨?_, ?_, ?_, ?_⟩
    · intro row there
      rw [evidence] at there
      rw [evidence']
      cases moves.move with
      | finalize _ _ _ _ _ _ _ _ first => cases first.symm.trans there
      | createIntent | publish | decide => exact there
    · intro row there
      rw [intent] at there
      rw [intent']
      exact moves.move.sameIntent there
    · intro row there left
      rw [event] at there
      rw [event']
      cases moves.move with
      | finalize => exact ⟨row, there, left, rfl, rfl⟩
      | createIntent _ _ _ _ _ _ _ _ unsent => cases unsent.symm.trans there
      | publish _ linked _ pending =>
          cases linked.hasEvent.symm.trans there
          exact absurd pending left
      | decide linked =>
          cases linked.hasEvent.symm.trans there
          exact ⟨_, rfl, (by rintro ⟨⟩), rfl, rfl⟩
    · intro row there
      rw [signoff] at there
      rw [signoff']
      cases moves.move with
      | finalize | createIntent | publish => exact there
      | decide _ _ _ _ _ _ first => cases first.symm.trans there
  · exact (moves.others other same).later

/-- What is written about the signoffs stays in every later store. -/
theorem FormalStep.later {env : FormalEnv} {s s' : Store} {label : Option AnyRoundCall}
    (step : FormalStep env s label s') (consistent : s.SignoffsConsistent) (roundId : Uuid) :
    s.formal.Later s'.formal roundId := by
  cases step with
  | elsewhere untouched =>
      obtain ⟨evidence, intents, outbox, signoffs⟩ := untouched.signoffs
      exact FormalTables.SameAt.later
        ⟨by rw [evidence], by rw [intents], by rw [outbox], by rw [signoffs]⟩
  | formal call =>
      rcases commit_cases (call.run env) s with ⟨e, _, committed⟩ | ⟨t, reply, ok, committed⟩
      · rw [committed]
        exact .refl _ _
      · rw [committed]
        rcases call.effect consistent ok with same | ⟨_, _, _, _, _, moves⟩
        · rw [same]
          exact .refl _ _
        · exact moves.later roundId
  | scripted call =>
      rcases commit_cases (call.run env.toRoundEnv) s with
        ⟨e, _, committed⟩ | ⟨t, reply, ok, committed⟩
      · rw [committed]
        exact .refl _ _
      · rw [committed]
        rcases call.effect consistent.owned ok with same | ⟨p, p', moves⟩ |
          ⟨request, task, valid, created⟩
        · rw [same]
          exact .refl _ _
        · rw [moves.formal]
          exact .refl _ _
        · rw [created.formal]
          exact .refl _ _

theorem signoffsLater_of_steps {env : FormalEnv} {s s' : Store}
    {trace : List (Option AnyRoundCall)} (steps : Steps (FormalStep env) s trace s')
    (consistent : s.SignoffsConsistent) (roundId : Uuid) : s.formal.Later s'.formal roundId :=
  steps.relate (R := fun s s' => s.formal.Later s'.formal roundId)
    (fun _ _ _ here step => step.signoffsConsistent here) (fun _ => .refl _ _)
    (fun _ _ _ => .trans) (fun _ _ _ here step => step.later here roundId) consistent

end HcuAutoOpt
