import HcuAutoOpt.Rounds.Signoffs

/-!
# Decision and recovery of a signoff

What holds of the signoff of a formal round in every run: a round leaves its wait only by
the finalization of its one intent under the recorded artifact, its state and that of its
task are those of the one decision, a repeated call changes nothing, and recovery names the
step that comes next. The main result is `formal_round_signoff`.
-/

set_option autoImplicit false

namespace HcuAutoOpt

open Foundation

/-! ## Repetitions -/

/-- What an accepted call leaves behind for its repetitions. -/
def FormalCall.Recorded (formal : FormalTables) : FormalCall → Prop
  | .finalizeFormalSearchRound record =>
      ∃ row, formal.evidence.find? record.bundle.roundId = some row
  | .createFormalRoundSignoffIntent _ request =>
      ∃ row, formal.intents.find? request.roundId = some row
  | .recordFormalRoundSignoffArtifact publication =>
      ∃ roundId event, formal.outbox.find? roundId = some event ∧ event.state ≠ .pending ∧
        event.signoffIntentId = publication.signoffIntentId
  | .finalizeFormalRoundSignoff publication =>
      ∃ roundId intent signoff, formal.intents.find? roundId = some intent ∧
        intent.signoffIntentId = publication.signoffIntentId ∧
        formal.signoffs.find? roundId = some signoff
  | .reconcileFormalRoundSignoff _ => True

theorem FormalCall.Recorded.later {formal formal' : FormalTables} {call : FormalCall}
    (recorded : call.Recorded formal) (later : ∀ roundId, formal.Later formal' roundId) :
    call.Recorded formal' := by
  cases call with
  | finalizeFormalSearchRound record =>
      obtain ⟨row, there⟩ := recorded
      exact ⟨row, (later _).evidence row there⟩
  | createFormalRoundSignoffIntent now request =>
      obtain ⟨row, there⟩ := recorded
      obtain ⟨state, there'⟩ := (later _).intent row there
      exact ⟨_, there'⟩
  | recordFormalRoundSignoffArtifact publication =>
      obtain ⟨roundId, event, there, left, same⟩ := recorded
      obtain ⟨event', there', left', same', _⟩ := (later _).event event there left
      exact ⟨roundId, event', there', left', same'.trans same⟩
  | finalizeFormalRoundSignoff publication =>
      obtain ⟨roundId, intent, signoff, there, same, decided⟩ := recorded
      obtain ⟨state, there'⟩ := (later _).intent intent there
      exact ⟨roundId, _, signoff, there', same, (later _).signoff signoff decided⟩
  | reconcileFormalRoundSignoff roundId => trivial

section Repetitions

variable {env : FormalEnv} {s s' : Store}

/-- An accepted call is recorded. -/
theorem FormalCall.recorded {call : FormalCall} {u : Unit}
    (ok : call.run env s = .ok (s', u)) : call.Recorded s'.formal := by
  cases call with
  | finalizeFormalSearchRound record =>
      obtain ⟨reply, ok⟩ := Transaction.silent_eq_ok.mp ok
      simp only [HcuAutoOpt.finalizeFormalSearchRound, Except.bind_eq_ok] at ok
      obtain ⟨_, _, _, _, _, _, ok⟩ := ok
      split at ok
      · rename_i row there
        simp only [Except.bind_eq_ok] at ok
        obtain ⟨_, _, _, _, _, _, ok⟩ := ok
        cases ok
        exact ⟨row, there⟩
      · simp only [Except.bind_eq_ok] at ok
        obtain ⟨_, _, _, _, ok⟩ := ok
        cases ok
        exact Table.find?_insertIfAbsent_self s.formal.evidence record.row
  | createFormalRoundSignoffIntent now request =>
      obtain ⟨reply, ok⟩ := Transaction.silent_eq_ok.mp ok
      simp only [HcuAutoOpt.createFormalRoundSignoffIntent, Except.bind_eq_ok] at ok
      obtain ⟨_, _, ok⟩ := ok
      split at ok
      · rename_i row there
        simp only [Except.bind_eq_ok, require_eq_ok] at ok
        obtain ⟨_, _, _, same, _, _, ok⟩ := ok
        cases ok
        refine ⟨row, ?_⟩
        rw [← same]
        exact Table.find?_of_mem (t := s.formal.intents) (List.mem_of_find?_eq_some there)
      · simp only [persistSignoffIntent, Except.bind_eq_ok] at ok
        obtain ⟨_, _, _, _, _, _, _, _, _, _, _, _, _, _, _, _, _, _, ok⟩ := ok
        cases ok
        exact Table.find?_insertIfAbsent_self s.formal.intents _
  | recordFormalRoundSignoffArtifact publication =>
      obtain ⟨reply, ok⟩ := Transaction.silent_eq_ok.mp ok
      simp only [HcuAutoOpt.recordFormalRoundSignoffArtifact, Except.bind_eq_ok,
        requireSome_eq_ok] at ok
      obtain ⟨_, _, event, found, _, _, ok⟩ := ok
      obtain ⟨present, same⟩ := FormalTables.of_outbox? found
      have there : s.formal.outbox.find? event.roundId = some event := Table.find?_of_mem present
      split at ok
      · rename_i left
        simp only [Except.bind_eq_ok] at ok
        obtain ⟨_, _, ok⟩ := ok
        cases ok
        refine ⟨_, _, there, fun pending => ?_, same⟩
        rw [pending] at left
        revert left
        decide
      · simp only [Except.bind_eq_ok] at ok
        obtain ⟨_, _, ok⟩ := ok
        cases ok
        exact ⟨_, _, (Table.find?_update_known there _).trans (if_pos rfl), (by rintro ⟨⟩),
          same⟩
  | finalizeFormalRoundSignoff publication =>
      obtain ⟨reply, ok⟩ := Transaction.silent_eq_ok.mp ok
      simp only [HcuAutoOpt.finalizeFormalRoundSignoff, Except.bind_eq_ok, requireRow_eq_ok] at ok
      obtain ⟨intent, found, _, _, _, _, _, _, _, _, _, _, _, _, _, _, _, _, _, _, ok⟩ := ok
      obtain ⟨present, same⟩ := FormalTables.of_intent? found
      have there : s.formal.intents.find? intent.roundId = some intent := Table.find?_of_mem present
      split at ok
      · rename_i row decided
        simp only [Except.bind_eq_ok] at ok
        obtain ⟨_, _, ok⟩ := ok
        cases ok
        exact ⟨_, intent, _, there, same, decided⟩
      · simp only [persistSignoff, Except.bind_eq_ok] at ok
        obtain ⟨_, _, _, _, _, _, ok⟩ := ok
        cases ok
        obtain ⟨row, decided⟩ := Table.find?_insertIfAbsent_self s.formal.signoffs _
        exact ⟨_, _, row, (Table.find?_update_known there _).trans (if_pos rfl), same, decided⟩
  | reconcileFormalRoundSignoff roundId => trivial

/-- **A recorded call, made again, changes nothing.** -/
theorem FormalCall.Recorded.again (consistent : s.SignoffsConsistent) {call : FormalCall}
    (recorded : call.Recorded s.formal) (now : Timestamp) :
    (commit ((call.again now).run env) s).1 = s := by
  rcases commit_cases ((call.again now).run env) s with
    ⟨e, _, committed⟩ | ⟨t, reply, ok, committed⟩
  · rw [committed]
  rw [committed]
  cases call with
  | finalizeFormalSearchRound record =>
      obtain ⟨row, there⟩ := recorded
      obtain ⟨reply, ok⟩ := Transaction.silent_eq_ok.mp ok
      simp only [HcuAutoOpt.finalizeFormalSearchRound, Except.bind_eq_ok, there] at ok
      obtain ⟨_, _, _, _, _, _, _, _, _, _, _, _, ok⟩ := ok
      cases ok
      rfl
  | createFormalRoundSignoffIntent _ request =>
      obtain ⟨row, there⟩ := recorded
      obtain ⟨reply, ok⟩ := Transaction.silent_eq_ok.mp ok
      simp only [HcuAutoOpt.createFormalRoundSignoffIntent, Except.bind_eq_ok] at ok
      obtain ⟨_, _, ok⟩ := ok
      split at ok
      · simp only [Except.bind_eq_ok] at ok
        obtain ⟨_, _, _, _, _, _, ok⟩ := ok
        cases ok
        rfl
      · rename_i unselected
        have passed := List.find?_eq_none.mp unselected row (Table.mem_of_find? there)
        have own : row.roundId = request.roundId := Table.key_of_find? there
        simp [FormalRoundSignoffRequest.selects, own] at passed
  | recordFormalRoundSignoffArtifact publication =>
      obtain ⟨roundId, event, there, left, same⟩ := recorded
      obtain ⟨reply, ok⟩ := Transaction.silent_eq_ok.mp ok
      simp only [HcuAutoOpt.recordFormalRoundSignoffArtifact, Except.bind_eq_ok,
        requireSome_eq_ok] at ok
      obtain ⟨_, _, other, found, _, _, ok⟩ := ok
      obtain ⟨present, same'⟩ := FormalTables.of_outbox? found
      have one := consistent.event_eq present (Table.mem_of_find? there) (same'.trans same.symm)
      subst one
      split at ok
      · simp only [Except.bind_eq_ok] at ok
        obtain ⟨_, _, ok⟩ := ok
        cases ok
        rfl
      · rename_i unpublished
        have published : other.state ∈ [SignoffOutboxState.artifactPublished, .finalized] := by
          revert left
          cases other.state <;> decide
        exact absurd published unpublished
  | finalizeFormalRoundSignoff publication =>
      obtain ⟨roundId, intent, signoff, there, same, decided⟩ := recorded
      obtain ⟨reply, ok⟩ := Transaction.silent_eq_ok.mp ok
      simp only [HcuAutoOpt.finalizeFormalRoundSignoff, Except.bind_eq_ok, requireRow_eq_ok] at ok
      obtain ⟨other, found, _, _, _, _, _, _, _, _, _, _, _, _, _, _, _, _, _, _, ok⟩ := ok
      obtain ⟨present, same'⟩ := FormalTables.of_intent? found
      have one := consistent.apart other present intent (Table.mem_of_find? there)
        (same'.trans same.symm)
      subst one
      have own : other.roundId = roundId := Table.key_of_find? there
      rw [own, decided] at ok
      simp only [Except.bind_eq_ok] at ok
      obtain ⟨_, _, ok⟩ := ok
      cases ok
      rfl
  | reconcileFormalRoundSignoff roundId =>
      obtain ⟨reply, ok⟩ := Transaction.silent_eq_ok.mp ok
      simp only [HcuAutoOpt.reconcileFormalRoundSignoff, Except.bind_eq_ok] at ok
      obtain ⟨_, _, ok⟩ := ok
      cases ok
      rfl

end Repetitions

/-! ## The next step -/

/-- What the action that recovery names says about a round: whom it lets go on. -/
def Store.NextStep (env : FormalEnv) (s : Store) (round : SearchRound) : SignoffAction → Prop
  | .notSignable => round.state.isScripted = true ∧ s.formal.Blank round.roundId
  | .createIntent => ∃ context evidence,
      s.formal.contexts.find? round.roundId = some context ∧
      s.formal.evidence.find? round.roundId = some evidence ∧
      ∀ now request, request.roundId = round.roundId →
        s.formal.evidence? request.roundEvidenceBundleId = some evidence →
        (∀ row ∈ s.formal.intents, row.idempotencyKey ≠ request.idempotencyKey) →
        s.formal.IntentFresh ((request.inputs now round context evidence).intent env)
          (((request.inputs now round context evidence).intent env).event env) →
        ∃ s' reply, createFormalRoundSignoffIntent env now request s = .ok (s', reply)
  | .publishArtifact => ∃ intent, s.formal.intents.find? round.roundId = some intent ∧
      ∀ artifact, ∃ s' reply, recordFormalRoundSignoffArtifact
        ⟨artifact, intent.signoffIntentId, intent.roundSignoffId⟩ s = .ok (s', reply)
  | .finalizeSignoff => ∃ intent event artifact,
      s.formal.intents.find? round.roundId = some intent ∧
      s.formal.outbox.find? round.roundId = some event ∧ event.artifact = some artifact ∧
      ((∃ s' reply, finalizeFormalRoundSignoff env
          ⟨artifact, intent.signoffIntentId, intent.roundSignoffId⟩ s = .ok (s', reply)) ↔
        (∃ verify, env.signoffFinalizer = some verify ∧
          verify intent ⟨artifact, intent.signoffIntentId, intent.roundSignoffId⟩ = .ok ()) ∧
        s.formal.SignoffFresh (intent.signoff artifact))
  | .complete => ∃ signoff, s.formal.signoffs.find? round.roundId = some signoff
  | .repairOutbox | .manualReview => False

section NextStep

variable {env : FormalEnv} {s : Store} {roundId : Uuid} {round : SearchRound} {task : Task}
  (consistent : s.SignoffsConsistent) (found : s.searchRounds.find? roundId = some round)
  (tasked : s.tasks.find? round.taskId = some task)
include consistent found tasked

theorem createIntent_accepted {context : FormalAuthorityContext} {evidence : FormalEvidence}
    (awaits : (s.formal.picture round task).Awaits)
    (evident : (s.formal.picture round task).Evident context evidence)
    (first : (s.formal.picture round task).intent = none) {now : Timestamp}
    {request : FormalRoundSignoffRequest} (own : request.roundId = round.roundId)
    (named : s.formal.evidence? request.roundEvidenceBundleId = some evidence)
    (newKey : ∀ row ∈ s.formal.intents, row.idempotencyKey ≠ request.idempotencyKey)
    (fresh : s.formal.IntentFresh ((request.inputs now round context evidence).intent env)
      (((request.inputs now round context evidence).intent env).event env)) :
    ∃ s' reply, createFormalRoundSignoffIntent env now request s = .ok (s', reply) := by
  have key : round.roundId = roundId := Table.key_of_find? found
  have here : s.searchRounds.find? request.roundId = some round := by rw [own, key, found]
  have unselected : s.formal.intents.rows.find? request.selects = none := by
    rw [List.find?_eq_none]
    intro row present
    have elsewhere : row.roundId ≠ request.roundId := fun same =>
      Table.find?_eq_none_iff.mp first row present (same.trans own)
    simp [FormalRoundSignoffRequest.selects, newKey row present, elsewhere]
  obtain ⟨task', tasked', workflow, _, release⟩ :=
    consistent.owned.tasked round (Table.mem_of_find? found)
  cases tasked'.symm.trans tasked
  have sealed := evident.hasContext
  simp only [FormalTables.picture] at sealed
  rw [← own] at sealed
  simp only [createFormalRoundSignoffIntent, Except.bind_eq_ok, Store.requireRound_eq_ok,
    unselected, persistSignoffIntent, require_eq_ok, requireSome_eq_ok, verifierVerdict_eq_ok,
    requireFormalRoundSignoff, SearchRound.authority]
  exact ⟨_, _, round, here, (), ⟨evident.mode, awaits.1, evident.valid.noRelease⟩, task, tasked,
    (), ⟨awaits.2, workflow, release⟩, evidence, named, context, sealed, round,
    ⟨(), evident.valid, rfl⟩, (), ⟨(), ⟨evident.mode, evident.formal.1, evident.formal.2.1⟩,
      awaits.1, evident.roundId.symm, evident.taskId.symm⟩, (),
    ⟨(FormalTables.of_evidence? named).2, evident.roundId.trans own.symm, evident.authority.1,
      evident.authority.2, evident.families.1, evident.families.2, evident.formal.2⟩, (), fresh, rfl⟩

omit found tasked in
theorem publishArtifact_accepted {intent : FormalRoundSignoffIntent}
    {event : FormalRoundSignoffOutbox} (linked : (s.formal.picture round task).Linked intent event)
    (preparing : intent.state = .preparing) (pending : event.state = .pending)
    (artifact : DecisionArtifact) :
    ∃ s' reply, recordFormalRoundSignoffArtifact
      ⟨artifact, intent.signoffIntentId, intent.roundSignoffId⟩ s = .ok (s', reply) := by
  have known := consistent.intent?_eq (Table.mem_of_find? linked.hasIntent)
  have recorded := consistent.outbox?_eq (Table.mem_of_find? linked.hasEvent)
  rw [linked.identifier] at recorded
  have unpublished : event.state ∉ [SignoffOutboxState.artifactPublished, .finalized] := by
    rw [pending]
    decide
  simp only [recordFormalRoundSignoffArtifact, Except.bind_eq_ok, requireRow_eq_ok,
    requireSome_eq_ok, require_eq_ok]
  exact ⟨_, _, intent, known, event, recorded, (), ⟨rfl, linked.aggregate⟩,
    (if_neg unpublished).trans
      (Except.bind_eq_ok.mpr ⟨(), require_eq_ok.mpr ⟨preparing, pending⟩, rfl⟩)⟩

theorem finalizeSignoff_accepted_iff {intent : FormalRoundSignoffIntent}
    {event : FormalRoundSignoffOutbox} {artifact : DecisionArtifact}
    (awaits : (s.formal.picture round task).Awaits) (mode : round.runMode = .formal)
    (valid : round.Valid)
    (linked : (s.formal.picture round task).Linked intent event)
    (published : intent.state = .artifactPublished) (state : event.state = .artifactPublished)
    (recorded : event.artifact = some artifact)
    (undecided : (s.formal.picture round task).signoff = none) :
    (∃ s' reply, finalizeFormalRoundSignoff env
        ⟨artifact, intent.signoffIntentId, intent.roundSignoffId⟩ s = .ok (s', reply)) ↔
      (∃ verify, env.signoffFinalizer = some verify ∧
        verify intent ⟨artifact, intent.signoffIntentId, intent.roundSignoffId⟩ = .ok ()) ∧
      s.formal.SignoffFresh (intent.signoff artifact) := by
  have known := consistent.intent?_eq (Table.mem_of_find? linked.hasIntent)
  have there := consistent.outbox?_eq (Table.mem_of_find? linked.hasEvent)
  rw [linked.identifier] at there
  have key : round.roundId = roundId := Table.key_of_find? found
  have own : intent.roundId = round.roundId := linked.round
  have here : s.searchRounds.find? intent.roundId = some round := by rw [own, key, found]
  have ownTask : s.tasks.find? intent.taskId = some task := by
    rw [show intent.taskId = round.taskId from linked.task, tasked]
  have undecided' : s.formal.signoffs.find? intent.roundId = none := by
    rw [own]
    exact undecided
  obtain ⟨task', tasked', _, _, release⟩ := consistent.owned.tasked round (Table.mem_of_find? found)
  cases tasked'.symm.trans tasked
  simp only [finalizeFormalRoundSignoff, Except.bind_eq_ok, requireRow_eq_ok, requireSome_eq_ok,
    require_eq_ok, verifierVerdict_eq_ok]
  constructor
  · rintro ⟨_, _, intent', known', _, _, _, _, _, _, event', there', _, _, artifact', recorded', _, _,
      verify, configured, _, verified, committed⟩
    cases known.symm.trans known'
    cases there.symm.trans there'
    cases recorded.symm.trans recorded'
    rw [undecided'] at committed
    simp only [persistSignoff, Except.bind_eq_ok, require_eq_ok] at committed
    obtain ⟨_, _, _, ⟨_, fresh⟩, _⟩ := committed
    exact ⟨⟨verify, configured, verified⟩, fresh⟩
  · rintro ⟨⟨verify, configured, verified⟩, fresh⟩
    obtain ⟨context, sealed, sameContext⟩ := linked.context
    have sealedRow : context ∈ s.formal.contexts := Table.mem_of_find? sealed
    obtain ⟨context', named⟩ : ∃ context', s.formal.context?
        intent.authorityContext.authorityContextId = some context' := by
      refine Option.isSome_iff_exists.mp (List.find?_isSome.mpr ⟨context, sealedRow, ?_⟩)
      simp [sameContext]
    have allowed : intent.decision.taskState ∈ taskTransitions task.state := by
      rw [show task.state = .awaitingSignoff from awaits.2]
      cases intent.decision <;> decide
    obtain ⟨t, signoff, committed⟩ : ∃ t signoff,
        persistSignoff ⟨round, task, intent, event⟩ artifact s = .ok (t, signoff) := by
      simp only [persistSignoff, Except.bind_eq_ok, require_eq_ok, transitionTask_eq_ok]
      exact ⟨_, _, (), ⟨published, state, awaits.1, awaits.2, valid.noRelease, release⟩, (),
        ⟨mode, fresh⟩, _, ⟨allowed, rfl⟩, rfl⟩
    refine ⟨t, signoff, intent, known, round, here, task, ownTask, context', named, event, there, (),
      ⟨by rw [published]; decide, by rw [state]; decide⟩, artifact, recorded, (), ⟨rfl, rfl⟩, verify,
      configured, (), verified, ?_⟩
    rw [undecided']
    exact committed

theorem Store.SignoffsConsistent.nextStep {action : SignoffAction}
    (stage : SignoffStage (s.formal.picture round task) action) : s.NextStep env round action := by
  cases stage with
  | unfinished running rows =>
      obtain ⟨evidence, intent, outbox, signoff⟩ := rows
      exact ⟨running, evidence, intent, outbox, signoff⟩
  | awaiting awaits evident rows =>
      exact ⟨_, _, evident.hasContext, evident.hasEvidence, fun now request own named newKey fresh =>
        createIntent_accepted consistent found tasked awaits evident rows.1 own named newKey fresh⟩
  | prepared _ _ linked preparing pending =>
      exact ⟨_, linked.hasIntent, fun artifact =>
        publishArtifact_accepted consistent linked preparing pending artifact⟩
  | published awaits evident linked intentState eventState recorded undecided =>
      exact ⟨_, _, _, linked.hasIntent, linked.hasEvent, recorded,
        finalizeSignoff_accepted_iff consistent found tasked awaits evident.mode evident.valid linked
          intentState eventState recorded undecided⟩
  | signed _ _ _ _ _ _ signoff => exact ⟨_, signoff⟩

end NextStep

/-! ## What a run keeps -/

/-- What is about the signoff of a round is the same in two stores. -/
structure Store.SameSignoff (s t : Store) (roundId : Uuid) : Prop where
  round : t.searchRounds.find? roundId = s.searchRounds.find? roundId
  task : ∀ round, s.searchRounds.find? roundId = some round →
    t.tasks.find? round.taskId = s.tasks.find? round.taskId
  rows : s.formal.SameAt t.formal roundId

theorem Store.SameSignoff.refl (s : Store) (roundId : Uuid) : s.SameSignoff s roundId :=
  ⟨rfl, fun _ _ => rfl, rfl, rfl, rfl, rfl⟩

/-- The decision of a round is that of its intent, under the artifact recorded for it, and
the round and its task are in the state of the decision. -/
structure Store.SignoffSound (s : Store) (round : SearchRound) (task : Task) : Prop where
  decision : ∀ signoff, s.formal.signoffs.find? round.roundId = some signoff →
    ∃ intent event artifact, s.formal.intents.find? round.roundId = some intent ∧
      s.formal.outbox.find? round.roundId = some event ∧ event.artifact = some artifact ∧
      signoff = intent.signoff artifact ∧ round.state = signoff.decision.roundState ∧
      task.state = signoff.decision.taskState
  decided : round.state ∈ [SearchRoundState.completed, .rejected] →
    ∃ signoff, s.formal.signoffs.find? round.roundId = some signoff
  waiting : round.state = .awaitingSignoff → task.state = .awaitingSignoff

theorem SignoffStage.sound {s : Store} {round : SearchRound} {task : Task} {action : SignoffAction}
    (stage : SignoffStage (s.formal.picture round task) action) : s.SignoffSound round task := by
  -- Before the decision there is none, and the round is in none of the decided states.
  have before : s.formal.signoffs.find? round.roundId = none →
      round.state ∉ [SearchRoundState.completed, .rejected] →
      (round.state = .awaitingSignoff → task.state = .awaitingSignoff) →
      s.SignoffSound round task := by
    intro undecided elsewhere waiting
    refine ⟨fun signoff there => ?_, fun here => absurd here elsewhere, waiting⟩
    rw [undecided] at there
    cases there
  cases stage with
  | unfinished running rows =>
      have state := of_decide_eq_true running
      simp only [FormalTables.picture, List.mem_cons, List.not_mem_nil, or_false, not_or] at state
      exact before rows.2.2.2 (by simp [state]) fun here => absurd here state.1
  | awaiting awaits _ rows =>
      have state : round.state = .awaitingSignoff := awaits.1
      exact before rows.2.2 (by rw [state]; decide) fun _ => awaits.2
  | prepared awaits _ _ _ _ undecided | published awaits _ _ _ _ _ undecided =>
      have state : round.state = .awaitingSignoff := awaits.1
      exact before undecided (by rw [state]; decide) fun _ => awaits.2
  | @signed _ _ intent event artifact _ linked decided _ _ recorded signoff =>
      refine ⟨fun other there => ?_, fun _ => ⟨_, signoff⟩, fun waits => ?_⟩
      · cases signoff.symm.trans there
        exact ⟨intent, event, artifact, linked.hasIntent, linked.hasEvent, recorded, rfl, decided⟩
      · have state : round.state = intent.decision.roundState := decided.1
        rw [waits] at state
        revert state
        cases intent.decision <;> simp [SignoffDecision.roundState]

/-- The round waits for its signoff before a step and does not after it. -/
def LeavesSignoff (s t : Store) (roundId : Uuid) : Prop :=
  ∃ round round', s.searchRounds.find? roundId = some round ∧ round.state = .awaitingSignoff ∧
    t.searchRounds.find? roundId = some round' ∧ round'.state ≠ .awaitingSignoff

/-- The step commits the decision of the one intent, under the artifact recorded for it. -/
def SignsOff (s : Store) (label : Option AnyRoundCall) (t : Store) (roundId : Uuid) : Prop :=
  ∃ publication intent event,
    label = some (.formal (.finalizeFormalRoundSignoff publication)) ∧
    s.formal.intents.find? roundId = some intent ∧
    publication.signoffIntentId = intent.signoffIntentId ∧
    s.formal.outbox.find? roundId = some event ∧ event.state = .artifactPublished ∧
    event.artifact = some publication.toDecisionArtifact ∧
    t.formal.signoffs.find? roundId = some (intent.signoff publication.toDecisionArtifact)

section Leaving

variable {env : FormalEnv} {s s' : Store} {roundId : Uuid}

/-- Only a decision moves a waiting round. -/
theorem SignoffMove.leaves {p p' : SignoffPicture} {action : SignoffAction}
    (move : SignoffMove env p action p') (waits : p.round.state = .awaitingSignoff) :
    p'.round.state = .awaitingSignoff ∨ action = .finalizeSignoff ∧
      ∃ intent event artifact, p.intent = some intent ∧ p.outbox = some event ∧
        event.state = .artifactPublished ∧ event.artifact = some artifact ∧
        p'.signoff = some (intent.signoff artifact) := by
  cases move with
  | finalize => exact .inl rfl
  | createIntent | publish => exact .inl waits
  | decide linked _ recorded =>
      exact .inr ⟨rfl, _, _, _, linked.hasIntent, linked.hasEvent, recorded.1, recorded.2, rfl⟩

/-- **A round leaves its wait only by the decision of its intent.** -/
theorem FormalStep.leaves {label : Option AnyRoundCall} (step : FormalStep env s label s')
    (consistent : s.SignoffsConsistent) (leaves : LeavesSignoff s s' roundId) :
    SignsOff s label s' roundId := by
  obtain ⟨round, round', found, waits, found', left⟩ := leaves
  have still : s'.searchRounds.find? roundId = some round → SignsOff s label s' roundId := by
    intro same
    cases same.symm.trans found'
    exact absurd waits left
  have unscripted : round.state.isScripted = false := by
    rw [waits]
    rfl
  obtain ⟨task, tasked⟩ := consistent.owned.task found
  obtain ⟨_, stage⟩ := consistent.stage _ _ _ found tasked
  obtain ⟨_, _, evident⟩ := stage.evident_of_signoff unscripted
  cases step with
  | elsewhere untouched =>
      obtain ⟨_, after, _, _, same⟩ := untouched.round found
      rw [same unscripted] at after
      exact still after
  | scripted call =>
      rcases commit_cases (call.run env.toRoundEnv) s with
        ⟨e, _, committed⟩ | ⟨t, reply, ok, committed⟩
      · exact still (by rw [committed, found])
      rcases call.effect consistent.owned ok with same | ⟨p, p', moves⟩ |
        ⟨request, task, valid, created⟩
      · exact still (by rw [committed, same, found])
      · rw [committed] at still
        by_cases own : roundId = call.roundId
        · subst own
          cases found.symm.trans moves.rewrites.found
          refine absurd waits ?_
          have kept := (moves.move.signoff.2 unscripted evident.mode).1
          rw [committed] at found'
          cases found'.symm.trans moves.rewrites.found'
          rw [← kept]
          exact left
        · rw [committed]
          exact still ((moves.otherRounds _ own).1.trans found)
      · rw [committed] at still ⊢
        refine still ?_
        rw [created.rounds]
        exact Table.find?_insertIfAbsent_of_some found
  | formal call =>
      rcases commit_cases (call.run env) s with ⟨e, _, committed⟩ | ⟨t, reply, ok, committed⟩
      · exact still (by rw [committed, found])
      rw [committed] at still found' ⊢
      -- Another round moved, or this one did, and then by its decision.
      have moved : ∀ {other action p p'}, s.MovesSignoff env t other action p p' →
          other = roundId ∧ action = .finalizeSignoff ∧ ∃ intent event artifact,
            s.formal.intents.find? roundId = some intent ∧
            s.formal.outbox.find? roundId = some event ∧ event.state = .artifactPublished ∧
            event.artifact = some artifact ∧ p'.signoff = some (intent.signoff artifact) ∧
            t.formal.signoffs.find? roundId = some (intent.signoff artifact) := by
        intro other action p p' moves
        have own : other = roundId := by
          by_contra different
          rw [moves.rewrites.otherRounds _ (Ne.symm different), found] at found'
          cases found'
          exact left waits
        subst own
        cases found.symm.trans moves.rewrites.found
        cases found'.symm.trans moves.rewrites.found'
        have key : p.round.roundId = other := Table.key_of_find? found
        have key' : p'.round.roundId = other := Table.key_of_find? found'
        rcases moves.move.leaves waits with waits' |
          ⟨rfl, intent, event, artifact, hasIntent, hasEvent, state, recorded, signoff⟩
        · exact absurd waits' left
        · refine ⟨rfl, rfl, intent, event, artifact, ?_, ?_, state, recorded, signoff, ?_⟩
          · rw [← hasIntent, ← moves.before, ← key]
            rfl
          · rw [← hasEvent, ← moves.before, ← key]
            rfl
          · rw [← signoff, ← moves.after, ← key']
            rfl
      rcases call.effect consistent ok with same | ⟨other, action, p, p', named, moves⟩
      · exact still (by rw [same, found])
      have decision := (moved moves).2.1
      subst decision
      cases call with
      | finalizeFormalSearchRound | createFormalRoundSignoffIntent
      | recordFormalRoundSignoffArtifact | reconcileFormalRoundSignoff => cases named
      | finalizeFormalRoundSignoff publication =>
          obtain ⟨_, ok'⟩ := Transaction.silent_eq_ok.mp ok
          rcases finalizeFormalRoundSignoff_effect consistent ok' with
            same | ⟨intent', known, _, _, moves', signed⟩
          · exact still (by rw [same, found])
          obtain ⟨own, _, intent, event, artifact, hasIntent, hasEvent, state, recorded, signoff,
            decided⟩ := moved moves'
          obtain ⟨present, identifier⟩ := FormalTables.of_intent? known
          have one : s.formal.intents.find? intent'.roundId = some intent' :=
            Table.find?_of_mem present
          rw [own] at one
          cases one.symm.trans hasIntent
          have sameArtifact : publication.toDecisionArtifact = artifact :=
            congrArg FormalRoundSignoff.toDecisionArtifact
              (Option.some.inj (signed.symm.trans signoff))
          rw [← sameArtifact] at recorded decided
          exact ⟨publication, intent', event, rfl, hasIntent, identifier.symm, hasEvent, state,
            recorded, decided⟩

end Leaving

/-- A call before whose action a round is not leaves everything about its signoff. -/
theorem FormalCall.others {env : FormalEnv} {s : Store} (consistent : s.SignoffsConsistent)
    {roundId : Uuid} {round : SearchRound} (found : s.searchRounds.find? roundId = some round)
    {call : FormalCall} (other : call.action ≠ some (s.formal.nextAction round)) :
    s.SameSignoff (commit (call.run env) s).1 roundId := by
  rcases commit_cases (call.run env) s with ⟨e, _, committed⟩ | ⟨t, reply, ok, committed⟩
  · rw [committed]
    exact .refl s roundId
  rw [committed]
  rcases call.effect consistent ok with same | ⟨moved, action, p, p', named, moves⟩
  · rw [same]
    exact .refl s roundId
  by_cases own : roundId = moved
  · subst own
    have rewrites := moves.rewrites
    cases found.symm.trans rewrites.found
    obtain ⟨stage, here⟩ := consistent.stage _ _ _ rewrites.found rewrites.tasked
    have next := here.nextAction
    rw [moves.before] at here
    rw [next, (moves.move.stage here).1] at other
    exact absurd named other
  · obtain ⟨sameRound, sameTask⟩ := moves.rewrites.other_found consistent.owned own
    exact ⟨sameRound, sameTask, moves.others roundId own⟩

/-! ## The main result -/

/-- The store after calls in sequence. -/
def runFormalCalls (env : FormalEnv) (s : Store) (calls : List FormalCall) : Store :=
  calls.foldl (fun s call => (commit (call.run env) s).1) s

theorem steps_runFormalCalls (env : FormalEnv) (s : Store) (calls : List FormalCall) :
    Steps (FormalStep env) s (calls.map fun call => some (.formal call))
      (runFormalCalls env s calls) := by
  induction calls generalizing s with
  | nil => exact .refl s
  | cons call calls ih =>
      exact (Steps.single (FormalStep.formal call s : FormalStep env s _ _)).trans
        (ih (commit (call.run env) s).1)

/-- Surroundings whose signoff finalizer knows one artifact. -/
def plainFormalEnv : FormalEnv where
  toRoundEnv := plainEnv
  formalFinalizer := some fun _ _ _ _ _ _ _ => .ok ()
  signoffDigest _ := "sha256:1"
  signoffFinalizer := some fun _ publication =>
    if publication.decisionArtifactHash = "decision" then .ok () else .error "signature_invalid"

/-- A formal round behind a search barrier that promoted nobody. -/
def formalRound : SearchRound :=
  { sampleRound with
    runMode := .formal
    projectMode := some .degradedManualIntake
    state := .searchBarrier
    candidateFamilyHash := some "sha256:0"
    artifactFamilyHash := some "sha256:0" }

/-- Its authority context. -/
def formalContext : FormalAuthorityContext where
  authorityContextId := 50
  contextHash := "context"
  roundId := 11
  taskId := 10
  candidateFamilyHash := "sha256:0"
  artifactFamilyHash := "sha256:0"
  searchPlanHash := "search-plan"
  holdoutPlanCommitment := "commitment"
  selectionRuleHash := "rule"
  evidenceStore := ⟨"store", 1, "store", "policy"⟩
  sealed := .null

/-- Its search barrier. -/
def formalBarrier : FormalBarrier where
  authorityContextId := 50
  authorityContextHash := "context"
  barrier := {
    barrierId := 51, roundId := 11, runMode := .formal, synthetic := false, phase := .search
    inputFamilyHash := "sha256:0", expectedMemberCount := 2, members := []
    ruleVersion := "rule", ruleHash := "rule", outcome := .noPromotableCandidate
    inputSummaryHash := "summary", closedBy := "closer", closedAt := 0
    idempotencyKey := "formal-barrier" }

/-- The store of the formal round. -/
def formalStore : Store where
  tasks := Table.insertIfAbsent ∅ {
    taskId := 10, workflowType := .searchRound, state := .created, idempotencyKey := "round" }
  searchRounds := Table.insertIfAbsent ∅ formalRound
  formal := {
    contexts := Table.insertIfAbsent ∅ formalContext
    barriers := Table.insertIfAbsent ∅ formalBarrier }

/-- The evidence of the formal round. -/
def formalRecord : FormalEvidenceBundlePersistence where
  context := formalContext.toFormalAuthorityContextRef
  bundle := {
    roundEvidenceBundleId := 52, roundId := 11, runMode := .formal
    terminalReason := .noPromotableCandidate, budgetLedgerHash := "sha256:0", synthetic := false
    createdAt := 0, evidence := .null, taskId := 10, candidateFamilyHash := "sha256:0"
    artifactFamilyHash := "sha256:0", searchPlanHash := "search-plan"
    holdoutPlanCommitment := "commitment", searchBarrierId := 51 }
  payloadHash := "bundle"
  formal := ⟨rfl, rfl, rfl⟩
  bound := ⟨rfl, rfl, rfl, rfl, rfl, rfl⟩

/-- The approval of the evidence. -/
def approvalRequest : FormalRoundSignoffRequest where
  roundId := 11
  roundEvidenceBundleId := 52
  decision := .approved
  actor := "owner"
  actorIdentityHash := "identity"
  reason := "reviewed"
  idempotencyKey := "signoff"

/-- A published decision with the given hash. -/
def publishedDecision (hash : String) : FormalRoundSignoffArtifactPublication where
  decisionArtifactUri := "artifact"
  decisionArtifactHash := hash
  signature := ⟨"signer", "key", "identity", "ed25519", "signature"⟩
  signoffIntentId := 900
  roundSignoffId := 900

/-- From the evidence to the record of the published decision. -/
def signoffCalls (hash : String) : List FormalCall :=
  [.finalizeFormalSearchRound formalRecord, .createFormalRoundSignoffIntent 1 approvalRequest,
   .recordFormalRoundSignoffArtifact (publishedDecision hash)]

theorem noSignoffs_formalStore : formalStore.NoSignoffs where
  owned := {
    tasked := fun round present => by
      have here : round ∈ [formalRound] := present
      rw [List.mem_singleton.mp here]
      exact ⟨_, rfl, rfl, rfl, rfl⟩
    owned := fun task present _ => by
      have here : task ∈ [_] := present
      rw [List.mem_singleton.mp here]
      exact ⟨formalRound, List.mem_singleton.mpr rfl, rfl⟩
    apart := fun round present other present' _ => by
      have here : round ∈ [formalRound] := present
      have there : other ∈ [formalRound] := present'
      rw [List.mem_singleton.mp here, List.mem_singleton.mp there] }
  sealed := fun context present => by
    have here : context ∈ [formalContext] := present
    rw [List.mem_singleton.mp here]
    exact ⟨formalRound, rfl, rfl, rfl⟩
  running := fun round present => by
    have here : round ∈ [formalRound] := present
    rw [List.mem_singleton.mp here]
    rfl
  rows := ⟨rfl, rfl, rfl, rfl⟩

end HcuAutoOpt
