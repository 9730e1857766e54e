import HcuAutoOpt.Storage.FormalRounds
import HcuAutoOpt.Rounds.Effects

/-!
# The moves of a signoff

The signoff of a formal round by itself: the round, its task and the rows about its
evidence, its decision and the outbox event of the decision (`SignoffPicture`), and what
the operations do to this picture (`SignoffMove`). A move is labelled with the action
that recovery names where the move is possible.

The picture of a round is always that of one stage (`SignoffStage`), and the stage
determines the action: `SignoffStage.nextAction`. A move leads from one stage to the
next (`SignoffMove.stage`).
-/

set_option autoImplicit false

namespace HcuAutoOpt

open Foundation

/-! ## Pictures -/

/-- A round with the rows about its signoff. -/
structure SignoffPicture where
  round : SearchRound
  task : Task
  context : Option FormalAuthorityContext
  evidence : Option FormalEvidence
  intent : Option FormalRoundSignoffIntent
  outbox : Option FormalRoundSignoffOutbox
  signoff : Option FormalRoundSignoff

/-- The picture of a round and its task. -/
def FormalTables.picture (formal : FormalTables) (round : SearchRound) (task : Task) :
    SignoffPicture where
  round := round
  task := task
  context := formal.contexts.find? round.roundId
  evidence := formal.evidence.find? round.roundId
  intent := formal.intents.find? round.roundId
  outbox := formal.outbox.find? round.roundId
  signoff := formal.signoffs.find? round.roundId

/-- The intent and the event belong to the round and to each other. -/
structure SignoffPicture.Linked (p : SignoffPicture) (intent : FormalRoundSignoffIntent)
    (event : FormalRoundSignoffOutbox) : Prop where
  hasIntent : p.intent = some intent
  hasEvent : p.outbox = some event
  round : intent.roundId = p.round.roundId
  task : intent.taskId = p.round.taskId
  context : ∃ context ∈ p.context,
    context.authorityContextId = intent.authorityContext.authorityContextId
  identifier : event.signoffIntentId = intent.signoffIntentId
  aggregate : event.aggregateId = intent.roundSignoffId
  eventRound : event.roundId = intent.roundId

/-- The evidence is that of the round, sealed under its context. -/
structure SignoffPicture.Evident (p : SignoffPicture) (context : FormalAuthorityContext)
    (evidence : FormalEvidence) : Prop where
  hasContext : p.context = some context
  hasEvidence : p.evidence = some evidence
  roundId : evidence.bundle.roundId = p.round.roundId
  taskId : evidence.bundle.taskId = p.round.taskId
  authority : evidence.authorityContextId = context.authorityContextId ∧
    evidence.authorityContextHash = context.contextHash
  families : evidence.bundle.candidateFamilyHash = context.candidateFamilyHash ∧
    evidence.bundle.artifactFamilyHash = context.artifactFamilyHash
  formal : evidence.bundle.runMode = .formal ∧ evidence.bundle.synthetic = false ∧
    evidence.bundle.automaticReleaseAllowed = false
  mode : p.round.runMode = .formal
  valid : p.round.Valid

/-! ## Moves -/

/-- What an operation does to the signoff of a round, and the action that it carries out. -/
inductive SignoffMove (env : FormalEnv) (p : SignoffPicture) : SignoffAction → SignoffPicture → Prop
  | finalize (record : FormalEvidenceBundlePersistence) (context : FormalAuthorityContext)
      (running : p.round.state.isScripted = true) (valid : p.round.Valid)
      (sealed : p.context = some context)
      (same : context.toFormalAuthorityContextRef = record.context)
      (own : context.roundId = p.round.roundId ∧ context.taskId = p.round.taskId)
      (mode : p.round.runMode = .formal) (first : p.evidence = none) :
      SignoffMove env p .notSignable
        { p with round := p.round.moveTo .awaitingSignoff
                 task := p.task.inState .awaitingSignoff
                 evidence := some record.row }
  | createIntent (now : Timestamp) (request : FormalRoundSignoffRequest)
      (context : FormalAuthorityContext) (evidence : FormalEvidence)
      (awaits : p.round.state = .awaitingSignoff) (own : request.roundId = p.round.roundId)
      (sealed : p.context = some context) (first : p.intent = none) (unsent : p.outbox = none) :
      SignoffMove env p .createIntent
        { p with intent := some ((request.inputs now p.round context evidence).intent env)
                 outbox := some
                   (((request.inputs now p.round context evidence).intent env).event env) }
  | publish (artifact : DecisionArtifact) {intent : FormalRoundSignoffIntent}
      {event : FormalRoundSignoffOutbox} (linked : p.Linked intent event)
      (preparing : intent.state = .preparing) (pending : event.state = .pending) :
      SignoffMove env p .publishArtifact
        { p with intent := some (intent.moveTo .artifactPublished)
                 outbox := some (event.publish artifact) }
  | decide {verify : SignoffVerifier} {artifact : DecisionArtifact}
      {intent : FormalRoundSignoffIntent} {event : FormalRoundSignoffOutbox}
      (linked : p.Linked intent event) (published : intent.state = .artifactPublished)
      (recorded : event.state = .artifactPublished ∧ event.artifact = some artifact)
      (awaits : p.round.state = .awaitingSignoff ∧ p.task.state = .awaitingSignoff)
      (configured : env.signoffFinalizer = some verify)
      (verified : verify intent
        ⟨artifact, intent.signoffIntentId, intent.roundSignoffId⟩ = .ok ())
      (first : p.signoff = none) :
      SignoffMove env p .finalizeSignoff
        { p with round := p.round.moveTo intent.decision.roundState
                 task := p.task.inState intent.decision.taskState
                 intent := some (intent.moveTo .finalized)
                 outbox := some event.finalize
                 signoff := some (intent.signoff artifact) }

/-! ## Stages -/

/-- The round and its task wait for the signoff. -/
def SignoffPicture.Awaits (p : SignoffPicture) : Prop :=
  p.round.state = .awaitingSignoff ∧ p.task.state = .awaitingSignoff

/-- **The stages of a signoff**, each with the action that comes next. -/
inductive SignoffStage (p : SignoffPicture) : SignoffAction → Prop
  | unfinished (running : p.round.state.isScripted = true)
      (rows : p.evidence = none ∧ p.intent = none ∧ p.outbox = none ∧ p.signoff = none) :
      SignoffStage p .notSignable
  | awaiting {context : FormalAuthorityContext} {evidence : FormalEvidence} (awaits : p.Awaits)
      (evident : p.Evident context evidence)
      (rows : p.intent = none ∧ p.outbox = none ∧ p.signoff = none) :
      SignoffStage p .createIntent
  | prepared {context : FormalAuthorityContext} {evidence : FormalEvidence}
      {intent : FormalRoundSignoffIntent} {event : FormalRoundSignoffOutbox} (awaits : p.Awaits)
      (evident : p.Evident context evidence) (linked : p.Linked intent event)
      (intentState : intent.state = .preparing) (eventState : event.state = .pending)
      (undecided : p.signoff = none) :
      SignoffStage p .publishArtifact
  | published {context : FormalAuthorityContext} {evidence : FormalEvidence}
      {intent : FormalRoundSignoffIntent} {event : FormalRoundSignoffOutbox}
      {artifact : DecisionArtifact} (awaits : p.Awaits)
      (evident : p.Evident context evidence) (linked : p.Linked intent event)
      (intentState : intent.state = .artifactPublished)
      (eventState : event.state = .artifactPublished) (recorded : event.artifact = some artifact)
      (undecided : p.signoff = none) :
      SignoffStage p .finalizeSignoff
  | signed {context : FormalAuthorityContext} {evidence : FormalEvidence}
      {intent : FormalRoundSignoffIntent} {event : FormalRoundSignoffOutbox}
      {artifact : DecisionArtifact}
      (evident : p.Evident context evidence) (linked : p.Linked intent event)
      (decided : p.round.state = intent.decision.roundState ∧
        p.task.state = intent.decision.taskState)
      (intentState : intent.state = .finalized) (eventState : event.state = .finalized)
      (recorded : event.artifact = some artifact)
      (signoff : p.signoff = some (intent.signoff artifact)) :
      SignoffStage p .complete

namespace SignoffStage

variable {p : SignoffPicture} {action : SignoffAction}

/-- **The rows of a round name the action of its stage.** -/
theorem nextAction {formal : FormalTables} {round : SearchRound} {task : Task}
    (stage : SignoffStage (formal.picture round task) action) :
    formal.nextAction round = action := by
  unfold FormalTables.nextAction
  cases stage with
  | unfinished running rows =>
      obtain ⟨_, intent, outbox, signoff⟩ := rows
      simp only [FormalTables.picture] at running intent outbox signoff
      have elsewhere : round.state ≠ .awaitingSignoff := by
        intro same
        rw [same] at running
        cases running
      simp [intent, signoff, elsewhere]
  | awaiting awaits _ rows =>
      obtain ⟨intent, outbox, signoff⟩ := rows
      simp only [FormalTables.picture] at intent outbox signoff
      have here : round.state = .awaitingSignoff := awaits.1
      simp [intent, signoff, here]
  | prepared _ _ linked intentState eventState undecided
  | published _ _ linked intentState eventState _ undecided =>
      have intent := linked.hasIntent
      have event := linked.hasEvent
      simp only [FormalTables.picture] at intent event undecided
      simp [intent, event, undecided, intentState, eventState]
  | signed _ _ _ _ _ _ signoff =>
      simp only [FormalTables.picture] at signoff
      simp [signoff]

/-- The stage of a round whose signoff has begun to be awaited. -/
theorem evident_of_signoff (stage : SignoffStage p action)
    (signable : p.round.state.isScripted = false) :
    ∃ context evidence, p.Evident context evidence := by
  cases stage with
  | unfinished running =>
      rw [running] at signable
      cases signable
  | awaiting _ evident | prepared _ evident | published _ evident | signed evident =>
      exact ⟨_, _, evident⟩

/-- The signoff has not begun exactly while nothing is signable. -/
theorem running_iff (stage : SignoffStage p action) :
    p.round.state.isScripted = true ↔ action = .notSignable := by
  cases stage with
  | unfinished running => exact ⟨fun _ => rfl, fun _ => running⟩
  | awaiting awaits | prepared awaits | published awaits =>
      rw [awaits.1]
      exact ⟨(by rintro ⟨⟩), (by rintro ⟨⟩)⟩
  | @signed _ _ intent _ _ _ _ decided =>
      rw [decided.1]
      cases intent.decision <;> exact ⟨(by rintro ⟨⟩), (by rintro ⟨⟩)⟩

/-- The rows of an intent are linked. -/
theorem linked_of_intent (stage : SignoffStage p action) {intent : FormalRoundSignoffIntent}
    (present : p.intent = some intent) : ∃ event, p.Linked intent event := by
  cases stage with
  | unfinished _ rows =>
      rw [rows.2.1] at present
      cases present
  | awaiting _ _ rows =>
      rw [rows.1] at present
      cases present
  | prepared _ _ linked | published _ _ linked | signed _ linked =>
      cases linked.hasIntent.symm.trans present
      exact ⟨_, linked⟩

/-- An event has its intent. -/
theorem linked_of_event (stage : SignoffStage p action) {event : FormalRoundSignoffOutbox}
    (present : p.outbox = some event) : ∃ intent, p.Linked intent event := by
  cases stage with
  | unfinished _ rows =>
      rw [rows.2.2.1] at present
      cases present
  | awaiting _ _ rows =>
      rw [rows.2.1] at present
      cases present
  | prepared _ _ linked | published _ _ linked | signed _ linked =>
      cases linked.hasEvent.symm.trans present
      exact ⟨_, linked⟩

end SignoffStage

/-! ## Preservation -/

/-- A formal round stays valid in another state and version. -/
theorem SearchRound.Valid.inState {round : SearchRound} {state : SearchRoundState} {version : Nat}
    (valid : round.Valid) (formal : round.runMode = .formal)
    (elsewhere : state ≠ .scriptedCompleted) (counted : 1 ≤ version) :
    { round with state := state, version := version }.Valid where
  candidateCount := valid.candidateCount
  promotedCount := valid.promotedCount
  familyAlpha := valid.familyAlpha
  noRelease := valid.noRelease
  version := counted
  scripted := fun mode => by
    have same : round.runMode = .scripted := mode
    rw [formal] at same
    cases same
  formal := fun mode => ⟨(valid.formal mode).1, elsewhere⟩
  promotion := valid.promotion
  budget := valid.budget
  reveal := valid.reveal
  revealFamily := valid.revealFamily

theorem SearchRound.Valid.moveTo {round : SearchRound} {state : SearchRoundState}
    (valid : round.Valid) (formal : round.runMode = .formal)
    (elsewhere : state ≠ .scriptedCompleted) : (round.moveTo state).Valid :=
  valid.inState formal elsewhere (Nat.le_succ_of_le valid.version)

theorem SignoffDecision.roundState_ne (decision : SignoffDecision) :
    decision.roundState ≠ .scriptedCompleted := by
  cases decision <;> decide

/-- **A move leads from the stage of its action to the next stage.** -/
theorem SignoffMove.stage {env : FormalEnv} {p p' : SignoffPicture} {action named : SignoffAction}
    (move : SignoffMove env p action p') (before : SignoffStage p named) :
    named = action ∧ ∃ next, SignoffStage p' next := by
  cases move with
  | finalize record context running valid sealed same own mode first =>
      cases before with
      | unfinished _ rows =>
          obtain ⟨formal, synthetic, release⟩ := record.formal
          obtain ⟨roundId, taskId, candidates, artifacts, _⟩ := record.bound
          rw [← same] at roundId taskId candidates artifacts
          refine ⟨rfl, _, .awaiting ⟨rfl, rfl⟩
            ⟨sealed, rfl, roundId.trans own.1, taskId.trans own.2, ?_, ⟨candidates, artifacts⟩,
              ⟨formal, synthetic, release⟩, mode, valid.moveTo mode (by decide)⟩ rows.2⟩
          simp only [FormalEvidenceBundlePersistence.row]
          rw [← same]
          exact ⟨rfl, rfl⟩
      | awaiting _ evident | prepared _ evident | published _ evident | signed evident =>
          rw [evident.hasEvidence] at first
          cases first
  | createIntent now request context evidence awaits own sealed first =>
      cases before with
      | unfinished running =>
          rw [awaits] at running
          cases running
      | awaiting waits evident rows =>
          refine ⟨rfl, _, .prepared waits
            ⟨evident.hasContext, evident.hasEvidence, evident.roundId, evident.taskId, evident.authority,
              evident.families, evident.formal, evident.mode, evident.valid⟩
            ⟨rfl, rfl, own, rfl, ⟨context, sealed, rfl⟩, rfl, rfl, rfl⟩ rfl rfl rows.2.2⟩
      | prepared _ _ linked | published _ _ linked | signed _ linked =>
          rw [linked.hasIntent] at first
          cases first
  | publish artifact linked preparing pending =>
      cases before with
      | unfinished _ rows =>
          cases rows.2.1.symm.trans linked.hasIntent
      | awaiting _ _ rows =>
          cases rows.1.symm.trans linked.hasIntent
      | prepared waits evident _ _ _ undecided =>
          exact ⟨rfl, _, .published waits
            ⟨evident.hasContext, evident.hasEvidence, evident.roundId, evident.taskId, evident.authority,
              evident.families, evident.formal, evident.mode, evident.valid⟩
            ⟨rfl, rfl, linked.round, linked.task, linked.context, linked.identifier,
              linked.aggregate, linked.eventRound⟩ rfl rfl rfl undecided⟩
      | published _ _ other state | signed _ other _ state =>
          cases other.hasIntent.symm.trans linked.hasIntent
          rw [state] at preparing
          cases preparing
  | decide linked published recorded awaits configured verified first =>
      cases before with
      | unfinished _ rows =>
          cases rows.2.1.symm.trans linked.hasIntent
      | awaiting _ _ rows =>
          cases rows.1.symm.trans linked.hasIntent
      | prepared _ _ other state =>
          cases other.hasIntent.symm.trans linked.hasIntent
          rw [state] at published
          cases published
      | published _ evident =>
          exact ⟨rfl, _, .signed
            ⟨evident.hasContext, evident.hasEvidence, evident.roundId, evident.taskId, evident.authority,
              evident.families, evident.formal, evident.mode,
              evident.valid.moveTo evident.mode (SignoffDecision.roundState_ne _)⟩
            ⟨rfl, rfl, linked.round, linked.task, linked.context, linked.identifier,
              linked.aggregate, linked.eventRound⟩ ⟨rfl, rfl⟩ rfl rfl recorded.2 rfl⟩
      | signed _ _ _ _ _ _ signoff =>
          rw [signoff] at first
          cases first

end HcuAutoOpt
