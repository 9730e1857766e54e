import HcuAutoOpt.Storage.RoundAuthority

/-!
# Finalization and signoff of formal rounds

The operations of `storage/repository.py` that end a formal search round:
`finalize_formal_search_round`, `create_formal_round_signoff_intent`,
`record_formal_round_signoff_artifact`, `finalize_formal_round_signoff` and
`reconcile_formal_round_signoff`.

The evidence of a formal round stops the round at a human signoff. The decision is an
intent with an outbox event, an artifact that a publisher puts outside the database and
records, and a finalization that authenticates the artifact and commits the decision.
A trigger that would reject an insertion is a database error of the operation.
-/

set_option autoImplicit false

namespace HcuAutoOpt

open Foundation

/-- The surroundings of the operations on formal rounds. -/
structure FormalEnv extends RoundEnv where
  /-- The configured `m2_formal_finalizer`, if any. -/
  formalFinalizer : Option FormalVerifier
  /-- `formal_round_signoff_input_digest`. -/
  signoffDigest : SignoffInputs → String
  /-- The configured `m2_formal_signoff_finalizer`, if any. -/
  signoffFinalizer : Option SignoffVerifier

namespace FormalTables

variable (formal : FormalTables)

/-- The barrier of a phase. -/
def barrier? (roundId : Uuid) (phase : RoundPhase) : Option FormalBarrier :=
  formal.barriers.find? (roundId, phase)

/-- The context under its identifier. -/
def context? (authorityContextId : Uuid) : Option FormalAuthorityContext :=
  formal.contexts.rows.find? fun row => decide (row.authorityContextId = authorityContextId)

/-- The evidence under its identifier. -/
def evidence? (roundEvidenceBundleId : Uuid) : Option FormalEvidence :=
  formal.evidence.rows.find? fun row =>
    decide (row.bundle.roundEvidenceBundleId = roundEvidenceBundleId)

/-- The intent under its identifier. -/
def intent? (signoffIntentId : Uuid) : Option FormalRoundSignoffIntent :=
  formal.intents.rows.find? fun row => decide (row.signoffIntentId = signoffIntentId)

/-- The outbox event of an intent. -/
def outbox? (signoffIntentId : Uuid) : Option FormalRoundSignoffOutbox :=
  formal.outbox.rows.find? fun row => decide (row.signoffIntentId = signoffIntentId)

variable {formal}

theorem of_intent? {signoffIntentId : Uuid} {intent : FormalRoundSignoffIntent}
    (found : formal.intent? signoffIntentId = some intent) :
    intent ∈ formal.intents ∧ intent.signoffIntentId = signoffIntentId := by
  have holds := List.find?_some found
  exact ⟨List.mem_of_find?_eq_some found, of_decide_eq_true holds⟩

theorem of_outbox? {signoffIntentId : Uuid} {event : FormalRoundSignoffOutbox}
    (found : formal.outbox? signoffIntentId = some event) :
    event ∈ formal.outbox ∧ event.signoffIntentId = signoffIntentId := by
  have holds := List.find?_some found
  exact ⟨List.mem_of_find?_eq_some found, of_decide_eq_true holds⟩

theorem of_evidence? {roundEvidenceBundleId : Uuid} {evidence : FormalEvidence}
    (found : formal.evidence? roundEvidenceBundleId = some evidence) :
    evidence ∈ formal.evidence ∧
      evidence.bundle.roundEvidenceBundleId = roundEvidenceBundleId := by
  have holds := List.find?_some found
  exact ⟨List.mem_of_find?_eq_some found, of_decide_eq_true holds⟩

end FormalTables

/-! ## Evidence -/

/-- `_load_formal_authority_context`. -/
def Store.loadFormalContext (s : Store) (reference : FormalAuthorityContextRef) :
    Except Error FormalAuthorityContext := do
  let context ← requireSome (s.formal.contexts.find? reference.roundId)
    (.conflict "M2a Formal Authority Context is not durable")
  require (context.authorityContextId = reference.authorityContextId)
    (.conflict "M2a Formal Authority Context is not durable")
  require (context.toFormalAuthorityContextRef = reference)
    (.conflict "M2a Formal authority reference belongs to another Context")
  return context

/-- The rows that the evidence of a formal round is verified against. -/
structure FormalPath where
  search : FormalBarrier
  reveal : Option FormalHoldoutReveal
  holdout : Option FormalBarrier
  comparison : Option FormalMultipleComparison

/-- The rows of a round, behind the given search barrier. -/
def Store.formalPath (s : Store) (roundId : Uuid) (search : FormalBarrier) : FormalPath where
  search := search
  reveal := s.formal.reveals.find? roundId
  holdout := s.formal.barrier? roundId .holdout
  comparison := s.formal.comparisons.find? roundId

/-- The state that a round is finalized in on its terminal path. -/
def RoundTerminalReason.barrierState : RoundTerminalReason → SearchRoundState
  | .noPromotableCandidate => .searchBarrier
  | .holdoutCompleted => .holdoutBarrier

/-- The terminal path that the evidence names was gone to its end, in the given state. -/
def FormalPath.requireTerminal (path : FormalPath) (reason : RoundTerminalReason)
    (state expected : SearchRoundState) : Except Error Unit :=
  match reason with
  | .noPromotableCandidate =>
      require (state = expected ∧ path.search.barrier.outcome = .noPromotableCandidate ∧
          path.reveal = none ∧ path.holdout = none ∧ path.comparison = none)
        (.conflict "M2a Formal zero-promotion terminal path is incomplete")
  | .holdoutCompleted =>
      require (state = expected ∧ path.search.barrier.outcome = .membersPromoted ∧
          path.reveal ≠ none ∧ path.holdout ≠ none ∧ path.comparison ≠ none)
        (.conflict "M2a Formal Holdout terminal path is incomplete")

/-- What the trigger on `formal_round_evidence_bundles` asks of the holdout rows. -/
def FormalPath.HoldoutIdentity (path : FormalPath) (row : FormalEvidence) : Prop :=
  match path.reveal, path.holdout, path.comparison with
  | some reveal, some holdout, some comparison =>
      some holdout.barrier.barrierId = row.bundle.holdoutBarrierId ∧
      some comparison.result.multipleComparisonId = row.bundle.multipleComparisonId ∧
      reveal.authorityContextId = row.authorityContextId ∧
      reveal.authorityContextHash = row.authorityContextHash ∧
      reveal.searchBarrierId = row.bundle.searchBarrierId ∧
      some reveal.holdoutFamilyHash = row.bundle.holdoutFamilyHash ∧
      some reveal.holdoutPlanHash = row.bundle.holdoutPlanHash ∧
      some reveal.revealEvidenceHash = row.bundle.holdoutRevealEvidenceHash ∧
      holdout.authorityContextId = row.authorityContextId ∧
      holdout.authorityContextHash = row.authorityContextHash ∧
      holdout.holdoutFamilyHash = row.bundle.holdoutFamilyHash ∧
      comparison.authorityContextId = row.authorityContextId ∧
      comparison.authorityContextHash = row.authorityContextHash ∧
      some comparison.result.holdoutBarrierId = row.bundle.holdoutBarrierId ∧
      some comparison.result.holdoutFamilyHash = row.bundle.holdoutFamilyHash
  | _, _, _ => False

instance (path : FormalPath) (row : FormalEvidence) : Decidable (path.HoldoutIdentity row) := by
  unfold FormalPath.HoldoutIdentity
  split <;> infer_instance

/-- `enforce_formal_evidence_identity`, beyond what the operation has checked. -/
def FormalPath.Identity (path : FormalPath) (row : FormalEvidence) : Prop :=
  path.search.barrier.barrierId = row.bundle.searchBarrierId ∧
  path.search.authorityContextId = row.authorityContextId ∧
  path.search.authorityContextHash = row.authorityContextHash ∧
  (row.bundle.terminalReason = .holdoutCompleted → path.HoldoutIdentity row)

instance (path : FormalPath) (row : FormalEvidence) : Decidable (path.Identity row) := by
  unfold FormalPath.Identity
  infer_instance

/-- The round in another state. -/
def SearchRound.moveTo (state : SearchRoundState) (round : SearchRound) : SearchRound :=
  { round with state := state, version := round.version + 1 }

instance (state : SearchRoundState) : KeepsKey (SearchRound.moveTo state) := ⟨fun _ => rfl⟩

/-- The checks of a finalization that a repetition goes through as well. -/
def verifyFormalEvidence (env : FormalEnv) (record : FormalEvidenceBundlePersistence)
    (context : FormalAuthorityContext) (round : SearchRound) (expected : SearchRoundState)
    (s : Store) : Except Error FormalPath := do
  let verify ← requireSome env.formalFinalizer
    (.conflict "M2a Formal Finalizer is not configured")
  let search ← requireSome (s.formal.barrier? record.bundle.roundId .search)
    (.conflict "M2a Formal Finalizer requires a durable Search Barrier")
  let path := s.formalPath record.bundle.roundId search
  path.requireTerminal record.bundle.terminalReason round.state expected
  require (∀ row ∈ s.reservationsOf record.bundle.roundId, row.state ≠ .reserved)
    (.conflict "M2a Formal Finalizer requires every Budget reservation terminal")
  require (record.bundle.budgetLedgerHash = roundBudgetLedgerHash env.toRoundEnv
      record.bundle.roundId (s.reservationsOf record.bundle.roundId)
      (s.ledgerOf record.bundle.roundId))
    (.conflict "M2a Formal Round Evidence changed the durable Budget Ledger")
  let authority ← round.authority record.bundle.terminalReason.barrierState
  verifierVerdict (verify context authority path.search.barrier path.reveal
    (path.holdout.map FormalBarrier.barrier)
    (path.comparison.map FormalMultipleComparison.result) record.bundle)
  return path

/-- `finalize_formal_search_round`. -/
def finalizeFormalSearchRound (env : FormalEnv) (record : FormalEvidenceBundlePersistence) :
    Transaction Store Error SearchRound :=
  fun s => do
    let round ← s.requireRound record.bundle.roundId
    let task ← requireSome (s.tasks.find? round.taskId)
      (.conflict "M2a Formal Round lost its Task")
    let context ← s.loadFormalContext record.context
    match s.formal.evidence.find? record.bundle.roundId with
    | some existing => do
        require (existing = record.row ∧ record.bundle.ReadsBack)
          (.conflict "M2a Formal Round already finalized with other evidence")
        require (round.state = .awaitingSignoff ∧ task.state = .awaitingSignoff)
          (.conflict "M2a Formal Evidence exists without awaiting_signoff")
        let _ ← verifyFormalEvidence env record context round .awaitingSignoff s
        return (s, round)
    | none => do
        let path ← verifyFormalEvidence env record context round
          record.bundle.terminalReason.barrierState s
        require ((∀ row ∈ s.formal.evidence.rows,
            row.bundle.roundEvidenceBundleId ≠ record.bundle.roundEvidenceBundleId) ∧
            path.Identity record.row)
          (.databaseError "formal_round_evidence_bundles")
        return (setTaskState record.bundle.taskId .awaitingSignoff { s with
          formal := { s.formal with evidence := s.formal.evidence.insertIfAbsent record.row }
          searchRounds := s.searchRounds.update record.bundle.roundId
            (SearchRound.moveTo .awaitingSignoff) },
          round.moveTo .awaitingSignoff)

/-! ## Intent -/

/-- `build_formal_round_signoff_intent`. -/
def SignoffInputs.intent (env : FormalEnv) (inputs : SignoffInputs) :
    FormalRoundSignoffIntent where
  toSignoffInputs := inputs
  signoffIntentId := env.uuid5 s!"hcuopt:m2-formal-signoff-intent:{env.signoffDigest inputs}"
  roundSignoffId := env.uuid5 s!"hcuopt:m2-formal-round-signoff:{env.signoffDigest inputs}"
  inputDigest := env.signoffDigest inputs
  state := .preparing

/-- The outbox event of a new intent. -/
def FormalRoundSignoffIntent.event (env : FormalEnv) (intent : FormalRoundSignoffIntent) :
    FormalRoundSignoffOutbox where
  outboxEventId := env.uuid5 s!"hcuopt:m2-formal-signoff-outbox:{intent.inputDigest}"
  signoffIntentId := intent.signoffIntentId
  roundId := intent.roundId
  aggregateId := intent.roundSignoffId
  payload := intent
  state := .pending

/-- The inputs that a request is frozen with. -/
def FormalRoundSignoffRequest.inputs (request : FormalRoundSignoffRequest) (now : Timestamp)
    (round : SearchRound) (context : FormalAuthorityContext) (evidence : FormalEvidence) :
    SignoffInputs where
  toFormalRoundSignoffRequest := request
  taskId := round.taskId
  authorityContext := context.toFormalAuthorityContextRef
  evidenceBundleHash := evidence.payloadHash
  candidateFamilyHash := evidence.bundle.candidateFamilyHash
  artifactFamilyHash := evidence.bundle.artifactFamilyHash
  holdoutFamilyHash := evidence.bundle.holdoutFamilyHash
  decisionAt := now

/-- `require_formal_round_signoff`. -/
def requireFormalRoundSignoff (authority : SearchRound) (evidence : FormalEvidenceBundle) :
    Except String Unit := do
  require (authority.runMode = .formal ∧ evidence.runMode = .formal ∧ evidence.synthetic = false)
    "synthetic_round_not_signable"
  require (authority.state = .awaitingSignoff ∧ authority.roundId = evidence.roundId ∧
      authority.taskId = evidence.taskId)
    "round_signoff_evidence_mismatch"

/-- The evidence is that of the round, under its context. -/
def FormalEvidence.BoundTo (evidence : FormalEvidence) (request : FormalRoundSignoffRequest)
    (context : FormalAuthorityContext) : Prop :=
  evidence.bundle.roundEvidenceBundleId = request.roundEvidenceBundleId ∧
  evidence.bundle.roundId = request.roundId ∧
  evidence.authorityContextId = context.authorityContextId ∧
  evidence.authorityContextHash = context.contextHash ∧
  evidence.bundle.candidateFamilyHash = context.candidateFamilyHash ∧
  evidence.bundle.artifactFamilyHash = context.artifactFamilyHash ∧
  evidence.bundle.synthetic = false ∧ evidence.bundle.automaticReleaseAllowed = false

instance (evidence : FormalEvidence) (request : FormalRoundSignoffRequest)
    (context : FormalAuthorityContext) : Decidable (evidence.BoundTo request context) := by
  unfold FormalEvidence.BoundTo
  infer_instance

/-- The unique indexes of the intents and the outbox. -/
def FormalTables.IntentFresh (formal : FormalTables) (intent : FormalRoundSignoffIntent)
    (event : FormalRoundSignoffOutbox) : Prop :=
  (∀ row ∈ formal.intents.rows, row.signoffIntentId ≠ intent.signoffIntentId ∧
    row.roundSignoffId ≠ intent.roundSignoffId ∧
    row.roundEvidenceBundleId ≠ intent.roundEvidenceBundleId ∧
    row.inputDigest ≠ intent.inputDigest) ∧
  ∀ row ∈ formal.outbox.rows, row.outboxEventId ≠ event.outboxEventId ∧
    row.signoffIntentId ≠ event.signoffIntentId ∧ row.roundId ≠ event.roundId ∧
    row.aggregateId ≠ event.aggregateId

instance (formal : FormalTables) (intent : FormalRoundSignoffIntent)
    (event : FormalRoundSignoffOutbox) : Decidable (formal.IntentFresh intent event) := by
  unfold FormalTables.IntentFresh
  infer_instance

/-- The intent has the key or the round of the request. -/
def FormalRoundSignoffRequest.selects (request : FormalRoundSignoffRequest)
    (row : FormalRoundSignoffIntent) : Bool :=
  decide (row.idempotencyKey = request.idempotencyKey ∨ row.roundId = request.roundId)

/-- The first signoff intent of a round. -/
def persistSignoffIntent (env : FormalEnv) (now : Timestamp) (request : FormalRoundSignoffRequest)
    (round : SearchRound) :
    Transaction Store Error (FormalRoundSignoffIntent × FormalRoundSignoffOutbox) :=
  fun s => do
    require (round.runMode = .formal ∧ round.state = .awaitingSignoff ∧
        round.automaticReleaseAllowed = false)
      (.conflict "Formal Signoff requires a non-releasable awaiting Round")
    let task ← requireSome (s.tasks.find? round.taskId)
      (.conflict "Formal Signoff requires its awaiting SearchRound Task")
    require (task.state = .awaitingSignoff ∧ task.workflowType = .searchRound ∧
        task.automaticReleaseAllowed = false)
      (.conflict "Formal Signoff requires its awaiting SearchRound Task")
    let evidence ← requireSome (s.formal.evidence? request.roundEvidenceBundleId)
      (.conflict "Formal Signoff requires the durable final EvidenceBundle")
    let context ← requireSome (s.formal.contexts.find? request.roundId)
      (.conflict "Formal Signoff requires durable Formal Authority")
    let authority ← round.authority round.state
    verifierVerdict (requireFormalRoundSignoff authority evidence.bundle)
    require (evidence.BoundTo request context)
      (.conflict "round_signoff_evidence_mismatch: Formal Evidence identity drifted")
    let intent := (request.inputs now round context evidence).intent env
    require (s.formal.IntentFresh intent (intent.event env))
      (.databaseError "formal_round_signoff_intents")
    return ({ s with formal := { s.formal with
      intents := s.formal.intents.insertIfAbsent intent
      outbox := s.formal.outbox.insertIfAbsent (intent.event env) } }, intent, intent.event env)

/-- `create_formal_round_signoff_intent`. -/
def createFormalRoundSignoffIntent (env : FormalEnv) (now : Timestamp)
    (request : FormalRoundSignoffRequest) :
    Transaction Store Error (FormalRoundSignoffIntent × FormalRoundSignoffOutbox) :=
  fun s => do
    let round ← s.requireRound request.roundId
    match s.formal.intents.rows.find? request.selects with
    | some existing => do
        let _ ← requireSome (s.formal.context? existing.authorityContext.authorityContextId)
          (.databaseError "formal_round_authority_contexts")
        require (existing.toFormalRoundSignoffRequest = request)
          (.conflict "Formal Signoff idempotency key has different frozen inputs")
        let outbox ← requireSome (s.formal.outbox? existing.signoffIntentId)
          (.conflict "Formal Signoff Intent lost its durable Outbox")
        return (s, existing, outbox)
    | none => persistSignoffIntent env now request round s

/-! ## Artifact -/

/-- The intent in another state. -/
def FormalRoundSignoffIntent.moveTo (state : SignoffIntentState)
    (intent : FormalRoundSignoffIntent) : FormalRoundSignoffIntent :=
  { intent with state := state }

instance (state : SignoffIntentState) : KeepsKey (FormalRoundSignoffIntent.moveTo state) :=
  ⟨fun _ => rfl⟩

/-- The outbox event with its published artifact. -/
def FormalRoundSignoffOutbox.publish (artifact : DecisionArtifact)
    (outbox : FormalRoundSignoffOutbox) : FormalRoundSignoffOutbox :=
  { outbox with state := .artifactPublished, artifact := some artifact }

instance (artifact : DecisionArtifact) : KeepsKey (FormalRoundSignoffOutbox.publish artifact) :=
  ⟨fun _ => rfl⟩

/-- The outbox event of a committed decision. -/
def FormalRoundSignoffOutbox.finalize (outbox : FormalRoundSignoffOutbox) :
    FormalRoundSignoffOutbox :=
  { outbox with state := .finalized }

instance : KeepsKey FormalRoundSignoffOutbox.finalize := ⟨fun _ => rfl⟩

/-- `record_formal_round_signoff_artifact`. -/
def recordFormalRoundSignoffArtifact (publication : FormalRoundSignoffArtifactPublication) :
    Transaction Store Error FormalRoundSignoffOutbox :=
  fun s => do
    let intent ← requireRow (s.formal.intent? publication.signoffIntentId)
      s!"Formal Signoff Intent not found: {publication.signoffIntentId.text}"
    let outbox ← requireSome (s.formal.outbox? publication.signoffIntentId)
      (.conflict "Formal Signoff Intent lost its durable Outbox")
    require (intent.roundSignoffId = publication.roundSignoffId ∧
        outbox.aggregateId = publication.roundSignoffId)
      (.conflict "Formal Signoff publication belongs to another Intent")
    if outbox.state ∈ [SignoffOutboxState.artifactPublished, .finalized] then
      require (outbox.artifact = some publication.toDecisionArtifact)
        (.conflict "Formal Signoff Outbox already published other bytes")
      return (s, outbox)
    else
      require (intent.state = .preparing ∧ outbox.state = .pending)
        (.conflict "Formal Signoff Outbox is not publishable")
      return ({ s with formal := { s.formal with
        outbox := s.formal.outbox.update outbox.roundId
          (FormalRoundSignoffOutbox.publish publication.toDecisionArtifact)
        intents := s.formal.intents.update intent.roundId
          (FormalRoundSignoffIntent.moveTo .artifactPublished) } },
        outbox.publish publication.toDecisionArtifact)

/-! ## Decision -/

/-- The signoff of an intent with its published artifact. -/
def FormalRoundSignoffIntent.signoff (intent : FormalRoundSignoffIntent)
    (artifact : DecisionArtifact) : FormalRoundSignoff where
  toSignoffInputs := intent.toSignoffInputs
  toDecisionArtifact := artifact
  roundSignoffId := intent.roundSignoffId
  signoffIntentId := intent.signoffIntentId
  inputDigest := intent.inputDigest

/-- The state of a round after a decision. -/
def SignoffDecision.roundState : SignoffDecision → SearchRoundState
  | .approved => .completed
  | .rejected => .rejected

/-- The state of the task of a round after a decision. -/
def SignoffDecision.taskState : SignoffDecision → TaskState
  | .approved => .completed
  | .rejected => .rejected

/-- The unique indexes of the signoffs. -/
def FormalTables.SignoffFresh (formal : FormalTables) (signoff : FormalRoundSignoff) : Prop :=
  ∀ row ∈ formal.signoffs.rows, row.roundSignoffId ≠ signoff.roundSignoffId ∧
    row.signoffIntentId ≠ signoff.signoffIntentId ∧
    row.roundEvidenceBundleId ≠ signoff.roundEvidenceBundleId ∧
    row.inputDigest ≠ signoff.inputDigest ∧ row.idempotencyKey ≠ signoff.idempotencyKey ∧
    row.decisionArtifactHash ≠ signoff.decisionArtifactHash

instance (formal : FormalTables) (signoff : FormalRoundSignoff) :
    Decidable (formal.SignoffFresh signoff) := by
  unfold FormalTables.SignoffFresh
  infer_instance

/-- The signoff is the one that is there. -/
def FormalRoundSignoff.Same (existing signoff : FormalRoundSignoff) : Prop :=
  existing.roundSignoffId = signoff.roundSignoffId ∧
  existing.signoffIntentId = signoff.signoffIntentId ∧
  existing.roundEvidenceBundleId = signoff.roundEvidenceBundleId ∧
  existing.inputDigest = signoff.inputDigest ∧
  existing.decisionArtifactHash = signoff.decisionArtifactHash

instance (existing signoff : FormalRoundSignoff) : Decidable (existing.Same signoff) := by
  unfold FormalRoundSignoff.Same
  infer_instance

/-- The rows that a decision is committed with. -/
structure SignoffRows where
  round : SearchRound
  task : Task
  intent : FormalRoundSignoffIntent
  outbox : FormalRoundSignoffOutbox

/-- The commit of a decision that was not committed before. -/
def persistSignoff (rows : SignoffRows) (artifact : DecisionArtifact) :
    Transaction Store Error FormalRoundSignoff :=
  fun s => do
    require (rows.intent.state = .artifactPublished ∧ rows.outbox.state = .artifactPublished ∧
        rows.round.state = .awaitingSignoff ∧ rows.task.state = .awaitingSignoff ∧
        rows.round.automaticReleaseAllowed = false ∧ rows.task.automaticReleaseAllowed = false)
      (.conflict "Formal Round Signoff is not ready to finalize")
    let signoff := rows.intent.signoff artifact
    require (rows.round.runMode = .formal ∧ s.formal.SignoffFresh signoff)
      (.databaseError "formal_round_signoffs")
    let target ← transitionTask rows.task.state signoff.decision.taskState
    return (setTaskState rows.task.taskId target { s with
      formal := { s.formal with
        signoffs := s.formal.signoffs.insertIfAbsent signoff
        intents := s.formal.intents.update rows.intent.roundId
          (FormalRoundSignoffIntent.moveTo .finalized)
        outbox := s.formal.outbox.update rows.outbox.roundId FormalRoundSignoffOutbox.finalize }
      searchRounds := s.searchRounds.update rows.round.roundId
        (SearchRound.moveTo signoff.decision.roundState) }, signoff)

/-- `finalize_formal_round_signoff`. -/
def finalizeFormalRoundSignoff (env : FormalEnv)
    (publication : FormalRoundSignoffArtifactPublication) :
    Transaction Store Error FormalRoundSignoff :=
  fun s => do
    let intent ← requireRow (s.formal.intent? publication.signoffIntentId)
      s!"Formal Signoff Intent not found: {publication.signoffIntentId.text}"
    let round ← requireSome (s.searchRounds.find? intent.roundId)
      (.conflict "Formal Signoff lost Round, Task, Authority, or Outbox")
    let task ← requireSome (s.tasks.find? intent.taskId)
      (.conflict "Formal Signoff lost Round, Task, Authority, or Outbox")
    let _ ← requireSome (s.formal.context? intent.authorityContext.authorityContextId)
      (.conflict "Formal Signoff lost Round, Task, Authority, or Outbox")
    let outbox ← requireSome (s.formal.outbox? publication.signoffIntentId)
      (.conflict "Formal Signoff lost Round, Task, Authority, or Outbox")
    require (intent.state ∈ [SignoffIntentState.artifactPublished, .finalized] ∧
        outbox.state ∈ [SignoffOutboxState.artifactPublished, .finalized])
      (.conflict "Formal Signoff Artifact is not durably published")
    let artifact ← requireSome outbox.artifact
      (.conflict "Formal Signoff Artifact is not durably published")
    require (publication.toDecisionArtifact = artifact ∧
        publication.roundSignoffId = intent.roundSignoffId)
      (.conflict "Formal Signoff Finalizer received another Artifact identity")
    let verify ← requireSome env.signoffFinalizer
      (.conflict "Formal Round Signoff Finalizer is not configured")
    verifierVerdict (verify intent publication)
    match s.formal.signoffs.find? intent.roundId with
    | some existing => do
        require (existing.Same (intent.signoff artifact))
          (.conflict "Formal Round already has another durable Signoff")
        return (s, existing)
    | none => persistSignoff { round, task, intent, outbox } artifact s

/-! ## Recovery -/

/-- The next step of a signoff. -/
inductive SignoffAction where
  | notSignable | createIntent | publishArtifact | finalizeSignoff | complete | repairOutbox
  | manualReview
  deriving DecidableEq, Repr

/-- The action that the rows of a round stand for. -/
def FormalTables.nextAction (formal : FormalTables) (round : SearchRound) : SignoffAction :=
  if formal.signoffs.find? round.roundId ≠ none then .complete
  else
    match formal.intents.find? round.roundId, formal.outbox.find? round.roundId with
    | none, _ => if round.state = .awaitingSignoff then .createIntent else .notSignable
    | some intent, none => if intent.state = .failed then .manualReview else .repairOutbox
    | some intent, some outbox =>
        if intent.state = .failed then .manualReview
        else
          match outbox.state with
          | .pending => .publishArtifact
          | .artifactPublished => .finalizeSignoff
          | .finalized => .manualReview

/-- `reconcile_formal_round_signoff`. -/
def reconcileFormalRoundSignoff (roundId : Uuid) : Transaction Store Error SignoffAction :=
  fun s => do
    let round ← s.requireRound roundId
    return (s, s.formal.nextAction round)

end HcuAutoOpt
