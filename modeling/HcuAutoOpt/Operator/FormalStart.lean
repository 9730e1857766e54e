import Mathlib.Data.Finset.Card
import HcuAutoOpt.Storage.FormalStarts

/-!
# The coordinator of formal starts

`operator/formal_start.py`. A deployment opens a start intent for a request whose actor is
verified, and reconciles it: the preview of the intent is reread and revalidated, the two
authorities are loaded by their hashes, their signatures and bindings are verified, and the six
parties must be different. Each ending of this examination is one of three verdicts, and the
verdict is recorded on the intent.

The object store and the plan compiler are what the deployment supplies; a `FormalStartReading`
is what one reconciliation reads from them and from its clock. Every error that the compiler
raises is a `ValueError`.
-/

set_option autoImplicit false

namespace HcuAutoOpt

open Foundation

/-! ## Errors -/

/-- The errors of `operator/errors.py` that a formal start meets, and any other
`ValueError`. -/
inductive OperatorError where
  | profileNotFound (message : String)
  | profileRevoked (message : String)
  | profileModeMismatch (message : String)
  | formalAuthorizationInvalid (message : String)
  | formalAuthorizationNotActive (message : String)
  | planHashMismatch (message : String)
  | serviceIdentityMismatch (message : String)
  | previewExpired (message : String)
  | formalStartAuthenticationInvalid (message : String)
  | formalStartAuthorityInvalid (message : String)
  | valueError (message : String)
  deriving DecidableEq, Repr

/-- A call of the coordinator raises on its own account, or its repository does. -/
inductive FormalStartError where
  | operator (error : OperatorError)
  | repository (error : Error)
  deriving DecidableEq, Repr

/-- An error of the coordinator itself. -/
def raiseOperator {α : Type} : Except OperatorError α → Except FormalStartError α :=
  Except.mapError .operator

/-- An error of the repository, passed on. -/
def raiseRepository {α : Type} : Except Error α → Except FormalStartError α :=
  Except.mapError .repository

@[simp] theorem raiseOperator_eq_ok {α : Type} {result : Except OperatorError α} {value : α} :
    raiseOperator result = .ok value ↔ result = .ok value := by
  cases result <;> simp [raiseOperator, Except.mapError]

@[simp] theorem raiseRepository_eq_ok {α : Type} {result : Except Error α} {value : α} :
    raiseRepository result = .ok value ↔ result = .ok value := by
  cases result <;> simp [raiseRepository, Except.mapError]

/-! ## The deployment -/

/-- `DeploymentFormalStartSignatureVerifier`; a verifier that raises has no answer. -/
structure FormalStartVerifier where
  signerRef : FormalStartSignerRef
  verifySignature : String → String → Option Bool

/-- The three verifiers, all configured. -/
structure FormalStartVerifiers where
  actor : FormalStartVerifier
  execution : FormalStartVerifier
  evaluation : FormalStartVerifier

/-- The content hashes and derived identifiers of a formal start. -/
structure FormalStartDigests where
  /-- `formal_start_request_subject_digest`. -/
  requestSubject : FormalStartIntentRequest → String
  /-- `formal_start_action_subject_digest`. -/
  actionSubject : FormalStartAction → Uuid → String
  /-- `formal_operator_resolved_plan_hash`. -/
  resolvedPlan : FormalResolvedRoundPlan → String
  /-- `formal_start_content_hash` of a candidate. -/
  candidate : ResolvedOperatorCandidate → String
  /-- `derive_formal_start_ids`: the intent, the task and the round of a key. -/
  startIds : String → Uuid × Uuid × Uuid
  /-- `uuid5` of the round and the text of a candidate binding. -/
  roundCandidateId : Uuid → String → Uuid

/-- `FormalStartCoordinator`. -/
structure FormalStartCoordinator where
  serviceIdentity : OperatorServiceIdentity
  digests : FormalStartDigests
  actorVerifier : Option FormalStartVerifier
  executionVerifier : Option FormalStartVerifier
  evaluationVerifier : Option FormalStartVerifier

/-- What the object store answers for the hash of an authority: the validated object, nothing
(`NotFound` or an `OSError`), or an object that does not load or validate. -/
inductive LoadedAuthority (α : Type) where
  | found (authority : α)
  | unavailable
  | malformed
  deriving DecidableEq, Repr

/-- What one reconciliation reads. -/
structure FormalStartReading where
  now : Int
  /-- The validated preview, or nothing when loading or validating it raises. -/
  loadPreview : Uuid → Option FormalRoundPlanPreview
  /-- `compiler.revalidate` with the round that the candidates may already belong to. -/
  revalidate : FormalRoundPlanPreview → Uuid → Except OperatorError FormalRoundPlanPreview
  loadExecutionAuthority : String → LoadedAuthority FormalExecutionStartAuthority
  loadEvaluationAuthority : String → LoadedAuthority FormalEvaluationStartAuthority

/-- `_require_verifiers`. -/
def FormalStartCoordinator.requireVerifiers (c : FormalStartCoordinator) :
    Except OperatorError FormalStartVerifiers :=
  match c.actorVerifier, c.executionVerifier, c.evaluationVerifier with
  | some actor, some execution, some evaluation => .ok ⟨actor, execution, evaluation⟩
  | _, _, _ => .error (.formalStartAuthorityInvalid
      "Formal Start production authentication and authority verifiers are required")

/-! ## Signatures -/

/-- `_verify_signed`. -/
def FormalStartVerifier.verifySigned (verifier : FormalStartVerifier) (label : String)
    (signer : FormalStartSignerRef) (contentHash signature : String) :
    Except OperatorError Unit := do
  require (verifier.signerRef = signer)
    (.formalStartAuthorityInvalid s!"Formal {label} signer identity drifted")
  let valid ← requireSome (verifier.verifySignature contentHash signature)
    (.formalStartAuthorityInvalid s!"Formal {label} signature verifier failed closed")
  require (valid = true)
    (.formalStartAuthorityInvalid s!"Formal {label} signature was rejected")

/-- The verifier is the signer's and accepts the signature of the hash. -/
def FormalStartVerifier.Accepts (verifier : FormalStartVerifier)
    (signer : FormalStartSignerRef) (contentHash signature : String) : Prop :=
  verifier.signerRef = signer ∧ verifier.verifySignature contentHash signature = some true

theorem FormalStartVerifier.verifySigned_eq_ok {verifier : FormalStartVerifier} {label : String}
    {signer : FormalStartSignerRef} {contentHash signature : String} {u : Unit} :
    verifier.verifySigned label signer contentHash signature = .ok u ↔
      verifier.Accepts signer contentHash signature := by
  unfold FormalStartVerifier.verifySigned FormalStartVerifier.Accepts
  simp only [Except.bind_eq_ok, require_eq_ok, requireSome_eq_ok]
  constructor
  · rintro ⟨_, sameSigner, valid, answered, accepted⟩
    exact ⟨sameSigner, accepted ▸ answered⟩
  · rintro ⟨sameSigner, answered⟩
    exact ⟨(), sameSigner, true, answered, rfl⟩

/-- `_verify_actor`. -/
def FormalStartVerifiers.verifyActor (verifiers : FormalStartVerifiers)
    (assertion : FormalStartActorAssertion) (action : FormalStartAction)
    (subjectDigest : String) (now : Int) : Except OperatorError Unit := do
  require (assertion.action = action ∧ assertion.subjectDigest = subjectDigest ∧
      assertion.issuedAt ≤ now ∧ now < assertion.expiresAt)
    (.formalStartAuthenticationInvalid "Formal Start actor assertion is invalid or expired")
  match verifiers.actor.verifySigned "actor" assertion.signer assertion.assertionHash
      assertion.signature with
  | .ok _ => .ok ()
  | .error _ => .error (.formalStartAuthenticationInvalid
      "Formal Start actor assertion verification failed closed")

/-- `_require_intent_actor`. -/
def requireIntentActor (intent : FormalStartIdentity) (assertion : FormalStartActorAssertion) :
    Except OperatorError Unit :=
  require (assertion.actorId = intent.actorId ∧
      assertion.signer.signerId = intent.actorSignerId ∧
      assertion.signer.signerHash = intent.actorSignerHash)
    (.formalStartAuthenticationInvalid "Formal Start action actor does not own this Intent")

/-! ## The preview -/

/-- The plan is complete and not synthetic. -/
def FormalResolvedRoundPlan.Complete (plan : FormalResolvedRoundPlan) : Prop :=
  plan.synthetic = false ∧ plan.automaticReleaseAllowed = false ∧
  plan.adapterProfile.isSome = true ∧ plan.hotspotId.isSome = true ∧
  plan.candidateFamilyId.isSome = true ∧ plan.sourceFamilyHash.isSome = true ∧
  plan.candidates ≠ [] ∧ plan.candidateInputSetHash.isSome = true

instance (plan : FormalResolvedRoundPlan) : Decidable plan.Complete :=
  inferInstanceAs (Decidable (_ ∧ _))

/-- The preview, its plan and its authorization are those of the given hashes. -/
def FormalRoundPlanPreview.BoundTo (preview : FormalRoundPlanPreview)
    (digests : FormalStartDigests) (previewId : Uuid)
    (resolvedPlanHash formalAuthorizationHash : String) : Prop :=
  preview.previewId = previewId ∧ preview.resolvedPlanHash = resolvedPlanHash ∧
  preview.resolvedPlan.formalAuthorizationHash = formalAuthorizationHash ∧
  preview.formalAuthorization.authorizationHash = formalAuthorizationHash ∧
  digests.resolvedPlan preview.resolvedPlan = resolvedPlanHash

instance FormalRoundPlanPreview.decidableBoundTo (preview : FormalRoundPlanPreview)
    (digests : FormalStartDigests) (previewId : Uuid)
    (resolvedPlanHash formalAuthorizationHash : String) :
    Decidable (preview.BoundTo digests previewId resolvedPlanHash formalAuthorizationHash) :=
  inferInstanceAs (Decidable (_ ∧ _))

namespace FormalStartCoordinator

variable (c : FormalStartCoordinator)

/-- `_validate_complete_preview`. -/
def validateCompletePreview (preview : FormalRoundPlanPreview) (now : Int) :
    Except OperatorError Unit := do
  require (preview.serviceIdentity = c.serviceIdentity)
    (.serviceIdentityMismatch "Formal Start Preview belongs to another service deployment")
  require (now < preview.expiresAt)
    (.previewExpired "Formal Start Preview has expired")
  require preview.resolvedPlan.Complete
    (.planHashMismatch "Formal Start requires a complete non-synthetic resolved Plan")

/-- `_validate_preview` and `_validate_intent_preview`, which differ in what they compare with
and in a message. -/
def validateBoundPreview (preview : FormalRoundPlanPreview) (previewId : Uuid)
    (resolvedPlanHash formalAuthorizationHash : String) (message : String) (now : Int) :
    Except OperatorError Unit := do
  require (preview.BoundTo c.digests previewId resolvedPlanHash formalAuthorizationHash)
    (.planHashMismatch message)
  c.validateCompletePreview preview now

/-- `_validate_preview`. -/
def validatePreview (request : FormalStartIntentRequest) (preview : FormalRoundPlanPreview)
    (now : Int) : Except OperatorError Unit :=
  c.validateBoundPreview preview request.previewId request.resolvedPlanHash
    request.formalAuthorizationHash "Formal Start Preview bindings differ" now

/-- `_validate_intent_preview`. -/
def validateIntentPreview (intent : FormalStartIdentity) (preview : FormalRoundPlanPreview)
    (now : Int) : Except OperatorError Unit :=
  c.validateBoundPreview preview intent.previewId intent.resolvedPlanHash
    intent.formalAuthorizationHash "Formal StartIntent Preview bindings differ" now

/-! ## Creation -/

/-- The bindings of the candidates of a plan to the members of a round. -/
def bindings (roundId : Uuid) (candidates : List ResolvedOperatorCandidate) :
    List FormalStartCandidateBinding :=
  candidates.map fun candidate =>
    { ordinal := candidate.ordinal
      candidateId := candidate.candidateId
      roundCandidateId := c.digests.roundCandidateId roundId
        s!"{candidate.ordinal}:{candidate.candidateId}:{c.digests.candidate candidate}"
      candidateInputDigest := c.digests.candidate candidate }

/-- `_build_intent`. -/
def buildIntent (request : FormalStartIntentRequest) (preview : FormalRoundPlanPreview)
    (now : Int) : FormalStartIntent :=
  let (intentId, taskId, roundId) := c.digests.startIds request.idempotencyKey
  { intentId := intentId
    previewId := request.previewId
    resolvedPlanHash := request.resolvedPlanHash
    formalAuthorizationHash := request.formalAuthorizationHash
    executionAuthorityHash := request.executionAuthorityHash
    evaluationAuthorityHash := request.evaluationAuthorityHash
    requestDigest := c.digests.requestSubject request
    actorId := request.actorAssertion.actorId
    actorAssertionHash := request.actorAssertion.assertionHash
    actorSignerId := request.actorAssertion.signer.signerId
    actorSignerHash := request.actorAssertion.signer.signerHash
    idempotencyKey := request.idempotencyKey
    taskId := taskId
    roundId := roundId
    candidateBindings := c.bindings roundId preview.resolvedPlan.candidates
    serviceIdentity := c.serviceIdentity
    state := .awaitingAuthority
    blockerCodes := ["formal_evaluation_start_authority_unavailable",
      "formal_execution_start_authority_unavailable"]
    createdAt := now
    updatedAt := now }

/-- What `create` does before it writes: the actor, the deployment and the preview are checked
and the intent is built. -/
def acceptCreate (request : FormalStartIntentRequest) (preview : FormalRoundPlanPreview)
    (now : Int) : Except FormalStartError FormalStartIntentView := do
  let verifiers ← raiseOperator c.requireVerifiers
  raiseOperator (verifiers.verifyActor request.actorAssertion .create
    (c.digests.requestSubject request) now)
  raiseOperator (require (request.expectedServiceIdentity = c.serviceIdentity)
    (.serviceIdentityMismatch "Formal Start request targets another service deployment"))
  raiseOperator (c.validatePreview request preview now)
  raiseRepository (formalStartIntent (c.buildIntent request preview now))

/-! ## The actor of an intent -/

/-- `_require_local_intent`. -/
def requireLocalIntent (intent : FormalStartIdentity) : Except OperatorError Unit :=
  require (intent.serviceIdentity = c.serviceIdentity)
    (.serviceIdentityMismatch "Formal StartIntent belongs to another service deployment")

/-- What `cancel` does before it writes, with the intent it has read. -/
def acceptCancel (request : FormalStartIntentActionRequest) (intent : FormalStartIntentView)
    (now : Int) : Except OperatorError Unit := do
  require (request.action = .cancel)
    (.formalStartAuthenticationInvalid "Formal Start cancel requires a cancel assertion")
  let verifiers ← c.requireVerifiers
  verifiers.verifyActor request.actorAssertion .cancel
    (c.digests.actionSubject .cancel request.intentId) now
  c.requireLocalIntent intent.val.toFormalStartIdentity
  requireIntentActor intent.val.toFormalStartIdentity request.actorAssertion

end FormalStartCoordinator

/-! ## Authorities -/

/-- The authority is for the intent and for the execution that the plan resolves. -/
def FormalExecutionStartAuthority.Binds (authority : FormalExecutionStartAuthority)
    (intent : FormalStartIdentity) (plan : FormalResolvedRoundPlan) : Prop :=
  authority.authorityHash = intent.executionAuthorityHash ∧
  authority.intentId = intent.intentId ∧ authority.previewId = intent.previewId ∧
  authority.taskId = intent.taskId ∧ authority.roundId = intent.roundId ∧
  authority.formalAuthorizationHash = intent.formalAuthorizationHash ∧
  authority.resolvedPlanHash = intent.resolvedPlanHash ∧
  some authority.candidateFamilyHash = plan.sourceFamilyHash ∧
  some authority.adapterProfileId = plan.adapterProfile ∧
  authority.hostId = plan.authorizedHostId ∧ authority.resourceId = plan.authorizedResourceId ∧
  authority.windowStartsAt = plan.authorizationWindowStartsAt ∧
  authority.windowExpiresAt = plan.authorizationWindowExpiresAt ∧
  authority.budget = plan.budget

instance FormalExecutionStartAuthority.decidableBinds
    (authority : FormalExecutionStartAuthority) (intent : FormalStartIdentity)
    (plan : FormalResolvedRoundPlan) : Decidable (authority.Binds intent plan) :=
  inferInstanceAs (Decidable (_ ∧ _))

/-- The authority is issued, inside its window and not expired. -/
def FormalExecutionStartAuthority.InForce (authority : FormalExecutionStartAuthority)
    (now : Int) : Prop :=
  authority.issuedAt ≤ now ∧
  (authority.windowStartsAt ≤ now ∧ now < authority.windowExpiresAt) ∧ now < authority.expiresAt

instance (authority : FormalExecutionStartAuthority) (now : Int) :
    Decidable (authority.InForce now) :=
  inferInstanceAs (Decidable (_ ∧ _))

/-- The authority is for the intent and for the evaluation that the plan resolves. -/
def FormalEvaluationStartAuthority.Binds (authority : FormalEvaluationStartAuthority)
    (intent : FormalStartIdentity) (plan : FormalResolvedRoundPlan) : Prop :=
  authority.authorityHash = intent.evaluationAuthorityHash ∧
  authority.intentId = intent.intentId ∧ authority.previewId = intent.previewId ∧
  authority.taskId = intent.taskId ∧ authority.roundId = intent.roundId ∧
  authority.formalAuthorizationHash = intent.formalAuthorizationHash ∧
  authority.resolvedPlanHash = intent.resolvedPlanHash ∧
  some authority.candidateFamilyHash = plan.sourceFamilyHash ∧
  authority.selectionRuleHash = plan.selectionRuleHash

instance FormalEvaluationStartAuthority.decidableBinds
    (authority : FormalEvaluationStartAuthority) (intent : FormalStartIdentity)
    (plan : FormalResolvedRoundPlan) : Decidable (authority.Binds intent plan) :=
  inferInstanceAs (Decidable (_ ∧ _))

/-- The authority is issued and not expired. -/
def FormalEvaluationStartAuthority.InForce (authority : FormalEvaluationStartAuthority)
    (now : Int) : Prop :=
  authority.issuedAt ≤ now ∧ now < authority.expiresAt

instance (authority : FormalEvaluationStartAuthority) (now : Int) :
    Decidable (authority.InForce now) :=
  inferInstanceAs (Decidable (_ ∧ _))

namespace FormalStartVerifiers

variable (verifiers : FormalStartVerifiers)

/-- `_verify_execution_authority`. -/
def verifyExecutionAuthority (intent : FormalStartIdentity) (preview : FormalRoundPlanPreview)
    (authority : FormalExecutionStartAuthority) (now : Int) : Except OperatorError Unit := do
  verifiers.execution.verifySigned "execution" authority.signer authority.authorityHash
    authority.signature
  require (authority.decision = .authorized ∧ authority.Binds intent preview.resolvedPlan ∧
      authority.InForce now)
    (.formalStartAuthorityInvalid
      "B execution Start Authority does not bind this Plan and window")

/-- `_verify_evaluation_authority`. -/
def verifyEvaluationAuthority (intent : FormalStartIdentity) (preview : FormalRoundPlanPreview)
    (authority : FormalEvaluationStartAuthority) (now : Int) : Except OperatorError Unit := do
  verifiers.evaluation.verifySigned "evaluation" authority.signer authority.authorityHash
    authority.signature
  require (authority.decision = .authorized ∧ authority.Binds intent preview.resolvedPlan ∧
      authority.InForce now)
    (.formalStartAuthorityInvalid "D evaluation Start Authority does not bind this Plan")

end FormalStartVerifiers

/-- The identifiers of the six parties to a formal start. -/
def startPartyIds (intent : FormalStartIdentity) (execution : FormalExecutionStartAuthority)
    (evaluation : FormalEvaluationStartAuthority) (preview : FormalRoundPlanPreview) :
    List String :=
  [intent.actorSignerId, execution.signer.signerId, evaluation.signer.signerId,
    evaluation.holdoutPlanAuthorityId, evaluation.independentVerifier.verifierId,
    preview.formalAuthorization.verifier.verifierId]

/-- The hashes of the six parties to a formal start. -/
def startPartyHashes (intent : FormalStartIdentity) (execution : FormalExecutionStartAuthority)
    (evaluation : FormalEvaluationStartAuthority) (preview : FormalRoundPlanPreview) :
    List String :=
  [intent.actorSignerHash, execution.signer.signerHash, evaluation.signer.signerHash,
    evaluation.holdoutPlanAuthorityHash, evaluation.independentVerifier.identityHash,
    preview.formalAuthorization.verifier.verifierHash]

/-- `_require_authority_role_separation`. -/
def requireAuthorityRoleSeparation (intent : FormalStartIdentity)
    (execution : FormalExecutionStartAuthority) (evaluation : FormalEvaluationStartAuthority)
    (preview : FormalRoundPlanPreview) : Except OperatorError Unit :=
  require ((startPartyIds intent execution evaluation preview).toFinset.card = 6 ∧
      (startPartyHashes intent execution evaluation preview).toFinset.card = 6)
    (.formalStartAuthorityInvalid
      "Formal Start actor, owner, B, Holdout, D signer, and verifier must be separate")

/-! ## Reconciliation -/

/-- The three outcomes of an examination. -/
inductive FormalStartVerdict where
  | awaiting (blockerCodes : List String)
  | ready
  | failed (errorCode errorMessage : String)
  deriving DecidableEq, Repr

/-- The blocking checks of a preview other than the missing authorities. -/
def FormalRoundPlanPreview.nonStartBlocks (preview : FormalRoundPlanPreview) : List String :=
  ((preview.checks.filter fun item =>
    decide (item.status = .block ∧ item.code ≠ "formal_start_authority_not_bound")).map
    PreflightCheckResult.code).insertionSort (· ≤ ·)

/-- A loaded authority, nothing when it is unavailable, an error when it is malformed. -/
def LoadedAuthority.read {α : Type} (message : String) :
    LoadedAuthority α → Except OperatorError (Option α)
  | .found authority => .ok (some authority)
  | .unavailable => .ok none
  | .malformed => .error (.formalStartAuthorityInvalid message)

/-- The blocker codes of the authorities that are missing. -/
def missingAuthorities {α β : Type} (execution : Option α) (evaluation : Option β) :
    List String :=
  ((if execution.isNone then ["formal_execution_start_authority_unavailable"] else []) ++
    if evaluation.isNone then ["formal_evaluation_start_authority_unavailable"]
    else []).insertionSort (· ≤ ·)

namespace FormalStartCoordinator

variable (c : FormalStartCoordinator)

/-- The guarded part of `_reconcile`. -/
def examine (verifiers : FormalStartVerifiers) (reading : FormalStartReading)
    (intent : FormalStartIdentity) : Except OperatorError FormalStartVerdict := do
  let preview ← requireSome (reading.loadPreview intent.previewId)
    (.planHashMismatch "Formal Start could not reread its deployment-owned Preview")
  c.validateIntentPreview intent preview reading.now
  let revalidated ← reading.revalidate preview intent.roundId
  require (revalidated.resolvedPlanHash = intent.resolvedPlanHash)
    (.planHashMismatch "Formal Start Plan Authority drifted during revalidation")
  if revalidated.nonStartBlocks ≠ [] then
    return .awaiting revalidated.nonStartBlocks
  else
    let execution ← (reading.loadExecutionAuthority intent.executionAuthorityHash).read
      "B execution Start Authority is malformed"
    let evaluation ← (reading.loadEvaluationAuthority intent.evaluationAuthorityHash).read
      "D evaluation Start Authority is malformed"
    match execution, evaluation with
    | some execution, some evaluation => do
        verifiers.verifyExecutionAuthority intent preview execution reading.now
        verifiers.verifyEvaluationAuthority intent preview evaluation reading.now
        requireAuthorityRoleSeparation intent execution evaluation preview
        return .ready
    | execution, evaluation => return .awaiting (missingAuthorities execution evaluation)

/-- The `except` clauses of `_reconcile`: an error of the examination is a verdict. -/
def settle : Except OperatorError FormalStartVerdict → FormalStartVerdict
  | .ok verdict => verdict
  | .error (.formalAuthorizationNotActive _) | .error (.profileNotFound _) =>
      .awaiting ["formal_operator_authority_revalidation_failed"]
  | .error (.formalStartAuthorityInvalid _) =>
      .failed "formal_start_authority_invalid"
        "Formal Start Authority verification failed closed."
  | .error _ =>
      .failed "formal_start_plan_invalid" "Formal Start Plan or window is no longer valid."

/-- The verdict of a reconciliation. -/
def verdict (verifiers : FormalStartVerifiers) (reading : FormalStartReading)
    (intent : FormalStartIdentity) : FormalStartVerdict :=
  settle (c.examine verifiers reading intent)

end FormalStartCoordinator

/-- The arguments that a verdict is recorded with. -/
def FormalStartVerdict.outcome (checkedAt : Int) : FormalStartVerdict → FormalStartReconciliation
  | .awaiting blockerCodes =>
      { state := .awaitingAuthority, blockerCodes := blockerCodes, checkedAt := checkedAt }
  | .ready => { state := .readyForRoundCreation, checkedAt := checkedAt }
  | .failed errorCode errorMessage =>
      { state := .failed, checkedAt := checkedAt, errorCode := some errorCode,
        errorMessage := some errorMessage }

namespace FormalStartCoordinator

variable (c : FormalStartCoordinator)

/-- The arguments that a reconciliation records on an intent. -/
def outcome (verifiers : FormalStartVerifiers) (reading : FormalStartReading)
    (intent : FormalStartIdentity) : FormalStartReconciliation :=
  (c.verdict verifiers reading intent).outcome reading.now

/-- The first part of `_reconcile`: the intent is read, and belongs to the deployment. -/
def readLocal (s : Store) (intentId : Uuid) : Except FormalStartError FormalStartIntentView := do
  let intent ← raiseRepository (getFormalStartIntent s intentId)
  raiseOperator (c.requireLocalIntent intent.val.toFormalStartIdentity)
  return intent

/-- `_reconcile`, with the store it leaves. A settled intent is returned as it is. A recorded
row that is no view can only be a row that was cancelled meanwhile, on which the guarded part
would record once more in vain; the error is passed on at once here. -/
def reconcile (verifiers : FormalStartVerifiers) (reading : FormalStartReading)
    (intentId : Uuid) (s : Store) : Store × Except FormalStartError FormalStartIntentView :=
  match c.readLocal s intentId with
  | .error e => (s, .error e)
  | .ok intent =>
      if intent.val.state.Settled then (s, .ok intent)
      else
        match commit (recordFormalStartReconciliation intentId
            (c.outcome verifiers reading intent.val.toFormalStartIdentity)) s with
        | (t, .error e) => (t, .error (.repository e))
        | (t, .ok row) => (t, raiseRepository (formalStartIntent row))

/-- Reconcile intents in turn; the first error ends the recovery. -/
def reconcileEach (verifiers : FormalStartVerifiers) (readings : Uuid → FormalStartReading) :
    List Uuid → Store → Store × Except FormalStartError (List FormalStartIntentView)
  | [], s => (s, .ok [])
  | intentId :: rest, s =>
      match c.reconcile verifiers (readings intentId) intentId s with
      | (t, .error e) => (t, .error e)
      | (t, .ok view) =>
          let (u, views) := reconcileEach verifiers readings rest t
          (u, views.map (view :: ·))

/-- `recover`, with what it reads for each intent and the store it leaves. -/
def recover (readings : Uuid → FormalStartReading) (limit : Int) (s : Store) :
    Store × Except FormalStartError (List FormalStartIntentView) :=
  match c.requireVerifiers with
  | .error e => (s, .error (.operator e))
  | .ok verifiers =>
      match listRecoverableFormalStartIntentIds s limit with
      | .error e => (s, .error (.repository e))
      | .ok intentIds => c.reconcileEach verifiers readings intentIds s

end FormalStartCoordinator

end HcuAutoOpt
