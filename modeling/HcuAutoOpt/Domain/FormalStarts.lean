import Mathlib.Data.String.Basic
import HcuAutoOpt.Domain.SearchRounds

/-!
# The contracts of a formal start

The models of `contracts/m2_formal_start_v1.py`, with the parts of
`contracts/m2_formal_operator_v1.py` that a formal start reads. An operator asks to start
the formal round of a plan preview; the request is a start intent, and the intent waits for
two authorities, one for the execution and one for the evaluation, before it is ready.

A model that was validated carries its validator as a field. The content hashes of the
models, and the literal fields of the authorities, are not kept: nothing compares them.
Times are microseconds.
-/

set_option autoImplicit false

namespace HcuAutoOpt

open Foundation

/-! ## Identities -/

/-- `OperatorServiceIdentity`. -/
structure OperatorServiceIdentity where
  sourceCommit : String
  controlContractVersion : String
  profileCatalogHash : String
  serverInstanceId : Uuid
  deriving DecidableEq, Repr

/-- `FormalStartSignerRef`. -/
structure FormalStartSignerRef where
  signerId : String
  signerVersion : String
  signerHash : String
  signatureScheme : String
  keyId : String
  deriving DecidableEq, Repr

/-- The `action` of an actor assertion. -/
inductive FormalStartAction where
  | create | reconcile | cancel
  deriving DecidableEq, Repr

/-- `FormalStartActorAssertion`. -/
structure FormalStartActorAssertion where
  actorId : String
  action : FormalStartAction
  subjectDigest : String
  issuedAt : Int
  expiresAt : Int
  signer : FormalStartSignerRef
  assertionHash : String
  signature : String
  bounded : issuedAt < expiresAt
  deriving DecidableEq, Repr

/-! ## Authorities -/

/-- The `decision` of an authority. -/
inductive StartAuthorityDecision where
  | authorized | rejected
  deriving DecidableEq, Repr

/-- `FormalExecutionStartAuthority`. -/
structure FormalExecutionStartAuthority where
  intentId : Uuid
  previewId : Uuid
  taskId : Uuid
  roundId : Uuid
  decision : StartAuthorityDecision
  formalAuthorizationHash : String
  resolvedPlanHash : String
  candidateFamilyHash : String
  adapterProfileId : String
  hostId : String
  resourceId : String
  windowStartsAt : Int
  windowExpiresAt : Int
  budget : RoundBudget
  issuedAt : Int
  expiresAt : Int
  signer : FormalStartSignerRef
  authorityHash : String
  signature : String
  bounded : windowStartsAt ≤ issuedAt ∧ issuedAt < windowExpiresAt ∧ windowExpiresAt ≤ expiresAt
  deriving DecidableEq, Repr

/-- `FormalEvidenceVerifierIdentity`, as far as a formal start reads it. -/
structure FormalEvidenceVerifierIdentity where
  verifierId : String
  identityHash : String
  deriving DecidableEq, Repr

/-- `FormalEvaluationStartAuthority`. -/
structure FormalEvaluationStartAuthority where
  intentId : Uuid
  previewId : Uuid
  taskId : Uuid
  roundId : Uuid
  decision : StartAuthorityDecision
  formalAuthorizationHash : String
  resolvedPlanHash : String
  candidateFamilyHash : String
  holdoutPlanAuthorityId : String
  holdoutPlanAuthorityHash : String
  selectionRuleHash : String
  independentVerifier : FormalEvidenceVerifierIdentity
  issuedAt : Int
  expiresAt : Int
  signer : FormalStartSignerRef
  authorityHash : String
  signature : String
  bounded : issuedAt < expiresAt
  separateIds :
    [holdoutPlanAuthorityId, independentVerifier.verifierId, signer.signerId].Nodup
  separateHashes :
    [holdoutPlanAuthorityHash, independentVerifier.identityHash, signer.signerHash].Nodup
  deriving DecidableEq, Repr

/-! ## The preview -/

/-- The `status` of a preflight check. -/
inductive PreflightStatus where
  | pass | warn | block
  deriving DecidableEq, Repr

/-- `PreflightCheckResult`, as far as a formal start reads it. -/
structure PreflightCheckResult where
  code : String
  status : PreflightStatus
  deriving DecidableEq, Repr

/-- `ResolvedOperatorCandidate`, as far as a formal start reads it. -/
structure ResolvedOperatorCandidate where
  ordinal : Nat
  candidateId : Uuid
  /-- The remaining fields, which only the content hash reads. -/
  content : Json.Object := []
  deriving DecidableEq

/-- `FormalResolvedRoundPlan`. The authority and the hotspot count for a formal start by their
presence, and the authority by its adapter profile. -/
structure FormalResolvedRoundPlan where
  adapterProfile : Option String
  hotspotId : Option Uuid
  candidates : List ResolvedOperatorCandidate
  candidateInputSetHash : Option String
  selectionRuleHash : String
  budget : RoundBudget
  synthetic : Bool := false
  automaticReleaseAllowed : Bool := false
  formalAuthorizationHash : String
  authorizedHostId : String
  authorizedResourceId : String
  authorizationWindowStartsAt : Int
  authorizationWindowExpiresAt : Int
  candidateFamilyId : Option String
  sourceFamilyHash : Option String
  deriving DecidableEq

/-- `FormalProfileGrantVerifierRef`, as far as a formal start reads it. -/
structure FormalProfileGrantVerifierRef where
  verifierId : String
  verifierHash : String
  deriving DecidableEq, Repr

/-- `FormalProfileWindowAuthorization`, as far as a formal start reads it. -/
structure FormalProfileWindowAuthorization where
  authorizationHash : String
  verifier : FormalProfileGrantVerifierRef
  deriving DecidableEq, Repr

/-- `FormalRoundPlanPreviewView`. -/
structure FormalRoundPlanPreview where
  previewId : Uuid
  resolvedPlanHash : String
  resolvedPlan : FormalResolvedRoundPlan
  checks : List PreflightCheckResult
  expiresAt : Int
  serviceIdentity : OperatorServiceIdentity
  formalAuthorization : FormalProfileWindowAuthorization
  codesUnique : (checks.map PreflightCheckResult.code).Nodup
  deriving DecidableEq

/-! ## Requests -/

/-- `FormalStartIntentRequest`. -/
structure FormalStartIntentRequest where
  previewId : Uuid
  resolvedPlanHash : String
  formalAuthorizationHash : String
  executionAuthorityHash : String
  evaluationAuthorityHash : String
  idempotencyKey : String
  expectedServiceIdentity : OperatorServiceIdentity
  actorAssertion : FormalStartActorAssertion
  deriving DecidableEq, Repr

/-- `FormalStartIntentActionRequest`; its assertion is for the same action. -/
structure FormalStartIntentActionRequest where
  intentId : Uuid
  action : FormalStartAction
  actorAssertion : FormalStartActorAssertion
  matching : actorAssertion.action = action
  deriving DecidableEq, Repr

/-! ## The intent -/

/-- `FormalStartCandidateBinding`. -/
structure FormalStartCandidateBinding where
  ordinal : Nat
  candidateId : Uuid
  roundCandidateId : Uuid
  candidateInputDigest : String
  deriving DecidableEq, Repr

/-- What the creation of a start intent fixes, and its replay compares. -/
structure FormalStartIdentity where
  intentId : Uuid
  previewId : Uuid
  resolvedPlanHash : String
  formalAuthorizationHash : String
  executionAuthorityHash : String
  evaluationAuthorityHash : String
  requestDigest : String
  actorId : String
  actorAssertionHash : String
  actorSignerId : String
  actorSignerHash : String
  idempotencyKey : String
  taskId : Uuid
  roundId : Uuid
  candidateBindings : List FormalStartCandidateBinding
  serviceIdentity : OperatorServiceIdentity
  deriving DecidableEq, Repr

/-- The states of a formal start intent. -/
inductive FormalStartState where
  | awaitingAuthority | readyForRoundCreation | cancelled | failed
  deriving DecidableEq, Repr

namespace FormalStartState

/-- A cancelled or failed intent is never reconciled. -/
def Settled (state : FormalStartState) : Prop := state = .cancelled ∨ state = .failed

instance : DecidablePred Settled := fun _ => inferInstanceAs (Decidable (_ ∨ _))

/-- Recovery reconciles the intents in these states. -/
def Recoverable (state : FormalStartState) : Prop :=
  state = .awaitingAuthority ∨ state = .readyForRoundCreation

instance : DecidablePred Recoverable := fun _ => inferInstanceAs (Decidable (_ ∨ _))

theorem recoverable_iff {state : FormalStartState} : state.Recoverable ↔ ¬ state.Settled := by
  cases state <;> simp [Recoverable, Settled]

end FormalStartState

/-- A row of `formal_operator_start_intents`. -/
structure FormalStartIntent extends FormalStartIdentity where
  state : FormalStartState
  blockerCodes : List String
  errorCode : Option String := none
  errorMessage : Option String := none
  authorityReconcileCount : Nat := 0
  version : Nat := 1
  createdAt : Int
  updatedAt : Int
  lastReconciledAt : Option Int := none
  readyAt : Option Int := none
  cancelledAt : Option Int := none
  authorityReady : Bool := false
  roundCreationAllowed : Bool := false
  hcuAccessed : Bool := false
  synthetic : Bool := false
  automaticReleaseAllowed : Bool := false
  deriving DecidableEq, Repr

instance : Keyed FormalStartIntent Uuid := ⟨fun row => row.intentId⟩

/-- Blocker codes are canonical when they are sorted and unique. -/
def CanonicalCodes (codes : List String) : Prop := codes.Pairwise (· < ·)

instance : DecidablePred CanonicalCodes := fun codes =>
  inferInstanceAs (Decidable (codes.Pairwise (· < ·)))

namespace FormalStartIntent

/-- The intent allows no execution. -/
def NonExecuting (intent : FormalStartIntent) : Prop :=
  intent.roundCreationAllowed = false ∧ intent.hcuAccessed = false ∧
  intent.synthetic = false ∧ intent.automaticReleaseAllowed = false

instance : DecidablePred NonExecuting := fun _ =>
  inferInstanceAs (Decidable (_ ∧ _))

/-- The columns that follow the state, as both the table and the contract require them. -/
structure StateColumns (intent : FormalStartIntent) : Prop where
  authority : intent.authorityReady = true ↔ intent.state = .readyForRoundCreation
  blockers : intent.blockerCodes ≠ [] ↔ intent.state = .awaitingAuthority
  ready : intent.readyAt.isSome = true ↔ intent.state = .readyForRoundCreation
  errors : intent.errorCode.isSome = intent.errorMessage.isSome
  failed : intent.errorCode.isSome = true ↔ intent.state = .failed
  cancelled : intent.cancelledAt.isSome = true ↔ intent.state = .cancelled

instance (intent : FormalStartIntent) : Decidable intent.StateColumns :=
  decidable_of_iff
    ((intent.authorityReady = true ↔ intent.state = .readyForRoundCreation) ∧
      (intent.blockerCodes ≠ [] ↔ intent.state = .awaitingAuthority) ∧
      (intent.readyAt.isSome = true ↔ intent.state = .readyForRoundCreation) ∧
      intent.errorCode.isSome = intent.errorMessage.isSome ∧
      (intent.errorCode.isSome = true ↔ intent.state = .failed) ∧
      (intent.cancelledAt.isSome = true ↔ intent.state = .cancelled))
    ⟨fun ⟨authority, blockers, ready, errors, failed, cancelled⟩ =>
      ⟨authority, blockers, ready, errors, failed, cancelled⟩,
      fun ⟨authority, blockers, ready, errors, failed, cancelled⟩ =>
        ⟨authority, blockers, ready, errors, failed, cancelled⟩⟩

/-- The times other than the creation and the last update. -/
def eventTimes (intent : FormalStartIntent) : List Int :=
  intent.lastReconciledAt.toList ++ intent.readyAt.toList ++ intent.cancelledAt.toList

/-- The `CHECK` constraints of the table. -/
structure Checked (intent : FormalStartIntent) : Prop where
  bindings : 2 ≤ intent.candidateBindings.length ∧ intent.candidateBindings.length ≤ 4
  columns : intent.StateColumns
  nonExecuting : intent.NonExecuting
  version : 1 ≤ intent.version
  updated : intent.createdAt ≤ intent.updatedAt
  times : ∀ time ∈ intent.eventTimes, intent.createdAt ≤ time

instance (intent : FormalStartIntent) : Decidable intent.Checked :=
  decidable_of_iff
    ((2 ≤ intent.candidateBindings.length ∧ intent.candidateBindings.length ≤ 4) ∧
      intent.StateColumns ∧ intent.NonExecuting ∧ 1 ≤ intent.version ∧
      intent.createdAt ≤ intent.updatedAt ∧
      ∀ time ∈ intent.eventTimes, intent.createdAt ≤ time)
    ⟨fun ⟨bindings, columns, nonExecuting, version, updated, times⟩ =>
      ⟨bindings, columns, nonExecuting, version, updated, times⟩,
      fun ⟨bindings, columns, nonExecuting, version, updated, times⟩ =>
        ⟨bindings, columns, nonExecuting, version, updated, times⟩⟩

/-- `require_consistent_state`: what the contract asks of a view beyond the constraints of
the table. -/
structure ConsistentState (intent : FormalStartIntent) : Prop extends Checked intent where
  ordinals : intent.candidateBindings.map FormalStartCandidateBinding.ordinal =
    List.range intent.candidateBindings.length
  canonical : CanonicalCodes intent.blockerCodes
  persisted : ∀ time ∈ intent.eventTimes, time ≤ intent.updatedAt

instance (intent : FormalStartIntent) : Decidable intent.ConsistentState :=
  decidable_of_iff
    (intent.Checked ∧ intent.candidateBindings.map FormalStartCandidateBinding.ordinal =
        List.range intent.candidateBindings.length ∧
      CanonicalCodes intent.blockerCodes ∧ ∀ time ∈ intent.eventTimes, time ≤ intent.updatedAt)
    ⟨fun ⟨checked, ordinals, canonical, persisted⟩ =>
      ⟨checked, ordinals, canonical, persisted⟩,
      fun ⟨checked, ordinals, canonical, persisted⟩ =>
        ⟨checked, ordinals, canonical, persisted⟩⟩

end FormalStartIntent

/-- `FormalStartIntentView`: a row that passes `require_consistent_state`. -/
abbrev FormalStartIntentView := { intent : FormalStartIntent // intent.ConsistentState }

/-- The `event_type` of an event. -/
inductive FormalStartEventType where
  | created | reconciled | cancelled
  deriving DecidableEq, Repr

/-- A row of `formal_operator_start_intent_events`. -/
structure FormalStartEvent where
  intentId : Uuid
  sequence : Nat
  eventType : FormalStartEventType
  state : FormalStartState
  blockerCodes : List String
  errorCode : Option String := none
  occurredAt : Int
  deriving DecidableEq, Repr

instance : Keyed FormalStartEvent (Uuid × Nat) := ⟨fun row => (row.intentId, row.sequence)⟩

/-- The tables of formal starts. -/
structure FormalStartTables where
  intents : Table FormalStartIntent := ∅
  events : Table FormalStartEvent := ∅
  deriving DecidableEq

@[simp] theorem key_formalStartIntent (row : FormalStartIntent) : key row = row.intentId := rfl

@[simp] theorem key_formalStartEvent (row : FormalStartEvent) :
    key row = (row.intentId, row.sequence) := rfl

end HcuAutoOpt
