import HcuAutoOpt.Domain.SearchRounds

/-!
# The contracts of a formal round

The models of `contracts/m2_formal_authority_v1.py`, `contracts/m2_formal_signoff_v1.py`
and `evaluation/m2_formal_authority.py` that a formal search round is finalized and
signed off with. Each table about formal rounds has at most one row a round, so the
round is the key of its rows here; a barrier has its phase in the key as well.
-/

set_option autoImplicit false

namespace HcuAutoOpt

open Foundation

/-! ## Authority -/

/-- `FormalEvidenceStoreRef`. -/
structure FormalEvidenceStoreRef where
  storeId : String
  storeVersion : Nat
  storeHash : String
  accessPolicyHash : String
  deriving DecidableEq, Repr

/-- `FormalAuthorityContextRef`. -/
structure FormalAuthorityContextRef where
  authorityContextId : Uuid
  contextHash : String
  roundId : Uuid
  taskId : Uuid
  candidateFamilyHash : String
  artifactFamilyHash : String
  searchPlanHash : String
  holdoutPlanCommitment : String
  selectionRuleHash : String
  evidenceStore : FormalEvidenceStoreRef
  deriving DecidableEq, Repr

/-- A row of `formal_round_authority_contexts`. -/
structure FormalAuthorityContext extends FormalAuthorityContextRef where
  /-- What only the verifier reads: the profiles, the verifier and the seal. -/
  sealed : Json
  deriving DecidableEq

instance : Keyed FormalAuthorityContext Uuid := ⟨fun row => row.roundId⟩

/-- A row of `formal_round_barriers`. -/
structure FormalBarrier where
  authorityContextId : Uuid
  authorityContextHash : String
  holdoutFamilyHash : Option String := none
  barrier : RoundBarrierResult
  deriving DecidableEq, Repr

instance : Keyed FormalBarrier (Uuid × RoundPhase) :=
  ⟨fun row => (row.barrier.roundId, row.barrier.phase)⟩

/-- A row of `formal_round_holdout_reveals`. -/
structure FormalHoldoutReveal where
  revealLeaseId : Uuid
  roundId : Uuid
  authorityContextId : Uuid
  authorityContextHash : String
  searchBarrierId : Uuid
  fencingToken : Int
  holdoutFamilyHash : String
  holdoutPlanHash : String
  revealEvidenceUri : String
  revealEvidenceHash : String
  revealedBy : String
  revealedAt : Int
  deriving DecidableEq, Repr

instance : Keyed FormalHoldoutReveal Uuid := ⟨fun row => row.roundId⟩

/-- A row of `formal_multiple_comparison_results`. -/
structure FormalMultipleComparison where
  authorityContextId : Uuid
  authorityContextHash : String
  result : MultipleComparisonResult
  deriving DecidableEq

instance : Keyed FormalMultipleComparison Uuid := ⟨fun row => row.result.roundId⟩

/-! ## Evidence -/

/-- `RoundEvidenceBundle` of a formal round. -/
structure FormalEvidenceBundle extends RoundEvidenceBundle where
  taskId : Uuid
  candidateFamilyHash : String
  artifactFamilyHash : String
  holdoutFamilyHash : Option String := none
  searchPlanHash : String
  holdoutPlanCommitment : String
  holdoutPlanHash : Option String := none
  holdoutRevealEvidenceHash : Option String := none
  searchBarrierId : Uuid
  holdoutBarrierId : Option Uuid := none
  multipleComparisonId : Option Uuid := none
  deriving DecidableEq

/-- A row of `formal_round_evidence_bundles`. -/
structure FormalEvidence where
  bundle : FormalEvidenceBundle
  authorityContextId : Uuid
  authorityContextHash : String
  evidenceStoreId : String
  evidenceStoreHash : String
  payloadHash : String
  deriving DecidableEq

instance : Keyed FormalEvidence Uuid := ⟨fun row => row.bundle.roundId⟩

/-- `FormalEvidenceBundlePersistence`; its validator binds the bundle to its context. -/
structure FormalEvidenceBundlePersistence where
  context : FormalAuthorityContextRef
  bundle : FormalEvidenceBundle
  payloadHash : String
  formal : bundle.runMode = .formal ∧ bundle.synthetic = false ∧
    bundle.automaticReleaseAllowed = false
  bound : bundle.roundId = context.roundId ∧ bundle.taskId = context.taskId ∧
    bundle.candidateFamilyHash = context.candidateFamilyHash ∧
    bundle.artifactFamilyHash = context.artifactFamilyHash ∧
    bundle.searchPlanHash = context.searchPlanHash ∧
    bundle.holdoutPlanCommitment = context.holdoutPlanCommitment

/-- The row of a bundle. -/
def FormalEvidenceBundlePersistence.row (record : FormalEvidenceBundlePersistence) :
    FormalEvidence where
  bundle := record.bundle
  authorityContextId := record.context.authorityContextId
  authorityContextHash := record.context.contextHash
  evidenceStoreId := record.context.evidenceStore.storeId
  evidenceStoreHash := record.context.evidenceStore.storeHash
  payloadHash := record.payloadHash

/-! ## Signoff -/

/-- `FormalRoundSignoffDecision`. -/
inductive SignoffDecision where
  | approved | rejected
  deriving DecidableEq, Repr

/-- `FormalRoundSignoffIntentState`. -/
inductive SignoffIntentState where
  | preparing | artifactPublished | finalized | failed
  deriving DecidableEq, Repr

/-- `FormalRoundSignoffOutboxState`. -/
inductive SignoffOutboxState where
  | pending | artifactPublished | finalized
  deriving DecidableEq, Repr

/-- `FormalRoundSignoffRequest`. -/
structure FormalRoundSignoffRequest where
  roundId : Uuid
  roundEvidenceBundleId : Uuid
  decision : SignoffDecision
  actor : String
  actorIdentityHash : String
  reason : String
  idempotencyKey : String
  deriving DecidableEq, Repr

/-- The inputs that an intent freezes. -/
structure SignoffInputs extends FormalRoundSignoffRequest where
  taskId : Uuid
  authorityContext : FormalAuthorityContextRef
  evidenceBundleHash : String
  candidateFamilyHash : String
  artifactFamilyHash : String
  holdoutFamilyHash : Option String
  decisionAt : Int
  deriving DecidableEq, Repr

/-- A row of `formal_round_signoff_intents`, and the `FormalRoundSignoffIntent` over it. -/
structure FormalRoundSignoffIntent extends SignoffInputs where
  signoffIntentId : Uuid
  roundSignoffId : Uuid
  inputDigest : String
  state : SignoffIntentState
  deriving DecidableEq, Repr

instance : Keyed FormalRoundSignoffIntent Uuid := ⟨fun row => row.roundId⟩

/-- `FormalDecisionSignature`. -/
structure FormalDecisionSignature where
  signerId : String
  signerKeyId : String
  signerIdentityHash : String
  algorithm : String
  value : String
  deriving DecidableEq, Repr

/-- The published decision artifact. -/
structure DecisionArtifact where
  decisionArtifactUri : String
  decisionArtifactHash : String
  signature : FormalDecisionSignature
  deriving DecidableEq, Repr

/-- A row of `formal_round_signoff_outbox`; its artifact columns are written together. -/
structure FormalRoundSignoffOutbox where
  outboxEventId : Uuid
  signoffIntentId : Uuid
  roundId : Uuid
  aggregateId : Uuid
  payload : FormalRoundSignoffIntent
  state : SignoffOutboxState
  artifact : Option DecisionArtifact := none
  deriving DecidableEq, Repr

instance : Keyed FormalRoundSignoffOutbox Uuid := ⟨fun row => row.roundId⟩

/-- `FormalRoundSignoffArtifactPublication`. -/
structure FormalRoundSignoffArtifactPublication extends DecisionArtifact where
  signoffIntentId : Uuid
  roundSignoffId : Uuid
  deriving DecidableEq, Repr

/-- A row of `formal_round_signoffs`. -/
structure FormalRoundSignoff extends SignoffInputs, DecisionArtifact where
  roundSignoffId : Uuid
  signoffIntentId : Uuid
  inputDigest : String
  deriving DecidableEq, Repr

instance : Keyed FormalRoundSignoff Uuid := ⟨fun row => row.roundId⟩

/-! ## The tables -/

/-- The tables about formal rounds. -/
structure FormalTables where
  contexts : Table FormalAuthorityContext := ∅
  barriers : Table FormalBarrier := ∅
  reveals : Table FormalHoldoutReveal := ∅
  comparisons : Table FormalMultipleComparison := ∅
  evidence : Table FormalEvidence := ∅
  intents : Table FormalRoundSignoffIntent := ∅
  outbox : Table FormalRoundSignoffOutbox := ∅
  signoffs : Table FormalRoundSignoff := ∅
  deriving DecidableEq

/-! ## Surroundings -/

/-- The verifier of the evidence of a formal round, as a function of the rows it is given: the
evidence files these name are taken to stay as they are. -/
abbrev FormalVerifier :=
  FormalAuthorityContext → SearchRound → RoundBarrierResult → Option FormalHoldoutReveal →
    Option RoundBarrierResult → Option MultipleComparisonResult → FormalEvidenceBundle →
      Except String Unit

/-- The verifier of a published decision. -/
abbrev SignoffVerifier :=
  FormalRoundSignoffIntent → FormalRoundSignoffArtifactPublication → Except String Unit

end HcuAutoOpt
