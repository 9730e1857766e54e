import HcuAutoOpt.Evaluation.EvidenceReader
import HcuAutoOpt.Measurement.PhaseRunner
import Mathlib.Data.List.DropRight
import Mathlib.Data.List.Infix
import Mathlib.Data.List.Sort
import Mathlib.Data.Prod.Lex
import Mathlib.Data.String.Basic

/-!
# Formal evidence of one root

`ProductionEvidenceVerifier` of `evaluation/production_evidence.py`, with the models of
`contracts/formal_evidence_acceptance_v1.py` that it reads. Evidence is listed by references. The
file of a reference is found by its URI, and has to be at the path that its SHA-256 prescribes
below the root.

What the models check of URIs, digests, byte counts and roles are fields of their structures. The
other patterns and lengths of texts are left out, and a creation time is the text that it is dumped
as.
-/

set_option autoImplicit false

namespace HcuAutoOpt

namespace ProductionEvidence

open Foundation EvidenceReading M2Runner

/-! ## References and authorities -/

/-- `FormalEvidenceProducerRole`. -/
inductive FormalEvidenceProducerRole where
  | controlPlane
  | holdoutPlanAuthority
  | measurementProducer
  | sourceArtifactProducer
  | independentVerifier
  | projectOwner
  deriving DecidableEq, Repr

/-- The text of a role. -/
def FormalEvidenceProducerRole.value : FormalEvidenceProducerRole → String
  | controlPlane => "control_plane"
  | holdoutPlanAuthority => "holdout_plan_authority"
  | measurementProducer => "measurement_producer"
  | sourceArtifactProducer => "source_artifact_producer"
  | independentVerifier => "independent_verifier"
  | projectOwner => "project_owner"

/-- `FormalEvidenceClass`. -/
inductive FormalEvidenceClass where
  | authorityContext
  | roundAuthority
  | searchPlan
  | searchMeasurement
  | searchCleanup
  | holdoutReveal
  | holdoutMeasurement
  | holdoutCleanup
  | sourceFamily
  | artifactFamily
  | correctness
  | barrier
  | fwer
  | evidenceBundle
  | signoff
  deriving DecidableEq, Repr

/-- The text of a class. -/
def FormalEvidenceClass.value : FormalEvidenceClass → String
  | authorityContext => "authority_context"
  | roundAuthority => "round_authority"
  | searchPlan => "search_plan"
  | searchMeasurement => "search_measurement"
  | searchCleanup => "search_cleanup"
  | holdoutReveal => "holdout_reveal"
  | holdoutMeasurement => "holdout_measurement"
  | holdoutCleanup => "holdout_cleanup"
  | sourceFamily => "source_family"
  | artifactFamily => "artifact_family"
  | correctness => "correctness"
  | barrier => "barrier"
  | fwer => "fwer"
  | evidenceBundle => "evidence_bundle"
  | signoff => "signoff"

/-- Whether `_require_absolute_local_uri` lets a URI pass. -/
def isAbsoluteLocal (rules : UriRules) (parsed : SplitUri) : Bool :=
  let path := unquote rules parsed.path
  parsed.scheme = ['f', 'i', 'l', 'e'] &&
    (parsed.netloc = [] || parsed.netloc = "localhost".toList) &&
    path.take 1 = ['/'] && parsed.query = [] && parsed.fragment = [] &&
    !decide (['/', '.', '.', '/'] <:+: path ++ ['/'])

/-- `_require_absolute_local_uri`. -/
def requireAbsoluteLocalUri (rules : UriRules) (value : String) : Option String := do
  let parsed ← urlSplit rules value.toList
  if isAbsoluteLocal rules parsed then
    return String.ofList (value.toList.rdropWhile (· = '/'))
  else none

/-- A URI that a model admits, of at most 4000 characters when it was given. -/
def IsLocalUri (rules : UriRules) (uri : String) : Prop :=
  ∃ value : String, 1 ≤ value.length ∧ value.length ≤ 4000 ∧
    requireAbsoluteLocalUri rules value = some uri

/-- `FormalProducerIdentity`. -/
structure FormalProducerIdentity where
  producerRole : FormalEvidenceProducerRole
  producerId : String
  producerHash : String
  capability : String
  deriving DecidableEq, Repr

/-- `FormalEvidenceVerifierIdentity`. -/
structure FormalEvidenceVerifierIdentity (rules : UriRules) where
  verifierId : String
  verifierVersion : String
  executableHash : String
  configurationHash : String
  sourceCommit : String
  attestationScheme : String
  attestationKeyId : String
  identityEvidenceUri : String
  identityEvidenceHash : String
  identityHash : String
  localUri : IsLocalUri rules identityEvidenceUri
  digest : IsSha256 identityEvidenceHash
  deriving DecidableEq

/-- `FormalEvidenceAuthoritySet`. -/
structure FormalEvidenceAuthoritySet (rules : UriRules) where
  controlPlane : FormalProducerIdentity
  measurementProducer : FormalProducerIdentity
  sourceArtifactProducer : FormalProducerIdentity
  projectOwner : FormalProducerIdentity
  independentVerifier : FormalEvidenceVerifierIdentity rules
  expectedRoles : controlPlane.producerRole = .controlPlane ∧
    measurementProducer.producerRole = .measurementProducer ∧
    sourceArtifactProducer.producerRole = .sourceArtifactProducer ∧
    projectOwner.producerRole = .projectOwner
  identityIds : [controlPlane.producerId, measurementProducer.producerId,
    sourceArtifactProducer.producerId, projectOwner.producerId,
    independentVerifier.verifierId].Nodup
  identityHashes : [controlPlane.producerHash, measurementProducer.producerHash,
    sourceArtifactProducer.producerHash, projectOwner.producerHash,
    independentVerifier.identityHash].Nodup

/-- `ProductionFormalEvidenceRef`. -/
structure ProductionFormalEvidenceRef (rules : UriRules) where
  evidenceClass : FormalEvidenceClass
  uri : String
  sha256 : String
  byteCount : Nat
  producerRole : FormalEvidenceProducerRole
  producerId : String
  producerHash : String
  createdAt : String
  localUri : IsLocalUri rules uri
  digest : IsSha256 sha256
  counted : 1 ≤ byteCount ∧ byteCount ≤ 64 * 1024 * 1024
  producerDigest : IsSha256 producerHash
  deriving DecidableEq

/-- `FormalEvidenceStoreRef`. -/
structure FormalEvidenceStoreRef where
  storeId : String
  storeVersion : Nat
  storeHash : String
  accessPolicyHash : String
  deriving DecidableEq, Repr

/-- `FormalVerifierRef`. -/
structure FormalVerifierRef where
  verifierId : String
  verifierVersion : String
  verifierHash : String
  deriving DecidableEq, Repr

/-- `FormalAuthorityContextDescriptor`. -/
structure FormalAuthorityContextDescriptor where
  contextHash : String
  holdoutPlanAuthorityId : String
  holdoutPlanAuthorityHash : String
  evidenceStore : FormalEvidenceStoreRef
  verifier : FormalVerifierRef
  deriving DecidableEq, Repr

/-- `ProductionEvidenceRootDescriptor`. -/
structure ProductionEvidenceRootDescriptor where
  rootId : String
  rootVersion : Nat
  maxObjectBytes : Nat
  accessPolicyHash : String
  rootHash : String
  deriving DecidableEq, Repr

/-! ## The verifier -/

/-- `ProductionEvidenceVerifier`, whose configured root is the one of its reader. -/
structure ProductionEvidenceVerifier (rules : UriRules) (disk : Disk) where
  root : ProductionEvidenceRootDescriptor
  verifier : FormalEvidenceVerifierIdentity rules
  reader : Reader disk
  bounded : reader.maxBytes = root.maxObjectBytes

/-- `ProductionEvidenceError` with its code, and the exception that `urlparse` raises. -/
inductive ProductionError where
  | production (code message : String)
  | valueError
  deriving DecidableEq, Repr

/-- `VerifiedProductionEvidence`. -/
structure VerifiedProductionEvidence (rules : UriRules) where
  authorityContextHash : String
  evidenceRootHash : String
  verifierIdentityHash : String
  verifiedObjects : List (ProductionFormalEvidenceRef rules)
  inputDigest : String
  status : String := "objects_verified"
  verificationScope : String := "content_addressing_and_role_binding"
  acceptanceBlockerCodes : List String :=
    ["recursive_semantic_verification_not_bound", "allowlisted_signature_verification_not_bound"]
  acceptedForFormalWindow : Bool := false
  hcuAccessed : Bool := false
  automaticReleaseAllowed : Bool := false
  deriving DecidableEq

/-- `_EXPECTED_ROLE`. -/
def expectedRole : FormalEvidenceClass → FormalEvidenceProducerRole
  | .authorityContext => .controlPlane
  | .roundAuthority => .controlPlane
  | .searchPlan => .controlPlane
  | .searchMeasurement => .measurementProducer
  | .searchCleanup => .measurementProducer
  | .holdoutReveal => .holdoutPlanAuthority
  | .holdoutMeasurement => .measurementProducer
  | .holdoutCleanup => .measurementProducer
  | .sourceFamily => .sourceArtifactProducer
  | .artifactFamily => .sourceArtifactProducer
  | .correctness => .independentVerifier
  | .barrier => .independentVerifier
  | .fwer => .independentVerifier
  | .evidenceBundle => .independentVerifier
  | .signoff => .projectOwner

section Verifying

variable (env : ReaderEnv) {disk : Disk}

/-- `_path_from_file_uri`. -/
def pathFromFileUri (uri : String) : Except ProductionError PurePath := do
  let parsed ← requireSome (urlSplit env.rules uri.toList) .valueError
  require (parsed.scheme = ['f', 'i', 'l', 'e'] ∧
      (parsed.netloc = [] ∨ parsed.netloc = "localhost".toList))
    (.production "formal_evidence_uri_invalid" "Formal Evidence requires a local file URI")
  return readPath (unquote env.rules parsed.path)

/-- The path that a SHA-256 prescribes, in the layout `objects/sha256/<2>/<62>`. -/
def objectPath (configuredRoot : Names) (sha256 : String) : Names :=
  let digest := sha256.toList.drop 7
  configuredRoot ++ ["objects".toList, "sha256".toList, digest.take 2, digest.drop 2]

/-- The error for an error of the reader. -/
def readFailure : ReadError → ProductionError
  | .evidence code message =>
      if code = "evidence_path_escape" then
        .production "formal_evidence_missing"
          "content-addressed Formal Evidence object is unavailable"
      else .production code message
  | .valueError => .valueError

/-- `_read_content_addressed`. -/
def readContentAddressed (reader : Reader disk) (uri expectedHash : String) :
    Except ProductionError (List UInt8) := do
  let actualPath ← pathFromFileUri env uri
  require (actualPath = ⟨['/'], objectPath reader.allowedRoot expectedHash⟩)
    (.production "formal_evidence_uri_not_content_addressed"
      "Formal Evidence URI does not match its SHA-256 object path")
  (readRawBytes env reader uri.toList expectedHash).mapError readFailure

variable (service : ProductionEvidenceVerifier env.rules disk)
variable (context : FormalAuthorityContextDescriptor)
variable (authorities : FormalEvidenceAuthoritySet env.rules)

/-- The store that `_bind_context` expects. -/
def expectedStore : FormalEvidenceStoreRef :=
  ⟨service.root.rootId, service.root.rootVersion, service.root.rootHash,
    service.root.accessPolicyHash⟩

/-- The verifier that `_bind_context` expects. -/
def expectedVerifier : FormalVerifierRef :=
  ⟨service.verifier.verifierId, service.verifier.verifierVersion, service.verifier.identityHash⟩

/-- `_bind_context`. -/
def bindContext : Except ProductionError Unit := do
  require (context.evidenceStore = expectedStore env service)
    (.production "formal_evidence_root_binding_mismatch"
      "Formal Authority Context binds another Evidence Root")
  require (context.verifier = expectedVerifier env service)
    (.production "formal_verifier_binding_mismatch"
      "Formal Authority Context binds another Verifier identity")

/-- `other_ids`. -/
def otherIds : List String :=
  [authorities.controlPlane.producerId, authorities.measurementProducer.producerId,
    authorities.sourceArtifactProducer.producerId, authorities.projectOwner.producerId,
    service.verifier.verifierId]

/-- `other_hashes`. -/
def otherHashes : List String :=
  [authorities.controlPlane.producerHash, authorities.measurementProducer.producerHash,
    authorities.sourceArtifactProducer.producerHash, authorities.projectOwner.producerHash,
    service.verifier.identityHash]

/-- `_require_holdout_authority_separation`. -/
def requireHoldoutAuthoritySeparation : Except ProductionError Unit :=
  require (context.holdoutPlanAuthorityId ∉ otherIds env service authorities ∧
      context.holdoutPlanAuthorityHash ∉ otherHashes env service authorities)
    (.production "holdout_plan_authority_not_separated"
      "Holdout Plan Authority must be role-separated from every other Formal authority")

/-- The id and the hash of the identity of a role, which the authority set has for four roles. -/
def expectedIdentity : FormalEvidenceProducerRole → String × String
  | .holdoutPlanAuthority => (context.holdoutPlanAuthorityId, context.holdoutPlanAuthorityHash)
  | .independentVerifier => (service.verifier.verifierId, service.verifier.identityHash)
  | .controlPlane => (authorities.controlPlane.producerId, authorities.controlPlane.producerHash)
  | .measurementProducer =>
      (authorities.measurementProducer.producerId, authorities.measurementProducer.producerHash)
  | .sourceArtifactProducer => (authorities.sourceArtifactProducer.producerId,
      authorities.sourceArtifactProducer.producerHash)
  | .projectOwner => (authorities.projectOwner.producerId, authorities.projectOwner.producerHash)

/-- `_verify_role`. -/
def verifyRole (reference : ProductionFormalEvidenceRef env.rules) :
    Except ProductionError Unit := do
  let role := expectedRole reference.evidenceClass
  require (reference.producerRole = role)
    (.production "formal_evidence_role_mismatch"
      s!"{reference.evidenceClass.value} Evidence is signed by the wrong role")
  require ((reference.producerId, reference.producerHash) =
      expectedIdentity env service context authorities role)
    (.production "formal_evidence_producer_mismatch"
      "Formal Evidence producer identity drifted")

/-- The loop of `verify` over the ordered references. -/
def verifyReferences : List (ProductionFormalEvidenceRef env.rules) → List String →
    List (String × FormalEvidenceClass) → Except ProductionError Unit
  | [], _, _ => return ()
  | reference :: ordered, seenUris, hashClasses => do
      require (∀ previous ∈ hashClasses.lookup reference.sha256,
          previous = reference.evidenceClass)
        (.production "formal_evidence_cross_stage_reuse"
          "one Evidence object is reused across Formal stages")
      require (reference.uri ∉ seenUris)
        (.production "formal_evidence_identity_reused" "Formal Evidence URI is reused")
      verifyRole env service context authorities reference
      let encoded ← readContentAddressed env service.reader reference.uri reference.sha256
      require (encoded.length = reference.byteCount)
        (.production "formal_evidence_size_mismatch" "Formal Evidence byte count drifted")
      verifyReferences ordered (reference.uri :: seenUris)
        ((reference.sha256, reference.evidenceClass) :: hashClasses)

/-- The sort key of a reference. -/
def sortKey (reference : ProductionFormalEvidenceRef env.rules) : String ×ₗ String ×ₗ String :=
  toLex (reference.evidenceClass.value, toLex (reference.sha256, reference.uri))

/-- `sorted` of the references. -/
def inOrder (references : List (ProductionFormalEvidenceRef env.rules)) :
    List (ProductionFormalEvidenceRef env.rules) :=
  references.insertionSort fun a b => sortKey env a ≤ sortKey env b

/-! ## The input digest -/

/-- `model_dump` of a producer. -/
def FormalProducerIdentity.dump (identity : FormalProducerIdentity) : Json :=
  .obj [("producer_role", .str identity.producerRole.value),
    ("producer_id", .str identity.producerId),
    ("producer_hash", .str identity.producerHash),
    ("capability", .str identity.capability)]

/-- `model_dump` of a verifier. -/
def FormalEvidenceVerifierIdentity.dump {rules : UriRules}
    (identity : FormalEvidenceVerifierIdentity rules) : Json :=
  .obj [("schema_version", .str "m2a-formal-evidence-verifier-v1"),
    ("verifier_id", .str identity.verifierId),
    ("verifier_version", .str identity.verifierVersion),
    ("capability", .str "formal_evidence_acceptance"),
    ("authority_role", .str "independent_verifier"),
    ("implementation_kind", .str "real"),
    ("executable_hash", .str identity.executableHash),
    ("configuration_hash", .str identity.configurationHash),
    ("source_commit", .str identity.sourceCommit),
    ("attestation_scheme", .str identity.attestationScheme),
    ("attestation_key_id", .str identity.attestationKeyId),
    ("identity_evidence_uri", .str identity.identityEvidenceUri),
    ("identity_evidence_hash", .str identity.identityEvidenceHash),
    ("automatic_release_allowed", .bool false),
    ("identity_hash", .str identity.identityHash)]

/-- `model_dump` of the authorities. -/
def FormalEvidenceAuthoritySet.dump {rules : UriRules}
    (set : FormalEvidenceAuthoritySet rules) : Json :=
  .obj [("control_plane", set.controlPlane.dump),
    ("measurement_producer", set.measurementProducer.dump),
    ("source_artifact_producer", set.sourceArtifactProducer.dump),
    ("project_owner", set.projectOwner.dump),
    ("independent_verifier", set.independentVerifier.dump)]

/-- `model_dump` of a reference. -/
def ProductionFormalEvidenceRef.dump {rules : UriRules}
    (reference : ProductionFormalEvidenceRef rules) : Json :=
  .obj [("evidence_class", .str reference.evidenceClass.value),
    ("uri", .str reference.uri),
    ("sha256", .str reference.sha256),
    ("byte_count", .int reference.byteCount),
    ("producer_role", .str reference.producerRole.value),
    ("producer_id", .str reference.producerId),
    ("producer_hash", .str reference.producerHash),
    ("created_at", .str reference.createdAt)]

/-- `digest_payload`. -/
def digestPayload (ordered : List (ProductionFormalEvidenceRef env.rules)) : Json :=
  .obj [("schema_version", .str "m2a-production-evidence-verification-input-v1"),
    ("authority_context_hash", .str context.contextHash),
    ("evidence_root_hash", .str service.root.rootHash),
    ("verifier_identity_hash", .str service.verifier.identityHash),
    ("authorities", authorities.dump),
    ("objects", .arr (ordered.map ProductionFormalEvidenceRef.dump))]

/-- What `verify` returns. -/
def verified (ordered : List (ProductionFormalEvidenceRef env.rules)) :
    VerifiedProductionEvidence env.rules where
  authorityContextHash := context.contextHash
  evidenceRootHash := service.root.rootHash
  verifierIdentityHash := service.verifier.identityHash
  verifiedObjects := ordered
  inputDigest := hashOf env
    (digestPayload env service context authorities ordered).canonicalBytes.data.toList

/-- `verify`. -/
def verify (references : List (ProductionFormalEvidenceRef env.rules)) :
    Except ProductionError (VerifiedProductionEvidence env.rules) := do
  bindContext env service context
  require (authorities.independentVerifier = service.verifier)
    (.production "formal_verifier_identity_drift"
      "runtime Formal Verifier differs from the frozen authority set")
  requireHoldoutAuthoritySeparation env service context authorities
  let _ ← readContentAddressed env service.reader service.verifier.identityEvidenceUri
    service.verifier.identityEvidenceHash
  require (references ≠ [])
    (.production "formal_evidence_incomplete" "Formal verification requires evidence objects")
  let ordered := inOrder env references
  verifyReferences env service context authorities ordered [] []
  return verified env service context authorities ordered

end Verifying

end ProductionEvidence

end HcuAutoOpt
