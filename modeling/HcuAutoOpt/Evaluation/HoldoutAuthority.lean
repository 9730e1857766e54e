import HcuAutoOpt.Domain.SearchRounds
import HcuAutoOpt.Foundation.CanonicalJson
import HcuAutoOpt.Foundation.Raising
import Mathlib.Data.Finset.Insert
import Mathlib.Logic.Function.Basic

/-!
# The synthetic holdout plan authority

`SyntheticHoldoutPlanAuthority` of `evaluation/m2_authority.py`: an in-memory store of
holdout plans. A plan is committed under a nonce (`commitPlan`), a lease for its reveal
is issued once the round has frozen its promoted family (`issueRevealLease`), and the
plan is handed out against that lease (`reveal`).

The hash function and the text of a time are parameters (`HoldoutEnvironment`). A digest
has no pattern check of its own here: each is either computed or a field of the round,
whose contract has the same pattern.
-/

set_option autoImplicit false

namespace HcuAutoOpt

namespace M2Authority

open Foundation Foundation.Raising

/-- The functions of the standard library that the authority calls. -/
structure HoldoutEnvironment where
  /-- `_sha256`: the digest with its prefix. -/
  sha256 : ByteArray → String
  /-- `datetime.isoformat`. -/
  isoformat : DateTime → String

/-! ## Errors -/

/-- What the operations raise. -/
inductive HoldoutError where
  /-- `HoldoutAuthorityError`. -/
  | authority (code message : String)
  /-- A `ValueError` of the module or of one of its model validators. -/
  | value (message : String)
  /-- A field of a model outside its declared bounds. -/
  | field (model name : String)
  deriving DecidableEq, Repr

/-- `Field(min_length=1, max_length=bound)`, and the checks of the same bounds. -/
def Bounded (bound : Nat) (text : String) : Prop := text ≠ "" ∧ text.length ≤ bound

instance (bound : Nat) (text : String) : Decidable (Bounded bound text) := by
  unfold Bounded
  infer_instance

/-- `_require_aware`. -/
def requireAware {σ : Type} (value : DateTime) (label : String) : Raising HoldoutError σ Unit :=
  raiseIf (value.offset = none) (.value (label ++ " must be timezone-aware"))

/-! ## Records -/

/-- `HoldoutPlanCommitment`. -/
structure HoldoutPlanCommitment where
  roundId : Uuid
  commitment : String
  authorityId : String
  authorityHash : String
  createdAt : DateTime
  deriving DecidableEq

/-- `HoldoutRevealLease`. -/
structure HoldoutRevealLease where
  revealLeaseId : Uuid
  roundId : Uuid
  holdoutFamilyHash : String
  authorizedWorkerId : String
  executionLeaseId : Uuid
  resourceId : String
  fencingToken : Int
  issuedAt : DateTime
  expiresAt : DateTime
  deriving DecidableEq

/-- `HoldoutRevealResult`. -/
structure HoldoutRevealResult where
  revealLeaseId : Uuid
  roundId : Uuid
  holdoutFamilyHash : String
  commitment : String
  planHash : String
  canonicalPlanJson : String
  nonceHex : String
  authorizedWorkerId : String
  executionLeaseId : Uuid
  resourceId : String
  fencingToken : Int
  authorityId : String
  authorityHash : String
  revealEvidenceHash : String
  revealedAt : DateTime
  deriving DecidableEq

/-- `_StoredHoldoutPlan`. -/
structure StoredHoldoutPlan where
  encoded : ByteArray
  nonce : ByteArray
  commitment : HoldoutPlanCommitment

/-- `SyntheticHoldoutPlanAuthority`. -/
structure SyntheticHoldoutPlanAuthority where
  authorityId : String
  authorityVersion : String
  authorityHash : String
  plans : Uuid → Option StoredHoldoutPlan
  leases : Uuid → Option HoldoutRevealLease
  roundLeaseIds : Uuid → Option Uuid
  consumedLeaseIds : Finset Uuid

/-- An operation of the authority. -/
abbrev Operation (α : Type) : Type := Raising HoldoutError SyntheticHoldoutPlanAuthority α

section

variable (env : HoldoutEnvironment)

/-- `SyntheticHoldoutPlanAuthority.__init__`. -/
def SyntheticHoldoutPlanAuthority.new (authorityId authorityVersion : String) :
    Except HoldoutError SyntheticHoldoutPlanAuthority :=
  if ¬Bounded 300 authorityId then
    .error (.value "Holdout Authority ID must be bounded non-empty text")
  else if ¬Bounded 200 authorityVersion then
    .error (.value "Holdout Authority version must be bounded non-empty text")
  else
    .ok
      { authorityId, authorityVersion
        authorityHash := env.sha256 (Json.canonicalBytes (.obj
          [("schema_version", .str "m2a-scripted-holdout-authority-v1"),
            ("authority_id", .str authorityId),
            ("authority_version", .str authorityVersion), ("synthetic", .bool true)]))
        plans := fun _ => none
        leases := fun _ => none
        roundLeaseIds := fun _ => none
        consumedLeaseIds := ∅ }

/-! ## Model validators -/

/-- The construction of a `HoldoutRevealLease`: its fields, then its validator
`require_bounded_lifetime`. -/
def HoldoutRevealLease.construct (lease : HoldoutRevealLease) : Operation HoldoutRevealLease := do
  raiseIf (¬Bounded 300 lease.authorizedWorkerId)
    (.field "HoldoutRevealLease" "authorized_worker_id")
  raiseIf (¬Bounded 200 lease.resourceId) (.field "HoldoutRevealLease" "resource_id")
  raiseIf (lease.fencingToken < 1) (.field "HoldoutRevealLease" "fencing_token")
  requireAware lease.issuedAt "Reveal Lease issue time"
  requireAware lease.expiresAt "Reveal Lease expiry time"
  raiseIf (lease.expiresAt.micros ≤ lease.issuedAt.micros)
    (.value "Reveal Lease expiry must follow issue time")
  pure lease

/-- `HoldoutRevealResult.evidence_payload`. -/
def HoldoutRevealResult.evidencePayload (result : HoldoutRevealResult) : Json :=
  .obj
    [("schema_version", .str "m2a-holdout-reveal-v1"),
      ("reveal_lease_id", .str result.revealLeaseId.text),
      ("round_id", .str result.roundId.text),
      ("holdout_family_hash", .str result.holdoutFamilyHash),
      ("commitment", .str result.commitment),
      ("plan_hash", .str result.planHash),
      ("nonce_hex", .str result.nonceHex),
      ("authorized_worker_id", .str result.authorizedWorkerId),
      ("execution_lease_id", .str result.executionLeaseId.text),
      ("resource_id", .str result.resourceId),
      ("fencing_token", .int result.fencingToken),
      ("authority_id", .str result.authorityId),
      ("authority_hash", .str result.authorityHash),
      ("revealed_at", .str (env.isoformat result.revealedAt)),
      ("synthetic", .bool true)]

/-- The construction of a `HoldoutRevealResult`: its fields, then its validator
`require_aware_reveal_time`. -/
def HoldoutRevealResult.construct (result : HoldoutRevealResult) :
    Operation HoldoutRevealResult := do
  raiseIf (result.canonicalPlanJson.length < 2 ∨ 1000000 < result.canonicalPlanJson.length)
    (.field "HoldoutRevealResult" "canonical_plan_json")
  raiseIf (¬(result.nonceHex.length = 64 ∧ IsHex result.nonceHex))
    (.field "HoldoutRevealResult" "nonce_hex")
  raiseIf (¬Bounded 300 result.authorizedWorkerId)
    (.field "HoldoutRevealResult" "authorized_worker_id")
  raiseIf (¬Bounded 200 result.resourceId) (.field "HoldoutRevealResult" "resource_id")
  raiseIf (result.fencingToken < 1) (.field "HoldoutRevealResult" "fencing_token")
  raiseIf (¬Bounded 300 result.authorityId) (.field "HoldoutRevealResult" "authority_id")
  requireAware result.revealedAt "Holdout reveal time"
  let encoded := result.canonicalPlanJson.toUTF8
  raiseIf (env.sha256 encoded ≠ result.planHash)
    (.value "revealed canonical Plan does not match plan_hash")
  raiseIf (env.sha256 (bytesOfHex result.nonceHex ++ encoded) ≠ result.commitment)
    (.value "revealed nonce and Plan do not match commitment")
  raiseIf (env.sha256 (result.evidencePayload env).canonicalBytes ≠ result.revealEvidenceHash)
    (.value "Holdout reveal evidence does not match its payload Hash")
  pure result

end

/-! ## Committing a plan -/

/-- The arguments of `commit_plan`, with the time and the 32 random bytes that stand in
for the optional ones. A plan is `none` when it has no JSON text or no UTF-8 encoding. -/
structure CommitPlan where
  roundId : Uuid
  plan : Option Json.Object
  nonce : Option ByteArray := none
  createdAt : Option DateTime := none
  utcnow : DateTime
  tokenBytes : ByteArray

/-- `nonce if nonce is not None else secrets.token_bytes(32)`. -/
def CommitPlan.nonceValue (args : CommitPlan) : ByteArray := args.nonce.getD args.tokenBytes

/-- `commit_plan`. -/
def commitPlan (env : HoldoutEnvironment) (args : CommitPlan) :
    Operation HoldoutPlanCommitment := do
  let authority ← get
  raiseIf (authority.plans args.roundId).isSome
    (.authority "holdout_plan_already_committed"
      "Holdout Plan can be committed only once per Round")
  let created := args.createdAt.getD args.utcnow
  requireAware created "Holdout commitment time"
  let nonce := args.nonceValue
  raiseIf (nonce.size ≠ 32)
    (.value "Holdout commitment nonce must contain exactly 256 bits")
  let plan ← orRaise args.plan (.value "Holdout Plan has no canonical JSON")
  let encoded := Json.canonicalBytes (.obj plan)
  let commitment : HoldoutPlanCommitment :=
    { roundId := args.roundId
      commitment := env.sha256 (nonce ++ encoded)
      authorityId := authority.authorityId
      authorityHash := authority.authorityHash
      createdAt := created }
  modify fun authority => { authority with
    plans := Function.update authority.plans args.roundId (some { encoded, nonce, commitment }) }
  pure commitment

/-! ## Issuing a reveal lease -/

/-- The arguments of `issue_reveal_lease`, with the time and the identifier that stand in
for the optional ones. -/
structure IssueRevealLease where
  round : SearchRound
  authorizedWorkerId : String
  executionLeaseId : Uuid
  resourceId : String
  fencingToken : Int
  expiresAt : DateTime
  issuedAt : Option DateTime := none
  revealLeaseId : Option Uuid := none
  utcnow : DateTime
  uuid4 : Uuid

/-- `reveal_lease_id or uuid4()`. -/
def IssueRevealLease.leaseId (args : IssueRevealLease) : Uuid :=
  args.revealLeaseId.getD args.uuid4

/-- `_require_round_authority`. -/
def requireRoundAuthority (round : SearchRound) : Operation StoredHoldoutPlan := do
  let authority ← get
  raiseIf (round.runMode ≠ .scripted)
    (.authority "holdout_plan_forbidden"
      "Synthetic Holdout Authority accepts only Scripted Rounds")
  let stored ← orRaise (authority.plans round.roundId)
    (.authority "holdout_plan_authority_unavailable" "D-owned Holdout Plan is unavailable")
  raiseIf (round.holdoutPlanAuthorityId ≠ authority.authorityId ∨
      round.holdoutPlanAuthorityHash ≠ authority.authorityHash)
    (.authority "holdout_plan_authority_unavailable"
      "Round binds another Holdout Plan Authority")
  pure stored

/-- `issue_reveal_lease`. -/
def issueRevealLease (args : IssueRevealLease) : Operation HoldoutRevealLease := do
  let stored ← requireRoundAuthority args.round
  let authority ← get
  raiseIf (args.round.state ≠ .searchBarrier)
    (.authority "holdout_plan_not_revealable"
      "Holdout reveal is allowed only after Search reaches its Barrier")
  let family ← orRaise args.round.holdoutFamilyHash
    (.authority "holdout_family_not_frozen"
      "Holdout reveal requires one non-empty frozen promoted family")
  raiseIf (args.round.holdoutPlanHash.isSome ∨ args.round.holdoutRevealLeaseId.isSome ∨
      args.round.holdoutRevealEvidenceHash.isSome)
    (.authority "holdout_plan_already_revealed"
      "Round authority already contains Holdout reveal identities")
  raiseIf (authority.roundLeaseIds args.round.roundId).isSome
    (.authority "holdout_reveal_lease_already_issued"
      "Holdout Reveal Lease can be issued only once per Round")
  raiseIf (¬Bounded 300 args.authorizedWorkerId)
    (.value "authorized worker ID must be bounded non-empty text")
  raiseIf (¬Bounded 200 args.resourceId ∨ args.fencingToken < 1)
    (.value "Reveal Lease requires a valid resource and Fencing token")
  let lease ← HoldoutRevealLease.construct
    { revealLeaseId := args.leaseId
      roundId := args.round.roundId
      holdoutFamilyHash := family
      authorizedWorkerId := args.authorizedWorkerId
      executionLeaseId := args.executionLeaseId
      resourceId := args.resourceId
      fencingToken := args.fencingToken
      issuedAt := args.issuedAt.getD args.utcnow
      expiresAt := args.expiresAt }
  raiseIf (stored.commitment.commitment ≠ args.round.holdoutPlanCommitment)
    (.authority "holdout_commitment_mismatch"
      "Round commitment does not match the D-owned Holdout Plan")
  modify fun authority => { authority with
    leases := Function.update authority.leases lease.revealLeaseId (some lease)
    roundLeaseIds :=
      Function.update authority.roundLeaseIds lease.roundId (some lease.revealLeaseId) }
  pure lease

/-! ## Revealing a plan -/

/-- The arguments of `reveal`, with the time that stands in for the optional one. -/
structure Reveal where
  revealLeaseId : Uuid
  roundId : Uuid
  authorizedWorkerId : String
  executionLeaseId : Uuid
  resourceId : String
  fencingToken : Int
  revealedAt : Option DateTime := none
  utcnow : DateTime

/-- `revealed_at or _utcnow()`. -/
def Reveal.time (args : Reveal) : DateTime := args.revealedAt.getD args.utcnow

/-- The presented identities are those of the lease. -/
def Reveal.Presents (args : Reveal) (lease : HoldoutRevealLease) : Prop :=
  (args.roundId, args.authorizedWorkerId, args.executionLeaseId, args.resourceId,
      args.fencingToken) =
    (lease.roundId, lease.authorizedWorkerId, lease.executionLeaseId, lease.resourceId,
      lease.fencingToken)

instance (args : Reveal) (lease : HoldoutRevealLease) : Decidable (args.Presents lease) := by
  unfold Reveal.Presents
  infer_instance

section

variable (env : HoldoutEnvironment)

/-- The result of a reveal before its evidence is hashed. -/
def unsealed (authority : SyntheticHoldoutPlanAuthority) (lease : HoldoutRevealLease)
    (stored : StoredHoldoutPlan) (canonicalPlanJson : String) (args : Reveal) :
    HoldoutRevealResult :=
  { revealLeaseId := lease.revealLeaseId
    roundId := args.roundId
    holdoutFamilyHash := lease.holdoutFamilyHash
    commitment := env.sha256 (stored.nonce ++ stored.encoded)
    planHash := env.sha256 stored.encoded
    canonicalPlanJson
    nonceHex := hexOfBytes stored.nonce
    authorizedWorkerId := args.authorizedWorkerId
    executionLeaseId := args.executionLeaseId
    resourceId := args.resourceId
    fencingToken := args.fencingToken
    authorityId := authority.authorityId
    authorityHash := authority.authorityHash
    revealEvidenceHash := ""
    revealedAt := args.time }

/-- The result of a reveal, with the hash of its evidence. -/
def revealResult (authority : SyntheticHoldoutPlanAuthority) (lease : HoldoutRevealLease)
    (stored : StoredHoldoutPlan) (canonicalPlanJson : String) (args : Reveal) :
    HoldoutRevealResult :=
  let payload := (unsealed env authority lease stored canonicalPlanJson args).evidencePayload env
  { unsealed env authority lease stored canonicalPlanJson args with
    revealEvidenceHash := env.sha256 payload.canonicalBytes }

/-- `reveal`. -/
def reveal (args : Reveal) : Operation HoldoutRevealResult := do
  let authority ← get
  let lease ← orRaise (authority.leases args.revealLeaseId)
    (.authority "holdout_reveal_lease_invalid" "Holdout Reveal Lease does not exist")
  raiseIf (args.revealLeaseId ∈ authority.consumedLeaseIds)
    (.authority "holdout_reveal_lease_consumed"
      "Holdout Reveal Lease has already been consumed")
  requireAware args.time "Holdout reveal time"
  raiseIf (lease.expiresAt.micros ≤ args.time.micros)
    (.authority "holdout_reveal_lease_expired" "Holdout Reveal Lease has expired")
  raiseIf (¬args.Presents lease)
    (.authority "holdout_reveal_lease_invalid"
      "Reveal Lease does not authorize this Round, Worker, Lease, or Fence")
  let stored ← orRaise (authority.plans args.roundId)
    (.authority "holdout_plan_authority_unavailable" "D-owned Holdout Plan is unavailable")
  raiseIf (env.sha256 (stored.nonce ++ stored.encoded) ≠ stored.commitment.commitment)
    (.authority "holdout_commitment_mismatch"
      "Stored nonce and Plan do not reconstruct the frozen commitment")
  let text ← orRaise (String.fromUTF8? stored.encoded)
    (.value "'utf-8' codec can't decode the stored Plan")
  let result ← HoldoutRevealResult.construct env
    (revealResult env authority lease stored text args)
  modify fun authority => { authority with
    consumedLeaseIds := insert args.revealLeaseId authority.consumedLeaseIds }
  pure result

end

end M2Authority

end HcuAutoOpt
