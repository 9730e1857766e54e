import HcuAutoOpt.Domain.SearchRounds
import HcuAutoOpt.Foundation.CommittedCalls
import Mathlib.Data.List.Sort

/-!
# Family hashes and barriers of a scripted round

The hashes of `orchestrator/search_round.py` and the two barrier functions of
`evaluation/m2_statistics.py`. A hash is the SHA-256 of the canonical JSON of a
document, so a document here is a value with the fields the source puts into it, and
the hash a function of the document. That function, the name-based identifiers and the
verifier of the evidence files are the surroundings the operations run in (`RoundEnv`).
-/

set_option autoImplicit false

namespace HcuAutoOpt

open Foundation

/-! ## Documents -/

/-- A member in the document of a candidate family. -/
structure CandidateFamilyMember where
  ordinal : Nat
  candidateId : Uuid
  roundCandidateId : Uuid
  sourcePackageStoreId : String
  sourcePackageStoreHash : String
  sourcePackageHash : String
  sourceManifestHash : String
  baselineSourceHash : String
  candidateSourceHash : String
  hotspotId : Uuid
  replacementPoint : String
  candidateKind : ManualCandidateKind
  optimizationIntent : String

/-- A member in the document of an artifact family. -/
structure ArtifactFamilyMember extends BuildTerminal where
  ordinal : Nat
  candidateId : Uuid
  roundCandidateId : Uuid

/-- A member in the document of a holdout family. -/
structure HoldoutFamilyMember where
  candidateId : Uuid
  artifactId : Uuid
  artifactHash : String

/-- The documents that are hashed. -/
inductive RoundDocument where
  | candidateFamily (members : List CandidateFamilyMember)
  | artifactFamily (candidateFamilyHash : String) (members : List ArtifactFamilyMember)
  | searchInput (summary : SearchBarrierInputSummary)
  | holdoutFamily (roundId : Uuid) (candidateFamilyHash artifactFamilyHash : String)
      (selectionRuleHash : String) (members : List HoldoutFamilyMember)
  | holdoutInput (roundId : Uuid) (holdoutFamilyHash : Option String)
      (holdoutPlanHash holdoutRevealEvidenceHash : Option String)
      (members : List BarrierMemberResult)
  | holdoutRule (ruleVersion : String) (holdoutPlanHash : Option String)
  | fwerProtocol (protocolVersion : String) (bootstrapResamples : Nat) (power : Rat)
  | multipleComparison (result : MultipleComparisonResult)
  | budgetLedger (roundId : Uuid) (reservations : List RoundBudgetReservation)
      (entries : List RoundBudgetLedgerEntry)

/-- The verifier of the evidence files: it accepts a bundle or raises a coded error. -/
abbrev RoundVerifier :=
  SearchRound → SearchBarrierDecision → RoundEvidenceBundle → Option RoundBarrierResult →
    Option MultipleComparisonResult → Except String Unit

/-- The surroundings of the round operations. -/
structure RoundEnv where
  /-- The SHA-256 of the canonical JSON of a document. -/
  digest : RoundDocument → String
  /-- The name-based identifier of a text. -/
  uuid5 : String → Uuid
  /-- The validator of a reveal, which hashes its texts and its time, accepts what the stored
  document of the reveal gives back. -/
  revealAccepted : HoldoutRevealResult → Bool
  /-- The configured finalizer, if any. -/
  scriptedFinalizer : Option RoundVerifier

/-! ## Family hashes -/

/-- `sorted(members, key=ordinal)`. -/
def byOrdinal (members : List RoundCandidate) : List RoundCandidate :=
  members.insertionSort fun a b => a.ordinal ≤ b.ordinal

/-- The member in the document of its candidate family. -/
def RoundCandidate.familyMember (round : SearchRound) (member : RoundCandidate) :
    CandidateFamilyMember where
  ordinal := member.ordinal
  candidateId := member.candidateId
  roundCandidateId := member.roundCandidateId
  sourcePackageStoreId := member.sourcePackageStoreId
  sourcePackageStoreHash := member.sourcePackageStoreHash
  sourcePackageHash := member.sourcePackageHash
  sourceManifestHash := member.sourceManifestHash
  baselineSourceHash := member.baselineSourceHash
  candidateSourceHash := member.candidateSourceHash
  hotspotId := round.hotspotId
  replacementPoint := member.replacementPoint
  candidateKind := member.candidateKind
  optimizationIntent := member.optimizationIntent

/-- `candidate_family_hash`. -/
def candidateFamilyHash (env : RoundEnv) (round : SearchRound) (members : List RoundCandidate) :
    String :=
  env.digest (.candidateFamily ((byOrdinal members).map fun member => member.familyMember round))

/-- The identity pairs of a build terminal are complete. -/
def BuildTerminal.Paired (terminal : BuildTerminal) : Prop :=
  (terminal.artifactId = none ↔ terminal.artifactHash = none) ∧
    (terminal.terminalFailureCode = none ↔ terminal.failureEvidenceHash = none)

instance (terminal : BuildTerminal) : Decidable terminal.Paired := by
  unfold BuildTerminal.Paired
  infer_instance

/-- The terminal carries an artifact. -/
def BuildTerminal.hasArtifact (terminal : BuildTerminal) : Bool :=
  terminal.artifactId.isSome && terminal.artifactHash.isSome

/-- The terminal carries a failure. -/
def BuildTerminal.hasFailure (terminal : BuildTerminal) : Bool :=
  terminal.terminalFailureCode.isSome && terminal.failureEvidenceHash.isSome

/-- `BUILD_TERMINAL_STATES`. -/
def buildTerminalStates : List RoundCandidateState := [.built, .buildFailed, .invalid]

/-- The checks of `artifact_family_hash` on one member. -/
def BuildTerminal.checkFamily (terminal : BuildTerminal) : Except Error Unit := do
  require terminal.Paired
    (.valueError "Artifact Family terminal requires complete identity pairs")
  require (terminal.state ∈ buildTerminalStates ∧ terminal.hasArtifact ≠ terminal.hasFailure)
    (.valueError "Artifact Family member is not one unambiguous Build terminal")
  require (terminal.hasArtifact = true → terminal.state = .built)
    (.valueError "only a built member may bind an Artifact")
  require (terminal.hasFailure = true → terminal.state ∈ [RoundCandidateState.buildFailed, .invalid])
    (.valueError "Build failure evidence requires a failed or invalid member")

/-- The members of an artifact family, each checked against those before it. -/
def artifactFamilyMembers (seen : List RoundCandidate) :
    List RoundCandidate → Except Error (List ArtifactFamilyMember)
  | [] => .ok []
  | member :: rest => do
      require (∀ other ∈ seen, other.ordinal ≠ member.ordinal ∧
          other.candidateId ≠ member.candidateId ∧
          other.roundCandidateId ≠ member.roundCandidateId)
        (.valueError "Artifact Family contains duplicate member identities")
      member.toBuildTerminal.checkFamily
      let members ← artifactFamilyMembers (member :: seen) rest
      return { toBuildTerminal := member.toBuildTerminal, ordinal := member.ordinal,
               candidateId := member.candidateId,
               roundCandidateId := member.roundCandidateId } :: members

/-- `artifact_family_hash`. -/
def artifactFamilyHash (env : RoundEnv) (round : SearchRound) (members : List RoundCandidate) :
    Except Error String :=
  match round.candidateFamilyHash with
  | none => .error (.valueError "Artifact Family requires one frozen Candidate Family")
  | some candidateFamily => do
      require (members.length = round.declaredCandidateCount)
        (.valueError "Artifact Family requires the declared Candidate count")
      let canonical ← artifactFamilyMembers [] (byOrdinal members)
      return env.digest (.artifactFamily candidateFamily canonical)

/-- `round_budget_ledger_hash`. -/
def roundBudgetLedgerHash (env : RoundEnv) (roundId : Uuid)
    (reservations : List RoundBudgetReservation) (entries : List RoundBudgetLedgerEntry) : String :=
  env.digest (.budgetLedger roundId
    (reservations.insertionSort fun a b => a.reservationId ≤ b.reservationId)
    (entries.insertionSort fun a b => a.ledgerEntryId ≤ b.ledgerEntryId))

/-! ## Barriers -/

/-- `_require_scripted_round`. -/
def requireScriptedRound (authority : SearchRound) (state : SearchRoundState) :
    Except Error Unit :=
  require (authority.runMode = .scripted ∧ authority.state = state)
    (.evaluationError "round_authority_mismatch")

/-- `_expected_candidate_family`. -/
def expectedCandidateFamily (candidateIds : List Uuid) (maximum : Nat) (errorCode : String) :
    Except Error (List Uuid) := do
  let items := candidateIds.insertionSort (· ≤ ·)
  require ((1 ≤ items.length ∧ items.length ≤ maximum) ∧ items.Nodup) (.evaluationError errorCode)
  return items

/-- Members in the order of their candidates. -/
def byCandidate (members : List BarrierMemberResult) : List BarrierMemberResult :=
  members.insertionSort fun a b => a.candidateId ≤ b.candidateId

/-- `_ordered_members`. -/
def orderedMembers (members : List BarrierMemberResult) :
    Except Error (List BarrierMemberResult) := do
  let items := byCandidate members
  require (items ≠ [] ∧ (items.map BarrierMemberResult.candidateId).Nodup)
    (.evaluationError "barrier_member_family_invalid")
  return items

/-- The frozen artifact of a member of a holdout family. -/
def BarrierMemberResult.holdoutMember (member : BarrierMemberResult) :
    Option HoldoutFamilyMember :=
  match member.artifactId, member.artifactHash with
  | some artifactId, some artifactHash =>
      some ⟨member.candidateId, artifactId, artifactHash⟩
  | _, _ => none

/-- `_holdout_family_hash`. -/
def holdoutFamilyHash (env : RoundEnv) (authority : SearchRound)
    (members : List BarrierMemberResult) : Except Error String := do
  let items ← orderedMembers members
  match authority.candidateFamilyHash, authority.artifactFamilyHash with
  | some candidateFamily, some artifactFamily =>
      match items.mapM BarrierMemberResult.holdoutMember with
      | some family => return env.digest (.holdoutFamily authority.roundId candidateFamily
          artifactFamily authority.selectionRuleHash family)
      | none => .error (.evaluationError "holdout_artifact_missing")
  | _, _ => .error (.evaluationError "artifact_family_not_frozen")

/-- `_statistics_valid`. -/
def CandidateStatistics.valid (statistics : CandidateStatistics) : Bool :=
  statistics.bindingsValid && statistics.correctnessPassed && statistics.cleanupHealthy

/-- The statistics bind the receipt and the correctness evidence of their member. -/
def CandidateStatistics.BoundTo (members : List BarrierMemberResult)
    (statistics : CandidateStatistics) : Prop :=
  ∃ member ∈ members, member.candidateId = statistics.candidateId ∧
    member.scriptedPhaseReceiptId = some statistics.scriptedPhaseReceiptId ∧
    member.correctnessEvidenceHash = some statistics.correctnessEvidenceHash

instance (members : List BarrierMemberResult) (statistics : CandidateStatistics) :
    Decidable (statistics.BoundTo members) := by
  unfold CandidateStatistics.BoundTo
  infer_instance

/-- The checks on the statistics of a search barrier: unique, of exactly the measured
members, bound to them, and no identity used twice. -/
def checkSearchStatistics (members : List BarrierMemberResult)
    (statistics : List CandidateStatistics) : Except Error Unit := do
  require ((statistics.map CandidateStatistics.candidateId).Nodup)
    (.evaluationError "statistics_candidate_duplicate")
  require ((∀ item ∈ statistics, ∃ member ∈ members, member.candidateId = item.candidateId ∧
        member.candidateState = .searchMeasured) ∧
      ∀ member ∈ members, member.candidateState = .searchMeasured →
        ∃ item ∈ statistics, item.candidateId = member.candidateId)
    (.evaluationError "search_statistics_family_mismatch")
  require (∀ item ∈ statistics, item.BoundTo members)
    (.evaluationError "statistics_evidence_binding_mismatch")
  require ((statistics.map CandidateStatistics.scriptedPhaseReceiptId).Nodup ∧
      (statistics.map CandidateStatistics.rawEvidenceHash).Nodup ∧
      (statistics.map CandidateStatistics.baselineSampleSetHash).Nodup)
    (.evaluationError "statistics_identity_reused")

/-- `fmean` of the restart effects raises `OverflowError`. -/
def CandidateStatistics.Overflows (statistics : CandidateStatistics) : Prop :=
  Binary64.fmean statistics.restartEffects = none

instance (statistics : CandidateStatistics) : Decidable statistics.Overflows :=
  inferInstanceAs (Decidable (_ = none))

/-- `fmean` has a value for all valid statistics. -/
def MeansExist (statistics : List CandidateStatistics) : Prop :=
  ∀ item ∈ statistics, item.valid = true → ¬item.Overflows

instance (statistics : List CandidateStatistics) : Decidable (MeansExist statistics) := by
  unfold MeansExist
  infer_instance

/-- `fmean` of the restart effects, where it has a value. -/
def CandidateStatistics.mean (statistics : CandidateStatistics) : Rat :=
  (Binary64.fmean statistics.restartEffects).getD 0

/-- The candidates with the best positive means, the smaller identifier first among
equals. -/
def selectPromoted (maxPromoted : Nat) (statistics : List CandidateStatistics) : List Uuid :=
  let eligible := statistics.filter fun item => item.valid && decide (0 < item.mean)
  let ranked := eligible.insertionSort fun a b =>
    b.mean < a.mean ∨ (a.mean = b.mean ∧ a.candidateId ≤ b.candidateId)
  ((ranked.take maxPromoted).map CandidateStatistics.candidateId).insertionSort (· ≤ ·)

/-- `M2_SEARCH_SELECTION_RULE_VERSION`. -/
def searchSelectionRuleVersion : String := "m2-scripted-search-mean-v1"

/-- `M2_HOLDOUT_BARRIER_RULE_VERSION`. -/
def holdoutBarrierRuleVersion : String := "m2-scripted-holdout-completeness-v1"

/-- The search barrier of an input summary. -/
def searchBarrierOf (env : RoundEnv) (summary : SearchBarrierInputSummary) (closedBy : String)
    (closedAt : Int) (idempotencyKey : String) : RoundBarrierResult where
  barrierId := env.uuid5 ("hcuopt:m2-search-barrier:" ++ env.digest (.searchInput summary))
  roundId := summary.roundId
  runMode := .scripted
  synthetic := true
  phase := .search
  inputFamilyHash := summary.artifactFamilyHash
  expectedMemberCount := summary.members.length
  members := summary.members
  ruleVersion := searchSelectionRuleVersion
  ruleHash := summary.selectionRuleHash
  promotedCandidateIds := summary.promotedCandidateIds
  outcome := if summary.promotedCandidateIds = [] then .noPromotableCandidate else .membersPromoted
  inputSummaryHash := env.digest (.searchInput summary)
  closedBy := closedBy
  closedAt := closedAt
  idempotencyKey := idempotencyKey

/-- The holdout family a search barrier freezes, if it promotes anybody. -/
def promotedFamilyHash (env : RoundEnv) (authority : SearchRound)
    (members : List BarrierMemberResult) (promoted : List Uuid) :
    Except Error (Option String) :=
  if promoted = [] then .ok none
  else
    (holdoutFamilyHash env authority
      (members.filter fun member => decide (member.candidateId ∈ promoted))).map some

/-- `close_scripted_search_barrier` of the evaluation package. -/
def searchBarrierDecision (env : RoundEnv) (authority : SearchRound)
    (expectedCandidateIds : List Uuid) (members : List BarrierMemberResult)
    (statistics : List CandidateStatistics) (closedBy : String) (closedAt : Int)
    (idempotencyKey : String) : Except Error SearchBarrierDecision := do
  requireScriptedRound authority .searchBarrier
  match authority.candidateFamilyHash, authority.artifactFamilyHash with
  | some _, some artifactFamily =>
      let expected ← expectedCandidateFamily expectedCandidateIds authority.declaredCandidateCount
        "search_candidate_family_invalid"
      require (expected.length = authority.declaredCandidateCount)
        (.evaluationError "barrier_member_count_mismatch")
      let items ← orderedMembers members
      require (items.map BarrierMemberResult.candidateId = expected)
        (.evaluationError "search_candidate_family_mismatch")
      require (∀ item ∈ items, item.synthetic = true) (.evaluationError "barrier_mode_mismatch")
      checkSearchStatistics items statistics
      require (MeansExist statistics) (.overflowError "intermediate overflow in fsum")
      let summary : SearchBarrierInputSummary :=
        { roundId := authority.roundId
          artifactFamilyHash := artifactFamily
          selectionRuleHash := authority.selectionRuleHash
          members := items
          statistics := statistics.insertionSort fun a b => a.candidateId ≤ b.candidateId
          promotedCandidateIds := selectPromoted authority.maxPromoted statistics }
      let barrier := searchBarrierOf env summary closedBy closedAt idempotencyKey
      require barrier.Valid (.validationError "RoundBarrierResult")
      let family ← promotedFamilyHash env authority items summary.promotedCandidateIds
      return { barrier := barrier, inputSummary := summary, holdoutFamilyHash := family }
  | _, _ => .error (.evaluationError "artifact_family_not_frozen")

/-- The digest of the decision that the database gives back is the one its barrier carries. -/
def SearchBarrierDecision.Reloads (env : RoundEnv) (decision : SearchBarrierDecision) : Prop :=
  env.digest (.searchInput decision.unsigned.inputSummary) = decision.barrier.inputSummaryHash

instance (env : RoundEnv) (decision : SearchBarrierDecision) : Decidable (decision.Reloads env) :=
  inferInstanceAs (Decidable (_ = _))

/-- `SearchBarrierDecision.model_validate` of the stored document of a decision. -/
def SearchBarrierDecision.reload (env : RoundEnv) (decision : SearchBarrierDecision) :
    Except Error SearchBarrierDecision := do
  require (decision.Reloads env) (.validationError "SearchBarrierDecision")
  return decision.unsigned

theorem SearchBarrierDecision.reload_eq_ok {env : RoundEnv}
    {decision loaded : SearchBarrierDecision} :
    decision.reload env = .ok loaded ↔ decision.Reloads env ∧ loaded = decision.unsigned := by
  simp only [reload, Except.bind_eq_ok, require_eq_ok]
  constructor
  · rintro ⟨_, reloads, ok⟩
    exact ⟨reloads, (Except.ok.inj ok).symm⟩
  · rintro ⟨reloads, rfl⟩
    exact ⟨(), reloads, rfl⟩

/-- The holdout barrier of an input. -/
def holdoutBarrierOf (env : RoundEnv) (authority : SearchRound) (family : String)
    (items : List BarrierMemberResult) (closedBy : String) (closedAt : Int)
    (idempotencyKey : String) : RoundBarrierResult :=
  let inputHash := env.digest (.holdoutInput authority.roundId authority.holdoutFamilyHash
    authority.holdoutPlanHash authority.holdoutRevealEvidenceHash items)
  { barrierId := env.uuid5 ("hcuopt:m2-holdout-barrier:" ++ inputHash)
    roundId := authority.roundId
    runMode := .scripted
    synthetic := true
    phase := .holdout
    inputFamilyHash := family
    expectedMemberCount := items.length
    members := items
    ruleVersion := holdoutBarrierRuleVersion
    ruleHash := env.digest (.holdoutRule holdoutBarrierRuleVersion authority.holdoutPlanHash)
    outcome := .completed
    inputSummaryHash := inputHash
    closedBy := closedBy
    closedAt := closedAt
    idempotencyKey := idempotencyKey }

/-- `close_scripted_holdout_barrier` of the evaluation package. -/
def holdoutBarrierResult (env : RoundEnv) (authority : SearchRound)
    (expectedCandidateIds : List Uuid) (members : List BarrierMemberResult) (closedBy : String)
    (closedAt : Int) (idempotencyKey : String) : Except Error RoundBarrierResult := do
  requireScriptedRound authority .holdoutBarrier
  match authority.holdoutFamilyHash with
  | none => .error (.evaluationError "holdout_plan_not_revealed")
  | some family => do
      require (authority.holdoutPlanHash ≠ none ∧ authority.holdoutRevealEvidenceHash ≠ none)
        (.evaluationError "holdout_plan_not_revealed")
      let expected ← expectedCandidateFamily expectedCandidateIds authority.maxPromoted
        "holdout_family_invalid"
      let items ← orderedMembers members
      require (items.map BarrierMemberResult.candidateId = expected)
        (.evaluationError "holdout_family_mismatch")
      let recomputed ← holdoutFamilyHash env authority items
      require (recomputed = family) (.evaluationError "holdout_family_hash_mismatch")
      let barrier := holdoutBarrierOf env authority family items closedBy closedAt idempotencyKey
      require barrier.Valid (.validationError "RoundBarrierResult")
      return barrier

/-! ## Multiple comparison -/

/-- `m2_fwer_protocol_hash`. -/
def fwerProtocolHash (env : RoundEnv) : String :=
  env.digest (.fwerProtocol "m2-bonferroni-bootstrap-v1" 2000 (4 / 5))

/-- `recompute_multiple_comparison_result_hash`: the identifier, the run mode, the
protocol version, the hash itself and the time are not part of the document. -/
def multipleComparisonResultHash (env : RoundEnv) (result : MultipleComparisonResult) : String :=
  env.digest (.multipleComparison
    { result with
      multipleComparisonId := 0
      runMode := .scripted
      protocolVersion := ""
      resultHash := ""
      createdAt := 0 })

end HcuAutoOpt
