import HcuAutoOpt.Storage.SearchRounds

/-!
# Barriers, finalization and recovery of search rounds

The operations of `storage/repository.py` on the durable authority of a scripted search
round: `close_scripted_search_barrier`, `record_scripted_holdout_reveal`,
`close_scripted_holdout_barrier`, `record_scripted_multiple_comparison`,
`finalize_scripted_search_round`, the two budget operations and the recovery
projection `reconcile_scripted_search_round`.

A payload column and its hash are one value here: a replay compares the hashes of the stored
value and the one it is given, which are those of the values, and then the stored document with
the given one, which differ where a number does not read back (`ReadsBack`). An operation that
reads a search decision validates its document again (`SearchBarrierDecision.reload`). An
insertion without a conflict clause raises on a taken unique index, which is a database error.
-/

set_option autoImplicit false

namespace HcuAutoOpt

open Foundation

/-! ## Barriers -/

/-- The decision of the search barrier of a round. -/
def Store.searchDecision (s : Store) (roundId : Uuid) : Option SearchBarrierDecision :=
  match s.roundBarriers.find? (roundId, .search) with
  | some (.search decision) => some decision
  | _ => none

/-- The holdout barrier of a round. -/
def Store.holdoutBarrier (s : Store) (roundId : Uuid) : Option RoundBarrierResult :=
  match s.roundBarriers.find? (roundId, .holdout) with
  | some (.holdout barrier) => some barrier
  | _ => none

/-- A barrier is persisted under an identifier and a key of its own. -/
def Store.BarrierFresh (s : Store) (barrier : RoundBarrierResult) : Prop :=
  ∀ row ∈ s.roundBarriers.rows, row.barrier.barrierId ≠ barrier.barrierId ∧
    row.barrier.idempotencyKey ≠ barrier.idempotencyKey

instance (s : Store) (barrier : RoundBarrierResult) : Decidable (s.BarrierFresh barrier) := by
  unfold Store.BarrierFresh
  infer_instance

/-- The member of a barrier is the stored member, with its artifact. -/
def RoundCandidate.Identifies (stored : RoundCandidate) (item : BarrierMemberResult) : Prop :=
  stored.candidateId = item.candidateId ∧ stored.roundCandidateId = item.roundCandidateId ∧
  stored.artifactId = item.artifactId ∧ stored.artifactHash = item.artifactHash

instance (stored : RoundCandidate) (item : BarrierMemberResult) :
    Decidable (stored.Identifies item) := by
  unfold RoundCandidate.Identifies
  infer_instance

/-- The barrier keeps the failure evidence of a failed build. -/
def RoundCandidate.KeepsFailure (stored : RoundCandidate) (item : BarrierMemberResult) : Prop :=
  stored.state ∈ [RoundCandidateState.buildFailed, .invalid] →
    stored.failureEvidenceHash = item.failureEvidenceHash

instance (stored : RoundCandidate) (item : BarrierMemberResult) :
    Decidable (stored.KeepsFailure item) := by
  unfold RoundCandidate.KeepsFailure
  infer_instance

/-- The member in another state. -/
def RoundCandidate.inState (state : RoundCandidateState) (member : RoundCandidate) :
    RoundCandidate :=
  { member with state := state }

instance (state : RoundCandidateState) : KeepsKey (RoundCandidate.inState state) := ⟨fun _ => rfl⟩

/-- The member states that a barrier stores. -/
def storeMemberStates (items : List BarrierMemberResult) (members : Table RoundCandidate) :
    Table RoundCandidate :=
  items.foldl
    (fun table item => table.update item.roundCandidateId
      (RoundCandidate.inState item.candidateState))
    members

/-- `_search_round_authority`, in the state that the barrier moves the round to. -/
def SearchRound.authority (round : SearchRound) (state : SearchRoundState) :
    Except Error SearchRound := do
  require round.Valid (.validationError "SearchRound")
  return { round with state := state }

/-- The round behind its search barrier. -/
def SearchRound.closeSearch (holdoutFamily : Option String) (round : SearchRound) : SearchRound :=
  { round with
    state := .searchBarrier
    holdoutFamilyHash := holdoutFamily
    version := round.version + 1 }

instance (holdoutFamily : Option String) : KeepsKey (SearchRound.closeSearch holdoutFamily) :=
  ⟨fun _ => rfl⟩

/-- The first closing of a search barrier. -/
def persistSearchBarrier (env : RoundEnv) (decision : SearchBarrierDecision)
    (round : SearchRound) : Transaction Store Error SearchRound :=
  fun s => do
    require (round.runMode = .scripted ∧
        round.state ∈ [SearchRoundState.correctness, .searchMeasuring] ∧
        round.artifactFamilyHash ≠ none)
      (.conflict "M2a Search Barrier is not ready to close")
    require ((s.membersOf round.roundId).length = round.declaredCandidateCount)
      (.conflict "M2a Search Barrier lost a frozen Candidate member")
    require (∀ item ∈ decision.barrier.members,
        ∃ stored ∈ s.membersOf round.roundId, stored.Identifies item)
      (.conflict "M2a Search Barrier Candidate or Artifact identity drifted")
    require (∀ item ∈ decision.barrier.members, ∀ stored ∈ s.membersOf round.roundId,
        stored.candidateId = item.candidateId → stored.KeepsFailure item)
      (.conflict "M2a Search Barrier changed frozen Build failure evidence")
    let authority ← round.authority .searchBarrier
    let expected ← searchBarrierDecision env authority
      ((s.membersOf round.roundId).map fun member => member.candidateId)
      decision.barrier.members decision.inputSummary.statistics decision.barrier.closedBy
      decision.barrier.closedAt decision.barrier.idempotencyKey
    require (expected = decision)
      (.conflict "M2a Search Barrier does not match the D selection authority")
    require (s.BarrierFresh decision.barrier) (.databaseError "round_barriers")
    return ({ s with
      roundBarriers := s.roundBarriers.insertIfAbsent (.search decision)
      roundCandidates := storeMemberStates decision.barrier.members s.roundCandidates
      searchRounds := s.searchRounds.update round.roundId
        (SearchRound.closeSearch decision.holdoutFamilyHash) },
      round.closeSearch decision.holdoutFamilyHash)

/-- `close_scripted_search_barrier`. -/
def closeScriptedSearchBarrier (env : RoundEnv) (decision : SearchBarrierDecision) :
    Transaction Store Error SearchRound :=
  fun s => do
    require (decision.barrier.phase = .search ∧ decision.barrier.runMode = .scripted ∧
        decision.barrier.synthetic = true)
      (.conflict "M2a Search Barrier requires scripted Search evidence")
    let round ← s.requireRound decision.barrier.roundId
    match s.searchDecision decision.barrier.roundId with
    | some existing => do
        require (existing = decision ∧ decision.ReadsBack)
          (.conflict "M2a Search Barrier is already closed with other inputs")
        return (s, round)
    | none => persistSearchBarrier env decision round s

/-! ## Reveal -/

/-- The round with its holdout plan revealed. -/
def SearchRound.revealHoldout (reveal : HoldoutRevealResult) (round : SearchRound) : SearchRound :=
  { round with
    state := .holdoutMeasuring
    holdoutPlanHash := some reveal.planHash
    holdoutRevealLeaseId := some reveal.revealLeaseId
    holdoutRevealEvidenceHash := some reveal.revealEvidenceHash
    version := round.version + 1 }

instance (reveal : HoldoutRevealResult) : KeepsKey (SearchRound.revealHoldout reveal) :=
  ⟨fun _ => rfl⟩

/-- The reveal is the one the round and its search barrier are bound to. -/
def HoldoutRevealResult.BoundTo (reveal : HoldoutRevealResult) (round : SearchRound)
    (search : SearchBarrierDecision) : Prop :=
  round.holdoutFamilyHash = search.holdoutFamilyHash ∧
  some reveal.holdoutFamilyHash = search.holdoutFamilyHash ∧
  reveal.commitment = round.holdoutPlanCommitment ∧
  reveal.authorityId = round.holdoutPlanAuthorityId ∧
  reveal.authorityHash = round.holdoutPlanAuthorityHash

instance (reveal : HoldoutRevealResult) (round : SearchRound) (search : SearchBarrierDecision) :
    Decidable (reveal.BoundTo round search) := by
  unfold HoldoutRevealResult.BoundTo
  infer_instance

/-- The first recording of a reveal. -/
def persistHoldoutReveal (env : RoundEnv) (reveal : HoldoutRevealResult) (round : SearchRound) :
    Transaction Store Error SearchRound :=
  fun s => do
    let row ← requireSome (s.searchDecision reveal.roundId)
      (.conflict "M2a Holdout reveal requires a durable Search Barrier")
    let search ← row.reload env
    require (round.runMode = .scripted ∧ round.state = .searchBarrier ∧
        search.barrier.outcome = .membersPromoted ∧ reveal.BoundTo round search)
      (.conflict "M2a Holdout reveal changed its frozen Round authority")
    require (∀ row ∈ s.holdoutReveals.rows, row.revealLeaseId ≠ reveal.revealLeaseId)
      (.databaseError "round_holdout_reveals")
    return ({ s with
      holdoutReveals := s.holdoutReveals.insertIfAbsent reveal
      searchRounds := s.searchRounds.update reveal.roundId (SearchRound.revealHoldout reveal) },
      round.revealHoldout reveal)

/-- `record_scripted_holdout_reveal`. -/
def recordScriptedHoldoutReveal (env : RoundEnv) (reveal : HoldoutRevealResult) :
    Transaction Store Error SearchRound :=
  fun s => do
    let round ← s.requireRound reveal.roundId
    match s.holdoutReveals.find? reveal.roundId with
    | some existing => do
        require (existing = reveal)
          (.conflict "M2a Holdout Plan was already revealed with other inputs")
        return (s, round)
    | none => persistHoldoutReveal env reveal round s

/-! ## Holdout -/

/-- The round behind its holdout barrier. -/
def SearchRound.closeHoldout (round : SearchRound) : SearchRound :=
  { round with state := .holdoutBarrier, version := round.version + 1 }

instance : KeepsKey SearchRound.closeHoldout := ⟨fun _ => rfl⟩

/-- The first closing of a holdout barrier. -/
def persistHoldoutBarrier (env : RoundEnv) (barrier : RoundBarrierResult) (round : SearchRound) :
    Transaction Store Error SearchRound :=
  fun s => do
    let row ← requireSome (s.searchDecision barrier.roundId)
      (.conflict "M2a Holdout Barrier requires Search and Reveal evidence")
    let _ ← requireSome (s.holdoutReveals.find? barrier.roundId)
      (.conflict "M2a Holdout Barrier requires Search and Reveal evidence")
    let search ← row.reload env
    require (round.state = .holdoutMeasuring ∧ search.barrier.outcome = .membersPromoted ∧
        barrier.members.map BarrierMemberResult.candidateId = search.barrier.promotedCandidateIds)
      (.conflict "M2a Holdout Barrier family is not ready")
    require (∀ item ∈ barrier.members,
        ∃ stored ∈ s.membersOf round.roundId, stored.Identifies item)
      (.conflict "M2a Holdout Barrier Candidate or Artifact drifted")
    let authority ← round.authority .holdoutBarrier
    let expected ← holdoutBarrierResult env authority search.barrier.promotedCandidateIds
      barrier.members barrier.closedBy barrier.closedAt barrier.idempotencyKey
    require (expected = barrier)
      (.conflict "M2a Holdout Barrier does not match the D authority")
    require (s.BarrierFresh barrier) (.databaseError "round_barriers")
    return ({ s with
      roundBarriers := s.roundBarriers.insertIfAbsent (.holdout barrier)
      roundCandidates := storeMemberStates barrier.members s.roundCandidates
      searchRounds := s.searchRounds.update round.roundId SearchRound.closeHoldout },
      round.closeHoldout)

/-- `close_scripted_holdout_barrier`. -/
def closeScriptedHoldoutBarrier (env : RoundEnv) (barrier : RoundBarrierResult) :
    Transaction Store Error SearchRound :=
  fun s => do
    require (barrier.phase = .holdout ∧ barrier.runMode = .scripted ∧ barrier.synthetic = true)
      (.conflict "M2a Holdout Barrier requires scripted Holdout evidence")
    let round ← s.requireRound barrier.roundId
    match s.holdoutBarrier barrier.roundId with
    | some existing => do
        require (existing = barrier)
          (.conflict "M2a Holdout Barrier is already closed with other inputs")
        return (s, round)
    | none => persistHoldoutBarrier env barrier round s

/-! ## Multiple comparison -/

/-- The round with one more recorded result. -/
def SearchRound.nextVersion (round : SearchRound) : SearchRound :=
  { round with version := round.version + 1 }

instance : KeepsKey SearchRound.nextVersion := ⟨fun _ => rfl⟩

/-- The result is a scripted one under the protocol of the evaluation package. -/
def MultipleComparisonResult.Scripted (env : RoundEnv) (result : MultipleComparisonResult) :
    Prop :=
  result.runMode = .scripted ∧ result.synthetic = true ∧
  result.protocolHash = fwerProtocolHash env ∧
  result.resultHash = multipleComparisonResultHash env result

instance (env : RoundEnv) (result : MultipleComparisonResult) :
    Decidable (result.Scripted env) := by
  unfold MultipleComparisonResult.Scripted
  infer_instance

/-- The result is about the holdout barrier of the round. -/
def MultipleComparisonResult.BoundTo (result : MultipleComparisonResult) (round : SearchRound)
    (holdout : Option RoundBarrierResult) : Prop :=
  (∃ barrier ∈ holdout, barrier.barrierId = result.holdoutBarrierId) ∧
  round.holdoutFamilyHash = some result.holdoutFamilyHash ∧
  round.familyAlpha = result.familyAlpha

instance (result : MultipleComparisonResult) (round : SearchRound)
    (holdout : Option RoundBarrierResult) : Decidable (result.BoundTo round holdout) := by
  unfold MultipleComparisonResult.BoundTo
  infer_instance

/-- A result is persisted under identifiers of its own. -/
def Store.ComparisonFresh (s : Store) (result : MultipleComparisonResult) : Prop :=
  ∀ row ∈ s.multipleComparisons.rows,
    row.multipleComparisonId ≠ result.multipleComparisonId ∧
    row.holdoutBarrierId ≠ result.holdoutBarrierId ∧ row.resultHash ≠ result.resultHash

instance (s : Store) (result : MultipleComparisonResult) : Decidable (s.ComparisonFresh result) := by
  unfold Store.ComparisonFresh
  infer_instance

/-- `record_scripted_multiple_comparison`. -/
def recordScriptedMultipleComparison (env : RoundEnv) (result : MultipleComparisonResult) :
    Transaction Store Error MultipleComparisonResult :=
  fun s => do
    require (result.Scripted env)
      (.conflict "M2a Multiple Comparison is not a valid scripted FWER result")
    let round ← s.requireRound result.roundId
    match s.multipleComparisons.find? result.roundId with
    | some existing => do
        require (existing = result ∧ result.ReadsBack)
          (.conflict "M2a Multiple Comparison already has other inputs")
        return (s, result)
    | none => do
        require (round.state = .holdoutBarrier ∧
            result.BoundTo round (s.holdoutBarrier result.roundId))
          (.conflict "M2a Multiple Comparison changed its Holdout authority")
        require (s.ComparisonFresh result) (.databaseError "multiple_comparison_results")
        return ({ s with
          multipleComparisons := s.multipleComparisons.insertIfAbsent result
          searchRounds := s.searchRounds.update result.roundId SearchRound.nextVersion }, result)

/-! ## Finalization -/

/-- The reservations of a round. -/
def Store.reservationsOf (s : Store) (roundId : Uuid) : List RoundBudgetReservation :=
  s.budgetReservations.rows.filter fun row => decide (row.roundId = roundId)

/-- The ledger of a round. -/
def Store.ledgerOf (s : Store) (roundId : Uuid) : List RoundBudgetLedgerEntry :=
  s.budgetLedger.rows.filter fun row => decide (row.roundId = roundId)

/-- The round completed by its evidence. -/
def SearchRound.complete (round : SearchRound) : SearchRound :=
  { round with state := .scriptedCompleted, version := round.version + 1 }

instance : KeepsKey SearchRound.complete := ⟨fun _ => rfl⟩

/-- The terminal path that the evidence names was gone to its end. -/
def requireTerminalPath (evidence : RoundEvidenceBundle) (round : SearchRound)
    (search : SearchBarrierDecision) (holdout : Option RoundBarrierResult)
    (comparison : Option MultipleComparisonResult) : Except Error Unit :=
  match evidence.terminalReason with
  | .noPromotableCandidate =>
      require (round.state = .searchBarrier ∧ search.barrier.outcome = .noPromotableCandidate ∧
          holdout = none ∧ comparison = none)
        (.conflict "M2a zero-promotion terminal path is incomplete")
  | .holdoutCompleted =>
      require (round.state = .holdoutBarrier ∧ search.barrier.outcome = .membersPromoted ∧
          holdout ≠ none ∧ comparison ≠ none)
        (.conflict "M2a Holdout terminal path is incomplete")

/-- The verdict of the verifier; its coded error is a conflict of the caller. -/
def verifierVerdict (verdict : Except String Unit) : Except Error Unit :=
  match verdict with
  | .ok () => .ok ()
  | .error code => .error (.conflict code)

@[simp] theorem verifierVerdict_eq_ok {verdict : Except String Unit} {u : Unit} :
    verifierVerdict verdict = .ok u ↔ verdict = .ok () := by
  unfold verifierVerdict
  split <;> simp

/-- The first finalization of a round. -/
def persistEvidence (env : RoundEnv) (evidence : RoundEvidenceBundle) (round : SearchRound) :
    Transaction Store Error SearchRound :=
  fun s => do
    let verify ← requireSome env.scriptedFinalizer
      (.conflict "M2a Scripted Finalizer is not configured")
    let row ← requireSome (s.searchDecision evidence.roundId)
      (.conflict "M2a Scripted Finalizer requires a durable Search Barrier")
    let search ← row.reload env
    requireTerminalPath evidence round search (s.holdoutBarrier evidence.roundId)
      (s.multipleComparisons.find? evidence.roundId)
    require (∀ row ∈ s.reservationsOf evidence.roundId, row.state ≠ .reserved)
      (.conflict "M2a Scripted Finalizer requires every Budget reservation terminal")
    require (evidence.budgetLedgerHash = roundBudgetLedgerHash env evidence.roundId
        (s.reservationsOf evidence.roundId) (s.ledgerOf evidence.roundId))
      (.conflict "M2a Round Evidence changed the durable Budget Ledger")
    let authority ← round.authority round.state
    verifierVerdict (verify authority search evidence (s.holdoutBarrier evidence.roundId)
      (s.multipleComparisons.find? evidence.roundId))
    require (∀ row ∈ s.roundEvidenceBundles.rows,
        row.roundEvidenceBundleId ≠ evidence.roundEvidenceBundleId)
      (.databaseError "round_evidence_bundles")
    return (setTaskState round.taskId .completed { s with
      roundEvidenceBundles := s.roundEvidenceBundles.insertIfAbsent evidence
      searchRounds := s.searchRounds.update evidence.roundId SearchRound.complete },
      round.complete)

/-- `finalize_scripted_search_round`. -/
def finalizeScriptedSearchRound (env : RoundEnv) (evidence : RoundEvidenceBundle) :
    Transaction Store Error SearchRound :=
  fun s => do
    require (evidence.runMode = .scripted ∧ evidence.synthetic = true ∧
        evidence.automaticReleaseAllowed = false)
      (.conflict "M2a Scripted Finalizer accepts only non-releasable synthetic evidence")
    let round ← s.requireRound evidence.roundId
    match s.roundEvidenceBundles.find? evidence.roundId with
    | some existing => do
        require (existing = evidence ∧ evidence.ReadsBack)
          (.conflict "M2a Scripted Round already finalized with other evidence")
        require (round.state = .scriptedCompleted)
          (.conflict "M2a Scripted Evidence exists without its terminal state")
        return (s, round)
    | none => persistEvidence env evidence round s

/-! ## Budget -/

/-- The row has the identifier, the key or the job attempt of the request. -/
def RoundBudgetReservation.clashes (request row : RoundBudgetReservation) : Bool :=
  decide (row.reservationId = request.reservationId ∨
    row.idempotencyKey = request.idempotencyKey ∨
    row.jobId = request.jobId ∧ row.attempt = request.attempt)

/-- The unique indexes of `round_budget_ledger`. -/
def RoundBudgetLedgerEntry.clashes (entry row : RoundBudgetLedgerEntry) : Bool :=
  decide (row.ledgerEntryId = entry.ledgerEntryId ∨
    row.reservationId = entry.reservationId ∧ row.entryType = entry.entryType ∨
    row.roundId = entry.roundId ∧ row.idempotencyKey = entry.idempotencyKey)

/-- The entry of a reservation in the ledger. -/
def Store.ledgerEntry? (s : Store) (reservationId : Uuid) (types : List RoundBudgetEntryType) :
    Option RoundBudgetLedgerEntry :=
  s.budgetLedger.rows.find? fun row =>
    decide (row.reservationId = reservationId ∧ row.entryType ∈ types)

/-- The usage of a round: its members, what is planned and what was settled. -/
def Store.roundUsage (s : Store) (roundId : Uuid) : BudgetUsage :=
  let counted : BudgetUsage := { candidates := (s.membersOf roundId).length }
  let planned := (s.reservationsOf roundId).filter fun row => decide (row.state = .reserved)
  let settled := (s.ledgerOf roundId).filter fun row => decide (row.entryType = .settle)
  settled.foldl (fun usage row => usage.plus row.actual)
    (planned.foldl (fun usage row => usage.plus row.planned) counted)

/-- The job of a reservation waits for the attempt that is reserved for. -/
def Store.JobReservable (s : Store) (round : SearchRound) (request : RoundBudgetReservation) :
    Prop :=
  ∃ job ∈ s.jobs.find? request.jobId, job.taskId = round.taskId ∧ job.state = .queued ∧
    request.attempt = job.attempts + 1

instance (s : Store) (round : SearchRound) (request : RoundBudgetReservation) :
    Decidable (s.JobReservable round request) := by
  unfold Store.JobReservable
  infer_instance

/-- The candidate of a reservation, if it names one, is a member of the round. -/
def Store.HasMember (s : Store) (roundId : Uuid) (candidateId : Option Uuid) : Prop :=
  candidateId = none ∨ ∃ member ∈ s.membersOf roundId, some member.candidateId = candidateId

instance (s : Store) (roundId : Uuid) (candidateId : Option Uuid) :
    Decidable (s.HasMember roundId candidateId) := by
  unfold Store.HasMember
  infer_instance

/-- The stored reserve entry, which reports no runtime. -/
def RoundBudgetLedgerEntry.reserving (entry : RoundBudgetLedgerEntry) : RoundBudgetLedgerEntry :=
  { entry with leaseHeldSeconds := 0, harnessActiveSeconds := 0 }

/-- A budget without a violation. -/
def requireBudget (violation : Option String) : Except Error Unit :=
  match violation with
  | none => .ok ()
  | some name => .error (.conflict s!"M2a Round Budget exhausted: {name}")

@[simp] theorem requireBudget_eq_ok {violation : Option String} {u : Unit} :
    requireBudget violation = .ok u ↔ violation = none := by
  cases violation <;> simp [requireBudget]

/-- The reservation of an amount that was not reserved before. -/
def persistReservation (request : RoundBudgetReservation) (entry : RoundBudgetLedgerEntry)
    (round : SearchRound) :
    Transaction Store Error (RoundBudgetReservation × RoundBudgetLedgerEntry) :=
  fun s => do
    require (round.state ≠ .intakeOpen ∧ round.state.isTerminal = false)
      (.conflict "M2a Round is not accepting new Budget reservations")
    require (s.JobReservable round request)
      (.conflict "M2a Budget reservation Job binding is not reservable")
    require (s.HasMember request.roundId request.candidateId)
      (.conflict "M2a Budget reservation Candidate is not a Round member")
    requireBudget (round.budget.violation ((s.roundUsage request.roundId).plus request.planned))
    require (s.budgetLedger.rows.any entry.clashes = false) (.databaseError "round_budget_ledger")
    return ({ s with
      budgetReservations := s.budgetReservations.insertIfAbsent request
      budgetLedger := s.budgetLedger.insertIfAbsent entry.reserving }, request, entry.reserving)

/-- `reserve_round_budget`. -/
def reserveRoundBudget (request : RoundBudgetReservation) (entry : RoundBudgetLedgerEntry) :
    Transaction Store Error (RoundBudgetReservation × RoundBudgetLedgerEntry) :=
  fun s => do
    require (request.state = .reserved)
      (.conflict "new M2a Budget reservation must start reserved")
    require (request.planned.isZero = false) (.conflict "M2a Budget reservation cannot be empty")
    require (entry.entryType = .reserve ∧ entry.reservationId = request.reservationId ∧
        entry.roundId = request.roundId ∧ entry.reserved = request.planned)
      (.conflict "M2a Budget reserve entry does not match its reservation")
    let round ← s.requireRound request.roundId
    match s.budgetReservations.rows.find? request.clashes with
    | some existing => do
        require (existing.toReservationIdentity = request.toReservationIdentity)
          (.conflict "M2a Budget reservation identity belongs to other inputs")
        let persisted ← requireSome (s.ledgerEntry? request.reservationId [.reserve])
          (.conflict "M2a Budget reservation is missing its reserve ledger event")
        require (persisted = entry)
          (.conflict "M2a Budget reserve event was replayed with other inputs")
        return (s, existing, persisted)
    | none => persistReservation request entry round s

/-- The reservation in a terminal state. -/
def RoundBudgetReservation.close (state : RoundBudgetReservationState)
    (reservation : RoundBudgetReservation) : RoundBudgetReservation :=
  { reservation with state := state }

instance (state : RoundBudgetReservationState) : KeepsKey (RoundBudgetReservation.close state) :=
  ⟨fun _ => rfl⟩

/-- The state that a terminal entry leaves its reservation in. -/
def RoundBudgetLedgerEntry.closes (entry : RoundBudgetLedgerEntry) :
    RoundBudgetReservationState :=
  if entry.entryType = .settle then .settled else .released

/-- `finalize_round_budget`. -/
def finalizeRoundBudget (entry : RoundBudgetLedgerEntry) :
    Transaction Store Error (RoundBudgetReservation × RoundBudgetLedgerEntry) :=
  fun s => do
    require (entry.entryType ∈ [RoundBudgetEntryType.settle, .release])
      (.conflict "M2a Budget terminal event must settle or release")
    let _ ← s.requireRound entry.roundId
    let reservation ← requireSome (s.budgetReservations.find? entry.reservationId)
      (.conflict "M2a Budget terminal event has no matching reservation")
    require (reservation.roundId = entry.roundId)
      (.conflict "M2a Budget terminal event has no matching reservation")
    match s.ledgerEntry? entry.reservationId [.settle, .release] with
    | some existing => do
        require (existing = entry)
          (.conflict "M2a Budget reservation already has another terminal event")
        return (s, reservation, existing)
    | none => do
        require (reservation.state = .reserved)
          (.conflict "M2a Budget reservation is already terminal")
        require (reservation.planned = entry.reserved)
          (.conflict "M2a Budget terminal event changed the reserved amount")
        require (s.budgetLedger.rows.any entry.clashes = false)
          (.databaseError "round_budget_ledger")
        return ({ s with
          budgetLedger := s.budgetLedger.insertIfAbsent entry
          budgetReservations := s.budgetReservations.update entry.reservationId
            (RoundBudgetReservation.close entry.closes) },
          reservation.close entry.closes, entry)

/-! ## Recovery -/

/-- The durable rows of a round. -/
structure RoundGraph where
  round : SearchRound
  members : List RoundCandidate
  search : Option SearchBarrierDecision
  reveal : Option HoldoutRevealResult
  holdout : Option RoundBarrierResult
  comparison : Option MultipleComparisonResult
  evidence : Option RoundEvidenceBundle

/-- The durable rows of a round. -/
def Store.roundGraph (s : Store) (round : SearchRound) : RoundGraph where
  round := round
  members := s.membersOf round.roundId
  search := s.searchDecision round.roundId
  reveal := s.holdoutReveals.find? round.roundId
  holdout := s.holdoutBarrier round.roundId
  comparison := s.multipleComparisons.find? round.roundId
  evidence := s.roundEvidenceBundles.find? round.roundId

/-- The next control-plane action of a round. -/
inductive RoundAction where
  | awaitCandidateIntake | closeIntake | awaitBuildTerminals | freezeArtifactFamily
  | closeSearchBarrier | recordHoldoutReveal | closeHoldoutBarrier | recordMultipleComparison
  | finalizeScriptedRound | none
  deriving DecidableEq, Repr

/-- What the durable rows of a round say about it. -/
structure RoundProjection where
  expectedState : SearchRoundState
  nextAction : RoundAction
  reason : String
  deriving DecidableEq, Repr

namespace RoundGraph

/-- No later row is there without the rows before it. -/
def Complete (graph : RoundGraph) : Prop :=
  (graph.holdout ≠ none → graph.search ≠ none ∧ graph.reveal ≠ none) ∧
  (graph.reveal ≠ none → ∃ search ∈ graph.search, search.barrier.promotedCandidateIds ≠ []) ∧
  (graph.comparison ≠ none → graph.holdout ≠ none) ∧
  (graph.evidence ≠ none → graph.search ≠ none)

instance (graph : RoundGraph) : Decidable graph.Complete := by
  unfold Complete
  infer_instance

/-- The members whose build has ended. -/
def builtCount (graph : RoundGraph) : Nat :=
  (graph.members.filter fun member => decide (member.state ∈ buildTerminalStates)).length

/-- The projection of a round before its search barrier. -/
def projectFamilies (graph : RoundGraph) : RoundProjection :=
  if graph.round.artifactFamilyHash ≠ none then
    { expectedState := .correctness
      nextAction := .closeSearchBarrier
      reason := "Artifact Family is frozen; Search Barrier evidence is required" }
  else if graph.round.candidateFamilyHash ≠ none then
    if graph.builtCount = graph.round.declaredCandidateCount then
      { expectedState := if graph.builtCount ≠ 0 then .building else .intakeClosed
        nextAction := .freezeArtifactFamily
        reason := "all Build members are terminal; freeze Artifact Family" }
    else
      { expectedState := if graph.builtCount ≠ 0 then .building else .intakeClosed
        nextAction := .awaitBuildTerminals
        reason := "Candidate Family is frozen; wait for Build terminals" }
  else if graph.members.length = graph.round.declaredCandidateCount then
    { expectedState := .intakeOpen
      nextAction := .closeIntake
      reason := "declared Candidate count is present; close Intake" }
  else
    { expectedState := .intakeOpen
      nextAction := .awaitCandidateIntake
      reason := "Candidate Intake is still incomplete" }

/-- The projection of a round whose search barrier is closed. -/
def projectSearch (search : SearchBarrierDecision) : RoundProjection :=
  if search.barrier.promotedCandidateIds ≠ [] then
    { expectedState := .searchBarrier
      nextAction := .recordHoldoutReveal
      reason := "Search promoted Candidates; reveal Holdout Plan" }
  else
    { expectedState := .searchBarrier
      nextAction := .finalizeScriptedRound
      reason := "Search promoted no Candidate; finalize without Holdout" }

/-- The state, the next action and its reason that the rows of a round stand for. -/
def project (graph : RoundGraph) : RoundProjection :=
  if graph.evidence ≠ none then
    { expectedState := .scriptedCompleted
      nextAction := .none
      reason := "Scripted Round Evidence is finalized" }
  else if graph.comparison ≠ none then
    { expectedState := .holdoutBarrier
      nextAction := .finalizeScriptedRound
      reason := "FWER is durable; Round Evidence can be finalized" }
  else if graph.holdout ≠ none then
    { expectedState := .holdoutBarrier
      nextAction := .recordMultipleComparison
      reason := "Holdout Barrier is durable; FWER is required" }
  else if graph.reveal ≠ none then
    { expectedState := .holdoutMeasuring
      nextAction := .closeHoldoutBarrier
      reason := "Holdout Plan is revealed; wait for every Holdout member" }
  else
    match graph.search with
    | some search => projectSearch search
    | none => graph.projectFamilies

end RoundGraph

/-- `SearchRoundReconcileResult`. -/
structure SearchRoundReconcileResult where
  round : SearchRound
  consistent : Bool := true
  nextAction : RoundAction
  reason : String
  automaticReleaseAllowed : Bool := false
  deriving DecidableEq, Repr

/-- The state of the task of a round in the given state. -/
def SearchRoundState.taskState (state : SearchRoundState) : TaskState :=
  if state = .scriptedCompleted then .completed else .created

/-- The stored documents of the round are accepted by their models again: those of the barriers,
of the comparison and of the evidence always are. -/
def RoundGraph.Reloads (env : RoundEnv) (graph : RoundGraph) : Prop :=
  (∀ search ∈ graph.search, search.Reloads env) ∧
    ∀ reveal ∈ graph.reveal, env.revealAccepted reveal = true

instance (env : RoundEnv) (graph : RoundGraph) : Decidable (graph.Reloads env) := by
  unfold RoundGraph.Reloads
  infer_instance

/-- `reconcile_scripted_search_round`. -/
def reconcileScriptedSearchRound (env : RoundEnv) (roundId : Uuid) :
    Transaction Store Error SearchRoundReconcileResult :=
  fun s => do
    let round ← s.requireRound roundId
    require (round.runMode = .scripted) (.conflict "M2a reconcile accepts only a Scripted Round")
    let task ← requireSome (s.tasks.find? round.taskId)
      (.conflict "M2a SearchRound lost its durable Task")
    if round.state = .cancelled then
      require (task.state = .cancelled)
        (.conflict "cancelled M2a Round has a non-cancelled Task")
      return (s, { round, nextAction := .none, reason := "cancelled Round is terminal" })
    else
      require ((s.roundGraph round).Reloads env) (.validationError "model_validate")
      require (s.roundGraph round).Complete
        (.conflict "M2a durable authority graph is incomplete")
      require (round.state = (s.roundGraph round).project.expectedState)
        (.conflict s!"M2a Round state disagrees with its durable authority graph: state={
          round.state.value}, expected={(s.roundGraph round).project.expectedState.value}")
      require (task.state = (s.roundGraph round).project.expectedState.taskState)
        (.conflict s!"M2a Task state disagrees with its Round authority: state={
          task.state.value}, expected={(s.roundGraph round).project.expectedState.taskState.value}")
      return (s, { round
                   nextAction := (s.roundGraph round).project.nextAction
                   reason := (s.roundGraph round).project.reason })

end HcuAutoOpt
