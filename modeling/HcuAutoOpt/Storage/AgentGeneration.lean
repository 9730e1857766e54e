import HcuAutoOpt.Agent.Authority
import HcuAutoOpt.Foundation.TextFields

/-!
# The Agent Generation Authority in the store

The methods of `storage/agent_generation.py`: `create_generation_run`,
`reconcile_generation_run`, `claim_generation_attempt`, `renew_generation_attempt_claim`,
`settle_generation_attempt` and `complete_generation_review`. Each is one transaction on the
tables of runs, attempts and proposals. A row is validated when it is read and when it is
written, and the checks of the tables are made at a write.

The budget ledger is not modelled. Whether it fits the budget of a plan is an argument of every
operation that reconciles a run, and whether a settlement stays within its reservation is part
of the settlement. The rows that other transactions hold locked are an argument of a claim.
-/

set_option autoImplicit false

namespace HcuAutoOpt

namespace Agent

open Foundation

/-- The tables of the authority. -/
structure GenerationStore where
  runs : Table GenerationRun := ∅
  attempts : Table GeneratorAttempt := ∅
  proposals : Table CandidateProposalRef := ∅
  deriving DecidableEq

/-! ## Reading and writing rows -/

/-- `_generation_run`. -/
def loadRun (row : GenerationRun) : Except Error GenerationRun := do
  require row.Valid (.validationError "GenerationRun")
  return row

/-- `_generator_attempt`. -/
def loadAttempt (row : GeneratorAttempt) : Except Error GeneratorAttempt := do
  require row.Valid (.validationError "GeneratorAttempt")
  return row

/-- `agent_generation_run_terminal_time`, as far as validation does not imply it. -/
def GenerationRun.TimesValid (run : GenerationRun) : Prop :=
  ∀ finishedAt ∈ run.finishedAt, run.createdAt ≤ finishedAt

instance (run : GenerationRun) : Decidable run.TimesValid :=
  inferInstanceAs (Decidable (∀ finishedAt ∈ run.finishedAt, run.createdAt ≤ finishedAt))

/-- `agent_generator_attempt_times_valid`, as far as validation does not imply it. -/
def GeneratorAttempt.TimesValid (attempt : GeneratorAttempt) : Prop :=
  ∀ lease ∈ attempt.lease, attempt.createdAt ≤ lease.startedAt

instance (attempt : GeneratorAttempt) : Decidable attempt.TimesValid :=
  inferInstanceAs (Decidable (∀ lease ∈ attempt.lease, attempt.createdAt ≤ lease.startedAt))

/-- `UPDATE agent_generation_runs … RETURNING *`. -/
def writeRun (runId : Uuid) (f : GenerationRun → GenerationRun) [KeepsKey f]
    (s : GenerationStore) : Except Error (GenerationStore × GenerationRun) := do
  let old ← requireRow (s.runs.find? runId) "run row"
  require (f old).TimesValid (.databaseError "agent_generation_run_terminal_time")
  let row ← loadRun (f old)
  return ({ s with runs := s.runs.update runId f }, row)

/-- `UPDATE agent_generator_attempts … RETURNING *`. -/
def writeAttempt (attemptId : Uuid) (f : GeneratorAttempt → GeneratorAttempt) [KeepsKey f]
    (s : GenerationStore) : Except Error (GenerationStore × GeneratorAttempt) := do
  let old ← requireRow (s.attempts.find? attemptId) "attempt row"
  require (f old).TimesValid (.databaseError "agent_generator_attempt_times_valid")
  let row ← loadAttempt (f old)
  return ({ s with attempts := s.attempts.update attemptId f }, row)

/-- The row belongs to the run by its foreign key. -/
def GeneratorAttempt.BelongsTo (attempt : GeneratorAttempt) (run : GenerationRun) : Prop :=
  run.generationRunId = attempt.generationRunId ∧ run.plan.planId = attempt.planId ∧
    run.request.requestId = attempt.requestId

instance (attempt : GeneratorAttempt) (run : GenerationRun) :
    Decidable (attempt.BelongsTo run) :=
  inferInstanceAs (Decidable (_ ∧ _ ∧ _))

/-- The two rows are one attempt of one generator. -/
def GeneratorAttempt.SameTurn (first second : GeneratorAttempt) : Prop :=
  first.generationRunId = second.generationRunId ∧ first.generatorId = second.generatorId ∧
    first.attemptNumber = second.attemptNumber

instance (first second : GeneratorAttempt) : Decidable (first.SameTurn second) :=
  inferInstanceAs (Decidable (_ ∧ _ ∧ _))

/-- `_insert_attempt`. -/
def insertAttempt (row : GeneratorAttempt) (s : GenerationStore) :
    Except Error GenerationStore := do
  require (s.runs.rows.any fun run => decide (row.BelongsTo run))
    (.databaseError "agent_generator_attempt_run_fk")
  require (s.attempts.find? row.attemptId = none)
    (.databaseError "agent_generator_attempts_pkey")
  require (s.attempts.rows.all fun other => !decide (row.SameTurn other))
    (.databaseError "agent_generator_attempts_generation_run_id_generator_id_attempt_number_key")
  return { s with attempts := s.attempts.insertIfAbsent row }

/-! ## Starting a run -/

/-- The rows an insertion of the run would clash with. -/
def GenerationRun.ClashesWith (run other : GenerationRun) : Prop :=
  other.generationRunId = run.generationRunId ∨
    other.request.requestId = run.request.requestId ∨ other.plan.planId = run.plan.planId ∨
    other.idempotencyKey = run.idempotencyKey

instance (run other : GenerationRun) : Decidable (run.ClashesWith other) :=
  inferInstanceAs (Decidable (_ ∨ _ ∨ _ ∨ _))

/-- The stored run has the immutable inputs of the other. -/
def GenerationRun.SameInputs (stored run : GenerationRun) : Prop :=
  stored.generationRunId = run.generationRunId ∧ stored.request = run.request ∧
    stored.requestHash = run.requestHash ∧ stored.plan = run.plan ∧
    stored.planHash = run.planHash ∧ stored.actor = run.actor ∧
    stored.idempotencyKey = run.idempotencyKey

instance (stored run : GenerationRun) : Decidable (stored.SameInputs run) :=
  inferInstanceAs (Decidable (_ ∧ _ ∧ _ ∧ _ ∧ _ ∧ _ ∧ _))

/-- `create_generation_run`. -/
def createGenerationRun (run : GenerationRun) (attempts : List GeneratorAttempt) :
    Transaction GenerationStore Error (GenerationRun × Bool) :=
  fun s => do
    require (run.state = .created)
      (.conflict "new Agent Generation Run must be dev-only and created")
    require (attempts.length = run.plannedGeneratorCount)
      (.conflict "Agent Generation Run initial Attempt family is incomplete")
    match s.runs.rows.filter fun other => decide (run.ClashesWith other) with
    | [] => do
        let s ← attempts.foldlM (fun s attempt => insertAttempt attempt s)
          { s with runs := s.runs.insertIfAbsent run }
        return (s, (run, true))
    | [row] => do
        let stored ← loadRun row
        require (stored.SameInputs run)
          (.conflict "Agent Generation idempotency key was reused with different inputs")
        return (s, (stored, false))
    | _ => .error (.conflict "Agent Generation identity or idempotency key was reused")

/-- The first transaction of `ApexGenerationCoordinator.start`. The models it builds are
validated when they are built. -/
def startGenerationRun (ids : Identities) (createdAt : Timestamp)
    (start : GenerationRunStartRequest) :
    Transaction GenerationStore Error (GenerationRun × Bool) :=
  fun s => do
    let (run, attempts) ← (buildGenerationRunStart ids start createdAt).mapError .valueError
    require run.Valid (.validationError "GenerationRun")
    require (∀ attempt ∈ attempts, attempt.Valid) (.validationError "GeneratorAttempt")
    createGenerationRun run attempts s

/-! ## Reconciling a run -/

/-- `ORDER BY generator_ordinal, attempt_number`. -/
def GeneratorAttempt.Before (first second : GeneratorAttempt) : Prop :=
  first.generatorOrdinal < second.generatorOrdinal ∨
    first.generatorOrdinal = second.generatorOrdinal ∧
      first.attemptNumber ≤ second.attemptNumber

instance : DecidableRel GeneratorAttempt.Before := fun _ _ =>
  inferInstanceAs (Decidable (_ ∨ _ ∧ _))

/-- The attempts of a run in order. -/
def GenerationStore.attemptsOf (s : GenerationStore) (runId : Uuid) : List GeneratorAttempt :=
  (s.attempts.rows.filter fun attempt =>
    decide (attempt.generationRunId = runId)).insertionSort GeneratorAttempt.Before

/-- The attempt as `_fail_stale_attempt` leaves it. -/
def GeneratorAttempt.failStale (now : Timestamp) (attempt : GeneratorAttempt) :
    GeneratorAttempt :=
  { attempt with
    state := .failed
    error := some ⟨"attempt_lease_expired", "generator Attempt lease expired before settlement"⟩
    version := attempt.version + 1
    updatedAt := now
    finishedAt := some now }

instance (now : Timestamp) : KeepsKey (GeneratorAttempt.failStale now) := ⟨fun _ => rfl⟩

/-- The attempt is running on a lease that has expired. -/
def GeneratorAttempt.Stale (attempt : GeneratorAttempt) (now : Timestamp) : Prop :=
  attempt.state = .running ∧ ∃ lease ∈ attempt.lease, lease.leaseExpiresAt ≤ now

instance (attempt : GeneratorAttempt) (now : Timestamp) : Decidable (attempt.Stale now) :=
  inferInstanceAs (Decidable (_ ∧ ∃ lease ∈ attempt.lease, lease.leaseExpiresAt ≤ now))

/-- Fail the stale attempts. -/
def failStaleAttempts (now : Timestamp) (attempts : List GeneratorAttempt)
    (s : GenerationStore) : Except Error GenerationStore :=
  attempts.foldlM (fun s attempt =>
    if attempt.Stale now then
      (writeAttempt attempt.attemptId (GeneratorAttempt.failStale now) s).map Prod.fst
    else .ok s) s

/-- `_insert_retry`. -/
def insertRetry (ids : Identities) (run : GenerationRun) (generatorOrdinal attemptNumber : Nat)
    (now : Timestamp) (s : GenerationStore) : Except Error GenerationStore := do
  let generator ← requireSome run.plan.generators[generatorOrdinal]?
    (.keyError "tuple index out of range")
  let attempt ← loadAttempt
    (buildPendingAttempt ids run generator generatorOrdinal attemptNumber now)
  insertAttempt attempt s

/-- The generator at an ordinal with its attempts, of which the last is returned too. -/
def latestAttempt (run : GenerationRun) (attempts : List GeneratorAttempt) (ordinal : Nat) :
    Except Error (GeneratorPlanEntry × List GeneratorAttempt × GeneratorAttempt) := do
  let own := attempts.filter fun attempt => decide (attempt.generatorOrdinal = ordinal)
  let latest ← requireSome own.getLast? (.keyError "list index out of range")
  let generator ← requireSome run.plan.generators[ordinal]? (.keyError "tuple index out of range")
  return (generator, own, latest)

/-- Some attempt has succeeded. -/
def anySucceeded (attempts : List GeneratorAttempt) : Bool :=
  attempts.any fun attempt => decide (attempt.state = .succeeded)

/-- Try a generator again when its last attempt has failed and it has attempts left. -/
def retryGenerator (ids : Identities) (run : GenerationRun) (attempts : List GeneratorAttempt)
    (now : Timestamp) (s : GenerationStore) (ordinal : Nat) :
    Except Error GenerationStore := do
  let (generator, own, latest) ← latestAttempt run attempts ordinal
  if anySucceeded own = false ∧ latest.state = .failed ∧
      latest.attemptNumber < generator.maxAttempts then
    insertRetry ids run ordinal (latest.attemptNumber + 1) now s
  else return s

/-- A generator is finished when an attempt has succeeded or the last one allowed has ended. -/
def generatorFinished (run : GenerationRun) (attempts : List GeneratorAttempt) (ordinal : Nat) :
    Except Error Bool := do
  let (generator, own, latest) ← latestAttempt run attempts ordinal
  return anySucceeded own ||
    (decide (latest.state = .failed ∨ latest.state = .cancelled) &&
      decide (generator.maxAttempts ≤ latest.attemptNumber))

/-- A proposal that is pending gets its disposition. -/
def CandidateProposalRef.finalize (disposition : Disposition) (proposal : CandidateProposalRef) :
    CandidateProposalRef :=
  if proposal.disposition = .pending then { proposal with disposition } else proposal

instance (disposition : Disposition) : KeepsKey (CandidateProposalRef.finalize disposition) :=
  ⟨fun proposal => by
    unfold CandidateProposalRef.finalize
    split <;> rfl⟩

/-- `_finalize_proposals`, with the number of retained proposals. -/
def finalizeProposals (runId : Uuid) (s : GenerationStore) : GenerationStore × Nat :=
  let finalized := finalizeProposalDispositions (s.proposals.rows.filter fun proposal =>
    decide (proposal.generationRunId = runId))
  let retained := finalized.filter fun proposal => decide (proposal.disposition = .retained)
  let duplicates := finalized.filter fun proposal => !decide (proposal.disposition = .retained)
  ({ s with
      proposals := (retained ++ duplicates).foldl (fun proposals proposal =>
        proposals.update proposal.proposalId
          (CandidateProposalRef.finalize proposal.disposition)) s.proposals },
    retained.length)

/-- What a reconciliation writes into the row of its run. -/
structure RunSummary where
  state : GenerationRunState
  attemptCount : Nat
  terminalAttemptCount : Nat
  terminalGeneratorCount : Nat
  proposalCount : Nat
  retainedProposalCount : Nat
  error : Option SafeError
  finishedAt : Option Timestamp

/-- The run as a reconciliation leaves it. -/
def GenerationRun.summarized (summary : RunSummary) (now : Timestamp) (run : GenerationRun) :
    GenerationRun :=
  { run with
    state := summary.state
    attemptCount := summary.attemptCount
    terminalAttemptCount := summary.terminalAttemptCount
    terminalGeneratorCount := summary.terminalGeneratorCount
    proposalCount := summary.proposalCount
    retainedProposalCount := summary.retainedProposalCount
    error := summary.error
    finishedAt := summary.finishedAt
    version := run.version + 1
    updatedAt := now }

instance (summary : RunSummary) (now : Timestamp) :
    KeepsKey (GenerationRun.summarized summary now) := ⟨fun _ => rfl⟩

/-- The run as it is first reconciled. -/
def GenerationRun.started (now : Timestamp) (run : GenerationRun) : GenerationRun :=
  { run with state := .running, version := run.version + 1, updatedAt := now }

instance (now : Timestamp) : KeepsKey (GenerationRun.started now) := ⟨fun _ => rfl⟩

/-- Summarize the run when its attempts have been retried. -/
def summarizeRun (run : GenerationRun) (budgetFits : Bool) (now : Timestamp)
    (s : GenerationStore) : Except Error (GenerationStore × GenerationRun) := do
  let attempts ← (s.attemptsOf run.generationRunId).mapM loadAttempt
  let finished ← (List.range run.plannedGeneratorCount).mapM (generatorFinished run attempts)
  let terminalGenerators := finished.count true
  let proposalCount := (s.proposals.rows.filter fun proposal =>
    decide (proposal.generationRunId = run.generationRunId)).length
  let allFinished := decide (terminalGenerators = run.plannedGeneratorCount)
  let (s, retained) := if allFinished then finalizeProposals run.generationRunId s else (s, 0)
  -- a ledger beyond the budget fails the run, whose row is then not valid
  require (budgetFits = true)
    (.validationError "Generation Run active and consumed Budget exceeds its limit")
  let failed := allFinished && decide (retained = 0)
  let summary : RunSummary :=
    { state := if failed then .failed else if allFinished then .awaitingReview else .running
      attemptCount := attempts.length
      terminalAttemptCount := (attempts.filter fun attempt => attempt.state.terminal).length
      terminalGeneratorCount := terminalGenerators
      proposalCount := proposalCount
      retainedProposalCount := retained
      error := if failed then some ⟨"no_retained_proposals",
          "all generator Attempts terminated without a retained Proposal"⟩ else none
      finishedAt := if failed then some now else none }
  writeRun run.generationRunId (GenerationRun.summarized summary now) s

/-- The rest of a reconciliation of a run that is running. -/
def reconcileRunning (ids : Identities) (run : GenerationRun) (budgetFits : Bool)
    (now : Timestamp) (s : GenerationStore) : Except Error (GenerationStore × GenerationRun) := do
  let attempts ← (s.attemptsOf run.generationRunId).mapM loadAttempt
  let s ← failStaleAttempts now attempts s
  let attempts ← (s.attemptsOf run.generationRunId).mapM loadAttempt
  require (∀ attempt ∈ attempts, attempt.generatorOrdinal < run.plannedGeneratorCount)
    (.keyError "generator_ordinal")
  let s ← (List.range run.plannedGeneratorCount).foldlM (retryGenerator ids run attempts now) s
  summarizeRun run budgetFits now s

/-- `_reconcile_generation_run_locked`. -/
def reconcileGenerationRunLocked (ids : Identities) (row : GenerationRun) (budgetFits : Bool)
    (now : Timestamp) (s : GenerationStore) :
    Except Error (GenerationStore × GenerationRun) := do
  let run ← loadRun row
  match run.state with
  | .completed | .failed | .cancelled | .awaitingReview => return (s, run)
  | .created => do
      let (s, run) ← writeRun run.generationRunId (GenerationRun.started now) s
      reconcileRunning ids run budgetFits now s
  | .running => reconcileRunning ids run budgetFits now s

/-- `reconcile_generation_run`. -/
def reconcileGenerationRun (ids : Identities) (now : Timestamp) (budgetFits : Bool)
    (runId : Uuid) : Transaction GenerationStore Error GenerationRun :=
  fun s => do
    let row ← requireRow (s.runs.find? runId) s!"Agent Generation Run not found: {runId.text}"
    reconcileGenerationRunLocked ids row budgetFits now s

/-! ## Claiming an attempt -/

/-- The rows other transactions hold locked, which `SKIP LOCKED` passes over. -/
structure GenerationLocks where
  run : Uuid → Bool := fun _ => false
  attempt : Uuid → Bool := fun _ => false

/-- Some attempt of the run is pending. -/
def GenerationStore.hasPending (s : GenerationStore) (runId : Uuid) : Bool :=
  s.attempts.rows.any fun attempt =>
    decide (attempt.generationRunId = runId) && decide (attempt.state = .pending)

/-- The run is running and has a pending attempt. -/
def GenerationStore.hasWork (s : GenerationStore) (run : GenerationRun) : Bool :=
  decide (run.state = .running) && s.hasPending run.generationRunId

/-- How many attempts of the run are running. -/
def GenerationStore.activeCount (s : GenerationStore) (runId : Uuid) : Nat :=
  (s.attempts.rows.filter fun attempt =>
    decide (attempt.generationRunId = runId) && decide (attempt.state = .running)).length

/-- `ORDER BY run.created_at, run.generation_run_id`. -/
def GenerationRun.Before (first second : GenerationRun) : Prop :=
  first.createdAt < second.createdAt ∨
    first.createdAt = second.createdAt ∧
      first.generationRunId.toNat ≤ second.generationRunId.toNat

instance : DecidableRel GenerationRun.Before := fun _ _ =>
  inferInstanceAs (Decidable (_ ∨ _ ∧ _))

/-- The runs a claim looks at, in order. -/
def GenerationStore.candidateRuns (s : GenerationStore) (only : Option Uuid) :
    List GenerationRun :=
  (s.runs.rows.filter fun run => s.hasWork run &&
    decide (only = none ∨ only = some run.generationRunId)).insertionSort GenerationRun.Before

/-- The first of the runs that is not locked and has a free slot. -/
def GenerationStore.openRun (s : GenerationStore) (locks : GenerationLocks) :
    List GenerationRun → Except Error (Option GenerationRun)
  | [] => .ok none
  | candidate :: candidates =>
      match s.runs.rows.find? fun run =>
          decide (run.generationRunId = candidate.generationRunId) && s.hasWork run &&
            !locks.run run.generationRunId with
      | none => s.openRun locks candidates
      | some row => do
          let run ← loadRun row
          if run.plan.maxConcurrency ≤ s.activeCount run.generationRunId then
            s.openRun locks candidates
          else return some run

/-- The first pending attempt of the run that is not locked. -/
def GenerationStore.pendingAttempt? (s : GenerationStore) (locks : GenerationLocks)
    (runId : Uuid) : Option GeneratorAttempt :=
  ((s.attempts.rows.filter fun attempt =>
    decide (attempt.generationRunId = runId) && decide (attempt.state = .pending) &&
      !locks.attempt attempt.attemptId).insertionSort GeneratorAttempt.Before).head?

/-- The attempt as a claim leaves it. -/
def GeneratorAttempt.claimed (workerId : String) (claimToken : Uuid) (now : Timestamp)
    (leaseSeconds : Int) (attempt : GeneratorAttempt) : GeneratorAttempt :=
  { attempt with
    state := .running
    lease := some ⟨workerId, claimToken, now + seconds leaseSeconds, now⟩
    updatedAt := now
    version := attempt.version + 1 }

instance (workerId : String) (claimToken : Uuid) (now : Timestamp) (leaseSeconds : Int) :
    KeepsKey (GeneratorAttempt.claimed workerId claimToken now leaseSeconds) := ⟨fun _ => rfl⟩

/-- Claim the attempt that was found for a run. -/
def claimPending (workerId : String) (claimToken : Uuid) (now : Timestamp) (leaseSeconds : Int)
    (run : GenerationRun) (row : GeneratorAttempt) :
    Transaction GenerationStore Error (Option GenerationAttemptClaim) :=
  fun s => do
    let pending ← loadAttempt row
    let generator ← requireSome run.plan.generators[pending.generatorOrdinal]?
      (.keyError "tuple index out of range")
    require (leaseSeconds ≤ generator.timeoutSeconds)
      (.conflict "Agent generator claim lease exceeds its immutable timeout")
    let (s, attempt) ← writeAttempt pending.attemptId
      (GeneratorAttempt.claimed workerId claimToken now leaseSeconds) s
    let claim : GenerationAttemptClaim := ⟨run, attempt, generator, run.request⟩
    require claim.Valid (.validationError "GenerationAttemptClaim")
    return (s, some claim)

/-- `claim_generation_attempt`. -/
def claimGenerationAttempt (now : Timestamp) (claimToken : Uuid) (locks : GenerationLocks)
    (workerId : String) (leaseSeconds : Int) (only : Option Uuid) :
    Transaction GenerationStore Error (Option GenerationAttemptClaim) :=
  fun s => do
    require (workerId ≠ "" ∧ strip workerId = workerId)
      (.valueError "Agent generator worker_id must be normalized")
    require (1 ≤ leaseSeconds ∧ leaseSeconds ≤ 7200)
      (.valueError "Agent generator claim lease must be between 1 and 7200 seconds")
    match ← s.openRun locks (s.candidateRuns only) with
    | none => return (s, none)
    | some run =>
        match s.pendingAttempt? locks run.generationRunId with
        | none => return (s, none)
        | some row => claimPending workerId claimToken now leaseSeconds run row s

/-! ## Renewing and settling a claim -/

/-- The attempt is running on a live lease with the token. -/
def GeneratorAttempt.HeldBy (attempt : GeneratorAttempt) (claimToken : Uuid)
    (now : Timestamp) : Prop :=
  attempt.state = .running ∧
    ∃ lease ∈ attempt.lease, lease.claimToken = claimToken ∧ now < lease.leaseExpiresAt

instance (attempt : GeneratorAttempt) (claimToken : Uuid) (now : Timestamp) :
    Decidable (attempt.HeldBy claimToken now) :=
  inferInstanceAs (Decidable (_ ∧ ∃ lease ∈ attempt.lease,
    lease.claimToken = claimToken ∧ now < lease.leaseExpiresAt))

/-- The attempt with its run and its generator, as renewals and settlements find them. -/
def GenerationStore.boundAttempt (s : GenerationStore) (attemptId : Uuid) :
    Except Error (GeneratorAttempt × GenerationRun × GeneratorPlanEntry) := do
  let attemptRow ← requireRow (s.attempts.find? attemptId)
    s!"Agent Generator Attempt not found: {attemptId.text}"
  let runRow ← requireRow (s.runs.find? attemptRow.generationRunId) "run row"
  let attempt ← loadAttempt attemptRow
  let run ← loadRun runRow
  let generator ← requireSome run.plan.generators[attempt.generatorOrdinal]?
    (.keyError "tuple index out of range")
  return (attempt, run, generator)

/-- A claim that is not held: a running attempt has its run reconciled. The transaction
commits before `StaleClaimToken` is raised, which is its reply. -/
def reportStale (ids : Identities) (now : Timestamp) (budgetFits : Bool)
    (attempt : GeneratorAttempt) (run : GenerationRun) (message : String) :
    Transaction GenerationStore Error (Except Error GeneratorAttempt) :=
  fun s => do
    if attempt.state = .running ∧ attempt.lease ≠ none then
      let (s, _) ← reconcileGenerationRunLocked ids run budgetFits now s
      return (s, .error (.staleClaimToken message))
    else return (s, .error (.staleClaimToken message))

/-- The attempt with its lease extended. -/
def GeneratorAttempt.renewed (now : Timestamp) (leaseSeconds : Int) (attempt : GeneratorAttempt) :
    GeneratorAttempt :=
  { attempt with
    lease := attempt.lease.map fun lease =>
      { lease with leaseExpiresAt := now + seconds leaseSeconds }
    updatedAt := now
    version := attempt.version + 1 }

instance (now : Timestamp) (leaseSeconds : Int) :
    KeepsKey (GeneratorAttempt.renewed now leaseSeconds) := ⟨fun _ => rfl⟩

/-- `renew_generation_attempt_claim`. -/
def renewGenerationAttemptClaim (ids : Identities) (now : Timestamp) (budgetFits : Bool)
    (attemptId claimToken : Uuid) (leaseSeconds : Int) :
    Transaction GenerationStore Error (Except Error GeneratorAttempt) :=
  fun s => do
    require (1 ≤ leaseSeconds ∧ leaseSeconds ≤ 7200)
      (.valueError "Agent generator claim lease must be between 1 and 7200 seconds")
    let (attempt, run, generator) ← s.boundAttempt attemptId
    require (leaseSeconds ≤ generator.timeoutSeconds)
      (.conflict "Agent generator claim lease exceeds its immutable timeout")
    if attempt.HeldBy claimToken now then
      let (s, row) ← writeAttempt attemptId (GeneratorAttempt.renewed now leaseSeconds) s
      return (s, .ok row)
    else do
      reportStale ids now budgetFits attempt run "Agent generator Attempt claim is stale" s

/-- What `settle_generation_attempt` is given about the execution of an attempt: the batch with
the place it was published at, the binding of the receipt and the status it reports. Whether
the receipt could be read again, whether it is bound to the attempt, and whether the usage stays
within the reservation is part of it. -/
structure Settlement where
  batch : Option CandidateProposalBatch
  batchUri : Option String
  receipt : ReceiptBinding
  executionStatus : String
  reread : Bool := true
  bound : Bool := true
  withinReservation : Bool := true

/-- The columns that bind an attempt to the batch of the settlement. -/
def Settlement.batchBinding (settlement : Settlement) : Option BatchBinding :=
  match settlement.batch, settlement.batchUri with
  | some batch, some batchUri => some
      { batchId := batch.batchId, batchUri := batchUri, batchHash := batch.batchHash,
        batchStatus := batch.status, rawOutputUri := batch.rawOutputUri,
        rawOutputHash := batch.rawOutputHash, adapterProvenance := batch.adapterProvenance }
  | _, _ => none

/-- The error code of a runner that ended without a batch. -/
def runnerErrorCode (executionStatus : String) : String :=
  (["failed", "timed_out", "output_limit_exceeded", "token_limit_exceeded", "invalid_output",
    "cleanup_failed"].zip ["runner_failed", "runner_timeout", "runner_output_limit_exceeded",
    "runner_token_limit_exceeded", "runner_invalid_output",
    "runner_cleanup_failed"]).lookup executionStatus |>.getD "runner_failed"

/-- The error of the settled attempt: none when it has succeeded. -/
def Settlement.error (settlement : Settlement) : Option SafeError :=
  match settlement.batch with
  | none => some ⟨runnerErrorCode settlement.executionStatus,
      "Runner Attempt terminated without an accepted Proposal Batch"⟩
  | some batch =>
      if settlement.withinReservation = false then
        some ⟨"generation_budget_exceeded",
          "Runner output exceeded its immutable Attempt reservation"⟩
      else if batch.status = .failed then
        some (batch.error.getD ⟨"generator_failed", "generator failed without safe detail"⟩)
      else none

/-- The attempt as a settlement leaves it. -/
def GeneratorAttempt.settled (settlement : Settlement) (now : Timestamp)
    (attempt : GeneratorAttempt) : GeneratorAttempt :=
  { attempt with
    state := if settlement.error = none then .succeeded else .failed
    batch := settlement.batchBinding
    receipt := some settlement.receipt
    error := settlement.error
    finishedAt := some now
    updatedAt := now
    version := attempt.version + 1 }

instance (settlement : Settlement) (now : Timestamp) :
    KeepsKey (GeneratorAttempt.settled settlement now) := ⟨fun _ => rfl⟩

/-- `INSERT INTO agent_candidate_proposal_refs`. -/
def insertProposal (row : CandidateProposalRef) (s : GenerationStore) :
    Except Error GenerationStore := do
  require (s.proposals.find? row.proposalId = none)
    (.databaseError "agent_candidate_proposal_refs_pkey")
  require (s.proposals.rows.all fun other => !decide (
      other.generationRunId = row.generationRunId ∧ other.generatorId = row.generatorId ∧
        other.proposalOrdinal = row.proposalOrdinal))
    (.databaseError "agent_candidate_proposal_refs_generation_run_id_generator_id_key")
  return { s with proposals := s.proposals.insertIfAbsent row }

/-- The references a settlement stores. -/
def Settlement.refs (settlement : Settlement) (ids : Identities) (run : GenerationRun)
    (attempt : GeneratorAttempt) (generator : GeneratorPlanEntry) :
    Except Error (List CandidateProposalRef) :=
  match settlement.batch with
  | none => .ok []
  | some batch => do
      let refs ← (proposalRefsForBatch ids run attempt generator batch).mapError fun _ =>
        .conflict "Agent Generation settlement rejected unbound Runner evidence"
      return if settlement.withinReservation then refs else []

/-- `settle_generation_attempt`. -/
def settleGenerationAttempt (ids : Identities) (now : Timestamp) (budgetFits : Bool)
    (attemptId claimToken : Uuid) (settlement : Settlement) :
    Transaction GenerationStore Error (Except Error GeneratorAttempt) :=
  fun s => do
    require (settlement.reread = true)
      (.conflict "Agent Runner Receipt could not be independently reread")
    require (settlement.batch.isNone = settlement.batchUri.isNone)
      (.conflict "Agent Proposal Batch and its immutable URI must be atomic")
    let (attempt, run, generator) ← s.boundAttempt attemptId
    require (settlement.bound = true)
      (.conflict "Agent Generation settlement rejected unbound Runner evidence")
    if attempt.state = .succeeded ∨ attempt.state = .failed then
      require (attempt.lease.map AttemptLease.claimToken = some claimToken ∧
          attempt.batch = settlement.batchBinding ∧ attempt.receipt = some settlement.receipt)
        (.staleClaimToken "Agent generator settlement replay is stale")
      return (s, .ok attempt)
    else if attempt.HeldBy claimToken now then
      let refs ← settlement.refs ids run attempt generator
      let (s, _) ← writeAttempt attemptId (GeneratorAttempt.settled settlement now) s
      let s ← refs.foldlM (fun s ref => insertProposal ref s) s
      let (s, _) ← reconcileGenerationRunLocked ids run budgetFits now s
      let row ← requireRow (s.attempts.find? attemptId) "attempt row"
      let result ← loadAttempt row
      return (s, .ok result)
    else do
      reportStale ids now budgetFits attempt run
        "Agent generator Attempt claim expired before settlement" s

/-! ## Completing a review -/

/-- The run with its review. -/
def GenerationRun.reviewedBy (evidence : ReviewEvidence) (now : Timestamp) (run : GenerationRun) :
    GenerationRun :=
  { run with
    state := .completed
    review := some evidence
    finishedAt := some now
    updatedAt := now
    version := run.version + 1 }

instance (evidence : ReviewEvidence) (now : Timestamp) :
    KeepsKey (GenerationRun.reviewedBy evidence now) := ⟨fun _ => rfl⟩

/-- `complete_generation_review`. -/
def completeGenerationReview (now : Timestamp) (runId : Uuid) (evidence : ReviewEvidence) :
    Transaction GenerationStore Error GenerationRun :=
  fun s => do
    let row ← requireRow (s.runs.find? runId) s!"Agent Generation Run not found: {runId.text}"
    let run ← loadRun row
    if run.state = .completed then
      require (run.review = some evidence)
        (.conflict "Agent Generation review evidence changed during replay")
      return (s, run)
    else do
      require (run.state = .awaitingReview)
        (.conflict "Agent Generation Run is not awaiting Proposal review")
      writeRun runId (GenerationRun.reviewedBy evidence now) s

/-! ## Runs of the authority -/

/-- A call of the authority with everything it takes. -/
inductive GenerationCall where
  | start (createdAt : Timestamp) (request : GenerationRunStartRequest)
  | reconcile (now : Timestamp) (budgetFits : Bool) (runId : Uuid)
  | claim (now : Timestamp) (claimToken : Uuid) (locks : GenerationLocks) (workerId : String)
      (leaseSeconds : Int) (only : Option Uuid)
  | renew (now : Timestamp) (budgetFits : Bool) (attemptId claimToken : Uuid)
      (leaseSeconds : Int)
  | settle (now : Timestamp) (budgetFits : Bool) (attemptId claimToken : Uuid)
      (settlement : Settlement)
  | completeReview (now : Timestamp) (runId : Uuid) (evidence : ReviewEvidence)

/-- The transaction of a call. -/
def GenerationCall.run (ids : Identities) :
    GenerationCall → Transaction GenerationStore Error Unit
  | .start createdAt request => (startGenerationRun ids createdAt request).silent
  | .reconcile now budgetFits runId => (reconcileGenerationRun ids now budgetFits runId).silent
  | .claim now claimToken locks workerId leaseSeconds only =>
      (claimGenerationAttempt now claimToken locks workerId leaseSeconds only).silent
  | .renew now budgetFits attemptId claimToken leaseSeconds =>
      (renewGenerationAttemptClaim ids now budgetFits attemptId claimToken leaseSeconds).silent
  | .settle now budgetFits attemptId claimToken settlement =>
      (settleGenerationAttempt ids now budgetFits attemptId claimToken settlement).silent
  | .completeReview now runId evidence => (completeGenerationReview now runId evidence).silent

/-- One step of the authority is one call, committed or rolled back. -/
def GenerationStep (ids : Identities) (s : GenerationStore) (call : GenerationCall)
    (s' : GenerationStore) : Prop :=
  s' = (commit (call.run ids) s).1

/-- The store after a list of calls. -/
def runGenerationCalls (ids : Identities) (calls : List GenerationCall) (s : GenerationStore) :
    GenerationStore :=
  calls.foldl (fun s call => (commit (call.run ids) s).1) s

end Agent

end HcuAutoOpt
