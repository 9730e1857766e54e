import HcuAutoOpt.Storage.AgentGeneration

/-!
# The budget ledger of Agent generation

The operations of `storage/agent_generation.py` once more, now with what they do to budgets:
every attempt is inserted with a reservation and an entry of the ledger, every attempt that
ends is charged with its usage and gets an entry that settles it, and a reconciliation adds up
what is reserved and what is consumed and compares it with the budget of the plan.

The tables of runs, attempts and proposals are those of `GenerationStore`, and the columns
about usage are tables of their own. The limits of a plan are read from its document. Rows are
read here without the bounds of their usage; that the bounds hold is proved, not checked.
-/

set_option autoImplicit false

namespace HcuAutoOpt

namespace Agent

open Foundation

/-! ## Usage and budgets -/

/-- `GenerationBudgetUsage`. -/
structure GenerationBudgetUsage where
  attempts : Nat := 0
  wallMilliseconds : Nat := 0
  outputBytes : Nat := 0
  tokens : Nat := 0
  proposals : Nat := 0
  deriving DecidableEq, Repr

/-- The bounds of its fields. -/
def GenerationBudgetUsage.Valid (usage : GenerationBudgetUsage) : Prop :=
  usage.attempts ≤ 64 ∧ usage.wallMilliseconds ≤ 86400000 ∧ usage.outputBytes ≤ 100000000 ∧
    usage.tokens ≤ 100000000 ∧ usage.proposals ≤ 32

instance GenerationBudgetUsage.decidableValid (usage : GenerationBudgetUsage) :
    Decidable usage.Valid :=
  inferInstanceAs (Decidable (_ ∧ _ ∧ _ ∧ _ ∧ _))

/-- A usage with its bounds checked, as every usage is built. -/
def GenerationBudgetUsage.checked (usage : GenerationBudgetUsage) :
    Except Error GenerationBudgetUsage := do
  require usage.Valid (.validationError "GenerationBudgetUsage")
  return usage

/-- `GenerationBudgetUsage.plus`. -/
def GenerationBudgetUsage.plus (usage other : GenerationBudgetUsage) :
    Except Error GenerationBudgetUsage :=
  GenerationBudgetUsage.checked
    { attempts := usage.attempts + other.attempts
      wallMilliseconds := usage.wallMilliseconds + other.wallMilliseconds
      outputBytes := usage.outputBytes + other.outputBytes
      tokens := usage.tokens + other.tokens
      proposals := usage.proposals + other.proposals }

/-- `sum_usage`. -/
def sumUsage (items : List GenerationBudgetUsage) : Except Error GenerationBudgetUsage :=
  items.foldlM GenerationBudgetUsage.plus {}

/-- `GenerationBudget`. -/
structure GenerationBudget where
  maxGeneratorAttempts : Nat
  maxWallSeconds : Nat
  maxTotalOutputBytes : Nat
  maxTotalTokens : Nat
  maxProposals : Nat
  deriving DecidableEq, Repr

/-- `GenerationBudgetUsage.fits`. -/
def GenerationBudgetUsage.Fits (usage : GenerationBudgetUsage) (budget : GenerationBudget) :
    Prop :=
  usage.attempts ≤ budget.maxGeneratorAttempts ∧
    usage.wallMilliseconds ≤ budget.maxWallSeconds * 1000 ∧
    usage.outputBytes ≤ budget.maxTotalOutputBytes ∧ usage.tokens ≤ budget.maxTotalTokens ∧
    usage.proposals ≤ budget.maxProposals

instance GenerationBudgetUsage.decidableFits (usage : GenerationBudgetUsage)
    (budget : GenerationBudget) :
    Decidable (usage.Fits budget) :=
  inferInstanceAs (Decidable (_ ∧ _ ∧ _ ∧ _ ∧ _))

/-- `usage_is_within_reservation`. -/
def usageIsWithinReservation (actual reserved : GenerationBudgetUsage) : Bool :=
  decide (actual.attempts ≤ reserved.attempts ∧
    actual.wallMilliseconds ≤ reserved.wallMilliseconds ∧
    actual.outputBytes ≤ reserved.outputBytes ∧ actual.tokens ≤ reserved.tokens ∧
    actual.proposals ≤ reserved.proposals)

/-- `conservative_failure_usage`. -/
def conservativeFailureUsage (reserved : GenerationBudgetUsage) : GenerationBudgetUsage where
  attempts := 1
  wallMilliseconds := reserved.wallMilliseconds
  outputBytes := reserved.outputBytes
  tokens := reserved.tokens

/-! ## The limits of a plan -/

/-- A natural number that is a field of a document. -/
def naturalField (fields : Json.Object) (name : String) : Nat :=
  match fields.get? name with
  | some (.int value) => value.toNat
  | _ => 0

/-- The budget in the document of a plan. -/
def ApexGenerationPlan.budget (plan : ApexGenerationPlan) : GenerationBudget :=
  let fields := match plan.terms.get? "budget" with
    | some (.obj fields) => fields
    | _ => []
  { maxGeneratorAttempts := naturalField fields "max_generator_attempts"
    maxWallSeconds := naturalField fields "max_wall_seconds"
    maxTotalOutputBytes := naturalField fields "max_total_output_bytes"
    maxTotalTokens := naturalField fields "max_total_tokens"
    maxProposals := plan.budgetMaxProposals }

/-- `max_output_bytes_per_attempt` in the document of a generator. -/
def GeneratorPlanEntry.maxOutputBytesPerAttempt (generator : GeneratorPlanEntry) : Nat :=
  naturalField generator.terms "max_output_bytes_per_attempt"

/-- `max_tokens_per_attempt` in the document of a generator. -/
def GeneratorPlanEntry.maxTokensPerAttempt (generator : GeneratorPlanEntry) : Nat :=
  naturalField generator.terms "max_tokens_per_attempt"

/-- The bounds of the fields of `GeneratorPlanEntry` that its type does not state. -/
def GeneratorPlanEntry.Bounded (generator : GeneratorPlanEntry) : Prop :=
  (1 ≤ generator.maxProposals ∧ generator.maxProposals ≤ 8) ∧
    (1 ≤ generator.maxOutputBytesPerAttempt ∧
      generator.maxOutputBytesPerAttempt ≤ 100000000) ∧
    (1 ≤ generator.maxTokensPerAttempt ∧ generator.maxTokensPerAttempt ≤ 100000000)

instance GeneratorPlanEntry.decidableBounded (generator : GeneratorPlanEntry) :
    Decidable generator.Bounded :=
  inferInstanceAs (Decidable (_ ∧ _ ∧ _))

/-- The bounds of the fields of `GenerationBudget`. -/
def GenerationBudget.Bounded (budget : GenerationBudget) : Prop :=
  (1 ≤ budget.maxGeneratorAttempts ∧ budget.maxGeneratorAttempts ≤ 64) ∧
    (1 ≤ budget.maxWallSeconds ∧ budget.maxWallSeconds ≤ 86400) ∧
    (1 ≤ budget.maxTotalOutputBytes ∧ budget.maxTotalOutputBytes ≤ 100000000) ∧
    (1 ≤ budget.maxTotalTokens ∧ budget.maxTotalTokens ≤ 100000000) ∧
    (1 ≤ budget.maxProposals ∧ budget.maxProposals ≤ 32)

instance GenerationBudget.decidableBounded (budget : GenerationBudget) :
    Decidable budget.Bounded :=
  inferInstanceAs (Decidable (_ ∧ _ ∧ _ ∧ _ ∧ _))

/-- `ApexGenerationPlan.require_unique_generators_and_bounded_plan`, the checks of its sums,
with the bounds of the fields. -/
structure ApexGenerationPlan.Bounded (plan : ApexGenerationPlan) : Prop where
  budget : plan.budget.Bounded
  generators : ∀ generator ∈ plan.generators, generator.Bounded
  attempts : (plan.generators.map fun generator => generator.maxAttempts).sum ≤
    plan.budget.maxGeneratorAttempts
  wallSeconds : (plan.generators.map fun generator =>
    generator.timeoutSeconds.toNat * generator.maxAttempts).sum ≤ plan.budget.maxWallSeconds
  outputBytes : (plan.generators.map fun generator =>
    generator.maxOutputBytesPerAttempt * generator.maxAttempts).sum ≤
      plan.budget.maxTotalOutputBytes
  tokens : (plan.generators.map fun generator =>
    generator.maxTokensPerAttempt * generator.maxAttempts).sum ≤ plan.budget.maxTotalTokens
  proposals : (plan.generators.map fun generator => generator.maxProposals).sum ≤
    plan.budget.maxProposals

theorem ApexGenerationPlan.bounded_iff (plan : ApexGenerationPlan) : plan.Bounded ↔
    plan.budget.Bounded ∧ (∀ generator ∈ plan.generators, generator.Bounded) ∧
      (plan.generators.map fun generator => generator.maxAttempts).sum ≤
        plan.budget.maxGeneratorAttempts ∧
      (plan.generators.map fun generator =>
        generator.timeoutSeconds.toNat * generator.maxAttempts).sum ≤
          plan.budget.maxWallSeconds ∧
      (plan.generators.map fun generator =>
        generator.maxOutputBytesPerAttempt * generator.maxAttempts).sum ≤
          plan.budget.maxTotalOutputBytes ∧
      (plan.generators.map fun generator =>
        generator.maxTokensPerAttempt * generator.maxAttempts).sum ≤
          plan.budget.maxTotalTokens ∧
      (plan.generators.map fun generator => generator.maxProposals).sum ≤
        plan.budget.maxProposals :=
  ⟨fun ⟨h₁, h₂, h₃, h₄, h₅, h₆, h₇⟩ => ⟨h₁, h₂, h₃, h₄, h₅, h₆, h₇⟩,
    fun ⟨h₁, h₂, h₃, h₄, h₅, h₆, h₇⟩ => ⟨h₁, h₂, h₃, h₄, h₅, h₆, h₇⟩⟩

instance ApexGenerationPlan.decidableBounded (plan : ApexGenerationPlan) :
    Decidable plan.Bounded :=
  decidable_of_iff' _ plan.bounded_iff

/-- `reserved_usage_for`. -/
def reservedUsageFor (generator : GeneratorPlanEntry) : GenerationBudgetUsage where
  attempts := 1
  wallMilliseconds := generator.timeoutSeconds.toNat * 1000
  outputBytes := generator.maxOutputBytesPerAttempt
  tokens := generator.maxTokensPerAttempt
  proposals := generator.maxProposals

/-! ## The ledger -/

/-- The types of ledger entries. -/
inductive GenerationBudgetEntryType where
  | reserve
  | settle
  | release
  deriving DecidableEq, Repr

/-- The text of a type. -/
def GenerationBudgetEntryType.text : GenerationBudgetEntryType → String
  | .reserve => "reserve"
  | .settle => "settle"
  | .release => "release"

/-- `GenerationBudgetLedgerEntry`, a row of `agent_generation_budget_ledger`. -/
structure GenerationBudgetLedgerEntry where
  ledgerEntryId : Uuid
  generationRunId : Uuid
  attemptId : Uuid
  entryType : GenerationBudgetEntryType
  reserved : GenerationBudgetUsage
  actual : GenerationBudgetUsage := {}
  idempotencyKey : String
  createdAt : Timestamp
  deriving DecidableEq, Repr

instance : Keyed GenerationBudgetLedgerEntry Uuid := ⟨GenerationBudgetLedgerEntry.ledgerEntryId⟩

/-- `GenerationBudgetLedgerEntry.require_budget_entry_semantics`. -/
def GenerationBudgetLedgerEntry.Valid (entry : GenerationBudgetLedgerEntry) : Prop :=
  entry.reserved.attempts = 1 ∧
    (entry.entryType = .reserve ∨ entry.entryType = .release → entry.actual = {}) ∧
    (entry.entryType = .settle → entry.actual.attempts = 1 ∧
      entry.actual.wallMilliseconds ≤ entry.reserved.wallMilliseconds ∧
      entry.actual.outputBytes ≤ entry.reserved.outputBytes ∧
      entry.actual.tokens ≤ entry.reserved.tokens ∧
      entry.actual.proposals ≤ entry.reserved.proposals)

instance GenerationBudgetLedgerEntry.decidableValid (entry : GenerationBudgetLedgerEntry) :
    Decidable entry.Valid :=
  inferInstanceAs (Decidable (_ ∧ _ ∧ _))

/-- The derived identifiers, with those of ledger entries. -/
structure LedgerIdentities extends Identities where
  generationBudgetEntryIdFor : Uuid → GenerationBudgetEntryType → Uuid

/-- `generation_budget_idempotency_key`. -/
def generationBudgetIdempotencyKey (attemptId : Uuid) (entryType : GenerationBudgetEntryType) :
    String :=
  s!"agent-generation-budget:{attemptId.text}:{entryType.text}"

/-- The entry of an attempt, with its identifier and its key. -/
def ledgerEntry (ids : LedgerIdentities) (attempt : GeneratorAttempt)
    (entryType : GenerationBudgetEntryType) (reserved actual : GenerationBudgetUsage)
    (createdAt : Timestamp) : GenerationBudgetLedgerEntry where
  ledgerEntryId := ids.generationBudgetEntryIdFor attempt.attemptId entryType
  generationRunId := attempt.generationRunId
  attemptId := attempt.attemptId
  entryType := entryType
  reserved := reserved
  actual := actual
  idempotencyKey := generationBudgetIdempotencyKey attempt.attemptId entryType
  createdAt := createdAt

/-- `_reserve_entry`. -/
def reserveEntry (ids : LedgerIdentities) (attempt : GeneratorAttempt)
    (reserved : GenerationBudgetUsage) (createdAt : Timestamp) :
    Except Error GenerationBudgetLedgerEntry := do
  let entry := ledgerEntry ids attempt .reserve reserved {} createdAt
  require entry.Valid (.validationError "GenerationBudgetLedgerEntry")
  return entry

/-- `_settle_entry`. -/
def settleEntry (ids : LedgerIdentities) (attempt : GeneratorAttempt)
    (reserved actual : GenerationBudgetUsage) (now : Timestamp) :
    Except Error GenerationBudgetLedgerEntry := do
  let entry := ledgerEntry ids attempt .settle reserved actual now
  require entry.Valid (.validationError "GenerationBudgetLedgerEntry")
  return entry

/-- The columns `reserved` and `actual` of an attempt. -/
structure AttemptUsage where
  attemptId : Uuid
  reserved : GenerationBudgetUsage
  actual : GenerationBudgetUsage := {}
  deriving DecidableEq, Repr

instance : Keyed AttemptUsage Uuid := ⟨AttemptUsage.attemptId⟩

/-- The columns `budget_reserved` and `budget_consumed` of a run. -/
structure RunUsage where
  generationRunId : Uuid
  reserved : GenerationBudgetUsage
  consumed : GenerationBudgetUsage := {}
  deriving DecidableEq, Repr

instance : Keyed RunUsage Uuid := ⟨RunUsage.generationRunId⟩

/-- The tables of the authority with their usage and the ledger. -/
structure BudgetedStore where
  tables : GenerationStore := {}
  attemptUsages : Table AttemptUsage := ∅
  runUsages : Table RunUsage := ∅
  ledger : Table GenerationBudgetLedgerEntry := ∅
  deriving DecidableEq

/-- An operation on the tables that changes no usage. -/
def BudgetedStore.onTables {α : Type} (op : Transaction GenerationStore Error α) :
    Transaction BudgetedStore Error α :=
  fun s => do
    let (tables, reply) ← op s.tables
    return ({ s with tables }, reply)

/-- `_insert_budget_entry`. -/
def insertBudgetEntry (entry : GenerationBudgetLedgerEntry) (s : BudgetedStore) :
    Except Error BudgetedStore := do
  if s.ledger.find? entry.ledgerEntryId = none then
    require (s.ledger.rows.all fun other => !decide (
        other.attemptId = entry.attemptId ∧ other.entryType = entry.entryType))
      (.databaseError "agent_generation_budget_ledger_attempt_id_entry_type_key")
    require (s.ledger.rows.all fun other =>
        !decide (other.idempotencyKey = entry.idempotencyKey))
      (.databaseError "agent_generation_budget_ledger_idempotency_key_key")
    require (s.tables.attempts.find? entry.attemptId ≠ none)
      (.databaseError "agent_generation_budget_ledger_attempt_id_fkey")
    require (s.tables.runs.find? entry.generationRunId ≠ none)
      (.databaseError "agent_generation_budget_ledger_generation_run_id_fkey")
    return { s with ledger := s.ledger.insertIfAbsent entry }
  else return s

/-- The usage with which an attempt has ended. -/
def AttemptUsage.charged (actual : GenerationBudgetUsage) (usage : AttemptUsage) : AttemptUsage :=
  { usage with actual }

instance (actual : GenerationBudgetUsage) : KeepsKey (AttemptUsage.charged actual) :=
  ⟨fun _ => rfl⟩

/-- The usage of a run as a reconciliation leaves it. -/
def RunUsage.summarized (reserved consumed : GenerationBudgetUsage) (usage : RunUsage) : RunUsage :=
  { usage with reserved, consumed }

instance (reserved consumed : GenerationBudgetUsage) :
    KeepsKey (RunUsage.summarized reserved consumed) := ⟨fun _ => rfl⟩

/-- What the validator of `GenerationRun` checks about its usage. -/
def RunUsage.Fits (usage : RunUsage) (budget : GenerationBudget) : Prop :=
  usage.reserved.Fits budget ∧ usage.consumed.Fits budget ∧
    ∃ total, usage.reserved.plus usage.consumed = .ok total ∧ total.Fits budget

/-- An attempt is inserted with its reservation and the entry for it. -/
def insertPending (ids : LedgerIdentities) (generator : GeneratorPlanEntry)
    (attempt : GeneratorAttempt) (createdAt : Timestamp) (s : BudgetedStore) :
    Except Error BudgetedStore := do
  let entry ← reserveEntry ids attempt (reservedUsageFor generator) createdAt
  let tables ← insertAttempt attempt s.tables
  insertBudgetEntry entry
    { s with
      tables
      attemptUsages := s.attemptUsages.insertIfAbsent
        { attemptId := attempt.attemptId, reserved := reservedUsageFor generator } }

/-- An attempt ends with a usage, and the entry for it is inserted. -/
def closeAttempt (ids : LedgerIdentities) (f : GeneratorAttempt → GeneratorAttempt) [KeepsKey f]
    (attempt : GeneratorAttempt) (reserved actual : GenerationBudgetUsage) (now : Timestamp)
    (s : BudgetedStore) : Except Error BudgetedStore := do
  let (tables, _) ← writeAttempt attempt.attemptId f s.tables
  let entry ← settleEntry ids attempt reserved actual now
  insertBudgetEntry entry
    { s with
      tables
      attemptUsages := s.attemptUsages.update attempt.attemptId (AttemptUsage.charged actual) }

namespace Budgeted

/-! ## Starting a run -/

/-- `create_generation_run`. -/
def createGenerationRun (ids : LedgerIdentities) (run : GenerationRun)
    (initialReserved : GenerationBudgetUsage) (attempts : List GeneratorAttempt) :
    Transaction BudgetedStore Error (GenerationRun × Bool) :=
  fun s => do
    require (run.state = .created)
      (.conflict "new Agent Generation Run must be dev-only and created")
    require (attempts.length = run.plannedGeneratorCount)
      (.conflict "Agent Generation Run initial Attempt family is incomplete")
    match s.tables.runs.rows.filter fun other => decide (run.ClashesWith other) with
    | [] => do
        let s ← (run.plan.generators.zip attempts).foldlM
          (fun s (generator, attempt) => insertPending ids generator attempt run.createdAt s)
          { s with
            tables := { s.tables with runs := s.tables.runs.insertIfAbsent run }
            runUsages := s.runUsages.insertIfAbsent
              { generationRunId := run.generationRunId, reserved := initialReserved } }
        return (s, (run, true))
    | [row] => do
        let stored ← loadRun row
        require (stored.SameInputs run)
          (.conflict "Agent Generation idempotency key was reused with different inputs")
        return (s, (stored, false))
    | _ => .error (.conflict "Agent Generation identity or idempotency key was reused")

/-- The first transaction of `ApexGenerationCoordinator.start`. The request, the run and its
attempts are validated when they are built. -/
def startGenerationRun (ids : LedgerIdentities) (createdAt : Timestamp)
    (start : GenerationRunStartRequest) :
    Transaction BudgetedStore Error (GenerationRun × Bool) :=
  fun s => do
    require start.plan.Bounded (.validationError "ApexGenerationPlan")
    let (run, attempts) ←
      (buildGenerationRunStart ids.toIdentities start createdAt).mapError .valueError
    let initialReserved ← sumUsage (start.plan.generators.map reservedUsageFor)
    require run.Valid (.validationError "GenerationRun")
    require (∀ attempt ∈ attempts, attempt.Valid) (.validationError "GeneratorAttempt")
    createGenerationRun ids run initialReserved attempts s

/-! ## Reconciling a run -/

/-- `_fail_stale_attempt`. -/
def failStaleAttempt (ids : LedgerIdentities) (now : Timestamp) (attempt : GeneratorAttempt)
    (s : BudgetedStore) : Except Error BudgetedStore := do
  let usage ← requireRow (s.attemptUsages.find? attempt.attemptId) "attempt row"
  closeAttempt ids (GeneratorAttempt.failStale now) attempt usage.reserved
    (conservativeFailureUsage usage.reserved) now s

/-- Fail the stale attempts. -/
def failStaleAttempts (ids : LedgerIdentities) (now : Timestamp)
    (attempts : List GeneratorAttempt) (s : BudgetedStore) : Except Error BudgetedStore :=
  attempts.foldlM (fun s attempt =>
    if attempt.Stale now then failStaleAttempt ids now attempt s else .ok s) s

/-- `_insert_retry`. -/
def insertRetry (ids : LedgerIdentities) (run : GenerationRun)
    (generatorOrdinal attemptNumber : Nat) (now : Timestamp) (s : BudgetedStore) :
    Except Error BudgetedStore := do
  let generator ← requireSome run.plan.generators[generatorOrdinal]?
    (.keyError "tuple index out of range")
  let attempt ← loadAttempt
    (buildPendingAttempt ids.toIdentities run generator generatorOrdinal attemptNumber now)
  insertPending ids generator attempt now s

/-- Try a generator again when its last attempt has failed and it has attempts left. -/
def retryGenerator (ids : LedgerIdentities) (run : GenerationRun)
    (attempts : List GeneratorAttempt) (now : Timestamp) (s : BudgetedStore) (ordinal : Nat) :
    Except Error BudgetedStore := do
  let (generator, own, latest) ← latestAttempt run attempts ordinal
  if anySucceeded own = false ∧ latest.state = .failed ∧
      latest.attemptNumber < generator.maxAttempts then
    insertRetry ids run ordinal (latest.attemptNumber + 1) now s
  else return s

/-- What the open attempts of a run have reserved, attempt by attempt. -/
def openReservations (s : BudgetedStore) (runId : Uuid) : List GenerationBudgetUsage :=
  (s.tables.attempts.rows.filter fun attempt =>
    decide (attempt.generationRunId = runId) &&
      decide (attempt.state = .pending ∨ attempt.state = .running)).filterMap fun attempt =>
        (s.attemptUsages.find? attempt.attemptId).map AttemptUsage.reserved

/-- The entries that settle attempts of a run. -/
def settlements (s : BudgetedStore) (runId : Uuid) : List GenerationBudgetLedgerEntry :=
  s.ledger.rows.filter fun entry =>
    decide (entry.generationRunId = runId) && decide (entry.entryType = .settle)

/-- `_outstanding_reserved`. -/
def outstandingReserved (s : BudgetedStore) (runId : Uuid) :
    Except Error GenerationBudgetUsage :=
  sumUsage (openReservations s runId)

/-- `_consumed_budget`. -/
def consumedBudget (s : BudgetedStore) (runId : Uuid) : Except Error GenerationBudgetUsage :=
  sumUsage ((settlements s runId).map GenerationBudgetLedgerEntry.actual)

/-- The rest of `_reconcile_generation_run_locked`, from the last time it reads the attempts. -/
def summarizeRun (run : GenerationRun) (now : Timestamp) (s : BudgetedStore) :
    Except Error (BudgetedStore × GenerationRun) := do
  let attempts ← (s.tables.attemptsOf run.generationRunId).mapM loadAttempt
  let finished ← (List.range run.plannedGeneratorCount).mapM (generatorFinished run attempts)
  let terminalGenerators := finished.count true
  let proposalCount := (s.tables.proposals.rows.filter fun proposal =>
    decide (proposal.generationRunId = run.generationRunId)).length
  let allFinished := decide (terminalGenerators = run.plannedGeneratorCount)
  let (tables, retained) :=
    if allFinished then finalizeProposals run.generationRunId s.tables else (s.tables, 0)
  let reserved ← outstandingReserved s run.generationRunId
  let consumed ← consumedBudget s run.generationRunId
  let total ← reserved.plus consumed
  let failed := allFinished && decide (retained = 0)
  let corrupt := !decide (total.Fits run.plan.budget)
  let summary : RunSummary :=
    { state := if failed || corrupt then .failed
        else if allFinished then .awaitingReview else .running
      attemptCount := attempts.length
      terminalAttemptCount := (attempts.filter fun attempt => attempt.state.terminal).length
      terminalGeneratorCount := terminalGenerators
      proposalCount := proposalCount
      retainedProposalCount := retained
      error :=
        if corrupt then some ⟨"generation_budget_corrupt",
          "generation Budget ledger exceeds the immutable Plan"⟩
        else if failed then some ⟨"no_retained_proposals",
          "all generator Attempts terminated without a retained Proposal"⟩ else none
      finishedAt := if failed || corrupt then some now else none }
  let (tables, row) ← writeRun run.generationRunId (GenerationRun.summarized summary now) tables
  -- the row is read back, and its usage has to fit the budget
  require (reserved.Fits run.plan.budget)
    (.validationError "Generation Run reservations exceed its generation Budget")
  require (consumed.Fits run.plan.budget)
    (.validationError "Generation Run consumption exceeds its generation Budget")
  require (total.Fits run.plan.budget)
    (.validationError "Generation Run active and consumed Budget exceeds its limit")
  return ({ s with
      tables
      runUsages := s.runUsages.update run.generationRunId
        (RunUsage.summarized reserved consumed) }, row)

/-- The rest of a reconciliation of a run that is running. -/
def reconcileRunning (ids : LedgerIdentities) (run : GenerationRun) (now : Timestamp)
    (s : BudgetedStore) : Except Error (BudgetedStore × GenerationRun) := do
  let attempts ← (s.tables.attemptsOf run.generationRunId).mapM loadAttempt
  let s ← failStaleAttempts ids now attempts s
  let attempts ← (s.tables.attemptsOf run.generationRunId).mapM loadAttempt
  require (∀ attempt ∈ attempts, attempt.generatorOrdinal < run.plannedGeneratorCount)
    (.keyError "generator_ordinal")
  let s ← (List.range run.plannedGeneratorCount).foldlM (retryGenerator ids run attempts now) s
  summarizeRun run now s

/-- `_reconcile_generation_run_locked`. -/
def reconcileGenerationRunLocked (ids : LedgerIdentities) (row : GenerationRun) (now : Timestamp)
    (s : BudgetedStore) : Except Error (BudgetedStore × GenerationRun) := do
  let run ← loadRun row
  match run.state with
  | .completed | .failed | .cancelled | .awaitingReview => return (s, run)
  | .created => do
      let (s, run) ← BudgetedStore.onTables
        (writeRun run.generationRunId (GenerationRun.started now)) s
      reconcileRunning ids run now s
  | .running => reconcileRunning ids run now s

/-- `reconcile_generation_run`. -/
def reconcileGenerationRun (ids : LedgerIdentities) (now : Timestamp) (runId : Uuid) :
    Transaction BudgetedStore Error GenerationRun :=
  fun s => do
    let row ← requireRow (s.tables.runs.find? runId)
      s!"Agent Generation Run not found: {runId.text}"
    reconcileGenerationRunLocked ids row now s

/-! ## Renewing and settling a claim -/

/-- A claim that is not held: a running attempt has its run reconciled. -/
def reportStale (ids : LedgerIdentities) (now : Timestamp) (attempt : GeneratorAttempt)
    (run : GenerationRun) (message : String) :
    Transaction BudgetedStore Error (Except Error GeneratorAttempt) :=
  fun s => do
    if attempt.state = .running ∧ attempt.lease ≠ none then
      let (s, _) ← reconcileGenerationRunLocked ids run now s
      return (s, .error (.staleClaimToken message))
    else return (s, .error (.staleClaimToken message))

/-- `renew_generation_attempt_claim`. -/
def renewGenerationAttemptClaim (ids : LedgerIdentities) (now : Timestamp)
    (attemptId claimToken : Uuid) (leaseSeconds : Int) :
    Transaction BudgetedStore Error (Except Error GeneratorAttempt) :=
  fun s => do
    require (1 ≤ leaseSeconds ∧ leaseSeconds ≤ 7200)
      (.valueError "Agent generator claim lease must be between 1 and 7200 seconds")
    let (attempt, run, generator) ← s.tables.boundAttempt attemptId
    require (leaseSeconds ≤ generator.timeoutSeconds)
      (.conflict "Agent generator claim lease exceeds its immutable timeout")
    if attempt.HeldBy claimToken now then
      let (s, row) ← BudgetedStore.onTables
        (writeAttempt attemptId (GeneratorAttempt.renewed now leaseSeconds)) s
      return (s, .ok row)
    else do
      reportStale ids now attempt run "Agent generator Attempt claim is stale" s

/-- What the execution of a runner has consumed. Its wall time is rounded up to milliseconds. -/
structure RunnerUsage where
  wallMilliseconds : Nat
  totalOutputBytes : Nat
  tokensConsumed : Option Nat
  deriving DecidableEq, Repr

/-- `actual_usage_for_runner_receipt`. -/
def actualUsageForRunnerReceipt (usage : RunnerUsage) (proposalCount : Nat) :
    Except Error GenerationBudgetUsage := do
  let tokens ← requireSome usage.tokensConsumed (.valueError "runner_usage_missing")
  GenerationBudgetUsage.checked
    { attempts := 1
      wallMilliseconds := usage.wallMilliseconds
      outputBytes := usage.totalOutputBytes
      tokens
      proposals := proposalCount }

/-- The settlement with the comparison of a usage with the reservation, and the usage that the
attempt is charged with. -/
def chargedSettlement (settlement : Settlement) (usage : RunnerUsage)
    (reserved : GenerationBudgetUsage) : Except Error (Settlement × GenerationBudgetUsage) := do
  match settlement.batch with
  | none => return (settlement, conservativeFailureUsage reserved)
  | some batch => do
      let actual ← actualUsageForRunnerReceipt usage batch.proposals.length
      let withinReservation := usageIsWithinReservation actual reserved
      return ({ settlement with withinReservation },
        if withinReservation then actual else conservativeFailureUsage reserved)

/-- `settle_generation_attempt`. -/
def settleGenerationAttempt (ids : LedgerIdentities) (now : Timestamp)
    (attemptId claimToken : Uuid) (settlement : Settlement) (usage : RunnerUsage) :
    Transaction BudgetedStore Error (Except Error GeneratorAttempt) :=
  fun s => do
    require (settlement.reread = true)
      (.conflict "Agent Runner Receipt could not be independently reread")
    require (settlement.batch.isNone = settlement.batchUri.isNone)
      (.conflict "Agent Proposal Batch and its immutable URI must be atomic")
    let (attempt, run, generator) ← s.tables.boundAttempt attemptId
    require (settlement.bound = true)
      (.conflict "Agent Generation settlement rejected unbound Runner evidence")
    if attempt.state = .succeeded ∨ attempt.state = .failed then
      require (attempt.lease.map AttemptLease.claimToken = some claimToken ∧
          attempt.batch = settlement.batchBinding ∧ attempt.receipt = some settlement.receipt)
        (.staleClaimToken "Agent generator settlement replay is stale")
      return (s, .ok attempt)
    else if attempt.HeldBy claimToken now then
      -- the references are built before the usage is
      let _ ← settlement.refs ids.toIdentities run attempt generator
      let columns ← requireRow (s.attemptUsages.find? attemptId) "attempt row"
      let (settlement, actual) ← chargedSettlement settlement usage columns.reserved
      let refs ← settlement.refs ids.toIdentities run attempt generator
      let s ← closeAttempt ids (GeneratorAttempt.settled settlement now) attempt columns.reserved
        actual now s
      let tables ← refs.foldlM (fun tables ref => insertProposal ref tables) s.tables
      let (s, _) ← reconcileGenerationRunLocked ids run now { s with tables }
      let row ← requireRow (s.tables.attempts.find? attemptId) "attempt row"
      let result ← loadAttempt row
      return (s, .ok result)
    else do
      reportStale ids now attempt run
        "Agent generator Attempt claim expired before settlement" s

end Budgeted

/-! ## Runs of the authority with its ledger -/

/-- A call of the authority with everything it takes. -/
inductive BudgetedCall where
  | start (createdAt : Timestamp) (request : GenerationRunStartRequest)
  | reconcile (now : Timestamp) (runId : Uuid)
  | claim (now : Timestamp) (claimToken : Uuid) (locks : GenerationLocks) (workerId : String)
      (leaseSeconds : Int) (only : Option Uuid)
  | renew (now : Timestamp) (attemptId claimToken : Uuid) (leaseSeconds : Int)
  | settle (now : Timestamp) (attemptId claimToken : Uuid) (settlement : Settlement)
      (usage : Budgeted.RunnerUsage)
  | completeReview (now : Timestamp) (runId : Uuid) (evidence : ReviewEvidence)

/-- The transaction of a call. -/
def BudgetedCall.run (ids : LedgerIdentities) : BudgetedCall → Transaction BudgetedStore Error Unit
  | .start createdAt request => (Budgeted.startGenerationRun ids createdAt request).silent
  | .reconcile now runId => (Budgeted.reconcileGenerationRun ids now runId).silent
  | .claim now claimToken locks workerId leaseSeconds only =>
      (BudgetedStore.onTables
        (claimGenerationAttempt now claimToken locks workerId leaseSeconds only)).silent
  | .renew now attemptId claimToken leaseSeconds =>
      (Budgeted.renewGenerationAttemptClaim ids now attemptId claimToken leaseSeconds).silent
  | .settle now attemptId claimToken settlement usage =>
      (Budgeted.settleGenerationAttempt ids now attemptId claimToken settlement usage).silent
  | .completeReview now runId evidence =>
      (BudgetedStore.onTables (completeGenerationReview now runId evidence)).silent

/-- One step of the authority is one call, committed or rolled back. -/
def BudgetedStep (ids : LedgerIdentities) (s : BudgetedStore) (call : BudgetedCall)
    (s' : BudgetedStore) : Prop :=
  s' = (commit (call.run ids) s).1

end Agent

end HcuAutoOpt
