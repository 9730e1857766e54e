import HcuAutoOpt.Storage.Schema
import HcuAutoOpt.Foundation.CommittedCalls

/-!
# Contracts of Agent generation

The models of `contracts/agent_v1.py` that the Agent Generation Authority stores and hands
out: the plan of a generation run, its attempts, and the claim of an attempt. A plan keeps its
bounds as fields. The validators of runs and attempts are predicates on their rows (`Valid`),
since rows are validated whenever they are read.

The sums of a plan and of its ledger are not modelled, nor are the texts that no operation
reads: they stay together in a document that two plans or requests are compared by.
-/

set_option autoImplicit false

namespace HcuAutoOpt

namespace Agent

open Foundation

/-! ## Plans -/

/-- `GeneratorPlanEntry`. -/
structure GeneratorPlanEntry where
  generatorId : String
  adapterProfile : String
  maxAttempts : Nat
  maxProposals : Nat
  timeoutSeconds : Int
  terms : Json.Object := []
  maxAttempts_range : 1 ≤ maxAttempts ∧ maxAttempts ≤ 8
  timeoutSeconds_range : 1 ≤ timeoutSeconds ∧ timeoutSeconds ≤ 7200
  deriving DecidableEq

/-- `ApexGenerationPlan`, with the limit on proposals of its budget. -/
structure ApexGenerationPlan where
  planId : Uuid
  generationRunId : Uuid
  requestId : Uuid
  requestHash : String
  generators : List GeneratorPlanEntry
  maxConcurrency : Nat
  budgetMaxProposals : Nat
  terms : Json.Object := []
  generators_range : 1 ≤ generators.length ∧ generators.length ≤ 8
  generators_distinct : (generators.map GeneratorPlanEntry.generatorId).Nodup
  maxConcurrency_range : 1 ≤ maxConcurrency ∧ maxConcurrency ≤ 4
  maxConcurrency_le : maxConcurrency ≤ generators.length
  deriving DecidableEq

/-- `CandidateGenerationRequest`. -/
structure CandidateGenerationRequest where
  requestId : Uuid
  generationRunId : Uuid
  maxProposals : Nat
  terms : Json.Object := []
  deriving DecidableEq

/-- `GenerationRunStartRequest`. -/
structure GenerationRunStartRequest where
  request : CandidateGenerationRequest
  plan : ApexGenerationPlan
  actor : String
  idempotencyKey : String

/-! ## Runs -/

/-- The states of a generation run. -/
inductive GenerationRunState where
  | created
  | running
  | awaitingReview
  | completed
  | failed
  | cancelled
  deriving DecidableEq, Repr

/-- No operation changes a run in one of these states. -/
def GenerationRunState.terminal : GenerationRunState → Bool
  | .completed | .failed | .cancelled => true
  | .created | .running | .awaitingReview => false

/-- An error code with its message. -/
structure SafeError where
  code : String
  message : String
  deriving DecidableEq, Repr

/-- Evidence of a review: its place and its hash. -/
structure ReviewEvidence where
  uri : String
  hash : String
  deriving DecidableEq, Repr

/-- `GenerationRun`, a row of `agent_generation_runs`. -/
structure GenerationRun where
  generationRunId : Uuid
  request : CandidateGenerationRequest
  requestHash : String
  plan : ApexGenerationPlan
  planHash : String
  actor : String
  idempotencyKey : String
  state : GenerationRunState
  plannedGeneratorCount : Nat
  attemptCount : Nat
  terminalAttemptCount : Nat := 0
  terminalGeneratorCount : Nat := 0
  proposalCount : Nat := 0
  retainedProposalCount : Nat := 0
  review : Option ReviewEvidence := none
  error : Option SafeError := none
  version : Nat := 1
  createdAt : Timestamp
  updatedAt : Timestamp
  finishedAt : Option Timestamp := none
  deriving DecidableEq

instance : Keyed GenerationRun Uuid := ⟨GenerationRun.generationRunId⟩

/-- `GenerationRun.require_generation_run_binding`, with the bounds of the counters. -/
structure GenerationRun.Valid (run : GenerationRun) : Prop where
  planned : 1 ≤ run.plannedGeneratorCount ∧ run.plannedGeneratorCount ≤ 8
  attempts : run.attemptCount ≤ 64 ∧ run.terminalAttemptCount ≤ run.attemptCount
  proposals : run.proposalCount ≤ 32 ∧ run.retainedProposalCount ≤ run.proposalCount
  version : 1 ≤ run.version
  updated : run.createdAt ≤ run.updatedAt
  requestBound : run.generationRunId = run.request.generationRunId
  planBound : run.generationRunId = run.plan.generationRunId
  requestOfPlan : run.plan.requestId = run.request.requestId
  hashOfPlan : run.plan.requestHash = run.requestHash
  plannedAll : run.plannedGeneratorCount = run.plan.generators.length
  terminalGenerators : run.terminalGeneratorCount ≤ run.plannedGeneratorCount
  failedError : run.state = .failed ↔ run.error ≠ none
  finished : run.state.terminal = true ↔ run.finishedAt ≠ none
  reviewable : run.state = .awaitingReview ∨ run.state = .completed →
    run.terminalGeneratorCount = run.plannedGeneratorCount ∧ 1 ≤ run.retainedProposalCount
  reviewed : run.state = .completed ↔ run.review ≠ none

theorem GenerationRun.valid_iff (run : GenerationRun) : run.Valid ↔
    (1 ≤ run.plannedGeneratorCount ∧ run.plannedGeneratorCount ≤ 8) ∧
      (run.attemptCount ≤ 64 ∧ run.terminalAttemptCount ≤ run.attemptCount) ∧
      (run.proposalCount ≤ 32 ∧ run.retainedProposalCount ≤ run.proposalCount) ∧
      1 ≤ run.version ∧ run.createdAt ≤ run.updatedAt ∧
      run.generationRunId = run.request.generationRunId ∧
      run.generationRunId = run.plan.generationRunId ∧
      run.plan.requestId = run.request.requestId ∧ run.plan.requestHash = run.requestHash ∧
      run.plannedGeneratorCount = run.plan.generators.length ∧
      run.terminalGeneratorCount ≤ run.plannedGeneratorCount ∧
      (run.state = .failed ↔ run.error ≠ none) ∧
      (run.state.terminal = true ↔ run.finishedAt ≠ none) ∧
      (run.state = .awaitingReview ∨ run.state = .completed →
        run.terminalGeneratorCount = run.plannedGeneratorCount ∧
          1 ≤ run.retainedProposalCount) ∧
      (run.state = .completed ↔ run.review ≠ none) :=
  ⟨fun ⟨h₁, h₂, h₃, h₄, h₅, h₆, h₇, h₈, h₉, h₁₀, h₁₁, h₁₂, h₁₃, h₁₄, h₁₅⟩ =>
    ⟨h₁, h₂, h₃, h₄, h₅, h₆, h₇, h₈, h₉, h₁₀, h₁₁, h₁₂, h₁₃, h₁₄, h₁₅⟩,
  fun ⟨h₁, h₂, h₃, h₄, h₅, h₆, h₇, h₈, h₉, h₁₀, h₁₁, h₁₂, h₁₃, h₁₄, h₁₅⟩ =>
    ⟨h₁, h₂, h₃, h₄, h₅, h₆, h₇, h₈, h₉, h₁₀, h₁₁, h₁₂, h₁₃, h₁₄, h₁₅⟩⟩

instance (run : GenerationRun) : Decidable run.Valid :=
  decidable_of_iff' _ run.valid_iff

/-! ## Attempts -/

/-- The states of a generator attempt. -/
inductive GeneratorAttemptState where
  | pending
  | running
  | succeeded
  | failed
  | cancelled
  deriving DecidableEq, Repr

/-- The attempt has ended. -/
def GeneratorAttemptState.terminal : GeneratorAttemptState → Bool
  | .succeeded | .failed | .cancelled => true
  | .pending | .running => false

/-- The columns that a claim sets together: `worker_id`, `claim_token`, `lease_expires_at` and
`started_at`. -/
structure AttemptLease where
  workerId : String
  claimToken : Uuid
  leaseExpiresAt : Timestamp
  startedAt : Timestamp
  deriving DecidableEq, Repr

/-- How a proposal batch ended. -/
inductive BatchStatus where
  | succeeded
  | partially
  | failed
  deriving DecidableEq, Repr

/-- The columns that bind an attempt to its proposal batch. -/
structure BatchBinding where
  batchId : Uuid
  batchUri : String
  batchHash : String
  batchStatus : BatchStatus
  rawOutputUri : String
  rawOutputHash : String
  adapterProvenance : AdapterProvenance
  deriving DecidableEq, Repr

/-- The columns that bind an attempt to the receipt of its runner. -/
structure ReceiptBinding where
  runnerReceiptId : Uuid
  runnerReceiptUri : String
  runnerReceiptHash : String
  runnerReceiptSchemaVersion : String
  runnerProvenance : AdapterProvenance
  deriving DecidableEq, Repr

/-- `GeneratorAttempt`, a row of `agent_generator_attempts`. -/
structure GeneratorAttempt where
  attemptId : Uuid
  generationRunId : Uuid
  planId : Uuid
  requestId : Uuid
  generatorId : String
  generatorOrdinal : Nat
  attemptNumber : Nat
  adapterProfile : String
  state : GeneratorAttemptState := .pending
  lease : Option AttemptLease := none
  batch : Option BatchBinding := none
  receipt : Option ReceiptBinding := none
  error : Option SafeError := none
  version : Nat := 1
  createdAt : Timestamp
  updatedAt : Timestamp
  finishedAt : Option Timestamp := none
  deriving DecidableEq

instance : Keyed GeneratorAttempt Uuid := ⟨GeneratorAttempt.attemptId⟩

/-- `GeneratorAttempt.require_attempt_state_binding`, with the bounds of the fields. -/
structure GeneratorAttempt.Valid (attempt : GeneratorAttempt) : Prop where
  ordinal : attempt.generatorOrdinal ≤ 7
  number : 1 ≤ attempt.attemptNumber ∧ attempt.attemptNumber ≤ 8
  version : 1 ≤ attempt.version
  updated : attempt.createdAt ≤ attempt.updatedAt
  worker : ∀ lease ∈ attempt.lease, 1 ≤ lease.workerId.length ∧ lease.workerId.length ≤ 200
  pending : attempt.state = .pending → attempt.lease = none
  running : attempt.state = .running → attempt.lease ≠ none ∧ attempt.finishedAt = none
  finished : attempt.state.terminal = true ↔ attempt.finishedAt ≠ none
  succeeded : attempt.state = .succeeded → attempt.lease ≠ none ∧ attempt.batch ≠ none
  unfinished : attempt.state = .pending ∨ attempt.state = .running ∨ attempt.state = .cancelled →
    attempt.batch = none
  profile : ∀ batch ∈ attempt.batch, batch.adapterProvenance.profile = attempt.adapterProfile
  runner : ∀ receipt ∈ attempt.receipt, receipt.runnerProvenance.capability = "agent_runner"
  failedError : attempt.state = .failed ↔ attempt.error ≠ none
  ended : ∀ finishedAt ∈ attempt.finishedAt, ∀ lease ∈ attempt.lease,
    lease.startedAt ≤ finishedAt

theorem GeneratorAttempt.valid_iff (attempt : GeneratorAttempt) : attempt.Valid ↔
    attempt.generatorOrdinal ≤ 7 ∧
      (1 ≤ attempt.attemptNumber ∧ attempt.attemptNumber ≤ 8) ∧
      1 ≤ attempt.version ∧ attempt.createdAt ≤ attempt.updatedAt ∧
      (∀ lease ∈ attempt.lease, 1 ≤ lease.workerId.length ∧ lease.workerId.length ≤ 200) ∧
      (attempt.state = .pending → attempt.lease = none) ∧
      (attempt.state = .running → attempt.lease ≠ none ∧ attempt.finishedAt = none) ∧
      (attempt.state.terminal = true ↔ attempt.finishedAt ≠ none) ∧
      (attempt.state = .succeeded → attempt.lease ≠ none ∧ attempt.batch ≠ none) ∧
      (attempt.state = .pending ∨ attempt.state = .running ∨ attempt.state = .cancelled →
        attempt.batch = none) ∧
      (∀ batch ∈ attempt.batch, batch.adapterProvenance.profile = attempt.adapterProfile) ∧
      (∀ receipt ∈ attempt.receipt, receipt.runnerProvenance.capability = "agent_runner") ∧
      (attempt.state = .failed ↔ attempt.error ≠ none) ∧
      (∀ finishedAt ∈ attempt.finishedAt, ∀ lease ∈ attempt.lease,
        lease.startedAt ≤ finishedAt) :=
  ⟨fun ⟨h₁, h₂, h₃, h₄, h₅, h₆, h₇, h₈, h₉, h₁₀, h₁₁, h₁₂, h₁₃, h₁₄⟩ =>
    ⟨h₁, h₂, h₃, h₄, h₅, h₆, h₇, h₈, h₉, h₁₀, h₁₁, h₁₂, h₁₃, h₁₄⟩,
  fun ⟨h₁, h₂, h₃, h₄, h₅, h₆, h₇, h₈, h₉, h₁₀, h₁₁, h₁₂, h₁₃, h₁₄⟩ =>
    ⟨h₁, h₂, h₃, h₄, h₅, h₆, h₇, h₈, h₉, h₁₀, h₁₁, h₁₂, h₁₃, h₁₄⟩⟩

instance (attempt : GeneratorAttempt) : Decidable attempt.Valid :=
  decidable_of_iff' _ attempt.valid_iff

/-! ## Claims and proposals -/

/-- `GenerationAttemptClaim`. -/
structure GenerationAttemptClaim where
  run : GenerationRun
  attempt : GeneratorAttempt
  generator : GeneratorPlanEntry
  request : CandidateGenerationRequest
  deriving DecidableEq

/-- `GenerationAttemptClaim.require_claim_binding`. -/
def GenerationAttemptClaim.Valid (claim : GenerationAttemptClaim) : Prop :=
  claim.attempt.state = .running ∧
    claim.run.generationRunId = claim.attempt.generationRunId ∧
    claim.attempt.planId = claim.run.plan.planId ∧
    claim.attempt.requestId = claim.run.request.requestId ∧
    claim.request = claim.run.request ∧
    claim.generator.generatorId = claim.attempt.generatorId ∧
    claim.run.plan.generators[claim.attempt.generatorOrdinal]? = some claim.generator

instance (claim : GenerationAttemptClaim) : Decidable claim.Valid :=
  inferInstanceAs (Decidable (_ ∧ _ ∧ _ ∧ _ ∧ _ ∧ _ ∧ _))

/-- What becomes of a proposal when its run is finished. -/
inductive Disposition where
  | pending
  | retained
  | duplicate (duplicateOfProposalId : Uuid)
  deriving DecidableEq, Repr

/-- `CandidateProposalRef`, a row of `agent_candidate_proposal_refs`. -/
structure CandidateProposalRef where
  proposalId : Uuid
  proposalHash : String
  generationRunId : Uuid
  requestId : Uuid
  attemptId : Uuid
  batchId : Uuid
  generatorId : String
  generatorOrdinal : Nat
  proposalOrdinal : Nat
  patchUri : String
  patchHash : String
  normalizedPatchHash : String
  disposition : Disposition := .pending
  deriving DecidableEq, Repr

instance : Keyed CandidateProposalRef Uuid := ⟨CandidateProposalRef.proposalId⟩

/-- `CandidateProposal`, with the hash of its document. -/
structure CandidateProposal where
  proposalId : Uuid
  proposalHash : String
  requestHash : String
  ordinal : Nat
  patchUri : String
  patchHash : String
  normalizedPatchHash : String
  deriving DecidableEq, Repr

/-- `CandidateProposalBatch`, with the hash of its document. -/
structure CandidateProposalBatch where
  batchId : Uuid
  requestId : Uuid
  requestHash : String
  generationRunId : Uuid
  generatorId : String
  adapterProvenance : AdapterProvenance
  status : BatchStatus
  proposals : List CandidateProposal
  rawOutputUri : String
  rawOutputHash : String
  attemptCount : Nat
  error : Option SafeError
  batchHash : String
  deriving DecidableEq, Repr

end Agent

end HcuAutoOpt
