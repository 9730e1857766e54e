import HcuAutoOpt.Agent.Contracts
import Mathlib.Data.List.Sort

/-!
# The rules of the Agent Generation Authority

The pure part of `agent/authority.py`: how a start request becomes a run with one pending
attempt for each generator, which proposals of a batch are accepted, and which proposals of a
finished run are retained. The hashes of documents and the identifiers derived from them are
parameters.
-/

set_option autoImplicit false

namespace HcuAutoOpt

namespace Agent

open Foundation

/-- The hashes of documents and the identifiers derived by `uuid5`. -/
structure Identities where
  generationRunIdFor : String → Uuid
  generationPlanIdFor : Uuid → Uuid
  generationAttemptIdFor : Uuid → String → Nat → Uuid
  candidateGenerationRequestHash : CandidateGenerationRequest → String
  apexGenerationPlanHash : ApexGenerationPlan → String

/-- `AgentAuthorityError`, by its code. -/
abbrev AgentAuthorityError := String

/-! ## Starting a run -/

/-- The attempt `build_pending_attempt` returns. -/
def buildPendingAttempt (ids : Identities) (run : GenerationRun) (generator : GeneratorPlanEntry)
    (generatorOrdinal attemptNumber : Nat) (createdAt : Timestamp) : GeneratorAttempt where
  attemptId := ids.generationAttemptIdFor run.generationRunId generator.generatorId attemptNumber
  generationRunId := run.generationRunId
  planId := run.plan.planId
  requestId := run.request.requestId
  generatorId := generator.generatorId
  generatorOrdinal := generatorOrdinal
  attemptNumber := attemptNumber
  adapterProfile := generator.adapterProfile
  createdAt := createdAt
  updatedAt := createdAt

/-- The run a start request describes. -/
def GenerationRunStartRequest.run (start : GenerationRunStartRequest) (ids : Identities)
    (createdAt : Timestamp) : GenerationRun where
  generationRunId := ids.generationRunIdFor start.idempotencyKey
  request := start.request
  requestHash := ids.candidateGenerationRequestHash start.request
  plan := start.plan
  planHash := ids.apexGenerationPlanHash start.plan
  actor := start.actor
  idempotencyKey := start.idempotencyKey
  state := .created
  plannedGeneratorCount := start.plan.generators.length
  attemptCount := start.plan.generators.length
  createdAt := createdAt
  updatedAt := createdAt

/-- The first attempt of every generator of the plan. -/
def GenerationRunStartRequest.attempts (start : GenerationRunStartRequest) (ids : Identities)
    (createdAt : Timestamp) : List GeneratorAttempt :=
  start.plan.generators.zipIdx.map fun (generator, ordinal) =>
    buildPendingAttempt ids (start.run ids createdAt) generator ordinal 1 createdAt

/-- `build_generation_run_start`. -/
def buildGenerationRunStart (ids : Identities) (start : GenerationRunStartRequest)
    (createdAt : Timestamp) :
    Except AgentAuthorityError (GenerationRun × List GeneratorAttempt) := do
  let expectedRunId := ids.generationRunIdFor start.idempotencyKey
  require (start.request.generationRunId = expectedRunId) "generation_run_id_mismatch"
  require (start.plan.generationRunId = expectedRunId) "generation_plan_run_mismatch"
  require (start.plan.planId = ids.generationPlanIdFor expectedRunId)
    "generation_plan_id_mismatch"
  require (start.plan.requestId = start.request.requestId ∧
      start.plan.requestHash = ids.candidateGenerationRequestHash start.request)
    "generation_request_binding_mismatch"
  require (start.plan.budgetMaxProposals ≤ start.request.maxProposals)
    "generation_proposal_budget_exceeded"
  return (start.run ids createdAt, start.attempts ids createdAt)

/-! ## Proposals -/

/-- `ordinal`, then `proposal_id`. -/
def CandidateProposal.Before (first second : CandidateProposal) : Prop :=
  first.ordinal < second.ordinal ∨
    first.ordinal = second.ordinal ∧ first.proposalId.toNat ≤ second.proposalId.toNat

instance : DecidableRel CandidateProposal.Before := fun _ _ =>
  inferInstanceAs (Decidable (_ ∨ _ ∧ _))

/-- The reference stored for a proposal of a batch. -/
def CandidateProposal.ref (proposal : CandidateProposal) (attempt : GeneratorAttempt)
    (batchId : Uuid) : CandidateProposalRef where
  proposalId := proposal.proposalId
  proposalHash := proposal.proposalHash
  generationRunId := attempt.generationRunId
  requestId := attempt.requestId
  attemptId := attempt.attemptId
  batchId := batchId
  generatorId := attempt.generatorId
  generatorOrdinal := attempt.generatorOrdinal
  proposalOrdinal := proposal.ordinal
  patchUri := proposal.patchUri
  patchHash := proposal.patchHash
  normalizedPatchHash := proposal.normalizedPatchHash

/-- `proposal_refs_for_batch`. -/
def proposalRefsForBatch (ids : Identities) (run : GenerationRun) (attempt : GeneratorAttempt)
    (generator : GeneratorPlanEntry) (batch : CandidateProposalBatch) :
    Except AgentAuthorityError (List CandidateProposalRef) := do
  let authoritative := ids.candidateGenerationRequestHash run.request
  require (run.requestHash = authoritative ∧ run.plan.requestHash = authoritative)
    "generation_request_authority_mismatch"
  require (attempt.generationRunId = run.generationRunId ∧
    batch.generationRunId = run.generationRunId) "proposal_batch_cross_run"
  require (attempt.requestId = run.request.requestId ∧
    batch.requestId = run.request.requestId) "proposal_batch_cross_request"
  require (batch.requestHash = authoritative ∧
      ∀ proposal ∈ batch.proposals, proposal.requestHash = authoritative)
    "proposal_batch_request_hash_mismatch"
  require (batch.generatorId = attempt.generatorId ∧
    generator.generatorId = attempt.generatorId) "proposal_batch_cross_generator"
  require (batch.attemptCount = attempt.attemptNumber) "proposal_batch_attempt_mismatch"
  require (batch.proposals.length ≤ generator.maxProposals) "proposal_batch_limit_exceeded"
  return (batch.proposals.insertionSort CandidateProposal.Before).map
    fun proposal => proposal.ref attempt batch.batchId

/-- `generator_ordinal`, `proposal_ordinal`, `proposal_hash`, then `proposal_id`. -/
def CandidateProposalRef.Before (first second : CandidateProposalRef) : Prop :=
  first.generatorOrdinal < second.generatorOrdinal ∨
    first.generatorOrdinal = second.generatorOrdinal ∧
      (first.proposalOrdinal < second.proposalOrdinal ∨
        first.proposalOrdinal = second.proposalOrdinal ∧
          (first.proposalHash < second.proposalHash ∨
            first.proposalHash = second.proposalHash ∧
              first.proposalId.toNat ≤ second.proposalId.toNat))

instance : DecidableRel CandidateProposalRef.Before := fun _ _ =>
  inferInstanceAs (Decidable (_ ∨ _ ∧ (_ ∨ _ ∧ (_ ∨ _ ∧ _))))

/-- `normalized_patch_hash`, then as `Before`. -/
def CandidateProposalRef.PatchBefore (first second : CandidateProposalRef) : Prop :=
  first.normalizedPatchHash < second.normalizedPatchHash ∨
    first.normalizedPatchHash = second.normalizedPatchHash ∧ first.Before second

instance : DecidableRel CandidateProposalRef.PatchBefore := fun _ _ =>
  inferInstanceAs (Decidable (_ ∨ _ ∧ _))

/-- The first proposal of a patch is retained, and every later one duplicates it. -/
def finalizeStep (done : List (String × Uuid) × List CandidateProposalRef)
    (proposal : CandidateProposalRef) : List (String × Uuid) × List CandidateProposalRef :=
  match done.1.lookup proposal.normalizedPatchHash with
  | none => ((proposal.normalizedPatchHash, proposal.proposalId) :: done.1,
      done.2 ++ [{ proposal with disposition := .retained }])
  | some retainedId => (done.1, done.2 ++ [{ proposal with disposition := .duplicate retainedId }])

/-- `finalize_proposal_dispositions`. -/
def finalizeProposalDispositions (proposals : List CandidateProposalRef) :
    List CandidateProposalRef :=
  ((proposals.insertionSort CandidateProposalRef.PatchBefore).foldl finalizeStep
    ([], [])).2.insertionSort CandidateProposalRef.Before

end Agent

end HcuAutoOpt
