import HcuAutoOpt.Domain.Enums

/-!
# State transitions

The transition graphs of `domain/transitions.py`. A state with no entry has no
successor. `transitionTask` and `transitionCandidate` return the target of an
allowed move and raise on any other; `transitionTask_eq_ok` and
`transitionCandidate_eq_ok` are all that a caller needs of them.
-/

set_option autoImplicit false

namespace HcuAutoOpt

/-! ## The graphs -/

/-- `TASK_TRANSITIONS`. -/
def taskTransitions : TaskState → List TaskState
  | .created => [.stage0Pending, .frameworkSmokePending]
  | .stage0Pending => [.stoppedMeasurement, .degraded, .baselinePending, .cancelled]
  | .degraded => [.baselinePending]
  | .baselinePending => [.profiling, .manualCandidatePending]
  | .profiling => [.searching]
  | .searching => [.evaluating]
  | .evaluating => [.modelValidating]
  | .modelValidating => [.e2eValidating, .rejected]
  | .e2eValidating => [.awaitingSignoff, .rejected]
  | .awaitingSignoff => [.completed, .rejected, .frameworkRetesting, .cancelled]
  | .frameworkSmokePending => [.sourcePreparing, .rejected, .cancelled]
  | .sourcePreparing => [.artifactPreparing, .rejected, .cancelled]
  | .artifactPreparing => [.frameworkExecuting, .rejected, .cancelled]
  | .frameworkExecuting => [.outputValidating, .rejected, .cancelled]
  | .outputValidating => [.awaitingSignoff, .rejected, .cancelled]
  | .frameworkRetesting => [.awaitingSignoff, .rejected, .cancelled]
  | .manualCandidatePending => [.manualBuilding, .cancelled]
  | .manualBuilding => [.manualCorrectness, .rejected, .cancelled]
  | .manualCorrectness => [.manualPerformance, .rejected, .cancelled]
  | .manualPerformance => [.manualAdjudicating, .rejected, .cancelled]
  | .manualAdjudicating => [.awaitingSignoff, .rejected, .cancelled]
  | .endpointProbing => [.endpointProvisionalPassed, .rejected, .cancelled]
  | _ => []

/-- `CANDIDATE_TRANSITIONS`. -/
def candidateTransitions : CandidateState → List CandidateState
  | .proposed => [.building]
  | .building => [.built, .buildFailed]
  | .built => [.correctnessRunning, .frameworkSmokeRunning]
  | .correctnessRunning => [.performanceRunning, .rejected]
  | .performanceRunning => [.roundWaiting, .adjudicating, .rejected]
  | .roundWaiting => [.modelValidating, .rejected]
  | .modelValidating => [.staged, .rejected]
  | .staged => [.e2eRunning]
  | .e2eRunning => [.releaseCandidate, .rejected]
  | .frameworkSmokeRunning => [.frameworkSmokePassed, .rejected]
  | .frameworkSmokePassed => [.frameworkSmokeRunning, .rejected]
  | .adjudicating => [.awaitingSignoff, .rejected]
  | .awaitingSignoff => [.accepted, .rejected]
  | _ => []

/-! ## Checked moves -/

/-- `transition_task`. -/
def transitionTask (current target : TaskState) : Except Error TaskState :=
  if target ∈ taskTransitions current then .ok target
  else .error (.invalidTransition s!"invalid transition: {current.value} -> {target.value}")

/-- `transition_candidate`. -/
def transitionCandidate (current target : CandidateState) : Except Error CandidateState :=
  if target ∈ candidateTransitions current then .ok target
  else .error (.invalidTransition s!"invalid transition: {current.value} -> {target.value}")

theorem transitionTask_eq_ok {current target reached : TaskState} :
    transitionTask current target = .ok reached ↔
      target ∈ taskTransitions current ∧ reached = target := by
  by_cases allowed : target ∈ taskTransitions current <;>
    simp [transitionTask, allowed, eq_comm]

theorem transitionCandidate_eq_ok {current target reached : CandidateState} :
    transitionCandidate current target = .ok reached ↔
      target ∈ candidateTransitions current ∧ reached = target := by
  by_cases allowed : target ∈ candidateTransitions current <;>
    simp [transitionCandidate, allowed, eq_comm]

end HcuAutoOpt
