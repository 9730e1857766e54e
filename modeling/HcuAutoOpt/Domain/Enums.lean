import Mathlib.Tactic.Common

/-!
# Enumerations of the control plane

The enumerations of `domain/enums.py` that the modelled operations read or write,
with the text each value is stored and printed as, and the errors of
`domain/errors.py` together with those the runtime and the database raise.
-/

set_option autoImplicit false

namespace HcuAutoOpt

/-- The workflow a task runs. -/
inductive WorkflowType where
  | optimization | frameworkSmoke | stage0 | manualCandidate | searchRound | endpointValidation
  deriving DecidableEq, Repr

/-- The states of a task. -/
inductive TaskState where
  | created | stage0Pending | stoppedMeasurement | degraded | baselinePending | profiling
  | searching | evaluating | modelValidating | e2eValidating | awaitingSignoff | completed
  | rejected | frameworkSmokePending | sourcePreparing | artifactPreparing | frameworkExecuting
  | outputValidating | frameworkRetesting | manualCandidatePending | manualBuilding
  | manualCorrectness | manualPerformance | manualAdjudicating | endpointProbing
  | endpointProvisionalPassed | cancelled
  deriving DecidableEq, Repr

/-- The states of a candidate. -/
inductive CandidateState where
  | proposed | building | buildFailed | built | correctnessRunning | performanceRunning
  | roundWaiting | modelValidating | staged | e2eRunning | releaseCandidate | rejected
  | frameworkSmokeRunning | frameworkSmokePassed | adjudicating | awaitingSignoff | accepted
  deriving DecidableEq, Repr

/-- The states of an accelerator resource. -/
inductive LeaseState where
  | available | active | releasing | expired | workerLost | fencing | healthCheck | quarantined
  deriving DecidableEq, Repr

/-- The kinds of worker that may claim a job. -/
inductive WorkerType where
  | agent | build | gpu | evaluation
  deriving DecidableEq, Repr

/-- The states of a job. -/
inductive JobState where
  | queued | running | succeeded | failed | cancelled
  deriving DecidableEq, Repr

/-- The kinds of job. -/
inductive JobType where
  | profile | candidateGenerate | build | correctness | performance | e2e | sourcePrepare
  | noopBuild | frameworkSmoke | stage0Probe | manualBuild | manualCorrectness
  | manualPerformance | manualAdjudicate | endpointValidation | endpointAdjudicate
  deriving DecidableEq, Repr

/-- How much of a resource a job needs while it runs. -/
inductive LeaseScope where
  | none | shared | exclusive
  deriving DecidableEq, Repr

/-- Whether a Stage 0 run may bind a formal report. -/
inductive Stage0RunMode where
  | dryRun | formal
  deriving DecidableEq, Repr

/-- The states of a Stage 0 run. -/
inductive Stage0RunState where
  | collecting | ready | finalized | failed
  deriving DecidableEq, Repr

/-- The seven Stage 0 probes. -/
inductive Stage0ProbeType where
  | fingerprint | timer | noise | knownSignal | nullSignal | profiler | hotpatch
  deriving DecidableEq, Repr

/-- The verdicts of an adjudicated manual candidate. -/
inductive ManualCandidateVerdict where
  | faster | slower | inconclusive | invalid
  deriving DecidableEq, Repr

/-- Whether a search round runs from a script or from formal evidence. -/
inductive SearchRoundRunMode where
  | scripted | formal
  deriving DecidableEq, Repr

/-- The states of a search round. -/
inductive SearchRoundState where
  | intakeOpen | intakeClosed | building | correctness | searchMeasuring | searchBarrier
  | holdoutMeasuring | holdoutBarrier | awaitingSignoff | scriptedCompleted | completed
  | rejected | cancelled
  deriving DecidableEq, Repr

/-- The states of a budget reservation. -/
inductive RoundBudgetReservationState where
  | reserved | settled | released
  deriving DecidableEq, Repr

/-- The states of a member of a search round. -/
inductive RoundCandidateState where
  | intakeAccepted | building | buildFailed | built | correctnessFailed | correctnessPassed
  | searchFailed | searchMeasured | notPromoted | holdoutFailed | holdoutMeasured | invalid
  deriving DecidableEq, Repr

/-- The two measurement phases of a search round. -/
inductive RoundPhase where
  | search | holdout
  deriving DecidableEq, Repr

/-- How a barrier closes. -/
inductive RoundBarrierOutcome where
  | membersPromoted | noPromotableCandidate | completed
  deriving DecidableEq, Repr

/-- Why a search round completes. -/
inductive RoundTerminalReason where
  | holdoutCompleted | noPromotableCandidate
  deriving DecidableEq, Repr

/-- The entries of a budget ledger. -/
inductive RoundBudgetEntryType where
  | reserve | settle | release
  deriving DecidableEq, Repr

/-- Whether a manual candidate is a test fixture. -/
inductive ManualCandidateKind where
  | fixture | business
  deriving DecidableEq, Repr

/-- The mode Stage 0 puts a project in. -/
inductive ProjectMode where
  | stoppedMeasurement | fullMvp | degradedManualIntake | configOnly
  deriving DecidableEq, Repr

/-! ## Stored texts -/

/-- The stored text of a `WorkflowType`. -/
def WorkflowType.value : WorkflowType → String
  | .optimization => "optimization"
  | .frameworkSmoke => "framework_smoke"
  | .stage0 => "stage0"
  | .manualCandidate => "manual_candidate"
  | .searchRound => "search_round"
  | .endpointValidation => "endpoint_validation"

/-- The stored text of a `TaskState`. -/
def TaskState.value : TaskState → String
  | .created => "created"
  | .stage0Pending => "stage0_pending"
  | .stoppedMeasurement => "stopped_measurement"
  | .degraded => "degraded"
  | .baselinePending => "baseline_pending"
  | .profiling => "profiling"
  | .searching => "searching"
  | .evaluating => "evaluating"
  | .modelValidating => "model_validating"
  | .e2eValidating => "e2e_validating"
  | .awaitingSignoff => "awaiting_signoff"
  | .completed => "completed"
  | .rejected => "rejected"
  | .frameworkSmokePending => "framework_smoke_pending"
  | .sourcePreparing => "source_preparing"
  | .artifactPreparing => "artifact_preparing"
  | .frameworkExecuting => "framework_executing"
  | .outputValidating => "output_validating"
  | .frameworkRetesting => "framework_retesting"
  | .manualCandidatePending => "manual_candidate_pending"
  | .manualBuilding => "manual_building"
  | .manualCorrectness => "manual_correctness"
  | .manualPerformance => "manual_performance"
  | .manualAdjudicating => "manual_adjudicating"
  | .endpointProbing => "endpoint_probing"
  | .endpointProvisionalPassed => "endpoint_provisional_passed"
  | .cancelled => "cancelled"

/-- The stored text of a `CandidateState`. -/
def CandidateState.value : CandidateState → String
  | .proposed => "proposed"
  | .building => "building"
  | .buildFailed => "build_failed"
  | .built => "built"
  | .correctnessRunning => "correctness_running"
  | .performanceRunning => "performance_running"
  | .roundWaiting => "round_waiting"
  | .modelValidating => "model_validating"
  | .staged => "staged"
  | .e2eRunning => "e2e_running"
  | .releaseCandidate => "release_candidate"
  | .rejected => "rejected"
  | .frameworkSmokeRunning => "framework_smoke_running"
  | .frameworkSmokePassed => "framework_smoke_passed"
  | .adjudicating => "adjudicating"
  | .awaitingSignoff => "awaiting_signoff"
  | .accepted => "accepted"

/-- The stored text of a `JobType`. -/
def JobType.value : JobType → String
  | .profile => "profile"
  | .candidateGenerate => "candidate_generate"
  | .build => "build"
  | .correctness => "correctness"
  | .performance => "performance"
  | .e2e => "e2e"
  | .sourcePrepare => "source_prepare"
  | .noopBuild => "noop_build"
  | .frameworkSmoke => "framework_smoke"
  | .stage0Probe => "stage0_probe"
  | .manualBuild => "manual_build"
  | .manualCorrectness => "manual_correctness"
  | .manualPerformance => "manual_performance"
  | .manualAdjudicate => "manual_adjudicate"
  | .endpointValidation => "endpoint_validation"
  | .endpointAdjudicate => "endpoint_adjudicate"

/-- The stored text of a `LeaseScope`. -/
def LeaseScope.value : LeaseScope → String
  | .none => "none"
  | .shared => "shared"
  | .exclusive => "exclusive"

/-- The stored text of a `Stage0ProbeType`. -/
def Stage0ProbeType.value : Stage0ProbeType → String
  | .fingerprint => "fingerprint"
  | .timer => "timer"
  | .noise => "noise"
  | .knownSignal => "known_signal"
  | .nullSignal => "null_signal"
  | .profiler => "profiler"
  | .hotpatch => "hotpatch"

/-- The stored text of a `ManualCandidateVerdict`. -/
def ManualCandidateVerdict.value : ManualCandidateVerdict → String
  | .faster => "faster"
  | .slower => "slower"
  | .inconclusive => "inconclusive"
  | .invalid => "invalid"

/-- The stored text of a `SearchRoundState`. -/
def SearchRoundState.value : SearchRoundState → String
  | .intakeOpen => "intake_open"
  | .intakeClosed => "intake_closed"
  | .building => "building"
  | .correctness => "correctness"
  | .searchMeasuring => "search_measuring"
  | .searchBarrier => "search_barrier"
  | .holdoutMeasuring => "holdout_measuring"
  | .holdoutBarrier => "holdout_barrier"
  | .awaitingSignoff => "awaiting_signoff"
  | .scriptedCompleted => "scripted_completed"
  | .completed => "completed"
  | .rejected => "rejected"
  | .cancelled => "cancelled"

/-- The stored text of a `LeaseState`. -/
def LeaseState.value : LeaseState → String
  | .available => "available"
  | .active => "active"
  | .releasing => "releasing"
  | .expired => "expired"
  | .workerLost => "worker_lost"
  | .fencing => "fencing"
  | .healthCheck => "health_check"
  | .quarantined => "quarantined"

/-! ## Errors -/

/-- What an operation raises. The first six are the domain's own errors and
`evaluationError` is one of the evaluation package, by its code; the others come from
the language runtime, the validation library and the database. -/
inductive Error where
  | contractError (message : String)
  | invalidTransition (message : String)
  | staleFencingToken (message : String)
  | notFound (message : String)
  | conflict (message : String)
  | staleClaimToken (message : String)
  | evaluationError (code : String)
  | valueError (message : String)
  | keyError (message : String)
  | typeError (message : String)
  | overflowError (message : String)
  | validationError (message : String)
  | databaseError (message : String)
  deriving DecidableEq, Repr

/-! ## Shared values -/

/-- `datetime`: microseconds of UTC for an aware time, of its wall clock for a naive one,
and the offset of an aware time in seconds. -/
structure DateTime where
  micros : Int
  offset : Option Int
  deriving DecidableEq, Repr

/-- `AdapterProvenance`. -/
structure AdapterProvenance where
  profile : String
  capability : String
  adapterName : String
  adapterVersion : String
  implementationKind : String
  sourceCommit : Option String := none
  deriving DecidableEq, Repr

end HcuAutoOpt
