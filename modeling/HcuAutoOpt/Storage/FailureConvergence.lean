import HcuAutoOpt.Storage.JobQueue

/-!
# Workflow convergence after a failed job

When a job has failed for good, the transaction that records it also moves the
workflow the job belongs to out of the state that waits for it: the
framework task or the manual candidate task is rejected with its candidate, the
Stage 0 run fails, the endpoint run or the endpoint campaign fails. The five
routines run one after the other on every such job (`convergeAfterFailure`); each
looks only at its own kind of job or task.

The framework and manual routines make checked transitions and raise when the task,
the payload or the candidate does not admit them; the others never raise on account
of a state.
-/

set_option autoImplicit false

namespace HcuAutoOpt

open Foundation

/-! ## Writing states -/

/-- The task in another state, its version counted. -/
def Task.inState (state : TaskState) (task : Task) : Task :=
  { task with state := state, version := task.version + 1 }

instance (state : TaskState) : KeepsKey (Task.inState state) := ⟨fun _ => rfl⟩

/-- Store a task state. -/
def setTaskState (taskId : Uuid) (state : TaskState) (s : Store) : Store :=
  { s with tasks := s.tasks.update taskId (Task.inState state) }

/-- The candidate in another state. -/
def Candidate.inState (state : CandidateState) (candidate : Candidate) : Candidate :=
  { candidate with state := state }

instance (state : CandidateState) : KeepsKey (Candidate.inState state) := ⟨fun _ => rfl⟩

/-- Store a candidate state. -/
def setCandidateState (candidateId : Uuid) (state : CandidateState) (s : Store) : Store :=
  { s with candidates := s.candidates.update candidateId (Candidate.inState state) }

/-- Reject a task that has not ended, by a checked transition. -/
def rejectUnlessEnded (task : Task) (s : Store) : Except Error Store := do
  if task.state ∈ [.rejected, .cancelled, .completed] then
    return s
  else
    let target ← transitionTask task.state .rejected
    return setTaskState task.taskId target s

/-- `UUID(str(raw))`. -/
def uuidOfJson (raw : Json) : Except Error Uuid :=
  match Uuid.parse raw.text with
  | some id => .ok id
  | none => .error (.valueError "badly formed hexadecimal UUID string")

/-- The candidate a job's payload binds it to. -/
def boundCandidate (job : Job) (s : Store) : Except Error Candidate := do
  match job.payload.value? "candidate_id" with
  | none => .error (.conflict s!"{job.jobType.value} job is missing its candidate_id binding")
  | some raw =>
      let candidateId ← uuidOfJson raw
      requireRow (s.candidates.find? candidateId) s!"candidate not found: {candidateId.text}"

/-- Move the bound candidate to a target, unless it is in one of the settled states. -/
def failBoundCandidate (job : Job) (target : CandidateState) (settled : List CandidateState)
    (s : Store) : Except Error Store := do
  let candidate ← boundCandidate job s
  if candidate.state ∈ settled then
    return s
  else
    let target ← transitionCandidate candidate.state target
    return setCandidateState candidate.candidateId target s

/-! ## The five routines -/

/-- The state a failed framework job leaves its candidate in. -/
def frameworkFailureTarget : JobType → Option CandidateState
  | .noopBuild => some .buildFailed
  | .frameworkSmoke => some .rejected
  | _ => none

/-- `_reject_framework_task_after_job_failure`. -/
def rejectFrameworkTaskAfterJobFailure (job : Job) (s : Store) : Except Error Store := do
  let task ← requireRow (s.tasks.find? job.taskId) s!"task not found: {job.taskId.text}"
  if task.workflowType ≠ .frameworkSmoke then
    return s
  else
    let s ← rejectUnlessEnded task s
    match frameworkFailureTarget job.jobType with
    | none => return s
    | some target => failBoundCandidate job target [target, .buildFailed, .rejected] s

/-- The Stage 0 run, failed. -/
def Stage0Run.fail (run : Stage0Run) : Stage0Run := { run with state := .failed }

instance : KeepsKey Stage0Run.fail := ⟨fun _ => rfl⟩

/-- `_fail_stage0_run_after_job_failure`. The run identifier goes into the statement as
the payload has it. -/
def failStage0RunAfterJobFailure (driver : Driver) (job : Job) (s : Store) :
    Except Error Store :=
  if job.jobType ≠ .stage0Probe then .ok s
  else
    match job.payload.value? "stage0_run_id" with
    | none => .ok s
    | some raw =>
        match driver.sqlUuid raw with
        | none => .error (.databaseError "invalid input for stage0_run_id")
        | some runId => .ok { s with
            stage0Runs := s.stage0Runs.updateWhere
              (fun run => decide (run.stage0RunId = runId ∧ run.state ∈ [.collecting, .ready]))
              Stage0Run.fail }

/-- The state a failed manual job leaves its candidate in; other jobs are not the
routine's business. -/
def manualFailureTarget : JobType → Option CandidateState
  | .manualBuild => some .buildFailed
  | .manualCorrectness => some .rejected
  | .manualPerformance => some .rejected
  | .manualAdjudicate => some .rejected
  | _ => none

/-- `_reject_manual_candidate_task_after_job_failure`. -/
def rejectManualCandidateTaskAfterJobFailure (job : Job) (s : Store) : Except Error Store :=
  match manualFailureTarget job.jobType with
  | none => .ok s
  | some target => do
      let task ← requireRow (s.tasks.find? job.taskId) s!"task not found: {job.taskId.text}"
      if task.workflowType ≠ .manualCandidate then
        return s
      else
        let s ← rejectUnlessEnded task s
        failBoundCandidate job target [target, .buildFailed, .rejected, .accepted] s

/-- The endpoint run, failed. -/
def EndpointValidationRun.fail (error : Json) (cleanupEvidence : Option Json.Object)
    (run : EndpointValidationRun) : EndpointValidationRun :=
  { run with state := .failed, failureError := some error, cleanupEvidence }

instance (error : Json) (cleanupEvidence : Option Json.Object) :
    KeepsKey (EndpointValidationRun.fail error cleanupEvidence) := ⟨fun _ => rfl⟩

/-- Fail an endpoint run that has not ended. -/
def failEndpointRun (run : EndpointValidationRun) (error : Json)
    (cleanupEvidence : Option Json.Object) (s : Store) : Store :=
  if run.state ∈ [.queued, .running] then
    { s with
      endpointRuns := s.endpointRuns.update run.endpointRunId
        (EndpointValidationRun.fail error cleanupEvidence) }
  else s

/-- Reject a task that is still probing its endpoint. -/
def rejectProbingTask (taskId : Uuid) (s : Store) : Except Error Store :=
  match s.tasks.find? taskId with
  | none => .ok s
  | some task =>
      if task.state = .endpointProbing then do
        let target ← transitionTask task.state .rejected
        return setTaskState taskId target s
      else .ok s

/-- `_fail_endpoint_validation_run_after_job_failure`. -/
def failEndpointValidationRunAfterJobFailure (job : Job) (error : Json)
    (cleanupEvidence : Option Json.Object) (s : Store) : Except Error Store :=
  if job.jobType ≠ .endpointValidation then .ok s
  else
    match s.endpointRuns.rows.find? fun run => decide (run.jobId = job.jobId) with
    | none => .ok s
    | some run => rejectProbingTask job.taskId (failEndpointRun run error cleanupEvidence s)

/-- The campaign, its adjudication failed. -/
def EndpointValidationCampaign.failAdjudication (campaign : EndpointValidationCampaign) :
    EndpointValidationCampaign :=
  { campaign with state := .adjudicationFailed }

instance : KeepsKey EndpointValidationCampaign.failAdjudication := ⟨fun _ => rfl⟩

/-- `_fail_endpoint_adjudication_after_job_failure`. -/
def failEndpointAdjudicationAfterJobFailure (job : Job) (s : Store) : Store :=
  if job.jobType ≠ .endpointAdjudicate then s
  else
    match s.endpointCampaigns.rows.find? fun campaign =>
      decide (campaign.adjudicationJobId = some job.jobId) with
    | none => s
    | some campaign =>
        if campaign.state ∈ [.awaitingAdjudication, .adjudicating] then
          { s with
            endpointCampaigns := s.endpointCampaigns.update campaign.campaignId
              EndpointValidationCampaign.failAdjudication }
        else s

/-- The five routines in the order both callers run them. -/
def convergeAfterFailure (driver : Driver) (job : Job) (error : Json)
    (cleanupEvidence : Option Json.Object) (s : Store) : Except Error Store := do
  let s ← rejectFrameworkTaskAfterJobFailure job s
  let s ← failStage0RunAfterJobFailure driver job s
  let s ← rejectManualCandidateTaskAfterJobFailure job s
  let s ← failEndpointValidationRunAfterJobFailure job error cleanupEvidence s
  return failEndpointAdjudicationAfterJobFailure job s

/-! ## What the routines leave alone -/

/-- The two stores have the same workers, resources and jobs. -/
structure SameQueue (s s' : Store) : Prop where
  workers : s'.workers = s.workers
  resources : s'.resources = s.resources
  jobs : s'.jobs = s.jobs

namespace SameQueue

theorem refl (s : Store) : SameQueue s s := ⟨rfl, rfl, rfl⟩

theorem trans {s t u : Store} (first : SameQueue s t) (second : SameQueue t u) :
    SameQueue s u :=
  ⟨second.workers.trans first.workers, second.resources.trans first.resources,
    second.jobs.trans first.jobs⟩

end SameQueue

theorem rejectUnlessEnded_sameQueue {task : Task} {s s' : Store}
    (ok : rejectUnlessEnded task s = .ok s') : SameQueue s s' := by
  unfold rejectUnlessEnded at ok
  split at ok
  · cases ok
    exact .refl s
  · obtain ⟨target, -, rest⟩ := Except.bind_eq_ok.mp ok
    cases rest
    exact ⟨rfl, rfl, rfl⟩

theorem failBoundCandidate_sameQueue {job : Job} {target : CandidateState}
    {settled : List CandidateState} {s s' : Store}
    (ok : failBoundCandidate job target settled s = .ok s') : SameQueue s s' := by
  obtain ⟨candidate, -, ok⟩ := Except.bind_eq_ok.mp ok
  split at ok
  · cases ok
    exact .refl s
  · obtain ⟨target, -, rest⟩ := Except.bind_eq_ok.mp ok
    cases rest
    exact ⟨rfl, rfl, rfl⟩

theorem rejectFrameworkTaskAfterJobFailure_sameQueue {job : Job} {s s' : Store}
    (ok : rejectFrameworkTaskAfterJobFailure job s = .ok s') : SameQueue s s' := by
  obtain ⟨task, -, ok⟩ := Except.bind_eq_ok.mp ok
  split at ok
  · cases ok
    exact .refl s
  · obtain ⟨t, rejected, ok⟩ := Except.bind_eq_ok.mp ok
    have first := rejectUnlessEnded_sameQueue rejected
    split at ok
    · cases ok
      exact first
    · exact first.trans (failBoundCandidate_sameQueue ok)

theorem failStage0RunAfterJobFailure_sameQueue {driver : Driver} {job : Job} {s s' : Store}
    (ok : failStage0RunAfterJobFailure driver job s = .ok s') : SameQueue s s' := by
  unfold failStage0RunAfterJobFailure at ok
  split at ok
  · cases ok
    exact .refl s
  · split at ok
    · cases ok
      exact .refl s
    · split at ok
      · cases ok
      · cases ok
        exact ⟨rfl, rfl, rfl⟩

theorem rejectManualCandidateTaskAfterJobFailure_sameQueue {job : Job} {s s' : Store}
    (ok : rejectManualCandidateTaskAfterJobFailure job s = .ok s') : SameQueue s s' := by
  unfold rejectManualCandidateTaskAfterJobFailure at ok
  split at ok
  · cases ok
    exact .refl s
  · obtain ⟨task, -, ok⟩ := Except.bind_eq_ok.mp ok
    split at ok
    · cases ok
      exact .refl s
    · obtain ⟨t, rejected, ok⟩ := Except.bind_eq_ok.mp ok
      exact (rejectUnlessEnded_sameQueue rejected).trans (failBoundCandidate_sameQueue ok)

theorem failEndpointRun_sameQueue (run : EndpointValidationRun) (error : Json)
    (cleanupEvidence : Option Json.Object) (s : Store) :
    SameQueue s (failEndpointRun run error cleanupEvidence s) := by
  unfold failEndpointRun
  split
  · exact ⟨rfl, rfl, rfl⟩
  · exact .refl s

theorem rejectProbingTask_sameQueue {taskId : Uuid} {s s' : Store}
    (ok : rejectProbingTask taskId s = .ok s') : SameQueue s s' := by
  unfold rejectProbingTask at ok
  split at ok
  · cases ok
    exact .refl s
  · split at ok
    · obtain ⟨target, -, rest⟩ := Except.bind_eq_ok.mp ok
      cases rest
      exact ⟨rfl, rfl, rfl⟩
    · cases ok
      exact .refl s

theorem failEndpointValidationRunAfterJobFailure_sameQueue {job : Job} {error : Json}
    {cleanupEvidence : Option Json.Object} {s s' : Store}
    (ok : failEndpointValidationRunAfterJobFailure job error cleanupEvidence s = .ok s') :
    SameQueue s s' := by
  unfold failEndpointValidationRunAfterJobFailure at ok
  split at ok
  · cases ok
    exact .refl s
  · split at ok
    · cases ok
      exact .refl s
    · exact (failEndpointRun_sameQueue _ _ _ s).trans (rejectProbingTask_sameQueue ok)

theorem failEndpointAdjudicationAfterJobFailure_sameQueue (job : Job) (s : Store) :
    SameQueue s (failEndpointAdjudicationAfterJobFailure job s) := by
  unfold failEndpointAdjudicationAfterJobFailure
  split
  · exact .refl s
  · split
    · exact .refl s
    · split
      · exact ⟨rfl, rfl, rfl⟩
      · exact .refl s

/-- Convergence never touches the queue. -/
theorem convergeAfterFailure_sameQueue {driver : Driver} {job : Job} {error : Json}
    {cleanupEvidence : Option Json.Object} {s s' : Store}
    (ok : convergeAfterFailure driver job error cleanupEvidence s = .ok s') :
    SameQueue s s' := by
  obtain ⟨s₁, first, ok⟩ := Except.bind_eq_ok.mp ok
  obtain ⟨s₂, second, ok⟩ := Except.bind_eq_ok.mp ok
  obtain ⟨s₃, third, ok⟩ := Except.bind_eq_ok.mp ok
  obtain ⟨s₄, fourth, ok⟩ := Except.bind_eq_ok.mp ok
  cases ok
  exact (rejectFrameworkTaskAfterJobFailure_sameQueue first).trans <|
    (failStage0RunAfterJobFailure_sameQueue second).trans <|
    (rejectManualCandidateTaskAfterJobFailure_sameQueue third).trans <|
    (failEndpointValidationRunAfterJobFailure_sameQueue fourth).trans <|
    failEndpointAdjudicationAfterJobFailure_sameQueue job s₄

end HcuAutoOpt
