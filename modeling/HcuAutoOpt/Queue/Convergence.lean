import HcuAutoOpt.Queue.Attempts

/-!
# When convergence raises, and what it does

`Job.CanConverge` says of a failed job, before its convergence runs, that none of the
five routines will raise: its task can be rejected where the workflow wants that, its
candidate is named, exists and can be failed, and its Stage 0 run is named by something
the database takes for an identifier. `convergeAfterFailure_ok_iff` proves that this is
exact, and `convergeAfterFailure_effect` what a convergence that does not raise leaves
behind.

The condition is stated for a job of a batch, after some jobs that were converged
before it: an earlier failure of the same candidate counts as having failed it.
-/

set_option autoImplicit false

namespace HcuAutoOpt

open Foundation

/-! ## The condition -/

/-- A failed job can reject the task: it has ended, or may move to rejected. -/
def Task.Rejectable (task : Task) : Prop :=
  task.state ∈ [.rejected, .cancelled, .completed] ∨ .rejected ∈ taskTransitions task.state

instance (task : Task) : Decidable task.Rejectable := by
  unfold Task.Rejectable
  infer_instance

/-- A failed job of the type rejects a task of the workflow. -/
def RejectsTask (workflowType : WorkflowType) (jobType : JobType) : Prop :=
  workflowType = .frameworkSmoke ∨
    workflowType = .manualCandidate ∧ manualFailureTarget jobType ≠ none

/-- The state in which a failed job of a type leaves the candidate of a workflow. -/
def candidateFailure : WorkflowType → JobType → Option CandidateState
  | .frameworkSmoke, jobType => frameworkFailureTarget jobType
  | .manualCandidate, jobType => manualFailureTarget jobType
  | _, _ => none

/-- The states in which a failed job leaves its candidate alone. -/
def settledStates : WorkflowType → CandidateState → List CandidateState
  | .manualCandidate, target => [target, .buildFailed, .rejected, .accepted]
  | _, target => [target, .buildFailed, .rejected]

/-- The candidate identifier in a job's payload. -/
def Job.boundTo (job : Job) : Option Uuid :=
  (job.payload.value? "candidate_id").bind fun raw => Uuid.parse raw.text

/-- The failure of the job is a failure of the candidate. -/
def Job.FailsCandidate (s : Store) (job : Job) (candidateId : Uuid) : Prop :=
  job.boundTo = some candidateId ∧
    ∃ task, s.tasks.find? job.taskId = some task ∧
      candidateFailure task.workflowType job.jobType ≠ none

/-- The job has no attempt left. -/
def Job.Exhausted (job : Job) : Prop := job.maxAttempts ≤ job.attempts

instance (job : Job) : Decidable job.Exhausted := inferInstanceAs (Decidable (_ ≤ _))

/-- No routine raises for the failed job, when the exhausted jobs among `earlier` have
been converged before it. -/
structure Job.CanConverge (driver : Driver) (s : Store) (earlier : List Job) (job : Job) :
    Prop where
  stage0Run : job.jobType = .stage0Probe →
    ∀ raw, job.payload.value? "stage0_run_id" = some raw → driver.sqlUuid raw ≠ none
  task : ∀ task, s.tasks.find? job.taskId = some task →
    RejectsTask task.workflowType job.jobType → task.Rejectable
  candidate : ∀ task target, s.tasks.find? job.taskId = some task →
    candidateFailure task.workflowType job.jobType = some target →
    ∃ candidateId candidate, job.boundTo = some candidateId ∧
      s.candidates.find? candidateId = some candidate ∧
      (candidate.state ∈ settledStates task.workflowType target ∨
        target ∈ candidateTransitions candidate.state ∨
        candidate.state ≠ .accepted ∧
          ∃ other ∈ earlier, other.Exhausted ∧ other.FailsCandidate s candidateId)

/-! ## The parts of the routines -/

theorem rejectUnlessEnded_ok_iff {task : Task} {s : Store} :
    (∃ s', rejectUnlessEnded task s = .ok s') ↔ task.Rejectable := by
  unfold rejectUnlessEnded Task.Rejectable
  by_cases ended : task.state ∈ [.rejected, .cancelled, .completed]
  · simp only [ended, if_true, true_or, iff_true]
    exact ⟨s, rfl⟩
  · simp only [ended, if_false, false_or]
    constructor
    · rintro ⟨s', ok⟩
      obtain ⟨target, allowed, -⟩ := Except.bind_eq_ok.mp ok
      exact (transitionTask_eq_ok.mp allowed).1
    · intro allowed
      exact ⟨_, Except.bind_eq_ok.mpr
        ⟨.rejected, transitionTask_eq_ok.mpr ⟨allowed, rfl⟩, rfl⟩⟩

/-- Rejecting a task leaves it, or rejects it by an allowed move. -/
theorem rejectUnlessEnded_effect {task : Task} {s s' : Store}
    (ok : rejectUnlessEnded task s = .ok s') :
    s' = s ∨ .rejected ∈ taskTransitions task.state ∧
      s' = setTaskState task.taskId .rejected s := by
  unfold rejectUnlessEnded at ok
  split at ok
  · cases ok
    exact .inl rfl
  · obtain ⟨target, allowed, rest⟩ := Except.bind_eq_ok.mp ok
    obtain ⟨inGraph, rfl⟩ := transitionTask_eq_ok.mp allowed
    cases rest
    exact .inr ⟨inGraph, rfl⟩

/-- The bound candidate is the row of the identifier in the payload. -/
theorem boundCandidate_eq_ok {job : Job} {s : Store} {candidate : Candidate} :
    boundCandidate job s = .ok candidate ↔
      ∃ candidateId, job.boundTo = some candidateId ∧
        s.candidates.find? candidateId = some candidate := by
  unfold boundCandidate Job.boundTo
  cases named : job.payload.value? "candidate_id" with
  | none => simp
  | some raw =>
      cases parsed : Uuid.parse raw.text with
      | none => simp [uuidOfJson, parsed, bind, Except.bind]
      | some candidateId => simp [uuidOfJson, parsed, bind, Except.bind]

theorem failBoundCandidate_ok_iff {job : Job} {target : CandidateState}
    {settled : List CandidateState} {s : Store} :
    (∃ s', failBoundCandidate job target settled s = .ok s') ↔
      ∃ candidateId candidate, job.boundTo = some candidateId ∧
        s.candidates.find? candidateId = some candidate ∧
        (candidate.state ∈ settled ∨ target ∈ candidateTransitions candidate.state) := by
  constructor
  · rintro ⟨s', ok⟩
    obtain ⟨candidate, bound, ok⟩ := Except.bind_eq_ok.mp ok
    obtain ⟨candidateId, named, found⟩ := boundCandidate_eq_ok.mp bound
    refine ⟨candidateId, candidate, named, found, ?_⟩
    split at ok
    · rename_i inSettled
      exact .inl inSettled
    · obtain ⟨reached, allowed, -⟩ := Except.bind_eq_ok.mp ok
      exact .inr (transitionCandidate_eq_ok.mp allowed).1
  · rintro ⟨candidateId, candidate, named, found, movable⟩
    have bound := boundCandidate_eq_ok.mpr ⟨candidateId, named, found⟩
    by_cases inSettled : candidate.state ∈ settled
    · refine ⟨s, Except.bind_eq_ok.mpr ⟨candidate, bound, ?_⟩⟩
      rw [if_pos inSettled]
      rfl
    · have allowed := movable.resolve_left inSettled
      refine ⟨setCandidateState candidate.candidateId target s,
        Except.bind_eq_ok.mpr ⟨candidate, bound, ?_⟩⟩
      rw [if_neg inSettled]
      exact Except.bind_eq_ok.mpr ⟨target, transitionCandidate_eq_ok.mpr ⟨allowed, rfl⟩, rfl⟩

/-- Failing the bound candidate leaves a settled one, or moves it to the target. -/
theorem failBoundCandidate_effect {job : Job} {target : CandidateState}
    {settled : List CandidateState} {s s' : Store}
    (ok : failBoundCandidate job target settled s = .ok s') :
    ∃ candidateId candidate, job.boundTo = some candidateId ∧
      s.candidates.find? candidateId = some candidate ∧
      (candidate.state ∈ settled ∧ s' = s ∨
        candidate.state ∉ settled ∧ target ∈ candidateTransitions candidate.state ∧
          s' = setCandidateState candidateId target s) := by
  obtain ⟨candidate, bound, ok⟩ := Except.bind_eq_ok.mp ok
  obtain ⟨candidateId, named, found⟩ := boundCandidate_eq_ok.mp bound
  refine ⟨candidateId, candidate, named, found, ?_⟩
  split at ok
  · rename_i inSettled
    cases ok
    exact .inl ⟨inSettled, rfl⟩
  · rename_i outside
    obtain ⟨reached, allowed, rest⟩ := Except.bind_eq_ok.mp ok
    obtain ⟨allowed, rfl⟩ := transitionCandidate_eq_ok.mp allowed
    cases rest
    have sameId : candidate.candidateId = candidateId := Table.key_of_find? found
    exact .inr ⟨outside, allowed, by rw [sameId]⟩

/-! ## What a convergence leaves behind -/

/-- Each task keeps its state or is rejected by an allowed move; none appears or goes. -/
structure TasksRejected (s s' : Store) : Prop where
  moved : ∀ taskId task, s.tasks.find? taskId = some task →
    ∃ task', s'.tasks.find? taskId = some task' ∧ task'.workflowType = task.workflowType ∧
      (task'.state = task.state ∨
        .rejected ∈ taskTransitions task.state ∧ task'.state = .rejected)
  absent : ∀ taskId, s.tasks.find? taskId = none → s'.tasks.find? taskId = none

namespace TasksRejected

theorem of_same {s s' : Store} (tasks : s'.tasks = s.tasks) : TasksRejected s s' where
  moved _ task found := ⟨task, tasks ▸ found, rfl, .inl rfl⟩
  absent _ absent := tasks ▸ absent

theorem trans {s t u : Store} (first : TasksRejected s t) (second : TasksRejected t u) :
    TasksRejected s u where
  moved taskId task found := by
    obtain ⟨middle, foundMiddle, workflow, state⟩ := first.moved taskId task found
    obtain ⟨last, foundLast, workflow', state'⟩ := second.moved taskId middle foundMiddle
    refine ⟨last, foundLast, workflow'.trans workflow, ?_⟩
    rcases state with same | ⟨allowed, rejected⟩
    · rw [← same]
      exact state'
    · rcases state' with same' | ⟨-, rejected'⟩
      · exact .inr ⟨allowed, same'.trans rejected⟩
      · exact .inr ⟨allowed, rejected'⟩
  absent taskId absent := second.absent taskId (first.absent taskId absent)

theorem of_reject {s s' : Store} {task : Task} (found : s.tasks.find? task.taskId = some task)
    (allowed : .rejected ∈ taskTransitions task.state)
    (tasks : s'.tasks = s.tasks.update task.taskId (Task.inState .rejected)) :
    TasksRejected s s' where
  moved taskId other foundOther := by
    rw [tasks, Table.find?_update]
    by_cases same : taskId = task.taskId
    · subst same
      rw [found] at foundOther
      cases foundOther
      exact ⟨task.inState .rejected, by rw [if_pos rfl, found]; rfl, rfl, .inr ⟨allowed, rfl⟩⟩
    · exact ⟨other, by rw [if_neg same]; exact foundOther, rfl, .inl rfl⟩
  absent taskId absent := by
    rw [tasks, Table.find?_update, absent]
    split <;> rfl

/-- Whether a task can be rejected is not changed by rejecting tasks. -/
theorem rejectable_iff {s s' : Store} (rejected : TasksRejected s s') {taskId : Uuid}
    {task task' : Task} (found : s.tasks.find? taskId = some task)
    (found' : s'.tasks.find? taskId = some task') : task'.Rejectable ↔ task.Rejectable := by
  obtain ⟨moved, foundMoved, -, state⟩ := rejected.moved taskId task found
  rw [foundMoved] at found'
  cases found'
  unfold Task.Rejectable
  rcases state with same | ⟨allowed, isRejected⟩
  · rw [same]
  · exact ⟨fun _ => .inr allowed, fun _ => .inl (by simp [isRejected])⟩

end TasksRejected

/-- The states a failed candidate is found in after the convergence. -/
def failedStates : List CandidateState := [.buildFailed, .rejected]

/-- What a convergence does to the candidates: it fails the one the job is bound to,
unless that is settled, and leaves the others. -/
structure CandidatesFailed (job : Job) (s s' : Store) : Prop where
  moved : ∀ candidateId candidate, s.candidates.find? candidateId = some candidate →
    ∃ candidate', s'.candidates.find? candidateId = some candidate' ∧
      (candidate' = candidate ∨
        candidate.state ≠ .accepted ∧ candidate'.state ∈ failedStates)
  absent : ∀ candidateId, s.candidates.find? candidateId = none →
    s'.candidates.find? candidateId = none
  others : ∀ candidateId, ¬ job.FailsCandidate s candidateId →
    s'.candidates.find? candidateId = s.candidates.find? candidateId
  failed : ∀ candidateId candidate', job.FailsCandidate s candidateId →
    s'.candidates.find? candidateId = some candidate' →
    candidate'.state ∈ failedStates ∨ candidate'.state = .accepted

theorem candidateFailure_mem_failedStates {workflowType : WorkflowType} {jobType : JobType}
    {target : CandidateState} (fails : candidateFailure workflowType jobType = some target) :
    target ∈ failedStates := by
  cases workflowType <;> cases jobType <;>
    simp [candidateFailure, frameworkFailureTarget, manualFailureTarget] at fails <;>
    simp [← fails, failedStates]

/-- A candidate that is left alone has failed, or was accepted. -/
theorem settledStates_failed {workflowType : WorkflowType} {target state : CandidateState}
    (isFailed : target ∈ failedStates) (settled : state ∈ settledStates workflowType target) :
    state ∈ failedStates ∨ state = .accepted := by
  have cases : state = target ∨ state ∈ failedStates ∨ state = .accepted := by
    unfold settledStates at settled
    split at settled <;> simp [failedStates] at settled ⊢ <;> tauto
  rcases cases with rfl | failed | accepted
  · exact .inl isFailed
  · exact .inl failed
  · exact .inr accepted

theorem failedStates_settled {workflowType : WorkflowType} {target state : CandidateState}
    (isFailed : state ∈ failedStates) : state ∈ settledStates workflowType target := by
  simp only [failedStates, List.mem_cons, List.not_mem_nil, or_false] at isFailed
  unfold settledStates
  rcases isFailed with rfl | rfl <;> split <;> simp

/-! ## Rejecting a task and its candidate -/

/-- What the framework routine and the manual routine do to a task of their workflow. -/
def rejectWorkflow (task : Task) (job : Job) (s : Store) : Except Error Store := do
  let s ← rejectUnlessEnded task s
  match candidateFailure task.workflowType job.jobType with
  | none => return s
  | some target => failBoundCandidate job target (settledStates task.workflowType target) s

theorem rejectFrameworkTaskAfterJobFailure_eq {job : Job} {s : Store} {task : Task}
    (found : s.tasks.find? job.taskId = some task) :
    rejectFrameworkTaskAfterJobFailure job s =
      if task.workflowType = .frameworkSmoke then rejectWorkflow task job s else .ok s := by
  unfold rejectFrameworkTaskAfterJobFailure rejectWorkflow
  by_cases framework : task.workflowType = .frameworkSmoke
  · rw [if_pos framework, found]
    simp only [requireRow, bind, Except.bind]
    rw [if_neg (not_not.mpr framework), framework]
    rfl
  · simp [found, requireRow, framework, bind, Except.bind, pure, Except.pure]

theorem rejectManualCandidateTaskAfterJobFailure_eq {job : Job} {s : Store} {task : Task}
    (found : s.tasks.find? job.taskId = some task) :
    rejectManualCandidateTaskAfterJobFailure job s =
      if task.workflowType = .manualCandidate ∧ manualFailureTarget job.jobType ≠ none then
        rejectWorkflow task job s
      else .ok s := by
  unfold rejectManualCandidateTaskAfterJobFailure rejectWorkflow
  cases target : manualFailureTarget job.jobType with
  | none => simp
  | some target' =>
      by_cases manual : task.workflowType = .manualCandidate
      · simp [found, requireRow, manual, target, candidateFailure, settledStates, bind,
          Except.bind]
      · simp [found, requireRow, manual, bind, Except.bind, pure, Except.pure]

/-- The two tables a rejection writes. -/
theorem rejectUnlessEnded_candidates {task : Task} {s s' : Store}
    (ok : rejectUnlessEnded task s = .ok s') : s'.candidates = s.candidates := by
  rcases rejectUnlessEnded_effect ok with rfl | ⟨-, rfl⟩
  · rfl
  · rfl

theorem rejectWorkflow_ok_iff {task : Task} {job : Job} {s : Store} :
    (∃ s', rejectWorkflow task job s = .ok s') ↔
      task.Rejectable ∧ ∀ target, candidateFailure task.workflowType job.jobType = some target →
        ∃ candidateId candidate, job.boundTo = some candidateId ∧
          s.candidates.find? candidateId = some candidate ∧
          (candidate.state ∈ settledStates task.workflowType target ∨
            target ∈ candidateTransitions candidate.state) := by
  constructor
  · rintro ⟨s', ok⟩
    obtain ⟨t, rejected, ok⟩ := Except.bind_eq_ok.mp ok
    refine ⟨rejectUnlessEnded_ok_iff.mp ⟨t, rejected⟩, ?_⟩
    intro target fails
    rw [fails] at ok
    rw [← rejectUnlessEnded_candidates rejected]
    exact failBoundCandidate_ok_iff.mp ⟨s', ok⟩
  · rintro ⟨rejectable, bound⟩
    obtain ⟨t, rejected⟩ := rejectUnlessEnded_ok_iff (s := s).mpr rejectable
    cases fails : candidateFailure task.workflowType job.jobType with
    | none =>
        refine ⟨t, Except.bind_eq_ok.mpr ⟨t, rejected, ?_⟩⟩
        rw [fails]
        rfl
    | some target =>
        have movable := bound target fails
        rw [← rejectUnlessEnded_candidates rejected] at movable
        obtain ⟨s', failed⟩ := failBoundCandidate_ok_iff.mpr movable
        refine ⟨s', Except.bind_eq_ok.mpr ⟨t, rejected, ?_⟩⟩
        rw [fails]
        exact failed

theorem rejectWorkflow_tasks {task : Task} {job : Job} {s s' : Store}
    (found : s.tasks.find? task.taskId = some task)
    (ok : rejectWorkflow task job s = .ok s') : TasksRejected s s' := by
  obtain ⟨t, rejected, ok⟩ := Except.bind_eq_ok.mp ok
  have first : TasksRejected s t := by
    rcases rejectUnlessEnded_effect rejected with rfl | ⟨allowed, rfl⟩
    · exact .of_same rfl
    · exact .of_reject found allowed rfl
  split at ok
  · cases ok
    exact first
  · obtain ⟨candidateId, candidate, -, -, ⟨-, rfl⟩ | ⟨-, -, rfl⟩⟩ := failBoundCandidate_effect ok
    · exact first
    · exact first.trans (.of_same rfl)

theorem rejectWorkflow_candidates {task : Task} {job : Job} {s s' : Store}
    (found : s.tasks.find? job.taskId = some task)
    (ok : rejectWorkflow task job s = .ok s') : CandidatesFailed job s s' := by
  obtain ⟨t, rejected, ok⟩ := Except.bind_eq_ok.mp ok
  have kept := rejectUnlessEnded_candidates rejected
  split at ok
  · rename_i nothing
    cases ok
    refine ⟨?_, ?_, ?_, ?_⟩
    · intro candidateId candidate inTable
      exact ⟨candidate, kept ▸ inTable, .inl rfl⟩
    · intro candidateId absent
      exact kept ▸ absent
    · intro candidateId _
      rw [kept]
    · rintro candidateId candidate' ⟨-, other, foundOther, fails⟩
      rw [found] at foundOther
      cases foundOther
      exact absurd nothing fails
  · rename_i target fails
    have isFailed := candidateFailure_mem_failedStates fails
    obtain ⟨boundId, bound, named, foundBound, effect⟩ := failBoundCandidate_effect ok
    rw [kept] at foundBound
    have failsBound : job.FailsCandidate s boundId :=
      ⟨named, task, found, by rw [fails]; simp⟩
    have onlyBound : ∀ candidateId, job.FailsCandidate s candidateId → candidateId = boundId := by
      rintro candidateId ⟨namedOther, -⟩
      exact Option.some.inj (namedOther.symm.trans named)
    rcases effect with ⟨settled, rfl⟩ | ⟨outside, allowed, rfl⟩
    · refine ⟨?_, ?_, ?_, ?_⟩
      · intro candidateId candidate inTable
        exact ⟨candidate, kept ▸ inTable, .inl rfl⟩
      · intro candidateId absent
        exact kept ▸ absent
      · intro candidateId _
        rw [kept]
      · intro candidateId candidate' failsOther foundOther
        rw [onlyBound candidateId failsOther, kept, foundBound] at foundOther
        cases foundOther
        exact settledStates_failed isFailed settled
    · have lookup : ∀ candidateId, (setCandidateState boundId target t).candidates.find?
          candidateId = if candidateId = boundId then
            (s.candidates.find? candidateId).map (Candidate.inState target)
          else s.candidates.find? candidateId := by
        intro candidateId
        rw [setCandidateState, Table.find?_update, kept]
      refine ⟨?_, ?_, ?_, ?_⟩
      · intro candidateId candidate inTable
        rw [lookup]
        by_cases same : candidateId = boundId
        · subst same
          rw [foundBound] at inTable
          cases inTable
          refine ⟨bound.inState target, by rw [if_pos rfl, foundBound]; rfl, .inr ⟨?_, isFailed⟩⟩
          intro accepted
          simp [accepted, candidateTransitions] at allowed
        · exact ⟨candidate, by rw [if_neg same]; exact inTable, .inl rfl⟩
      · intro candidateId absent
        rw [lookup, absent]
        split <;> rfl
      · intro candidateId spared
        rw [lookup, if_neg]
        rintro rfl
        exact spared failsBound
      · intro candidateId candidate' failsOther foundOther
        rw [onlyBound candidateId failsOther, lookup, if_pos rfl, foundBound] at foundOther
        cases foundOther
        exact .inl isFailed

/-! ## The whole convergence -/

/-- The payload names no Stage 0 run, or names it in a form the database takes. -/
theorem failStage0RunAfterJobFailure_ok_iff {driver : Driver} {job : Job} {s : Store} :
    (∃ s', failStage0RunAfterJobFailure driver job s = .ok s') ↔
      (job.jobType = .stage0Probe →
        ∀ raw, job.payload.value? "stage0_run_id" = some raw → driver.sqlUuid raw ≠ none) := by
  unfold failStage0RunAfterJobFailure
  by_cases probe : job.jobType = .stage0Probe
  · cases named : job.payload.value? "stage0_run_id" with
    | none => simp [probe]
    | some raw => cases adapted : driver.sqlUuid raw <;> simp [probe, adapted]
  · simp [probe]

theorem failStage0RunAfterJobFailure_keeps {driver : Driver} {job : Job} {s s' : Store}
    (ok : failStage0RunAfterJobFailure driver job s = .ok s') :
    s'.tasks = s.tasks ∧ s'.candidates = s.candidates := by
  unfold failStage0RunAfterJobFailure at ok
  split at ok
  · cases ok
    exact ⟨rfl, rfl⟩
  · split at ok
    · cases ok
      exact ⟨rfl, rfl⟩
    · split at ok
      · cases ok
      · cases ok
        exact ⟨rfl, rfl⟩

theorem failEndpointRun_keeps (run : EndpointValidationRun) (error : Json)
    (cleanupEvidence : Option Json.Object) (s : Store) :
    (failEndpointRun run error cleanupEvidence s).tasks = s.tasks ∧
      (failEndpointRun run error cleanupEvidence s).candidates = s.candidates := by
  unfold failEndpointRun
  split
  · exact ⟨rfl, rfl⟩
  · exact ⟨rfl, rfl⟩

/-- A probing task may always be rejected, so the endpoint routine never raises. -/
theorem failEndpointValidationRunAfterJobFailure_total (job : Job) (error : Json)
    (cleanupEvidence : Option Json.Object) (s : Store) :
    ∃ s', failEndpointValidationRunAfterJobFailure job error cleanupEvidence s = .ok s' ∧
      TasksRejected s s' ∧ s'.candidates = s.candidates := by
  unfold failEndpointValidationRunAfterJobFailure
  split
  · exact ⟨s, rfl, .of_same rfl, rfl⟩
  · split
    · exact ⟨s, rfl, .of_same rfl, rfl⟩
    · rename_i run _
      obtain ⟨tasks, candidates⟩ := failEndpointRun_keeps run error cleanupEvidence s
      unfold rejectProbingTask
      split
      · exact ⟨_, rfl, .of_same tasks, candidates⟩
      · rename_i task found
        split
        · rename_i probing
          have allowed : .rejected ∈ taskTransitions task.state := by
            rw [probing]
            decide
          have sameId : task.taskId = job.taskId := Table.key_of_find? found
          refine ⟨_, Except.bind_eq_ok.mpr ⟨.rejected,
            transitionTask_eq_ok.mpr ⟨allowed, rfl⟩, rfl⟩, ?_, candidates⟩
          have known : s.tasks.find? task.taskId = some task := by
            rw [sameId, ← tasks]
            exact found
          refine .of_reject known allowed ?_
          rw [sameId, ← tasks]
          rfl
        · exact ⟨_, rfl, .of_same tasks, candidates⟩

theorem failEndpointAdjudicationAfterJobFailure_keeps (job : Job) (s : Store) :
    (failEndpointAdjudicationAfterJobFailure job s).tasks = s.tasks ∧
      (failEndpointAdjudicationAfterJobFailure job s).candidates = s.candidates := by
  unfold failEndpointAdjudicationAfterJobFailure
  split
  · exact ⟨rfl, rfl⟩
  · split
    · exact ⟨rfl, rfl⟩
    · split
      · exact ⟨rfl, rfl⟩
      · exact ⟨rfl, rfl⟩

namespace CandidatesFailed

variable {job : Job} {s t u : Store}

/-- Nothing is failed where the job fails no candidate. -/
theorem of_same (candidates : t.candidates = s.candidates)
    (none : ∀ candidateId, ¬ job.FailsCandidate s candidateId) : CandidatesFailed job s t where
  moved _ candidate found := ⟨candidate, candidates ▸ found, .inl rfl⟩
  absent _ absent := candidates ▸ absent
  others _ _ := by rw [candidates]
  failed candidateId _ fails := absurd fails (none candidateId)

theorem congr_right (failed : CandidatesFailed job s t) (same : u.candidates = t.candidates) :
    CandidatesFailed job s u where
  moved := by
    rw [same]
    exact failed.moved
  absent := by
    rw [same]
    exact failed.absent
  others := by
    rw [same]
    exact failed.others
  failed := by
    rw [same]
    exact failed.failed

theorem congr_left (failed : CandidatesFailed job t u) (tasks : t.tasks = s.tasks)
    (candidates : t.candidates = s.candidates) : CandidatesFailed job s u := by
  have fails : ∀ candidateId, job.FailsCandidate t candidateId ↔
      job.FailsCandidate s candidateId := by
    intro candidateId
    unfold Job.FailsCandidate
    rw [tasks]
  refine ⟨?_, ?_, ?_, ?_⟩
  · rw [← candidates]
    exact failed.moved
  · rw [← candidates]
    exact failed.absent
  · intro candidateId spared
    rw [← candidates]
    exact failed.others candidateId fun failsOther => spared ((fails candidateId).mp failsOther)
  · intro candidateId candidate' failsOther
    exact failed.failed candidateId candidate' ((fails candidateId).mpr failsOther)

end CandidatesFailed

/-- The framework routine is done with, and the task is still there. -/
theorem rejectFrameworkTaskAfterJobFailure_task {job : Job} {s s' : Store} {task : Task}
    (found : s.tasks.find? job.taskId = some task)
    (ok : rejectFrameworkTaskAfterJobFailure job s = .ok s') :
    TasksRejected s s' ∧ (task.workflowType ≠ .frameworkSmoke → s' = s) := by
  rw [rejectFrameworkTaskAfterJobFailure_eq found] at ok
  have sameId : task.taskId = job.taskId := Table.key_of_find? found
  by_cases framework : task.workflowType = .frameworkSmoke
  · rw [if_pos framework] at ok
    exact ⟨rejectWorkflow_tasks (sameId ▸ found) ok, fun other => absurd framework other⟩
  · rw [if_neg framework] at ok
    cases ok
    exact ⟨.of_same rfl, fun _ => rfl⟩

/-- **Convergence raises exactly where the condition fails.** -/
theorem convergeAfterFailure_ok_iff {driver : Driver} {job : Job} {error : Json}
    {cleanupEvidence : Option Json.Object} {s : Store} {task : Task}
    (found : s.tasks.find? job.taskId = some task) :
    (∃ s', convergeAfterFailure driver job error cleanupEvidence s = .ok s') ↔
      job.CanConverge driver s [] := by
  have admits : job.CanConverge driver s [] ↔
      (job.jobType = .stage0Probe →
        ∀ raw, job.payload.value? "stage0_run_id" = some raw → driver.sqlUuid raw ≠ none) ∧
      (RejectsTask task.workflowType job.jobType →
        ∃ t, rejectWorkflow task job s = .ok t) := by
    constructor
    · intro can
      refine ⟨can.stage0Run, fun rejects => rejectWorkflow_ok_iff.mpr
        ⟨can.task task found rejects, fun target fails => ?_⟩⟩
      obtain ⟨candidateId, candidate, named, inTable, settled | allowed | ⟨-, other, none, -⟩⟩ :=
        can.candidate task target found fails
      · exact ⟨candidateId, candidate, named, inTable, .inl settled⟩
      · exact ⟨candidateId, candidate, named, inTable, .inr allowed⟩
      · cases none
    · rintro ⟨stage0, rejection⟩
      refine ⟨stage0, fun other foundOther rejects => ?_, fun other target foundOther fails => ?_⟩
      · rw [found] at foundOther
        cases foundOther
        exact (rejectWorkflow_ok_iff.mp (rejection rejects)).1
      · rw [found] at foundOther
        cases foundOther
        have rejects : RejectsTask task.workflowType job.jobType := by
          unfold candidateFailure at fails
          unfold RejectsTask
          split at fails <;> simp_all
        obtain ⟨candidateId, candidate, named, inTable, movable⟩ :=
          (rejectWorkflow_ok_iff.mp (rejection rejects)).2 target fails
        refine ⟨candidateId, candidate, named, inTable, ?_⟩
        rcases movable with settled | allowed
        · exact .inl settled
        · exact .inr (.inl allowed)
  rw [admits]
  constructor
  · rintro ⟨s', ok⟩
    obtain ⟨s₁, first, ok⟩ := Except.bind_eq_ok.mp ok
    obtain ⟨s₂, second, ok⟩ := Except.bind_eq_ok.mp ok
    obtain ⟨s₃, third, -⟩ := Except.bind_eq_ok.mp ok
    refine ⟨failStage0RunAfterJobFailure_ok_iff.mp ⟨s₂, second⟩, ?_⟩
    rintro (framework | ⟨manual, acts⟩)
    · rw [rejectFrameworkTaskAfterJobFailure_eq found, if_pos framework] at first
      exact ⟨s₁, first⟩
    · have same := (rejectFrameworkTaskAfterJobFailure_task found first).2 (by simp [manual])
      subst same
      obtain ⟨tasks, candidates⟩ := failStage0RunAfterJobFailure_keeps second
      rw [← tasks] at found
      rw [rejectManualCandidateTaskAfterJobFailure_eq found, if_pos ⟨manual, acts⟩] at third
      have admitted := rejectWorkflow_ok_iff.mp ⟨s₃, third⟩
      rw [candidates] at admitted
      exact rejectWorkflow_ok_iff.mpr admitted
  · rintro ⟨stage0, rejection⟩
    obtain ⟨s₁, first⟩ : ∃ s₁, rejectFrameworkTaskAfterJobFailure job s = .ok s₁ := by
      rw [rejectFrameworkTaskAfterJobFailure_eq found]
      by_cases framework : task.workflowType = .frameworkSmoke
      · rw [if_pos framework]
        exact rejection (.inl framework)
      · rw [if_neg framework]
        exact ⟨s, rfl⟩
    obtain ⟨rejected, untouched⟩ := rejectFrameworkTaskAfterJobFailure_task found first
    obtain ⟨s₂, second⟩ := (failStage0RunAfterJobFailure_ok_iff (s := s₁)).mpr stage0
    obtain ⟨tasks, candidates⟩ := failStage0RunAfterJobFailure_keeps second
    obtain ⟨s₃, third⟩ : ∃ s₃, rejectManualCandidateTaskAfterJobFailure job s₂ = .ok s₃ := by
      obtain ⟨moved, foundMoved, workflow, -⟩ := rejected.moved _ task found
      rw [← tasks] at foundMoved
      rw [rejectManualCandidateTaskAfterJobFailure_eq foundMoved]
      by_cases acts : moved.workflowType = .manualCandidate ∧
          manualFailureTarget job.jobType ≠ none
      · rw [if_pos acts]
        have manual := workflow.symm.trans acts.1
        have same := untouched (by simp [manual])
        subst same
        rw [tasks, found] at foundMoved
        cases foundMoved
        have admitted := rejectWorkflow_ok_iff.mp (rejection (.inr ⟨manual, acts.2⟩))
        rw [← candidates] at admitted
        exact rejectWorkflow_ok_iff.mpr admitted
      · rw [if_neg acts]
        exact ⟨s₂, rfl⟩
    obtain ⟨s₄, fourth, -⟩ :=
      failEndpointValidationRunAfterJobFailure_total job error cleanupEvidence s₃
    exact ⟨_, Except.bind_eq_ok.mpr ⟨s₁, first, Except.bind_eq_ok.mpr ⟨s₂, second,
      Except.bind_eq_ok.mpr ⟨s₃, third, Except.bind_eq_ok.mpr ⟨s₄, fourth, rfl⟩⟩⟩⟩⟩

/-- **A convergence rejects at most its task and fails at most its candidate.** -/
theorem convergeAfterFailure_effect {driver : Driver} {job : Job} {error : Json}
    {cleanupEvidence : Option Json.Object} {s s' : Store} {task : Task}
    (found : s.tasks.find? job.taskId = some task)
    (ok : convergeAfterFailure driver job error cleanupEvidence s = .ok s') :
    TasksRejected s s' ∧ CandidatesFailed job s s' := by
  obtain ⟨s₁, first, ok⟩ := Except.bind_eq_ok.mp ok
  obtain ⟨s₂, second, ok⟩ := Except.bind_eq_ok.mp ok
  obtain ⟨s₃, third, ok⟩ := Except.bind_eq_ok.mp ok
  obtain ⟨s₄, fourth, ok⟩ := Except.bind_eq_ok.mp ok
  cases ok
  obtain ⟨rejected, untouched⟩ := rejectFrameworkTaskAfterJobFailure_task found first
  obtain ⟨tasks, candidates⟩ := failStage0RunAfterJobFailure_keeps second
  obtain ⟨s₅, fifth, probing, candidates'⟩ :=
    failEndpointValidationRunAfterJobFailure_total job error cleanupEvidence s₃
  rw [fourth] at fifth
  cases fifth
  obtain ⟨tasks'', candidates''⟩ := failEndpointAdjudicationAfterJobFailure_keeps job s₄
  obtain ⟨moved, foundMoved, workflow, -⟩ := rejected.moved _ task found
  rw [← tasks] at foundMoved
  have movedId : moved.taskId = job.taskId := Table.key_of_find? foundMoved
  rw [rejectManualCandidateTaskAfterJobFailure_eq foundMoved] at third
  have manualTasks : TasksRejected s₂ s₃ := by
    split at third
    · exact rejectWorkflow_tasks (movedId ▸ foundMoved) third
    · cases third
      exact .of_same rfl
  have failed : CandidatesFailed job s s₃ := by
    by_cases framework : task.workflowType = .frameworkSmoke
    · rw [rejectFrameworkTaskAfterJobFailure_eq found, if_pos framework] at first
      rw [if_neg (by simp [workflow, framework])] at third
      cases third
      exact (rejectWorkflow_candidates found first).congr_right candidates
    · have same := untouched framework
      subst same
      by_cases acts : moved.workflowType = .manualCandidate ∧
          manualFailureTarget job.jobType ≠ none
      · rw [if_pos acts] at third
        exact (rejectWorkflow_candidates foundMoved third).congr_left tasks candidates
      · rw [if_neg acts] at third
        cases third
        refine .of_same candidates ?_
        rintro candidateId ⟨-, other, foundOther, fails⟩
        rw [found] at foundOther
        cases foundOther
        rw [workflow] at acts
        unfold candidateFailure at fails
        split at fails <;> simp_all
  exact ⟨rejected.trans ((TasksRejected.of_same tasks).trans
      (manualTasks.trans (probing.trans (.of_same tasks'')))),
    (failed.congr_right candidates').congr_right candidates''⟩

end HcuAutoOpt
