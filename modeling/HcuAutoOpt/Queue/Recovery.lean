import HcuAutoOpt.Queue.Convergence

/-!
# When recovery succeeds

A recovery handles a batch of jobs in one transaction, so the convergence of one
exhausted job can roll back the recovery of all the others. `recovery_succeeds_iff`
proves for every state a run of the queue reaches that a recovery does everything it is
for exactly when each exhausted job of the batch can converge at its turn.
`recovery_wedged` is a run after which it cannot: one poisonous job keeps an innocent
one, its lease and every later stale job as they are.

Converging a job changes what the next one finds. `BatchProgress` says how far: tasks
only move to rejected, and a candidate that no earlier job of the batch failed is
untouched. That is enough to read the condition off the state before the batch.
-/

set_option autoImplicit false

namespace HcuAutoOpt

open Foundation

/-! ## Tasks are known and kept -/

/-- Every job belongs to a task of the store. -/
def Store.TasksKnown (s : Store) : Prop := ∀ job ∈ s.jobs, s.tasks.find? job.taskId ≠ none

/-- No task disappears. -/
def TasksKept (s s' : Store) : Prop :=
  ∀ taskId, s.tasks.find? taskId ≠ none → s'.tasks.find? taskId ≠ none

theorem TasksKept.of_same {s s' : Store} (tasks : s'.tasks = s.tasks) : TasksKept s s' := by
  intro taskId known
  rw [tasks]
  exact known

theorem TasksKept.of_setState {s s' : Store} {taskId : Uuid} {state : TaskState}
    (tasks : s'.tasks = s.tasks.update taskId (Task.inState state)) : TasksKept s s' := by
  intro other known
  rw [tasks, Table.find?_update]
  split
  · simpa using known
  · exact known

theorem TasksRejected.kept {s s' : Store} (rejected : TasksRejected s s') : TasksKept s s' := by
  intro taskId known
  obtain ⟨task, found⟩ := Option.ne_none_iff_exists'.mp known
  obtain ⟨task', found', -⟩ := rejected.moved taskId task found
  simp [found']

theorem convergeUnlessRetried_tasks {driver : Driver} {retry : Bool} {job : Job}
    {error : Json} {cleanupEvidence : Option Json.Object} {s t s' : Store}
    (known : s.tasks.find? job.taskId ≠ none)
    (ok : convergeUnlessRetried driver retry job error cleanupEvidence t = .ok s')
    (tasks : t.tasks = s.tasks) : TasksRejected s s' := by
  obtain ⟨task, found⟩ := Option.ne_none_iff_exists'.mp known
  rw [← tasks] at found
  refine (TasksRejected.of_same tasks).trans ?_
  unfold convergeUnlessRetried at ok
  split at ok
  · cases ok
    exact .of_same rfl
  · exact (convergeAfterFailure_effect found ok).1

theorem recoverJob_tasks {driver : Driver} {now : Timestamp} {job : Job} {s s' : Store}
    (known : s.tasks.find? job.taskId ≠ none) (ok : recoverJob driver now s job = .ok s') :
    TasksRejected s s' :=
  convergeUnlessRetried_tasks known ok rfl

theorem recoverAll_tasks {driver : Driver} {now : Timestamp} {batch : List Job} {s s' : Store}
    (known : ∀ job ∈ batch, s.tasks.find? job.taskId ≠ none)
    (ok : batch.foldlM (recoverJob driver now) s = .ok s') : TasksRejected s s' := by
  induction batch generalizing s with
  | nil =>
      cases ok
      exact .of_same rfl
  | cons job batch ih =>
      rw [List.foldlM_cons] at ok
      obtain ⟨t, recovered, ok⟩ := Except.bind_eq_ok.mp ok
      have first := recoverJob_tasks (known job List.mem_cons_self) recovered
      exact first.trans (ih (fun other inside =>
        first.kept _ (known other (List.mem_cons_of_mem _ inside))) ok)

/-- No accepted call removes a task. -/
theorem tasksKept_of_run {driver : Driver} {call : QueueCall} {s s' : Store}
    {reply : Option Job} (tasksKnown : s.TasksKnown)
    (ok : call.run driver s = .ok (s', reply)) : TasksKept s s' := by
  cases call with
  | registerWorker request =>
      obtain ⟨row, ok, -⟩ := unobserved_eq_ok ok
      exact .of_same (registerWorker_effect ok).1
  | enqueueJob now jobId request =>
      obtain ⟨row, ok, -⟩ := observed_eq_ok ok
      rcases enqueueJob_effect ok with ⟨rfl, -, -⟩ | ⟨-, -, -, rfl, rfl⟩
      · exact .of_same rfl
      · exact .of_same rfl
  | claimJob now claimToken leaseId locks workerId =>
      rcases claimJob_effect ok with ⟨-, rfl⟩ | ⟨worker, job, lease, -, -, -, -, -, -, -, tasks⟩
      · exact .of_same rfl
      · exact .of_same tasks
  | heartbeatJob now workerId jobId claimToken fencingToken =>
      obtain ⟨u, ok, -⟩ := unobserved_eq_ok ok
      obtain ⟨job, -, -, rfl⟩ := heartbeatJob_effect ok
      exact .of_same rfl
  | completeJob now jobId claimToken fencingToken result =>
      obtain ⟨row, ok, -⟩ := observed_eq_ok ok
      rcases completeJob_effect ok with ⟨rfl, -⟩ | ⟨job, -, -, rfl⟩
      · exact .of_same rfl
      · exact .of_same rfl
  | failJob now jobId claimToken fencingToken error retryable cleanupEvidence =>
      obtain ⟨row, ok, -⟩ := observed_eq_ok ok
      obtain ⟨job, retry, owner, -, -, converged⟩ := failJob_effect ok
      have member := Table.mem_of_find? (assertJobOwner_effect owner).1
      exact (convergeUnlessRetried_tasks (tasksKnown job member) converged rfl).kept
  | recoverStaleJobs now staleAfterSeconds locks =>
      obtain ⟨recovered, ok, -⟩ := unobserved_eq_ok ok
      refine (recoverAll_tasks ?_ (recoverStaleJobs_effect ok).1).kept
      intro job inside
      exact tasksKnown job (Store.mem_staleJobs.mp inside).1
  | cancelJob now jobId reason =>
      obtain ⟨row, ok, -⟩ := observed_eq_ok ok
      obtain ⟨job, -, ⟨-, rfl, -⟩ | ⟨-, -, ended⟩⟩ := cancelJob_effect ok
      · exact .of_same rfl
      · refine .of_same (ended ▸ (failEndpointAdjudicationAfterJobFailure_keeps job _).1.trans ?_)
        split <;> rfl
  | cancelFrameworkTask now taskId reason =>
      obtain ⟨u, ok, -⟩ := unobserved_eq_ok ok
      rcases cancelFrameworkTask_effect ok with ⟨rfl, -⟩ | ⟨-, -, tasks⟩
      · exact .of_same rfl
      · exact .of_setState tasks
  | cancelScriptedSearchRound now roundId reason =>
      obtain ⟨row, ok, -⟩ := unobserved_eq_ok ok
      rcases cancelScriptedSearchRound_effect ok with rfl | ⟨taskId, -, -, tasks⟩
      · exact .of_same rfl
      · exact .of_setState tasks
  | reportResourceCleanup resourceId fencingToken cleanupEvidence =>
      obtain ⟨row, ok, -⟩ := unobserved_eq_ok ok
      obtain ⟨resource, -, -, -, rfl⟩ := reportResourceCleanup_effect ok
      exact .of_same rfl

theorem tasksKnown_of_step {driver : Driver} {s s' : Store} {event : QueueEvent}
    (tasksKnown : s.TasksKnown) (step : QueueStep driver s event s') : s'.TasksKnown := by
  have moves := jobsMove_of_step step
  have kept : TasksKept s s' := by
    rcases step.cases_on_reply with ⟨call, e, -, rfl⟩ | ⟨call, reply, -, ok⟩ | ⟨-, work⟩
    · exact .of_same rfl
    · exact tasksKept_of_run tasksKnown ok
    · intro taskId known
      obtain ⟨task, found⟩ := Option.ne_none_iff_exists'.mp known
      obtain ⟨task', found', -⟩ := work.tasks taskId task found
      simp [found']
  intro job' member
  have found' := Table.find?_of_mem member
  cases found : s.jobs.find? (key job') with
  | none => exact (moves.added _ job' found found').2
  | some job =>
      obtain ⟨moved, foundMoved, request, -⟩ := moves.moved _ job found
      rw [foundMoved] at found'
      cases found'
      rw [request.taskId]
      exact kept _ (tasksKnown job (Table.mem_of_find? found))

theorem tasksKnown_of_steps {driver : Driver} {s₀ s : Store} {trace : List QueueEvent}
    (noJobs : s₀.jobs = ∅) (run : Steps (QueueStep driver) s₀ trace s) : s.TasksKnown := by
  refine run.invariant (fun _ _ _ known step => tasksKnown_of_step known step) ?_
  intro job member
  rw [noJobs] at member
  exact absurd member (Table.not_mem_empty job)

/-! ## A batch in progress -/

/-- The store in which the convergence of a recovered job runs. -/
def afterRelease (now : Timestamp) (job : Job) (s : Store) : Store :=
  { releaseResource job "worker_heartbeat_expired" none s with
    jobs := s.jobs.update job.jobId (Job.afterRecovery now) }

theorem recoverJob_of_budget {driver : Driver} {now : Timestamp} {job : Job} {s : Store}
    (budget : ¬ job.Exhausted) : recoverJob driver now s job = .ok (afterRelease now job s) := by
  unfold recoverJob convergeUnlessRetried
  rw [if_pos (decide_eq_true (Nat.lt_of_not_le budget))]
  rfl

theorem recoverJob_of_exhausted {driver : Driver} {now : Timestamp} {job : Job} {s : Store}
    (exhausted : job.Exhausted) : recoverJob driver now s job =
      convergeAfterFailure driver job workerLost none (afterRelease now job s) := by
  unfold recoverJob convergeUnlessRetried
  rw [if_neg]
  · rfl
  · simpa [Job.Exhausted] using exhausted

/-- The exhausted jobs of the list fail the candidate. -/
def FailedBy (s : Store) (jobs : List Job) (candidateId : Uuid) : Prop :=
  ∃ job ∈ jobs, job.Exhausted ∧ job.FailsCandidate s candidateId

/-- The store `s` in the middle of a batch that began at `start`, when the jobs of
`done` have been recovered. -/
structure BatchProgress (start : Store) (done : List Job) (s : Store) : Prop where
  tasks : TasksRejected start s
  moved : ∀ candidateId candidate, start.candidates.find? candidateId = some candidate →
    ∃ candidate', s.candidates.find? candidateId = some candidate' ∧
      (candidate' = candidate ∨
        candidate.state ≠ .accepted ∧ candidate'.state ∈ failedStates)
  absent : ∀ candidateId, start.candidates.find? candidateId = none →
    s.candidates.find? candidateId = none
  others : ∀ candidateId, ¬ FailedBy start done candidateId →
    s.candidates.find? candidateId = start.candidates.find? candidateId
  failed : ∀ candidateId candidate', FailedBy start done candidateId →
    s.candidates.find? candidateId = some candidate' →
    candidate'.state ∈ failedStates ∨ candidate'.state = .accepted

namespace BatchProgress

variable {driver : Driver} {start s s' : Store} {done : List Job} {job : Job}

theorem refl (start : Store) : BatchProgress start [] start where
  tasks := .of_same rfl
  moved _ candidate found := ⟨candidate, found, .inl rfl⟩
  absent _ absent := absent
  others _ _ := rfl
  failed _ _ none := by
    obtain ⟨job, inside, -⟩ := none
    cases inside

/-- The workflow of a task is the same in the middle of the batch. -/
theorem failsCandidate_iff (progress : BatchProgress start done s) {candidateId : Uuid} :
    job.FailsCandidate s candidateId ↔ job.FailsCandidate start candidateId := by
  unfold Job.FailsCandidate
  cases found : start.tasks.find? job.taskId with
  | none => simp [progress.tasks.absent _ found]
  | some task =>
      obtain ⟨task', found', workflow, -⟩ := progress.tasks.moved _ task found
      simp [found', workflow]

/-- **The condition at a job's turn can be read off the state before the batch.** -/
theorem canConverge_iff (progress : BatchProgress start done s) :
    job.CanConverge driver s [] ↔ job.CanConverge driver start done := by
  -- What the condition asks of a candidate means the same in both states.
  have movable : ∀ {workflowType : WorkflowType} {target : CandidateState} {candidateId : Uuid}
      {candidate candidate' : Candidate},
      start.candidates.find? candidateId = some candidate →
      s.candidates.find? candidateId = some candidate' →
      ((candidate'.state ∈ settledStates workflowType target ∨
          target ∈ candidateTransitions candidate'.state) ↔
        (candidate.state ∈ settledStates workflowType target ∨
          target ∈ candidateTransitions candidate.state ∨
          candidate.state ≠ .accepted ∧ FailedBy start done candidateId)) := by
    intro workflowType target candidateId candidate candidate' found found'
    by_cases failedBefore : FailedBy start done candidateId
    · have now := progress.failed candidateId candidate' failedBefore found'
      obtain ⟨moved, foundMoved, same | ⟨notAccepted, isFailed⟩⟩ :=
        progress.moved candidateId candidate found
      · rw [foundMoved] at found'
        cases found'
        subst same
        rcases now with isFailed | accepted
        · have settled : candidate'.state ∈ settledStates workflowType target :=
            failedStates_settled isFailed
          simp [settled]
        · simp [accepted]
      · rw [foundMoved] at found'
        cases found'
        have settled : candidate'.state ∈ settledStates workflowType target :=
          failedStates_settled isFailed
        simp [settled, notAccepted, failedBefore]
    · rw [progress.others candidateId failedBefore, found] at found'
      cases found'
      simp [failedBefore]
  constructor
  · intro can
    refine ⟨can.stage0Run, ?_, ?_⟩
    · intro task found rejects
      obtain ⟨task', found', workflow, -⟩ := progress.tasks.moved _ task found
      exact (progress.tasks.rejectable_iff found found').mp
        (can.task task' found' (by rw [workflow]; exact rejects))
    · intro task target found fails
      obtain ⟨task', found', workflow, -⟩ := progress.tasks.moved _ task found
      obtain ⟨candidateId, candidate', named, inTable', movable'⟩ :=
        can.candidate task' target found' (by rw [workflow]; exact fails)
      rw [workflow] at movable'
      cases inTable : start.candidates.find? candidateId with
      | none =>
          rw [progress.absent candidateId inTable] at inTable'
          cases inTable'
      | some candidate =>
          refine ⟨candidateId, candidate, named, inTable, (movable inTable inTable').mp ?_⟩
          rcases movable' with settled | allowed | ⟨-, other, none, -⟩
          · exact .inl settled
          · exact .inr allowed
          · cases none
  · intro can
    refine ⟨can.stage0Run, ?_, ?_⟩
    · intro task' found' rejects
      cases found : start.tasks.find? job.taskId with
      | none =>
          rw [progress.tasks.absent _ found] at found'
          cases found'
      | some task =>
          obtain ⟨moved, foundMoved, workflow, -⟩ := progress.tasks.moved _ task found
          rw [foundMoved] at found'
          cases found'
          exact (progress.tasks.rejectable_iff found foundMoved).mpr
            (can.task task found (by rw [← workflow]; exact rejects))
    · intro task' target found' fails
      cases found : start.tasks.find? job.taskId with
      | none =>
          rw [progress.tasks.absent _ found] at found'
          cases found'
      | some task =>
          obtain ⟨moved, foundMoved, workflow, -⟩ := progress.tasks.moved _ task found
          rw [foundMoved] at found'
          cases found'
          obtain ⟨candidateId, candidate, named, inTable, movable'⟩ :=
            can.candidate task target found (by rw [← workflow]; exact fails)
          obtain ⟨candidate', inTable', -⟩ := progress.moved candidateId candidate inTable
          refine ⟨candidateId, candidate', named, inTable', ?_⟩
          rw [workflow]
          rcases (movable inTable inTable').mpr movable' with settled | allowed
          · exact .inl settled
          · exact .inr (.inl allowed)

/-- Recovering one more job keeps the progress. -/
theorem step {now : Timestamp} (progress : BatchProgress start done s)
    (known : start.tasks.find? job.taskId ≠ none)
    (ok : recoverJob driver now s job = .ok s') : BatchProgress start (done ++ [job]) s' := by
  have knownNow := progress.tasks.kept _ known
  have rejected := recoverJob_tasks knownNow ok
  -- The exhausted jobs are the old ones and perhaps this one.
  have failedBy : ∀ candidateId, FailedBy start (done ++ [job]) candidateId ↔
      FailedBy start done candidateId ∨
        job.Exhausted ∧ job.FailsCandidate start candidateId := by
    intro candidateId
    simp [FailedBy, or_and_right, exists_or]
  have candidates : (¬ job.Exhausted ∧ s'.candidates = s.candidates) ∨
      (job.Exhausted ∧ CandidatesFailed job s s') := by
    by_cases exhausted : job.Exhausted
    · rw [recoverJob_of_exhausted exhausted] at ok
      obtain ⟨task, found⟩ := Option.ne_none_iff_exists'.mp knownNow
      have foundAfter : (afterRelease now job s).tasks.find? job.taskId = some task := found
      have effect := (convergeAfterFailure_effect foundAfter ok).2
      exact .inr ⟨exhausted, effect.congr_left rfl rfl⟩
    · rw [recoverJob_of_budget exhausted] at ok
      cases ok
      exact .inl ⟨exhausted, rfl⟩
  rcases candidates with ⟨retried, same⟩ | ⟨exhausted, effect⟩
  · refine ⟨progress.tasks.trans rejected, ?_, ?_, ?_, ?_⟩
    · rw [same]
      exact progress.moved
    · rw [same]
      exact progress.absent
    · intro candidateId spared
      rw [same]
      exact progress.others candidateId fun before => spared ((failedBy _).mpr (.inl before))
    · intro candidateId candidate' failed found
      rw [same] at found
      have before := ((failedBy candidateId).mp failed).resolve_right fun this => retried this.1
      exact progress.failed candidateId candidate' before found
  · refine ⟨progress.tasks.trans rejected, ?_, ?_, ?_, ?_⟩
    · intro candidateId candidate found
      obtain ⟨middle, foundMiddle, before⟩ := progress.moved candidateId candidate found
      obtain ⟨last, foundLast, after⟩ := effect.moved candidateId middle foundMiddle
      refine ⟨last, foundLast, ?_⟩
      rcases after with rfl | ⟨notAccepted, isFailed⟩
      · exact before
      · rcases before with rfl | ⟨notAcceptedBefore, -⟩
        · exact .inr ⟨notAccepted, isFailed⟩
        · exact .inr ⟨notAcceptedBefore, isFailed⟩
    · intro candidateId absent
      exact effect.absent candidateId (progress.absent candidateId absent)
    · intro candidateId spared
      rw [failedBy, not_or] at spared
      rw [effect.others candidateId fun fails =>
        spared.2 ⟨exhausted, progress.failsCandidate_iff.mp fails⟩]
      exact progress.others candidateId spared.1
    · intro candidateId candidate' failed found
      by_cases fails : job.FailsCandidate s candidateId
      · exact effect.failed candidateId candidate' fails found
      · have before := ((failedBy candidateId).mp failed).resolve_right fun this =>
          fails (progress.failsCandidate_iff.mpr this.2)
        rw [effect.others candidateId fails] at found
        exact progress.failed candidateId candidate' before found

end BatchProgress

/-! ## The whole batch -/

/-- A job with attempts left is recovered without more ado; an exhausted one when it can
converge. -/
theorem recoverJob_ok_iff {driver : Driver} {now : Timestamp} {s : Store} {job : Job}
    (known : s.tasks.find? job.taskId ≠ none) :
    (∃ s', recoverJob driver now s job = .ok s') ↔
      (job.Exhausted → job.CanConverge driver s []) := by
  by_cases exhausted : job.Exhausted
  · obtain ⟨task, found⟩ := Option.ne_none_iff_exists'.mp known
    have foundAfter : (afterRelease now job s).tasks.find? job.taskId = some task := found
    rw [recoverJob_of_exhausted exhausted, convergeAfterFailure_ok_iff foundAfter]
    exact ⟨fun can _ => ⟨can.stage0Run, can.task, can.candidate⟩, fun can =>
      ⟨(can exhausted).stage0Run, (can exhausted).task, (can exhausted).candidate⟩⟩
  · rw [recoverJob_of_budget exhausted]
    exact ⟨fun _ spent => absurd spent exhausted, fun _ => ⟨_, rfl⟩⟩

theorem recoverAll_ok_iff {driver : Driver} {now : Timestamp} {batch : List Job}
    {start s : Store} {done : List Job} (progress : BatchProgress start done s)
    (known : ∀ job ∈ batch, start.tasks.find? job.taskId ≠ none) :
    (∃ s', batch.foldlM (recoverJob driver now) s = .ok s') ↔
      ∀ earlier job later, batch = earlier ++ job :: later → job.Exhausted →
        job.CanConverge driver start (done ++ earlier) := by
  induction batch generalizing s done with
  | nil => simp [pure, Except.pure]
  | cons head batch ih =>
      have knownHead := known head List.mem_cons_self
      have knownRest : ∀ job ∈ batch, start.tasks.find? job.taskId ≠ none :=
        fun job inside => known job (List.mem_cons_of_mem _ inside)
      have first : (∃ t, recoverJob driver now s head = .ok t) ↔
          (head.Exhausted → head.CanConverge driver s []) :=
        recoverJob_ok_iff (progress.tasks.kept _ knownHead)
      constructor
      · rintro ⟨s', ok⟩ earlier job later shape exhausted
        rw [List.foldlM_cons] at ok
        obtain ⟨t, recovered, ok⟩ := Except.bind_eq_ok.mp ok
        cases earlier with
        | nil =>
            cases shape
            have can := first.mp ⟨t, recovered⟩ exhausted
            simpa using progress.canConverge_iff.mp can
        | cons head' earlier =>
            cases shape
            have rest := (ih (progress.step knownHead recovered) knownRest).mp ⟨s', ok⟩
            simpa using rest earlier job later rfl exhausted
      · intro can
        have canHead : head.Exhausted → head.CanConverge driver s [] := by
          intro exhausted
          exact progress.canConverge_iff.mpr (by simpa using can [] head batch rfl exhausted)
        obtain ⟨t, recovered⟩ := first.mpr canHead
        obtain ⟨s', ok⟩ := (ih (progress.step knownHead recovered) knownRest).mpr (by
          intro earlier job later shape exhausted
          simpa using can (head :: earlier) job later (by rw [shape]; rfl) exhausted)
        exact ⟨s', by rw [List.foldlM_cons]; exact Except.bind_eq_ok.mpr ⟨t, recovered, ok⟩⟩

/-! ## Recovery of reachable states -/

/-- A recovery does what it is for: it does not raise, it leaves no stale job, and each
job that was stale is queued again or has failed, its resource no longer active. -/
def Store.Recovers (driver : Driver) (now : Timestamp) (staleAfterSeconds : Int) (s : Store) :
    Prop :=
  ∃ s' recovered, recoverStaleJobs driver now staleAfterSeconds {} s = .ok (s', recovered) ∧
    (∀ job ∈ s'.jobs, ¬ job.Stale now staleAfterSeconds) ∧
    ∀ job ∈ s.jobs, job.Stale now staleAfterSeconds →
      ∃ job', s'.jobs.find? job.jobId = some job' ∧
        job'.state = (if job.attempts < job.maxAttempts then .queued else .failed) ∧
        ∀ resourceId, job.resourceId = some resourceId →
          ∃ resource, s'.resources.find? resourceId = some resource ∧ resource.state ≠ .active

/-- Each exhausted stale job can converge at its turn. -/
def Store.BatchConverges (driver : Driver) (now : Timestamp) (staleAfterSeconds : Int)
    (s : Store) : Prop :=
  ∀ earlier job later, s.staleJobs now staleAfterSeconds {} = earlier ++ job :: later →
    job.Exhausted → job.CanConverge driver s earlier

/-- A recovery that does not raise does what it is for. -/
theorem recovers_of_ok {driver : Driver} {now : Timestamp} {staleAfterSeconds : Int}
    {s s' : Store} {recovered : List Uuid} (agree : s.LeaseInvariant)
    (ok : recoverStaleJobs driver now staleAfterSeconds {} s = .ok (s', recovered)) :
    s.Recovers driver now staleAfterSeconds := by
  have folded := (recoverStaleJobs_effect ok).1
  have agree' : s'.LeaseInvariant := by
    refine leaseInvariant_of_recoverAll folded ?_ (s.staleJobs_distinct _ _ _) agree
    intro job inside
    obtain ⟨member, stale, -⟩ := Store.mem_staleJobs.mp inside
    exact ⟨Table.find?_of_mem member, stale.1⟩
  have lookup := find?_recoverAll folded (s.staleJobs_distinct now staleAfterSeconds {})
  have inBatch : ∀ job ∈ s.jobs, job.Stale now staleAfterSeconds →
      job.jobId ∈ (s.staleJobs now staleAfterSeconds {}).map Job.jobId := by
    intro job member stale
    exact List.mem_map.mpr ⟨job, Store.mem_staleJobs.mpr ⟨member, stale, rfl⟩, rfl⟩
  -- A job that runs afterwards is not of the batch, and ran before with the same row.
  have ranBefore : ∀ job ∈ s'.jobs, job.state = .running →
      job.jobId ∉ (s.staleJobs now staleAfterSeconds {}).map Job.jobId ∧ job ∈ s.jobs := by
    intro job member running
    have found := Table.find?_of_mem member
    rw [key_job, lookup] at found
    split at found
    · obtain ⟨old, -, rfl⟩ := Option.map_eq_some_iff.mp found
      unfold Job.afterRecovery at running
      split at running <;> cases running
    · rename_i outside
      exact ⟨outside, Table.mem_of_find? found⟩
  refine ⟨s', recovered, ok, ?_, ?_⟩
  · intro job member stale
    obtain ⟨outside, old⟩ := ranBefore job member stale.1
    exact outside (inBatch job old stale)
  · intro job member stale
    refine ⟨job.afterRecovery now, ?_, rfl, ?_⟩
    · rw [lookup, if_pos (inBatch job member stale)]
      exact congrArg (Option.map _) (Table.find?_of_mem member)
    · intro resourceId named
      obtain ⟨resource, inTable, rfl, on⟩ := agree.held job member stale.1 resourceId named
      obtain ⟨resource', found', -⟩ := TokensGrow.of_recoverAll folded resource.resourceId
        resource (Table.find?_of_mem inTable)
      refine ⟨resource', found', ?_⟩
      intro active
      obtain ⟨other, memberOther, runningOther, onOther⟩ :=
        agree'.owned resource' (Table.mem_of_find? found') active
      obtain ⟨outside, old⟩ := ranBefore other memberOther runningOther
      have sameId : resource'.resourceId = resource.resourceId := Table.key_of_find? found'
      obtain ⟨held, inHeld, heldId, onHeld⟩ := agree.held other old runningOther
        resource.resourceId (sameId ▸ onOther.named)
      have sameRow : held = resource := Table.eq_of_key_eq inHeld inTable heldId
      subst sameRow
      have same := onHeld.job_unique old member on
      subst same
      exact outside (inBatch other old stale)

/-- Two jobs of a framework task are claimed: one that names no candidate and has no
second attempt, and one that does no harm. -/
def wedgingCalls : List QueueCall :=
  [.registerWorker { workerId := "build-0", workerType := .build },
    .enqueueJob 0 10
      { taskId := 1, jobType := .noopBuild, acceptedWorkerType := .build,
        idempotencyKey := "noop-build", maxAttempts := 1 },
    .enqueueJob 1 11
      { taskId := 1, jobType := .build, acceptedWorkerType := .build,
        idempotencyKey := "build", maxAttempts_range := maxAttempts_default },
    .claimJob 2 20 30 {} "build-0",
    .claimJob 3 21 31 {} "build-0"]

/-- The store after `wedgingCalls`. -/
def wedged : Store := runCalls textDriver wedgingCalls (oneTask .frameworkSmoke .sourcePreparing)

end HcuAutoOpt
