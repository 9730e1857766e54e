import HcuAutoOpt.Storage.JobTermination

/-!
# What each queue operation does

One inversion lemma for each operation: from the fact that the operation committed
`s'`, the rows it read, the guards they passed, and the jobs and resources of `s'` as a
rewrite of those of `s`. Every invariant of the queue is derived from these lemmas;
no later proof unfolds an operation.
-/

set_option autoImplicit false

namespace HcuAutoOpt

open Foundation

/-! ## Workers and new jobs -/

/-- Registering a worker leaves the jobs alone and adds at most one fresh resource. -/
theorem registerWorker_effect {driver : Driver} {request : WorkerRegister} {s s' : Store}
    {row : Worker} (ok : registerWorker driver request s = .ok (s', row)) :
    s'.tasks = s.tasks ∧ s'.jobs = s.jobs ∧
      (s'.resources = s.resources ∨
        ∃ resourceId, s'.resources = s.resources.insertIfAbsent { resourceId }) := by
  obtain ⟨profile, -, ok⟩ := Except.bind_eq_ok.mp ok
  cases ok
  refine ⟨rfl, rfl, ?_⟩
  by_cases gpu : request.workerType = .gpu
  · exact .inr ⟨request.resourceId, by simp [gpu]⟩
  · exact .inl (by simp [gpu])

/-- An accepted insertion adds the row. -/
theorem insertJob_effect {row : Job} {s s' : Store} (ok : insertJob row s = .ok s') :
    s.tasks.find? row.taskId ≠ none ∧ s.jobs.find? row.jobId = none ∧
      s' = { s with jobs := s.jobs.insertIfAbsent row } := by
  obtain ⟨_, taskKnown, ok⟩ := Except.bind_eq_ok.mp ok
  obtain ⟨_, idNew, ok⟩ := Except.bind_eq_ok.mp ok
  cases ok
  exact ⟨require_eq_ok.mp taskKnown, require_eq_ok.mp idNew, rfl⟩

/-- Enqueueing returns the stored job of the key, or adds the requested one. -/
theorem enqueueJob_effect {now : Timestamp} {jobId : Uuid} {request : JobCreate} {s s' : Store}
    {row : Job} (ok : enqueueJob now jobId request s = .ok (s', row)) :
    (s' = s ∧ s.jobOfKey? request.idempotencyKey = some row ∧ request.Matches row) ∨
      (s.jobOfKey? request.idempotencyKey = none ∧ s.tasks.find? request.taskId ≠ none ∧
        s.jobs.find? jobId = none ∧ row = request.row now jobId ∧
        s' = { s with jobs := s.jobs.insertIfAbsent row }) := by
  unfold enqueueJob at ok
  split at ok
  · rename_i stored found
    obtain ⟨_, same, ok⟩ := Except.bind_eq_ok.mp ok
    cases ok
    exact .inl ⟨rfl, found, require_eq_ok.mp same⟩
  · rename_i absent
    obtain ⟨_, inserted, ok⟩ := Except.bind_eq_ok.mp ok
    cases ok
    obtain ⟨taskKnown, idNew, rfl⟩ := insertJob_effect inserted
    exact .inr ⟨absent, taskKnown, idNew, rfl, rfl⟩

/-! ## Claims -/

theorem Store.nextJob?_eq_some {s : Store} {worker : Worker} {now : Timestamp} {locks : Locks}
    {job : Job} (picked : s.nextJob? worker now locks = some job) :
    job ∈ s.jobs ∧ job.ClaimableBy worker now := by
  have member := List.mem_of_mem_head? (Option.mem_def.mpr picked)
  rw [List.mem_insertionSort, List.mem_filter] at member
  simp only [Bool.and_eq_true, decide_eq_true_eq] at member
  exact ⟨member.1, member.2.1⟩

theorem Store.availableResource?_eq_some {s : Store} {requested : Option String}
    {locks : Locks} {resource : Resource}
    (picked : s.availableResource? requested locks = some resource) :
    resource ∈ s.resources ∧ resource.state = .available := by
  have member : resource ∈ s.resources.rows.filter fun resource =>
      decide (resource.state = .available) && !locks.resource resource.resourceId := by
    cases requested with
    | some resourceId => exact List.mem_of_find?_eq_some picked
    | none =>
        have member := List.mem_of_mem_head? (Option.mem_def.mpr picked)
        rwa [List.mem_insertionSort] at member
  rw [List.mem_filter] at member
  simp only [Bool.and_eq_true, decide_eq_true_eq] at member
  exact ⟨member.1, member.2.1⟩

/-- The endpoint part of a claim leaves the queue alone. -/
theorem claimEndpointWork_sameQueue {job : Job} {s s' : Store}
    (ok : claimEndpointWork job s = .ok s') : SameQueue s s' := by
  unfold claimEndpointWork at ok
  split at ok
  · cases ok
    exact ⟨rfl, rfl, rfl⟩
  · split at ok
    · cases ok
      exact ⟨rfl, rfl, rfl⟩
    · cases ok
  · cases ok
    exact .refl s

theorem claimEndpointWork_tasks {job : Job} {s s' : Store}
    (ok : claimEndpointWork job s = .ok s') : s'.tasks = s.tasks := by
  unfold claimEndpointWork at ok
  split at ok
  · cases ok
    rfl
  · split at ok
    · cases ok
      rfl
    · cases ok
  · cases ok
    rfl

/-- A lease is taken on an available resource, one token higher. -/
def Lease.TakenFrom (lease : Lease) (leaseId : Uuid) (s : Store) : Prop :=
  ∃ resource ∈ s.resources, resource.state = .available ∧
    lease = ⟨resource.resourceId, leaseId, resource.fencingToken + 1⟩

/-- A claim hands out nothing and changes nothing, or hands out one queued job. -/
theorem claimJob_effect {now : Timestamp} {claimToken leaseId : Uuid} {locks : Locks}
    {workerId : String} {s s' : Store} {reply : Option Job}
    (ok : claimJob now claimToken leaseId locks workerId s = .ok (s', reply)) :
    (reply = none ∧ s' = s) ∨
      ∃ worker job lease, s.workers.find? workerId = some worker ∧
        job ∈ s.jobs ∧ job.ClaimableBy worker now ∧
        (∀ taken ∈ lease, taken.TakenFrom leaseId s) ∧
        reply = some (job.claimed now workerId claimToken lease) ∧
        s'.jobs = s.jobs.update job.jobId (Job.claimed now workerId claimToken lease) ∧
        s'.resources = claimedResources now job.jobId lease s.resources ∧
        s'.tasks = s.tasks := by
  obtain ⟨worker, known, ok⟩ := Except.bind_eq_ok.mp ok
  rw [requireRow_eq_ok] at known
  have picked : ∀ {job : Job} {lease : Option Lease},
      claimPicked now workerId claimToken job lease s = .ok (s', reply) →
        reply = some (job.claimed now workerId claimToken lease) ∧
        s'.jobs = s.jobs.update job.jobId (Job.claimed now workerId claimToken lease) ∧
        s'.resources = claimedResources now job.jobId lease s.resources ∧
        s'.tasks = s.tasks := by
    intro job lease ok
    obtain ⟨t, endpoint, ok⟩ := Except.bind_eq_ok.mp ok
    cases ok
    have same := claimEndpointWork_sameQueue endpoint
    have tasks := claimEndpointWork_tasks endpoint
    exact ⟨rfl, same.jobs, same.resources, tasks⟩
  split at ok
  · cases ok
    exact .inl ⟨rfl, rfl⟩
  · rename_i job next
    obtain ⟨member, claimable⟩ := Store.nextJob?_eq_some next
    split at ok
    · obtain ⟨requested, -, ok⟩ := Except.bind_eq_ok.mp ok
      split at ok
      · cases ok
        exact .inl ⟨rfl, rfl⟩
      · rename_i resource available
        obtain ⟨inTable, free⟩ := Store.availableResource?_eq_some available
        refine .inr ⟨worker, job, _, known, member, claimable, ?_, picked ok⟩
        rintro _ ⟨⟩
        exact ⟨resource, inTable, free, rfl⟩
    · refine .inr ⟨worker, job, none, known, member, claimable, ?_, picked ok⟩
      rintro _ ⟨⟩

/-! ## Ownership -/

/-- The caller of an accepted ownership check names a running job by its claim token,
and the token of its resource where it has one. -/
theorem assertJobOwner_effect {jobId claimToken : Uuid} {fencingToken : Option Int} {s : Store}
    {job : Job} (ok : assertJobOwner jobId claimToken fencingToken s = .ok job) :
    s.jobs.find? jobId = some job ∧ job.state = .running ∧ job.claimToken = some claimToken ∧
      ∀ resourceId ∈ job.resourceId, ∃ resource, s.resources.find? resourceId = some resource ∧
        resource.ownerJobId = some jobId ∧ fencingToken = some resource.fencingToken := by
  obtain ⟨found, known, ok⟩ := Except.bind_eq_ok.mp ok
  rw [requireRow_eq_ok] at known
  obtain ⟨_, owns, ok⟩ := Except.bind_eq_ok.mp ok
  obtain ⟨running, token⟩ := require_eq_ok.mp owns
  split at ok
  · rename_i bare
    cases ok
    refine ⟨known, running, token, ?_⟩
    simp [bare]
  · rename_i resourceId bound
    split at ok
    · cases ok
    · rename_i resource held
      obtain ⟨_, fenced, ok⟩ := Except.bind_eq_ok.mp ok
      cases ok
      obtain ⟨owner, fencing⟩ := require_eq_ok.mp fenced
      refine ⟨known, running, token, ?_⟩
      rintro other named
      rw [bound] at named
      cases named
      exact ⟨resource, held, owner, fencing.symm⟩

/-- A heartbeat renews times and nothing else. -/
theorem heartbeatJob_effect {now : Timestamp} {workerId : String} {jobId claimToken : Uuid}
    {fencingToken : Option Int} {s s' : Store} {u : Unit}
    (ok : heartbeatJob now workerId jobId claimToken fencingToken s = .ok (s', u)) :
    ∃ job, assertJobOwner jobId claimToken fencingToken s = .ok job ∧
      job.claimedBy = some workerId ∧
      s' = { s with
        jobs := s.jobs.update jobId (Job.heard now)
        resources := heartbeatResources now jobId fencingToken s.resources } := by
  obtain ⟨job, owner, ok⟩ := Except.bind_eq_ok.mp ok
  obtain ⟨_, claimed, ok⟩ := Except.bind_eq_ok.mp ok
  cases ok
  exact ⟨job, owner, require_eq_ok.mp claimed, rfl⟩

/-! ## Completion, failure and recovery -/

/-- A completion is accepted from the owner of a running job, or repeats the completion
that was accepted before. -/
theorem completeJob_effect {now : Timestamp} {jobId claimToken : Uuid}
    {fencingToken : Option Int} {result : Json.Object} {s s' : Store} {row : Job}
    (ok : completeJob now jobId claimToken fencingToken result s = .ok (s', row)) :
    (s' = s ∧ s.jobs.find? jobId = some row ∧ row.state = .succeeded ∧
        row.claimToken = some claimToken ∧ row.fencingToken = fencingToken ∧
        row.HasResult result) ∨
      ∃ job, assertJobOwner jobId claimToken fencingToken s = .ok job ∧
        row = job.completed now result ∧
        s' = releaseResource job "job_completed" (cleanupEvidenceOf result)
          { s with jobs := s.jobs.update jobId (Job.completed now result) } := by
  obtain ⟨existing, known, ok⟩ := Except.bind_eq_ok.mp ok
  rw [requireRow_eq_ok] at known
  split at ok
  · rename_i succeeded
    obtain ⟨_, token, ok⟩ := Except.bind_eq_ok.mp ok
    obtain ⟨_, fencing, ok⟩ := Except.bind_eq_ok.mp ok
    obtain ⟨_, same, ok⟩ := Except.bind_eq_ok.mp ok
    cases ok
    exact .inl ⟨rfl, known, succeeded, require_eq_ok.mp token, require_eq_ok.mp fencing,
      require_eq_ok.mp same⟩
  · obtain ⟨job, owner, ok⟩ := Except.bind_eq_ok.mp ok
    cases ok
    exact .inr ⟨job, owner, rfl, rfl⟩

/-- A failure is accepted from the owner of a running job, which it requeues or ends. -/
theorem failJob_effect {driver : Driver} {now : Timestamp} {jobId claimToken : Uuid}
    {fencingToken : Option Int} {error : Json} {retryable : Bool}
    {cleanupEvidence : Option Json.Object} {s s' : Store} {row : Job}
    (ok : failJob driver now jobId claimToken fencingToken error retryable cleanupEvidence s =
      .ok (s', row)) :
    ∃ job retry, assertJobOwner jobId claimToken fencingToken s = .ok job ∧
      (retry = true → job.attempts < job.maxAttempts) ∧
      row = job.afterFailure now error retry ∧
      convergeUnlessRetried driver retry job error cleanupEvidence
        (releaseResource job "job_failed" cleanupEvidence
          { s with jobs := s.jobs.update jobId (Job.afterFailure now error retry) }) =
        .ok s' := by
  obtain ⟨job, owner, ok⟩ := Except.bind_eq_ok.mp ok
  obtain ⟨t, converged, ok⟩ := Except.bind_eq_ok.mp ok
  cases ok
  refine ⟨job, retryable && decide (job.attempts < job.maxAttempts), owner, ?_, rfl, ?_⟩
  · simp
  · exact converged

/-- Recovering one job releases its resource and requeues or fails it. -/
theorem recoverJob_effect {driver : Driver} {now : Timestamp} {job : Job} {s s' : Store}
    (ok : recoverJob driver now s job = .ok s') :
    SameQueue { releaseResource job "worker_heartbeat_expired" none s with
      jobs := s.jobs.update job.jobId (Job.afterRecovery now) } s' :=
  convergeUnlessRetried_sameQueue ok

theorem Store.mem_staleJobs {s : Store} {now : Timestamp} {staleAfterSeconds : Int}
    {locks : Locks} {job : Job} :
    job ∈ s.staleJobs now staleAfterSeconds locks ↔
      job ∈ s.jobs ∧ job.Stale now staleAfterSeconds ∧ locks.job job.jobId = false := by
  simp [Store.staleJobs, List.mem_insertionSort, List.mem_filter, Table.mem_rows]

/-- A recovery recovers its batch, one job after the other. -/
theorem recoverStaleJobs_effect {driver : Driver} {now : Timestamp} {staleAfterSeconds : Int}
    {locks : Locks} {s s' : Store} {recovered : List Uuid}
    (ok : recoverStaleJobs driver now staleAfterSeconds locks s = .ok (s', recovered)) :
    (s.staleJobs now staleAfterSeconds locks).foldlM (recoverJob driver now) s = .ok s' ∧
      recovered = (s.staleJobs now staleAfterSeconds locks).map Job.jobId := by
  obtain ⟨t, folded, ok⟩ := Except.bind_eq_ok.mp ok
  cases ok
  exact ⟨folded, rfl⟩

/-! ## Cancellation and cleanup reports -/

/-- Cancelling a job that has ended changes nothing; any other job is cancelled, and
releases its resource when it runs. -/
theorem cancelJob_effect {now : Timestamp} {jobId : Uuid} {reason : String} {s s' : Store}
    {row : Job} (ok : cancelJob now jobId reason s = .ok (s', row)) :
    ∃ job, s.jobs.find? jobId = some job ∧
      ((job.state ∈ [.succeeded, .failed, .cancelled] ∧ s' = s ∧ row = job) ∨
        (job.state ∉ [.succeeded, .failed, .cancelled] ∧
          row = job.cancelledAlone now reason ∧
          s' = failEndpointAdjudicationAfterJobFailure job
            { (if job.state = .running then releaseResource job "job_cancelled" none s else s) with
              jobs := s.jobs.update jobId (Job.cancelledAlone now reason) })) := by
  obtain ⟨job, known, ok⟩ := Except.bind_eq_ok.mp ok
  rw [requireRow_eq_ok] at known
  refine ⟨job, known, ?_⟩
  split at ok
  · rename_i ended
    cases ok
    exact .inl ⟨ended, rfl, rfl⟩
  · rename_i live
    cases ok
    refine .inr ⟨live, rfl, ?_⟩
    have jobsKept : (if job.state = .running then releaseResource job "job_cancelled" none s
        else s).jobs = s.jobs := by
      split <;> rfl
    rw [← jobsKept]

@[simp] theorem releaseAll_jobs (reason : String) (jobs : List Job) (s : Store) :
    (releaseAll reason jobs s).jobs = s.jobs := by
  induction jobs generalizing s with
  | nil => rfl
  | cons job jobs ih => exact ih (releaseResource job reason none s)

@[simp] theorem releaseAll_tasks (reason : String) (jobs : List Job) (s : Store) :
    (releaseAll reason jobs s).tasks = s.tasks := by
  induction jobs generalizing s with
  | nil => rfl
  | cons job jobs ih => exact ih (releaseResource job reason none s)

/-- Cancelling a framework task releases the resources of its running jobs and cancels
its live ones; cancelling it again changes nothing. -/
theorem cancelFrameworkTask_effect {now : Timestamp} {taskId : Uuid} {reason : String}
    {s s' : Store} {u : Unit} (ok : cancelFrameworkTask now taskId reason s = .ok (s', u)) :
    (s' = s ∧ ∃ task, s.tasks.find? taskId = some task ∧ task.state = .cancelled) ∨
      s'.resources = (releaseAll "task_cancelled" (s.runningJobsOf taskId) s).resources ∧
      s'.jobs = s.jobs.updateWhere (fun job => decide (job.LiveOf taskId))
        (Job.cancelledWithTask now reason) ∧
      s'.tasks = s.tasks.update taskId (Task.inState .cancelled) := by
  obtain ⟨task, known, ok⟩ := Except.bind_eq_ok.mp ok
  rw [requireRow_eq_ok] at known
  obtain ⟨_, -, ok⟩ := Except.bind_eq_ok.mp ok
  split at ok
  · rename_i already
    cases ok
    exact .inl ⟨rfl, task, known, already⟩
  · obtain ⟨_, -, ok⟩ := Except.bind_eq_ok.mp ok
    obtain ⟨target, allowed, ok⟩ := Except.bind_eq_ok.mp ok
    obtain ⟨-, rfl⟩ := transitionTask_eq_ok.mp allowed
    cases ok
    refine .inr ⟨rfl, ?_, ?_⟩
    · simp only [setTaskState, releaseAll_jobs]
    · simp only [setTaskState, releaseAll_tasks]

/-- Cancelling a scripted round cancels the queued jobs of its task, none of whose
jobs runs; cancelling it again changes nothing. -/
theorem cancelScriptedSearchRound_effect {now : Timestamp} {roundId : Uuid} {reason : String}
    {s s' : Store} {row : SearchRound}
    (ok : cancelScriptedSearchRound now roundId reason s = .ok (s', row)) :
    s' = s ∨
      ∃ taskId, s'.resources = s.resources ∧
        s'.jobs = s.jobs.updateWhere
          (fun job => decide (job.taskId = taskId ∧ job.state = .queued))
          (Job.cancelledWithRound now reason) ∧
        s'.tasks = s.tasks.update taskId (Task.inState .cancelled) := by
  obtain ⟨round, -, ok⟩ := Except.bind_eq_ok.mp ok
  obtain ⟨_, -, ok⟩ := Except.bind_eq_ok.mp ok
  split at ok
  · cases ok
    exact .inl rfl
  · obtain ⟨_, -, ok⟩ := Except.bind_eq_ok.mp ok
    obtain ⟨_, -, ok⟩ := Except.bind_eq_ok.mp ok
    obtain ⟨_, -, ok⟩ := Except.bind_eq_ok.mp ok
    cases ok
    exact .inr ⟨round.taskId, rfl, rfl, rfl⟩

/-- A cleanup report moves a resource that is not leased, at its current token. -/
theorem reportResourceCleanup_effect {resourceId : String} {fencingToken : Int}
    {cleanupEvidence : Json.Object} {s s' : Store} {row : Resource}
    (ok : reportResourceCleanup resourceId fencingToken cleanupEvidence s = .ok (s', row)) :
    ∃ resource, s.resources.find? resourceId = some resource ∧
      resource.fencingToken = fencingToken ∧
      resource.state ∈ [.fencing, .healthCheck, .quarantined] ∧
      s' = { s with
        resources := s.resources.update resourceId (Resource.cleaned cleanupEvidence) } := by
  obtain ⟨resource, known, ok⟩ := Except.bind_eq_ok.mp ok
  rw [requireRow_eq_ok] at known
  obtain ⟨_, token, ok⟩ := Except.bind_eq_ok.mp ok
  obtain ⟨_, reportable, ok⟩ := Except.bind_eq_ok.mp ok
  cases ok
  exact ⟨resource, known, require_eq_ok.mp token, require_eq_ok.mp reportable, rfl⟩

end HcuAutoOpt
