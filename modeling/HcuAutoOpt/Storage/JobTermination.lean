import HcuAutoOpt.Storage.FailureConvergence

/-!
# Failure, recovery and cancellation of jobs

The methods of `storage/repository.py` that take a job from its worker:
`fail_job`, `recover_stale_jobs`, `cancel_job`, `cancel_framework_task` and
`cancel_scripted_search_round`. The first two requeue a job that has attempts left
and otherwise converge its workflow in the same transaction; `recover_stale_jobs`
does so for a whole batch of jobs in one transaction.
-/

set_option autoImplicit false

namespace HcuAutoOpt

open Foundation

/-! ## Failure -/

/-- The job with its claim taken away. -/
def Job.unclaimed (job : Job) : Job :=
  { job with
    claimedBy := none
    claimToken := none
    claimedAt := none
    heartbeatAt := none
    leaseId := none
    resourceId := none
    fencingToken := none }

/-- The job as `fail_job` leaves it. -/
def Job.afterFailure (now : Timestamp) (error : Json) (retry : Bool) (job : Job) : Job :=
  { job.unclaimed with
    state := if retry then .queued else .failed
    lastError := some error
    availableAt := if retry then now + seconds 1 else job.availableAt
    finishedAt := if retry then none else some now }

instance (now : Timestamp) (error : Json) (retry : Bool) :
    KeepsKey (Job.afterFailure now error retry) := ⟨fun _ => rfl⟩

/-- The convergence of a failed job's workflow; a requeued job's workflow goes on. -/
def convergeUnlessRetried (driver : Driver) (retry : Bool) (job : Job) (error : Json)
    (cleanupEvidence : Option Json.Object) (s : Store) : Except Error Store :=
  if retry then .ok s else convergeAfterFailure driver job error cleanupEvidence s

/-- `fail_job`. -/
def failJob (driver : Driver) (now : Timestamp) (jobId claimToken : Uuid)
    (fencingToken : Option Int) (error : Json) (retryable : Bool)
    (cleanupEvidence : Option Json.Object) : Transaction Store Error Job :=
  fun s => do
    let job ← assertJobOwner jobId claimToken fencingToken s
    let retry := retryable && decide (job.attempts < job.maxAttempts)
    let s := { s with jobs := s.jobs.update jobId (Job.afterFailure now error retry) }
    let s := releaseResource job "job_failed" cleanupEvidence s
    let s ← convergeUnlessRetried driver retry job error cleanupEvidence s
    return (s, job.afterFailure now error retry)

theorem convergeUnlessRetried_sameQueue {driver : Driver} {retry : Bool} {job : Job}
    {error : Json} {cleanupEvidence : Option Json.Object} {s s' : Store}
    (ok : convergeUnlessRetried driver retry job error cleanupEvidence s = .ok s') :
    SameQueue s s' := by
  unfold convergeUnlessRetried at ok
  split at ok
  · cases ok
    exact .refl s
  · exact convergeAfterFailure_sameQueue ok

/-! ## Recovery -/

/-- The job's worker has not been heard of for the given number of seconds. -/
def Job.Stale (now : Timestamp) (staleAfterSeconds : Int) (job : Job) : Prop :=
  job.state = .running ∧ ∃ heartbeat ∈ job.heartbeatAt, heartbeat ≤ now - seconds staleAfterSeconds

instance (now : Timestamp) (staleAfterSeconds : Int) (job : Job) :
    Decidable (job.Stale now staleAfterSeconds) := by
  unfold Job.Stale
  infer_instance

/-- `ORDER BY heartbeat_at`. -/
def Job.HeardBefore (first second : Job) : Prop :=
  first.heartbeatAt.getD 0 ≤ second.heartbeatAt.getD 0

instance : DecidableRel Job.HeardBefore := fun _ _ => inferInstanceAs (Decidable (_ ≤ _))

/-- The batch of a recovery, oldest heartbeat first. -/
def Store.staleJobs (s : Store) (now : Timestamp) (staleAfterSeconds : Int) (locks : Locks) :
    List Job :=
  (s.jobs.rows.filter fun job =>
    decide (job.Stale now staleAfterSeconds) && !locks.job job.jobId).insertionSort Job.HeardBefore

/-- The error a recovered job is given. -/
def workerLost : Json :=
  .obj [("code", .str "worker_lost"), ("message", .str "heartbeat expired")]

/-- The job as `recover_stale_jobs` leaves it. -/
def Job.afterRecovery (now : Timestamp) (job : Job) : Job :=
  { job.unclaimed with
    state := if job.attempts < job.maxAttempts then .queued else .failed
    availableAt := now
    lastError := some workerLost
    finishedAt := if job.attempts < job.maxAttempts then none else some now }

instance (now : Timestamp) : KeepsKey (Job.afterRecovery now) := ⟨fun _ => rfl⟩

/-- The recovery of one job of the batch. -/
def recoverJob (driver : Driver) (now : Timestamp) (s : Store) (job : Job) :
    Except Error Store :=
  let s := releaseResource job "worker_heartbeat_expired" none s
  let s := { s with jobs := s.jobs.update job.jobId (Job.afterRecovery now) }
  convergeUnlessRetried driver (decide (job.attempts < job.maxAttempts)) job workerLost none s

/-- `recover_stale_jobs`: one transaction over the whole batch. -/
def recoverStaleJobs (driver : Driver) (now : Timestamp) (staleAfterSeconds : Int)
    (locks : Locks) : Transaction Store Error (List Uuid) :=
  fun s => do
    let stale := s.staleJobs now staleAfterSeconds locks
    let s ← stale.foldlM (recoverJob driver now) s
    return (s, stale.map Job.jobId)

/-! ## Cancellation -/

/-- The error a cancelled job is given. -/
def cancellation (code reason : String) : Json :=
  .obj [("code", .str code), ("message", .str reason)]

/-- The job as `cancel_job` leaves it. -/
def Job.cancelledAlone (now : Timestamp) (reason : String) (job : Job) : Job :=
  { job with
    state := .cancelled
    lastError := some (cancellation "cancelled" reason)
    claimedBy := none
    claimToken := none
    leaseId := none
    resourceId := none
    fencingToken := none
    finishedAt := some now }

instance (now : Timestamp) (reason : String) : KeepsKey (Job.cancelledAlone now reason) :=
  ⟨fun _ => rfl⟩

/-- `cancel_job`. A job that has ended is returned as it is. -/
def cancelJob (now : Timestamp) (jobId : Uuid) (reason : String) : Transaction Store Error Job :=
  fun s => do
    let job ← requireRow (s.jobs.find? jobId) s!"job not found: {jobId.text}"
    if job.state ∈ [.succeeded, .failed, .cancelled] then
      return (s, job)
    else
      let s := if job.state = .running then releaseResource job "job_cancelled" none s else s
      let s := { s with jobs := s.jobs.update jobId (Job.cancelledAlone now reason) }
      return (failEndpointAdjudicationAfterJobFailure job s, job.cancelledAlone now reason)

/-- The job is a live job of the task. -/
def Job.LiveOf (taskId : Uuid) (job : Job) : Prop :=
  job.taskId = taskId ∧ (job.state = .queued ∨ job.state = .running)

instance (taskId : Uuid) (job : Job) : Decidable (job.LiveOf taskId) := by
  unfold Job.LiveOf
  infer_instance

/-- The job as the cancellation of its task leaves it. -/
def Job.cancelledWithTask (now : Timestamp) (reason : String) (job : Job) : Job :=
  { job.unclaimed with
    state := .cancelled
    lastError := some (cancellation "task_cancelled" reason)
    finishedAt := some now }

instance (now : Timestamp) (reason : String) : KeepsKey (Job.cancelledWithTask now reason) :=
  ⟨fun _ => rfl⟩

/-- The running jobs of a task. -/
def Store.runningJobsOf (s : Store) (taskId : Uuid) : List Job :=
  s.jobs.rows.filter fun job => decide (job.LiveOf taskId ∧ job.state = .running)

/-- The release of the resources of several jobs. -/
def releaseAll (reason : String) (jobs : List Job) (s : Store) : Store :=
  jobs.foldl (fun s job => releaseResource job reason none s) s

/-- `cancel_framework_task`. -/
def cancelFrameworkTask (now : Timestamp) (taskId : Uuid) (reason : String) :
    Transaction Store Error Unit :=
  fun s => do
    let task ← requireRow (s.tasks.find? taskId) s!"task not found: {taskId.text}"
    require (task.workflowType = .frameworkSmoke)
      (.conflict "task is not a Framework Smoke workflow")
    if task.state = .cancelled then
      return (s, ())
    else
      require (task.state ∉ [.completed, .rejected])
        (.conflict "terminal Framework Smoke task cannot be cancelled")
      let target ← transitionTask task.state .cancelled
      let s := releaseAll "task_cancelled" (s.runningJobsOf taskId) s
      let jobs := s.jobs.updateWhere (fun job => decide (job.LiveOf taskId))
        (Job.cancelledWithTask now reason)
      let candidates := s.candidates.updateWhere
        (fun candidate => decide (candidate.taskId = taskId ∧ candidate.state ≠ .rejected))
        (Candidate.inState .rejected)
      return (setTaskState taskId target { s with jobs, candidates }, ())

/-- The job as the cancellation of its round leaves it. -/
def Job.cancelledWithRound (now : Timestamp) (reason : String) (job : Job) : Job :=
  { job with
    state := .cancelled
    lastError := some (cancellation "round_cancelled" reason)
    finishedAt := some now }

instance (now : Timestamp) (reason : String) : KeepsKey (Job.cancelledWithRound now reason) :=
  ⟨fun _ => rfl⟩

/-- The round as its cancellation leaves it. -/
def SearchRound.cancel (round : SearchRound) : SearchRound :=
  { round with state := .cancelled, version := round.version + 1 }

instance : KeepsKey SearchRound.cancel := ⟨fun _ => rfl⟩

/-- `cancel_scripted_search_round`: only an idle round is cancelled, with its queued
jobs. -/
def cancelScriptedSearchRound (now : Timestamp) (roundId : Uuid) (reason : String) :
    Transaction Store Error SearchRound :=
  fun s => do
    let round ← requireRow (s.searchRounds.find? roundId)
      s!"M2a SearchRound not found: {roundId.text}"
    require (round.runMode = .scripted) (.conflict "M2a cancel accepts only a Scripted Round")
    if round.state = .cancelled then
      return (s, round)
    else
      require (round.state ∉ [.scriptedCompleted, .completed, .rejected])
        (.conflict "terminal M2a SearchRound cannot be cancelled")
      require (s.roundEvidenceBundles.find? roundId = none)
        (.conflict "M2a Round Evidence exists without a terminal Round state")
      require ((∀ reservation ∈ s.budgetReservations.rows,
            ¬ (reservation.roundId = roundId ∧ reservation.state = .reserved)) ∧
          ∀ job ∈ s.jobs.rows, ¬ (job.taskId = round.taskId ∧ job.state = .running))
        (.conflict "M2a cancel requires running Jobs cleaned and Budget reservations terminal")
      let jobs := s.jobs.updateWhere
        (fun job => decide (job.taskId = round.taskId ∧ job.state = .queued))
        (Job.cancelledWithRound now reason)
      let candidates := s.candidates.updateWhere
        (fun candidate => decide (candidate.roundId = roundId ∧
          candidate.state ∉ [.rejected, .buildFailed]))
        (Candidate.inState .rejected)
      let searchRounds := s.searchRounds.update roundId SearchRound.cancel
      return (setTaskState round.taskId .cancelled { s with jobs, candidates, searchRounds },
        round.cancel)

end HcuAutoOpt
