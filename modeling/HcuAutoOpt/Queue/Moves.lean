import HcuAutoOpt.Queue.Leases

/-!
# The moves of a job

A job row moves in six ways (`JobMove`): it is left alone, claimed, completed, requeued,
ended, or cancelled before it is claimed. Each move says what becomes of the claim of the job
and of the lease it records. Every accepted call moves every job in one of them, and the only
job a claim moves is the one it hands out (`jobsMove_of_run`). What holds of jobs over whole
runs follows from this alone.

A claim takes a lease for a scoped job when the worker that claims it is one with accelerators,
and for no other (`claimJob_leases`), so what a job row records of its lease fits its scope and
its worker type (`Job.LeaseFits`), and every move keeps that.
-/

set_option autoImplicit false

namespace HcuAutoOpt

open Foundation

/-! ## What a job row records of its lease -/

/-- The job asks for a resource. -/
def Job.Scoped (job : Job) : Prop := job.leaseScope = .shared ∨ job.leaseScope = .exclusive

instance (job : Job) : Decidable job.Scoped := by
  unfold Job.Scoped
  infer_instance

/-- A job has a token when it has a resource, and a running job has a resource when it is
scoped and runs on a worker with accelerators. -/
structure Job.LeaseFits (job : Job) : Prop where
  token : job.resourceId = none ↔ job.fencingToken = none
  running : job.state = .running →
    (job.resourceId ≠ none ↔ job.acceptedWorkerType = .gpu ∧ job.Scoped)

/-- A job that does not run fits when it has the resource and the token of one that does. -/
theorem Job.LeaseFits.stopped {job job' : Job} (fits : job.LeaseFits)
    (resource : job'.resourceId = job.resourceId) (token : job'.fencingToken = job.fencingToken)
    (stopped : job'.state ≠ .running) : job'.LeaseFits where
  token := by rw [resource, token]; exact fits.token
  running running := absurd running stopped

/-- A job without a lease that does not run. -/
theorem Job.LeaseFits.released {job : Job} (resource : job.resourceId = none)
    (token : job.fencingToken = none) (stopped : job.state ≠ .running) : job.LeaseFits where
  token := ⟨fun _ => token, fun _ => resource⟩
  running running := absurd running stopped

/-- **A claim leases by worker type and scope.** The job that a claim hands out has a
resource exactly when it is scoped and the claiming worker is one with accelerators. -/
theorem claimJob_leases {now : Timestamp} {claimToken leaseId : Uuid} {locks : Locks}
    {workerId : String} {s s' : Store} {row : Job}
    (ok : claimJob now claimToken leaseId locks workerId s = .ok (s', some row)) :
    row.LeaseFits ∧ row.state = .running := by
  obtain ⟨worker, -, ok⟩ := Except.bind_eq_ok.mp ok
  have picked : ∀ {job : Job} {lease : Option Lease},
      claimPicked now workerId claimToken job lease s = .ok (s', some row) →
        row = job.claimed now workerId claimToken lease := by
    intro job lease ok
    obtain ⟨t, -, ok⟩ := Except.bind_eq_ok.mp ok
    cases ok
    rfl
  split at ok
  · cases ok
  · rename_i job next
    obtain ⟨-, claimable⟩ := Store.nextJob?_eq_some next
    have worker' : job.acceptedWorkerType = worker.workerType := claimable.2.2.1
    split at ok
    · rename_i isScoped
      obtain ⟨requested, -, ok⟩ := Except.bind_eq_ok.mp ok
      split at ok
      · cases ok
      · have same := picked ok
        subst same
        exact ⟨⟨by simp [Job.claimed], fun _ =>
          ⟨fun _ => ⟨worker'.trans isScoped.1, isScoped.2⟩, fun _ => by simp [Job.claimed]⟩⟩, rfl⟩
    · rename_i unscoped
      have same := picked ok
      subst same
      refine ⟨⟨⟨fun _ => rfl, fun _ => rfl⟩, fun _ => ⟨fun leased => absurd rfl leased,
        fun wants => ?_⟩⟩, rfl⟩
      exact absurd ⟨worker'.symm.trans wants.1, wants.2⟩ unscoped

/-! ## The moves of a job -/

/-- The job a step claimed, with the token the claim drew. -/
def QueueEvent.claimOf : QueueEvent → Option (Uuid × Uuid)
  | .call (.claimJob _ claimToken _ _ _) (.ok (some row)) => some (row.jobId, claimToken)
  | _ => none

/-- The row has the claim and the lease it had. -/
structure Job.SameClaim (job job' : Job) : Prop where
  claimToken : job'.claimToken = job.claimToken
  resourceId : job'.resourceId = job.resourceId
  fencingToken : job'.fencingToken = job.fencingToken

/-- The row has no claim and no lease. -/
structure Job.Unheld (job : Job) : Prop where
  claimToken : job.claimToken = none
  resourceId : job.resourceId = none
  fencingToken : job.fencingToken = none

/-- How one step moves a job row, where `claim` is the job it claimed with the token. -/
inductive JobMove (claim : Option (Uuid × Uuid)) (job job' : Job) : Prop
  | kept (other : claim.map Prod.fst ≠ some job.jobId) (state : job'.state = job.state)
      (attempts : job'.attempts = job.attempts) (same : job.SameClaim job')
      (frozen : job.state ≠ .running →
        ∃ advanced, job' = { job with workflowAdvancedAt := advanced })
  | claimed (claimToken : Uuid) (this : claim = some (job.jobId, claimToken))
      (queued : job.state = .queued) (running : job'.state = .running)
      (attempts : job'.attempts = job.attempts + 1)
      (token : job'.claimToken = some claimToken) (leased : job'.LeaseFits)
  | completed (other : claim = none) (running : job.state = .running)
      (succeeded : job'.state = .succeeded) (attempts : job'.attempts = job.attempts)
      (same : job.SameClaim job')
  | requeued (other : claim = none) (running : job.state = .running)
      (queued : job'.state = .queued) (budget : job.attempts < job.maxAttempts)
      (attempts : job'.attempts = job.attempts) (unheld : job'.Unheld)
  | ended (other : claim = none) (live : job.state = .queued ∨ job.state = .running)
      (isOver : job'.state = .failed ∨ job'.state = .cancelled)
      (attempts : job'.attempts = job.attempts) (unheld : job'.Unheld)
  | dropped (other : claim = none) (queued : job.state = .queued)
      (cancelled : job'.state = .cancelled) (attempts : job'.attempts = job.attempts)
      (same : job.SameClaim job')

/-- A row as it is inserted: queued and never claimed. -/
structure Job.New (job : Job) : Prop where
  queued : job.state = .queued
  attempts : job.attempts = 0
  budget : 1 ≤ job.maxAttempts
  unheld : job.Unheld

theorem Job.New.leaseFits {job : Job} (new : job.New) : job.LeaseFits :=
  .released new.unheld.resourceId new.unheld.fencingToken (by simp [new.queued])

/-- What a job row is submitted with and never loses. -/
structure Job.SameRequest (job job' : Job) : Prop where
  taskId : job'.taskId = job.taskId
  jobType : job'.jobType = job.jobType
  acceptedWorkerType : job'.acceptedWorkerType = job.acceptedWorkerType
  leaseScope : job'.leaseScope = job.leaseScope
  payload : job'.payload = job.payload
  maxAttempts : job'.maxAttempts = job.maxAttempts

/-- Every job is moved, and every other row is a new one of a known task. -/
structure JobsMove (claim : Option (Uuid × Uuid)) (s s' : Store) : Prop where
  moved : ∀ jobId job, s.jobs.find? jobId = some job →
    ∃ job', s'.jobs.find? jobId = some job' ∧ job.SameRequest job' ∧ JobMove claim job job'
  added : ∀ jobId job', s.jobs.find? jobId = none → s'.jobs.find? jobId = some job' →
    job'.New ∧ s'.tasks.find? job'.taskId ≠ none
  known : ∀ jobId, claim.map Prod.fst = some jobId → s.jobs.find? jobId ≠ none

theorem JobMove.refl {claim : Option (Uuid × Uuid)} {job : Job}
    (other : claim.map Prod.fst ≠ some job.jobId) : JobMove claim job job :=
  .kept other rfl rfl ⟨rfl, rfl, rfl⟩ fun _ => ⟨job.workflowAdvancedAt, rfl⟩

theorem Job.SameRequest.refl (job : Job) : job.SameRequest job := ⟨rfl, rfl, rfl, rfl, rfl, rfl⟩

namespace JobsMove

variable {s s' : Store} {claim : Option (Uuid × Uuid)}

theorem of_same (jobs : s'.jobs = s.jobs) : JobsMove none s s' where
  moved jobId job found := ⟨job, jobs ▸ found, .refl job, .refl (by simp)⟩
  added jobId job' absent found := by
    rw [jobs, absent] at found
    cases found
  known jobId none := by simp at none

theorem of_otherWork (work : OtherWork s s') : JobsMove none s s' where
  moved jobId job found := by
    obtain ⟨advanced, kept⟩ := work.jobs jobId job found
    exact ⟨_, kept, ⟨rfl, rfl, rfl, rfl, rfl, rfl⟩,
      .kept (by simp) rfl rfl ⟨rfl, rfl, rfl⟩ fun _ => ⟨advanced, rfl⟩⟩
  added jobId row absent found := by
    obtain ⟨⟨request, now, same⟩, taskKnown⟩ := work.added jobId row absent found
    refine ⟨?_, taskKnown⟩
    rw [same]
    exact ⟨rfl, rfl, request.maxAttempts_range.1, ⟨rfl, rfl, rfl⟩⟩
  known jobId none := by simp at none

/-- A rewrite moves jobs when it moves each chosen one and the claim is not of another. -/
theorem of_updateWhere {p : Job → Bool} {f : Job → Job} [KeepsKey f]
    (jobs : s'.jobs = s.jobs.updateWhere p f)
    (chosen : ∀ job ∈ s.jobs, p job = true →
      job.SameRequest (f job) ∧ JobMove claim job (f job))
    (others : ∀ job ∈ s.jobs, p job ≠ true → claim.map Prod.fst ≠ some job.jobId)
    (known : ∀ jobId, claim.map Prod.fst = some jobId → s.jobs.find? jobId ≠ none) :
    JobsMove claim s s' where
  moved jobId job found := by
    have member := Table.mem_of_find? found
    refine ⟨if p job then f job else job, ?_, ?_⟩
    · rw [jobs, Table.find?_updateWhere, found]
      rfl
    · by_cases picked : p job = true
      · rw [if_pos picked]
        exact chosen job member picked
      · rw [if_neg picked]
        exact ⟨.refl job, .refl (others job member picked)⟩
  added jobId job' absent found := by
    rw [jobs, Table.find?_updateWhere, absent] at found
    cases found
  known := known

/-- A rewrite by a call that claims nothing. -/
theorem of_updateWhere_none {p : Job → Bool} {f : Job → Job} [KeepsKey f]
    (jobs : s'.jobs = s.jobs.updateWhere p f)
    (chosen : ∀ job ∈ s.jobs, p job = true →
      job.SameRequest (f job) ∧ JobMove none job (f job)) :
    JobsMove none s s' :=
  of_updateWhere jobs chosen (fun _ _ _ => by simp) (fun _ none => by simp at none)

/-- A rewrite of one job by a call that claims nothing. -/
theorem of_update {jobId : Uuid} {job : Job} {f : Job → Job} [KeepsKey f]
    (found : s.jobs.find? jobId = some job) (jobs : s'.jobs = s.jobs.update jobId f)
    (request : job.SameRequest (f job)) (move : JobMove none job (f job)) :
    JobsMove none s s' := by
  refine of_updateWhere_none jobs fun other member same => ?_
  have sameKey : key other = jobId := of_decide_eq_true same
  have isJob : other = job :=
    Option.some.inj ((Table.find?_of_mem member).symm.trans (sameKey ▸ found))
  exact isJob ▸ ⟨request, move⟩

end JobsMove

/-- A recovery requeues a running job that may be tried again, and ends any other one. -/
theorem JobMove.afterRecovery {job : Job} (now : Timestamp) (running : job.state = .running) :
    JobMove none job (job.afterRecovery now) := by
  by_cases budget : job.attempts < job.maxAttempts
  · exact .requeued rfl running (by simp [Job.afterRecovery, budget]) budget rfl ⟨rfl, rfl, rfl⟩
  · exact .ended rfl (.inr running) (.inl (by simp [Job.afterRecovery, budget])) rfl
      ⟨rfl, rfl, rfl⟩

/-- The jobs after a batch is recovered: those of the batch are recovered, the others are
as they were. -/
theorem find?_recoverAll {driver : Driver} {now : Timestamp} {batch : List Job} {s s' : Store}
    (ok : batch.foldlM (recoverJob driver now) s = .ok s')
    (distinct : (batch.map Job.jobId).Nodup) (jobId : Uuid) :
    s'.jobs.find? jobId =
      if jobId ∈ batch.map Job.jobId then (s.jobs.find? jobId).map (Job.afterRecovery now)
      else s.jobs.find? jobId := by
  induction batch generalizing s with
  | nil =>
      cases ok
      rfl
  | cons job batch ih =>
      rw [List.foldlM_cons] at ok
      obtain ⟨t, recovered, ok⟩ := Except.bind_eq_ok.mp ok
      rw [List.map_cons, List.nodup_cons] at distinct
      rw [ih ok distinct.2, (recoverJob_effect recovered).jobs, List.map_cons]
      by_cases same : jobId = job.jobId
      · subst same
        simp [distinct.1]
      · simp [same]

/-- Every accepted call moves every job in one of the six ways. -/
theorem jobsMove_of_run {driver : Driver} {call : QueueCall} {s s' : Store}
    {reply : Option Job} (ok : call.run driver s = .ok (s', reply)) :
    JobsMove (QueueEvent.call call (.ok reply)).claimOf s s' := by
  cases call with
  | registerWorker request =>
      obtain ⟨row, ok, -⟩ := unobserved_eq_ok ok
      exact .of_same (registerWorker_effect ok).2.1
  | enqueueJob now jobId request =>
      obtain ⟨row, ok, -⟩ := observed_eq_ok ok
      rcases enqueueJob_effect ok with ⟨rfl, -, -⟩ | ⟨-, taskKnown, absent, rfl, rfl⟩
      · exact .of_same rfl
      · refine ⟨fun known job found => ?_, fun other row unknown found => ?_,
          by simp [QueueEvent.claimOf]⟩
        · exact ⟨job, Table.find?_insertIfAbsent_of_some found, .refl job,
            .refl (by simp [QueueEvent.claimOf])⟩
        · rw [Table.find?_insertIfAbsent, unknown] at found
          by_cases same : jobId = other
          · have inserted : row = request.row now jobId := by
              simpa [JobCreate.row, same] using found.symm
            subst inserted
            exact ⟨⟨rfl, rfl, request.maxAttempts_range.1, ⟨rfl, rfl, rfl⟩⟩, taskKnown⟩
          · simp [JobCreate.row, same] at found
  | claimJob now claimToken leaseId locks workerId =>
      have leases := @claimJob_leases now claimToken leaseId locks workerId s s'
      rcases claimJob_effect ok with ⟨rfl, rfl⟩ | ⟨worker, job, lease, -, member, claimable, -,
        rfl, jobs, -, -⟩
      · exact .of_same rfl
      · have claim : (QueueEvent.call (.claimJob now claimToken leaseId locks workerId)
            (.ok (some (job.claimed now workerId claimToken lease)))).claimOf =
            some (job.jobId, claimToken) := rfl
        rw [claim]
        refine .of_updateWhere jobs ?_ ?_ ?_
        · intro other inJobs same
          have isJob : other = job := Table.eq_of_key_eq inJobs member (of_decide_eq_true same)
          subst isJob
          exact ⟨⟨rfl, rfl, rfl, rfl, rfl, rfl⟩,
            .claimed claimToken rfl claimable.1 rfl rfl rfl (leases ok).1⟩
        · intro other inJobs different same
          simp only [Option.map_some, Option.some.injEq] at same
          exact different (decide_eq_true same.symm)
        · intro jobId same
          simp only [Option.map_some, Option.some.injEq] at same
          subst same
          rw [show s.jobs.find? job.jobId = some job from Table.find?_of_mem member]
          simp
  | heartbeatJob now workerId jobId claimToken fencingToken =>
      obtain ⟨u, ok, -⟩ := unobserved_eq_ok ok
      obtain ⟨job, owner, -, rfl⟩ := heartbeatJob_effect ok
      obtain ⟨found, running, -, -⟩ := assertJobOwner_effect owner
      exact .of_update found rfl ⟨rfl, rfl, rfl, rfl, rfl, rfl⟩
        (.kept (by simp) rfl rfl ⟨rfl, rfl, rfl⟩ fun idle => absurd running idle)
  | completeJob now jobId claimToken fencingToken result =>
      obtain ⟨row, ok, -⟩ := observed_eq_ok ok
      rcases completeJob_effect ok with ⟨rfl, -⟩ | ⟨job, owner, -, rfl⟩
      · exact .of_same rfl
      · obtain ⟨found, running, -, -⟩ := assertJobOwner_effect owner
        exact .of_update found rfl ⟨rfl, rfl, rfl, rfl, rfl, rfl⟩
          (.completed rfl running rfl rfl ⟨rfl, rfl, rfl⟩)
  | failJob now jobId claimToken fencingToken error retryable cleanupEvidence =>
      obtain ⟨row, ok, -⟩ := observed_eq_ok ok
      obtain ⟨job, retry, owner, budget, -, converged⟩ := failJob_effect ok
      have same := convergeUnlessRetried_sameQueue converged
      obtain ⟨found, running, -, -⟩ := assertJobOwner_effect owner
      refine .of_update found same.jobs ⟨rfl, rfl, rfl, rfl, rfl, rfl⟩ ?_
      cases retry with
      | true => exact .requeued rfl running rfl (budget rfl) rfl ⟨rfl, rfl, rfl⟩
      | false => exact .ended rfl (.inr running) (.inl rfl) rfl ⟨rfl, rfl, rfl⟩
  | recoverStaleJobs now staleAfterSeconds locks =>
      obtain ⟨recovered, ok, -⟩ := unobserved_eq_ok ok
      have lookup := find?_recoverAll (recoverStaleJobs_effect ok).1
        (s.staleJobs_distinct now staleAfterSeconds locks)
      refine ⟨fun jobId job found => ?_, fun jobId job absent found => ?_,
        by simp [QueueEvent.claimOf]⟩
      · by_cases inBatch : jobId ∈ (s.staleJobs now staleAfterSeconds locks).map Job.jobId
        · refine ⟨job.afterRecovery now, by rw [lookup, if_pos inBatch, found]; rfl,
            ⟨rfl, rfl, rfl, rfl, rfl, rfl⟩, ?_⟩
          obtain ⟨stale, inside, rfl⟩ := List.mem_map.mp inBatch
          obtain ⟨member, isStale, -⟩ := Store.mem_staleJobs.mp inside
          have same : stale = job := Option.some.inj ((Table.find?_of_mem member).symm.trans found)
          exact .afterRecovery now (same ▸ isStale.1)
        · exact ⟨job, by rw [lookup, if_neg inBatch, found], .refl job,
            .refl (by simp [QueueEvent.claimOf])⟩
      · rw [lookup, absent] at found
        split at found <;> cases found
  | cancelJob now jobId reason =>
      obtain ⟨row, ok, -⟩ := observed_eq_ok ok
      obtain ⟨job, found, ⟨-, rfl, -⟩ | ⟨live, -, ended⟩⟩ := cancelJob_effect ok
      · exact .of_same rfl
      · have same : SameQueue _ s' :=
          ended ▸ failEndpointAdjudicationAfterJobFailure_sameQueue job _
        refine .of_update found same.jobs ⟨rfl, rfl, rfl, rfl, rfl, rfl⟩
          (.ended rfl ?_ (.inr rfl) rfl ⟨rfl, rfl, rfl⟩)
        cases state : job.state <;> simp [state] at live ⊢
  | cancelFrameworkTask now taskId reason =>
      obtain ⟨u, ok, -⟩ := unobserved_eq_ok ok
      rcases cancelFrameworkTask_effect ok with ⟨rfl, -⟩ | ⟨-, jobs, -⟩
      · exact .of_same rfl
      · refine .of_updateWhere_none jobs fun job _ live =>
          ⟨⟨rfl, rfl, rfl, rfl, rfl, rfl⟩, ?_⟩
        exact .ended rfl (of_decide_eq_true live).2 (.inr rfl) rfl ⟨rfl, rfl, rfl⟩
  | cancelScriptedSearchRound now roundId reason =>
      obtain ⟨row, ok, -⟩ := unobserved_eq_ok ok
      rcases cancelScriptedSearchRound_effect ok with rfl | ⟨taskId, -, jobs, -⟩
      · exact .of_same rfl
      · refine .of_updateWhere_none jobs fun job _ chosen =>
          ⟨⟨rfl, rfl, rfl, rfl, rfl, rfl⟩, ?_⟩
        exact .dropped rfl (of_decide_eq_true chosen).2 rfl rfl ⟨rfl, rfl, rfl⟩
  | reportResourceCleanup resourceId fencingToken cleanupEvidence =>
      obtain ⟨row, ok, -⟩ := unobserved_eq_ok ok
      obtain ⟨resource, -, -, -, rfl⟩ := reportResourceCleanup_effect ok
      exact .of_same rfl

/-- Every step moves every job in one of the six ways. -/
theorem jobsMove_of_step {driver : Driver} {s s' : Store} {event : QueueEvent}
    (step : QueueStep driver s event s') : JobsMove event.claimOf s s' := by
  rcases step.cases_on_reply with ⟨call, e, rfl, rfl⟩ | ⟨call, reply, rfl, ok⟩ | ⟨rfl, work⟩
  · have none : (QueueEvent.call call (.error e)).claimOf = Option.none := by
      unfold QueueEvent.claimOf
      split
      · rename_i same
        cases same
      · rfl
    rw [none]
    exact .of_same rfl
  · exact jobsMove_of_run ok
  · exact .of_otherWork work

/-! ## What a move keeps -/

/-- Every move keeps the lease fitting. -/
theorem JobMove.leaseFits {claim : Option (Uuid × Uuid)} {job job' : Job}
    (move : JobMove claim job job') (request : job.SameRequest job') (fits : job.LeaseFits) :
    job'.LeaseFits := by
  cases move with
  | kept _ state _ same _ =>
      refine ⟨by rw [same.resourceId, same.fencingToken]; exact fits.token, fun running => ?_⟩
      rw [same.resourceId, Job.Scoped, request.acceptedWorkerType, request.leaseScope]
      exact fits.running (state ▸ running)
  | claimed _ _ _ _ _ _ leased => exact leased
  | completed _ _ succeeded _ same =>
      exact fits.stopped same.resourceId same.fencingToken (by simp [succeeded])
  | requeued _ _ queued _ _ unheld =>
      exact .released unheld.resourceId unheld.fencingToken (by simp [queued])
  | ended _ _ isOver _ unheld =>
      refine .released unheld.resourceId unheld.fencingToken ?_
      rcases isOver with state | state <;> simp [state]
  | dropped _ _ cancelled _ same =>
      exact fits.stopped same.resourceId same.fencingToken (by simp [cancelled])

/-- The job has succeeded, failed or been cancelled. -/
def Job.Ended (job : Job) : Prop :=
  job.state = .succeeded ∨ job.state = .failed ∨ job.state = .cancelled

/-- A job that has ended is at most marked advanced. -/
theorem JobMove.frozen {claim : Option (Uuid × Uuid)} {job job' : Job}
    (move : JobMove claim job job') (isOver : job.Ended) :
    ∃ advanced, job' = { job with workflowAdvancedAt := advanced } := by
  have notLive : ¬ (job.state = .queued ∨ job.state = .running) := by
    rcases isOver with state | state | state <;> simp [state]
  cases move with
  | kept _ _ _ _ frozen => exact frozen fun running => notLive (.inr running)
  | claimed _ _ queued => exact absurd (.inl queued) notLive
  | completed _ running => exact absurd (.inr running) notLive
  | requeued _ running => exact absurd (.inr running) notLive
  | ended _ live => exact absurd live notLive
  | dropped _ queued => exact absurd (.inl queued) notLive

/-- A run leaves a job that has ended as it is, and at most marks it advanced. -/
theorem frozen_of_steps {driver : Driver} {trace : List QueueEvent} {s s' : Store}
    (run : Steps (QueueStep driver) s trace s') {jobId : Uuid} {job : Job}
    (found : s.jobs.find? jobId = some job) (isOver : job.Ended) :
    ∃ advanced, s'.jobs.find? jobId = some { job with workflowAdvancedAt := advanced } := by
  refine run.invariant (I := fun t => ∃ advanced,
    t.jobs.find? jobId = some { job with workflowAdvancedAt := advanced }) ?_ ⟨_, found⟩
  rintro t event t' ⟨advanced, found⟩ step
  obtain ⟨job', found', -, move⟩ := (jobsMove_of_step step).moved jobId _ found
  obtain ⟨advanced', same⟩ := move.frozen isOver
  exact ⟨advanced', same ▸ found'⟩

end HcuAutoOpt
