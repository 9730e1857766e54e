import HcuAutoOpt.Queue.Moves

/-!
# Leases of scoped jobs

A job asks for a resource by its lease scope. What a job row records of its lease fits its
scope and its worker type along every run, so a scoped job that runs on a worker with
accelerators holds a lease, and no other job does.
-/

set_option autoImplicit false

namespace HcuAutoOpt

open Foundation

/-! ## Whole runs -/

/-- Every job of a run from an empty queue fits its lease. -/
theorem leaseFits_of_steps {driver : Driver} {s₀ s : Store} {trace : List QueueEvent}
    (noJobs : s₀.jobs = ∅) (run : Steps (QueueStep driver) s₀ trace s) {jobId : Uuid} {job : Job}
    (found : s.jobs.find? jobId = some job) : job.LeaseFits := by
  refine run.invariant (I := fun s => ∀ jobId job, s.jobs.find? jobId = some job → job.LeaseFits)
    ?_ ?_ jobId job found
  · intro t event t' fits step jobId job' found'
    have moves := jobsMove_of_step step
    cases known : t.jobs.find? jobId with
    | none => exact (moves.added jobId job' known found').1.leaseFits
    | some job =>
        obtain ⟨moved, found, request, move⟩ := moves.moved jobId job known
        rw [found] at found'
        cases found'
        exact move.leaseFits request (fits jobId job known)
  · intro jobId job found
    simp [noJobs] at found

/-- **Scoped jobs of accelerator workers hold a lease.** In every state of a run from an empty
queue, a running job that asks for a resource and is accepted by workers with accelerators names
a resource that is active and owned by it; and a claim never hands out such a job without a
resource. Any other job runs without a resource, whatever its scope. -/
theorem scoped_jobs_leased (driver : Driver) {s₀ s : Store} {trace : List QueueEvent}
    (noJobs : s₀.jobs = ∅) (noResources : s₀.resources = ∅)
    (run : Steps (QueueStep driver) s₀ trace s) :
    (∀ job ∈ s.jobs, job.state = .running → job.Scoped → job.acceptedWorkerType = .gpu →
      ∃ resource ∈ s.resources, job.resourceId = some resource.resourceId ∧
        resource.state = .active ∧ resource.ownerJobId = some job.jobId) ∧
    (∀ now claimToken leaseId locks workerId t row,
      claimJob now claimToken leaseId locks workerId s = .ok (t, some row) →
        row.Scoped → row.acceptedWorkerType = .gpu → row.resourceId ≠ none) ∧
    (∀ job ∈ s.jobs, job.state = .running → ¬(job.Scoped ∧ job.acceptedWorkerType = .gpu) →
      job.resourceId = none) := by
  have fits : ∀ job ∈ s.jobs, job.LeaseFits := fun job member =>
    leaseFits_of_steps noJobs run (Table.find?_of_mem member)
  refine ⟨?_, ?_, ?_⟩
  · intro job member running isScoped accelerated
    have leased := ((fits job member).running running).mpr ⟨accelerated, isScoped⟩
    obtain ⟨resourceId, named⟩ := Option.ne_none_iff_exists'.mp leased
    obtain ⟨resource, inTable, rfl, on⟩ :=
      (leaseInvariant_of_steps noJobs noResources run).held job member running resourceId named
    exact ⟨resource, inTable, on.named, on.active, on.owner⟩
  · intro now claimToken leaseId locks workerId t row ok isScoped accelerated
    obtain ⟨fitting, running⟩ := claimJob_leases ok
    exact (fitting.running running).mpr ⟨accelerated, isScoped⟩
  · intro job member running other
    by_contra leased
    have wants := ((fits job member).running running).mp leased
    exact other ⟨wants.2, wants.1⟩

/-- After its claim the profiling job of `leasingCalls` names an active resource. -/
theorem scoped_jobs_leased_profile :
    let s := runCalls textDriver leasingCalls (oneTask .optimization .profiling)
    ∃ job ∈ s.jobs, job.state = .running ∧ job.Scoped ∧
      ∃ resource ∈ s.resources, job.resourceId = some resource.resourceId ∧
        resource.state = .active ∧ resource.ownerJobId = some job.jobId := by
  intro s
  have leased := scoped_jobs_leased textDriver rfl rfl
    (steps_runCalls textDriver leasingCalls (oneTask .optimization .profiling))
  have running : ∃ job ∈ s.jobs.rows, job.state = .running ∧ job.Scoped ∧
      job.acceptedWorkerType = .gpu := by
    decide
  obtain ⟨job, member, isRunning, isScoped, accelerated⟩ := running
  exact ⟨job, member, isRunning, isScoped, leased.1 job member isRunning isScoped accelerated⟩

/-- A build job that asks for a resource of its own, and a build worker that claims it. -/
def unleasedCalls : List QueueCall :=
  [.registerWorker { workerId := "build-0", workerType := .build },
    .enqueueJob 0 10
      { taskId := 1, jobType := .build, acceptedWorkerType := .build,
        idempotencyKey := "build:exclusive", leaseScope := .exclusive,
        maxAttempts_range := maxAttempts_default },
    .claimJob 1 20 30 {} "build-0"]

/-- A scoped job runs without a resource on a worker without accelerators. -/
theorem scoped_build_unleased :
    ∃ trace s, Steps (QueueStep textDriver) (oneTask .optimization .profiling) trace s ∧
      ∃ job ∈ s.jobs.rows, job.state = .running ∧ job.Scoped ∧ job.resourceId = none :=
  ⟨_, _, steps_runCalls textDriver unleasedCalls (oneTask .optimization .profiling), by decide⟩

end HcuAutoOpt
