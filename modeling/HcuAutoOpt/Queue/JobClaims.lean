import HcuAutoOpt.Queue.ScopedLeases
import HcuAutoOpt.Foundation.Ranking

/-!
# When a worker is given a job

`claim_job` commits to the first job the worker may be handed, by priority and age. When that
job needs a resource and none is free, the claim gives up; when it is an adjudication whose
campaign does not wait for it, the claim raises. So the outcome of a claim is decided by this
one head job (`claimJob_of_head`).

A claim hands out a job whenever one can run exactly when the head job does not block the queue
(`job_claim_completes_iff`). Anyone may submit an adjudication job, which then stops every
worker that it is accepted by (`stray_adjudication_blocks`).
-/

set_option autoImplicit false

namespace HcuAutoOpt

open Foundation

/-! ## What can run -/

/-- The worker takes the job with a lease on a resource. -/
def Worker.Leases (worker : Worker) (job : Job) : Prop :=
  worker.workerType = .gpu ∧ job.Scoped

instance Worker.decidableLeases (worker : Worker) (job : Job) : Decidable (worker.Leases job) :=
  inferInstanceAs (Decidable (_ = _ ∧ (_ ∨ _)))

/-- The worker may use the resource: its capabilities name this one, or none. -/
def Worker.MayUse (worker : Worker) (resource : Resource) : Prop :=
  ∀ named ∈ worker.capabilities.value? "resource_id", named.truthy = true →
    resource.resourceId = named.text

/-- A resource the worker may use is available. -/
def Store.ResourceFree (s : Store) (worker : Worker) : Prop :=
  ∃ resource ∈ s.resources, resource.state = .available ∧ worker.MayUse resource

/-- The job is queued, due and fit for the worker, and a resource is there if it needs one. -/
structure Store.Runnable (s : Store) (worker : Worker) (now : Timestamp) (job : Job) : Prop where
  stored : job ∈ s.jobs
  claimable : job.ClaimableBy worker now
  served : worker.Leases job → s.ResourceFree worker

/-- The first of the jobs the worker may be handed: none is before it in the order of priority
and age, and of those that are as urgent it is stored first. -/
def Store.HeadJob (s : Store) (worker : Worker) (now : Timestamp) (job : Job) : Prop :=
  ∃ earlier later,
    s.jobs.rows.filter (fun job => decide (job.ClaimableBy worker now)) =
      earlier ++ job :: later ∧
    (∀ other ∈ earlier, ¬other.Before job) ∧ ∀ other ∈ later, job.Before other

/-- The capabilities of the worker name its resource as a text, if they name one. -/
def Worker.NamesText (worker : Worker) : Prop :=
  ∀ named ∈ worker.capabilities.value? "resource_id", named.truthy = true →
    ∃ resourceId, named = .str resourceId

/-- Exactly one campaign waits for the adjudication job. -/
def Store.AwaitedOnce (s : Store) (job : Job) : Prop :=
  (s.endpointCampaigns.rows.filter (EndpointValidationCampaign.awaits job.jobId)).length = 1

/-- **The head job does not block the queue.** If it needs a resource, the worker names its
resource as a text; if none is free, no other job could run without one; and if the job can run
and is an adjudication, one campaign waits for it. -/
structure Store.HeadPasses (s : Store) (worker : Worker) (now : Timestamp) (job : Job) :
    Prop where
  named : worker.Leases job → worker.NamesText
  waits : worker.Leases job → ¬s.ResourceFree worker →
    ∀ other ∈ s.jobs, other.ClaimableBy worker now → worker.Leases other
  awaited : (worker.Leases job → s.ResourceFree worker) → job.jobType = .endpointAdjudicate →
    s.AwaitedOnce job

/-! ## The order of the queue -/

instance : Std.Total Job.Before where
  total first second := by
    have total : ∀ a b m n : Int, (b < a ∨ a = b ∧ m ≤ n) ∨ (a < b ∨ b = a ∧ n ≤ m) := by omega
    exact total _ _ _ _

instance : IsTrans Job Job.Before where
  trans first second third before after := by
    have trans : ∀ a b c l m n : Int, (b < a ∨ a = b ∧ l ≤ m) → (c < b ∨ b = c ∧ m ≤ n) →
        (c < a ∨ a = c ∧ l ≤ n) := by omega
    exact trans _ _ _ _ _ _ before after

section Heads

variable {s : Store} {worker : Worker} {now : Timestamp} {job : Job}

/-- The job a claim picks is the head job. -/
theorem nextJob?_eq_some_iff : s.nextJob? worker now {} = some job ↔ s.HeadJob worker now job := by
  rw [Store.nextJob?, head?_insertionSort_eq_some]
  simp only [Bool.not_false, Bool.and_true, Store.HeadJob]

theorem Store.HeadJob.member (head : s.HeadJob worker now job) :
    job ∈ s.jobs ∧ job.ClaimableBy worker now :=
  Store.nextJob?_eq_some (nextJob?_eq_some_iff.mpr head)

/-- A claim that picks no job has no job to pick. -/
theorem not_claimable_of_headless (headless : s.nextJob? worker now {} = none) (job : Job)
    (member : job ∈ s.jobs) : ¬job.ClaimableBy worker now := by
  intro claimable
  rw [Store.nextJob?, List.head?_eq_none_iff] at headless
  have sorted := (List.perm_insertionSort Job.Before (s.jobs.rows.filter fun job =>
    decide (job.ClaimableBy worker now) && !false)).mem_iff (a := job)
  rw [headless, List.mem_filter] at sorted
  exact absurd (sorted.mpr ⟨member, by simp [claimable]⟩) List.not_mem_nil

end Heads

/-! ## The resource of a claim -/

section Resources

variable {s : Store} {worker : Worker}

/-- A worker that names its resource as a text, or none, asks for the resources it may use. -/
theorem requestedResource_of_namesText (named : worker.NamesText) :
    ∃ requested, worker.requestedResource = .ok requested ∧
      ∀ resource, worker.MayUse resource ↔ ∀ resourceId ∈ requested,
        resource.resourceId = resourceId := by
  unfold Worker.requestedResource
  cases value : worker.capabilities.value? "resource_id" with
  | none => exact ⟨none, rfl, fun resource => by simp [Worker.MayUse, value]⟩
  | some other =>
      by_cases truthy : other.truthy = true
      · obtain ⟨resourceId, rfl⟩ := named other value truthy
        have present : resourceId ≠ "" := by simpa [Json.truthy] using truthy
        refine ⟨some resourceId, by simp [present], fun resource => ?_⟩
        simp [Worker.MayUse, value, truthy, Json.text]
      · refine ⟨none, ?_, fun resource => by simp [Worker.MayUse, value, truthy]⟩
        cases other with
        | str resourceId => simpa [Json.truthy] using truthy
        | _ => simp [truthy]

theorem requestedResource_of_not_namesText (unreadable : ¬worker.NamesText) :
    ∃ e, worker.requestedResource = .error e := by
  simp only [Worker.NamesText, Classical.not_forall] at unreadable
  obtain ⟨named, value, truthy, noText⟩ := unreadable
  unfold Worker.requestedResource
  rw [Option.mem_def.mp value]
  cases named with
  | str resourceId => exact absurd ⟨resourceId, rfl⟩ noText
  | _ => simp [truthy]

/-- A claim finds a resource when one the worker asks for is available. -/
theorem availableResource?_isSome {requested : Option String} :
    (s.availableResource? requested {}).isSome ↔
      ∃ resource ∈ s.resources, resource.state = .available ∧
        ∀ resourceId ∈ requested, resource.resourceId = resourceId := by
  have free : ∀ resource, resource ∈ (s.resources.rows.filter fun resource =>
      decide (resource.state = .available) && !false) ↔
        resource ∈ s.resources ∧ resource.state = .available := by
    intro resource
    simp [Table.mem_rows]
  unfold Store.availableResource?
  cases requested with
  | some resourceId =>
      simp only [List.find?_isSome, free, decide_eq_true_eq, Option.mem_def, Option.some.injEq,
        forall_eq', and_assoc]
  | none =>
      simp only [List.isSome_head?, ne_eq, List.eq_nil_iff_forall_not_mem, List.mem_insertionSort,
        free, not_forall, not_not, Option.mem_def, reduceCtorEq, false_implies, implies_true,
        and_true]

end Resources

/-! ## The outcome of a claim -/

section Outcome

variable {s : Store} {worker : Worker} {now : Timestamp} {claimToken leaseId : Uuid}
  {workerId : String} {job : Job}

/-- **A claim commits to the head job.** -/
theorem claimJob_of_head (registered : s.workers.find? workerId = some worker)
    (head : s.HeadJob worker now job) :
    claimJob now claimToken leaseId {} workerId s =
      if worker.Leases job then do
        let requested ← worker.requestedResource
        match s.availableResource? requested {} with
        | none => return (s, none)
        | some resource =>
            claimPicked now workerId claimToken job
              (some ⟨resource.resourceId, leaseId, resource.fencingToken + 1⟩) s
      else claimPicked now workerId claimToken job none s := by
  rw [claimJob, requireRow_eq_ok.mpr registered]
  simp only [bind, Except.bind, nextJob?_eq_some_iff.mpr head]
  rfl

/-- The claim of a job that can run hands it out, unless no campaign waits for it. -/
theorem claimPicked_ok (now : Timestamp) (claimToken : Uuid) (workerId : String)
    (member : job ∈ s.jobs) (lease : Option Lease)
    (awaited : job.jobType = .endpointAdjudicate → s.AwaitedOnce job) :
    ∃ s', claimPicked now workerId claimToken job lease s =
        .ok (s', some (job.claimed now workerId claimToken lease)) ∧
      s'.jobs.find? job.jobId = some (job.claimed now workerId claimToken lease) := by
  have endpoint : ∃ s', claimEndpointWork job
      { s with
        resources := claimedResources now job.jobId lease s.resources
        jobs := s.jobs.update job.jobId (Job.claimed now workerId claimToken lease) } =
      .ok s' := by
    unfold claimEndpointWork
    split
    · exact ⟨_, rfl⟩
    · rename_i adjudication
      exact ⟨_, if_pos (awaited adjudication)⟩
    · exact ⟨_, rfl⟩
  obtain ⟨s', worked⟩ := endpoint
  refine ⟨s', ?_, ?_⟩
  · simp only [claimPicked, worked]
    rfl
  · have found : s.jobs.find? job.jobId = some job := Table.find?_of_mem member
    rw [(claimEndpointWork_sameQueue worked).jobs, Table.find?_update_self, found]
    rfl

/-- The claim of an adjudication job that no campaign waits for raises. -/
theorem claimPicked_stray (now : Timestamp) (claimToken : Uuid) (workerId : String)
    (lease : Option Lease) (adjudication : job.jobType = .endpointAdjudicate)
    (stray : ¬s.AwaitedOnce job) :
    ∃ e, claimPicked now workerId claimToken job lease s = .error e := by
  refine ⟨.conflict "endpoint D Job has no awaiting frozen Campaign binding", ?_⟩
  unfold Store.AwaitedOnce at stray
  simp only [claimPicked, claimEndpointWork, adjudication]
  rw [if_neg stray]
  rfl

/-- The claim of a job that has to wait for a resource returns nothing. -/
theorem claimJob_waits (claimToken leaseId : Uuid)
    (registered : s.workers.find? workerId = some worker)
    (head : s.HeadJob worker now job) (leases : worker.Leases job) (named : worker.NamesText)
    (taken : ¬s.ResourceFree worker) :
    claimJob now claimToken leaseId {} workerId s = .ok (s, none) := by
  obtain ⟨requested, asked, may⟩ := requestedResource_of_namesText named
  have none : s.availableResource? requested {} = none := by
    rw [← Option.not_isSome_iff_eq_none, availableResource?_isSome]
    simpa only [Store.ResourceFree, may] using taken
  rw [claimJob_of_head registered head, if_pos leases, asked]
  simp only [bind, Except.bind, none]
  rfl

/-- The claim of a job that can run is the claim of this job, with a lease if it needs one. -/
theorem claimJob_serves (claimToken leaseId : Uuid)
    (registered : s.workers.find? workerId = some worker)
    (head : s.HeadJob worker now job) (named : worker.Leases job → worker.NamesText)
    (served : worker.Leases job → s.ResourceFree worker) :
    ∃ lease, claimJob now claimToken leaseId {} workerId s =
      claimPicked now workerId claimToken job lease s := by
  rw [claimJob_of_head registered head]
  by_cases leases : worker.Leases job
  · obtain ⟨requested, asked, may⟩ := requestedResource_of_namesText (named leases)
    have free : (s.availableResource? requested {}).isSome := by
      rw [availableResource?_isSome]
      simpa only [Store.ResourceFree, may] using served leases
    obtain ⟨resource, available⟩ := Option.isSome_iff_exists.mp free
    refine ⟨some ⟨resource.resourceId, leaseId, resource.fencingToken + 1⟩, ?_⟩
    rw [if_pos leases, asked]
    simp only [bind, Except.bind, available]
  · exact ⟨none, if_neg leases⟩

end Outcome

/-! ## Completeness -/

/-- **What completeness asks of a claim.** It does not raise, it hands out a job that now runs
for the worker when some job can run, and it returns nothing only when none can. -/
structure JobClaimCompletes (s : Store) (worker : Worker) (now : Timestamp)
    (claimToken leaseId : Uuid) : Prop where
  returns : ∃ s' reply, claimJob now claimToken leaseId {} worker.workerId s = .ok (s', reply)
  handsOut : (∃ job, s.Runnable worker now job) → ∃ s' job row,
    claimJob now claimToken leaseId {} worker.workerId s = .ok (s', some row) ∧
      s.Runnable worker now job ∧ row.jobId = job.jobId ∧ row.state = .running ∧
        row.claimedBy = some worker.workerId ∧ s'.jobs.find? row.jobId = some row
  nothing : ∀ s', claimJob now claimToken leaseId {} worker.workerId s = .ok (s', none) →
    ¬∃ job, s.Runnable worker now job

/-- **When a claim completes.** Without concurrent transactions the claim of a registered worker
does not raise, hands out a job whenever one can run, and returns nothing only when none can,
exactly when the head job does not block the queue. -/
theorem job_claim_completes_iff {s : Store} {worker : Worker} (registered : worker ∈ s.workers)
    (now : Timestamp) (claimToken leaseId : Uuid) :
    JobClaimCompletes s worker now claimToken leaseId ↔
      ∀ job, s.HeadJob worker now job → s.HeadPasses worker now job := by
  have known : s.workers.find? worker.workerId = some worker := Table.find?_of_mem registered
  constructor
  · rintro ⟨⟨s', reply, ok⟩, handsOut, nothing⟩ job head
    have named : worker.Leases job → worker.NamesText := by
      intro leases
      by_contra unreadable
      obtain ⟨e, raised⟩ := requestedResource_of_not_namesText unreadable
      rw [claimJob_of_head known head, if_pos leases, raised] at ok
      cases ok
    refine ⟨named, fun leases taken other member claimable => ?_, fun served adjudication => ?_⟩
    · by_contra bare
      refine nothing s (claimJob_waits claimToken leaseId known head leases (named leases) taken) ⟨other, ?_⟩
      exact ⟨member, claimable, fun wants => absurd wants bare⟩
    · by_contra stray
      obtain ⟨lease, served⟩ := claimJob_serves claimToken leaseId known head named served
      obtain ⟨e, raised⟩ := claimPicked_stray now claimToken worker.workerId lease
        adjudication stray
      rw [served, raised] at ok
      cases ok
  · intro passes
    cases next : s.nextJob? worker now {} with
    | none =>
        have idle : claimJob now claimToken leaseId {} worker.workerId s = .ok (s, none) := by
          rw [claimJob, requireRow_eq_ok.mpr known]
          simp only [bind, Except.bind, next]
          rfl
        have unclaimable : ¬∃ job, s.Runnable worker now job := by
          rintro ⟨job, member, claimable, -⟩
          exact not_claimable_of_headless next job member claimable
        exact ⟨⟨s, none, idle⟩, fun runnable => absurd runnable unclaimable,
          fun _ _ => unclaimable⟩
    | some job =>
        have head := nextJob?_eq_some_iff.mp next
        obtain ⟨member, claimable⟩ := head.member
        obtain ⟨named, waits, awaited⟩ := passes job head
        by_cases served : worker.Leases job → s.ResourceFree worker
        · obtain ⟨lease, serves⟩ := claimJob_serves claimToken leaseId known head
            named served
          obtain ⟨s', ok, stored⟩ := claimPicked_ok now claimToken worker.workerId member
            lease (awaited served)
          rw [← serves] at ok
          refine ⟨⟨s', _, ok⟩, fun _ => ?_, fun t nothing => ?_⟩
          · exact ⟨s', job, _, ok, ⟨member, claimable, served⟩, rfl, rfl, rfl, stored⟩
          · rw [ok] at nothing
            cases nothing
        · obtain ⟨leases, taken⟩ := Classical.not_imp.mp served
          have waiting := claimJob_waits claimToken leaseId known
            head leases (named leases) taken
          have unrunnable : ¬∃ job, s.Runnable worker now job := by
            rintro ⟨other, member, claimable, served⟩
            exact taken (served (waits leases taken other member claimable))
          exact ⟨⟨s, none, waiting⟩, fun runnable => absurd runnable unrunnable,
            fun _ _ => unrunnable⟩

/-! ## A stray adjudication -/

/-- An evaluation worker and a job for it. -/
def profileCalls : List QueueCall :=
  [.registerWorker { workerId := "evaluation-0", workerType := .evaluation },
    .enqueueJob 1 11
      { taskId := 1, jobType := .profile, acceptedWorkerType := .evaluation,
        idempotencyKey := "profile:waiting", maxAttempts_range := maxAttempts_default }]

/-- The same after an adjudication job that belongs to no campaign. -/
def strayCampaignCalls : List QueueCall :=
  .enqueueJob 0 10
    { taskId := 1, jobType := .endpointAdjudicate, acceptedWorkerType := .evaluation,
      idempotencyKey := "adjudicate:stray", maxAttempts_range := maxAttempts_default } ::
    profileCalls

/-- The worker of the calls. -/
def evaluationWorker : Worker := { workerId := "evaluation-0", workerType := .evaluation }

/-- The job alone in the queue is handed out. -/
theorem job_claim_completes_profile :
    JobClaimCompletes (runCalls textDriver profileCalls (oneTask .optimization .profiling))
      evaluationWorker 2 20 30 := by
  refine (job_claim_completes_iff (Table.mem_rows.mpr (by decide)) 2 20 30).mpr fun job head => ?_
  have plain : ∀ job ∈ (runCalls textDriver profileCalls
      (oneTask .optimization .profiling)).jobs.rows, job.jobType ≠ .endpointAdjudicate := by
    decide
  have bare : ¬evaluationWorker.Leases job := fun leases => absurd leases.1 (by decide)
  exact ⟨fun leases => absurd leases bare, fun leases => absurd leases bare,
    fun _ adjudication => absurd adjudication (plain job head.member.1)⟩

/-- **A stray adjudication blocks the queue.** After the submission of an adjudication job that
belongs to no campaign, the claim of a worker raises, although a job for it could run. -/
theorem stray_adjudication_blocks :
    ∃ trace s, Steps (QueueStep textDriver) (oneTask .optimization .profiling) trace s ∧
      evaluationWorker ∈ s.workers ∧ (∃ job, s.Runnable evaluationWorker 2 job) ∧
      claimJob 2 20 30 {} evaluationWorker.workerId s =
        .error (.conflict "endpoint D Job has no awaiting frozen Campaign binding") ∧
      ¬JobClaimCompletes s evaluationWorker 2 20 30 := by
  have raised : claimJob 2 20 30 {} evaluationWorker.workerId
      (runCalls textDriver strayCampaignCalls (oneTask .optimization .profiling)) =
        .error (.conflict "endpoint D Job has no awaiting frozen Campaign binding") := by
    rfl
  have waiting : ∃ job ∈ (runCalls textDriver strayCampaignCalls
      (oneTask .optimization .profiling)).jobs.rows, job.ClaimableBy evaluationWorker 2 := by
    decide
  obtain ⟨job, member, claimable⟩ := waiting
  refine ⟨_, _, steps_runCalls textDriver strayCampaignCalls (oneTask .optimization .profiling),
    Table.mem_rows.mpr (by decide), ⟨job, member, claimable, fun leases => absurd leases.1 (by decide)⟩, raised, ?_⟩
  rintro ⟨⟨s', reply, ok⟩, -, -⟩
  rw [raised] at ok
  cases ok

end HcuAutoOpt
