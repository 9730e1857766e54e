import HcuAutoOpt.Storage.Schema
import HcuAutoOpt.Foundation.CommittedCalls
import Mathlib.Data.List.Sort

/-!
# The job queue

The queue methods of `storage/repository.py`: `register_worker`, `enqueue_job`,
`claim_job`, `heartbeat_job`, `complete_job` and `report_resource_cleanup`, with the
helpers `_assert_job_owner` and `_release_resource`. Each is one transaction: it
returns the committed store with its reply, or raises and leaves the store alone.

What a method takes from its surroundings is an argument: the time of the
transaction, the identifiers it draws at random, and the rows other transactions
hold locked, which a query with `SKIP LOCKED` passes over.
-/

set_option autoImplicit false

namespace HcuAutoOpt

open Foundation

/-! ## Workers -/

/-- `WorkerRegister`. -/
structure WorkerRegister where
  workerId : String
  workerType : WorkerType
  adapterProfile : Option String := none
  capabilities : Json.Object := []

/-- The adapter profile a worker is stored with: the declared one, else the one
among its capabilities. -/
def WorkerRegister.storedProfile (driver : Driver) (request : WorkerRegister) :
    Except Error (Option String) :=
  let capability := request.capabilities.value? "adapter_profile"
  match request.adapterProfile, capability with
  | some declared, none => .ok (some declared)
  | some declared, some (.str other) =>
      if other = declared then .ok (some declared)
      else .error (.conflict "worker adapter_profile conflicts with capabilities metadata")
  | some _, some (.arr _) => .error (.typeError "unhashable type: list")
  | some _, some (.obj _) => .error (.typeError "unhashable type: dict")
  | some _, some _ =>
      .error (.conflict "worker adapter_profile conflicts with capabilities metadata")
  | none, none => .ok none
  | none, some (.str other) => .ok (some other)
  | none, some other =>
      match driver.sqlText other with
      | some stored => .ok (some stored)
      | none => .error (.databaseError "cannot adapt adapter_profile")

/-- The resource of a worker with accelerators, by default `fake-hcu-0`. -/
def WorkerRegister.resourceId (request : WorkerRegister) : String :=
  ((request.capabilities.get? "resource_id").map Json.text).getD "fake-hcu-0"

/-- The worker as a repeated registration leaves it. -/
def Worker.reregistered (row old : Worker) : Worker :=
  { old with
    workerType := row.workerType
    adapterProfile := row.adapterProfile
    capabilities := row.capabilities }

instance (row : Worker) : KeepsKey (Worker.reregistered row) := ⟨fun _ => rfl⟩

/-- `register_worker`. A worker with accelerators brings its resource along. -/
def registerWorker (driver : Driver) (request : WorkerRegister) : Transaction Store Error Worker :=
  fun s => do
    let profile ← request.storedProfile driver
    let row : Worker :=
      { workerId := request.workerId, workerType := request.workerType,
        adapterProfile := profile, capabilities := request.capabilities }
    let workers := (s.workers.insertIfAbsent row).update row.workerId (Worker.reregistered row)
    let resources :=
      if request.workerType = .gpu then
        s.resources.insertIfAbsent { resourceId := request.resourceId }
      else s.resources
    return ({ s with workers, resources }, row)

/-! ## Enqueueing -/

/-- `JobCreate`. -/
structure JobCreate where
  taskId : Uuid
  jobType : JobType
  acceptedWorkerType : WorkerType
  adapterProfile : Option String := none
  payload : Json.Object := []
  idempotencyKey : String
  leaseScope : LeaseScope := .none
  priority : Int := 0
  maxAttempts : Nat := 3
  maxAttempts_range : 1 ≤ maxAttempts ∧ maxAttempts ≤ 20 := by decide

/-- The default of `max_attempts` is in range. -/
theorem maxAttempts_default : 1 ≤ 3 ∧ 3 ≤ 20 := by decide

/-- The row `enqueue_job` inserts. -/
def JobCreate.row (request : JobCreate) (now : Timestamp) (jobId : Uuid) : Job where
  jobId := jobId
  taskId := request.taskId
  jobType := request.jobType
  acceptedWorkerType := request.acceptedWorkerType
  adapterProfile := request.adapterProfile
  leaseScope := request.leaseScope
  payload := request.payload
  idempotencyKey := request.idempotencyKey
  priority := request.priority
  availableAt := now
  maxAttempts := request.maxAttempts
  createdAt := now

/-- The stored row is the job that was asked for; payloads are compared as documents. -/
def JobCreate.Matches (request : JobCreate) (row : Job) : Prop :=
  row.taskId = request.taskId ∧ row.jobType = request.jobType ∧
    row.acceptedWorkerType = request.acceptedWorkerType ∧
    row.adapterProfile = request.adapterProfile ∧ row.leaseScope = request.leaseScope ∧
    Json.alike (.obj row.payload) (.obj request.payload) = true ∧ row.priority = request.priority ∧
    row.maxAttempts = request.maxAttempts

instance (request : JobCreate) (row : Job) : Decidable (request.Matches row) := by
  unfold JobCreate.Matches
  infer_instance

/-- The job of an idempotency key. -/
def Store.jobOfKey? (s : Store) (idempotencyKey : String) : Option Job :=
  s.jobs.rows.find? fun job => decide (job.idempotencyKey = idempotencyKey)

/-- Insert a job row whose key is new; the task must exist and the identifier must be
new. -/
def insertJob (row : Job) (s : Store) : Except Error Store := do
  require (s.tasks.find? row.taskId ≠ none) (.databaseError "jobs_task_id_fkey")
  require (s.jobs.find? row.jobId = none) (.databaseError "jobs_pkey")
  return { s with jobs := s.jobs.insertIfAbsent row }

/-- `enqueue_job`. -/
def enqueueJob (now : Timestamp) (jobId : Uuid) (request : JobCreate) :
    Transaction Store Error Job :=
  fun s =>
    match s.jobOfKey? request.idempotencyKey with
    | some row => do
        require (request.Matches row)
          (.conflict "idempotency_key was already used with a different job")
        return (s, row)
    | none => do
        let row := request.row now jobId
        let s ← insertJob row s
        return (s, row)

/-! ## Claiming -/

/-- The rows other transactions hold locked. -/
structure Locks where
  job : Uuid → Bool := fun _ => false
  resource : String → Bool := fun _ => false

/-- The worker may be handed the job. -/
def Job.ClaimableBy (worker : Worker) (now : Timestamp) (job : Job) : Prop :=
  job.state = .queued ∧ job.availableAt ≤ now ∧ job.acceptedWorkerType = worker.workerType ∧
    (job.adapterProfile = none ∨ job.adapterProfile = worker.adapterProfile)

instance (worker : Worker) (now : Timestamp) (job : Job) :
    Decidable (job.ClaimableBy worker now) := by
  unfold Job.ClaimableBy
  infer_instance

/-- `ORDER BY priority DESC, created_at`. -/
def Job.Before (first second : Job) : Prop :=
  second.priority < first.priority ∨
    (first.priority = second.priority ∧ first.createdAt ≤ second.createdAt)

instance : DecidableRel Job.Before := fun _ _ => inferInstanceAs (Decidable (_ ∨ _))

/-- The job a claim of the worker picks. -/
def Store.nextJob? (s : Store) (worker : Worker) (now : Timestamp) (locks : Locks) : Option Job :=
  ((s.jobs.rows.filter fun job =>
    decide (job.ClaimableBy worker now) && !locks.job job.jobId).insertionSort Job.Before).head?

/-- The resource the worker is bound to, when its capabilities name one. -/
def Worker.requestedResource (worker : Worker) : Except Error (Option String) :=
  match worker.capabilities.value? "resource_id" with
  | none => .ok none
  | some (.str resourceId) => .ok (if resourceId = "" then none else some resourceId)
  | some other =>
      if other.truthy then .error (.databaseError "operator does not exist: text = parameter")
      else .ok none

/-- The available resource a claim takes: the requested one, else the first. -/
def Store.availableResource? (s : Store) (requested : Option String) (locks : Locks) :
    Option Resource :=
  let available := s.resources.rows.filter fun resource =>
    decide (resource.state = .available) && !locks.resource resource.resourceId
  match requested with
  | some resourceId => available.find? fun resource => decide (resource.resourceId = resourceId)
  | none => (available.insertionSort fun a b => a.resourceId ≤ b.resourceId).head?

/-- The lease that a claim takes on a resource. -/
structure Lease where
  resourceId : String
  leaseId : Uuid
  fencingToken : Int
  deriving DecidableEq, Repr

/-- The job as a claim leaves it. -/
def Job.claimed (now : Timestamp) (workerId : String) (claimToken : Uuid) (lease : Option Lease)
    (job : Job) : Job :=
  { job with
    state := .running
    claimedBy := some workerId
    claimToken := some claimToken
    claimedAt := some now
    heartbeatAt := some now
    attempts := job.attempts + 1
    leaseId := lease.map Lease.leaseId
    resourceId := lease.map Lease.resourceId
    fencingToken := lease.map Lease.fencingToken }

instance (now : Timestamp) (workerId : String) (claimToken : Uuid) (lease : Option Lease) :
    KeepsKey (Job.claimed now workerId claimToken lease) := ⟨fun _ => rfl⟩

/-- The resource as a leasing claim leaves it. -/
def Resource.leased (now : Timestamp) (jobId : Uuid) (lease : Lease) (resource : Resource) :
    Resource :=
  { resource with
    state := .active
    ownerJobId := some jobId
    leaseId := some lease.leaseId
    fencingToken := lease.fencingToken
    expiresAt := some (now + seconds 90) }

instance (now : Timestamp) (jobId : Uuid) (lease : Lease) :
    KeepsKey (Resource.leased now jobId lease) := ⟨fun _ => rfl⟩

/-- The campaign waits for the adjudication job to be claimed. -/
def EndpointValidationCampaign.awaits (jobId : Uuid) (campaign : EndpointValidationCampaign) :
    Bool :=
  decide (campaign.adjudicationJobId = some jobId ∧ campaign.state = .awaitingAdjudication)

/-- The endpoint run as the claim of its job leaves it. -/
def EndpointValidationRun.start (run : EndpointValidationRun) : EndpointValidationRun :=
  { run with state := .running }

instance : KeepsKey EndpointValidationRun.start := ⟨fun _ => rfl⟩

/-- The campaign as the claim of its adjudication job leaves it. -/
def EndpointValidationCampaign.start (campaign : EndpointValidationCampaign) :
    EndpointValidationCampaign :=
  { campaign with state := .adjudicating }

instance : KeepsKey EndpointValidationCampaign.start := ⟨fun _ => rfl⟩

/-- What a claim does to the endpoint run or campaign its job belongs to. -/
def claimEndpointWork (job : Job) (s : Store) : Except Error Store :=
  match job.jobType with
  | .endpointValidation =>
      .ok { s with
        endpointRuns := s.endpointRuns.updateWhere
          (fun run => decide (run.jobId = job.jobId ∧ run.state = .queued))
          EndpointValidationRun.start }
  | .endpointAdjudicate =>
      if (s.endpointCampaigns.rows.filter
          (EndpointValidationCampaign.awaits job.jobId)).length = 1 then
        .ok { s with
          endpointCampaigns := s.endpointCampaigns.updateWhere
            (EndpointValidationCampaign.awaits job.jobId)
            EndpointValidationCampaign.start }
      else .error (.conflict "endpoint D Job has no awaiting frozen Campaign binding")
  | _ => .ok s

/-- The resources after a claim with the given lease. -/
def claimedResources (now : Timestamp) (jobId : Uuid) (lease : Option Lease)
    (resources : Table Resource) : Table Resource :=
  match lease with
  | some lease => resources.update lease.resourceId (Resource.leased now jobId lease)
  | none => resources

/-- The claim of one picked job, with the lease it takes. -/
def claimPicked (now : Timestamp) (workerId : String) (claimToken : Uuid) (job : Job)
    (lease : Option Lease) (s : Store) : Except Error (Store × Option Job) := do
  let resources := claimedResources now job.jobId lease s.resources
  let jobs := s.jobs.update job.jobId (Job.claimed now workerId claimToken lease)
  let s ← claimEndpointWork job { s with resources, jobs }
  return (s, some (job.claimed now workerId claimToken lease))

/-- `claim_job`. A scoped job waits, unclaimed, while no resource is available. -/
def claimJob (now : Timestamp) (claimToken leaseId : Uuid) (locks : Locks) (workerId : String) :
    Transaction Store Error (Option Job) :=
  fun s => do
    let worker ← requireRow (s.workers.find? workerId) s!"worker not registered: {workerId}"
    match s.nextJob? worker now locks with
    | none => return (s, none)
    | some job =>
        if worker.workerType = .gpu ∧ (job.leaseScope = .shared ∨ job.leaseScope = .exclusive) then
          let requested ← worker.requestedResource
          match s.availableResource? requested locks with
          | none => return (s, none)
          | some resource =>
              claimPicked now workerId claimToken job
                (some ⟨resource.resourceId, leaseId, resource.fencingToken + 1⟩) s
        else claimPicked now workerId claimToken job none s

/-! ## Ownership and release -/

/-- `_assert_job_owner`. -/
def assertJobOwner (jobId claimToken : Uuid) (fencingToken : Option Int) (s : Store) :
    Except Error Job := do
  let job ← requireRow (s.jobs.find? jobId) s!"job not found: {jobId.text}"
  require (job.state = .running ∧ job.claimToken = some claimToken)
    (.staleClaimToken "claim token is stale or job is not running")
  match job.resourceId with
  | none => return job
  | some resourceId =>
      match s.resources.find? resourceId with
      | none => .error (.staleFencingToken "GPU lease fencing token is stale")
      | some resource =>
          require (resource.ownerJobId = some jobId ∧ some resource.fencingToken = fencingToken)
            (.staleFencingToken "GPU lease fencing token is stale")
          return job

/-- `_cleanup_is_healthy`. -/
def cleanupIsHealthy (evidence : Option Json.Object) : Bool :=
  match evidence with
  | none => false
  | some fields =>
      match fields.get? "fence", fields.get? "health" with
      | some (.obj fence), some (.obj health) =>
          decide (Json.Object.get? fence "fenced" = some (.bool true) ∧
            Json.Object.get? health "healthy" = some (.bool true))
      | _, _ => false

/-- The state of a resource after its cleanup was reported. -/
def cleanupState (evidence : Option Json.Object) : LeaseState :=
  if cleanupIsHealthy evidence then .available else .quarantined

/-- The resource as a release leaves it: fencing, health check and the final state are
three updates of one transaction, of which only the last is seen. -/
def Resource.released (reason : String) (cleanupEvidence : Option Json.Object)
    (resource : Resource) : Resource :=
  { resource with
    state := cleanupState cleanupEvidence
    ownerJobId := none
    leaseId := none
    expiresAt := none
    cleanupEvidence := some
      ((Json.Object.merge [("reason", .str reason)] (cleanupEvidence.getD [])).set "healthy"
        (.bool (cleanupIsHealthy cleanupEvidence))) }

instance (reason : String) (cleanupEvidence : Option Json.Object) :
    KeepsKey (Resource.released reason cleanupEvidence) := ⟨fun _ => rfl⟩

/-- The job holds the resource at the token it was leased with. -/
def Job.Holds (job : Job) (resource : Resource) : Prop :=
  job.resourceId = some resource.resourceId ∧ resource.ownerJobId = some job.jobId ∧
    job.fencingToken = some resource.fencingToken

instance (job : Job) (resource : Resource) : Decidable (job.Holds resource) := by
  unfold Job.Holds
  infer_instance

/-- `_release_resource`. A job that no longer holds its resource releases nothing. -/
def releaseResource (job : Job) (reason : String) (cleanupEvidence : Option Json.Object)
    (s : Store) : Store :=
  { s with
    resources := s.resources.updateWhere (fun resource => decide (job.Holds resource))
      (Resource.released reason cleanupEvidence) }

@[simp] theorem releaseResource_jobs (job : Job) (reason : String)
    (cleanupEvidence : Option Json.Object) (s : Store) :
    (releaseResource job reason cleanupEvidence s).jobs = s.jobs := rfl

/-- A release rewrites the resource the job holds and no other. -/
theorem mem_releaseResource {job : Job} {reason : String}
    {cleanupEvidence : Option Json.Object} {s : Store} {resource : Resource} :
    resource ∈ (releaseResource job reason cleanupEvidence s).resources ↔
      ∃ old ∈ s.resources,
        (if job.Holds old then old.released reason cleanupEvidence else old) = resource := by
  simp [releaseResource, Table.mem_updateWhere]

theorem Resource.released_not_active (reason : String) (cleanupEvidence : Option Json.Object)
    (resource : Resource) : (resource.released reason cleanupEvidence).state ≠ .active := by
  unfold Resource.released cleanupState
  split <;> simp

/-! ## Heartbeats, completion and cleanup reports -/

/-- The job as a heartbeat leaves it. -/
def Job.heard (now : Timestamp) (job : Job) : Job := { job with heartbeatAt := some now }

instance (now : Timestamp) : KeepsKey (Job.heard now) := ⟨fun _ => rfl⟩

/-- The resource as a heartbeat leaves it. -/
def Resource.renewed (now : Timestamp) (resource : Resource) : Resource :=
  { resource with expiresAt := some (now + seconds 90) }

instance (now : Timestamp) : KeepsKey (Resource.renewed now) := ⟨fun _ => rfl⟩

/-- The resources after a heartbeat. -/
def heartbeatResources (now : Timestamp) (jobId : Uuid) (fencingToken : Option Int)
    (resources : Table Resource) : Table Resource :=
  match fencingToken with
  | none => resources
  | some token =>
      resources.updateWhere
        (fun resource => decide (resource.ownerJobId = some jobId ∧ resource.fencingToken = token))
        (Resource.renewed now)

/-- `heartbeat_job`. -/
def heartbeatJob (now : Timestamp) (workerId : String) (jobId claimToken : Uuid)
    (fencingToken : Option Int) : Transaction Store Error Unit :=
  fun s => do
    let job ← assertJobOwner jobId claimToken fencingToken s
    require (job.claimedBy = some workerId)
      (.staleClaimToken "worker no longer owns this running job")
    let jobs := s.jobs.update jobId (Job.heard now)
    let resources := heartbeatResources now jobId fencingToken s.resources
    return ({ s with jobs, resources }, ())

/-- The cleanup evidence carried by a result. -/
def cleanupEvidenceOf (result : Json.Object) : Option Json.Object :=
  match result.get? "cleanup_evidence" with
  | some (.obj evidence) => some evidence
  | _ => none

/-- The job as a completion leaves it. -/
def Job.completed (now : Timestamp) (result : Json.Object) (job : Job) : Job :=
  { job with
    state := .succeeded
    result := some (Json.jsonbFields result)
    finishedAt := some now }

instance (now : Timestamp) (result : Json.Object) : KeepsKey (Job.completed now result) :=
  ⟨fun _ => rfl⟩

/-- The result of the job equals the document, as `==` compares them. -/
def Job.HasResult (result : Json.Object) (job : Job) : Prop :=
  ∃ stored ∈ job.result, Json.alike (.obj stored) (.obj result) = true

instance (result : Json.Object) (job : Job) : Decidable (job.HasResult result) := by
  unfold Job.HasResult
  infer_instance

/-- `complete_job`. A repetition of the accepted completion returns the stored job. -/
def completeJob (now : Timestamp) (jobId claimToken : Uuid) (fencingToken : Option Int)
    (result : Json.Object) : Transaction Store Error Job :=
  fun s => do
    let existing ← requireRow (s.jobs.find? jobId) s!"job not found: {jobId.text}"
    if existing.state = .succeeded then
      require (existing.claimToken = some claimToken)
        (.staleClaimToken "completion replay used a stale claim token")
      require (existing.fencingToken = fencingToken)
        (.staleFencingToken "completion replay used a stale fencing token")
      require (existing.HasResult result)
        (.conflict "completed job was replayed with a different result")
      return (s, existing)
    else
      let job ← assertJobOwner jobId claimToken fencingToken s
      let s := { s with jobs := s.jobs.update jobId (Job.completed now result) }
      return (releaseResource job "job_completed" (cleanupEvidenceOf result) s,
        job.completed now result)

/-- The resource as a cleanup report leaves it. -/
def Resource.cleaned (cleanupEvidence : Json.Object) (resource : Resource) : Resource :=
  { resource with
    state := cleanupState (some cleanupEvidence)
    ownerJobId := none
    leaseId := none
    expiresAt := none
    cleanupEvidence := some
      ((cleanupEvidence.set "healthy" (.bool (cleanupIsHealthy (some cleanupEvidence)))).set
        "reason" (.str "cleanup_reported")) }

instance (cleanupEvidence : Json.Object) : KeepsKey (Resource.cleaned cleanupEvidence) :=
  ⟨fun _ => rfl⟩

/-- `report_resource_cleanup`. -/
def reportResourceCleanup (resourceId : String) (fencingToken : Int)
    (cleanupEvidence : Json.Object) : Transaction Store Error Resource :=
  fun s => do
    let resource ← requireRow (s.resources.find? resourceId) s!"resource not found: {resourceId}"
    require (resource.fencingToken = fencingToken)
      (.staleFencingToken "resource cleanup used a stale fencing token")
    require (resource.state ∈ [.fencing, .healthCheck, .quarantined])
      (.conflict s!"resource cleanup cannot be reported from state {resource.state.value}")
    let resources := s.resources.update resourceId (Resource.cleaned cleanupEvidence)
    return ({ s with resources }, resource.cleaned cleanupEvidence)

end HcuAutoOpt
