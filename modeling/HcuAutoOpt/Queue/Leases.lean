import HcuAutoOpt.Queue.Calls

/-!
# Lease exclusivity and fencing

A resource is leased to at most one job at a time, and the job row and the resource row
agree on the lease. The invariant is stated for a choice of the jobs that count as
running (`LeasesAgree`), because two methods release several resources before they
rewrite the jobs: releasing the resource of a job takes the job out of the choice
(`LeasesAgree.release`), and a rewrite of the jobs only has to match the choice
(`LeasesAgree.rewrite_jobs`).

`Store.LeaseInvariant` is the invariant with every running job counted. Each accepted
call keeps it (`leaseInvariant_of_run`), and tokens never decrease
(`tokensGrow_of_run`). `lease_exclusivity` states both for whole runs.
-/

set_option autoImplicit false

namespace HcuAutoOpt

open Foundation

/-! ## Agreement of jobs and resources -/

/-- The job row and the resource row record the same lease. -/
structure Job.LeaseOn (job : Job) (resource : Resource) : Prop where
  named : job.resourceId = some resource.resourceId
  active : resource.state = .active
  owner : resource.ownerJobId = some job.jobId
  lease : resource.leaseId = job.leaseId
  token : job.fencingToken = some resource.fencingToken

/-- The jobs that count hold exactly the active resources. -/
structure LeasesAgree (counts : Job → Prop) (s : Store) : Prop where
  held : ∀ job ∈ s.jobs, counts job → ∀ resourceId ∈ job.resourceId,
    ∃ resource ∈ s.resources, resource.resourceId = resourceId ∧ job.LeaseOn resource
  owned : ∀ resource ∈ s.resources, resource.state = .active →
    ∃ job ∈ s.jobs, counts job ∧ job.LeaseOn resource

/-- Running jobs hold exactly the active resources. -/
abbrev Store.LeaseInvariant (s : Store) : Prop :=
  LeasesAgree (fun job => job.state = .running) s

/-- What a lease is recorded by in a job row. -/
def Job.SameLease (job job' : Job) : Prop :=
  job'.jobId = job.jobId ∧ job'.resourceId = job.resourceId ∧ job'.leaseId = job.leaseId ∧
    job'.fencingToken = job.fencingToken

theorem Job.LeaseOn.of_sameLease {job job' : Job} {resource : Resource}
    (on : job.LeaseOn resource) (same : job.SameLease job') : job'.LeaseOn resource where
  named := same.2.1.trans on.named
  active := on.active
  owner := by rw [same.1]; exact on.owner
  lease := by rw [same.2.2.1]; exact on.lease
  token := same.2.2.2.trans on.token

theorem Job.LeaseOn.holds {job : Job} {resource : Resource} (on : job.LeaseOn resource) :
    job.Holds resource :=
  ⟨on.named, on.owner, on.token⟩

/-- Two jobs with a lease on one resource are the same job. -/
theorem Job.LeaseOn.job_unique {s : Store} {job job' : Job} {resource : Resource}
    (member : job ∈ s.jobs) (member' : job' ∈ s.jobs) (on : job.LeaseOn resource)
    (on' : job'.LeaseOn resource) : job = job' :=
  Table.eq_of_key_eq member member' (Option.some.inj (on.owner.symm.trans on'.owner))

namespace LeasesAgree

variable {counts counts' : Job → Prop} {s s' : Store}

/-- The agreement only looks at jobs and resources. -/
theorem of_queue (agree : LeasesAgree counts s) (resources : s'.resources = s.resources)
    (jobs : s'.jobs = s.jobs) : LeasesAgree counts s' where
  held := by
    rw [jobs, resources]
    exact agree.held
  owned := by
    rw [jobs, resources]
    exact agree.owned

/-- Rewriting jobs keeps the agreement when the jobs that count afterwards are the jobs
that counted before, with the same leases. -/
theorem rewrite_jobs (agree : LeasesAgree counts s) (resources : s'.resources = s.resources)
    (back : ∀ job' ∈ s'.jobs, counts' job' → ∃ job ∈ s.jobs, counts job ∧ job.SameLease job')
    (forth : ∀ job ∈ s.jobs, counts job → ∃ job' ∈ s'.jobs, counts' job' ∧ job.SameLease job') :
    LeasesAgree counts' s' where
  held := by
    intro job' member counted resourceId named
    obtain ⟨job, old, countedOld, same⟩ := back job' member counted
    rw [same.2.1] at named
    obtain ⟨resource, inTable, rfl, on⟩ := agree.held job old countedOld resourceId named
    exact ⟨resource, resources ▸ inTable, rfl, on.of_sameLease same⟩
  owned := by
    intro resource inTable active
    rw [resources] at inTable
    obtain ⟨job, old, counted, on⟩ := agree.owned resource inTable active
    obtain ⟨job', member, counted', same⟩ := forth job old counted
    exact ⟨job', member, counted', on.of_sameLease same⟩

/-- Releasing the resource of a job that counts takes the job out of the choice. -/
theorem release (agree : LeasesAgree counts s) {job : Job} (member : job ∈ s.jobs)
    (counted : counts job) (reason : String) (cleanupEvidence : Option Json.Object) :
    LeasesAgree (fun other => counts other ∧ other ≠ job)
      (releaseResource job reason cleanupEvidence s) where
  held := by
    rintro other inJobs ⟨countedOther, different⟩ resourceId named
    obtain ⟨resource, inTable, rfl, on⟩ := agree.held other inJobs countedOther resourceId named
    refine ⟨resource, mem_releaseResource.mpr ⟨resource, inTable, if_neg ?_⟩, rfl, on⟩
    intro holds
    have owner := holds.2.1
    exact different (Table.eq_of_key_eq inJobs member
      (Option.some.inj (on.owner.symm.trans owner)))
  owned := by
    intro resource inTable active
    obtain ⟨old, inOld, rfl⟩ := mem_releaseResource.mp inTable
    by_cases holds : job.Holds old
    · rw [if_pos holds] at active
      exact absurd active (Resource.released_not_active reason cleanupEvidence old)
    · rw [if_neg holds] at active ⊢
      obtain ⟨other, inJobs, countedOther, on⟩ := agree.owned old inOld active
      refine ⟨other, inJobs, ⟨countedOther, ?_⟩, on⟩
      rintro rfl
      exact holds on.holds

/-- Releasing the resources of several jobs takes them out of the choice. -/
theorem releaseAll (reason : String) (jobs : List Job) (agree : LeasesAgree counts s)
    (members : ∀ job ∈ jobs, job ∈ s.jobs ∧ counts job) (distinct : jobs.Nodup) :
    LeasesAgree (fun other => counts other ∧ other ∉ jobs)
      (HcuAutoOpt.releaseAll reason jobs s) := by
  induction jobs generalizing s counts with
  | nil => simpa [HcuAutoOpt.releaseAll] using agree
  | cons job jobs ih =>
      obtain ⟨fresh, distinct⟩ := List.nodup_cons.mp distinct
      obtain ⟨member, counted⟩ := members job List.mem_cons_self
      have released := agree.release member counted reason none
      have rest := ih released (fun other inside =>
        ⟨(members other (List.mem_cons_of_mem _ inside)).1,
          (members other (List.mem_cons_of_mem _ inside)).2,
          fun same => fresh (same ▸ inside)⟩) distinct
      have choice : (fun other => (counts other ∧ other ≠ job) ∧ other ∉ jobs) =
          fun other => counts other ∧ other ∉ job :: jobs := by
        funext other
        simp [and_assoc]
      rw [← choice]
      exact rest

/-- Rewriting resources that are not active, none of them becoming active, keeps the
agreement. -/
theorem rewrite_idle (agree : LeasesAgree counts s) (jobs : s'.jobs = s.jobs)
    (kept : ∀ resource ∈ s.resources, resource.state = .active →
      ∃ resource' ∈ s'.resources, resource'.resourceId = resource.resourceId ∧
        ∀ job : Job, job.LeaseOn resource → job.LeaseOn resource')
    (back : ∀ resource' ∈ s'.resources, resource'.state = .active →
      ∃ resource ∈ s.resources, resource.state = .active ∧
        ∀ job : Job, job.LeaseOn resource → job.LeaseOn resource') :
    LeasesAgree counts s' where
  held := by
    intro job member counted resourceId named
    rw [jobs] at member
    obtain ⟨resource, inTable, rfl, on⟩ := agree.held job member counted resourceId named
    obtain ⟨resource', inTable', same, transfer⟩ := kept resource inTable on.active
    exact ⟨resource', inTable', same, transfer job on⟩
  owned := by
    intro resource' inTable' active
    obtain ⟨resource, inTable, activeOld, transfer⟩ := back resource' inTable' active
    obtain ⟨job, member, counted, on⟩ := agree.owned resource inTable activeOld
    exact ⟨job, jobs ▸ member, counted, transfer job on⟩

end LeasesAgree

/-! ## What one call does to the agreement -/

namespace Store.LeaseInvariant

variable {s s' : Store}

/-- Ending a running job and releasing its resource keeps the invariant. -/
theorem finish (agree : s.LeaseInvariant) {jobId : Uuid} {job : Job}
    (found : s.jobs.find? jobId = some job) (running : job.state = .running)
    (reason : String) (cleanupEvidence : Option Json.Object) {f : Job → Job}
    [KeepsKey f] (ended : (f job).state ≠ .running)
    (resources : s'.resources = (releaseResource job reason cleanupEvidence s).resources)
    (jobs : s'.jobs = s.jobs.update jobId f) : s'.LeaseInvariant := by
  have released := LeasesAgree.release agree (Table.mem_of_find? found) running reason
    cleanupEvidence
  have isJob : ∀ other ∈ s.jobs, key other = jobId → other = job := by
    intro other member same
    exact Option.some.inj ((Table.find?_of_mem member).symm.trans (same ▸ found))
  refine released.rewrite_jobs resources ?_ ?_
  · intro job' member counted
    rw [jobs, Table.mem_update] at member
    obtain ⟨old, inOld, rfl⟩ := member
    by_cases same : key old = jobId
    · rw [if_pos same, isJob old inOld same] at counted
      exact absurd counted ended
    · rw [if_neg same] at counted ⊢
      refine ⟨old, inOld, ⟨counted, ?_⟩, rfl, rfl, rfl, rfl⟩
      rintro rfl
      exact same (Table.key_of_find? found)
  · rintro old inOld ⟨counted, different⟩
    refine ⟨old, ?_, counted, rfl, rfl, rfl, rfl⟩
    rw [jobs, Table.mem_update]
    exact ⟨old, inOld, if_neg fun same => different (isJob old inOld same)⟩

/-- Rewriting only jobs that do not run, into jobs that do not run, keeps the
invariant. -/
theorem rewrite_waiting (agree : s.LeaseInvariant) {p : Job → Bool} {f : Job → Job}
    [KeepsKey f]
    (resources : s'.resources = s.resources) (jobs : s'.jobs = s.jobs.updateWhere p f)
    (waiting : ∀ job ∈ s.jobs, p job = true → job.state ≠ .running)
    (still : ∀ job, p job = true → (f job).state ≠ .running) : s'.LeaseInvariant := by
  refine LeasesAgree.rewrite_jobs agree resources ?_ ?_
  · intro job' member counted
    rw [jobs] at member
    obtain ⟨old, inOld, rfl⟩ := Table.mem_updateWhere.mp member
    by_cases chosen : p old = true
    · rw [if_pos chosen] at counted
      exact absurd counted (still old chosen)
    · rw [if_neg chosen] at counted ⊢
      exact ⟨old, inOld, counted, rfl, rfl, rfl, rfl⟩
  · intro old inOld counted
    refine ⟨old, ?_, counted, rfl, rfl, rfl, rfl⟩
    rw [jobs]
    exact Table.mem_updateWhere.mpr ⟨old, inOld, if_neg fun chosen => waiting old inOld chosen counted⟩

/-- Adding a queued job keeps the invariant. -/
theorem enqueue (agree : s.LeaseInvariant) {row : Job} (queued : row.state = .queued) :
    Store.LeaseInvariant { s with jobs := s.jobs.insertIfAbsent row } := by
  refine LeasesAgree.rewrite_jobs agree rfl ?_ ?_
  · intro job member counted
    rcases Table.mem_insertIfAbsent.mp member with old | ⟨-, rfl⟩
    · exact ⟨job, old, counted, rfl, rfl, rfl, rfl⟩
    · rw [queued] at counted
      cases counted
  · intro job member counted
    exact ⟨job, Table.mem_insertIfAbsent.mpr (.inl member), counted, rfl, rfl, rfl, rfl⟩

/-- Submitting jobs and marking jobs advanced keeps the invariant. -/
theorem otherWork (agree : s.LeaseInvariant) (work : OtherWork s s') : s'.LeaseInvariant := by
  refine LeasesAgree.rewrite_jobs agree work.resources ?_ ?_
  · intro job' member counted
    have found' := Table.find?_of_mem member
    cases found : s.jobs.find? (key job') with
    | none =>
        obtain ⟨⟨request, now, same⟩, -⟩ := work.added _ job' found found'
        rw [same] at counted
        cases counted
    | some job =>
        obtain ⟨advanced, kept⟩ := work.jobs _ job found
        rw [found'] at kept
        cases kept
        exact ⟨job, Table.mem_of_find? found, counted, rfl, rfl, rfl, rfl⟩
  · intro job member counted
    obtain ⟨advanced, kept⟩ := work.jobs _ job (Table.find?_of_mem member)
    exact ⟨_, Table.mem_of_find? kept, counted, rfl, rfl, rfl, rfl⟩

/-- Adding an available resource keeps the invariant. -/
theorem register (agree : s.LeaseInvariant) (jobs : s'.jobs = s.jobs) {resourceId : String}
    (resources : s'.resources = s.resources.insertIfAbsent { resourceId }) :
    s'.LeaseInvariant := by
  refine LeasesAgree.rewrite_idle agree jobs ?_ ?_
  · intro resource inTable _
    refine ⟨resource, ?_, rfl, fun _ on => on⟩
    rw [resources]
    exact Table.mem_insertIfAbsent.mpr (.inl inTable)
  · intro resource inTable active
    rw [resources] at inTable
    rcases Table.mem_insertIfAbsent.mp inTable with old | ⟨-, rfl⟩
    · exact ⟨resource, old, active, fun _ on => on⟩
    · cases active

/-- A claim of a queued job keeps the invariant: the leased resource was available, so
no running job named it. -/
theorem claim (agree : s.LeaseInvariant) {now : Timestamp} {workerId : String}
    {claimToken leaseId : Uuid} {lease : Option Lease} {job : Job} (member : job ∈ s.jobs)
    (queued : job.state = .queued) (taken : ∀ held ∈ lease, held.TakenFrom leaseId s)
    (jobs : s'.jobs = s.jobs.update job.jobId (Job.claimed now workerId claimToken lease))
    (resources : s'.resources = claimedResources now job.jobId lease s.resources) :
    s'.LeaseInvariant := by
  -- Jobs other than the claimed one are rows of both stores.
  have others : ∀ other : Job, other.jobId ≠ job.jobId → (other ∈ s'.jobs ↔ other ∈ s.jobs) := by
    intro other different
    rw [jobs, Table.mem_update]
    constructor
    · rintro ⟨old, inOld, rfl⟩
      by_cases same : key old = job.jobId
      · rw [if_pos same] at different
        exact absurd same different
      · rwa [if_neg same]
    · exact fun inOld => ⟨other, inOld, if_neg different⟩
  have isClaimed : ∀ other ∈ s'.jobs, other.jobId = job.jobId →
      other = job.claimed now workerId claimToken lease := by
    intro other inJobs same
    rw [jobs, Table.mem_update] at inJobs
    obtain ⟨old, inOld, rfl⟩ := inJobs
    by_cases sameOld : key old = job.jobId
    · rw [if_pos sameOld, Table.eq_of_key_eq inOld member sameOld]
    · rw [if_neg sameOld] at same
      exact absurd same sameOld
  have claimedMember : job.claimed now workerId claimToken lease ∈ s'.jobs := by
    rw [jobs, Table.mem_update]
    exact ⟨job, member, if_pos rfl⟩
  have notJob : ∀ other ∈ s.jobs, other.state = .running → other.jobId ≠ job.jobId := by
    intro other inJobs running same
    rw [Table.eq_of_key_eq inJobs member same, queued] at running
    cases running
  cases lease with
  | none =>
      have unchanged : s'.resources = s.resources := resources
      refine LeasesAgree.mk ?_ ?_
      · intro other inJobs running resourceId named
        by_cases same : other.jobId = job.jobId
        · rw [isClaimed other inJobs same] at named
          cases named
        · rw [unchanged]
          exact agree.held other ((others other same).mp inJobs) running resourceId named
      · intro resource inTable active
        rw [unchanged] at inTable
        obtain ⟨other, inJobs, running, on⟩ := agree.owned resource inTable active
        exact ⟨other, (others other (notJob other inJobs running)).mpr inJobs, running, on⟩
  | some lease =>
      obtain ⟨free, inFree, available, rfl⟩ := taken lease rfl
      have leased : s'.resources = s.resources.update free.resourceId
          (Resource.leased now job.jobId ⟨free.resourceId, leaseId, free.fencingToken + 1⟩) :=
        resources
      have nobody : ∀ other ∈ s.jobs, ∀ resource ∈ s.resources, other.LeaseOn resource →
          resource.resourceId ≠ free.resourceId := by
        intro other _ resource inTable on same
        have active := on.active
        rw [Table.eq_of_key_eq inTable inFree same, available] at active
        cases active
      refine LeasesAgree.mk ?_ ?_
      · intro other inJobs running resourceId named
        by_cases same : other.jobId = job.jobId
        · rw [isClaimed other inJobs same] at named ⊢
          cases named
          refine ⟨free.leased now job.jobId ⟨free.resourceId, leaseId, free.fencingToken + 1⟩,
            ?_, rfl, rfl, rfl, rfl, rfl, rfl⟩
          rw [leased, Table.mem_update]
          exact ⟨free, inFree, if_pos rfl⟩
        · have inOld := (others other same).mp inJobs
          obtain ⟨resource, inTable, rfl, on⟩ := agree.held other inOld running resourceId named
          refine ⟨resource, ?_, rfl, on⟩
          rw [leased, Table.mem_update]
          exact ⟨resource, inTable, if_neg (nobody other inOld resource inTable on)⟩
      · intro resource inTable active
        rw [leased, Table.mem_update] at inTable
        obtain ⟨old, inOld, rfl⟩ := inTable
        by_cases same : key old = free.resourceId
        · rw [if_pos same, Table.eq_of_key_eq inOld inFree same]
          exact ⟨_, claimedMember, rfl, rfl, rfl, rfl, rfl, rfl⟩
        · rw [if_neg same] at active ⊢
          obtain ⟨other, inJobs, running, on⟩ := agree.owned old inOld active
          exact ⟨other, (others other (notJob other inJobs running)).mpr inJobs, running, on⟩

/-- A heartbeat renews times, which no lease is recorded by. -/
theorem heartbeat (agree : s.LeaseInvariant) {now : Timestamp} {jobId : Uuid}
    {fencingToken : Option Int} (jobs : s'.jobs = s.jobs.update jobId (Job.heard now))
    (resources : s'.resources = heartbeatResources now jobId fencingToken s.resources) :
    s'.LeaseInvariant := by
  have heard : ∀ (p : Prop) [Decidable p] (job : Job),
      (if p then job.heard now else job).state = job.state ∧
        job.SameLease (if p then job.heard now else job) := by
    intro p _ job
    split <;> exact ⟨rfl, rfl, rfl, rfl, rfl⟩
  have jobsKept : Store.LeaseInvariant { s with jobs := s'.jobs } := by
    refine LeasesAgree.rewrite_jobs agree rfl ?_ ?_
    · intro job' member counted
      rw [jobs, Table.mem_update] at member
      obtain ⟨old, inOld, rfl⟩ := member
      obtain ⟨state, same⟩ := heard (key old = jobId) old
      exact ⟨old, inOld, state ▸ counted, same⟩
    · intro old inOld counted
      obtain ⟨state, same⟩ := heard (key old = jobId) old
      refine ⟨if key old = jobId then old.heard now else old, ?_, state.trans counted, same⟩
      rw [jobs, Table.mem_update]
      exact ⟨old, inOld, rfl⟩
  cases fencingToken with
  | none =>
      have unchanged : s'.resources = s.resources := resources
      exact LeasesAgree.of_queue jobsKept unchanged rfl
  | some token =>
      have rewritten : s'.resources = s.resources.updateWhere
          (fun resource => decide (resource.ownerJobId = some jobId ∧
            resource.fencingToken = token)) (Resource.renewed now) := resources
      have renewed : ∀ (owned : Bool) (resource : Resource),
          (if owned then resource.renewed now else resource).state = resource.state ∧
          (if owned then resource.renewed now else resource).resourceId = resource.resourceId ∧
          ∀ job : Job, job.LeaseOn resource →
            job.LeaseOn (if owned then resource.renewed now else resource) := by
        intro owned resource
        split
        · exact ⟨rfl, rfl, fun job on => ⟨on.named, on.active, on.owner, on.lease, on.token⟩⟩
        · exact ⟨rfl, rfl, fun job on => on⟩
      refine LeasesAgree.rewrite_idle jobsKept rfl ?_ ?_
      · intro resource inTable _
        refine ⟨_, ?_, (renewed (decide (resource.ownerJobId = some jobId ∧
          resource.fencingToken = token)) resource).2⟩
        rw [rewritten, Table.mem_updateWhere]
        exact ⟨resource, inTable, rfl⟩
      · intro resource' inTable' active
        rw [rewritten, Table.mem_updateWhere] at inTable'
        obtain ⟨resource, inTable, rfl⟩ := inTable'
        exact ⟨resource, inTable, (renewed _ resource).1 ▸ active, (renewed _ resource).2.2⟩

/-- A cleanup report moves a resource that is not leased. -/
theorem cleanup (agree : s.LeaseInvariant) {resourceId : String} {resource : Resource}
    (found : s.resources.find? resourceId = some resource) (idle : resource.state ≠ .active)
    {cleanupEvidence : Json.Object} (jobs : s'.jobs = s.jobs)
    (resources : s'.resources =
      s.resources.update resourceId (Resource.cleaned cleanupEvidence)) :
    s'.LeaseInvariant := by
  have isResource : ∀ other ∈ s.resources, key other = resourceId → other = resource := by
    intro other inTable same
    exact Option.some.inj ((Table.find?_of_mem inTable).symm.trans (same ▸ found))
  refine LeasesAgree.rewrite_idle agree jobs ?_ ?_
  · intro other inTable active
    have apart : key other ≠ resourceId := by
      intro same
      rw [isResource other inTable same] at active
      exact idle active
    refine ⟨other, ?_, rfl, fun _ on => on⟩
    rw [resources, Table.mem_update]
    exact ⟨other, inTable, if_neg apart⟩
  · intro other' inTable' active
    rw [resources, Table.mem_update] at inTable'
    obtain ⟨other, inTable, rfl⟩ := inTable'
    by_cases same : key other = resourceId
    · rw [if_pos same] at active
      unfold Resource.cleaned cleanupState at active
      split at active <;> cases active
    · rw [if_neg same] at active ⊢
      exact ⟨other, inTable, active, fun _ on => on⟩

/-- Cancelling a task ends every job that held one of the released resources. -/
theorem cancelTask (agree : s.LeaseInvariant) {now : Timestamp} {taskId : Uuid} {reason : String}
    (resources : s'.resources =
      (releaseAll "task_cancelled" (s.runningJobsOf taskId) s).resources)
    (jobs : s'.jobs = s.jobs.updateWhere (fun job => decide (job.LiveOf taskId))
      (Job.cancelledWithTask now reason)) : s'.LeaseInvariant := by
  have distinct : (s.runningJobsOf taskId).Nodup :=
    (List.Nodup.of_map _ s.jobs.keys_nodup).filter _
  have members : ∀ job ∈ s.runningJobsOf taskId, job ∈ s.jobs ∧ job.state = .running := by
    intro job inside
    simp only [Store.runningJobsOf, List.mem_filter, decide_eq_true_eq] at inside
    exact ⟨inside.1, inside.2.2⟩
  have released := LeasesAgree.releaseAll "task_cancelled" _ agree members distinct
  have alive : ∀ job ∈ s.jobs, job.state = .running →
      (job ∈ s.runningJobsOf taskId ↔ job.LiveOf taskId) := by
    intro job member running
    simp only [Store.runningJobsOf, List.mem_filter, decide_eq_true_eq]
    exact ⟨fun inside => inside.2.1, fun live => ⟨member, live, running⟩⟩
  refine released.rewrite_jobs resources ?_ ?_
  · intro job' member counted
    rw [jobs] at member
    obtain ⟨old, inOld, rfl⟩ := Table.mem_updateWhere.mp member
    by_cases live : old.LiveOf taskId
    · rw [if_pos (decide_eq_true live)] at counted
      cases counted
    · rw [if_neg (by simpa using live)] at counted ⊢
      refine ⟨old, by simpa using inOld, ⟨counted, ?_⟩, rfl, rfl, rfl, rfl⟩
      exact fun inside => live ((alive old inOld counted).mp inside)
  · rintro old inOld ⟨counted, outside⟩
    have inOld : old ∈ s.jobs := by simpa using inOld
    refine ⟨old, ?_, counted, rfl, rfl, rfl, rfl⟩
    rw [jobs]
    refine Table.mem_updateWhere.mpr ⟨old, inOld, if_neg ?_⟩
    exact fun live => outside ((alive old inOld counted).mpr (of_decide_eq_true live))

end Store.LeaseInvariant

/-! ## Recovery of a batch -/

/-- Recovering a batch of distinct running jobs keeps the invariant. -/
theorem leaseInvariant_of_recoverAll {driver : Driver} {now : Timestamp} {jobs : List Job}
    {s s' : Store} (ok : jobs.foldlM (recoverJob driver now) s = .ok s')
    (running : ∀ job ∈ jobs, s.jobs.find? job.jobId = some job ∧ job.state = .running)
    (distinct : (jobs.map Job.jobId).Nodup) (agree : s.LeaseInvariant) : s'.LeaseInvariant := by
  induction jobs generalizing s with
  | nil =>
      cases ok
      exact agree
  | cons job jobs ih =>
      rw [List.foldlM_cons] at ok
      obtain ⟨t, recovered, ok⟩ := Except.bind_eq_ok.mp ok
      rw [List.map_cons, List.nodup_cons] at distinct
      obtain ⟨found, isRunning⟩ := running job List.mem_cons_self
      have effect := recoverJob_effect recovered
      have ended : (Job.afterRecovery now job).state ≠ .running := by
        unfold Job.afterRecovery
        split <;> simp
      refine ih ok ?_ distinct.2
        (Store.LeaseInvariant.finish agree found isRunning _ _ ended effect.resources effect.jobs)
      intro other inside
      obtain ⟨foundOther, runningOther⟩ := running other (List.mem_cons_of_mem _ inside)
      refine ⟨?_, runningOther⟩
      have apart : other.jobId ≠ job.jobId := fun same =>
        distinct.1 (same ▸ List.mem_map_of_mem inside)
      rw [effect.jobs, Table.find?_update_ne apart]
      exact foundOther

theorem Store.staleJobs_distinct (s : Store) (now : Timestamp) (staleAfterSeconds : Int)
    (locks : Locks) : ((s.staleJobs now staleAfterSeconds locks).map Job.jobId).Nodup := by
  have sorted := List.perm_insertionSort Job.HeardBefore (s.jobs.rows.filter fun job =>
    decide (job.Stale now staleAfterSeconds) && !locks.job job.jobId)
  rw [Store.staleJobs, (sorted.map Job.jobId).nodup_iff]
  exact (List.filter_sublist.map Job.jobId).nodup s.jobs.keys_nodup

/-! ## Every accepted call -/

/-- Every accepted call keeps the invariant. -/
theorem leaseInvariant_of_run {driver : Driver} {call : QueueCall} {s s' : Store}
    {reply : Option Job} (ok : call.run driver s = .ok (s', reply)) (agree : s.LeaseInvariant) :
    s'.LeaseInvariant := by
  cases call with
  | registerWorker request =>
      obtain ⟨row, ok, -⟩ := unobserved_eq_ok ok
      obtain ⟨-, jobs, same | ⟨resourceId, resources⟩⟩ := registerWorker_effect ok
      · exact agree.of_queue same jobs
      · exact agree.register jobs resources
  | enqueueJob now jobId request =>
      obtain ⟨row, ok, -⟩ := observed_eq_ok ok
      rcases enqueueJob_effect ok with ⟨rfl, -, -⟩ | ⟨-, -, -, rfl, rfl⟩
      · exact agree
      · exact agree.enqueue rfl
  | claimJob now claimToken leaseId locks workerId =>
      rcases claimJob_effect ok with ⟨-, rfl⟩ | ⟨worker, job, lease, -, member, claimable, taken,
        -, jobs, resources, -⟩
      · exact agree
      · exact agree.claim member claimable.1 taken jobs resources
  | heartbeatJob now workerId jobId claimToken fencingToken =>
      obtain ⟨u, ok, -⟩ := unobserved_eq_ok ok
      obtain ⟨job, -, -, rfl⟩ := heartbeatJob_effect ok
      exact agree.heartbeat rfl rfl
  | completeJob now jobId claimToken fencingToken result =>
      obtain ⟨row, ok, -⟩ := observed_eq_ok ok
      rcases completeJob_effect ok with ⟨rfl, -⟩ | ⟨job, owner, -, rfl⟩
      · exact agree
      · obtain ⟨found, running, -, -⟩ := assertJobOwner_effect owner
        exact agree.finish found running _ _ (by simp [Job.completed]) rfl rfl
  | failJob now jobId claimToken fencingToken error retryable cleanupEvidence =>
      obtain ⟨row, ok, -⟩ := observed_eq_ok ok
      obtain ⟨job, retry, owner, -, -, converged⟩ := failJob_effect ok
      have same := convergeUnlessRetried_sameQueue converged
      obtain ⟨found, running, -, -⟩ := assertJobOwner_effect owner
      have ended : (Job.afterFailure now error retry job).state ≠ .running := by
        unfold Job.afterFailure
        split <;> simp
      exact agree.finish found running _ _ ended same.resources same.jobs
  | recoverStaleJobs now staleAfterSeconds locks =>
      obtain ⟨recovered, ok, -⟩ := unobserved_eq_ok ok
      obtain ⟨folded, -⟩ := recoverStaleJobs_effect ok
      refine leaseInvariant_of_recoverAll folded ?_ (s.staleJobs_distinct _ _ _) agree
      intro job inside
      obtain ⟨member, stale, -⟩ := Store.mem_staleJobs.mp inside
      exact ⟨Table.find?_of_mem member, stale.1⟩
  | cancelJob now jobId reason =>
      obtain ⟨row, ok, -⟩ := observed_eq_ok ok
      obtain ⟨job, found, ⟨-, rfl, -⟩ | ⟨live, -, ended⟩⟩ := cancelJob_effect ok
      · exact agree
      · have same : SameQueue _ s' :=
          ended ▸ failEndpointAdjudicationAfterJobFailure_sameQueue job _
        by_cases running : job.state = .running
        · rw [if_pos running] at same
          exact agree.finish found running _ _ (by simp [Job.cancelledAlone]) same.resources
            same.jobs
        · rw [if_neg running] at same
          refine agree.rewrite_waiting same.resources same.jobs ?_ (by simp [Job.cancelledAlone])
          intro other member isJob
          have sameKey : key other = jobId := of_decide_eq_true isJob
          have same : other = job :=
            Option.some.inj ((Table.find?_of_mem member).symm.trans (sameKey ▸ found))
          exact same ▸ running
  | cancelFrameworkTask now taskId reason =>
      obtain ⟨u, ok, -⟩ := unobserved_eq_ok ok
      rcases cancelFrameworkTask_effect ok with ⟨rfl, -⟩ | ⟨resources, jobs, -⟩
      · exact agree
      · exact agree.cancelTask resources jobs
  | cancelScriptedSearchRound now roundId reason =>
      obtain ⟨row, ok, -⟩ := unobserved_eq_ok ok
      rcases cancelScriptedSearchRound_effect ok with rfl | ⟨taskId, resources, jobs, -⟩
      · exact agree
      · refine agree.rewrite_waiting resources jobs ?_ (by simp [Job.cancelledWithRound])
        intro job _ chosen
        simp only [decide_eq_true_eq] at chosen
        simp [chosen.2]
  | reportResourceCleanup resourceId fencingToken cleanupEvidence =>
      obtain ⟨row, ok, -⟩ := unobserved_eq_ok ok
      obtain ⟨resource, found, -, ended, rfl⟩ := reportResourceCleanup_effect ok
      have idle : resource.state ≠ .active := by
        intro active
        simp [active] at ended
      exact agree.cleanup found idle rfl rfl

/-! ## Fencing tokens -/

/-- No resource disappears and no fencing token decreases. -/
def TokensGrow (s s' : Store) : Prop :=
  ∀ resourceId resource, s.resources.find? resourceId = some resource →
    ∃ resource', s'.resources.find? resourceId = some resource' ∧
      resource.fencingToken ≤ resource'.fencingToken

namespace TokensGrow

theorem refl (s : Store) : TokensGrow s s :=
  fun _ resource found => ⟨resource, found, le_refl _⟩

theorem trans (s t u : Store) (first : TokensGrow s t) (second : TokensGrow t u) :
    TokensGrow s u := by
  intro resourceId resource found
  obtain ⟨middle, foundMiddle, le⟩ := first resourceId resource found
  obtain ⟨last, foundLast, le'⟩ := second resourceId middle foundMiddle
  exact ⟨last, foundLast, le.trans le'⟩

theorem of_same {s s' : Store} (resources : s'.resources = s.resources) : TokensGrow s s' := by
  intro resourceId resource found
  exact ⟨resource, resources ▸ found, le_refl _⟩

/-- Rewriting resources without lowering a token. -/
theorem of_updateWhere {s s' : Store} {p : Resource → Bool} {f : Resource → Resource}
    [KeepsKey f] (resources : s'.resources = s.resources.updateWhere p f)
    (grows : ∀ resource ∈ s.resources, p resource = true →
      resource.fencingToken ≤ (f resource).fencingToken) : TokensGrow s s' := by
  intro resourceId resource found
  refine ⟨if p resource then f resource else resource, ?_, ?_⟩
  · rw [resources, Table.find?_updateWhere, found]
    rfl
  · by_cases chosen : p resource = true
    · rw [if_pos chosen]
      exact grows resource (Table.mem_of_find? found) chosen
    · rw [if_neg chosen]

theorem of_release {s s' : Store} {job : Job} {reason : String}
    {cleanupEvidence : Option Json.Object}
    (resources : s'.resources = (releaseResource job reason cleanupEvidence s).resources) :
    TokensGrow s s' :=
  of_updateWhere resources fun _ _ _ => le_refl _

theorem of_releaseAll {s s' : Store} {reason : String} {jobs : List Job}
    (resources : s'.resources = (releaseAll reason jobs s).resources) : TokensGrow s s' := by
  induction jobs generalizing s with
  | nil => exact of_same resources
  | cons job jobs ih => exact trans _ _ _ (of_release rfl) (ih resources)

theorem of_recoverAll {driver : Driver} {now : Timestamp} {jobs : List Job} {s s' : Store}
    (ok : jobs.foldlM (recoverJob driver now) s = .ok s') : TokensGrow s s' := by
  induction jobs generalizing s with
  | nil =>
      cases ok
      exact refl _
  | cons job jobs ih =>
      rw [List.foldlM_cons] at ok
      obtain ⟨t, recovered, ok⟩ := Except.bind_eq_ok.mp ok
      exact trans _ _ _ (of_release (recoverJob_effect recovered).resources) (ih ok)

end TokensGrow

/-- A claim that leases a resource raises its token. -/
theorem claimJob_raises_token {now : Timestamp} {claimToken leaseId : Uuid} {locks : Locks}
    {workerId : String} {s s' : Store} {row : Job}
    (ok : claimJob now claimToken leaseId locks workerId s = .ok (s', some row))
    {resourceId : String} (named : row.resourceId = some resourceId) :
    ∃ resource resource', s.resources.find? resourceId = some resource ∧
      s'.resources.find? resourceId = some resource' ∧
      resource.fencingToken < resource'.fencingToken := by
  rcases claimJob_effect ok with ⟨none, -⟩ | ⟨worker, job, lease, -, -, -, taken, same, -, resources, -⟩
  · cases none
  · cases lease with
    | none =>
        cases same
        cases named
    | some lease =>
        obtain ⟨free, inFree, -, rfl⟩ := taken lease rfl
        cases same
        cases named
        refine ⟨free, free.leased now job.jobId ⟨free.resourceId, leaseId, free.fencingToken + 1⟩,
          Table.find?_of_mem inFree, ?_, Int.lt_succ free.fencingToken⟩
        rw [resources, claimedResources, Table.find?_update_self]
        exact congrArg (Option.map _) (Table.find?_of_mem inFree)

/-- No accepted call lowers a token. -/
theorem tokensGrow_of_run {driver : Driver} {call : QueueCall} {s s' : Store}
    {reply : Option Job} (ok : call.run driver s = .ok (s', reply)) : TokensGrow s s' := by
  cases call with
  | registerWorker request =>
      obtain ⟨row, ok, -⟩ := unobserved_eq_ok ok
      obtain ⟨-, -, same | ⟨resourceId, resources⟩⟩ := registerWorker_effect ok
      · exact .of_same same
      · intro known resource found
        refine ⟨resource, ?_, le_refl _⟩
        rw [resources]
        exact Table.find?_insertIfAbsent_of_some found
  | enqueueJob now jobId request =>
      obtain ⟨row, ok, -⟩ := observed_eq_ok ok
      rcases enqueueJob_effect ok with ⟨rfl, -, -⟩ | ⟨-, -, -, rfl, rfl⟩
      · exact .refl _
      · exact .of_same rfl
  | claimJob now claimToken leaseId locks workerId =>
      rcases claimJob_effect ok with ⟨-, rfl⟩ | ⟨worker, job, lease, -, -, -, taken, -, -, resources, -⟩
      · exact .refl _
      · cases lease with
        | none => exact .of_same resources
        | some lease =>
            obtain ⟨free, inFree, -, rfl⟩ := taken lease rfl
            refine .of_updateWhere resources fun resource inTable chosen => ?_
            have same : resource = free :=
              Table.eq_of_key_eq inTable inFree (of_decide_eq_true chosen)
            subst same
            exact (Int.lt_succ resource.fencingToken).le
  | heartbeatJob now workerId jobId claimToken fencingToken =>
      obtain ⟨u, ok, -⟩ := unobserved_eq_ok ok
      obtain ⟨job, -, -, rfl⟩ := heartbeatJob_effect ok
      cases fencingToken with
      | none => exact .of_same rfl
      | some token => exact .of_updateWhere rfl fun _ _ _ => le_refl _
  | completeJob now jobId claimToken fencingToken result =>
      obtain ⟨row, ok, -⟩ := observed_eq_ok ok
      rcases completeJob_effect ok with ⟨rfl, -⟩ | ⟨job, -, -, rfl⟩
      · exact .refl _
      · exact .of_release rfl
  | failJob now jobId claimToken fencingToken error retryable cleanupEvidence =>
      obtain ⟨row, ok, -⟩ := observed_eq_ok ok
      obtain ⟨job, retry, -, -, -, converged⟩ := failJob_effect ok
      have same := convergeUnlessRetried_sameQueue converged
      exact .of_release same.resources
  | recoverStaleJobs now staleAfterSeconds locks =>
      obtain ⟨recovered, ok, -⟩ := unobserved_eq_ok ok
      exact .of_recoverAll (recoverStaleJobs_effect ok).1
  | cancelJob now jobId reason =>
      obtain ⟨row, ok, -⟩ := observed_eq_ok ok
      obtain ⟨job, -, ⟨-, rfl, -⟩ | ⟨-, -, ended⟩⟩ := cancelJob_effect ok
      · exact .refl _
      · have same : SameQueue _ s' :=
          ended ▸ failEndpointAdjudicationAfterJobFailure_sameQueue job _
        by_cases running : job.state = .running
        · rw [if_pos running] at same
          exact .of_release same.resources
        · rw [if_neg running] at same
          exact .of_same same.resources
  | cancelFrameworkTask now taskId reason =>
      obtain ⟨u, ok, -⟩ := unobserved_eq_ok ok
      rcases cancelFrameworkTask_effect ok with ⟨rfl, -⟩ | ⟨resources, -⟩
      · exact .refl _
      · exact .of_releaseAll resources
  | cancelScriptedSearchRound now roundId reason =>
      obtain ⟨row, ok, -⟩ := unobserved_eq_ok ok
      rcases cancelScriptedSearchRound_effect ok with rfl | ⟨taskId, resources, -⟩
      · exact .refl _
      · exact .of_same resources
  | reportResourceCleanup resourceId fencingToken cleanupEvidence =>
      obtain ⟨row, ok, -⟩ := unobserved_eq_ok ok
      obtain ⟨resource, -, -, -, rfl⟩ := reportResourceCleanup_effect ok
      exact .of_updateWhere rfl fun _ _ _ => le_refl _

/-! ## Whole runs -/

theorem leaseInvariant_of_step {driver : Driver} {s s' : Store} {event : QueueEvent}
    (agree : s.LeaseInvariant) (step : QueueStep driver s event s') : s'.LeaseInvariant := by
  rcases step.cases_on_reply with ⟨call, e, -, rfl⟩ | ⟨call, reply, -, ok⟩ | ⟨-, work⟩
  · exact agree
  · exact leaseInvariant_of_run ok agree
  · exact agree.otherWork work

theorem tokensGrow_of_step {driver : Driver} {s s' : Store} {event : QueueEvent}
    (step : QueueStep driver s event s') : TokensGrow s s' := by
  rcases step.cases_on_reply with ⟨call, e, -, rfl⟩ | ⟨call, reply, -, ok⟩ | ⟨-, work⟩
  · exact .refl _
  · exact tokensGrow_of_run ok
  · exact .of_same work.resources

/-- Every state of a run from an empty queue satisfies the invariant. -/
theorem leaseInvariant_of_steps {driver : Driver} {s₀ s : Store} {trace : List QueueEvent}
    (noJobs : s₀.jobs = ∅) (noResources : s₀.resources = ∅)
    (run : Steps (QueueStep driver) s₀ trace s) : s.LeaseInvariant := by
  refine run.invariant (fun _ _ _ agree step => leaseInvariant_of_step agree step) ⟨?_, ?_⟩
  · intro job member
    rw [noJobs] at member
    exact absurd member (Table.not_mem_empty job)
  · intro resource member
    rw [noResources] at member
    exact absurd member (Table.not_mem_empty resource)

/-- **Leases are exclusive and fenced.** In every state of a run from an empty queue a
resource is active exactly when one running job names it, the two rows then agree on
owner, lease and token, and no two running jobs name one resource. From there on tokens
never decrease, and every claim that leases a resource raises its token. -/
theorem lease_exclusivity (driver : Driver) {s₀ s : Store} {trace : List QueueEvent}
    (noJobs : s₀.jobs = ∅) (noResources : s₀.resources = ∅)
    (run : Steps (QueueStep driver) s₀ trace s) :
    (∀ resource ∈ s.resources, resource.state = .active ↔
      ∃! job, job ∈ s.jobs ∧ job.state = .running ∧
        job.resourceId = some resource.resourceId) ∧
    (∀ job ∈ s.jobs, job.state = .running → ∀ resourceId ∈ job.resourceId,
      ∃ resource, s.resources.find? resourceId = some resource ∧ resource.state = .active ∧
        resource.ownerJobId = some job.jobId ∧ resource.leaseId = job.leaseId ∧
        some resource.fencingToken = job.fencingToken) ∧
    (∀ job ∈ s.jobs, ∀ job' ∈ s.jobs, job.state = .running → job'.state = .running →
      job.resourceId ≠ none → job.resourceId = job'.resourceId → job = job') ∧
    (∀ rest t, Steps (QueueStep driver) s rest t → TokensGrow s t) ∧
    (∀ now claimToken leaseId locks workerId t row,
      claimJob now claimToken leaseId locks workerId s = .ok (t, some row) →
      ∀ resourceId ∈ row.resourceId, ∃ resource resource',
        s.resources.find? resourceId = some resource ∧
        t.resources.find? resourceId = some resource' ∧
        resource.fencingToken < resource'.fencingToken) := by
  have agree := leaseInvariant_of_steps noJobs noResources run
  have unique : ∀ job ∈ s.jobs, ∀ job' ∈ s.jobs, job.state = .running → job'.state = .running →
      job.resourceId ≠ none → job.resourceId = job'.resourceId → job = job' := by
    intro job member job' member' running running' named same
    obtain ⟨resourceId, bound⟩ := Option.ne_none_iff_exists'.mp named
    obtain ⟨resource, inTable, rfl, on⟩ := agree.held job member running resourceId bound
    obtain ⟨resource', inTable', sameId, on'⟩ :=
      agree.held job' member' running' resource.resourceId (same ▸ bound)
    have sameRow : resource' = resource := Table.eq_of_key_eq inTable' inTable sameId
    subst sameRow
    exact on.job_unique member member' on'
  refine ⟨?_, ?_, unique, ?_, ?_⟩
  · intro resource inTable
    constructor
    · intro active
      obtain ⟨job, member, running, on⟩ := agree.owned resource inTable active
      refine ⟨job, ⟨member, running, on.named⟩, ?_⟩
      rintro other ⟨memberOther, runningOther, namedOther⟩
      exact unique other memberOther job member runningOther running (by simp [namedOther])
        (namedOther.trans on.named.symm)
    · rintro ⟨job, ⟨member, running, named⟩, -⟩
      obtain ⟨held, inHeld, same, on⟩ := agree.held job member running resource.resourceId named
      have sameRow : held = resource := Table.eq_of_key_eq inHeld inTable same
      subst sameRow
      exact on.active
  · intro job member running resourceId named
    obtain ⟨resource, inTable, rfl, on⟩ := agree.held job member running resourceId named
    exact ⟨resource, Table.find?_of_mem inTable, on.active, on.owner, on.lease, on.token.symm⟩
  · intro rest t steps
    exact steps.relate (fun _ _ _ _ _ => trivial) TokensGrow.refl TokensGrow.trans
      (fun _ _ _ _ step => tokensGrow_of_step step) trivial
  · intro now claimToken leaseId locks workerId t row ok resourceId named
    exact claimJob_raises_token ok named

/-- A worker brings an accelerator, and claims a job that needs it alone. -/
def leasingCalls : List QueueCall :=
  [.registerWorker { workerId := "gpu-0", workerType := .gpu },
    .enqueueJob 0 10
      { taskId := 1, jobType := .profile, acceptedWorkerType := .gpu,
        idempotencyKey := "profile:1", leaseScope := .exclusive },
    .claimJob 1 20 30 {} "gpu-0"]

/-- A store with one task and an empty queue. -/
def oneTask (workflowType : WorkflowType) (state : TaskState) : Store :=
  { tasks := (∅ : Table Task).insertIfAbsent { taskId := 1, workflowType, state } }

/-- After the claim the accelerator is active, and one running job names it. -/
theorem lease_exclusivity_leased :
    ∃ resource ∈ (runCalls textDriver leasingCalls (oneTask .optimization .profiling)).resources,
      resource.state = .active ∧
      ∃! job, job ∈ (runCalls textDriver leasingCalls (oneTask .optimization .profiling)).jobs ∧
        job.state = .running ∧ job.resourceId = some resource.resourceId := by
  have exclusive := lease_exclusivity textDriver rfl rfl
    (steps_runCalls textDriver leasingCalls (oneTask .optimization .profiling))
  have leased : ∃ resource ∈
      (runCalls textDriver leasingCalls (oneTask .optimization .profiling)).resources.rows,
      resource.state = .active := by
    decide
  obtain ⟨resource, inTable, active⟩ := leased
  exact ⟨resource, inTable, active, (exclusive.1 resource inTable).mp active⟩

end HcuAutoOpt
