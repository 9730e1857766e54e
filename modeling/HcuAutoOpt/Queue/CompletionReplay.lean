import HcuAutoOpt.Queue.ScopedLeases

/-!
# Repeated completions

A worker that did not hear the reply to its completion sends it again. The first completion
is accepted by the ownership check, which compares the fencing token with the leased resource
and with nothing where the job has none; a repetition is compared with the stored row, whose
result is what the database gives back of the first one. The two agree when the job has a
resource or the caller gives no token, and the result reads back (`completion_replays_iff`).

Results are compared as `==` compares them (`Json.alike`).
-/

set_option autoImplicit false

namespace HcuAutoOpt

open Foundation

/-! ## A completion of a job that has succeeded -/

section Succeeded

variable {s : Store} {jobId : Uuid} {job : Job}

/-- The completion that the row records is accepted again. -/
theorem completeJob_again (found : s.jobs.find? jobId = some job)
    (succeeded : job.state = .succeeded) {claimToken : Uuid} {result : Json.Object}
    (token : job.claimToken = some claimToken) (held : job.HasResult result) (now : Timestamp) :
    completeJob now jobId claimToken job.fencingToken result s = .ok (s, job) := by
  simp [completeJob, found, requireRow, succeeded, token, held, require, pure, Except.pure, bind,
    Except.bind]

/-- Any other completion is refused. -/
theorem completeJob_other (found : s.jobs.find? jobId = some job)
    (succeeded : job.state = .succeeded) (now : Timestamp) (claimToken : Uuid)
    (fencingToken : Option Int) (result : Json.Object)
    (other : ¬(job.claimToken = some claimToken ∧ job.fencingToken = fencingToken ∧
      job.HasResult result)) :
    ∃ e, completeJob now jobId claimToken fencingToken result s = .error e := by
  cases accepted : completeJob now jobId claimToken fencingToken result s with
  | error e => exact ⟨e, rfl⟩
  | ok pair =>
      exfalso
      rcases completeJob_effect accepted with ⟨-, found', -, token, fencing, held⟩ |
        ⟨owner, owns, -, -⟩
      · rw [found] at found'
        cases found'
        exact other ⟨token, fencing, held⟩
      · obtain ⟨found', running, -, -⟩ := assertJobOwner_effect owns
        rw [found] at found'
        cases found'
        rw [succeeded] at running
        cases running

end Succeeded

/-! ## Repetitions along a run -/

/-- Two results of one row equal each other. -/
theorem Job.HasResult.alike {job : Job} {first second : Json.Object}
    (has : job.HasResult first) (has' : job.HasResult second) :
    Json.alike (.obj second) (.obj first) = true := by
  obtain ⟨stored, here, same⟩ := has
  obtain ⟨stored', here', same'⟩ := has'
  cases here.symm.trans here'
  rw [← Json.alike_congr same']
  exact same

/-- In a later state, the completion that was answered with `row` is accepted again with the
same row, which is at most marked advanced, and every other completion is refused; neither
changes anything. -/
structure CompletionReplays (jobId claimToken : Uuid) (fencingToken : Option Int)
    (result : Json.Object) (row : Job) (t : Store) : Prop where
  again : ∀ now, ∃ advanced,
    commit (completeJob now jobId claimToken fencingToken result) t =
      (t, .ok { row with workflowAdvancedAt := advanced })
  other : ∀ now claimToken' fencingToken' result',
    ¬(claimToken' = claimToken ∧ fencingToken' = fencingToken ∧
      Json.alike (.obj result') (.obj result) = true) →
      ∃ e, commit (completeJob now jobId claimToken' fencingToken' result') t = (t, .error e)

/-- What an accepted completion leaves: the row it replies with, which has its claim token. The
row has its fencing token and its result as well, unless it completed a running job that has no
resource for the token, or its result does not read back. -/
theorem completeJob_leaves {driver : Driver} {s₀ s s₁ : Store} {trace : List QueueEvent}
    (noJobs : s₀.jobs = ∅) (noResources : s₀.resources = ∅)
    (run : Steps (QueueStep driver) s₀ trace s) {now : Timestamp} {jobId claimToken : Uuid}
    {fencingToken : Option Int} {result : Json.Object} {row : Job}
    (ok : completeJob now jobId claimToken fencingToken result s = .ok (s₁, row)) :
    s₁.jobs.find? jobId = some row ∧ row.state = .succeeded ∧ row.claimToken = some claimToken ∧
      (row.fencingToken = fencingToken ∧ row.HasResult result ↔
        ∀ job, s.jobs.find? jobId = some job → job.state = .running →
          (job.resourceId = none → fencingToken = none) ∧
            Json.readsBack (.obj result) = true) := by
  rcases completeJob_effect ok with ⟨rfl, found, succeeded, token, fencing, held⟩ |
    ⟨job, owns, rfl, rfl⟩
  · refine ⟨found, succeeded, token, iff_of_true ⟨fencing, held⟩ fun job here running => ?_⟩
    rw [found] at here
    cases here
    rw [succeeded] at running
    cases running
  · obtain ⟨found, running, token, owned⟩ := assertJobOwner_effect owns
    have fits := leaseFits_of_steps noJobs run found
    refine ⟨?_, rfl, token, ?_⟩
    · rw [releaseResource_jobs, Table.find?_update_self, found]
      rfl
    have fenced : job.fencingToken = fencingToken ↔
        (job.resourceId = none → fencingToken = none) := by
      cases named : job.resourceId with
      | none =>
          have bare := fits.token.mp named
          rw [bare]
          exact ⟨fun same _ => same.symm, fun none => (none rfl).symm⟩
      | some resourceId =>
          -- the token of the lease is the one that the ownership check compared
          obtain ⟨resource, held, -, same⟩ := owned resourceId named
          obtain ⟨leased, inTable, isLeased, on⟩ := (leaseInvariant_of_steps noJobs noResources
            run).held job (Table.mem_of_find? found) running resourceId named
          have atKey : s.resources.find? leased.resourceId = some leased :=
            Table.find?_of_mem inTable
          rw [isLeased, held] at atKey
          cases atKey
          exact iff_of_true (on.token.trans same.symm) fun bare => by cases bare
    have stored : (job.completed now result).HasResult result ↔
        Json.readsBack (.obj result) = true := by
      simp [Job.HasResult, Job.completed, Json.readsBack, Json.jsonb]
    rw [stored, show (job.completed now result).fencingToken = job.fencingToken from rfl, fenced]
    constructor
    · intro both job' here _
      rw [found] at here
      cases here
      exact both
    · intro every
      exact every job found running

/-- **Completions replay exactly with the right token and a result that reads back.** Take any
completion that is accepted in a state of a run from an empty queue. In every later state in
which the job is still succeeded, the same completion is accepted again, with the same row and
without a change, and every completion of the job that differs is refused without a change, if
and only if the completion was itself a repetition, or the job had a resource or the completion
came without a fencing token, and the result equals what the database gives back of it. -/
theorem completion_replays_iff (driver : Driver) {s₀ s s₁ : Store} {trace : List QueueEvent}
    (noJobs : s₀.jobs = ∅) (noResources : s₀.resources = ∅)
    (run : Steps (QueueStep driver) s₀ trace s) {now : Timestamp} {jobId claimToken : Uuid}
    {fencingToken : Option Int} {result : Json.Object} {row : Job}
    (ok : completeJob now jobId claimToken fencingToken result s = .ok (s₁, row)) :
    (∀ rest t, Steps (QueueStep driver) s₁ rest t →
      (∃ job, t.jobs.find? jobId = some job ∧ job.state = .succeeded) →
        CompletionReplays jobId claimToken fencingToken result row t) ↔
    ∀ job, s.jobs.find? jobId = some job → job.state = .running →
      (job.resourceId = none → fencingToken = none) ∧ Json.readsBack (.obj result) = true := by
  obtain ⟨found, succeeded, token, recorded⟩ := completeJob_leaves noJobs noResources run ok
  rw [← recorded]
  constructor
  · intro replays
    obtain ⟨advanced, again⟩ := (replays [] s₁ (.refl s₁) ⟨row, found, succeeded⟩).again now
    by_contra different
    obtain ⟨e, refused⟩ := completeJob_other found succeeded now claimToken fencingToken result
      fun same => different same.2
    rw [commit_of_error refused] at again
    cases again
  · rintro ⟨same, held⟩ rest t later _
    obtain ⟨advanced, stored⟩ := frozen_of_steps later found (.inl succeeded)
    refine ⟨fun now' => ⟨advanced, ?_⟩, fun now' claimToken' fencingToken' result' different => ?_⟩
    · rw [← same]
      exact commit_of_ok (completeJob_again stored succeeded token held now')
    · have otherRow : ¬(row.claimToken = some claimToken' ∧ row.fencingToken = fencingToken' ∧
          row.HasResult result') := by
        rintro ⟨token', fencing', held'⟩
        exact different ⟨Option.some.inj (token'.symm.trans token), fencing'.symm.trans same,
          held.alike held'⟩
      obtain ⟨e, refused⟩ := completeJob_other stored succeeded now' claimToken' fencingToken'
        result' otherRow
      exact ⟨e, commit_of_error refused⟩

/-- A build worker completes a job without a resource, with a fencing token of its own. -/
def strayCalls : List QueueCall :=
  [.registerWorker { workerId := "build-0", workerType := .build },
    .enqueueJob 0 10
      { taskId := 1, jobType := .build, acceptedWorkerType := .build,
        idempotencyKey := "build:stray", maxAttempts_range := maxAttempts_default },
    .claimJob 1 20 30 {} "build-0"]

/-- The completion of a leased job is accepted again afterwards. -/
theorem completion_replays_leased :
    let s := runCalls textDriver leasingCalls (oneTask .optimization .profiling)
    ∃ s₁ row, completeJob 5 10 20 (some 1) [("ok", .bool true)] s = .ok (s₁, row) ∧
      CompletionReplays 10 20 (some 1) [("ok", .bool true)] row s₁ := by
  intro s
  have accepted : ∃ pair, completeJob 5 10 20 (some 1) [("ok", .bool true)] s = .ok pair := by
    cases result : completeJob 5 10 20 (some 1) [("ok", .bool true)] s with
    | ok pair => exact ⟨pair, rfl⟩
    | error e =>
        have succeeds : (completeJob 5 10 20 (some 1) [("ok", .bool true)] s).isOk = true := by
          decide
        rw [result] at succeeds
        cases succeeds
  obtain ⟨⟨s₁, row⟩, ok⟩ := accepted
  have fits : ∀ job, s.jobs.find? 10 = some job → job.state = .running →
      (job.resourceId = none → some (1 : Int) = none) ∧
        Json.readsBack (.obj [("ok", .bool true)]) = true := by
    decide +kernel
  have run := steps_runCalls textDriver leasingCalls (oneTask .optimization .profiling)
  have left := completeJob_leaves rfl rfl run ok
  have replays := (completion_replays_iff textDriver rfl rfl run ok).mpr fits
  exact ⟨s₁, row, ok, replays [] s₁ (.refl s₁) ⟨row, left.1, left.2.1⟩⟩

/-- A completion of a job without a resource is accepted with any token, and refused when it
is repeated. -/
theorem completion_with_stray_token_refused :
    ∃ trace s, Steps (QueueStep textDriver) (oneTask .optimization .profiling) trace s ∧
      ∃ s₁ row, completeJob 5 10 20 (some 7) [] s = .ok (s₁, row) ∧
        (∃ e, completeJob 6 10 20 (some 7) [] s₁ = .error e) ∧
        ∃ again, completeJob 6 10 20 none [] s₁ = .ok (s₁, again) := by
  refine ⟨_, _, steps_runCalls textDriver strayCalls (oneTask .optimization .profiling), ?_⟩
  refine ⟨_, _, rfl, ⟨_, rfl⟩, _, rfl⟩

end HcuAutoOpt
