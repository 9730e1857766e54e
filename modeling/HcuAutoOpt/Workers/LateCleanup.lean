import HcuAutoOpt.Queue.FailClosed
import HcuAutoOpt.Workers.RunOnce

/-!
# Cleanups that come late

A worker infers from any failed call that its lease is lost, and runs the cleanup of its
handler without asking whether the resource has been leased again. So a cleanup may hit
another lease: the answer of a completion that took effect gets lost, the resource it
released is leased to the next worker, and then the first worker cleans up
(`late_cleanup_hits_next_lease`).

While a loop may still run the cleanup (`JobLoop.MayClean`), nothing but a new lease
raises the token of its resource (`ResourceMove.token`). Where no resource is leased
again under such a loop, its own token stays the newest (`WorkerSystem.Fenced`), and no
cleanup meets a later lease (`late_cleanup`).
-/

set_option autoImplicit false

namespace HcuAutoOpt

open Foundation

/-! ## Loops that clean up -/

namespace JobLoop

/-- The main thread is in `_cleanup_job`. -/
def InCleanup : MainPoint → Bool
  | .supplying _ | .cleaning => true
  | _ => false

/-- One of the two threads is executing the cleanup of the handler. -/
def Cleaning (loop : JobLoop) : Prop :=
  InCleanup loop.main = true ∨ loop.heartbeat = .cleaning

instance (loop : JobLoop) : Decidable loop.Cleaning := by
  unfold Cleaning
  infer_instance

/-- The main thread is past every place where it cleans up. -/
def Past : MainPoint → Bool
  | .failing _ | .reporting _ | .returned => true
  | _ => false

/-- One of the two threads may still execute the cleanup. -/
def MayClean (loop : JobLoop) : Prop :=
  Past loop.main = false ∨ loop.heartbeat = .beating ∨ loop.heartbeat = .cleaning ∨
    (loop.heartbeat = .waiting ∧ loop.heartbeatStop = false)

/-- The resource that the loop was leased is active under a later token. -/
def Overtaken (loop : JobLoop) (s : Store) : Prop :=
  ∃ resourceId ∈ loop.job.resourceId, ∃ token ∈ loop.job.fencingToken,
    ∃ resource ∈ s.resources.find? resourceId,
      resource.state = .active ∧ token < resource.fencingToken

instance (loop : JobLoop) (s : Store) : Decidable (loop.Overtaken s) := by
  unfold Overtaken
  infer_instance

instance (loop : JobLoop) : Decidable loop.MayClean := by
  unfold MayClean
  infer_instance

theorem Cleaning.mayClean {loop : JobLoop} (cleaning : loop.Cleaning) : loop.MayClean := by
  rcases cleaning with main | heartbeat
  · left
    revert main
    cases loop.main <;> simp [InCleanup, Past]
  · exact .inr (.inr (.inl heartbeat))

/-- A step keeps the job of the loop, and a loop that is done with cleaning stays so. -/
theorem advance_keeps {driver : Driver} {loop loop' : JobLoop} {event : Event} {s s' : Store}
    (taken : loop.advance driver event s = some (loop', s')) :
    loop'.job = loop.job ∧ (loop'.MayClean → loop.MayClean) := by
  unfold advance at taken
  split at taken
  all_goals grind [MayClean, Past, onSuccess, finish]

/-- A step of a loop leaves the store alone, or is one call of the queue. -/
theorem advance_store {driver : Driver} {loop loop' : JobLoop} {event : Event} {s s' : Store}
    (taken : loop.advance driver event s = some (loop', s')) :
    s' = s ∨ ∃ label, QueueStep driver s label s' := by
  have sent : ∀ (call : QueueCall) (delivery : Delivery), s' = (send driver call delivery s).1 →
      s' = s ∨ ∃ label, QueueStep driver s label s' := by
    rintro call (_ | _ | _) rfl
    · exact .inl rfl
    · exact .inr ⟨_, .call call⟩
    · exact .inr ⟨_, .call call⟩
  unfold advance at taken
  split at taken
  all_goals grind

end JobLoop

/-! ## New leases -/

/-- The resource is leased on the way from one store to the other. -/
def Store.Leases (s s' : Store) (resourceId : String) : Prop :=
  ∃ resource resource', s.resources.find? resourceId = some resource ∧
    s'.resources.find? resourceId = some resource' ∧ resource.state ≠ .active ∧
    resource'.state = .active

instance (s s' : Store) (resourceId : String) : Decidable (s.Leases s' resourceId) :=
  decidable_of_iff
    (∃ resource ∈ s.resources.find? resourceId, ∃ resource' ∈ s'.resources.find? resourceId,
      resource.state ≠ .active ∧ resource'.state = .active)
    (by simp [Store.Leases])

/-- A move that does not lease a resource leaves its token alone. -/
theorem ResourceMove.token {call : QueueCall} {resource resource' : Resource}
    (move : ResourceMove call resource resource')
    (unleased : ¬ (resource.state ≠ .active ∧ resource'.state = .active)) :
    resource'.fencingToken = resource.fencingToken := by
  cases move with
  | kept same => rw [same]
  | leased free active => exact absurd ⟨by simp [free], active⟩ unleased
  | renewed _ _ same | finished _ _ _ _ _ _ same | revoked _ _ _ same
  | reported _ _ _ _ _ same =>
      rw [same]
      rfl

/-- A step that does not lease a resource leaves its token alone. -/
theorem token_of_step {driver : Driver} {s s' : Store} {event : QueueEvent}
    (settled : s.ResourcesSettled) (step : QueueStep driver s event s') {resourceId : String}
    {resource : Resource} (found : s.resources.find? resourceId = some resource)
    (unleased : ¬ s.Leases s' resourceId) :
    ∃ resource', s'.resources.find? resourceId = some resource' ∧
      resource'.fencingToken = resource.fencingToken := by
  obtain ⟨resource', found', rfl | ⟨call, reply, -, move⟩⟩ :=
    resourceMove_of_step settled step found
  · exact ⟨resource', found', rfl⟩
  · refine ⟨resource', found', move.token fun ⟨idle, active⟩ => ?_⟩
    exact unleased ⟨resource, resource', found, found', idle, active⟩

/-- The job that a claim hands out has the token of the resource it is leased. -/
theorem claimJob_token {now : Timestamp} {claimToken leaseId : Uuid} {locks : Locks}
    {workerId : String} {s s' : Store} {row : Job}
    (ok : claimJob now claimToken leaseId locks workerId s = .ok (s', some row))
    {resourceId : String} {token : Int} (named : row.resourceId = some resourceId)
    (fenced : row.fencingToken = some token) :
    ∃ resource, s'.resources.find? resourceId = some resource ∧
      resource.fencingToken = token := by
  rcases claimJob_effect ok with ⟨none, -⟩ | ⟨worker, job, lease, -, -, -, taken, same, -, resources, -⟩
  · cases none
  · cases lease with
    | none =>
        cases same
        cases named
    | some lease =>
        obtain ⟨free, inFree, -, rfl⟩ := taken lease rfl
        cases same
        cases named
        cases fenced
        refine ⟨free.leased now job.jobId ⟨free.resourceId, leaseId, free.fencingToken + 1⟩,
          ?_, rfl⟩
        rw [resources, claimedResources, Table.find?_update_self]
        exact congrArg (Option.map _) (Table.find?_of_mem inFree)

/-! ## Runs without a lease under a live loop -/

namespace WorkerSystem

/-- No resource is leased while a loop with an earlier lease of it may still clean up. -/
def Undisturbed (sys sys' : WorkerSystem) : Prop :=
  ∀ loop ∈ sys.loops, loop.MayClean → ∀ resourceId ∈ loop.job.resourceId,
    ¬ sys.store.Leases sys'.store resourceId

instance (sys sys' : WorkerSystem) : Decidable (sys.Undisturbed sys') := by
  unfold Undisturbed
  infer_instance

/-- The loop's token is the newest of its resource, as long as the loop may clean up. -/
def Newest (loop : JobLoop) (s : Store) : Prop :=
  loop.MayClean → ∀ resourceId token, loop.job.resourceId = some resourceId →
    loop.job.fencingToken = some token →
    ∃ resource, s.resources.find? resourceId = some resource ∧ resource.fencingToken ≤ token

/-- The invariant of undisturbed runs. -/
structure Fenced (sys : WorkerSystem) : Prop where
  settled : sys.store.ResourcesSettled
  newest : ∀ loop ∈ sys.loops, Newest loop sys.store

/-- A loop with the newest token is not overtaken. -/
theorem Newest.not_overtaken {loop : JobLoop} {s : Store} (newest : Newest loop s)
    (mayClean : loop.MayClean) : ¬ loop.Overtaken s := by
  rintro ⟨resourceId, named, token, fenced, resource, found, -, later⟩
  obtain ⟨row, foundRow, le⟩ := newest mayClean resourceId token named fenced
  cases found.symm.trans foundRow
  exact absurd later (not_lt.mpr le)

/-- What a step of the system does to the store and to the loops. -/
theorem step_cases {driver : Driver} {sys sys' : WorkerSystem} {action : Option WorkerAction}
    (step : WorkerStep driver sys action sys') :
    (sys'.store = sys.store ∨ ∃ event, QueueStep driver sys.store event sys'.store) ∧
      ∀ loop' ∈ sys'.loops,
        (∃ loop ∈ sys.loops, loop'.job = loop.job ∧ (loop'.MayClean → loop.MayClean)) ∨
        Newest loop' sys'.store := by
  have kept : ∀ loop' ∈ sys.loops,
      ∃ loop ∈ sys.loops, loop'.job = loop.job ∧ (loop'.MayClean → loop.MayClean) :=
    fun loop' present => ⟨loop', present, rfl, id⟩
  cases step with
  | elsewhere work => exact ⟨.inr ⟨_, .elsewhere work⟩, fun loop' present => .inl (kept _ present)⟩
  | act action taken =>
      cases action with
      | control call =>
          cases taken
          exact ⟨.inr ⟨_, .call call⟩, fun loop' present => .inl (kept _ present)⟩
      | loop index event =>
          simp only [act, Option.bind_eq_bind, Option.bind_eq_some_iff, Option.pure_def,
            Option.some.injEq, Prod.exists] at taken
          obtain ⟨loop, here, loop', store, advanced, rfl⟩ := taken
          refine ⟨JobLoop.advance_store advanced, fun other present => .inl ?_⟩
          rcases List.mem_or_eq_of_mem_set present with old | rfl
          · exact kept other old
          · obtain ⟨same, less⟩ := JobLoop.advance_keeps advanced
            exact ⟨loop, List.mem_of_getElem? here, same, less⟩
      | claim workerId now claimToken leaseId locks delivery =>
          have sent : (send driver (.claimJob now claimToken leaseId locks workerId) delivery
                sys.store).1 = sys.store ∨
              ∃ event, QueueStep driver sys.store event
                (send driver (.claimJob now claimToken leaseId locks workerId) delivery
                  sys.store).1 := by
            cases delivery with
            | undelivered => exact .inl rfl
            | lost | answered => exact .inr ⟨_, .call _⟩
          simp only [act] at taken
          split at taken
          · split at taken
            · rename_i job replied
              cases taken
              refine ⟨sent, fun other present => ?_⟩
              rcases List.mem_append.mp present with old | new
              · exact .inl (kept other old)
              · rw [List.mem_singleton.mp new]
                refine .inr fun _ resourceId token named fenced => ?_
                rcases commit_cases ((QueueCall.claimJob now claimToken leaseId locks
                  workerId).run driver) sys.store with ⟨e, -, same⟩ | ⟨t, reply, ok, same⟩
                · rw [same] at replied
                  cases replied
                · rw [same] at replied
                  cases replied
                  obtain ⟨resource, found, newest⟩ := claimJob_token ok named fenced
                  refine ⟨resource, ?_, newest.le⟩
                  simp only [send, same]
                  exact found
            · cases taken
              exact ⟨sent, fun loop' present => .inl (kept _ present)⟩
          · cases taken

/-- **An undisturbed step keeps every live loop's token the newest.** -/
theorem Fenced.step {driver : Driver} {sys sys' : WorkerSystem} {action : Option WorkerAction}
    (fenced : sys.Fenced) (step : WorkerStep driver sys action sys')
    (undisturbed : sys.Undisturbed sys') : sys'.Fenced := by
  obtain ⟨moved, loops⟩ := step_cases step
  have settled : sys'.store.ResourcesSettled := by
    rcases moved with same | ⟨event, taken⟩
    · exact same ▸ fenced.settled
    · exact resourcesSettled_of_step fenced.settled taken
  refine ⟨settled, fun loop' present' => ?_⟩
  rcases loops loop' present' with ⟨loop, present, sameJob, less⟩ | newest
  · intro mayClean resourceId token named told
    rw [sameJob] at named told
    obtain ⟨resource, found, le⟩ :=
      fenced.newest loop present (less mayClean) resourceId token named told
    rcases moved with same | ⟨event, taken⟩
    · exact ⟨resource, same ▸ found, le⟩
    · obtain ⟨resource', found', kept⟩ := token_of_step fenced.settled taken found
        (undisturbed loop present (less mayClean) resourceId named)
      exact ⟨resource', found', kept.trans_le le⟩
  · exact newest

end WorkerSystem

/-- **Where no resource is leased under a live loop, no cleanup hits a later lease.** In
every run in which no step leases a resource while a loop with an earlier lease of it may
still execute the cleanup, a loop that executes it finds its resource not active under a
later token. -/
theorem late_cleanup (driver : Driver) {sys₀ sys : WorkerSystem}
    {trace : List (Option WorkerAction)} (noLoops : sys₀.loops = [])
    (noResources : sys₀.store.resources = ∅)
    (run : Steps (fun sys action sys' => WorkerStep driver sys action sys' ∧
      sys.Undisturbed sys') sys₀ trace sys) :
    ∀ loop ∈ sys.loops, loop.Cleaning → ¬ loop.Overtaken sys.store := by
  have fenced : sys.Fenced := by
    refine run.invariant (fun _ _ _ fenced taken => fenced.step taken.1 taken.2) ⟨?_, ?_⟩
    · intro resource inTable
      rw [noResources] at inTable
      exact absurd inTable (Table.not_mem_empty resource)
    · intro loop present
      rw [noLoops] at present
      cases present
  intro loop present cleaning
  exact (fenced.newest loop present).not_overtaken cleaning.mayClean

/-! ## Two runs -/

/-- The system after a list of actions, each of which is possible and allowed. -/
def WorkerSystem.runActions (driver : Driver) (allowed : WorkerSystem → WorkerSystem → Bool) :
    List WorkerAction → WorkerSystem → Option WorkerSystem
  | [], sys => some sys
  | action :: actions, sys =>
      match sys.act driver action with
      | none => none
      | some sys' => if allowed sys sys' then runActions driver allowed actions sys' else none

theorem WorkerSystem.steps_runActions {driver : Driver}
    {allowed : WorkerSystem → WorkerSystem → Bool} {actions : List WorkerAction}
    {sys sys' : WorkerSystem} (ran : sys.runActions driver allowed actions = some sys') :
    Steps (fun sys action sys' => WorkerStep driver sys action sys' ∧ allowed sys sys' = true)
      sys (actions.map some) sys' := by
  induction actions generalizing sys with
  | nil =>
      cases ran
      exact .refl _
  | cons action actions ih =>
      simp only [runActions] at ran
      split at ran
      · cases ran
      · rename_i next taken
        split at ran
        · rename_i fine
          exact (Steps.single ⟨.act action taken, fine⟩).trans (ih ran)
        · cases ran

/-- Two workers share an accelerator, and there are two jobs for it. -/
def sharedAccelerator : List WorkerAction :=
  [.control (.registerWorker { workerId := "gpu-0", workerType := .gpu }),
    .control (.registerWorker { workerId := "gpu-1", workerType := .gpu }),
    .control (.enqueueJob 0 10
      { taskId := 1, jobType := .profile, acceptedWorkerType := .gpu,
        idempotencyKey := "profile:1", leaseScope := .exclusive,
        maxAttempts_range := maxAttempts_default }),
    .control (.enqueueJob 1 11
      { taskId := 1, jobType := .profile, acceptedWorkerType := .gpu,
        idempotencyKey := "profile:2", leaseScope := .exclusive,
        maxAttempts_range := maxAttempts_default }),
    .claim "gpu-0" 2 20 30 {} .answered]

/-- The first worker works its job to the end, and completes it with clean evidence; the
answer is lost. -/
def lostCompletion : List WorkerAction :=
  [.loop 0 (.call 3 .answered), .loop 0 (.guard true),
    .loop 0 (.handled (some [("cleanup_evidence", .obj cleanDevice)])),
    .loop 0 (.call 4 .answered), .loop 0 .beatStopped, .loop 0 (.joined false),
    .loop 0 (.call 5 .answered), .loop 0 (.guard true), .loop 0 (.call 6 .lost)]

/-- The store the two runs start from. -/
def sampleSystem : WorkerSystem := { store := oneTask .optimization .profiling }

/-- A worker whose first heartbeat does not arrive cleans up under its own lease. -/
theorem late_cleanup_undelivered :
    ∃ sys, sampleSystem.runActions textDriver (fun sys sys' => decide (sys.Undisturbed sys'))
        (sharedAccelerator ++ [.loop 0 (.call 3 .undelivered)]) = some sys ∧
      ∃ loop ∈ sys.loops, loop.Cleaning ∧ ¬ loop.Overtaken sys.store := by
  have cleans : (sampleSystem.runActions textDriver
      (fun sys sys' => decide (sys.Undisturbed sys'))
      (sharedAccelerator ++ [.loop 0 (.call 3 .undelivered)])).any (fun sys =>
        decide (∃ loop ∈ sys.loops, loop.Cleaning)) = true := by
    decide +kernel
  obtain ⟨sys, ran, found⟩ := (Option.any_eq_true _ _).mp cleans
  obtain ⟨loop, present, cleaning⟩ := of_decide_eq_true found
  refine ⟨sys, ran, loop, present, cleaning, ?_⟩
  have run := (WorkerSystem.steps_runActions ran).mono fun _ _ _ step =>
    And.imp_right of_decide_eq_true step
  exact late_cleanup textDriver rfl rfl run loop present cleaning

/-- **A lost answer makes a cleanup hit the next lease**: the completion of the first
worker released the accelerator, the second worker was leased it, and now the first runs
the cleanup of its handler. -/
theorem late_cleanup_hits_next_lease :
    sampleSystem.loops = [] ∧ sampleSystem.store.resources = ∅ ∧
      ∃ trace sys, Steps (WorkerStep textDriver) sampleSystem trace sys ∧
        ∃ loop ∈ sys.loops, loop.Cleaning ∧ loop.Overtaken sys.store := by
  refine ⟨rfl, rfl, ?_⟩
  have hits : (sampleSystem.runActions textDriver (fun _ _ => true)
      (sharedAccelerator ++ lostCompletion ++ [.claim "gpu-1" 7 21 31 {} .answered])).any
        (fun sys => decide (∃ loop ∈ sys.loops, loop.Cleaning ∧ loop.Overtaken sys.store)) =
      true := by
    decide +kernel
  obtain ⟨sys, ran, found⟩ := (Option.any_eq_true _ _).mp hits
  exact ⟨_, sys, (WorkerSystem.steps_runActions ran).mono fun _ _ _ step => step.1,
    of_decide_eq_true found⟩

end HcuAutoOpt
