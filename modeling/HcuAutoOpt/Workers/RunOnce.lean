import HcuAutoOpt.Queue.Calls

/-!
# The worker loop

`Worker.run_once` of `workers/sdk.py` from the claim on, with the heartbeat thread it
starts: `JobLoop` is one such activation, with the point that each of its two threads has
reached and the two events they share. `JobLoop.advance` is one step of one of the
threads. A thread is at a point while it executes what stands there, so a loop whose
`main` is `cleaning` is executing the cleanup of the handler.

A call to the control plane reaches it or not, and its answer reaches the worker or not
(`Delivery`). What the worker cannot control is in the step: the results of the handler,
of its cleanup and of the resource guard, and the times.
-/

set_option autoImplicit false

namespace HcuAutoOpt

open Foundation

/-! ## Calls over the network -/

/-- How far a call and its answer get. -/
inductive Delivery where
  | undelivered | lost | answered
  deriving DecidableEq, Repr

/-- The store after a call, and whether the caller was told that it succeeded. -/
def send (driver : Driver) (call : QueueCall) (delivery : Delivery) (s : Store) : Store × Bool :=
  match delivery with
  | .undelivered => (s, false)
  | .lost => ((commit (call.run driver) s).1, false)
  | .answered => ((commit (call.run driver) s).1, (commit (call.run driver) s).2.toOption.isSome)

/-! ## The cleanup of the handler -/

/-- What the resource guard of the deployment says; there may be none. -/
inductive GuardReading where
  | unguarded | clear | blocked (errorType : String)
  deriving DecidableEq, Repr

/-- `_guard_cleanup`. -/
def guardCleanup (reading : GuardReading) (evidence : Json.Object) : Json.Object :=
  match reading with
  | .unguarded => evidence
  | .clear => evidence.set "resource_guard" (.obj [("clear", .bool true)])
  | .blocked errorType =>
      let health :=
        match evidence.get? "health" with
        | some (.obj health) => health
        | _ => []
      (evidence.set "health" (.obj (Json.Object.merge health
        [("healthy", .bool false), ("quarantined", .bool true)]))).set "resource_guard"
          (.obj [("clear", .bool false), ("error_type", .str errorType)])

/-- The evidence when the handler's cleanup raises. -/
def cleanupRaised : Json.Object :=
  [("fence", .obj [("fenced", .bool false), ("error", .str "handler cleanup raised")]),
    ("health", .obj [("healthy", .bool false), ("quarantined", .bool true)])]

/-- What `_cleanup_job` returns for the outcome of the handler's cleanup. -/
def cleanupResult (outcome : Option Json.Object) (reading : GuardReading) : Json.Object :=
  guardCleanup reading (outcome.getD cleanupRaised)

/-- The result lacks the cleanup evidence that a leased job is completed with. -/
def NeedsCleanup (job : Job) (result : Json.Object) : Prop :=
  job.resourceId ≠ none ∧ job.fencingToken ≠ none ∧
    ¬ ∃ evidence ∈ cleanupEvidenceOf result,
      (∃ fence, evidence.get? "fence" = some (.obj fence)) ∧
        ∃ health, evidence.get? "health" = some (.obj health)

/-- The value is a JSON object. -/
def isObject : Option Json → Bool
  | some (.obj _) => true
  | _ => false

theorem isObject_iff {value : Option Json} :
    isObject value = true ↔ ∃ fields, value = some (.obj fields) := by
  unfold isObject
  split <;> simp_all

instance (job : Job) (result : Json.Object) : Decidable (NeedsCleanup job result) :=
  decidable_of_iff
    (job.resourceId ≠ none ∧ job.fencingToken ≠ none ∧
      ¬ ∃ evidence ∈ cleanupEvidenceOf result, isObject (evidence.get? "fence") = true ∧
        isObject (evidence.get? "health") = true)
    (by simp only [isObject_iff, NeedsCleanup])

/-! ## The two threads -/

/-- Where the main thread is. `supplying` and `cleaning` are the two places where it
executes `_cleanup_job`. -/
inductive MainPoint where
  | firstHeartbeat
  | guarding
  | handling
  | secondHeartbeat (result : Json.Object)
  | supplying (result : Json.Object)
  | quiescing (result : Json.Object)
  | lastHeartbeat (result : Json.Object)
  | lastGuarding (result : Json.Object)
  | completing (result : Json.Object)
  | cleaning
  | failing (evidence : Json.Object)
  | reporting (evidence : Json.Object)
  | returned
  deriving DecidableEq

/-- Where the heartbeat thread is. -/
inductive HeartbeatPoint where
  | unstarted | waiting | beating | cleaning | ended
  deriving DecidableEq, Repr

/-- One activation of `run_once` with a claimed job. -/
structure JobLoop where
  workerId : String
  job : Job
  main : MainPoint := .firstHeartbeat
  heartbeat : HeartbeatPoint := .unstarted
  heartbeatStop : Bool := false
  leaseLost : Bool := false
  deriving DecidableEq

namespace JobLoop

/-- The heartbeat of the job that the loop holds. -/
def heartbeatCall (loop : JobLoop) (now : Timestamp) : QueueCall :=
  .heartbeatJob now loop.workerId loop.job.jobId (loop.job.claimToken.getD 0)
    loop.job.fencingToken

/-- `client.complete`. -/
def completeCall (loop : JobLoop) (now : Timestamp) (result : Json.Object) : QueueCall :=
  .completeJob now loop.job.jobId (loop.job.claimToken.getD 0) loop.job.fencingToken result

/-- `client.fail`: always retryable, and empty evidence is left out. -/
def failCall (loop : JobLoop) (now : Timestamp) (error : Json) (evidence : Json.Object) :
    QueueCall :=
  .failJob now loop.job.jobId (loop.job.claimToken.getD 0) loop.job.fencingToken error true
    (if evidence = [] then none else some evidence)

/-- What happens at the point a thread has reached. -/
inductive Event where
  | call (now : Timestamp) (delivery : Delivery)
  | guard (clear : Bool)
  | handled (outcome : Option Json.Object)
  | cleaned (outcome : Option Json.Object) (reading : GuardReading)
  | joined (stillAlive : Bool)
  | fail (now : Timestamp) (error : Json) (delivery : Delivery)
  | report (now : Timestamp) (reading : GuardReading) (delivery : Delivery)
  | beat
  | beaten (now : Timestamp) (delivery : Delivery)
  | beatCleaned
  | beatStopped

/-- The exception path, and the way on. -/
def onSuccess (loop : JobLoop) (succeeded : Bool) (next : MainPoint) : JobLoop :=
  { loop with main := if succeeded then next else .cleaning }

/-- `run_once` leaves by its `finally` clause. -/
def finish (loop : JobLoop) : JobLoop := { loop with main := .returned, heartbeatStop := true }

/-- The heartbeat thread is alive. -/
def heartbeatAlive (loop : JobLoop) : Bool :=
  decide (loop.heartbeat ∈ [.waiting, .beating, .cleaning])

/-- One step of one of the two threads, with the store after it; `none` where the thread
is not at the point of the event. -/
def advance (driver : Driver) (loop : JobLoop) (event : Event) (s : Store) :
    Option (JobLoop × Store) :=
  match event, loop.main with
  | .call now delivery, .firstHeartbeat =>
      let (s, succeeded) := send driver (loop.heartbeatCall now) delivery s
      some ({ loop.onSuccess succeeded .guarding with
        heartbeat := if succeeded then .waiting else loop.heartbeat }, s)
  | .guard clear, .guarding => some (loop.onSuccess clear .handling, s)
  | .handled outcome, .handling =>
      match outcome with
      | some result => some (loop.onSuccess (!loop.leaseLost) (.secondHeartbeat result), s)
      | none => some ({ loop with main := .cleaning }, s)
  | .call now delivery, .secondHeartbeat result =>
      let (s, succeeded) := send driver (loop.heartbeatCall now) delivery s
      if succeeded then
        if NeedsCleanup loop.job result then some ({ loop with main := .supplying result }, s)
        else some ({ loop with main := .quiescing result, heartbeatStop := true }, s)
      else some ({ loop with main := .cleaning }, s)
  | .cleaned outcome reading, .supplying result =>
      some ({ loop with
        main := .quiescing
          (result.set "cleanup_evidence" (.obj (cleanupResult outcome reading)))
        heartbeatStop := true }, s)
  | .joined stillAlive, .quiescing result =>
      if stillAlive = loop.heartbeatAlive then
        some (loop.onSuccess (!stillAlive && !loop.leaseLost) (.lastHeartbeat result), s)
      else none
  | .call now delivery, .lastHeartbeat result =>
      let (s, succeeded) := send driver (loop.heartbeatCall now) delivery s
      some (loop.onSuccess succeeded (.lastGuarding result), s)
  | .guard clear, .lastGuarding result => some (loop.onSuccess clear (.completing result), s)
  | .call now delivery, .completing result =>
      let (s, succeeded) := send driver (loop.completeCall now result) delivery s
      if succeeded then some (loop.finish, s) else some ({ loop with main := .cleaning }, s)
  | .cleaned outcome reading, .cleaning =>
      some ({ loop with main := .failing (cleanupResult outcome reading) }, s)
  | .fail now error delivery, .failing evidence =>
      let (s, succeeded) := send driver (loop.failCall now error evidence) delivery s
      if succeeded then some (loop.finish, s)
      else if evidence = [] ∨ loop.job.resourceId = none ∨ loop.job.fencingToken = none then
        some (loop.finish, s)
      else some ({ loop with main := .reporting evidence }, s)
  | .report _ reading delivery, .reporting evidence =>
      let (s, _) := send driver (.reportResourceCleanup (loop.job.resourceId.getD "")
        (loop.job.fencingToken.getD 0) (guardCleanup reading evidence)) delivery s
      some (loop.finish, s)
  | .beat, _ =>
      if loop.heartbeat = .waiting ∧ loop.heartbeatStop = false then
        some ({ loop with heartbeat := .beating }, s)
      else none
  | .beaten now delivery, _ =>
      if loop.heartbeat = .beating then
        let (s, succeeded) := send driver (loop.heartbeatCall now) delivery s
        if succeeded then some ({ loop with heartbeat := .waiting }, s)
        else some ({ loop with heartbeat := .cleaning, leaseLost := true }, s)
      else none
  | .beatCleaned, _ =>
      if loop.heartbeat = .cleaning then some ({ loop with heartbeat := .ended }, s) else none
  | .beatStopped, _ =>
      if loop.heartbeat = .waiting ∧ loop.heartbeatStop = true then
        some ({ loop with heartbeat := .ended }, s)
      else none
  | _, _ => none

end JobLoop

/-! ## Workers and control plane together -/

/-- The store of the control plane and the loops of all workers, oldest first. -/
structure WorkerSystem where
  store : Store
  loops : List JobLoop := []

/-- One step: a loop goes on, a worker whose last loop has returned claims, or anyone
else calls the control plane. -/
inductive WorkerAction where
  | loop (index : Nat) (event : JobLoop.Event)
  | claim (workerId : String) (now : Timestamp) (claimToken leaseId : Uuid) (locks : Locks)
      (delivery : Delivery)
  | control (call : QueueCall)

/-- The main thread of the worker is in none of its loops. -/
def WorkerSystem.Idle (sys : WorkerSystem) (workerId : String) : Prop :=
  ∀ loop ∈ sys.loops, loop.workerId = workerId → loop.main = .returned

instance (sys : WorkerSystem) (workerId : String) : Decidable (sys.Idle workerId) := by
  unfold WorkerSystem.Idle
  infer_instance

/-- The system after an action, where it is possible. -/
def WorkerSystem.act (driver : Driver) (action : WorkerAction) (sys : WorkerSystem) :
    Option WorkerSystem :=
  match action with
  | .loop index event => do
      let loop ← sys.loops[index]?
      let (loop, store) ← loop.advance driver event sys.store
      return { store, loops := sys.loops.set index loop }
  | .claim workerId now claimToken leaseId locks delivery =>
      if sys.Idle workerId then
        let call := QueueCall.claimJob now claimToken leaseId locks workerId
        let store := (send driver call delivery sys.store).1
        match delivery, (commit (call.run driver) sys.store).2 with
        | .answered, .ok (some job) =>
            some { store, loops := sys.loops ++ [{ workerId, job }] }
        | _, _ => some { sys with store }
      else none
  | .control call => some { sys with store := (commit (call.run driver) sys.store).1 }

/-- One step of the system, or a transaction of another part of the repository. -/
inductive WorkerStep (driver : Driver) :
    WorkerSystem → Option WorkerAction → WorkerSystem → Prop
  | act {sys sys' : WorkerSystem} (action : WorkerAction)
      (taken : sys.act driver action = some sys') : WorkerStep driver sys (some action) sys'
  | elsewhere {sys : WorkerSystem} {store : Store} (work : OtherWork sys.store store) :
      WorkerStep driver sys none { sys with store }

end HcuAutoOpt
