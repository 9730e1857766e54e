import HcuAutoOpt.Queue.Effects
import HcuAutoOpt.Foundation.Runs

/-!
# Runs of the job queue

`QueueCall` is one call of a queue method with everything it takes: its arguments, the
time of its transaction, the identifiers it draws and the rows it finds locked. A step
of the queue (`QueueStep`) is one call, committed or refused, or a transaction of another
part of the repository, which may submit jobs and mark them advanced (`OtherWork`). The
label of a step records what was called and what the caller was told, so that statements
about whole runs are statements about their traces.
-/

set_option autoImplicit false

namespace HcuAutoOpt

open Foundation

/-- A call of one of the queue's methods. -/
inductive QueueCall where
  | registerWorker (request : WorkerRegister)
  | enqueueJob (now : Timestamp) (jobId : Uuid) (request : JobCreate)
  | claimJob (now : Timestamp) (claimToken leaseId : Uuid) (locks : Locks) (workerId : String)
  | heartbeatJob (now : Timestamp) (workerId : String) (jobId claimToken : Uuid)
      (fencingToken : Option Int)
  | completeJob (now : Timestamp) (jobId claimToken : Uuid) (fencingToken : Option Int)
      (result : Json.Object)
  | failJob (now : Timestamp) (jobId claimToken : Uuid) (fencingToken : Option Int)
      (error : Json) (retryable : Bool) (cleanupEvidence : Option Json.Object)
  | recoverStaleJobs (now : Timestamp) (staleAfterSeconds : Int) (locks : Locks)
  | cancelJob (now : Timestamp) (jobId : Uuid) (reason : String)
  | cancelFrameworkTask (now : Timestamp) (taskId : Uuid) (reason : String)
  | cancelScriptedSearchRound (now : Timestamp) (roundId : Uuid) (reason : String)
  | reportResourceCleanup (resourceId : String) (fencingToken : Int)
      (cleanupEvidence : Json.Object)

/-- A transaction whose reply is not looked at. -/
def unobserved {α : Type} (op : Transaction Store Error α) :
    Transaction Store Error (Option Job) :=
  fun s => (op s).map fun pair => (pair.1, none)

/-- A transaction that replies with a job. -/
def observed (op : Transaction Store Error Job) : Transaction Store Error (Option Job) :=
  fun s => (op s).map fun pair => (pair.1, some pair.2)

/-- The transaction of a call; its reply is the job row the caller is given, if any. -/
def QueueCall.run (driver : Driver) : QueueCall → Transaction Store Error (Option Job)
  | .registerWorker request => unobserved (HcuAutoOpt.registerWorker driver request)
  | .enqueueJob now jobId request => observed (HcuAutoOpt.enqueueJob now jobId request)
  | .claimJob now claimToken leaseId locks workerId =>
      HcuAutoOpt.claimJob now claimToken leaseId locks workerId
  | .heartbeatJob now workerId jobId claimToken fencingToken =>
      unobserved (HcuAutoOpt.heartbeatJob now workerId jobId claimToken fencingToken)
  | .completeJob now jobId claimToken fencingToken result =>
      observed (HcuAutoOpt.completeJob now jobId claimToken fencingToken result)
  | .failJob now jobId claimToken fencingToken error retryable cleanupEvidence =>
      observed (HcuAutoOpt.failJob driver now jobId claimToken fencingToken error retryable
        cleanupEvidence)
  | .recoverStaleJobs now staleAfterSeconds locks =>
      unobserved (HcuAutoOpt.recoverStaleJobs driver now staleAfterSeconds locks)
  | .cancelJob now jobId reason => observed (HcuAutoOpt.cancelJob now jobId reason)
  | .cancelFrameworkTask now taskId reason =>
      unobserved (HcuAutoOpt.cancelFrameworkTask now taskId reason)
  | .cancelScriptedSearchRound now roundId reason =>
      unobserved (HcuAutoOpt.cancelScriptedSearchRound now roundId reason)
  | .reportResourceCleanup resourceId fencingToken cleanupEvidence =>
      unobserved (HcuAutoOpt.reportResourceCleanup resourceId fencingToken cleanupEvidence)

/-- What a run records of one step. -/
inductive QueueEvent where
  | call (call : QueueCall) (reply : Except Error (Option Job))
  | elsewhere

/-- The row is as a submission inserts it. -/
def Job.Submitted (row : Job) : Prop :=
  ∃ (request : JobCreate) (now : Timestamp), row = request.row now row.jobId

/-- What a transaction of another part of the repository does to the rows of the queue.
It never writes a resource and deletes nothing; it may mark a job advanced, and the
jobs it adds are submitted ones of existing tasks. -/
structure OtherWork (s s' : Store) : Prop where
  resources : s'.resources = s.resources
  tasks : ∀ taskId task, s.tasks.find? taskId = some task →
    ∃ task', s'.tasks.find? taskId = some task' ∧ task'.workflowType = task.workflowType
  jobs : ∀ jobId job, s.jobs.find? jobId = some job →
    ∃ advanced, s'.jobs.find? jobId = some { job with workflowAdvancedAt := advanced }
  added : ∀ jobId row, s.jobs.find? jobId = none → s'.jobs.find? jobId = some row →
    row.Submitted ∧ s'.tasks.find? row.taskId ≠ none

/-- One step of the queue. -/
inductive QueueStep (driver : Driver) : Store → QueueEvent → Store → Prop
  | call {s : Store} (call : QueueCall) :
      QueueStep driver s (.call call (commit (call.run driver) s).2)
        (commit (call.run driver) s).1
  | elsewhere {s s' : Store} (work : OtherWork s s') : QueueStep driver s .elsewhere s'

theorem unobserved_eq_ok {α : Type} {op : Transaction Store Error α} {s s' : Store}
    {reply : Option Job} (ok : unobserved op s = .ok (s', reply)) :
    ∃ value, op s = .ok (s', value) ∧ reply = none := by
  unfold unobserved at ok
  cases result : op s with
  | error e => simp [result, Except.map] at ok
  | ok pair =>
      simp only [result, Except.map, Except.ok.injEq, Prod.mk.injEq] at ok
      exact ⟨pair.2, by rw [← ok.1], ok.2.symm⟩

theorem observed_eq_ok {op : Transaction Store Error Job} {s s' : Store}
    {reply : Option Job} (ok : observed op s = .ok (s', reply)) :
    ∃ job, op s = .ok (s', job) ∧ reply = some job := by
  unfold observed at ok
  cases result : op s with
  | error e => simp [result, Except.map] at ok
  | ok pair =>
      simp only [result, Except.map, Except.ok.injEq, Prod.mk.injEq] at ok
      exact ⟨pair.2, by rw [← ok.1], ok.2.symm⟩

/-- **A step keeps the store, or is an accepted call, or happens elsewhere.** -/
theorem QueueStep.cases_on_reply {driver : Driver} {s s' : Store} {event : QueueEvent}
    (step : QueueStep driver s event s') :
    (∃ call e, event = .call call (.error e) ∧ s' = s) ∨
      (∃ call reply, event = .call call (.ok reply) ∧ call.run driver s = .ok (s', reply)) ∨
      (event = .elsewhere ∧ OtherWork s s') := by
  cases step with
  | call call =>
      rcases commit_cases (call.run driver) s with ⟨e, -, same⟩ | ⟨t, reply, ok, same⟩
      · exact .inl ⟨call, e, by rw [same], by rw [same]⟩
      · exact .inr (.inl ⟨call, reply, by rw [same], by rw [same]; exact ok⟩)
  | elsewhere work => exact .inr (.inr ⟨rfl, work⟩)

/-! ## Running a list of calls -/

/-- The store after a list of calls. -/
def runCalls (driver : Driver) (calls : List QueueCall) (s : Store) : Store :=
  calls.foldl (fun s call => (commit (call.run driver) s).1) s

/-- What the callers of a list of calls are told. -/
def eventsOf (driver : Driver) : List QueueCall → Store → List QueueEvent
  | [], _ => []
  | call :: calls, s =>
      .call call (commit (call.run driver) s).2 ::
        eventsOf driver calls (commit (call.run driver) s).1

/-- Running a list of calls is a run. -/
theorem steps_runCalls (driver : Driver) (calls : List QueueCall) (s : Store) :
    Steps (QueueStep driver) s (eventsOf driver calls s) (runCalls driver calls s) := by
  induction calls generalizing s with
  | nil => exact .refl s
  | cons call calls ih =>
      exact (Steps.single (QueueStep.call call)).trans (ih (commit (call.run driver) s).1)

end HcuAutoOpt
