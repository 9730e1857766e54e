import HcuAutoOpt.Queue.Moves

/-!
# Attempt fencing over whole runs

The moves of a job row count its claims and say which token it carries: a job that neither
runs nor has succeeded carries none (`AttemptInvariant`). An accepted failure, recovery or
cancellation of a job therefore takes its token away, and another claim replaces it
(`QueueEvent.Supersedes`).

Claim tokens are drawn at random, one for each claim; the run theorems assume that a run
draws no token twice. `attempt_fencing` puts together that a job is claimed at most
`max_attempts` times, that an ended job is frozen, that a superseded claim token is
refused for ever, and that a job is completed at most once.
-/

set_option autoImplicit false

namespace HcuAutoOpt

open Foundation

/-! ## Claims in a trace -/

/-- The claim token a step drew, whether or not it claimed a job. -/
def QueueEvent.drawnToken : QueueEvent → Option Uuid
  | .call (.claimJob _ claimToken _ _ _) _ => some claimToken
  | _ => none

/-- The claim tokens a run drew. -/
def claimTokens (trace : List QueueEvent) : List Uuid := trace.filterMap QueueEvent.drawnToken

/-- How often a run claimed a job. -/
def claims (jobId : Uuid) (trace : List QueueEvent) : Nat :=
  trace.countP fun event => decide (event.claimOf.map Prod.fst = some jobId)

/-- The run handed the job out under the token. -/
def Issued (trace : List QueueEvent) (jobId claimToken : Uuid) : Prop :=
  ∃ event ∈ trace, event.claimOf = some (jobId, claimToken)

theorem QueueEvent.drawnToken_of_claimOf {event : QueueEvent} {jobId claimToken : Uuid}
    (claimed : event.claimOf = some (jobId, claimToken)) :
    event.drawnToken = some claimToken := by
  unfold QueueEvent.claimOf at claimed
  split at claimed
  · cases claimed
    rfl
  · cases claimed

theorem Issued.drawn {trace : List QueueEvent} {jobId claimToken : Uuid}
    (issued : Issued trace jobId claimToken) : claimToken ∈ claimTokens trace := by
  obtain ⟨event, inside, claimed⟩ := issued
  exact List.mem_filterMap.mpr ⟨event, inside, QueueEvent.drawnToken_of_claimOf claimed⟩

theorem Issued.mono {trace rest : List QueueEvent} {jobId claimToken : Uuid}
    (issued : Issued trace jobId claimToken) : Issued (trace ++ rest) jobId claimToken := by
  obtain ⟨event, inside, claimed⟩ := issued
  exact ⟨event, List.mem_append_left _ inside, claimed⟩

/-- Members of a list with one image under a map without repetitions are equal. -/
theorem eq_of_filterMap_nodup {α β : Type} {f : α → Option β} {l : List α}
    (distinct : (l.filterMap f).Nodup) {a b : α} {c : β} (first : a ∈ l) (second : b ∈ l)
    (fa : f a = some c) (fb : f b = some c) : a = b := by
  induction l with
  | nil => cases first
  | cons head tail ih =>
      cases image : f head with
      | none =>
          rw [List.filterMap_cons_none image] at distinct
          have skip : ∀ x ∈ head :: tail, f x = some c → x ∈ tail := by
            intro x inside fx
            rcases List.mem_cons.mp inside with rfl | inTail
            · rw [image] at fx
              cases fx
            · exact inTail
          exact ih distinct (skip a first fa) (skip b second fb)
      | some d =>
          rw [List.filterMap_cons_some image, List.nodup_cons] at distinct
          have apart : ∀ x ∈ tail, f x = some c → c ≠ d := by
            rintro x inside fx rfl
            exact distinct.1 (List.mem_filterMap.mpr ⟨x, inside, fx⟩)
          rcases List.mem_cons.mp first with rfl | inTail
          · rw [fa] at image
            cases image
            rcases List.mem_cons.mp second with rfl | inTail'
            · rfl
            · exact absurd rfl (apart b inTail' fb)
          · rcases List.mem_cons.mp second with rfl | inTail'
            · rw [fb] at image
              cases image
              exact absurd rfl (apart a inTail fa)
            · exact ih distinct.2 inTail inTail'

/-- A token is issued for one job only. -/
theorem Issued.unique {trace : List QueueEvent} {jobId jobId' claimToken : Uuid}
    (fresh : (claimTokens trace).Nodup) (issued : Issued trace jobId claimToken)
    (issued' : Issued trace jobId' claimToken) : jobId = jobId' := by
  obtain ⟨event, inside, claimed⟩ := issued
  obtain ⟨event', inside', claimed'⟩ := issued'
  have same := eq_of_filterMap_nodup fresh inside inside'
    (QueueEvent.drawnToken_of_claimOf claimed) (QueueEvent.drawnToken_of_claimOf claimed')
  rw [same, claimed'] at claimed
  cases claimed
  rfl

/-! ## The invariant of a run -/

/-- The job neither runs nor has succeeded. -/
def Job.Idle (job : Job) : Prop := job.state ≠ .running ∧ job.state ≠ .succeeded

/-- What a trace and the jobs after it say about each other. -/
structure AttemptInvariant (trace : List QueueEvent) (s : Store) : Prop where
  counted : ∀ jobId job, s.jobs.find? jobId = some job → job.attempts = claims jobId trace
  unclaimed : ∀ jobId, s.jobs.find? jobId = none → claims jobId trace = 0
  bounded : ∀ jobId job, s.jobs.find? jobId = some job → job.attempts ≤ job.maxAttempts
  budget : ∀ jobId job, s.jobs.find? jobId = some job → job.state = .queued →
    job.attempts < job.maxAttempts
  issued : ∀ jobId job claimToken, s.jobs.find? jobId = some job →
    job.claimToken = some claimToken → Issued trace jobId claimToken
  idle : ∀ jobId job, s.jobs.find? jobId = some job → job.Idle → job.claimToken = none

theorem claims_append (jobId : Uuid) (trace : List QueueEvent) (event : QueueEvent) :
    claims jobId (trace ++ [event]) =
      claims jobId trace + if event.claimOf.map Prod.fst = some jobId then 1 else 0 := by
  simp [claims, List.countP_append, List.countP_cons]

/-- One step keeps the invariant. -/
theorem AttemptInvariant.step {driver : Driver} {trace : List QueueEvent} {s s' : Store}
    {event : QueueEvent} (inv : AttemptInvariant trace s) (step : QueueStep driver s event s') :
    AttemptInvariant (trace ++ [event]) s' := by
  have moves := jobsMove_of_step step
  -- A job of `s'` is a moved job of `s` or a new one.
  have origin : ∀ jobId job', s'.jobs.find? jobId = some job' →
      (∃ job, s.jobs.find? jobId = some job ∧ job.jobId = jobId ∧
        job.SameRequest job' ∧ JobMove event.claimOf job job') ∨
      (s.jobs.find? jobId = none ∧ job'.New) := by
    intro jobId job' found'
    cases found : s.jobs.find? jobId with
    | none => exact .inr ⟨rfl, (moves.added jobId job' found found').1⟩
    | some job =>
        obtain ⟨moved, foundMoved, budget, move⟩ := moves.moved jobId job found
        rw [foundMoved] at found'
        cases found'
        exact .inl ⟨job, rfl, Table.key_of_find? found, budget, move⟩
  have unclaimedNew : ∀ jobId, s.jobs.find? jobId = none →
      claims jobId (trace ++ [event]) = 0 := by
    intro jobId absent
    rw [claims_append, inv.unclaimed jobId absent, if_neg]
    exact fun claimed => moves.known jobId claimed absent
  refine ⟨?_, ?_, ?_, ?_, ?_, ?_⟩
  · intro jobId job' found'
    rcases origin jobId job' found' with ⟨job, found, rfl, -, move⟩ | ⟨absent, new⟩
    · have before := inv.counted job.jobId job found
      rw [claims_append]
      cases move with
      | kept other _ attempts => rw [attempts, before, if_neg other, Nat.add_zero]
      | claimed claimToken this _ _ attempts => simp [attempts, before, this]
      | completed other _ _ attempts => simp [attempts, before, other]
      | requeued other _ _ _ attempts => simp [attempts, before, other]
      | ended other _ _ attempts => simp [attempts, before, other]
      | dropped other _ _ attempts => simp [attempts, before, other]
    · rw [new.attempts, unclaimedNew jobId absent]
  · intro jobId absent'
    refine unclaimedNew jobId ?_
    cases found : s.jobs.find? jobId with
    | none => rfl
    | some job =>
        obtain ⟨moved, foundMoved, -⟩ := moves.moved jobId job found
        rw [foundMoved] at absent'
        cases absent'
  · intro jobId job' found'
    rcases origin jobId job' found' with ⟨job, found, rfl, same, move⟩ | ⟨absent, new⟩
    · have before := inv.bounded job.jobId job found
      rw [same.maxAttempts]
      cases move with
      | kept _ _ attempts => exact attempts ▸ before
      | claimed _ _ queued _ attempts =>
          rw [attempts]
          exact inv.budget job.jobId job found queued
      | completed _ _ _ attempts => exact attempts ▸ before
      | requeued _ _ _ _ attempts => exact attempts ▸ before
      | ended _ _ _ attempts => exact attempts ▸ before
      | dropped _ _ _ attempts => exact attempts ▸ before
    · rw [new.attempts]
      exact Nat.zero_le _
  · intro jobId job' found' queued'
    rcases origin jobId job' found' with ⟨job, found, rfl, same, move⟩ | ⟨absent, new⟩
    · rw [same.maxAttempts]
      cases move with
      | kept _ state attempts =>
          rw [attempts]
          exact inv.budget job.jobId job found (state ▸ queued')
      | claimed _ _ _ running => simp [running] at queued'
      | completed _ _ succeeded => simp [succeeded] at queued'
      | requeued _ _ _ budget attempts =>
          rw [attempts]
          exact budget
      | ended _ _ isOver => rcases isOver with isOver | isOver <;> simp [isOver] at queued'
      | dropped _ _ cancelled => simp [cancelled] at queued'
    · rw [new.attempts]
      exact new.budget
  · intro jobId job' claimToken found' token'
    rcases origin jobId job' found' with ⟨job, found, rfl, -, move⟩ | ⟨absent, new⟩
    · have before : job'.claimToken = job.claimToken →
          Issued (trace ++ [event]) job.jobId claimToken := fun same =>
        (inv.issued job.jobId job claimToken found (same ▸ token')).mono
      cases move with
      | kept _ _ _ same => exact before same.claimToken
      | claimed drawn this _ _ _ token =>
          rw [token] at token'
          cases token'
          exact ⟨event, List.mem_append_right _ (List.mem_singleton.mpr rfl), this⟩
      | completed _ _ _ _ same => exact before same.claimToken
      | requeued _ _ _ _ _ unheld => simp [unheld.claimToken] at token'
      | ended _ _ _ _ unheld => simp [unheld.claimToken] at token'
      | dropped _ _ _ _ same => exact before same.claimToken
    · simp [new.unheld.claimToken] at token'
  · intro jobId job' found' idle'
    rcases origin jobId job' found' with ⟨job, found, rfl, -, move⟩ | ⟨absent, new⟩
    · cases move with
      | kept _ state _ same =>
          rw [same.claimToken]
          exact inv.idle job.jobId job found ⟨state ▸ idle'.1, state ▸ idle'.2⟩
      | claimed _ _ _ running => exact absurd running idle'.1
      | completed _ _ succeeded => exact absurd succeeded idle'.2
      | requeued _ _ _ _ _ unheld => exact unheld.claimToken
      | ended _ _ _ _ unheld => exact unheld.claimToken
      | dropped _ queued _ _ same =>
          rw [same.claimToken]
          exact inv.idle job.jobId job found (by simp [Job.Idle, queued])
    · exact new.unheld.claimToken

/-- Every run from an empty queue keeps the invariant. -/
theorem AttemptInvariant.of_steps {driver : Driver} {trace : List QueueEvent} {s₀ s : Store}
    (noJobs : s₀.jobs = ∅) (run : Steps (QueueStep driver) s₀ trace s) :
    AttemptInvariant trace s := by
  induction run with
  | refl =>
      refine ⟨?_, fun _ _ => rfl, ?_, ?_, ?_, ?_⟩ <;> intro jobId job <;> simp [noJobs]
  | tail _ step ih => exact ih.step step

/-! ## Superseded claims -/

/-- The step takes the claim of the job away or replaces it: it is an accepted failure, recovery
or cancellation of the job, or another claim of it. -/
def QueueEvent.Supersedes (jobId : Uuid) (s : Store) : QueueEvent → Prop
  | .call (.claimJob ..) (.ok (some row)) => row.jobId = jobId
  | .call (.failJob _ failed ..) (.ok _) => failed = jobId
  | .call (.recoverStaleJobs now staleAfterSeconds locks) (.ok _) =>
      jobId ∈ (s.staleJobs now staleAfterSeconds locks).map Job.jobId
  | .call (.cancelJob _ cancelled _) (.ok (some row)) =>
      cancelled = jobId ∧ row.state ≠ .succeeded
  | .call (.cancelFrameworkTask _ taskId _) (.ok _) =>
      (∃ task, s.tasks.find? taskId = some task ∧ task.state ≠ .cancelled) ∧
        ∃ job, s.jobs.find? jobId = some job ∧ job.LiveOf taskId
  | _ => False

/-- After a step that supersedes the claim of a job, the job carries no token but the one that
the step drew. -/
theorem QueueEvent.Supersedes.drawn {driver : Driver} {trace : List QueueEvent} {s s' : Store}
    {event : QueueEvent} {jobId claimToken : Uuid} {job' : Job}
    (supersedes : event.Supersedes jobId s) (inv : AttemptInvariant trace s)
    (step : QueueStep driver s event s') (found' : s'.jobs.find? jobId = some job')
    (token : job'.claimToken = some claimToken) : event.drawnToken = some claimToken := by
  rcases step.cases_on_reply with ⟨call, e, rfl, -⟩ | ⟨call, reply, rfl, ok⟩ | ⟨rfl, -⟩
  · cases call <;> exact False.elim supersedes
  · cases call with
    | claimJob now drawn leaseId locks workerId =>
        rcases claimJob_effect ok with ⟨rfl, rfl⟩ | ⟨worker, job, lease, -, member, -, -, rfl, jobs,
          -, -⟩
        · exact False.elim supersedes
        · have same : job.jobId = jobId := supersedes
          rw [jobs, same, Table.find?_update_self, ← same,
            show s.jobs.find? job.jobId = some job from Table.find?_of_mem member] at found'
          cases found'
          exact token
    | failJob now failed presented fencingToken error retryable cleanupEvidence =>
        cases (show failed = jobId from supersedes)
        obtain ⟨row, ok, -⟩ := observed_eq_ok ok
        obtain ⟨job, retry, owner, -, -, converged⟩ := failJob_effect ok
        have jobs := (convergeUnlessRetried_sameQueue converged).jobs
        rw [jobs, releaseResource_jobs, Table.find?_update_self,
          (assertJobOwner_effect owner).1] at found'
        cases found'
        cases token
    | recoverStaleJobs now staleAfterSeconds locks =>
        obtain ⟨recovered, ok, -⟩ := unobserved_eq_ok ok
        have lookup := find?_recoverAll (recoverStaleJobs_effect ok).1
          (s.staleJobs_distinct now staleAfterSeconds locks) jobId
        rw [lookup, if_pos (show jobId ∈ _ from supersedes)] at found'
        obtain ⟨job, -, rfl⟩ := Option.map_eq_some_iff.mp found'
        cases token
    | cancelJob now cancelled reason =>
        obtain ⟨row, done, rfl⟩ := observed_eq_ok ok
        obtain ⟨rfl, kept⟩ := (show cancelled = jobId ∧ row.state ≠ .succeeded from supersedes)
        obtain ⟨job, found, ⟨isOver, rfl, rfl⟩ | ⟨-, -, ended⟩⟩ := cancelJob_effect done
        · rw [found] at found'
          cases found'
          have idle : job'.Idle := ⟨by intro running; simp [running] at isOver, kept⟩
          rw [inv.idle cancelled job' found idle] at token
          cases token
        · have same : SameQueue _ s' :=
            ended ▸ failEndpointAdjudicationAfterJobFailure_sameQueue job _
          rw [same.jobs, Table.find?_update_self, found] at found'
          cases found'
          cases token
    | cancelFrameworkTask now taskId reason =>
        obtain ⟨⟨task, tasked, open'⟩, job, found, live⟩ :
          (∃ task, s.tasks.find? taskId = some task ∧ task.state ≠ .cancelled) ∧
            ∃ job, s.jobs.find? jobId = some job ∧ job.LiveOf taskId := supersedes
        obtain ⟨u, ok, -⟩ := unobserved_eq_ok ok
        rcases cancelFrameworkTask_effect ok with ⟨-, other, found'', state⟩ | ⟨-, jobs, -⟩
        · rw [tasked] at found''
          cases found''
          exact absurd state open'
        · rw [jobs, Table.find?_updateWhere, found, Option.map_some,
            if_pos (decide_eq_true live)] at found'
          cases found'
          cases token
    | _ => exact False.elim supersedes
  · exact False.elim supersedes

/-- No job row carries the token. -/
def Forgotten (claimToken : Uuid) (s : Store) : Prop :=
  ∀ jobId job, s.jobs.find? jobId = some job → job.claimToken ≠ some claimToken

/-- A token is forgotten where the job it was issued for carries another token or none. -/
theorem AttemptInvariant.forgotten {trace : List QueueEvent} {s : Store}
    (inv : AttemptInvariant trace s) (fresh : (claimTokens trace).Nodup) {jobId claimToken : Uuid}
    (issued : Issued trace jobId claimToken)
    (other : ∀ job, s.jobs.find? jobId = some job → job.claimToken ≠ some claimToken) :
    Forgotten claimToken s := by
  intro jobId' job found token
  cases Issued.unique fresh issued (inv.issued jobId' job claimToken found token)
  exact other job found token

/-- A step that supersedes the claim of a job makes the token of the claim forgotten. -/
theorem Forgotten.of_supersedes {driver : Driver} {trace : List QueueEvent} {s s' : Store}
    {event : QueueEvent} {jobId claimToken : Uuid} (inv : AttemptInvariant trace s)
    (step : QueueStep driver s event s') (fresh : (claimTokens (trace ++ [event])).Nodup)
    (issued : Issued trace jobId claimToken) (supersedes : event.Supersedes jobId s) :
    Forgotten claimToken s' := by
  refine (inv.step step).forgotten fresh issued.mono fun job found token => ?_
  have drawn := supersedes.drawn inv step found token
  rw [claimTokens, List.filterMap_append] at fresh
  exact (List.nodup_append.mp fresh).2.2 _ issued.drawn _
    (List.mem_filterMap.mpr ⟨event, List.mem_singleton.mpr rfl, drawn⟩) rfl

/-- A step that does not draw the token does not bring it back. -/
theorem Forgotten.step {driver : Driver} {claimToken : Uuid} {s s' : Store} {event : QueueEvent}
    (forgotten : Forgotten claimToken s) (step : QueueStep driver s event s')
    (other : event.drawnToken ≠ some claimToken) : Forgotten claimToken s' := by
  intro jobId job' found' token'
  have moves := jobsMove_of_step step
  cases found : s.jobs.find? jobId with
  | none =>
      obtain ⟨new, -⟩ := moves.added jobId job' found found'
      simp [new.unheld.claimToken] at token'
  | some job =>
      obtain ⟨moved, foundMoved, -, move⟩ := moves.moved jobId job found
      rw [foundMoved] at found'
      cases found'
      have before := forgotten jobId job found
      cases move with
      | kept _ _ _ same => exact before (same.claimToken ▸ token')
      | claimed drawn this _ _ _ token =>
          rw [token] at token'
          cases token'
          exact other (QueueEvent.drawnToken_of_claimOf this)
      | completed _ _ _ _ same => exact before (same.claimToken ▸ token')
      | requeued _ _ _ _ _ unheld => simp [unheld.claimToken] at token'
      | ended _ _ _ _ unheld => simp [unheld.claimToken] at token'
      | dropped _ _ _ _ same => exact before (same.claimToken ▸ token')

theorem Forgotten.steps {driver : Driver} {claimToken : Uuid} {s s' : Store}
    {trace : List QueueEvent} (forgotten : Forgotten claimToken s)
    (run : Steps (QueueStep driver) s trace s') (other : claimToken ∉ claimTokens trace) :
    Forgotten claimToken s' := by
  induction run with
  | refl => exact forgotten
  | @tail t u trace event _ step ih =>
      rw [claimTokens, List.filterMap_append, List.mem_append, not_or] at other
      refine (ih other.1).step step fun drawn => other.2 ?_
      exact List.mem_filterMap.mpr ⟨event, List.mem_singleton.mpr rfl, drawn⟩

/-- The claim token that a worker's report presents. -/
def QueueCall.presents : QueueCall → Option Uuid
  | .heartbeatJob _ _ _ claimToken _ => some claimToken
  | .completeJob _ _ claimToken _ _ => some claimToken
  | .failJob _ _ claimToken _ _ _ _ => some claimToken
  | _ => none

/-- A report under a forgotten token is refused and changes nothing. -/
theorem Forgotten.refuses {driver : Driver} {claimToken : Uuid} {s : Store}
    (forgotten : Forgotten claimToken s) {call : QueueCall}
    (presents : call.presents = some claimToken) :
    ∃ e, commit (call.run driver) s = (s, .error e) := by
  have noOwner : ∀ jobId fencingToken job,
      assertJobOwner jobId claimToken fencingToken s ≠ .ok job := by
    intro jobId fencingToken job ok
    obtain ⟨found, -, token, -⟩ := assertJobOwner_effect ok
    exact forgotten jobId job found token
  rcases commit_cases (call.run driver) s with ⟨e, -, same⟩ | ⟨t, reply, ok, -⟩
  · exact ⟨e, same⟩
  · exfalso
    cases call with
    | heartbeatJob now workerId jobId token fencingToken =>
        cases presents
        obtain ⟨u, ok, -⟩ := unobserved_eq_ok ok
        obtain ⟨job, owner, -⟩ := heartbeatJob_effect ok
        exact noOwner _ _ _ owner
    | completeJob now jobId token fencingToken result =>
        cases presents
        obtain ⟨row, ok, -⟩ := observed_eq_ok ok
        rcases completeJob_effect ok with ⟨-, found, -, token, -⟩ | ⟨job, owner, -⟩
        · exact forgotten jobId row found token
        · exact noOwner _ _ _ owner
    | failJob now jobId token fencingToken error retryable cleanupEvidence =>
        cases presents
        obtain ⟨row, ok, -⟩ := observed_eq_ok ok
        obtain ⟨job, retry, owner, -⟩ := failJob_effect ok
        exact noOwner _ _ _ owner
    | _ => cases presents

/-! ## Whole runs -/

/-- The claim of the job is superseded along the run: by a step that takes it away or replaces
it, or because the job is once neither running nor succeeded. -/
def Superseded (driver : Driver) (jobId : Uuid) (t : Store) (after : List QueueEvent)
    (s : Store) : Prop :=
  ∃ first event rest u u', after = first ++ event :: rest ∧ Steps (QueueStep driver) t first u ∧
    QueueStep driver u event u' ∧ Steps (QueueStep driver) u' rest s ∧
    (event.Supersedes jobId u ∨ ∃ job, u'.jobs.find? jobId = some job ∧ job.Idle)

/-- A token that was issued before its claim was superseded is forgotten. -/
theorem Superseded.forgotten {driver : Driver} {s₀ t s : Store} {before after : List QueueEvent}
    {jobId claimToken : Uuid} (superseded : Superseded driver jobId t after s)
    (noJobs : s₀.jobs = ∅) (early : Steps (QueueStep driver) s₀ before t)
    (fresh : (claimTokens (before ++ after)).Nodup) (issued : Issued before jobId claimToken) :
    Forgotten claimToken s := by
  obtain ⟨first, event, rest, u, u', rfl, reached, taken, later, lost⟩ := superseded
  have shape : before ++ (first ++ event :: rest) = (before ++ first ++ [event]) ++ rest := by simp
  rw [shape, claimTokens, List.filterMap_append] at fresh
  obtain ⟨freshThen, -, apart⟩ := List.nodup_append.mp fresh
  have inv := AttemptInvariant.of_steps noJobs (early.trans reached)
  have issuedThen : Issued (before ++ first) jobId claimToken := issued.mono
  have forgotten : Forgotten claimToken u' := by
    rcases lost with supersedes | ⟨job, found, idle⟩
    · exact .of_supersedes inv taken freshThen issuedThen supersedes
    · refine (inv.step taken).forgotten freshThen issuedThen.mono fun job' found' token => ?_
      rw [found] at found'
      cases found'
      rw [(inv.step taken).idle jobId job found idle] at token
      cases token
  exact forgotten.steps later fun drawn => apart _ issuedThen.mono.drawn _ drawn rfl

/-- **Attempts are fenced.** In a run from an empty queue that draws no claim token
twice: no job is claimed more often than its `max_attempts`; a job that has ended keeps
its state, result and attempt number; once a claim is superseded, its token is refused
by every later heartbeat, completion and failure; and a completion that is accepted
after another of the same job repeats it and changes nothing. -/
theorem attempt_fencing (driver : Driver) {s₀ t s : Store} {before after : List QueueEvent}
    (noJobs : s₀.jobs = ∅) (early : Steps (QueueStep driver) s₀ before t)
    (late : Steps (QueueStep driver) t after s)
    (fresh : (claimTokens (before ++ after)).Nodup) :
    (∀ job ∈ s.jobs, claims job.jobId (before ++ after) ≤ job.maxAttempts) ∧
    (∀ job ∈ t.jobs, job.Ended → ∃ job' ∈ s.jobs, job'.jobId = job.jobId ∧
      job'.state = job.state ∧ job'.result = job.result ∧ job'.attempts = job.attempts) ∧
    (∀ jobId claimToken, Issued before jobId claimToken → Superseded driver jobId t after s →
      ∀ call : QueueCall, call.presents = some claimToken →
        ∃ e, commit (call.run driver) s = (s, .error e)) ∧
    (∀ now jobId claimToken fencingToken result r row,
      completeJob now jobId claimToken fencingToken result r = .ok (t, row) →
      ∀ now' claimToken' fencingToken' result' s' row',
        completeJob now' jobId claimToken' fencingToken' result' s = .ok (s', row') →
        s' = s ∧ claimToken' = claimToken ∧ row.HasResult result') := by
  refine ⟨?_, ?_, ?_, ?_⟩
  · intro job member
    have inv := AttemptInvariant.of_steps noJobs (early.trans late)
    have found := Table.find?_of_mem member
    rw [← inv.counted job.jobId job found]
    exact inv.bounded job.jobId job found
  · intro job member isOver
    obtain ⟨advanced, found'⟩ := frozen_of_steps late (Table.find?_of_mem member) isOver
    exact ⟨_, Table.mem_of_find? found', rfl, rfl, rfl, rfl⟩
  · intro jobId claimToken issued superseded call presents
    exact (superseded.forgotten noJobs early fresh issued).refuses presents
  · intro now jobId claimToken fencingToken result r row ok now' claimToken' fencingToken' result'
      s' row' ok'
    -- The first completion leaves the row it replies with.
    have first : t.jobs.find? jobId = some row ∧ row.state = .succeeded ∧
        row.claimToken = some claimToken := by
      rcases completeJob_effect ok with ⟨rfl, found, succeeded, token, -⟩ | ⟨job, owner, rfl, rfl⟩
      · exact ⟨found, succeeded, token⟩
      · obtain ⟨found, -, token, -⟩ := assertJobOwner_effect owner
        refine ⟨?_, rfl, token⟩
        rw [releaseResource_jobs, Table.find?_update_self, found]
        rfl
    obtain ⟨found, succeeded, token⟩ := first
    obtain ⟨advanced, found'⟩ := frozen_of_steps late found (.inl succeeded)
    rcases completeJob_effect ok' with ⟨rfl, foundRow, -, tokenRow, -, resultRow⟩ |
      ⟨other, owner, -, -⟩
    · rw [found'] at foundRow
      cases foundRow
      exact ⟨rfl, Option.some.inj (tokenRow.symm.trans token), resultRow⟩
    · obtain ⟨foundOther, running, -, -⟩ := assertJobOwner_effect owner
      rw [found'] at foundOther
      cases foundOther
      rw [show row.state = .running from running] at succeeded
      cases succeeded

/-- A worker is lost, its job is recovered, and another claim takes the job. -/
def reclaimCalls : List QueueCall :=
  [.recoverStaleJobs (seconds 200) 120 {},
    .reportResourceCleanup "fake-hcu-0" 1
      [("fence", .obj [("fenced", .bool true)]), ("health", .obj [("healthy", .bool true)])],
    .claimJob (seconds 201) 21 31 {} "gpu-0"]

/-- The completion of the lost worker is refused. -/
theorem attempt_fencing_reclaimed :
    let t := runCalls textDriver leasingCalls (oneTask .optimization .profiling)
    let s := runCalls textDriver reclaimCalls t
    (∃ job ∈ s.jobs, job.state = .running ∧ job.claimToken = some 21) ∧
    ∃ e, commit ((QueueCall.completeJob (seconds 202) 10 20 (some 1) []).run textDriver) s =
      (s, .error e) := by
  intro t s
  have fenced := attempt_fencing textDriver rfl
    (steps_runCalls textDriver leasingCalls (oneTask .optimization .profiling))
    (steps_runCalls textDriver reclaimCalls _) (by decide)
  have issued : Issued (eventsOf textDriver leasingCalls (oneTask .optimization .profiling))
      10 20 := by
    have found : (eventsOf textDriver leasingCalls (oneTask .optimization .profiling)).any
        (fun event => decide (event.claimOf = some (10, 20))) = true := by
      decide
    obtain ⟨event, inside, claimed⟩ := List.any_eq_true.mp found
    exact ⟨event, inside, of_decide_eq_true claimed⟩
  have stale : (10 : Uuid) ∈ (t.staleJobs (seconds 200) 120 {}).map Job.jobId := by decide
  have superseded : Superseded textDriver 10 t (eventsOf textDriver reclaimCalls t) s :=
    ⟨[], _, _, t, _, rfl, .refl t, .call (.recoverStaleJobs (seconds 200) 120 {}),
      steps_runCalls textDriver reclaimCalls.tail _, .inl stale⟩
  have reclaimed : ∃ job ∈ s.jobs.rows, job.state = .running ∧ job.claimToken = some 21 := by
    decide
  exact ⟨reclaimed, fenced.2.2.1 10 20 issued superseded _ rfl⟩

end HcuAutoOpt
