import HcuAutoOpt.Queue.Leases

/-!
# Resources are released fail-closed

What one accepted call may do to one resource row is a `ResourceMove`: renew it, lease
it, release it, quarantine it or take a cleanup report on it, each with the token and the
evidence that the call presents. Every accepted call moves every row so
(`resourceMove_of_run`), and the claim about releases is read off the moves.

A release writes only the row whose owner and token the job still has, so what is needed
of the store is small: an owned resource is active, and no committed state of a resource
lies between active, available and quarantined (`Resource.Settled`).
-/

set_option autoImplicit false

namespace HcuAutoOpt

open Foundation

/-! ## What a call presents -/

/-- The fencing token that a call presents, if any. -/
def QueueCall.fencingToken : QueueCall → Option Int
  | .heartbeatJob _ _ _ _ fencingToken => fencingToken
  | .completeJob _ _ _ fencingToken _ => fencingToken
  | .failJob _ _ _ fencingToken _ _ _ => fencingToken
  | .reportResourceCleanup _ fencingToken _ => some fencingToken
  | _ => none

/-- The cleanup evidence that a call carries, if any. -/
def QueueCall.cleanupEvidence : QueueCall → Option Json.Object
  | .completeJob _ _ _ _ result => cleanupEvidenceOf result
  | .failJob _ _ _ _ _ _ cleanupEvidence => cleanupEvidence
  | .reportResourceCleanup _ _ cleanupEvidence => some cleanupEvidence
  | _ => none

/-- The job whose lease a call ends on behalf of its worker. -/
def QueueCall.finishes : QueueCall → Option Uuid
  | .completeJob _ jobId _ _ _ => some jobId
  | .failJob _ jobId _ _ _ _ _ => some jobId
  | _ => none

/-- The resource that a call reports on. -/
def QueueCall.reportsOn : QueueCall → Option String
  | .reportResourceCleanup resourceId _ _ => some resourceId
  | _ => none

/-- The evidence says that the device was fenced and is healthy. -/
def ConfirmsCleanup (evidence : Json.Object) : Prop :=
  ∃ fence health, evidence.get? "fence" = some (.obj fence) ∧
    evidence.get? "health" = some (.obj health) ∧
    Json.Object.get? fence "fenced" = some (.bool true) ∧
    Json.Object.get? health "healthy" = some (.bool true)

/-- `_cleanup_is_healthy` accepts the evidence that confirms the cleanup, and no other. -/
theorem cleanupIsHealthy_iff {evidence : Option Json.Object} :
    cleanupIsHealthy evidence = true ↔ ∃ fields, evidence = some fields ∧ ConfirmsCleanup fields := by
  cases evidence with
  | none => simp [cleanupIsHealthy]
  | some fields =>
      simp only [cleanupIsHealthy, ConfirmsCleanup, Option.some.injEq, exists_eq_left']
      split
      · rename_i fence health fenced healthy
        simp [fenced, healthy]
      · rename_i other
        simp only [Bool.false_eq_true, false_iff, not_exists]
        rintro fence health ⟨fenced, healthy, -⟩
        exact other fence health fenced healthy

/-- A cleanup leaves a resource available exactly when its evidence confirms it. -/
theorem cleanupState_eq_available {evidence : Option Json.Object} :
    cleanupState evidence = .available ↔
      ∃ fields, evidence = some fields ∧ ConfirmsCleanup fields := by
  rw [← cleanupIsHealthy_iff]
  unfold cleanupState
  split <;> simp_all

theorem cleanupState_cases (evidence : Option Json.Object) :
    cleanupState evidence = .available ∨ cleanupState evidence = .quarantined := by
  unfold cleanupState
  split <;> simp

/-! ## Moves of a resource -/

/-- What an accepted call may do to a resource. -/
inductive ResourceMove (call : QueueCall) (resource resource' : Resource) : Prop
  | kept (same : resource' = resource)
  | renewed (now : Timestamp) (token : call.fencingToken = some resource.fencingToken)
      (same : resource' = resource.renewed now)
  | leased (free : resource.state = .available) (active : resource'.state = .active)
      (untold : call.fencingToken = none)
  | finished (reason : String) (active : resource.state = .active) (jobId : Uuid)
      (finishes : call.finishes = some jobId) (owner : resource.ownerJobId = some jobId)
      (token : call.fencingToken = some resource.fencingToken)
      (same : resource' = resource.released reason call.cleanupEvidence)
  | revoked (reason : String) (active : resource.state = .active)
      (untold : call.fencingToken = none) (same : resource' = resource.released reason none)
  | reported (evidence : Json.Object) (carried : call.cleanupEvidence = some evidence)
      (about : call.reportsOn = some resource.resourceId)
      (token : call.fencingToken = some resource.fencingToken)
      (ended : resource.state ∈ [.fencing, .healthCheck, .quarantined])
      (same : resource' = resource.cleaned evidence)

/-- The row is in a state that transactions commit, and is active while it is owned. -/
structure Resource.Settled (resource : Resource) : Prop where
  state : resource.state ∈ [.available, .active, .quarantined]
  owned : resource.ownerJobId ≠ none → resource.state = .active

/-- Every resource is settled. -/
def Store.ResourcesSettled (s : Store) : Prop := ∀ resource ∈ s.resources, resource.Settled

theorem Resource.Settled.released (reason : String) (evidence : Option Json.Object)
    (resource : Resource) : (resource.released reason evidence).Settled where
  state := by
    rcases cleanupState_cases evidence with state | state <;> simp [Resource.released, state]
  owned := by simp [Resource.released]

theorem Resource.Settled.cleaned (evidence : Json.Object) (resource : Resource) :
    (resource.cleaned evidence).Settled where
  state := by
    rcases cleanupState_cases (some evidence) with state | state <;>
      simp [Resource.cleaned, state]
  owned := by simp [Resource.cleaned]

/-- Moves keep resources settled. -/
theorem ResourceMove.settled {call : QueueCall} {resource resource' : Resource}
    (move : ResourceMove call resource resource') (settled : resource.Settled) :
    resource'.Settled := by
  cases move with
  | kept same => exact same ▸ settled
  | renewed now _ same =>
      rw [same]
      exact ⟨settled.state, settled.owned⟩
  | leased _ active => exact ⟨by simp [active], fun _ => active⟩
  | finished reason _ _ _ _ _ same =>
      rw [same]
      exact .released reason _ resource
  | revoked reason _ _ same =>
      rw [same]
      exact .released reason _ resource
  | reported evidence _ _ _ _ same =>
      rw [same]
      exact .cleaned evidence resource

/-! ## Every accepted call moves every resource -/

/-- Every row of `s` is in `s'`, related as said, and the other rows of `s'` are as a
registration adds them. -/
structure MovesResources (move : Resource → Resource → Prop) (s s' : Store) : Prop where
  old : ∀ resourceId resource, s.resources.find? resourceId = some resource →
    ∃ resource', s'.resources.find? resourceId = some resource' ∧ move resource resource'
  added : ∀ resourceId resource', s.resources.find? resourceId = none →
    s'.resources.find? resourceId = some resource' → resource' = { resourceId }

namespace MovesResources

variable {move : Resource → Resource → Prop} {s s' : Store}

theorem of_same (resources : s'.resources = s.resources)
    (kept : ∀ resource, move resource resource) : MovesResources move s s' where
  old := fun _ resource found => ⟨resource, resources ▸ found, kept resource⟩
  added := fun resourceId resource' absent found => by
    rw [resources, absent] at found
    cases found

/-- A rewrite moves resources when it moves each chosen one. -/
theorem of_updateWhere {p : Resource → Bool} {f : Resource → Resource} [KeepsKey f]
    (resources : s'.resources = s.resources.updateWhere p f)
    (kept : ∀ resource, move resource resource)
    (chosen : ∀ resource ∈ s.resources, p resource = true → move resource (f resource)) :
    MovesResources move s s' where
  old := fun resourceId resource found => by
    refine ⟨if p resource then f resource else resource, ?_, ?_⟩
    · rw [resources, Table.find?_updateWhere, found]
      rfl
    · by_cases picked : p resource = true
      · rw [if_pos picked]
        exact chosen resource (Table.mem_of_find? found) picked
      · rw [if_neg picked]
        exact kept resource
  added := fun resourceId resource' absent found => by
    rw [resources, Table.find?_updateWhere, absent] at found
    cases found

end MovesResources

/-- The resource is as it was, or was taken from its owner without evidence. -/
def Resource.KeptOrRevoked (resource resource' : Resource) : Prop :=
  resource' = resource ∨
    resource.ownerJobId ≠ none ∧ ∃ reason, resource' = resource.released reason none

/-- Two revocations of one resource are one: the first leaves no owner. -/
theorem keptOrRevoked_trans {s t u : Store}
    (first : MovesResources Resource.KeptOrRevoked s t)
    (second : MovesResources Resource.KeptOrRevoked t u) :
    MovesResources Resource.KeptOrRevoked s u where
  old := fun resourceId resource found => by
    obtain ⟨middle, foundMiddle, rfl | ⟨owned, reason, rfl⟩⟩ := first.old resourceId resource found
    · exact second.old resourceId middle foundMiddle
    · obtain ⟨last, foundLast, rfl | ⟨still, -⟩⟩ := second.old resourceId _ foundMiddle
      · exact ⟨_, foundLast, .inr ⟨owned, reason, rfl⟩⟩
      · exact absurd rfl still
  added := fun resourceId last absent foundLast => by
    cases between : t.resources.find? resourceId with
    | none => exact second.added resourceId last between foundLast
    | some middle =>
        have fresh := first.added resourceId middle absent between
        obtain ⟨row, foundRow, rfl | ⟨owned, -⟩⟩ := second.old resourceId middle between
        · cases foundRow.symm.trans foundLast
          exact fresh
        · rw [fresh] at owned
          exact absurd rfl owned

theorem keptOrRevoked_of_release {s s' : Store} {job : Job} {reason : String}
    (resources : s'.resources = (releaseResource job reason none s).resources) :
    MovesResources Resource.KeptOrRevoked s s' := by
  refine .of_updateWhere resources (fun _ => .inl rfl) fun resource _ holds => ?_
  have owner := (of_decide_eq_true holds).2.1
  exact .inr ⟨by simp [owner], reason, rfl⟩

theorem keptOrRevoked_of_releaseAll {s s' : Store} {reason : String} {jobs : List Job}
    (resources : s'.resources = (releaseAll reason jobs s).resources) :
    MovesResources Resource.KeptOrRevoked s s' := by
  induction jobs generalizing s with
  | nil => exact .of_same resources fun _ => .inl rfl
  | cons job jobs ih => exact keptOrRevoked_trans (keptOrRevoked_of_release rfl) (ih resources)

theorem keptOrRevoked_of_recoverAll {driver : Driver} {now : Timestamp} {jobs : List Job}
    {s s' : Store} (ok : jobs.foldlM (recoverJob driver now) s = .ok s') :
    MovesResources Resource.KeptOrRevoked s s' := by
  induction jobs generalizing s with
  | nil =>
      cases ok
      exact .of_same rfl fun _ => .inl rfl
  | cons job jobs ih =>
      rw [List.foldlM_cons] at ok
      obtain ⟨t, recovered, ok⟩ := Except.bind_eq_ok.mp ok
      exact keptOrRevoked_trans
        (keptOrRevoked_of_release (recoverJob_effect recovered).resources) (ih ok)

/-- A revocation moves the resources of a settled store. -/
theorem moves_of_keptOrRevoked {call : QueueCall} {s s' : Store}
    (settled : s.ResourcesSettled) (untold : call.fencingToken = none)
    (revoked : MovesResources Resource.KeptOrRevoked s s') :
    MovesResources (ResourceMove call) s s' where
  old := fun resourceId resource found => by
    obtain ⟨resource', found', same | ⟨owned, reason, same⟩⟩ :=
      revoked.old resourceId resource found
    · exact ⟨resource', found', .kept same⟩
    · have active := (settled resource (Table.mem_of_find? found)).owned owned
      exact ⟨resource', found', .revoked reason active untold same⟩
  added := revoked.added

/-- The release of a finished job moves the resources: the job it names is the owner of
the row it writes, and presents its token. -/
theorem moves_of_finish {call : QueueCall} {s s' : Store} (settled : s.ResourcesSettled)
    {jobId claimToken : Uuid} {job : Job} {reason : String}
    (owner : assertJobOwner jobId claimToken call.fencingToken s = .ok job)
    (finishes : call.finishes = some jobId)
    (resources : s'.resources =
      (releaseResource job reason call.cleanupEvidence s).resources) :
    MovesResources (ResourceMove call) s s' := by
  obtain ⟨found, -, -, held⟩ := assertJobOwner_effect owner
  refine .of_updateWhere resources (fun _ => .kept rfl) fun resource inTable holds => ?_
  obtain ⟨named, owned, -⟩ := of_decide_eq_true holds
  have sameJob : job.jobId = jobId := Table.key_of_find? found
  obtain ⟨row, foundRow, -, token⟩ := held resource.resourceId (Option.mem_def.mpr named)
  have same : row = resource :=
    Option.some.inj (foundRow.symm.trans (Table.find?_of_mem inTable))
  subst same
  exact .finished reason ((settled row inTable).owned (by simp [owned])) jobId finishes
    (sameJob ▸ owned) token rfl

/-- **Every accepted call moves every resource.** -/
theorem resourceMove_of_run {driver : Driver} {call : QueueCall} {s s' : Store}
    {reply : Option Job} (ok : call.run driver s = .ok (s', reply))
    (settled : s.ResourcesSettled) : MovesResources (ResourceMove call) s s' := by
  have quiet : ∀ {t : Store}, t.resources = s.resources → MovesResources (ResourceMove call) s t :=
    fun resources => .of_same resources fun _ => .kept rfl
  cases call with
  | registerWorker request =>
      obtain ⟨row, ok, -⟩ := unobserved_eq_ok ok
      obtain ⟨-, -, same | ⟨resourceId, resources⟩⟩ := registerWorker_effect ok
      · exact quiet same
      · refine ⟨fun known resource found => ⟨resource, ?_, .kept rfl⟩,
          fun known resource absent found => ?_⟩
        · rw [resources]
          exact Table.find?_insertIfAbsent_of_some found
        · rw [resources, Table.find?_insertIfAbsent, absent] at found
          split at found
          · rename_i same
            cases found
            exact congrArg (fun known => ({ resourceId := known } : Resource)) same
          · cases found
  | enqueueJob now jobId request =>
      obtain ⟨row, ok, -⟩ := observed_eq_ok ok
      rcases enqueueJob_effect ok with ⟨rfl, -, -⟩ | ⟨-, -, -, rfl, rfl⟩ <;> exact quiet rfl
  | claimJob now claimToken leaseId locks workerId =>
      rcases claimJob_effect ok with ⟨-, rfl⟩ | ⟨worker, job, lease, -, -, -, taken, -, -, resources, -⟩
      · exact quiet rfl
      · cases lease with
        | none => exact quiet resources
        | some lease =>
            obtain ⟨free, inFree, available, rfl⟩ := taken lease rfl
            refine .of_updateWhere resources (fun _ => .kept rfl) fun resource inTable chosen => ?_
            have same : resource = free :=
              Table.eq_of_key_eq inTable inFree (of_decide_eq_true chosen)
            subst same
            exact .leased available rfl rfl
  | heartbeatJob now workerId jobId claimToken fencingToken =>
      obtain ⟨u, ok, -⟩ := unobserved_eq_ok ok
      obtain ⟨job, -, -, rfl⟩ := heartbeatJob_effect ok
      cases fencingToken with
      | none => exact quiet rfl
      | some token =>
          refine .of_updateWhere rfl (fun _ => .kept rfl) fun resource _ chosen => ?_
          obtain ⟨-, same⟩ := of_decide_eq_true chosen
          exact .renewed now (congrArg some same.symm) rfl
  | completeJob now jobId claimToken fencingToken result =>
      obtain ⟨row, ok, -⟩ := observed_eq_ok ok
      rcases completeJob_effect ok with ⟨rfl, -⟩ | ⟨job, owner, -, rfl⟩
      · exact quiet rfl
      · exact moves_of_finish settled owner rfl rfl
  | failJob now jobId claimToken fencingToken error retryable cleanupEvidence =>
      obtain ⟨row, ok, -⟩ := observed_eq_ok ok
      obtain ⟨job, retry, owner, -, -, converged⟩ := failJob_effect ok
      have same := convergeUnlessRetried_sameQueue converged
      exact moves_of_finish settled owner rfl same.resources
  | recoverStaleJobs now staleAfterSeconds locks =>
      obtain ⟨recovered, ok, -⟩ := unobserved_eq_ok ok
      exact moves_of_keptOrRevoked settled rfl
        (keptOrRevoked_of_recoverAll (recoverStaleJobs_effect ok).1)
  | cancelJob now jobId reason =>
      obtain ⟨row, ok, -⟩ := observed_eq_ok ok
      obtain ⟨job, -, ⟨-, rfl, -⟩ | ⟨-, -, ended⟩⟩ := cancelJob_effect ok
      · exact quiet rfl
      · have same : SameQueue _ s' :=
          ended ▸ failEndpointAdjudicationAfterJobFailure_sameQueue job _
        by_cases running : job.state = .running
        · rw [if_pos running] at same
          exact moves_of_keptOrRevoked settled rfl (keptOrRevoked_of_release same.resources)
        · rw [if_neg running] at same
          exact quiet same.resources
  | cancelFrameworkTask now taskId reason =>
      obtain ⟨u, ok, -⟩ := unobserved_eq_ok ok
      rcases cancelFrameworkTask_effect ok with ⟨rfl, -⟩ | ⟨resources, -⟩
      · exact quiet rfl
      · exact moves_of_keptOrRevoked settled rfl (keptOrRevoked_of_releaseAll resources)
  | cancelScriptedSearchRound now roundId reason =>
      obtain ⟨row, ok, -⟩ := unobserved_eq_ok ok
      rcases cancelScriptedSearchRound_effect ok with rfl | ⟨taskId, resources, -⟩
      · exact quiet rfl
      · exact quiet resources
  | reportResourceCleanup resourceId fencingToken cleanupEvidence =>
      obtain ⟨row, ok, -⟩ := unobserved_eq_ok ok
      obtain ⟨resource, known, token, ended, rfl⟩ := reportResourceCleanup_effect ok
      refine .of_updateWhere rfl (fun _ => .kept rfl) fun other inTable chosen => ?_
      have named : other.resourceId = resourceId := of_decide_eq_true chosen
      have same : other = resource := by
        refine Option.some.inj ((Table.find?_of_mem inTable).symm.trans ?_)
        rw [key_resource, named, known]
      subst same
      exact .reported cleanupEvidence rfl (congrArg some named.symm) (congrArg some token.symm)
        ended rfl

/-- A resource that has never been leased is settled. -/
theorem Resource.Settled.fresh (resourceId : String) : Resource.Settled { resourceId } where
  state := by simp
  owned := by simp

/-! ## Whole runs -/

theorem resourcesSettled_of_step {driver : Driver} {s s' : Store} {event : QueueEvent}
    (settled : s.ResourcesSettled) (step : QueueStep driver s event s') :
    s'.ResourcesSettled := by
  rcases step.cases_on_reply with ⟨call, e, -, rfl⟩ | ⟨call, reply, -, ok⟩ | ⟨-, work⟩
  · exact settled
  · intro resource' inTable'
    have found' := Table.find?_of_mem inTable'
    cases before : s.resources.find? (key resource') with
    | some resource =>
        obtain ⟨moved, foundMoved, move⟩ := (resourceMove_of_run ok settled).old _ resource before
        cases foundMoved.symm.trans found'
        exact move.settled (settled resource (Table.mem_of_find? before))
    | none =>
        rw [(resourceMove_of_run ok settled).added _ resource' before found']
        exact .fresh _
  · intro resource inTable
    rw [work.resources] at inTable
    exact settled resource inTable

/-- Every state of a run from a store without resources has settled resources. -/
theorem resourcesSettled_of_steps {driver : Driver} {s₀ s : Store} {trace : List QueueEvent}
    (noResources : s₀.resources = ∅) (run : Steps (QueueStep driver) s₀ trace s) :
    s.ResourcesSettled := by
  refine run.invariant (fun _ _ _ settled step => resourcesSettled_of_step settled step) ?_
  intro resource inTable
  rw [noResources] at inTable
  exact absurd inTable (Table.not_mem_empty resource)

/-- Across any step a resource stays as it is, or an accepted call moves it. -/
theorem resourceMove_of_step {driver : Driver} {s s' : Store} {event : QueueEvent}
    (settled : s.ResourcesSettled) (step : QueueStep driver s event s') {resourceId : String}
    {resource : Resource} (found : s.resources.find? resourceId = some resource) :
    ∃ resource', s'.resources.find? resourceId = some resource' ∧
      (resource' = resource ∨
        ∃ call reply, event = .call call (.ok reply) ∧ ResourceMove call resource resource') := by
  rcases step.cases_on_reply with ⟨call, e, -, rfl⟩ | ⟨call, reply, named, ok⟩ | ⟨-, work⟩
  · exact ⟨resource, found, .inl rfl⟩
  · obtain ⟨resource', found', move⟩ := (resourceMove_of_run ok settled).old _ resource found
    exact ⟨resource', found', .inr ⟨call, reply, named, move⟩⟩
  · exact ⟨resource, work.resources ▸ found, .inl rfl⟩

/-- The call ends the current lease of the resource, or reports on it after its end. -/
def QueueCall.Releases (call : QueueCall) (resource : Resource) : Prop :=
  (resource.state = .active ∧
      ∃ jobId, call.finishes = some jobId ∧ resource.ownerJobId = some jobId) ∨
    (resource.state = .quarantined ∧ call.reportsOn = some resource.resourceId)

/-- A move makes a resource available only by a call that releases it, with its token and
confirming evidence. -/
theorem ResourceMove.available {call : QueueCall} {resource resource' : Resource}
    (move : ResourceMove call resource resource') (settled : resource.Settled)
    (taken : resource.state ≠ .available) (free : resource'.state = .available) :
    call.Releases resource ∧ call.fencingToken = some resource.fencingToken ∧
      ∃ evidence, call.cleanupEvidence = some evidence ∧ ConfirmsCleanup evidence := by
  cases move with
  | kept same => exact absurd (same ▸ free) taken
  | renewed now _ same =>
      rw [same] at free
      exact absurd free taken
  | leased _ active => simp [active] at free
  | finished reason active jobId finishes owner token same =>
      rw [same] at free
      exact ⟨.inl ⟨active, jobId, finishes, owner⟩, token, cleanupState_eq_available.mp free⟩
  | revoked reason _ _ same =>
      have unconfirmed : cleanupState none = .available := by
        rw [same] at free
        exact free
      cases unconfirmed
  | reported evidence carried about token ended same =>
      rw [same] at free
      have state := settled.state
      refine ⟨.inr ⟨?_, about⟩, token, ?_⟩
      · revert state ended
        cases resource.state <;> simp
      · rw [carried]
        exact cleanupState_eq_available.mp free

/-- A move that ends a lease leaves the resource available or quarantined. -/
theorem ResourceMove.ends {call : QueueCall} {resource resource' : Resource}
    (move : ResourceMove call resource resource') (active : resource.state = .active)
    (ended : resource'.state ≠ .active) :
    resource'.state = .available ∨ resource'.state = .quarantined := by
  cases move with
  | kept same => exact absurd (same ▸ active) ended
  | renewed now _ same =>
      rw [same] at ended
      exact absurd active ended
  | leased free => simp [active] at free
  | finished reason _ _ _ _ _ same =>
      rw [same]
      exact cleanupState_cases call.cleanupEvidence
  | revoked reason _ _ same =>
      rw [same]
      exact cleanupState_cases none
  | reported evidence _ _ _ _ same =>
      rw [same]
      exact cleanupState_cases (some evidence)

/-- A move leases a resource only when it is available. -/
theorem ResourceMove.leases {call : QueueCall} {resource resource' : Resource}
    (move : ResourceMove call resource resource') (idle : resource.state ≠ .active)
    (active : resource'.state = .active) : resource.state = .available := by
  cases move with
  | kept same => exact absurd (same ▸ active) idle
  | renewed now _ same =>
      rw [same] at active
      exact absurd active idle
  | leased free => exact free
  | finished reason was | revoked reason was => exact absurd was idle
  | reported evidence _ _ _ _ same =>
      rw [same] at active
      rcases cleanupState_cases (some evidence) with state | state <;>
        simp [Resource.cleaned, state] at active

/-- A call that presents a token moves only resources with that token. -/
theorem ResourceMove.fenced {call : QueueCall} {resource resource' : Resource}
    (move : ResourceMove call resource resource') {token : Int}
    (presented : call.fencingToken = some token) (stale : token ≠ resource.fencingToken) :
    resource' = resource := by
  have apart : call.fencingToken ≠ some resource.fencingToken := by
    rw [presented]
    exact fun same => stale (Option.some.inj same)
  cases move with
  | kept same => exact same
  | renewed _ current _ => exact absurd current apart
  | leased _ _ untold | revoked _ _ untold _ =>
      rw [presented] at untold
      cases untold
  | finished _ _ _ _ _ current _ | reported _ _ _ current _ _ => exact absurd current apart

/-- **Resources are released fail-closed.** Across every step of every run a resource that
is not available becomes so only by an accepted call that ends its current lease, or that
reports on it after that lease ended, with its current fencing token and evidence that it
was fenced and is healthy. Any other end of its lease leaves it quarantined; a quarantined
resource is not leased; and a call that presents an older token leaves its row alone. -/
theorem resources_released_fail_closed (driver : Driver) {s₀ s s' : Store}
    {trace : List QueueEvent} {event : QueueEvent} (noResources : s₀.resources = ∅)
    (run : Steps (QueueStep driver) s₀ trace s) (step : QueueStep driver s event s')
    {resourceId : String} {resource : Resource}
    (found : s.resources.find? resourceId = some resource) :
    ∃ resource', s'.resources.find? resourceId = some resource' ∧
      (resource.state ≠ .available → resource'.state = .available →
        ∃ call reply, event = .call call (.ok reply) ∧ call.Releases resource ∧
          call.fencingToken = some resource.fencingToken ∧
          ∃ evidence, call.cleanupEvidence = some evidence ∧ ConfirmsCleanup evidence) ∧
      (resource.state = .active → resource'.state ≠ .active → resource'.state ≠ .available →
        resource'.state = .quarantined) ∧
      (resource.state = .quarantined → resource'.state ≠ .active) ∧
      (∀ call reply token, event = .call call reply → call.fencingToken = some token →
        token < resource.fencingToken → resource' = resource) := by
  have settled := resourcesSettled_of_steps noResources run
  obtain ⟨resource', found', same | ⟨call, reply, rfl, move⟩⟩ :=
    resourceMove_of_step settled step found
  · subst same
    refine ⟨resource', found', fun taken free => absurd free taken,
      fun active ended _ => absurd active ended, ?_, fun _ _ _ _ _ _ => rfl⟩
    intro quarantined active
    simp [quarantined] at active
  · refine ⟨resource', found', fun taken free => ?_, fun active ended kept => ?_, ?_, ?_⟩
    · exact ⟨call, reply, rfl,
        move.available (settled resource (Table.mem_of_find? found)) taken free⟩
    · exact (move.ends active ended).resolve_left kept
    · intro quarantined active
      have free := move.leases (by simp [quarantined]) active
      simp [quarantined] at free
    · intro other answer token same presented older
      cases same
      exact move.fenced presented (ne_of_lt older)

/-- The evidence of a clean device. -/
def cleanDevice : Json.Object :=
  [("fence", .obj [("fenced", .bool true)]), ("health", .obj [("healthy", .bool true)])]

/-- After the leasing claim, the completion with clean evidence frees the accelerator. -/
theorem resources_released_fail_closed_completed :
    let s := runCalls textDriver leasingCalls (oneTask .optimization .profiling)
    let s' := (commit (QueueCall.run textDriver
      (.completeJob 2 10 20 (some 1) [("cleanup_evidence", .obj cleanDevice)])) s).1
    ∃ resource resource', s.resources.find? "fake-hcu-0" = some resource ∧
      resource.state = .active ∧ s'.resources.find? "fake-hcu-0" = some resource' ∧
      resource'.state = .available := by
  intro s s'
  have leased : ∃ resource, s.resources.find? "fake-hcu-0" = some resource ∧
      resource.state = .active := by
    decide +kernel
  obtain ⟨resource, found, active⟩ := leased
  have freed : ∀ resource', s'.resources.find? "fake-hcu-0" = some resource' →
      resource'.state = .available := by
    decide +kernel
  obtain ⟨resource', found', -⟩ := resources_released_fail_closed textDriver rfl
    (steps_runCalls textDriver leasingCalls (oneTask .optimization .profiling))
    (.call (.completeJob 2 10 20 (some 1) [("cleanup_evidence", .obj cleanDevice)])) found
  exact ⟨resource, resource', found, active, found', freed resource' found'⟩

end HcuAutoOpt
