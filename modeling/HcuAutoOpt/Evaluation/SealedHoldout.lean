import HcuAutoOpt.Evaluation.HoldoutAuthority
import HcuAutoOpt.Foundation.Runs

/-!
# Sealed holdout plans

What any sequence of calls on a holdout plan authority gives away. Each operation has
one effect lemma, which says what an accepted call found and what it changed; a refused
call changes nothing. From these an invariant ties the four maps of the authority to
the answers given so far.

A lease identifier is chosen by the caller and nothing keeps two rounds from naming the
same one: the second lease then takes the place of the first. And a plan is accepted
whatever its length, while the result of a reveal holds at most a million characters. In
runs where neither happens the plans are sealed.
-/

set_option autoImplicit false

namespace HcuAutoOpt

namespace M2Authority

open Foundation Foundation.Raising

variable {env : HoldoutEnvironment} {s t : SyntheticHoldoutPlanAuthority}

/-! ## What the operations do -/

/-- What an accepted commitment found and changed. -/
structure Committed (env : HoldoutEnvironment) (s : SyntheticHoldoutPlanAuthority)
    (args : CommitPlan) (plan : Json.Object) (answer : HoldoutPlanCommitment)
    (t : SyntheticHoldoutPlanAuthority) : Prop where
  unplanned : s.plans args.roundId = none
  given : args.plan = some plan
  nonce : args.nonceValue.size = 32
  commitment : answer.commitment =
    env.sha256 (args.nonceValue ++ Json.canonicalBytes (.obj plan))
  changed : t = { s with
    plans := Function.update s.plans args.roundId (some
      { encoded := Json.canonicalBytes (.obj plan), nonce := args.nonceValue,
        commitment := answer }) }

theorem committed_of_ok {args : CommitPlan} {answer : HoldoutPlanCommitment}
    (ran : (commitPlan env args).run s = (.ok answer, t)) :
    ∃ plan, Committed env s args plan answer t := by
  simp only [commitPlan, requireAware, run_get_bind, run_raiseIf_bind_ok,
    run_orRaise_bind_ok] at ran
  obtain ⟨unplanned, -, nonce, plan, given, ran⟩ := ran
  cases ran
  exact ⟨plan, by simpa using unplanned, given, not_not.mp nonce, rfl, rfl⟩

theorem commitPlan_raisesClean (args : CommitPlan) : RaisesClean (commitPlan env args) :=
  reads_get.bind_raisesClean fun _ => (reads_raiseIf _ _).bind_raisesClean fun _ =>
    (reads_raiseIf _ _).bind_raisesClean fun _ => (reads_raiseIf _ _).bind_raisesClean fun _ =>
      (reads_orRaise _ _).bind_raisesClean fun _ => (raisesClean_modify _).bind_pure _

/-- What an accepted lease found and changed. -/
structure Issued (s : SyntheticHoldoutPlanAuthority) (args : IssueRevealLease)
    (lease : HoldoutRevealLease) (t : SyntheticHoldoutPlanAuthority) : Prop where
  barrier : args.round.state = .searchBarrier
  family : args.round.holdoutFamilyHash = some lease.holdoutFamilyHash
  planned : ∃ stored, s.plans args.round.roundId = some stored ∧
    stored.commitment.commitment = args.round.holdoutPlanCommitment
  unissued : s.roundLeaseIds args.round.roundId = none
  leaseId : lease.revealLeaseId = args.leaseId
  roundId : lease.roundId = args.round.roundId
  worker : Bounded 300 lease.authorizedWorkerId
  resource : Bounded 200 lease.resourceId
  fencing : 1 ≤ lease.fencingToken
  changed : t = { s with
    leases := Function.update s.leases lease.revealLeaseId (some lease)
    roundLeaseIds := Function.update s.roundLeaseIds lease.roundId (some lease.revealLeaseId) }

theorem reads_construct_lease (lease : HoldoutRevealLease) : Reads lease.construct :=
  (reads_raiseIf _ _).bind fun _ => (reads_raiseIf _ _).bind fun _ =>
    (reads_raiseIf _ _).bind fun _ => (reads_raiseIf _ _).bind fun _ =>
      (reads_raiseIf _ _).bind fun _ => (reads_raiseIf _ _).bind fun _ => reads_pure _

theorem construct_lease_ok {lease made : HoldoutRevealLease}
    (ran : lease.construct.run s = (.ok made, t)) :
    made = lease ∧ Bounded 300 lease.authorizedWorkerId ∧ Bounded 200 lease.resourceId ∧
      1 ≤ lease.fencingToken := by
  rw [HoldoutRevealLease.construct, run_raiseIf_bind_ok, run_raiseIf_bind_ok,
    run_raiseIf_bind_ok] at ran
  obtain ⟨worker, resource, fencing, ran⟩ := ran
  rw [requireAware, requireAware, run_raiseIf_bind_ok, run_raiseIf_bind_ok,
    run_raiseIf_bind_ok] at ran
  obtain ⟨-, -, -, ran⟩ := ran
  cases ran
  exact ⟨rfl, not_not.mp worker, not_not.mp resource, by omega⟩

theorem reads_requireRoundAuthority (round : SearchRound) : Reads (requireRoundAuthority round) :=
  reads_get.bind fun _ => (reads_raiseIf _ _).bind fun _ => (reads_orRaise _ _).bind fun _ =>
    (reads_raiseIf _ _).bind fun _ => reads_pure _

theorem requireRoundAuthority_ok {round : SearchRound} {stored : StoredHoldoutPlan}
    (ran : (requireRoundAuthority round).run s = (.ok stored, t)) :
    s.plans round.roundId = some stored := by
  rw [requireRoundAuthority, run_get_bind, run_raiseIf_bind_ok, run_orRaise_bind_ok] at ran
  obtain ⟨-, found, planned, ran⟩ := ran
  rw [run_raiseIf_bind_ok] at ran
  obtain ⟨-, ran⟩ := ran
  cases ran
  exact planned

theorem issued_of_ok {args : IssueRevealLease} {lease : HoldoutRevealLease}
    (ran : (issueRevealLease args).run s = (.ok lease, t)) : Issued s args lease t := by
  rw [issueRevealLease] at ran
  obtain ⟨stored, planned, ran⟩ := (reads_requireRoundAuthority _).run_bind_ok ran
  rw [run_get_bind, run_raiseIf_bind_ok, run_orRaise_bind_ok] at ran
  obtain ⟨barrier, family, frozen, ran⟩ := ran
  rw [run_raiseIf_bind_ok, run_raiseIf_bind_ok, run_raiseIf_bind_ok, run_raiseIf_bind_ok] at ran
  obtain ⟨-, unissued, -, -, ran⟩ := ran
  obtain ⟨made, constructed, ran⟩ := (reads_construct_lease _).run_bind_ok ran
  obtain ⟨rfl, worker, resource, fencing⟩ := construct_lease_ok constructed
  rw [run_raiseIf_bind_ok] at ran
  obtain ⟨matching, ran⟩ := ran
  cases ran
  exact
    { barrier := not_not.mp barrier
      family := frozen
      planned := ⟨stored, requireRoundAuthority_ok planned, not_not.mp matching⟩
      unissued := by simpa using unissued
      leaseId := rfl
      roundId := rfl
      worker
      resource
      fencing
      changed := rfl }

theorem issueRevealLease_raisesClean (args : IssueRevealLease) :
    RaisesClean (issueRevealLease args) :=
  (reads_requireRoundAuthority _).bind_raisesClean fun _ => reads_get.bind_raisesClean fun _ =>
    (reads_raiseIf _ _).bind_raisesClean fun _ => (reads_orRaise _ _).bind_raisesClean fun _ =>
      (reads_raiseIf _ _).bind_raisesClean fun _ => (reads_raiseIf _ _).bind_raisesClean fun _ =>
        (reads_raiseIf _ _).bind_raisesClean fun _ => (reads_raiseIf _ _).bind_raisesClean fun _ =>
          (reads_construct_lease _).bind_raisesClean fun _ =>
            (reads_raiseIf _ _).bind_raisesClean fun _ => (raisesClean_modify _).bind_pure _

/-- What an accepted reveal found and changed. -/
structure Revealed (env : HoldoutEnvironment) (s : SyntheticHoldoutPlanAuthority)
    (args : Reveal) (lease : HoldoutRevealLease) (stored : StoredHoldoutPlan)
    (result : HoldoutRevealResult) (t : SyntheticHoldoutPlanAuthority) : Prop where
  leased : s.leases args.revealLeaseId = some lease
  unconsumed : args.revealLeaseId ∉ s.consumedLeaseIds
  inTime : args.time.micros < lease.expiresAt.micros
  presents : args.Presents lease
  planned : s.plans args.roundId = some stored
  encoded : String.fromUTF8? stored.encoded = some result.canonicalPlanJson
  nonce : result.nonceHex = hexOfBytes stored.nonce
  commitment : result.commitment = stored.commitment.commitment
  leaseId : result.revealLeaseId = lease.revealLeaseId
  roundId : result.roundId = args.roundId
  family : result.holdoutFamilyHash = lease.holdoutFamilyHash
  changed : t = { s with consumedLeaseIds := insert args.revealLeaseId s.consumedLeaseIds }

theorem reads_construct_result (result : HoldoutRevealResult) :
    Reads (HoldoutRevealResult.construct env result) :=
  (reads_raiseIf _ _).bind fun _ => (reads_raiseIf _ _).bind fun _ =>
    (reads_raiseIf _ _).bind fun _ => (reads_raiseIf _ _).bind fun _ =>
      (reads_raiseIf _ _).bind fun _ => (reads_raiseIf _ _).bind fun _ =>
        (reads_raiseIf _ _).bind fun _ => (reads_raiseIf _ _).bind fun _ =>
          (reads_raiseIf _ _).bind fun _ => (reads_raiseIf _ _).bind fun _ => reads_pure _

theorem construct_result_ok {result made : HoldoutRevealResult}
    (ran : (HoldoutRevealResult.construct env result).run s = (.ok made, t)) : made = result := by
  rw [HoldoutRevealResult.construct, run_raiseIf_bind_ok, run_raiseIf_bind_ok,
    run_raiseIf_bind_ok, run_raiseIf_bind_ok, run_raiseIf_bind_ok, run_raiseIf_bind_ok] at ran
  obtain ⟨-, -, -, -, -, -, ran⟩ := ran
  rw [requireAware, run_raiseIf_bind_ok, run_raiseIf_bind_ok, run_raiseIf_bind_ok,
    run_raiseIf_bind_ok] at ran
  obtain ⟨-, -, -, -, ran⟩ := ran
  cases ran
  rfl

theorem revealed_of_ok {args : Reveal} {result : HoldoutRevealResult}
    (ran : (reveal env args).run s = (.ok result, t)) :
    ∃ lease stored, Revealed env s args lease stored result t := by
  rw [reveal, run_get_bind, run_orRaise_bind_ok] at ran
  obtain ⟨lease, leased, ran⟩ := ran
  rw [run_raiseIf_bind_ok, requireAware, run_raiseIf_bind_ok, run_raiseIf_bind_ok,
    run_raiseIf_bind_ok, run_orRaise_bind_ok] at ran
  obtain ⟨unconsumed, -, inTime, presents, stored, planned, ran⟩ := ran
  rw [run_raiseIf_bind_ok, run_orRaise_bind_ok] at ran
  obtain ⟨matching, text, decoded, ran⟩ := ran
  obtain ⟨made, constructed, ran⟩ := (reads_construct_result _).run_bind_ok ran
  cases construct_result_ok constructed
  cases ran
  exact ⟨lease, stored,
    { leased, unconsumed
      inTime := not_le.mp inTime
      presents := not_not.mp presents
      planned
      encoded := decoded
      nonce := rfl
      commitment := not_not.mp matching
      leaseId := rfl
      roundId := rfl
      family := rfl
      changed := rfl }⟩

theorem reveal_raisesClean (args : Reveal) : RaisesClean (reveal env args) :=
  reads_get.bind_raisesClean fun _ => (reads_orRaise _ _).bind_raisesClean fun _ =>
    (reads_raiseIf _ _).bind_raisesClean fun _ => (reads_raiseIf _ _).bind_raisesClean fun _ =>
      (reads_raiseIf _ _).bind_raisesClean fun _ => (reads_raiseIf _ _).bind_raisesClean fun _ =>
        (reads_orRaise _ _).bind_raisesClean fun _ => (reads_raiseIf _ _).bind_raisesClean fun _ =>
          (reads_orRaise _ _).bind_raisesClean fun _ =>
            (reads_construct_result _).bind_raisesClean fun _ => (raisesClean_modify _).bind_pure _

/-! ## When a presentation succeeds -/

/-- What the authority keeps of a plan that a reveal can hand out. -/
structure StoredHoldoutPlan.Revealable (env : HoldoutEnvironment) (stored : StoredHoldoutPlan)
    (text : String) : Prop where
  encoded : stored.encoded = text.toUTF8
  length : 2 ≤ text.length ∧ text.length ≤ 1000000
  nonce : stored.nonce.size = 32
  commitment : stored.commitment.commitment = env.sha256 (stored.nonce ++ stored.encoded)

/-- The bounds of a lease that the result of a reveal repeats. -/
structure HoldoutRevealLease.InBounds (lease : HoldoutRevealLease) : Prop where
  worker : Bounded 300 lease.authorizedWorkerId
  resource : Bounded 200 lease.resourceId
  fencing : 1 ≤ lease.fencingToken

theorem construct_result_accepts {lease : HoldoutRevealLease} {stored : StoredHoldoutPlan}
    {text : String} {args : Reveal} (bounds : lease.InBounds) (presents : args.Presents lease)
    (named : Bounded 300 s.authorityId) (aware : args.time.offset ≠ none)
    (plan : stored.Revealable env text) (u : SyntheticHoldoutPlanAuthority) :
    (HoldoutRevealResult.construct env (revealResult env s lease stored text args)).run u =
      (.ok (revealResult env s lease stored text args), u) := by
  simp only [Reveal.Presents, Prod.mk.injEq] at presents
  obtain ⟨-, worker, -, resource, fencing⟩ := presents
  have short := plan.length
  have digits : (hexOfBytes stored.nonce).length = 64 := by
    rw [length_hexOfBytes, plan.nonce]
  simp only [HoldoutRevealResult.construct, requireAware, run_raiseIf_bind_ok]
  refine ⟨?_, ?_, ?_, ?_, ?_, ?_, aware, ?_, ?_, ?_, rfl⟩
  · simp only [revealResult, unsealed]
    omega
  · exact not_not.mpr ⟨digits, isHex_hexOfBytes _⟩
  · simpa [revealResult, unsealed, worker] using bounds.worker
  · simpa [revealResult, unsealed, resource] using bounds.resource
  · simpa [revealResult, unsealed, fencing] using bounds.fencing
  · simpa [revealResult, unsealed] using named
  · simp [revealResult, unsealed, plan.encoded]
  · simp [revealResult, unsealed, bytesOfHex_hexOfBytes, plan.encoded]
  · exact not_not.mpr rfl

/-- An unconsumed lease presented in time with its identities reveals the plan. -/
theorem reveal_accepts {args : Reveal} {lease : HoldoutRevealLease} {stored : StoredHoldoutPlan}
    {text : String} (leased : s.leases args.revealLeaseId = some lease)
    (unconsumed : args.revealLeaseId ∉ s.consumedLeaseIds) (aware : args.time.offset ≠ none)
    (inTime : args.time.micros < lease.expiresAt.micros) (presents : args.Presents lease)
    (bounds : lease.InBounds) (named : Bounded 300 s.authorityId)
    (planned : s.plans args.roundId = some stored) (plan : stored.Revealable env text) :
    ∃ result t, (reveal env args).run s = (.ok result, t) := by
  refine ⟨revealResult env s lease stored text args,
    { s with consumedLeaseIds := insert args.revealLeaseId s.consumedLeaseIds }, ?_⟩
  rw [reveal, run_get_bind, run_orRaise_bind_ok]
  refine ⟨lease, leased, ?_⟩
  rw [run_raiseIf_bind_ok, requireAware, run_raiseIf_bind_ok, run_raiseIf_bind_ok,
    run_raiseIf_bind_ok, run_orRaise_bind_ok]
  refine ⟨unconsumed, aware, not_le.mpr inTime, not_not.mpr presents, stored, planned, ?_⟩
  rw [run_raiseIf_bind_ok, run_orRaise_bind_ok]
  refine ⟨not_not.mpr plan.commitment.symm, text, ?_, ?_⟩
  · rw [plan.encoded, fromUTF8?_toUTF8]
  · rw [run_bind_of_ok (construct_result_accepts bounds presents named aware plan s)]
    rfl

/-! ## Runs -/

/-- A call on the authority and how it ended. -/
inductive AuthorityEvent where
  | commit (args : CommitPlan) (outcome : Except HoldoutError HoldoutPlanCommitment)
  | issue (args : IssueRevealLease) (outcome : Except HoldoutError HoldoutRevealLease)
  | reveal (args : Reveal) (outcome : Except HoldoutError HoldoutRevealResult)

namespace AuthorityEvent

/-- The round that a call is for. -/
def roundId : AuthorityEvent → Uuid
  | .commit args _ => args.roundId
  | .issue args _ => args.round.roundId
  | .reveal args _ => args.roundId

/-- The call raised. -/
def Raised : AuthorityEvent → Prop
  | .commit _ outcome => ∃ e, outcome = .error e
  | .issue _ outcome => ∃ e, outcome = .error e
  | .reveal _ outcome => ∃ e, outcome = .error e

/-- A lease is issued under an identifier of its own, and a plan that is committed fits
the result of its reveal. -/
def Admissible (s : SyntheticHoldoutPlanAuthority) : AuthorityEvent → Prop
  | .commit args _ =>
      ∀ plan, args.plan = some plan → (Json.canonicalText (.obj plan)).length ≤ 1000000
  | .issue args _ => s.leases args.leaseId = none
  | .reveal _ _ => True

end AuthorityEvent

/-- One call on the authority. -/
def AuthorityStep (env : HoldoutEnvironment) (s : SyntheticHoldoutPlanAuthority) :
    AuthorityEvent → SyntheticHoldoutPlanAuthority → Prop
  | .commit args outcome, t => (commitPlan env args).run s = (outcome, t)
  | .issue args outcome, t => (issueRevealLease args).run s = (outcome, t)
  | .reveal args outcome, t => (reveal env args).run s = (outcome, t)

/-- One admissible call on the authority. -/
def AdmissibleStep (env : HoldoutEnvironment) (s : SyntheticHoldoutPlanAuthority)
    (event : AuthorityEvent) (t : SyntheticHoldoutPlanAuthority) : Prop :=
  AuthorityStep env s event t ∧ event.Admissible s

/-- A call that raises leaves the authority as it was. -/
theorem eq_of_raised {event : AuthorityEvent} (taken : AuthorityStep env s event t)
    (raised : event.Raised) : t = s := by
  cases event with
  | commit args outcome =>
      obtain ⟨e, rfl⟩ := raised
      exact commitPlan_raisesClean args _ _ _ taken
  | issue args outcome =>
      obtain ⟨e, rfl⟩ := raised
      exact issueRevealLease_raisesClean args _ _ _ taken
  | reveal args outcome =>
      obtain ⟨e, rfl⟩ := raised
      exact reveal_raisesClean args _ _ _ taken

/-! ## The history of an authority -/

/-- The stored plan of a round is the one that was committed for it. -/
structure PlanOf (env : HoldoutEnvironment) (trace : List AuthorityEvent) (round : Uuid)
    (stored : StoredHoldoutPlan) (args : CommitPlan) (plan : Json.Object) : Prop where
  event : .commit args (.ok stored.commitment) ∈ trace
  roundId : args.roundId = round
  given : args.plan = some plan
  encoded : stored.encoded = Json.canonicalBytes (.obj plan)
  nonce : stored.nonce = args.nonceValue
  revealable : stored.Revealable env (Json.canonicalText (.obj plan))

/-- The lease of a round is the one that was issued for it after its family was frozen. -/
structure LeaseOf (s : SyntheticHoldoutPlanAuthority) (trace : List AuthorityEvent) (id : Uuid)
    (lease : HoldoutRevealLease) (args : IssueRevealLease) : Prop where
  event : .issue args (.ok lease) ∈ trace
  leaseId : lease.revealLeaseId = id
  roundId : args.round.roundId = lease.roundId
  barrier : args.round.state = .searchBarrier
  family : args.round.holdoutFamilyHash = some lease.holdoutFamilyHash
  bounds : lease.InBounds
  only : s.roundLeaseIds lease.roundId = some id
  planned : (s.plans lease.roundId).isSome

/-- **What the maps of an authority say about its past.** -/
structure History (env : HoldoutEnvironment) (trace : List AuthorityEvent)
    (s : SyntheticHoldoutPlanAuthority) : Prop where
  named : Bounded 300 s.authorityId
  plans : ∀ round stored, s.plans round = some stored →
    ∃ args plan, PlanOf env trace round stored args plan
  leases : ∀ id lease, s.leases id = some lease → ∃ args, LeaseOf s trace id lease args
  rounds : ∀ round id, s.roundLeaseIds round = some id →
    ∃ lease, s.leases id = some lease ∧ lease.roundId = round
  issued : ∀ args lease, .issue args (.ok lease) ∈ trace →
    s.leases lease.revealLeaseId = some lease
  consumed : ∀ id, id ∈ s.consumedLeaseIds →
    ∃ args result lease, .reveal args (.ok result) ∈ trace ∧ args.revealLeaseId = id ∧
      s.leases id = some lease ∧ lease.roundId = args.roundId
  revealed : ∀ args result, .reveal args (.ok result) ∈ trace →
    result.roundId = args.roundId ∧ args.revealLeaseId ∈ s.consumedLeaseIds ∧
      s.roundLeaseIds args.roundId = some args.revealLeaseId

variable {trace : List AuthorityEvent} {event : AuthorityEvent}

theorem PlanOf.later {round : Uuid} {stored : StoredHoldoutPlan} {args : CommitPlan}
    {plan : Json.Object} (known : PlanOf env trace round stored args plan) :
    PlanOf env (trace ++ [event]) round stored args plan :=
  { known with event := List.mem_append_left _ known.event }

/-- A lease stays the lease of its round while the two maps that name it grow. -/
theorem LeaseOf.later {id : Uuid} {lease : HoldoutRevealLease} {args : IssueRevealLease}
    (known : LeaseOf s trace id lease args)
    (rounds : t.roundLeaseIds lease.roundId = s.roundLeaseIds lease.roundId)
    (plans : (s.plans lease.roundId).isSome → (t.plans lease.roundId).isSome) :
    LeaseOf t (trace ++ [event]) id lease args :=
  { known with
    event := List.mem_append_left _ known.event
    only := rounds.trans known.only
    planned := plans known.planned }

theorem history_of_raised (history : History env trace s) (raised : event.Raised) :
    History env (trace ++ [event]) s := by
  have old : ∀ {other : AuthorityEvent}, other ∈ trace ++ [event] → ¬other.Raised →
      other ∈ trace := by
    intro other member accepted
    rcases List.mem_append.mp member with before | last
    · exact before
    · exact absurd (List.mem_singleton.mp last ▸ raised) accepted
  refine
    { named := history.named
      plans := fun round stored found => ?_
      leases := fun id lease found => ?_
      rounds := history.rounds
      issued := fun args lease member => history.issued args lease (old member ?_)
      consumed := fun id member => ?_
      revealed := fun args result member => history.revealed args result (old member ?_) }
  · obtain ⟨args, plan, known⟩ := history.plans round stored found
    exact ⟨args, plan, known.later⟩
  · obtain ⟨args, known⟩ := history.leases id lease found
    exact ⟨args, known.later rfl fun planned => planned⟩
  · rintro ⟨e, clash⟩
    cases clash
  · obtain ⟨args, result, lease, before, rest⟩ := history.consumed id member
    exact ⟨args, result, lease, List.mem_append_left _ before, rest⟩
  · rintro ⟨e, clash⟩
    cases clash

theorem history_of_commit {args : CommitPlan} {answer : HoldoutPlanCommitment}
    (history : History env trace s) (ran : (commitPlan env args).run s = (.ok answer, t))
    (fits : ∀ plan, args.plan = some plan → (Json.canonicalText (.obj plan)).length ≤ 1000000) :
    History env (trace ++ [.commit args (.ok answer)]) t := by
  obtain ⟨plan, committed⟩ := committed_of_ok ran
  obtain rfl := committed.changed
  refine
    { named := history.named
      plans := fun round stored found => ?_
      leases := fun id lease found => ?_
      rounds := history.rounds
      issued := fun args lease member => history.issued args lease (by simpa using member)
      consumed := fun id member => ?_
      revealed := fun args result member => history.revealed args result (by simpa using member) }
  · by_cases same : round = args.roundId
    · subst same
      obtain rfl := Option.some.inj (by simpa using found)
      exact ⟨args, plan,
        { event := by simp
          roundId := rfl
          given := committed.given
          encoded := rfl
          nonce := rfl
          revealable :=
            { encoded := rfl
              length := ⟨(by decide : 2 ≤ 3).trans (Json.length_canonicalText_obj plan),
                fits plan committed.given⟩
              nonce := committed.nonce
              commitment := committed.commitment } }⟩
    · obtain ⟨args', plan', known⟩ := history.plans round stored (by simpa [same] using found)
      exact ⟨args', plan', known.later⟩
  · obtain ⟨args', known⟩ := history.leases id lease found
    refine ⟨args', known.later rfl fun planned => ?_⟩
    by_cases same : lease.roundId = args.roundId
    · simp [same]
    · simpa [same] using planned
  · obtain ⟨args', result, lease, before, rest⟩ := history.consumed id member
    exact ⟨args', result, lease, List.mem_append_left _ before, rest⟩

theorem history_of_issue {args : IssueRevealLease} {lease : HoldoutRevealLease}
    (history : History env trace s) (ran : (issueRevealLease args).run s = (.ok lease, t))
    (fresh : s.leases args.leaseId = none) :
    History env (trace ++ [.issue args (.ok lease)]) t := by
  have issued := issued_of_ok ran
  obtain rfl := issued.changed
  have unissued : s.roundLeaseIds lease.roundId = none := by
    rw [issued.roundId]
    exact issued.unissued
  have fresh : s.leases lease.revealLeaseId = none := by
    rw [issued.leaseId]
    exact fresh
  -- A lease already held has another identifier and another round than the new one.
  have apart : ∀ id other, s.leases id = some other →
      id ≠ lease.revealLeaseId ∧ other.roundId ≠ lease.roundId := by
    intro id other found
    obtain ⟨args', known⟩ := history.leases id other found
    refine ⟨?_, ?_⟩
    · rintro rfl
      simp [fresh] at found
    · intro same
      simpa [same, unissued] using known.only
  refine
    { named := history.named
      plans := fun round stored found => ?_
      leases := fun id other found => ?_
      rounds := fun round id found => ?_
      issued := fun args' other member => ?_
      consumed := fun id member => ?_
      revealed := fun args' result member => ?_ }
  · obtain ⟨args', plan, known⟩ := history.plans round stored found
    exact ⟨args', plan, known.later⟩
  · by_cases same : id = lease.revealLeaseId
    · subst same
      obtain rfl := Option.some.inj (by simpa using found)
      obtain ⟨stored, planned, -⟩ := issued.planned
      exact ⟨args,
        { event := by simp
          leaseId := rfl
          roundId := issued.roundId.symm
          barrier := issued.barrier
          family := issued.family
          bounds := ⟨issued.worker, issued.resource, issued.fencing⟩
          only := by simp
          planned := by simp [issued.roundId, planned] }⟩
    · have held : s.leases id = some other := by simpa [same] using found
      obtain ⟨args', known⟩ := history.leases id other held
      refine ⟨args', known.later ?_ fun planned => planned⟩
      simp [(apart id other held).2]
  · by_cases same : round = lease.roundId
    · subst same
      obtain rfl : lease.revealLeaseId = id := by simpa using found
      exact ⟨lease, by simp, rfl⟩
    · obtain ⟨other, held, known⟩ := history.rounds round id (by simpa [same] using found)
      exact ⟨other, by simpa [(apart id other held).1] using held, known⟩
  · rcases List.mem_append.mp member with before | last
    · have held := history.issued args' other before
      simpa [(apart _ other held).1] using held
    · cases List.mem_singleton.mp last
      simp
  · obtain ⟨args', result, other, before, named, held, round⟩ := history.consumed id member
    exact ⟨args', result, other, List.mem_append_left _ before, named,
      by simpa [(apart id other held).1] using held, round⟩
  · obtain ⟨round, member, known⟩ := history.revealed args' result (by simpa using member)
    refine ⟨round, member, ?_⟩
    have other : args'.roundId ≠ lease.roundId := by
      intro same
      simp [same, unissued] at known
    simpa [other] using known

theorem history_of_reveal {args : Reveal} {result : HoldoutRevealResult}
    (history : History env trace s) (ran : (reveal env args).run s = (.ok result, t)) :
    History env (trace ++ [.reveal args (.ok result)]) t := by
  obtain ⟨lease, stored, revealed⟩ := revealed_of_ok ran
  obtain rfl := revealed.changed
  have round : args.roundId = lease.roundId := congrArg Prod.fst revealed.presents
  refine
    { named := history.named
      plans := fun round stored found => ?_
      leases := fun id other found => ?_
      rounds := history.rounds
      issued := fun args lease member => history.issued args lease (by simpa using member)
      consumed := fun id member => ?_
      revealed := fun args' result' member => ?_ }
  · obtain ⟨args', plan, known⟩ := history.plans round stored found
    exact ⟨args', plan, known.later⟩
  · obtain ⟨args', known⟩ := history.leases id other found
    exact ⟨args', known.later rfl fun planned => planned⟩
  · rcases Finset.mem_insert.mp member with rfl | member
    · exact ⟨args, result, lease, by simp, rfl, revealed.leased, round.symm⟩
    · obtain ⟨args', result', other, before, rest⟩ := history.consumed id member
      exact ⟨args', result', other, List.mem_append_left _ before, rest⟩
  · rcases List.mem_append.mp member with before | last
    · obtain ⟨round, member, known⟩ := history.revealed args' result' before
      exact ⟨round, Finset.mem_insert_of_mem member, known⟩
    · cases List.mem_singleton.mp last
      obtain ⟨issue, known⟩ := history.leases _ _ revealed.leased
      exact ⟨revealed.roundId, Finset.mem_insert_self _ _, round ▸ known.only⟩

/-- Every admissible call keeps the history. -/
theorem history_of_step (history : History env trace s) (taken : AdmissibleStep env s event t) :
    History env (trace ++ [event]) t := by
  obtain ⟨taken, admissible⟩ := taken
  by_cases raised : event.Raised
  · rw [eq_of_raised taken raised]
    exact history_of_raised history raised
  cases event with
  | commit args outcome =>
      cases outcome with
      | error e => exact absurd ⟨e, rfl⟩ raised
      | ok answer => exact history_of_commit history taken admissible
  | issue args outcome =>
      cases outcome with
      | error e => exact absurd ⟨e, rfl⟩ raised
      | ok lease => exact history_of_issue history taken admissible
  | reveal args outcome =>
      cases outcome with
      | error e => exact absurd ⟨e, rfl⟩ raised
      | ok result => exact history_of_reveal history taken

theorem history_of_new {authorityId authorityVersion : String}
    (made : SyntheticHoldoutPlanAuthority.new env authorityId authorityVersion = .ok s) :
    History env [] s := by
  rw [SyntheticHoldoutPlanAuthority.new] at made
  split at made
  · cases made
  · next named =>
      split at made
      · cases made
      · cases made
        exact
          { named := not_not.mp named
            plans := by simp
            leases := by simp
            rounds := by simp
            issued := by simp
            consumed := by simp
            revealed := by simp }

theorem history_of_run {start : SyntheticHoldoutPlanAuthority}
    {authorityId authorityVersion : String}
    (made : SyntheticHoldoutPlanAuthority.new env authorityId authorityVersion = .ok start)
    (run : Steps (AdmissibleStep env) start trace s) : History env trace s := by
  induction run with
  | refl => exact history_of_new made
  | tail _ taken ih => exact history_of_step ih taken

/-! ## Sealed plans -/

/-- What the lease of a round authorises: the lease, whether it was used, and the plan. -/
def leaseAuthority (s : SyntheticHoldoutPlanAuthority) (round : Uuid) :
    Option (HoldoutRevealLease × Prop × Option StoredHoldoutPlan) :=
  (s.roundLeaseIds round).bind fun id =>
    (s.leases id).map fun lease => (lease, id ∈ s.consumedLeaseIds, s.plans round)

/-- An accepted reveal goes through the lease that was issued for its round. -/
structure Authorised (trace : List AuthorityEvent) (args : Reveal) (result : HoldoutRevealResult)
    (issue : IssueRevealLease) (lease : HoldoutRevealLease) : Prop where
  event : .issue issue (.ok lease) ∈ trace
  leaseId : lease.revealLeaseId = args.revealLeaseId
  roundId : issue.round.roundId = args.roundId
  barrier : issue.round.state = .searchBarrier
  family : issue.round.holdoutFamilyHash = some result.holdoutFamilyHash
  presents : args.Presents lease
  inTime : args.time.micros < lease.expiresAt.micros

/-- A reveal hands out the plan and the nonce that were committed for its round. -/
structure Opens (env : HoldoutEnvironment) (trace : List AuthorityEvent) (args : Reveal)
    (result : HoldoutRevealResult) (commit : CommitPlan) (plan : Json.Object)
    (answer : HoldoutPlanCommitment) : Prop where
  event : .commit commit (.ok answer) ∈ trace
  committedFor : commit.roundId = args.roundId
  roundId : result.roundId = args.roundId
  given : commit.plan = some plan
  text : result.canonicalPlanJson = Json.canonicalText (.obj plan)
  nonce : result.nonceHex = hexOfBytes commit.nonceValue
  commitment : result.commitment = answer.commitment
  digest : result.commitment =
    env.sha256 (commit.nonceValue ++ Json.canonicalBytes (.obj plan))

/-- The presentation in time of a lease that was issued and through which nothing was
revealed yet. -/
structure Presentation (trace : List AuthorityEvent) (args : Reveal) (issue : IssueRevealLease)
    (lease : HoldoutRevealLease) : Prop where
  event : .issue issue (.ok lease) ∈ trace
  leaseId : args.revealLeaseId = lease.revealLeaseId
  presents : args.Presents lease
  aware : args.time.offset ≠ none
  inTime : args.time.micros < lease.expiresAt.micros
  unconsumed : ∀ args' result, .reveal args' (.ok result) ∈ trace →
    ¬(args'.revealLeaseId = lease.revealLeaseId ∧ args'.roundId = lease.roundId)

/-- What a call after the calls of `trace` keeps sealed. -/
structure SealedStep (env : HoldoutEnvironment) (trace : List AuthorityEvent)
    (s : SyntheticHoldoutPlanAuthority) (event : AuthorityEvent)
    (t : SyntheticHoldoutPlanAuthority) : Prop where
  once : ∀ args result args' result', event = .reveal args (.ok result) →
    .reveal args' (.ok result') ∈ trace → result'.roundId ≠ result.roundId
  authorised : ∀ args result, event = .reveal args (.ok result) →
    ∃ issue lease, Authorised trace args result issue lease
  opens : ∀ args result, event = .reveal args (.ok result) →
    ∃ commit plan answer, Opens env trace args result commit plan answer
  clean : event.Raised → t = s
  apart : ∀ round, round ≠ event.roundId → leaseAuthority t round = leaseAuthority s round
  presented : ∀ args outcome issue lease, event = .reveal args outcome →
    Presentation trace args issue lease → ∃ result, outcome = .ok result

section

variable (history : History env trace s)
include history

theorem History.once {args args' : Reveal} {result result' : HoldoutRevealResult}
    (ran : (reveal env args).run s = (.ok result, t))
    (before : .reveal args' (.ok result') ∈ trace) : result'.roundId ≠ result.roundId := by
  intro same
  obtain ⟨lease, stored, revealed⟩ := revealed_of_ok ran
  obtain ⟨issue, known⟩ := history.leases _ _ revealed.leased
  obtain ⟨round, member, only⟩ := history.revealed args' result' before
  have sameRound : args'.roundId = lease.roundId := by
    rw [← round, same, revealed.roundId]
    exact congrArg Prod.fst revealed.presents
  -- A round has one lease, so the earlier reveal consumed the lease presented now.
  have sameLease : args'.revealLeaseId = args.revealLeaseId :=
    Option.some.inj (only.symm.trans (sameRound ▸ known.only))
  exact revealed.unconsumed (sameLease ▸ member)

theorem History.authorised {args : Reveal} {result : HoldoutRevealResult}
    (ran : (reveal env args).run s = (.ok result, t)) :
    ∃ issue lease, Authorised trace args result issue lease := by
  obtain ⟨lease, stored, revealed⟩ := revealed_of_ok ran
  obtain ⟨issue, known⟩ := history.leases _ _ revealed.leased
  exact ⟨issue, lease,
    { event := known.event
      leaseId := known.leaseId
      roundId := known.roundId.trans (congrArg Prod.fst revealed.presents).symm
      barrier := known.barrier
      family := revealed.family ▸ known.family
      presents := revealed.presents
      inTime := revealed.inTime }⟩

theorem History.opens {args : Reveal} {result : HoldoutRevealResult}
    (ran : (reveal env args).run s = (.ok result, t)) :
    ∃ commit plan answer, Opens env trace args result commit plan answer := by
  obtain ⟨lease, stored, revealed⟩ := revealed_of_ok ran
  obtain ⟨commit, plan, known⟩ := history.plans _ _ revealed.planned
  have text : result.canonicalPlanJson = Json.canonicalText (.obj plan) := by
    have decoded := revealed.encoded
    rw [known.encoded, Json.canonicalBytes, fromUTF8?_toUTF8] at decoded
    exact (Option.some.inj decoded).symm
  exact ⟨commit, plan, stored.commitment,
    { event := known.event
      committedFor := known.roundId
      roundId := revealed.roundId
      given := known.given
      text
      nonce := known.nonce ▸ revealed.nonce
      commitment := revealed.commitment
      digest := by
        rw [revealed.commitment, known.revealable.commitment, known.nonce, known.encoded] }⟩

theorem History.presented {args : Reveal} {outcome : Except HoldoutError HoldoutRevealResult}
    {issue : IssueRevealLease} {lease : HoldoutRevealLease}
    (ran : (reveal env args).run s = (outcome, t))
    (presentation : Presentation trace args issue lease) : ∃ result, outcome = .ok result := by
  have held : s.leases args.revealLeaseId = some lease := by
    rw [presentation.leaseId]
    exact history.issued issue lease presentation.event
  obtain ⟨issue', known⟩ := history.leases _ _ held
  have round : args.roundId = lease.roundId := congrArg Prod.fst presentation.presents
  obtain ⟨stored, planned⟩ := Option.isSome_iff_exists.mp known.planned
  obtain ⟨commit, plan, committed⟩ := history.plans _ _ planned
  have unconsumed : args.revealLeaseId ∉ s.consumedLeaseIds := by
    intro member
    obtain ⟨args', result, other, before, named, held', roundOf⟩ := history.consumed _ member
    obtain rfl : other = lease := Option.some.inj (held'.symm.trans held)
    exact presentation.unconsumed args' result before
      ⟨named.trans presentation.leaseId, roundOf.symm⟩
  obtain ⟨result, u, accepted⟩ := reveal_accepts held unconsumed presentation.aware
    presentation.inTime presentation.presents known.bounds history.named (round ▸ planned)
    committed.revealable
  exact ⟨result, congrArg Prod.fst (ran.symm.trans accepted)⟩

/-- A call for one round leaves what the leases of the others authorise. -/
theorem History.apart (taken : AdmissibleStep env s event t) (round : Uuid)
    (other : round ≠ event.roundId) : leaseAuthority t round = leaseAuthority s round := by
  obtain ⟨taken, admissible⟩ := taken
  by_cases raised : event.Raised
  · rw [eq_of_raised taken raised]
  cases event with
  | commit args outcome =>
      cases outcome with
      | error e => exact absurd ⟨e, rfl⟩ raised
      | ok answer =>
          obtain ⟨plan, committed⟩ := committed_of_ok taken
          obtain rfl := committed.changed
          have other : round ≠ args.roundId := other
          simp [leaseAuthority, other]
  | issue args outcome =>
      cases outcome with
      | error e => exact absurd ⟨e, rfl⟩ raised
      | ok lease =>
          have issued := issued_of_ok taken
          obtain rfl := issued.changed
          have other : round ≠ lease.roundId := issued.roundId ▸ other
          simp only [leaseAuthority, Function.update_of_ne other]
          cases known : s.roundLeaseIds round with
          | none => rfl
          | some id =>
              obtain ⟨held, leased, -⟩ := history.rounds round id known
              have fresh : id ≠ lease.revealLeaseId := by
                rintro rfl
                rw [issued.leaseId] at leased
                exact absurd (leased.symm.trans admissible) (by simp)
              simp [Function.update_of_ne fresh]
  | reveal args outcome =>
      cases outcome with
      | error e => exact absurd ⟨e, rfl⟩ raised
      | ok result =>
          obtain ⟨lease, stored, revealed⟩ := revealed_of_ok taken
          obtain rfl := revealed.changed
          simp only [leaseAuthority]
          cases known : s.roundLeaseIds round with
          | none => rfl
          | some id =>
              obtain ⟨held, leased, roundOf⟩ := history.rounds round id known
              have different : id ≠ args.revealLeaseId := by
                rintro rfl
                obtain rfl := Option.some.inj (leased.symm.trans revealed.leased)
                exact other (roundOf.symm.trans (congrArg Prod.fst revealed.presents).symm)
              simp [different]

end

/-- **Plans stay sealed.** In a run in which every lease has an identifier of its own and
every committed plan fits the result of its reveal, each call keeps the plans sealed: a
plan is revealed once, through the lease of its round, presented in time with its exact
identities; it is the plan that was committed; a refused call changes nothing and no call
touches what another round's lease authorises; and a lease that was not used yet is
honoured. -/
theorem plans_stay_sealed {authorityId authorityVersion : String}
    {start : SyntheticHoldoutPlanAuthority}
    (made : SyntheticHoldoutPlanAuthority.new env authorityId authorityVersion = .ok start)
    (run : Steps (AdmissibleStep env) start trace s) (next : AdmissibleStep env s event t) :
    SealedStep env trace s event t := by
  have history := history_of_run made run
  have taken := next.1
  exact
    { once := by
        rintro args result args' result' rfl before
        exact history.once taken before
      authorised := by
        rintro args result rfl
        exact history.authorised taken
      opens := by
        rintro args result rfl
        exact history.opens taken
      clean := eq_of_raised taken
      apart := history.apart next
      presented := by
        rintro args outcome issue lease rfl presentation
        exact history.presented taken presentation }

/-! ## Two rounds and one lease identifier -/

namespace Collision

/-- A hash function without collisions: the digest spells the bytes. -/
def spelling : HoldoutEnvironment where
  sha256 := fun bytes => "sha256:" ++ hexOfBytes bytes
  isoformat := fun time => toString time.micros

theorem spelling_injective : Function.Injective spelling.sha256 := by
  intro bytes bytes' same
  have digits : hexOfBytes bytes = hexOfBytes bytes' := by
    simpa [spelling] using same
  rw [← bytesOfHex_hexOfBytes bytes, digits, bytesOfHex_hexOfBytes]

/-- A time of day of an aware clock. -/
def clock (seconds : Int) : DateTime := ⟨seconds * 1000000, some 0⟩

def nonce : ByteArray := ⟨(List.replicate 32 1).toArray⟩

/-- An authority without plans. -/
def start : SyntheticHoldoutPlanAuthority where
  authorityId := "store"
  authorityVersion := "1.0.0"
  authorityHash := spelling.sha256 (Json.canonicalBytes (.obj
    [("schema_version", .str "m2a-scripted-holdout-authority-v1"),
      ("authority_id", .str "store"), ("authority_version", .str "1.0.0"),
      ("synthetic", .bool true)]))
  plans := fun _ => none
  leases := fun _ => none
  roundLeaseIds := fun _ => none
  consumedLeaseIds := ∅

/-- A scripted round at its search barrier with a frozen family. -/
def barrierRound (roundId : Uuid) : SearchRound where
  roundId
  taskId := 2
  idempotencyKey := "round"
  runMode := .scripted
  targetSnapshotId := 3
  stage0RunId := 4
  stage0ProtocolHash := "stage0"
  baselineEpochId := 5
  hotspotId := 6
  replacementPoint := "point"
  workloadId := "workload"
  workloadHash := "workload"
  configurationHash := "configuration"
  imageDigest := "image"
  adapterProfile := "m2-scripted-v1"
  declaredCandidateCount := 2
  maxPromoted := 2
  familyAlpha := 1 / 20
  searchPlanHash := "search"
  holdoutPlanCommitment := spelling.sha256 (nonce ++ Json.canonicalBytes (.obj []))
  holdoutPlanAuthorityId := start.authorityId
  holdoutPlanAuthorityHash := start.authorityHash
  selectionRuleHash := "selection"
  budget := ⟨2, 4, 4, 100, 100, 600, 600⟩
  createdAt := 0
  state := .searchBarrier
  holdoutFamilyHash := some "family"

def commit (roundId : Uuid) : CommitPlan where
  roundId
  plan := some []
  nonce := some nonce
  utcnow := clock 0
  tokenBytes := nonce

/-- A lease under the identifier 21. -/
def issue (roundId : Uuid) : IssueRevealLease where
  round := barrierRound roundId
  authorizedWorkerId := "worker"
  executionLeaseId := 20
  resourceId := "hcu-7"
  fencingToken := 9
  expiresAt := clock 300
  issuedAt := some (clock 0)
  revealLeaseId := some 21
  utcnow := clock 0
  uuid4 := 0

def presentation (roundId : Uuid) : Reveal where
  revealLeaseId := 21
  roundId
  authorizedWorkerId := "worker"
  executionLeaseId := 20
  resourceId := "hcu-7"
  fencingToken := 9
  revealedAt := some (clock 1)
  utcnow := clock 1

def lease (roundId : Uuid) : HoldoutRevealLease where
  revealLeaseId := 21
  roundId
  holdoutFamilyHash := "family"
  authorizedWorkerId := "worker"
  executionLeaseId := 20
  resourceId := "hcu-7"
  fencingToken := 9
  issuedAt := clock 0
  expiresAt := clock 300

/-- The state after a call. -/
def planned (roundId : Uuid) (s : SyntheticHoldoutPlanAuthority) : SyntheticHoldoutPlanAuthority :=
  ((commitPlan spelling (commit roundId)).run s).2

@[inherit_doc planned] def leased (roundId : Uuid) (s : SyntheticHoldoutPlanAuthority) :
    SyntheticHoldoutPlanAuthority :=
  ((issueRevealLease (issue roundId)).run s).2

/-- The event of a call. -/
def commitment (roundId : Uuid) (s : SyntheticHoldoutPlanAuthority) : AuthorityEvent :=
  .commit (commit roundId) ((commitPlan spelling (commit roundId)).run s).1

@[inherit_doc commitment] def issued (roundId : Uuid) (s : SyntheticHoldoutPlanAuthority) :
    AuthorityEvent :=
  .issue (issue roundId) ((issueRevealLease (issue roundId)).run s).1

@[inherit_doc commitment] def revealed (roundId : Uuid) (s : SyntheticHoldoutPlanAuthority) :
    AuthorityEvent :=
  .reveal (presentation roundId) ((reveal spelling (presentation roundId)).run s).1

@[inherit_doc planned] def opened (roundId : Uuid) (s : SyntheticHoldoutPlanAuthority) :
    SyntheticHoldoutPlanAuthority :=
  ((reveal spelling (presentation roundId)).run s).2

variable (roundId : Uuid) (s : SyntheticHoldoutPlanAuthority)

theorem commitment_step : AuthorityStep spelling s (commitment roundId s) (planned roundId s) :=
  rfl

theorem issued_step : AuthorityStep spelling s (issued roundId s) (leased roundId s) := rfl

theorem revealed_step : AuthorityStep spelling s (revealed roundId s) (opened roundId s) := rfl

end Collision

open Collision in
/-- One round: its plan is committed, leased and revealed. -/
theorem plans_stay_sealed_one_round :
    SealedStep spelling [commitment 1 start, issued 1 (planned 1 start)]
      (leased 1 (planned 1 start)) (revealed 1 (leased 1 (planned 1 start)))
      (opened 1 (leased 1 (planned 1 start))) := by
  have made : SyntheticHoldoutPlanAuthority.new spelling "store" "1.0.0" = .ok start := rfl
  have fits : (commitment 1 start).Admissible start := by
    rintro plan ⟨⟩
    decide +kernel
  have fresh : (issued 1 (planned 1 start)).Admissible (planned 1 start) := by
    change (planned 1 start).leases 21 = none
    decide +kernel
  exact plans_stay_sealed made
    (.tail (.tail (.refl start) ⟨commitment_step 1 start, fits⟩) ⟨issued_step 1 _, fresh⟩)
    ⟨revealed_step 1 _, trivial⟩

open Collision in
/-- Two rounds get a lease under one identifier. The lease of the first is then refused,
though it was issued for that round, is presented in time with its exact identities and
was never used. -/
theorem shared_lease_id_unseals :
    ∃ trace s event t, Function.Injective spelling.sha256 ∧
      SyntheticHoldoutPlanAuthority.new spelling "store" "1.0.0" = .ok start ∧
      (barrierRound 1).Valid ∧ (barrierRound 2).Valid ∧
      Steps (AuthorityStep spelling) start trace s ∧ AuthorityStep spelling s event t ∧
      ¬SealedStep spelling trace s event t := by
  let s₁ := planned 1 start
  let s₂ := planned 2 s₁
  let s₃ := leased 1 s₂
  let s₄ := leased 2 s₃
  refine ⟨[commitment 1 start, commitment 2 s₁, issued 1 s₂, issued 2 s₃], s₄, revealed 1 s₄,
    opened 1 s₄, spelling_injective, rfl, by decide +kernel, by decide +kernel, ?_,
    revealed_step 1 s₄, ?_⟩
  · exact .tail (.tail (.tail (.tail (.refl start) (commitment_step 1 _)) (commitment_step 2 _))
      (issued_step 1 _)) (issued_step 2 _)
  · intro sealed
    have first : issued 1 s₂ = .issue (issue 1) (.ok (lease 1)) :=
      congrArg (AuthorityEvent.issue (issue 1)) (by decide +kernel)
    obtain ⟨result, ok⟩ := sealed.presented (presentation 1) _ (issue 1) (lease 1) rfl
      { event := first ▸ .tail _ (.tail _ (.head _))
        leaseId := rfl
        presents := rfl
        aware := by decide
        inTime := by decide
        unconsumed := by simp [commitment, issued] }
    have refused : ((reveal spelling (presentation 1)).run s₄).1 =
        .error (.authority "holdout_reveal_lease_invalid"
          "Reveal Lease does not authorize this Round, Worker, Lease, or Fence") := by
      decide +kernel
    exact absurd (refused.symm.trans ok) (by simp)

end M2Authority

end HcuAutoOpt
