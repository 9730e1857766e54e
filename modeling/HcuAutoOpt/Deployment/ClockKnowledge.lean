import HcuAutoOpt.Deployment.AutoClock

/-!
# What clock processes know

A step of a process raises, checks its ownership, observes, commits or writes (`Done`). What a
session or a recovery knows in each phase is a claim about the world (`SessionClaim`,
`RecoveryClaim`). Each claim is shown twice: others leave it true (`SessionClaim.frame`,
`RecoveryClaim.frame`), and the process has it again after its own step.

A session may capture a policy while another session of its lease writes. What it captured is
then one of the start, or the device is `Stuck`: its policy is that of no operation, so nobody
restores it and nobody begins another operation.
-/

set_option autoImplicit false

namespace HcuAutoOpt

namespace Clock

open Foundation

/-! ## What a step of a process does -/

/-- What a step of a process does: it raises before or after its effect, or goes on. -/
inductive Done {Phase : Type} (owned : Bool) (fail : Phase) (device : DevicePolicy)
    (journal : ClockJournal) (call : Call Phase) : DevicePolicy → ClockJournal → Phase → Prop
  | failed (runs : call ≠ .halt) : Done owned fail device journal call device journal fail
  | owned (next : Phase) (same : call = .own next) (owner : owned = true) :
      Done owned fail device journal call device journal next
  | observed (check : DevicePolicy → Nat → Option Phase) (current : Nat) (next : Phase)
      (same : call = .observe check) (seen : check device current = some next) :
      Done owned fail device journal call device journal next
  | committed (run : ClockJournal → Except String (ClockJournal × Phase)) (journal' : ClockJournal)
      (next : Phase) (same : call = .transact run) (ok : run journal = .ok (journal', next))
      (next' : Phase) (goes : next' = next ∨ next' = fail) :
      Done owned fail device journal call device journal' next'
  | wrote (next : Phase) (after : DevicePolicy) (same : call = .write next) (owner : owned = true)
      (next' : Phase) (goes : next' = next ∨ next' = fail) :
      Done owned fail device journal call after journal next'
  | proceeded (next : Phase) (same : call = .proceed next) :
      Done owned fail device journal call device journal next

theorem done_of_perform {Phase : Type} {owned : Bool} {fail phase : Phase} {answer : Answer}
    {device device' : DevicePolicy} {journal journal' : ClockJournal} {call : Call Phase}
    (taken : perform owned fail answer device journal call = some (device', journal', phase)) :
    Done owned fail device journal call device' journal' phase := by
  cases call with
  | own next =>
      simp only [perform] at taken
      split at taken
      · split at taken
        · rename_i owner
          cases taken
          exact .owned _ rfl owner
        · cases taken
      all_goals
        cases taken
        exact .failed (by simp)
  | observe check =>
      simp only [perform] at taken
      split at taken
      · cases seen : check device answer.current with
        | none =>
            rw [seen] at taken
            cases taken
            exact .failed (by simp)
        | some next =>
            rw [seen] at taken
            cases taken
            exact .observed check answer.current _ rfl seen
      all_goals
        cases taken
        exact .failed (by simp)
  | transact run =>
      simp only [perform] at taken
      split at taken
      · rename_i ok
        cases taken
        exact .committed run _ _ rfl ok _ (.inl rfl)
      · rename_i ok
        cases taken
        exact .committed run _ _ rfl ok _ (.inr rfl)
      · cases taken
        exact .failed (by simp)
  | write next =>
      simp only [perform] at taken
      split at taken
      · split at taken
        · rename_i owner
          cases taken
          exact .wrote _ _ rfl owner _ (.inl rfl)
        · cases taken
      · split at taken
        · rename_i owner
          cases taken
          exact .wrote _ _ rfl owner _ (.inr rfl)
        · cases taken
      · cases taken
        exact .failed (by simp)
  | proceed next =>
      simp only [perform] at taken
      split at taken
      · cases taken
        exact .proceeded _ rfl
      all_goals
        cases taken
        exact .failed (by simp)
  | halt => cases taken

/-! ## What a process knows -/

namespace SessionPhase

/-- The operation of a session. -/
def held : SessionPhase → Option Held
  | .ownBegun held | .observeApply held | .apply held | .ownApplied held => some held
  | .verifyManual held | .persistActive held | .inUse held | .ownRestore held => some held
  | .persistRestoring held | .ownRestoring held | .observeRestore held => some held
  | .restoreAuto held | .restoreManual held | .ownRestored held | .verifyOriginal held => some held
  | .ownVerified held | .persistRestored held | .persistReconciliation held => some held
  | .new | .checkUnresolved | .capture | .ownCaptured _ | .begin _ | .closed => none

/-- The operation of a session that may still write. -/
def writing : SessionPhase → Option Held
  | .persistReconciliation _ => none
  | phase => phase.held

/-- The operation of a session between its two transitions of `restore`. -/
def restoring : SessionPhase → Option Held
  | .ownRestoring held | .observeRestore held | .restoreAuto held | .restoreManual held => some held
  | .ownRestored held | .verifyOriginal held | .ownVerified held => some held
  | .persistRestored held => some held
  | _ => none

/-- The policy a session has captured without an operation. -/
def captured : SessionPhase → Option DefaultAutoBaseline
  | .ownCaptured original | .begin original => some original
  | _ => none

/-- The operation of a session that writes next. -/
def ready : SessionPhase → Option Held
  | .apply held | .restoreManual held => some held
  | _ => none

/-- The phases in which a session knows nothing of the device. -/
def plain : SessionPhase → Bool
  | .ownCaptured _ | .begin _ | .apply _ | .restoreManual _ => false
  | .ownVerified _ | .persistRestored _ => false
  | _ => true

/-- The session has taken a step and goes on. -/
def entered : SessionPhase → Bool
  | .new | .closed => false
  | _ => true

theorem held_of_writing {phase : SessionPhase} {held : Held} (there : held ∈ phase.writing) :
    held ∈ phase.held := by
  cases phase <;> first | exact there | cases there

theorem writing_of_ready {phase : SessionPhase} {held : Held} (there : held ∈ phase.ready) :
    held ∈ phase.writing := by
  cases phase <;> first | exact there | cases there

theorem captured_of_plain {phase : SessionPhase} (plain : phase.plain = true) :
    phase.captured = none := by
  cases phase <;> first | rfl | cases plain

theorem ready_of_plain {phase : SessionPhase} (plain : phase.plain = true) :
    phase.ready = none := by
  cases phase <;> first | rfl | cases plain

theorem entered_of_held {phase : SessionPhase} {held : Held} (there : held ∈ phase.held) :
    phase.entered = true := by
  cases phase <;> first | rfl | cases there

end SessionPhase

namespace RecoveryPhase

/-- The original policy of a recovery without a claim. -/
def pending : RecoveryPhase → Option DefaultAutoBaseline
  | .observePending original | .ownPending original | .claim original => some original
  | _ => none

/-- The claim of a recovery. -/
def claimed : RecoveryPhase → Option Claimed
  | .ownClaimed claimed | .observeClaimed claimed | .restore claimed => some claimed
  | .ownRestored claimed | .verify claimed | .ownVerified claimed => some claimed
  | .finishRestored claimed => some claimed
  | _ => none

/-- The attempt of a recovery, with a claim that may be at its end. -/
def attempt : RecoveryPhase → Option Claimed
  | .finishFailed claimed => some claimed
  | phase => phase.claimed

/-- The claim of a recovery that has found the resource quarantined since. -/
def fenced : RecoveryPhase → Option Claimed
  | .ownClaimed _ => none
  | phase => phase.claimed

/-- The claim of a recovery that writes next. -/
def ready : RecoveryPhase → Option Claimed
  | .restore claimed => some claimed
  | _ => none

/-- The claim of a recovery that has verified the device. -/
def verified : RecoveryPhase → Option Claimed
  | .ownVerified claimed | .finishRestored claimed => some claimed
  | _ => none

theorem claimed_of_fenced {phase : RecoveryPhase} {claimed : Claimed}
    (there : claimed ∈ phase.fenced) : claimed ∈ phase.claimed := by
  cases phase <;> first | exact there | cases there

theorem attempt_of_claimed {phase : RecoveryPhase} {claimed : Claimed}
    (there : claimed ∈ phase.claimed) : claimed ∈ phase.attempt := by
  cases phase <;> first | exact there | cases there

theorem fenced_of_ready {phase : RecoveryPhase} {claimed : Claimed}
    (there : claimed ∈ phase.ready) : claimed ∈ phase.fenced := by
  cases phase <;> first | exact there | cases there

theorem fenced_of_verified {phase : RecoveryPhase} {claimed : Claimed}
    (there : claimed ∈ phase.verified) : claimed ∈ phase.fenced := by
  cases phase <;> first | exact there | cases there

end RecoveryPhase

/-- Two devices show the same in their default mode. -/
def Same (env : ClockEnv) (device device' : DevicePolicy) : Prop :=
  ∀ baseline, Shows env device baseline ↔ Shows env device' baseline

section Claims

variable {W R L : Type}

/-- An operation is unresolved and the device shows no baseline of the start: nobody restores
such a device. -/
def Stuck (env : ClockEnv) (initial : DevicePolicy) (s : World W R L) : Prop :=
  (∃ k row, s.journal.row k = some row ∧ row.state ≠ .restored) ∧
    ∀ baseline, Shows env initial baseline → ¬Sees env s.device baseline

/-- What a session knows: of the device while its lease is live, and of its operation. What it
captured is a baseline of the start, unless the device is stuck. -/
structure SessionClaim (env : ClockEnv) (initial : DevicePolicy) (lease : W → L)
    (s : World W R L) (w : W) (phase : SessionPhase) : Prop where
  granted : phase.entered = true → s.granted (lease w)
  captured : ∀ original ∈ phase.captured, Shows env initial original ∨ Stuck env initial s
  row : ∀ held ∈ phase.held, ∃ row, s.journal.row held.operationId = some row ∧
    row.original = held.original
  unresolved : ∀ held ∈ phase.writing, s.authority = .leased (lease w) →
    ∀ row, s.journal.row held.operationId = some row → row.state ≠ .restored
  ready : ∀ held ∈ phase.ready, s.authority = .leased (lease w) → Sees env s.device held.original
  restoring : ∀ held ∈ phase.restoring, held.journalState = .restoring
  verified : ∀ held, phase = .ownVerified held → s.authority = .leased (lease w) →
    Shows env s.device held.original
  confirmed : ∀ held, phase = .persistRestored held →
    ∀ row, s.journal.row held.operationId = some row → row.state = .restoring →
      Shows env s.device held.original

/-- What a recovery knows: its claim is open, the session of the operation has no live lease
once the recovery has found the resource quarantined, and what it saw since is still so. -/
structure RecoveryClaim (env : ClockEnv) (initial : DevicePolicy) (lease : W → L)
    (s : World W R L) (phase : RecoveryPhase) : Prop where
  pending : ∀ original ∈ phase.pending, Shows env initial original
  original : ∀ claimed ∈ phase.claimed, Shows env initial claimed.original
  claimed : ∀ claimed ∈ phase.claimed, ∃ attempt,
    s.journal.attempts.find? claimed.attemptId = some attempt ∧ attempt.state = .claimed ∧
      attempt.operationId = claimed.operationId
  known : ∀ claimed ∈ phase.attempt, s.journal.attempts.find? claimed.attemptId ≠ none
  fenced : ∀ claimed ∈ phase.fenced, ∀ w, ∀ held ∈ (s.session w).held,
    held.operationId = claimed.operationId → s.authority ≠ .leased (lease w)
  ready : ∀ claimed ∈ phase.ready, Sees env s.device claimed.original
  verified : ∀ claimed ∈ phase.verified, Shows env s.device claimed.original

/-- What holds at every moment. -/
structure Inv (env : ClockEnv) (initial : DevicePolicy) (lease : W → L) (s : World W R L) :
    Prop where
  sound : s.journal.Sound
  origin : ∀ k row, s.journal.row k = some row →
    Shows env initial row.original ∧ row.resourceId = resource
  clear : (∀ k row, s.journal.row k = some row → row.state = .restored) →
    Same env s.device initial
  leased : ∀ w, s.authority = .leased (lease w) → s.granted (lease w)
  sessions : ∀ w, SessionClaim env initial lease s w (s.session w)
  recoveries : ∀ r, RecoveryClaim env initial lease s (s.recovery r)
  owners : ∀ w v, w ≠ v → ∀ held ∈ (s.session w).held, ∀ other ∈ (s.session v).held,
    held.operationId ≠ other.operationId
  claimants : ∀ r q, r ≠ q → ∀ claimed ∈ (s.recovery r).attempt, ∀ other ∈ (s.recovery q).attempt,
    claimed.attemptId ≠ other.attemptId

end Claims

/-! ## What others leave true -/

section Frame

variable {W R L : Type} {env : ClockEnv} {initial : DevicePolicy} {lease : W → L}
variable {s s' : World W R L} {w : W}

/-- What a session knows stays true when its lease does not come back, the device is left
alone while the session has an unresolved operation under its lease, and its operation is
neither restored nor brought back to restoring. -/
theorem SessionClaim.frame {phase : SessionPhase}
    (claim : SessionClaim env initial lease s w phase)
    (granted : s.granted (lease w) → s'.granted (lease w))
    (leased : s.granted (lease w) → s'.authority = .leased (lease w) →
      s.authority = .leased (lease w))
    (stuck : Stuck env initial s → Stuck env initial s')
    (rows : ∀ held ∈ phase.held, ∀ row, s.journal.row held.operationId = some row →
      ∃ row', s'.journal.row held.operationId = some row' ∧ row'.original = row.original ∧
        (s'.authority = .leased (lease w) → row'.state = .restored → row.state = .restored) ∧
        (row'.state = .restoring → row.state = .restoring))
    (device : ∀ held ∈ phase.held, ∀ row, s.journal.row held.operationId = some row →
      row.state ≠ .restored → s.authority = .leased (lease w) ∨ row.state = .restoring →
        s'.device = s.device) :
    SessionClaim env initial lease s' w phase := by
  -- under its lease, the device of a session that may still write is left alone
  have alone : ∀ held ∈ phase.writing, s'.authority = .leased (lease w) →
      s.authority = .leased (lease w) ∧ s'.device = s.device := by
    intro held there isLeased
    have isHeld := SessionPhase.held_of_writing there
    have isLeased' := leased (claim.granted (SessionPhase.entered_of_held isHeld)) isLeased
    obtain ⟨row, here, -⟩ := claim.row held isHeld
    exact ⟨isLeased', device held isHeld row here (claim.unresolved held there isLeased' row here)
      (.inl isLeased')⟩
  constructor
  case granted => exact fun entered => granted (claim.granted entered)
  case captured => exact fun original there => (claim.captured original there).imp id stuck
  case row =>
    intro held there
    obtain ⟨row, here, original⟩ := claim.row held there
    obtain ⟨row', here', original', -⟩ := rows held there row here
    exact ⟨row', here', original'.trans original⟩
  case unresolved =>
    intro held there isLeased row' here' restored
    have isHeld := SessionPhase.held_of_writing there
    obtain ⟨row, here, -⟩ := claim.row held isHeld
    obtain ⟨row'', here'', -, stays, -⟩ := rows held isHeld row here
    rw [here''] at here'
    cases here'
    exact claim.unresolved held there (alone held there isLeased).1 row here
      (stays isLeased restored)
  case ready =>
    intro held there isLeased
    obtain ⟨isLeased', same⟩ := alone held (SessionPhase.writing_of_ready there) isLeased
    rw [same]
    exact claim.ready held there isLeased'
  case restoring => exact claim.restoring
  case verified =>
    intro held same isLeased
    obtain ⟨isLeased', same'⟩ := alone held (by rw [same]; rfl) isLeased
    rw [same']
    exact claim.verified held same isLeased'
  case confirmed =>
    intro held same row' here' restoring
    have isHeld : held ∈ phase.held := by rw [same]; rfl
    obtain ⟨row, here, -⟩ := claim.row held isHeld
    obtain ⟨row'', here'', -, -, back⟩ := rows held isHeld row here
    rw [here''] at here'
    cases here'
    have restoring' := back restoring
    rw [device held isHeld row here (by rw [restoring']; decide) (.inr restoring')]
    exact claim.confirmed held same row here restoring'

/-- What a recovery knows stays true when its attempt does, when no session comes back, and
when the device is left alone while the recovery has its claim. -/
theorem RecoveryClaim.frame {phase : RecoveryPhase}
    (claim : RecoveryClaim env initial lease s phase)
    (attempts : ∀ claimed ∈ phase.attempt, ∀ attempt,
      s.journal.attempts.find? claimed.attemptId = some attempt →
        s'.journal.attempts.find? claimed.attemptId = some attempt)
    (fenced : ∀ claimed ∈ phase.fenced, ∀ w, ∀ held ∈ (s'.session w).held,
      held.operationId = claimed.operationId → s'.authority ≠ .leased (lease w))
    (device : ∀ claimed ∈ phase.fenced, s'.device = s.device) :
    RecoveryClaim env initial lease s' phase where
  pending := claim.pending
  original := claim.original
  claimed claimed there := by
    obtain ⟨attempt, here, facts⟩ := claim.claimed claimed there
    exact ⟨attempt, attempts claimed (RecoveryPhase.attempt_of_claimed there) attempt here, facts⟩
  known claimed there absent := by
    obtain ⟨attempt, here⟩ := Option.ne_none_iff_exists'.mp (claim.known claimed there)
    rw [attempts claimed there attempt here] at absent
    cases absent
  fenced := fenced
  ready claimed there := by
    rw [device claimed (RecoveryPhase.fenced_of_ready there)]
    exact claim.ready claimed there
  verified claimed there := by
    rw [device claimed (RecoveryPhase.fenced_of_verified there)]
    exact claim.verified claimed there

/-- The original policy of an operation is one of the start, so a device that shows it is not
stuck. -/
theorem Inv.not_stuck (inv : Inv env initial lease s) {k : String}
    {row : ClockOperation DefaultAutoBaseline} (here : s.journal.row k = some row)
    (sees : Sees env s.device row.original) : ¬Stuck env initial s :=
  fun stuck => stuck.2 _ (inv.origin k row here).1 sees

/-- A stuck device stays so when an operation enters a state. -/
theorem Inv.stuck_enter (inv : Inv env initial lease s) {operationId : String}
    {row : ClockOperation DefaultAutoBaseline} {state : OperationState}
    (found : s.journal.row operationId = some row) (device : s'.device = s.device)
    (rows : ∀ k, s'.journal.row k = if k = operationId then some (setState state row)
      else s.journal.row k)
    (sees : state = .restored → Sees env s.device row.original) :
    Stuck env initial s → Stuck env initial s' := by
  intro stuck
  have unresolved : state ≠ .restored := fun restored => inv.not_stuck found (sees restored) stuck
  obtain ⟨⟨k, other, there, open_⟩, off⟩ := stuck
  refine ⟨?_, by rw [device]; exact off⟩
  by_cases same : k = operationId
  · exact ⟨k, setState state row, by rw [rows, if_pos same], unresolved⟩
  · exact ⟨k, other, by rw [rows, if_neg same, there], open_⟩

/-- The operation of a claim is claimed. -/
theorem Inv.claimed_row (inv : Inv env initial lease s) {r : R} {claimed : Claimed}
    (there : claimed ∈ (s.recovery r).claimed) :
    ∃ row, s.journal.row claimed.operationId = some row ∧ row.state = .recoveryClaimed := by
  obtain ⟨attempt, here, isClaimed, same⟩ := (inv.recoveries r).claimed claimed there
  exact same ▸ inv.sound.claim _ attempt here isClaimed

/-- There is one unresolved operation. -/
theorem Inv.one (inv : Inv env initial lease s) {k l : String}
    {row row' : ClockOperation DefaultAutoBaseline} (here : s.journal.row k = some row)
    (here' : s.journal.row l = some row') (unresolved : row.state ≠ .restored)
    (unresolved' : row'.state ≠ .restored) : k = l :=
  inv.sound.one k l row row' here here'
    ((inv.origin k row here).2.trans (inv.origin l row' here').2.symm) unresolved unresolved'

/-- Two recoveries with open claims have claimed different operations. -/
theorem Inv.claims_apart (inv : Inv env initial lease s) {r q : R} (others : r ≠ q)
    {claimed other : Claimed} (there : claimed ∈ (s.recovery r).claimed)
    (there' : other ∈ (s.recovery q).claimed) : claimed.operationId ≠ other.operationId := by
  intro same
  obtain ⟨attempt, here, isClaimed, operation⟩ := (inv.recoveries r).claimed claimed there
  obtain ⟨attempt', here', isClaimed', operation'⟩ := (inv.recoveries q).claimed other there'
  refine inv.claimants r q others claimed (RecoveryPhase.attempt_of_claimed there) other
    (RecoveryPhase.attempt_of_claimed there') ?_
  exact inv.sound.oneClaim _ _ attempt attempt' here here' isClaimed isClaimed'
    (by rw [operation, operation', same])

/-- A session that still writes and a recovery that has found the resource quarantined are
not both in the way of one operation. -/
theorem Inv.session_or_recovery (inv : Inv env initial lease s) {r : R} {held : Held}
    {claimed : Claimed} (writes : held ∈ (s.session w).writing)
    (leased : s.authority = .leased (lease w)) (there : claimed ∈ (s.recovery r).fenced) : False := by
  have isHeld := SessionPhase.held_of_writing writes
  obtain ⟨row, here, -⟩ := (inv.sessions w).row held isHeld
  have unresolved := (inv.sessions w).unresolved held writes leased row here
  obtain ⟨row', here', state⟩ := inv.claimed_row (RecoveryPhase.claimed_of_fenced there)
  have same := inv.one here here' unresolved (by rw [state]; decide)
  exact (inv.recoveries r).fenced claimed there w held isHeld same leased

end Frame

/-! ## What a session knows after its step -/

section Session

variable {W R L : Type} {env : ClockEnv} {initial : DevicePolicy} {lease : W → L}
variable {s s' : World W R L} {w : W}
variable {phase next : SessionPhase} {authorizationId fresh : String}

theorem SessionClaim.closed : SessionClaim env initial lease s w .closed := by
  constructor <;> intros <;> contradiction

/-- A session goes on with the operation it has, in a phase that knows nothing of the device. -/
theorem SessionClaim.goOn (claim : SessionClaim env initial lease s w phase)
    (granted : s'.granted (lease w)) (authority : s'.authority = s.authority)
    (journal : s'.journal = s.journal) (plain : next.plain = true)
    (held : ∀ held ∈ next.held, held ∈ phase.held)
    (writing : ∀ held ∈ next.writing, held ∈ phase.writing)
    (restoring : ∀ held ∈ next.restoring, held ∈ phase.restoring) :
    SessionClaim env initial lease s' w next where
  granted _ := granted
  captured _ there := by rw [SessionPhase.captured_of_plain plain] at there; cases there
  row other there := by
    rw [journal]
    exact claim.row other (held other there)
  ready _ there := by rw [SessionPhase.ready_of_plain plain] at there; cases there
  unresolved other there leased := by
    rw [journal]
    exact claim.unresolved other (writing other there) (authority ▸ leased)
  restoring other there := claim.restoring other (restoring other there)
  verified _ same := by rw [same] at plain; cases plain
  confirmed _ same := by rw [same] at plain; cases plain

/-- A session has seen its original policy and writes next. -/
theorem SessionClaim.readied (claim : SessionClaim env initial lease s w phase) {held : Held}
    (granted : s.granted (lease w)) (sees : Sees env s.device held.original)
    (isNext : next = .apply held ∨ next = .restoreManual held)
    (isHeld : ∀ held ∈ next.held, held ∈ phase.held)
    (writing : ∀ held ∈ next.writing, held ∈ phase.writing)
    (restoring : ∀ held ∈ next.restoring, held ∈ phase.restoring) :
    SessionClaim env initial lease s w next where
  granted _ := granted
  captured _ there := by rcases isNext with rfl | rfl <;> cases there
  row other there := claim.row other (isHeld other there)
  ready _ there _ := by
    rcases isNext with rfl | rfl
    all_goals
      cases there
      exact sees
  unresolved other there := claim.unresolved other (writing other there)
  restoring other there := claim.restoring other (restoring other there)
  verified _ same := by rcases isNext with rfl | rfl <;> cases same
  confirmed _ same := by rcases isNext with rfl | rfl <;> cases same

/-- Where a session goes on when it raises it has the operation it had. -/
theorem SessionPhase.fail_facts (phase : SessionPhase) :
    phase.fail = .closed ∨ phase.entered = true ∧ phase.fail.plain = true ∧
      (∀ held ∈ phase.fail.held, held ∈ phase.held) ∧
      (∀ held ∈ phase.fail.writing, held ∈ phase.writing) ∧
      ∀ held ∈ phase.fail.restoring, held ∈ phase.restoring := by
  cases phase with
  | new | checkUnresolved | capture | ownCaptured | begin | persistReconciliation | closed =>
      exact .inl rfl
  | ownBegun | observeApply | apply | ownApplied | verifyManual | persistActive | inUse =>
      exact .inr ⟨rfl, rfl, fun _ there => there, fun _ there => there,
        fun _ none => (Option.not_mem_none _ none).elim⟩
  | ownRestore | persistRestoring | ownRestoring | observeRestore | restoreAuto | restoreManual
  | ownRestored | verifyOriginal | ownVerified | persistRestored =>
      exact .inr ⟨rfl, rfl, fun _ there => there, fun _ none => (Option.not_mem_none _ none).elim,
        fun _ none => (Option.not_mem_none _ none).elim⟩

theorem SessionClaim.fail (claim : SessionClaim env initial lease s w phase)
    (granted : s.granted (lease w) → s'.granted (lease w)) (authority : s'.authority = s.authority)
    (journal : s'.journal = s.journal) : SessionClaim env initial lease s' w phase.fail := by
  rcases phase.fail_facts with ends | ⟨entered, plain, held, writing, restoring⟩
  · rw [ends]
    exact .closed
  · exact claim.goOn (granted (claim.granted entered)) authority journal plain held writing
      restoring

/-- After an ownership check. -/
theorem SessionClaim.own (claim : SessionClaim env initial lease s w phase)
    (granted : s.granted (lease w)) (leased : s.authority = .leased (lease w))
    (same : sessionCall env authorizationId fresh phase = .own next) :
    SessionClaim env initial lease s w next ∧ ∀ held ∈ next.held, held ∈ phase.held := by
  cases phase with
  | new =>
      cases same
      refine ⟨?_, fun _ none => (Option.not_mem_none _ none).elim⟩
      constructor
      case granted => exact fun _ => granted
      all_goals
        intros
        contradiction
  | ownCaptured original =>
      cases same
      refine ⟨?_, fun _ none => (Option.not_mem_none _ none).elim⟩
      constructor
      case granted => exact fun _ => granted
      case captured => exact claim.captured
      all_goals
        intros
        contradiction
  | ownVerified held =>
      cases same
      refine ⟨?_, fun _ there => there⟩
      constructor
      case granted => exact fun _ => granted
      case row => exact claim.row
      case unresolved => exact claim.unresolved
      case restoring => exact claim.restoring
      case confirmed =>
        rintro _ ⟨⟩ _ _ _
        exact claim.verified held rfl leased
      all_goals
        intros
        contradiction
  | ownBegun | ownApplied | ownRestore | ownRestoring | restoreAuto | ownRestored =>
      cases same
      exact ⟨claim.goOn granted rfl rfl rfl (fun _ there => there) (fun _ there => there)
        (fun _ there => there), fun _ there => there⟩
  | _ => cases same

/-- After an observation. A session that captures another policy than one of the start finds
the device stuck. -/
theorem SessionClaim.observed (claim : SessionClaim env initial lease s w phase)
    (clear : Same env s.device initial ∨
      ∃ k row, s.journal.row k = some row ∧ row.state ≠ .restored)
    {check : DevicePolicy → Nat → Option SessionPhase} {current : Nat}
    (same : sessionCall env authorizationId fresh phase = .observe check)
    (seen : check s.device current = some next) :
    SessionClaim env initial lease s w next ∧ ∀ held ∈ next.held, held ∈ phase.held := by
  cases phase with
  | capture =>
      cases same
      obtain ⟨⟨baseline, frequency⟩, found, goes⟩ := Option.map_eq_some_iff.mp seen
      cases goes
      refine ⟨?_, fun _ none => (Option.not_mem_none _ none).elim⟩
      constructor
      case granted => exact fun _ => claim.granted rfl
      case captured =>
        rintro _ ⟨⟩
        have shows : Shows env s.device baseline := observe_baseline found
        rcases clear with same | unresolved
        · exact .inl ((same baseline).mp shows)
        · by_cases known : Shows env initial baseline
          · exact .inl known
          · exact .inr ⟨unresolved, fun other isInitial sees =>
              known (shows.sees.unique sees ▸ isInitial)⟩
      all_goals
        intros
        contradiction
  | observeApply held =>
      cases same
      obtain ⟨_, found, goes⟩ := Option.map_eq_some_iff.mp seen
      cases goes
      exact ⟨claim.readied (claim.granted rfl) (.of_observes found) (.inl rfl)
        (fun _ there => there) (fun _ there => there) (fun _ there => there), fun _ there => there⟩
  | verifyManual held =>
      cases same
      obtain ⟨_, -, rest⟩ := Option.bind_eq_some_iff.mp seen
      obtain ⟨_, -, goes⟩ := Option.bind_eq_some_iff.mp rest
      cases goes
      exact ⟨claim.goOn (claim.granted rfl) rfl rfl rfl (fun _ there => there)
        (fun _ there => there) (fun _ there => there), fun _ there => there⟩
  | observeRestore held =>
      cases same
      obtain ⟨_, -, rest⟩ := Option.bind_eq_some_iff.mp seen
      obtain ⟨_, found, goes⟩ := Option.bind_eq_some_iff.mp rest
      split at goes
      · cases goes
        exact ⟨claim.goOn (claim.granted rfl) rfl rfl rfl (fun _ there => there)
          (fun _ there => there) (fun _ there => there), fun _ there => there⟩
      · cases goes
        exact ⟨claim.readied (claim.granted rfl) (.of_observes found) (.inr rfl)
          (fun _ there => there) (fun _ there => there) (fun _ there => there),
          fun _ there => there⟩
  | verifyOriginal held =>
      cases same
      obtain ⟨_, found, goes⟩ := Option.map_eq_some_iff.mp seen
      cases goes
      refine ⟨?_, fun _ there => there⟩
      constructor
      case granted => exact fun _ => claim.granted rfl
      case row => exact claim.row
      case unresolved => exact claim.unresolved
      case restoring => exact claim.restoring
      case verified =>
        rintro _ ⟨⟩ _
        exact Shows.of_observes found
      all_goals
        intros
        contradiction
  | _ => cases same

/-- A session that writes was ready to, and goes on with its operation. -/
theorem SessionClaim.wrote (claim : SessionClaim env initial lease s w phase)
    (granted : s'.granted (lease w)) (authority : s'.authority = s.authority)
    (journal : s'.journal = s.journal)
    (same : sessionCall env authorizationId fresh phase = .write next) :
    SessionClaim env initial lease s' w next ∧ (∀ held ∈ next.held, held ∈ phase.held) ∧
      ∃ held, held ∈ phase.ready := by
  cases phase with
  | apply held | restoreManual held =>
      cases same
      exact ⟨claim.goOn granted authority journal rfl (fun _ there => there)
        (fun _ there => there) (fun _ there => there), fun _ there => there, held, rfl⟩
  | _ => cases same

end Session

/-! ## What a recovery knows after its step -/

section Recovery

variable {W R L : Type} {env : ClockEnv} {initial : DevicePolicy} {lease : W → L}
variable {s : World W R L} {w : W}
variable {phase next : RecoveryPhase} {authority : RecoveryAuthority} {fresh : String}

/-- A recovery without an attempt knows where its original policy is from. -/
theorem RecoveryClaim.idle (pending : ∀ original ∈ next.pending, Shows env initial original)
    (none : next.attempt = none) : RecoveryClaim env initial lease s next := by
  have noClaim : ∀ claimed, claimed ∉ next.claimed := fun claimed there => by
    have isAttempt := RecoveryPhase.attempt_of_claimed there
    rw [none] at isAttempt
    cases isAttempt
  have noFence : ∀ claimed, claimed ∉ next.fenced := fun claimed there =>
    noClaim claimed (RecoveryPhase.claimed_of_fenced there)
  constructor
  case pending => exact pending
  case original => exact fun claimed there => (noClaim claimed there).elim
  case claimed => exact fun claimed there => (noClaim claimed there).elim
  case known =>
    intro claimed there
    rw [none] at there
    cases there
  case fenced => exact fun claimed there => (noFence claimed there).elim
  case ready =>
    exact fun claimed there => (noFence claimed (RecoveryPhase.fenced_of_ready there)).elim
  case verified =>
    exact fun claimed there => (noFence claimed (RecoveryPhase.fenced_of_verified there)).elim

/-- A recovery goes on with the claim it has, in a phase that knows nothing of the device. -/
theorem RecoveryClaim.goOn (claim : RecoveryClaim env initial lease s phase)
    (pending : next.pending = none) (ready : next.ready = none) (verified : next.verified = none)
    (claimed : ∀ claimed ∈ next.claimed, claimed ∈ phase.claimed)
    (attempt : ∀ claimed ∈ next.attempt, claimed ∈ phase.attempt)
    (fenced : ∀ claimed ∈ next.fenced, claimed ∈ phase.fenced) :
    RecoveryClaim env initial lease s next where
  pending _ there := by rw [pending] at there; cases there
  original other there := claim.original other (claimed other there)
  claimed other there := claim.claimed other (claimed other there)
  known other there := claim.known other (attempt other there)
  fenced other there := claim.fenced other (fenced other there)
  ready _ there := by rw [ready] at there; cases there
  verified _ there := by rw [verified] at there; cases there

/-- Where a recovery goes on when it raises it has the attempt it had, without a claim. -/
theorem RecoveryPhase.fail_facts (phase : RecoveryPhase) :
    phase.fail.pending = none ∧ phase.fail.claimed = none ∧
      ∀ claimed ∈ phase.fail.attempt, claimed ∈ phase.attempt := by
  cases phase with
  | new | readPending | observePending | ownPending | claim | finishFailed | closed =>
      exact ⟨rfl, rfl, fun _ none => (Option.not_mem_none _ none).elim⟩
  | ownClaimed | observeClaimed | restore | ownRestored | verify | ownVerified | finishRestored =>
      exact ⟨rfl, rfl, fun _ there => there⟩

theorem RecoveryClaim.fail (claim : RecoveryClaim env initial lease s phase) :
    RecoveryClaim env initial lease s phase.fail := by
  obtain ⟨pending, claimed, attempt⟩ := phase.fail_facts
  have noFence : ∀ other, other ∉ phase.fail.fenced := fun other there => by
    have isClaimed := RecoveryPhase.claimed_of_fenced there
    rw [claimed] at isClaimed
    cases isClaimed
  refine claim.goOn pending ?_ ?_ ?_ attempt fun other there => (noFence other there).elim
  · refine Option.eq_none_iff_forall_not_mem.mpr fun other there => ?_
    exact noFence other (RecoveryPhase.fenced_of_ready there)
  · refine Option.eq_none_iff_forall_not_mem.mpr fun other there => ?_
    exact noFence other (RecoveryPhase.fenced_of_verified there)
  · intro other there
    rw [claimed] at there
    cases there

/-- After an ownership check. -/
theorem RecoveryClaim.own (claim : RecoveryClaim env initial lease s phase)
    (quarantined : s.authority = .quarantined)
    (same : recoveryCall env authority fresh phase = .own next) :
    RecoveryClaim env initial lease s next ∧ ∀ claimed ∈ next.attempt, claimed ∈ phase.attempt := by
  have noLease : ∀ w, s.authority ≠ .leased (lease w) := fun w leased => by
    rw [quarantined] at leased
    cases leased
  cases phase with
  | new =>
      cases same
      exact ⟨.idle (fun _ none => (Option.not_mem_none _ none).elim) rfl, fun _ there => there⟩
  | ownPending original =>
      cases same
      exact ⟨.idle claim.pending rfl, fun _ there => there⟩
  | ownClaimed claimed =>
      cases same
      refine ⟨⟨claim.pending, claim.original, claim.claimed, claim.known, ?_, claim.ready,
        claim.verified⟩, fun _ there => there⟩
      exact fun _ _ w _ _ _ => noLease w
  | ownRestored claimed =>
      cases same
      exact ⟨claim.goOn rfl rfl rfl (fun _ there => there) (fun _ there => there)
        fun _ there => there, fun _ there => there⟩
  | ownVerified claimed =>
      cases same
      exact ⟨⟨claim.pending, claim.original, claim.claimed, claim.known, claim.fenced,
        claim.ready, claim.verified⟩, fun _ there => there⟩
  | _ => cases same

/-- After an observation. -/
theorem RecoveryClaim.observed (claim : RecoveryClaim env initial lease s phase)
    {check : DevicePolicy → Nat → Option RecoveryPhase} {current : Nat}
    (same : recoveryCall env authority fresh phase = .observe check)
    (seen : check s.device current = some next) :
    RecoveryClaim env initial lease s next ∧ ∀ claimed ∈ next.attempt, claimed ∈ phase.attempt := by
  cases phase with
  | observePending original =>
      cases same
      obtain ⟨_, -, rest⟩ := Option.bind_eq_some_iff.mp seen
      obtain ⟨_, -, goes⟩ := Option.bind_eq_some_iff.mp rest
      cases goes
      exact ⟨.idle claim.pending rfl, fun _ there => there⟩
  | observeClaimed claimed =>
      cases same
      obtain ⟨_, found, goes⟩ := Option.bind_eq_some_iff.mp seen
      split at goes
      · cases goes
        refine ⟨⟨claim.pending, claim.original, claim.claimed, claim.known, claim.fenced, ?_,
          claim.verified⟩, fun _ there => there⟩
        rintro _ ⟨⟩
        exact .of_observes found
      · cases goes
        exact ⟨claim.goOn rfl rfl rfl (fun _ there => there) (fun _ there => there)
          fun _ there => there, fun _ there => there⟩
  | verify claimed =>
      cases same
      obtain ⟨_, found, goes⟩ := Option.map_eq_some_iff.mp seen
      cases goes
      refine ⟨⟨claim.pending, claim.original, claim.claimed, claim.known, claim.fenced,
        claim.ready, ?_⟩, fun _ there => there⟩
      rintro _ ⟨⟩
      exact Shows.of_observes found
  | _ => cases same

end Recovery

end Clock

end HcuAutoOpt
