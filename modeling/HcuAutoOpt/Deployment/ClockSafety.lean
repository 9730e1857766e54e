import HcuAutoOpt.Deployment.ClockKnowledge
import HcuAutoOpt.Foundation.UuidText

/-!
# A clear journal means a restored device

While a lease is live only its sessions write to the device, and while the resource is
quarantined only recoveries do. A process that may still write has an unresolved operation; a
journal has one unresolved operation at a time. What a process verified therefore stays true
until it marks its operation restored, and a device under a clear journal shows what it showed
at the start (`Inv.clear`).

A recovery may claim another operation than the one it read. This is harmless because every
original policy is the one of the start (`Inv.origin`).
-/

set_option autoImplicit false

namespace HcuAutoOpt

namespace Clock

open Foundation

/-! ## The steps of a session -/

section SessionSteps

variable {W R L : Type} [DecidableEq W] {env : ClockEnv} {initial device : DevicePolicy}
variable {lease : W → L}
variable {s : World W R L} {w : W} {phase next : SessionPhase} {journal journal' : ClockJournal}
variable {authorizationId fresh : String}

/-- The world after a step of a session. -/
abbrev World.afterSession (s : World W R L) (w : W) (device : DevicePolicy) (journal : ClockJournal)
    (next : SessionPhase) : World W R L :=
  { s with
    device := device
    journal := journal
    session := Function.update s.session w next }

/-- The operation of a session after its step is the one it had, or a new one. -/
def Keeps (s : World W R L) (w : W) (next : SessionPhase) : Prop :=
  ∀ held ∈ next.held, (∃ old ∈ (s.session w).held, old.operationId = held.operationId) ∨
    s.journal.row held.operationId = none

omit [DecidableEq W] in
theorem Keeps.of_subset (subset : ∀ held ∈ next.held, held ∈ (s.session w).held) :
    Keeps s w next :=
  fun held there => .inl ⟨held, subset held there, rfl⟩

/-- No session comes back to the operation of a recovery by a step of a session. -/
theorem Inv.fenced_afterSession (inv : Inv env initial lease s) (keeps : Keeps s w next) {r : R}
    {claimed : Claimed} (there : claimed ∈ (s.recovery r).fenced) (v : W) {held : Held}
    (isHeld : held ∈ ((s.afterSession w device journal next).session v).held)
    (same : held.operationId = claimed.operationId) : s.authority ≠ .leased (lease v) := by
  by_cases own : v = w
  · subst own
    simp only [Function.update_self] at isHeld
    rcases keeps held isHeld with ⟨old, isOld, same'⟩ | absent
    · exact (inv.recoveries r).fenced claimed there v old isOld (same'.trans same)
    · obtain ⟨row, here, -⟩ := inv.claimed_row (RecoveryPhase.claimed_of_fenced there)
      rw [same, here] at absent
      cases absent
  · simp only [Function.update_of_ne own] at isHeld
    exact (inv.recoveries r).fenced claimed there v held isHeld same

/-- The invariant after a step of a session. -/
theorem Inv.afterSession (inv : Inv env initial lease s) (sound : journal.Sound)
    (origin : ∀ k row, journal.row k = some row →
      Shows env initial row.original ∧ row.resourceId = resource)
    (clear : (∀ k row, journal.row k = some row → row.state = .restored) →
      Same env device initial)
    (own : SessionClaim env initial lease (s.afterSession w device journal next) w next)
    (others : ∀ v, v ≠ w →
      SessionClaim env initial lease (s.afterSession w device journal next) v (s.session v))
    (recoveries : ∀ r,
      RecoveryClaim env initial lease (s.afterSession w device journal next) (s.recovery r))
    (keeps : Keeps s w next) : Inv env initial lease (s.afterSession w device journal next) where
  sound := sound
  origin := origin
  clear := clear
  leased := inv.leased
  sessions v := by
    by_cases same : v = w
    · subst same
      simp only [Function.update_self]
      exact own
    · simp only [Function.update_of_ne same]
      exact others v same
  recoveries := recoveries
  owners v u apart held there other there' := by
    -- the operation of a session that took no step has a row
    have known : ∀ v, ∀ held ∈ (s.session v).held, s.journal.row held.operationId ≠ none := by
      intro v held there absent
      obtain ⟨row, here, -⟩ := (inv.sessions v).row held there
      rw [here] at absent
      cases absent
    by_cases first : v = w
    · subst first
      simp only [Function.update_self, Function.update_of_ne apart.symm] at there there'
      rcases keeps held there with ⟨old, isOld, same⟩ | absent
      · exact same ▸ inv.owners v u apart old isOld other there'
      · exact fun same => known u other there' (same ▸ absent)
    · simp only [Function.update_of_ne first] at there
      by_cases second : u = w
      · subst second
        simp only [Function.update_self] at there'
        rcases keeps other there' with ⟨old, isOld, same⟩ | absent
        · exact same ▸ inv.owners v u apart held there old isOld
        · exact fun same => known v held there (same ▸ absent)
      · simp only [Function.update_of_ne second] at there'
        exact inv.owners v u apart held there other there'
  claimants := inv.claimants

/-- A step of a session that leaves the device and the journal alone. -/
theorem Inv.session_quiet (inv : Inv env initial lease s)
    (own : SessionClaim env initial lease s w next)
    (subset : ∀ held ∈ next.held, held ∈ (s.session w).held) :
    Inv env initial lease (s.afterSession w s.device s.journal next) := by
  refine inv.afterSession inv.sound inv.origin inv.clear ?_ (fun v _ => ?_) (fun r => ?_)
    (.of_subset subset)
  · exact ⟨own.granted, own.captured, own.row, own.unresolved, own.ready, own.restoring,
      own.verified, own.confirmed⟩
  · have claim := inv.sessions v
    exact ⟨claim.granted, claim.captured, claim.row, claim.unresolved, claim.ready,
      claim.restoring, claim.verified, claim.confirmed⟩
  · have claim := inv.recoveries r
    exact ⟨claim.pending, claim.original, claim.claimed, claim.known,
      fun claimed there v held isHeld same =>
        inv.fenced_afterSession (.of_subset subset) there v isHeld same,
      claim.ready, claim.verified⟩

/-- A session writes to the device. -/
theorem Inv.session_write (inv : Inv env initial lease s) {held : Held}
    (ready : held ∈ (s.session w).ready) (leased : s.authority = .leased (lease w))
    (own : SessionClaim env initial lease (s.afterSession w device s.journal next) w next)
    (subset : ∀ held ∈ next.held, held ∈ (s.session w).held) :
    Inv env initial lease (s.afterSession w device s.journal next) := by
  have writes := SessionPhase.writing_of_ready ready
  have isHeld := SessionPhase.held_of_writing writes
  obtain ⟨row, here, original⟩ := (inv.sessions w).row held isHeld
  have unresolved := (inv.sessions w).unresolved held writes leased row here
  have sees := (inv.sessions w).ready held ready leased
  refine inv.afterSession inv.sound inv.origin (fun clear => absurd (clear _ row here) unresolved)
    own (fun v apart => ?_) (fun r => ?_) (.of_subset subset)
  · refine (inv.sessions v).frame id (fun _ leased' => leased')
      (fun stuck => absurd stuck (inv.not_stuck here (original ▸ sees)))
      (fun _ _ row here => ⟨row, here, rfl, fun _ => id, id⟩)
      fun other isOther row' here' unresolved' _ => ?_
    -- two sessions do not have unresolved operations
    exact absurd (inv.one here here' unresolved unresolved')
      (inv.owners w v apart.symm held isHeld other isOther)
  · refine (inv.recoveries r).frame (fun _ _ _ here => here) (fun claimed there v _ isHeld same =>
      inv.fenced_afterSession (.of_subset subset) there v isHeld same) (fun claimed there => ?_)
    exact (inv.session_or_recovery writes leased there).elim

/-- Two devices that show one baseline show the same. -/
theorem Same.of_shows {device device' : DevicePolicy} {baseline : DefaultAutoBaseline}
    (shows : Shows env device baseline) (shows' : Shows env device' baseline) :
    Same env device device' :=
  fun _ => ⟨fun other => other.unique shows ▸ shows', fun other => other.unique shows' ▸ shows⟩

/-- A transition changes the state of its operation only. -/
theorem row_transition {operationId : String} {expected state : OperationState}
    (ok : transition operationId expected state journal = .ok journal') :
    ∃ row, journal.row operationId = some row ∧ row.state = expected ∧
      state ∈ allowed expected ∧ journal'.attempts = journal.attempts ∧
      ∀ k, journal'.row k = if k = operationId then some (setState state row)
        else journal.row k := by
  obtain ⟨isAllowed, row, found, same, rfl⟩ := transition_spec ok
  exact ⟨row, found, same, isAllowed, rfl, row_enter found _⟩

omit [DecidableEq W] in
/-- The operations of a journal without unresolved ones are restored. -/
theorem Inv.all_restored (inv : Inv env initial lease s)
    (none : s.journal.unresolved resource = []) (k : String)
    (row : ClockOperation DefaultAutoBaseline) (here : s.journal.row k = some row) :
    row.state = .restored := by
  by_contra unresolved
  have listed := mem_unresolved.mpr
    ⟨(row_key here).symm ▸ here, (inv.origin k row here).2, unresolved⟩
  rw [none] at listed
  cases listed

/-- A session begins an operation. -/
theorem Inv.session_begin (inv : Inv env initial lease s) {original : DefaultAutoBaseline}
    (phase : s.session w = .begin original)
    (ok : Clock.begin fresh resource authorizationId original s.journal = .ok journal')
    (goes : next = .ownBegun ⟨fresh, original, .mutationPossible⟩ ∨ next = .closed) :
    Inv env initial lease (s.afterSession w s.device journal' next) := by
  have claim := inv.sessions w
  have granted : s.granted (lease w) := claim.granted (by rw [phase]; rfl)
  obtain ⟨absent, clear, rows, -, attempts⟩ := begin_spec ok
  have shows : Shows env initial original := by
    rcases claim.captured original (by rw [phase]; rfl) with shows | ⟨⟨k, row, here, open_⟩, -⟩
    · exact shows
    · exact absurd (inv.all_restored clear k row here) open_
  have newRow := rows fresh
  rw [if_pos rfl] at newRow
  have oldRow : ∀ k row, s.journal.row k = some row → journal'.row k = some row := by
    intro k row here
    rw [rows, if_neg, here]
    rintro rfl
    rw [absent] at here
    cases here
  refine inv.afterSession (inv.sound.begin ok) (fun k row here => ?_) (fun clear => ?_) ?_
    (fun v _ => ?_) (fun r => ?_) ?_
  · rw [rows] at here
    by_cases own : k = fresh
    · rw [if_pos own] at here
      cases here
      exact ⟨shows, rfl⟩
    · rw [if_neg own] at here
      exact inv.origin k row here
  · cases clear fresh _ newRow
  · rcases goes with rfl | rfl
    · constructor
      case granted => exact fun _ => granted
      case row =>
        rintro _ ⟨⟩
        exact ⟨_, newRow, rfl⟩
      case unresolved =>
        rintro _ ⟨⟩ _ row here
        rw [newRow] at here
        cases here
        simp
      all_goals
        intros
        contradiction
    · exact .closed
  · exact (inv.sessions v).frame id (fun _ leased => leased)
      (fun ⟨⟨k, row, here, open_⟩, off⟩ => ⟨⟨k, row, oldRow k row here, open_⟩, off⟩)
      (fun _ _ row here => ⟨row, oldRow _ row here, rfl, fun _ => id, id⟩) fun _ _ _ _ _ _ => rfl
  · refine (inv.recoveries r).frame (fun _ _ _ here => by rw [attempts]; exact here)
      (fun claimed there v held isHeld same => ?_) fun _ _ => rfl
    refine inv.fenced_afterSession ?_ there v isHeld same
    rcases goes with rfl | rfl
    · rintro _ ⟨⟩
      exact .inr absent
    · exact .of_subset fun _ none => (Option.not_mem_none _ none).elim
  · rcases goes with rfl | rfl
    · rintro _ ⟨⟩
      exact .inr absent
    · exact .of_subset fun _ none => (Option.not_mem_none _ none).elim

/-- A session writes the state of its operation. -/
theorem Inv.session_persist (inv : Inv env initial lease s) {held : Held} {state : OperationState}
    (isHeld : held ∈ (s.session w).held)
    (ok : transition held.operationId held.journalState state s.journal = .ok journal')
    (restored : state = .restored →
      s.session w = .persistRestored held ∧ held.journalState = .restoring)
    (own : (∀ row, journal'.row held.operationId = some row →
        row.original = held.original ∧ row.state = state) →
      (∃ row, journal'.row held.operationId = some row) →
      SessionClaim env initial lease (s.afterSession w s.device journal' next) w next)
    (keeps : Keeps s w next) : Inv env initial lease (s.afterSession w s.device journal' next) := by
  obtain ⟨row, here, expected, isAllowed, attempts, rows⟩ := row_transition ok
  obtain ⟨row', here', original⟩ := (inv.sessions w).row held isHeld
  rw [here] at here'
  cases here'
  have ownRow := rows held.operationId
  rw [if_pos rfl] at ownRow
  have otherRow : ∀ k, k ≠ held.operationId → journal'.row k = s.journal.row k := fun k other => by
    rw [rows, if_neg other]
  have shows : state = .restored → Shows env s.device row.original := fun isRestored => by
    obtain ⟨phase, restoring⟩ := restored isRestored
    exact original ▸ (inv.sessions w).confirmed held phase row here (expected.trans restoring)
  refine inv.afterSession (inv.sound.transition ok) (fun k other there => ?_) (fun clear => ?_)
    (own (fun row' there => ?_) ⟨_, ownRow⟩) (fun v apart => ?_) (fun r => ?_) keeps
  · rw [rows] at there
    by_cases same : k = held.operationId
    · rw [if_pos same] at there
      cases there
      exact inv.origin _ row here
    · rw [if_neg same] at there
      exact inv.origin k other there
  · exact .of_shows (shows (clear _ _ ownRow)) (inv.origin _ row here).1
  · rw [ownRow] at there
    cases there
    exact ⟨original, rfl⟩
  · refine (inv.sessions v).frame id (fun _ leased => leased)
      (inv.stuck_enter here rfl rows fun isRestored => (shows isRestored).sees)
      (fun other isOther row there => ?_) fun _ _ _ _ _ _ => rfl
    have different := inv.owners v w apart other isOther held isHeld
    exact ⟨row, (otherRow _ different).trans there, rfl, fun _ => id, id⟩
  · exact (inv.recoveries r).frame (fun _ _ _ there => by rw [attempts]; exact there)
      (fun claimed there v _ isHeld same => inv.fenced_afterSession keeps there v isHeld same)
      fun _ _ => rfl

omit [DecidableEq W] in
/-- What a session knows after it wrote a state other than restored. -/
theorem SessionClaim.persisted {s' : World W R L} {held : Held} {state : OperationState}
    (granted : s'.granted (lease w)) (unresolved : state ≠ .restored)
    (rows : ∀ row, s'.journal.row held.operationId = some row →
      row.original = held.original ∧ row.state = state)
    (known : ∃ row, s'.journal.row held.operationId = some row) (plain : next.plain = true)
    (isNext : ∀ other ∈ next.held, other.operationId = held.operationId ∧
      other.original = held.original)
    (restoring : ∀ other ∈ next.restoring, other.journalState = .restoring) :
    SessionClaim env initial lease s' w next where
  granted _ := granted
  captured _ there := by rw [SessionPhase.captured_of_plain plain] at there; cases there
  ready _ there := by rw [SessionPhase.ready_of_plain plain] at there; cases there
  row other there := by
    obtain ⟨row, here⟩ := known
    obtain ⟨same, original⟩ := isNext other there
    exact ⟨row, same ▸ here, (rows row here).1.trans original.symm⟩
  unresolved other there _ row here := by
    obtain ⟨same, -⟩ := isNext other (SessionPhase.held_of_writing there)
    rw [(rows row (same ▸ here)).2]
    exact unresolved
  restoring := restoring
  verified _ same := by rw [same] at plain; cases plain
  confirmed _ same := by rw [same] at plain; cases plain

/-- A session commits a transaction. -/
theorem Inv.session_commit (inv : Inv env initial lease s)
    {run : ClockJournal → Except String (ClockJournal × SessionPhase)}
    (same : sessionCall env authorizationId fresh (s.session w) = .transact run)
    {next' : SessionPhase} (ok : run s.journal = .ok (journal', next))
    (goes : next' = next ∨ next' = (s.session w).fail) :
    Inv env initial lease (s.afterSession w s.device journal' next') := by
  have claim := inv.sessions w
  cases phase : s.session w with
  | checkUnresolved =>
      rw [phase] at same goes claim
      cases same
      obtain ⟨_, -, ok⟩ := Except.bind_eq_ok.mp ok
      cases ok
      refine inv.session_quiet ?_ ?_ <;> rcases goes with rfl | rfl
      · constructor
        case granted => exact fun _ => claim.granted rfl
        all_goals
          intros
          contradiction
      · exact .closed
      · exact fun _ none => (Option.not_mem_none _ none).elim
      · exact fun _ none => (Option.not_mem_none _ none).elim
  | begin original =>
      rw [phase] at same goes
      cases same
      obtain ⟨_, begun, ok⟩ := Except.bind_eq_ok.mp ok
      cases ok
      exact inv.session_begin phase begun goes
  | persistActive held =>
      rw [phase] at same goes claim
      cases same
      obtain ⟨_, wrote, ok⟩ := Except.bind_eq_ok.mp ok
      cases ok
      refine inv.session_persist (by rw [phase]; rfl) wrote (fun restored => by cases restored)
        (fun rows known => ?_) (fun other there => .inl ⟨held, by rw [phase]; rfl, ?_⟩) <;>
        rcases goes with rfl | rfl
      · exact .persisted (claim.granted rfl) (by decide) rows known rfl
          (by rintro _ ⟨⟩; exact ⟨rfl, rfl⟩) fun _ none => (Option.not_mem_none _ none).elim
      · exact .persisted (claim.granted rfl) (by decide) rows known rfl
          (by rintro _ ⟨⟩; exact ⟨rfl, rfl⟩) fun _ none => (Option.not_mem_none _ none).elim
      · cases there
        rfl
      · cases there
        rfl
  | persistRestoring held =>
      rw [phase] at same goes claim
      cases same
      obtain ⟨_, wrote, ok⟩ := Except.bind_eq_ok.mp ok
      cases ok
      refine inv.session_persist (by rw [phase]; rfl) wrote (fun restored => by cases restored)
        (fun rows known => ?_) (fun other there => .inl ⟨held, by rw [phase]; rfl, ?_⟩) <;>
        rcases goes with rfl | rfl
      · exact .persisted (claim.granted rfl) (by decide) rows known rfl
          (by rintro _ ⟨⟩; exact ⟨rfl, rfl⟩) (by rintro _ ⟨⟩; rfl)
      · exact .persisted (claim.granted rfl) (by decide) rows known rfl
          (by rintro _ ⟨⟩; exact ⟨rfl, rfl⟩) fun _ none => (Option.not_mem_none _ none).elim
      · cases there
        rfl
      · cases there
        rfl
  | persistRestored held =>
      rw [phase] at same goes claim
      cases same
      obtain ⟨_, wrote, ok⟩ := Except.bind_eq_ok.mp ok
      cases ok
      refine inv.session_persist (by rw [phase]; rfl) wrote
        (fun _ => ⟨phase, claim.restoring held rfl⟩)
        (fun rows known => ?_) ?_ <;> rcases goes with rfl | rfl
      · exact .closed
      · constructor
        case granted => exact fun _ => claim.granted rfl
        case row =>
          rintro _ ⟨⟩
          obtain ⟨row, here⟩ := known
          exact ⟨row, here, (rows row here).1⟩
        all_goals
          intros
          contradiction
      · exact .of_subset fun _ none => (Option.not_mem_none _ none).elim
      · exact fun _ there => .inl ⟨held, by rw [phase]; rfl, by cases there; rfl⟩
  | persistReconciliation held =>
      rw [phase] at same goes claim
      cases same
      obtain ⟨_, wrote, ok⟩ := Except.bind_eq_ok.mp ok
      cases ok
      have closed : next' = .closed := goes.elim id id
      subst closed
      exact inv.session_persist (by rw [phase]; rfl) wrote (fun restored => by cases restored)
        (fun _ _ => .closed) (.of_subset fun _ none => (Option.not_mem_none _ none).elim)
  | _ =>
      rw [phase] at same
      cases same

omit [DecidableEq W] in
theorem Inv.same_or_unresolved (inv : Inv env initial lease s) : Same env s.device initial ∨
    ∃ k row, s.journal.row k = some row ∧ row.state ≠ .restored := by
  by_cases unresolved : ∃ k row, s.journal.row k = some row ∧ row.state ≠ .restored
  · exact .inr unresolved
  · refine .inl (inv.clear fun k row here => ?_)
    by_contra open_
    exact unresolved ⟨k, row, here, open_⟩

/-- **A step of a session keeps the invariant.** -/
theorem Inv.session [DecidableEq L] (inv : Inv env initial lease s)
    (done : Done (decide (s.authority = .leased (lease w))) (s.session w).fail s.device s.journal
      (sessionCall env authorizationId fresh (s.session w)) device journal' next) :
    Inv env initial lease (s.afterSession w device journal' next) := by
  have claim := inv.sessions w
  have failSubset : ∀ held ∈ (s.session w).fail.held, held ∈ (s.session w).held := by
    rcases (s.session w).fail_facts with ends | ⟨-, -, subset, -⟩
    · rw [ends]
      exact fun _ none => (Option.not_mem_none _ none).elim
    · exact subset
  cases done with
  | failed => exact inv.session_quiet (claim.fail id rfl rfl) failSubset
  | owned _ same owner =>
      have leased := of_decide_eq_true owner
      obtain ⟨own, subset⟩ := claim.own (inv.leased w leased) leased same
      exact inv.session_quiet own subset
  | observed _ _ _ same seen =>
      obtain ⟨own, subset⟩ := claim.observed inv.same_or_unresolved same seen
      exact inv.session_quiet own subset
  | committed _ _ _ same ok _ goes => exact inv.session_commit same ok goes
  | wrote _ _ same owner _ goes =>
      have leased := of_decide_eq_true owner
      have granted := inv.leased w leased
      obtain ⟨own, subset, held, writes⟩ :
          SessionClaim env initial lease (s.afterSession w device s.journal next) w _ ∧ _ ∧
            ∃ held, held ∈ (s.session w).ready := claim.wrote granted rfl rfl same
      rcases goes with rfl | rfl
      · exact inv.session_write writes leased own subset
      · exact inv.session_write writes leased (claim.fail id rfl rfl) failSubset
  | proceeded _ same =>
      cases phase : s.session w with
      | inUse held =>
          rw [phase] at same claim
          cases same
          exact inv.session_quiet (claim.goOn (claim.granted rfl) rfl rfl rfl (fun _ there => there)
            (fun _ there => there) fun _ none => (Option.not_mem_none _ none).elim)
            (by rw [phase]; exact fun _ there => there)
      | _ =>
          rw [phase] at same
          cases same

end SessionSteps

/-! ## The steps of a recovery -/

section RecoverySteps

variable {W R L : Type} [DecidableEq R] {env : ClockEnv} {initial device : DevicePolicy}
variable {lease : W → L}
variable {s : World W R L} {r : R} {next : RecoveryPhase} {journal journal' : ClockJournal}
variable {authority : RecoveryAuthority} {fresh : String}

/-- The world after a step of a recovery. -/
abbrev World.afterRecovery (s : World W R L) (r : R) (device : DevicePolicy)
    (journal : ClockJournal) (next : RecoveryPhase) : World W R L :=
  { s with
    device := device
    journal := journal
    recovery := Function.update s.recovery r next }

/-- The invariant after a step of a recovery. -/
theorem Inv.afterRecovery (inv : Inv env initial lease s) (sound : journal.Sound)
    (origin : ∀ k row, journal.row k = some row →
      Shows env initial row.original ∧ row.resourceId = resource)
    (clear : (∀ k row, journal.row k = some row → row.state = .restored) →
      Same env device initial)
    (sessions : ∀ w,
      SessionClaim env initial lease (s.afterRecovery r device journal next) w (s.session w))
    (own : RecoveryClaim env initial lease (s.afterRecovery r device journal next) next)
    (others : ∀ q, q ≠ r →
      RecoveryClaim env initial lease (s.afterRecovery r device journal next) (s.recovery q))
    (keeps : ∀ claimed ∈ next.attempt, claimed ∈ (s.recovery r).attempt ∨
      s.journal.attempts.find? claimed.attemptId = none) :
    Inv env initial lease (s.afterRecovery r device journal next) where
  sound := sound
  origin := origin
  clear := clear
  leased := inv.leased
  sessions := sessions
  recoveries q := by
    by_cases same : q = r
    · subst same
      simp only [Function.update_self]
      exact own
    · simp only [Function.update_of_ne same]
      exact others q same
  owners := inv.owners
  claimants q p apart claimed there other there' := by
    -- the attempt of a recovery that took no step is known
    have known := fun q => (inv.recoveries q).known
    by_cases first : q = r
    · subst first
      simp only [Function.update_self, Function.update_of_ne apart.symm] at there there'
      rcases keeps claimed there with old | absent
      · exact inv.claimants q p apart claimed old other there'
      · exact fun same => known p other there' (same ▸ absent)
    · simp only [Function.update_of_ne first] at there
      by_cases second : p = r
      · subst second
        simp only [Function.update_self] at there'
        rcases keeps other there' with old | absent
        · exact inv.claimants q p apart claimed there other old
        · exact fun same => known q claimed there (same ▸ absent)
      · simp only [Function.update_of_ne second] at there'
        exact inv.claimants q p apart claimed there other there'

/-- A step of a recovery that leaves the device and the journal alone. -/
theorem Inv.recovery_quiet (inv : Inv env initial lease s)
    (own : RecoveryClaim env initial lease s next)
    (subset : ∀ claimed ∈ next.attempt, claimed ∈ (s.recovery r).attempt) :
    Inv env initial lease (s.afterRecovery r s.device s.journal next) := by
  refine inv.afterRecovery inv.sound inv.origin inv.clear (fun w => ?_) ?_ (fun q _ => ?_)
    fun claimed there => .inl (subset claimed there)
  · have claim := inv.sessions w
    exact ⟨claim.granted, claim.captured, claim.row, claim.unresolved, claim.ready,
      claim.restoring, claim.verified, claim.confirmed⟩
  · exact ⟨own.pending, own.original, own.claimed, own.known, own.fenced, own.ready,
      own.verified⟩
  · have claim := inv.recoveries q
    exact ⟨claim.pending, claim.original, claim.claimed, claim.known, claim.fenced, claim.ready,
      claim.verified⟩

/-- A recovery writes to the device. -/
theorem Inv.recovery_write (inv : Inv env initial lease s) {claimed : Claimed}
    (ready : claimed ∈ (s.recovery r).ready) (quarantined : s.authority = .quarantined)
    (own : RecoveryClaim env initial lease (s.afterRecovery r device s.journal next) next)
    (subset : ∀ claimed ∈ next.attempt, claimed ∈ (s.recovery r).attempt) :
    Inv env initial lease (s.afterRecovery r device s.journal next) := by
  have there := RecoveryPhase.claimed_of_fenced (RecoveryPhase.fenced_of_ready ready)
  obtain ⟨row, here, state⟩ := inv.claimed_row there
  have unresolved : row.state ≠ .restored := by rw [state]; decide
  have sees := (inv.recoveries r).ready claimed ready
  have isInitial := (inv.recoveries r).original claimed there
  refine inv.afterRecovery inv.sound inv.origin (fun clear => absurd (clear _ row here) unresolved)
    (fun w => ?_) own (fun q apart => ?_) fun claimed there => .inl (subset claimed there)
  · refine (inv.sessions w).frame id (fun _ leased => leased)
      (fun stuck => absurd sees (stuck.2 _ isInitial))
      (fun _ _ row here => ⟨row, here, rfl, fun _ => id, id⟩)
      (fun held _ row' here' unresolved' kept => ?_)
    -- the unresolved operation is claimed
    have same := inv.one here here' unresolved unresolved'
    rw [← same, here] at here'
    cases here'
    rcases kept with leased | restoring
    · rw [quarantined] at leased
      cases leased
    · rw [state] at restoring
      cases restoring
  · refine (inv.recoveries q).frame (fun _ _ _ here => here) (inv.recoveries q).fenced
      fun other isFenced => ?_
    have isClaimed := RecoveryPhase.claimed_of_fenced isFenced
    obtain ⟨row', here', state'⟩ := inv.claimed_row isClaimed
    have same := inv.one here here' unresolved (by rw [state']; decide)
    exact absurd same (inv.claims_apart apart.symm there isClaimed)

omit [DecidableEq R] in
/-- The original policies stay those of the start when an operation enters a state. -/
theorem Inv.origin_enter (inv : Inv env initial lease s) {operationId : String} {event : EventState}
    {row : ClockOperation DefaultAutoBaseline} (found : s.journal.row operationId = some row)
    (rows : ∀ k, journal'.row k = (s.journal.enter operationId event).row k) (k : String)
    (row' : ClockOperation DefaultAutoBaseline) (there : journal'.row k = some row') :
    Shows env initial row'.original ∧ row'.resourceId = resource := by
  rw [rows, row_enter found] at there
  split at there
  · cases there
    exact inv.origin _ row found
  · exact inv.origin k row' there

/-- A recovery claims an operation. -/
theorem Inv.recovery_claim (inv : Inv env initial lease s) {original : DefaultAutoBaseline}
    {row : ClockOperation DefaultAutoBaseline} (phase : s.recovery r = .claim original)
    (ok : claimRecovery env.blank fresh resource authority.authorizationId authority.fencingToken
      s.journal = .ok (journal', row))
    (goes : next = .ownClaimed ⟨original, fresh, row.operationId⟩ ∨ next = .closed) :
    Inv env initial lease (s.afterRecovery r s.device journal' next) := by
  have shows : Shows env initial original :=
    (inv.recoveries r).pending original (by rw [phase]; rfl)
  obtain ⟨found, -, -, absent, rows, -, attempts⟩ := claimRecovery_spec ok
  have newAttempt := attempts fresh
  rw [if_pos rfl] at newAttempt
  have newRow := rows row.operationId
  rw [row_enter found, if_pos rfl] at newRow
  refine inv.afterRecovery (inv.sound.claimRecovery ok) (inv.origin_enter found rows)
    (fun clear => ?_) (fun w => ?_) ?_ (fun q _ => ?_) ?_
  · cases clear _ _ newRow
  · refine (inv.sessions w).frame id (fun _ leased => leased)
      (inv.stuck_enter found rfl (fun k => (rows k).trans (row_enter found _ k))
        fun restored => by cases restored)
      (fun held _ row' here => ?_) fun _ _ _ _ _ _ => rfl
    have after := rows held.operationId
    rw [row_enter found] at after
    by_cases same : held.operationId = row.operationId
    · rw [if_pos same] at after
      rw [same, found] at here
      cases here
      refine ⟨_, after, rfl, fun _ restored => ?_, fun restoring => ?_⟩
      · cases restored
      · cases restoring
    · rw [if_neg same] at after
      exact ⟨row', after.trans here, rfl, fun _ => id, id⟩
  · rcases goes with rfl | rfl
    · constructor
      case original =>
        rintro _ ⟨⟩
        exact shows
      case claimed =>
        rintro _ ⟨⟩
        exact ⟨_, newAttempt, rfl, rfl⟩
      case known =>
        rintro _ ⟨⟩ none
        rw [newAttempt] at none
        cases none
      all_goals
        intros
        contradiction
    · exact .idle (fun _ none => (Option.not_mem_none _ none).elim) rfl
  · refine (inv.recoveries q).frame (fun other _ attempt here => ?_) (inv.recoveries q).fenced
      fun _ _ => rfl
    rw [attempts, if_neg, here]
    intro same
    rw [same, absent] at here
    cases here
  · rcases goes with rfl | rfl
    · rintro _ ⟨⟩
      exact .inr absent
    · exact fun _ none => (Option.not_mem_none _ none).elim

/-- A recovery ends its attempt. -/
theorem Inv.recovery_finish (inv : Inv env initial lease s) {claimed : Claimed} {restored : Bool}
    (there : claimed ∈ (s.recovery r).attempt)
    (ok : finishRecovery claimed.attemptId restored s.journal = .ok journal')
    (verified : restored = true → claimed ∈ (s.recovery r).verified)
    (goes : next = .closed ∨ next = .finishFailed claimed) :
    Inv env initial lease (s.afterRecovery r s.device journal' next) := by
  obtain ⟨attempt, row, known, -, found, -, rows, -, attempts⟩ := finishRecovery_spec ok
  have newRow := rows attempt.operationId
  rw [row_enter found, if_pos rfl] at newRow
  -- what a recovery that ends its attempt as restored knows
  have facts : restored = true → Shows env s.device claimed.original ∧
      Shows env initial claimed.original ∧
        ∀ w, ∀ held ∈ (s.session w).held, held.operationId = attempt.operationId →
          s.authority ≠ .leased (lease w) := by
    intro isRestored
    have isVerified := verified isRestored
    have isFenced := RecoveryPhase.fenced_of_verified isVerified
    have isClaimed := RecoveryPhase.claimed_of_fenced isFenced
    obtain ⟨attempt', known', -, same⟩ := (inv.recoveries r).claimed claimed isClaimed
    rw [known] at known'
    cases known'
    exact ⟨(inv.recoveries r).verified claimed isVerified,
      (inv.recoveries r).original claimed isClaimed,
      fun w held isHeld sameId => (inv.recoveries r).fenced claimed isFenced w held isHeld
        (sameId.trans same)⟩
  have sees : (finishEvent claimed.attemptId restored).operationState = .restored →
      Sees env s.device row.original := by
    intro isRestored
    cases restored with
    | true =>
        obtain ⟨shows, shows', -⟩ := facts rfl
        exact (shows.sees).trans (congrArg some (shows'.unique (inv.origin _ row found).1))
    | false => cases isRestored
  refine inv.afterRecovery (inv.sound.finishRecovery ok) (inv.origin_enter found rows)
    (fun clear => ?_) (fun w => ?_) ?_ (fun q apart => ?_) ?_
  · cases restored with
    | true =>
        obtain ⟨shows, shows', -⟩ := facts rfl
        exact .of_shows shows shows'
    | false => cases clear _ _ newRow
  · refine (inv.sessions w).frame id (fun _ leased => leased)
      (inv.stuck_enter found rfl (fun k => (rows k).trans (row_enter found _ k)) sees)
      (fun held isHeld row' here => ?_) fun _ _ _ _ _ _ => rfl
    have after := rows held.operationId
    rw [row_enter found] at after
    by_cases same : held.operationId = attempt.operationId
    · rw [if_pos same] at after
      rw [same, found] at here
      cases here
      refine ⟨_, after, rfl, fun leased isRestored => ?_, fun restoring => ?_⟩
      · cases restored with
        | true => exact absurd leased ((facts rfl).2.2 w held isHeld same)
        | false => cases isRestored
      · cases restored <;> cases restoring
    · rw [if_neg same] at after
      exact ⟨row', after.trans here, rfl, fun _ => id, id⟩
  · rcases goes with rfl | rfl
    · exact .idle (fun _ none => (Option.not_mem_none _ none).elim) rfl
    · constructor
      case known =>
        rintro _ ⟨⟩ none
        rw [attempts, if_pos rfl] at none
        cases none
      all_goals
        intros
        contradiction
  · refine (inv.recoveries q).frame (fun other isOther attempt' here => ?_)
      (inv.recoveries q).fenced fun _ _ => rfl
    rw [attempts, if_neg (inv.claimants q r apart other isOther claimed there), here]
  · rcases goes with rfl | rfl
    · exact fun _ none => (Option.not_mem_none _ none).elim
    · rintro _ ⟨⟩
      exact .inl there

/-- A recovery commits a transaction. -/
theorem Inv.recovery_commit (inv : Inv env initial lease s)
    {run : ClockJournal → Except String (ClockJournal × RecoveryPhase)}
    (same : recoveryCall env authority fresh (s.recovery r) = .transact run)
    {next' : RecoveryPhase} (ok : run s.journal = .ok (journal', next))
    (goes : next' = next ∨ next' = (s.recovery r).fail) :
    Inv env initial lease (s.afterRecovery r s.device journal' next') := by
  cases phase : s.recovery r with
  | readPending =>
      rw [phase] at same goes
      cases same
      dsimp only at ok
      split at ok
      · rename_i pending only
        obtain ⟨_, -, ok⟩ := Except.bind_eq_ok.mp ok
        obtain ⟨original, found, ok⟩ := Except.bind_eq_ok.mp ok
        obtain ⟨_, -, isOriginal⟩ := Except.bind_eq_ok.mp found
        cases isOriginal
        cases ok
        obtain ⟨here, -, -⟩ := mem_unresolved.mp (show pending ∈ s.journal.unresolved resource by
          rw [only]; exact List.mem_cons_self)
        have shows := (inv.origin _ pending here).1
        refine inv.recovery_quiet ?_ ?_ <;> rcases goes with rfl | rfl
        · exact .idle (by rintro _ ⟨⟩; exact shows) rfl
        · exact .idle (fun _ none => (Option.not_mem_none _ none).elim) rfl
        · exact fun _ none => (Option.not_mem_none _ none).elim
        · exact fun _ none => (Option.not_mem_none _ none).elim
      · cases ok
  | claim original =>
      rw [phase] at same goes
      cases same
      obtain ⟨⟨_, row⟩, claimed, ok⟩ := Except.bind_eq_ok.mp ok
      cases ok
      exact inv.recovery_claim phase claimed goes
  | finishRestored claimed =>
      rw [phase] at same goes
      cases same
      obtain ⟨_, finished, ok⟩ := Except.bind_eq_ok.mp ok
      cases ok
      exact inv.recovery_finish (by rw [phase]; rfl) finished (fun _ => by rw [phase]; rfl) goes
  | finishFailed claimed =>
      rw [phase] at same goes
      cases same
      obtain ⟨_, finished, ok⟩ := Except.bind_eq_ok.mp ok
      cases ok
      exact inv.recovery_finish (by rw [phase]; rfl) finished (fun restored => by cases restored)
        (.inl (goes.elim id id))
  | _ =>
      rw [phase] at same
      cases same

/-- **A step of a recovery keeps the invariant.** -/
theorem Inv.recovery [DecidableEq L] (inv : Inv env initial lease s)
    (done : Done (decide (s.authority = .quarantined)) (s.recovery r).fail s.device s.journal
      (recoveryCall env authority fresh (s.recovery r)) device journal' next) :
    Inv env initial lease (s.afterRecovery r device journal' next) := by
  have claim := inv.recoveries r
  have failSubset := (s.recovery r).fail_facts.2.2
  cases done with
  | failed => exact inv.recovery_quiet claim.fail failSubset
  | owned _ same owner =>
      obtain ⟨own, subset⟩ := claim.own (of_decide_eq_true owner) same
      exact inv.recovery_quiet own subset
  | observed _ _ _ same seen =>
      obtain ⟨own, subset⟩ := claim.observed same seen
      exact inv.recovery_quiet own subset
  | committed _ _ _ same ok _ goes => exact inv.recovery_commit same ok goes
  | wrote _ _ same owner _ goes =>
      have quarantined := of_decide_eq_true owner
      cases phase : s.recovery r with
      | restore claimed =>
          have isReady : claimed ∈ (s.recovery r).ready := by rw [phase]; rfl
          rw [phase] at same goes claim
          cases same
          -- what the recovery knows apart from the device
          have goesOn : RecoveryClaim env initial lease (s.afterRecovery r device s.journal next)
              (.ownRestored claimed) :=
            ⟨claim.pending, claim.original, claim.claimed, claim.known, claim.fenced,
              fun _ none => (Option.not_mem_none _ none).elim,
              fun _ none => (Option.not_mem_none _ none).elim⟩
          rcases goes with rfl | rfl
          · exact inv.recovery_write isReady quarantined goesOn
              (by rw [phase]; exact fun _ there => there)
          · exact inv.recovery_write isReady quarantined goesOn.fail
              (by rw [phase]; exact fun _ there => there)
      | _ =>
          rw [phase] at same
          cases same
  | proceeded _ same => cases phase : s.recovery r <;> rw [phase] at same <;> cases same

end RecoverySteps

/-! ## The operations along a run -/

section Carries

variable {journal journal' : ClockJournal}

/-- Every operation stays as it is or goes on along a graph, and the events stay. -/
def Carries (graph : OperationState → OperationState → Prop) (journal journal' : ClockJournal) :
    Prop :=
  (∀ k row, journal.row k = some row → journal'.row k = some row ∨
    ∃ state, graph row.state state ∧ journal'.row k = some (setState state row)) ∧
      journal.events <+: journal'.events

/-- The steps of the state graph that a session takes. -/
def SessionEdge (state state' : OperationState) : Prop := state' ∈ allowed state

theorem Carries.refl {graph : OperationState → OperationState → Prop} :
    Carries graph journal journal :=
  ⟨fun _ _ here => .inl here, List.prefix_rfl⟩

theorem Carries.mono {graph graph' : OperationState → OperationState → Prop}
    (carries : Carries graph journal journal') (sub : ∀ state state', graph state state' →
      graph' state state') : Carries graph' journal journal' := by
  refine ⟨fun k row here => ?_, carries.2⟩
  rcases carries.1 k row here with same | ⟨state, edge, here'⟩
  · exact .inl same
  · exact .inr ⟨state, sub _ _ edge, here'⟩

theorem Carries.enter {graph : OperationState → OperationState → Prop} {operationId : String}
    {event : EventState} {row : ClockOperation DefaultAutoBaseline}
    (found : journal.row operationId = some row) (edge : graph row.state event.operationState)
    (rows : ∀ k, journal'.row k = (journal.enter operationId event).row k)
    (events : journal'.events = journal.events ++ [⟨operationId, event⟩]) :
    Carries graph journal journal' := by
  refine ⟨fun k other here => ?_, events ▸ List.prefix_append _ _⟩
  rw [rows, row_enter found]
  by_cases same : k = operationId
  · rw [same, found] at here
    cases here
    exact .inr ⟨_, edge, if_pos same⟩
  · exact .inl ((if_neg same).trans here)

theorem Carries.begin {graph : OperationState → OperationState → Prop}
    {operationId resourceId authorizationId : String} {original : DefaultAutoBaseline}
    (ok : Clock.begin operationId resourceId authorizationId original journal = .ok journal') :
    Carries graph journal journal' := by
  obtain ⟨absent, -, rows, events, -⟩ := begin_spec ok
  refine ⟨fun k row here => .inl ?_, events ▸ List.prefix_append _ _⟩
  rw [rows, if_neg, here]
  intro same
  rw [same, absent] at here
  cases here

theorem Carries.transition {operationId : String} {expected state : OperationState}
    (ok : Clock.transition operationId expected state journal = .ok journal') :
    Carries SessionEdge journal journal' := by
  obtain ⟨isAllowed, row, found, same, rfl⟩ := transition_spec ok
  have edge : SessionEdge row.state (EventState.entered state).operationState := same ▸ isAllowed
  exact .enter found edge (fun _ => rfl) rfl

theorem Carries.finishRecovery {attemptId : String} {restored : Bool}
    (ok : Clock.finishRecovery attemptId restored journal = .ok journal') :
    Carries Edge journal journal' := by
  obtain ⟨_, row, -, -, found, state, rows, events, -⟩ := finishRecovery_spec ok
  refine .enter found (.inr (.inr ⟨state, ?_⟩)) rows events
  cases restored <;> simp [finishEvent, EventState.operationState]

/-- What a committed transaction of a session does. -/
theorem Carries.session {env : ClockEnv} {authorizationId fresh : String}
    {phase next : SessionPhase} {run : ClockJournal → Except String (ClockJournal × SessionPhase)}
    (same : sessionCall env authorizationId fresh phase = .transact run)
    (ok : run journal = .ok (journal', next)) : Carries SessionEdge journal journal' := by
  cases phase with
  | checkUnresolved =>
      cases same
      obtain ⟨_, -, ok⟩ := Except.bind_eq_ok.mp ok
      cases ok
      exact .refl
  | begin original =>
      cases same
      obtain ⟨_, begun, ok⟩ := Except.bind_eq_ok.mp ok
      cases ok
      exact .begin begun
  | persistActive | persistRestoring | persistRestored | persistReconciliation =>
      cases same
      obtain ⟨_, wrote, ok⟩ := Except.bind_eq_ok.mp ok
      cases ok
      exact .transition wrote
  | _ => cases same

/-- What a committed transaction of a recovery does. -/
theorem Carries.recovery {env : ClockEnv} {authority : RecoveryAuthority} {fresh : String}
    {phase next : RecoveryPhase}
    {run : ClockJournal → Except String (ClockJournal × RecoveryPhase)}
    (same : recoveryCall env authority fresh phase = .transact run)
    (ok : run journal = .ok (journal', next)) : Carries Edge journal journal' := by
  cases phase with
  | readPending =>
      cases same
      dsimp only at ok
      split at ok
      · obtain ⟨_, -, ok⟩ := Except.bind_eq_ok.mp ok
        obtain ⟨_, -, ok⟩ := Except.bind_eq_ok.mp ok
        cases ok
        exact .refl
      · cases ok
  | claim original =>
      cases same
      obtain ⟨_, claimed, ok⟩ := Except.bind_eq_ok.mp ok
      cases ok
      obtain ⟨found, -, isRecoverable, -, rows, events, -⟩ := claimRecovery_spec claimed
      exact .enter found (.inr (.inl ⟨isRecoverable, rfl⟩)) rows events
  | finishRestored | finishFailed =>
      cases same
      obtain ⟨_, finished, ok⟩ := Except.bind_eq_ok.mp ok
      cases ok
      exact .finishRecovery finished
  | _ => cases same

end Carries

section Runs

variable {W R L : Type} [DecidableEq W] [DecidableEq R] [DecidableEq L]
variable {processes : Processes W R L} {initial : DevicePolicy} {s s' : World W R L}
variable {event : Event W R L}

/-- A session moves operations along the transitions it may make only. -/
theorem carries_session {w : W} {answer : Answer}
    (taken : Step processes s (.session w answer) s') :
    Carries SessionEdge s.journal s'.journal := by
  cases taken with
  | session _ _ _ _ _ taken =>
      cases done_of_perform taken with
      | committed _ _ _ same ok => exact .session same ok
      | _ => exact .refl

theorem carries_step (taken : Step processes s event s') : Carries Edge s.journal s'.journal := by
  cases event with
  | session => exact (carries_session taken).mono fun _ _ => .inl
  | recovery r answer =>
      cases taken with
      | recovery _ _ _ _ _ taken =>
          cases done_of_perform taken with
          | committed _ _ _ same ok => exact .recovery same ok
          | _ => exact .refl
  | _ =>
      cases taken
      exact .refl

/-- **Restored is final.** -/
theorem restored_stays {trace : List (Event W R L)} (run : Steps (Step processes) s trace s')
    {k : String} {row : ClockOperation DefaultAutoBaseline} (here : s.journal.row k = some row)
    (restored : row.state = .restored) : s'.journal.row k = some row := by
  refine run.invariant (I := fun t => t.journal.row k = some row) ?_ here
  intro t _ t' there taken
  rcases (carries_step taken).1 k row there with same | ⟨state, edge, -⟩
  · exact same
  · rw [restored] at edge
    exact absurd edge (not_edge_restored state)

/-- The log of an operation only grows. -/
theorem mem_log_stays {trace : List (Event W R L)} (run : Steps (Step processes) s trace s')
    {k : String} {state : OperationState} (there : state ∈ s.journal.log k) :
    state ∈ s'.journal.log k := by
  refine run.invariant (I := fun t => state ∈ t.journal.log k) (fun t _ t' there taken => ?_) there
  obtain ⟨event, listed, same⟩ := List.mem_map.mp there
  obtain ⟨member, own⟩ := List.mem_filter.mp listed
  exact List.mem_map.mpr ⟨event,
    List.mem_filter.mpr ⟨(carries_step taken).2.subset member, own⟩, same⟩

/-- After a claim by a recovery no transition of a session is allowed. -/
theorem allowed_of_claimed {states : List OperationState} {state : OperationState}
    (path : LogPath states state) (claimed : .recoveryClaimed ∈ states) : allowed state = [] := by
  induction path with
  | start => simp at claimed
  | @step states state state' path edge ih =>
      rcases List.mem_append.mp claimed with before | now
      · have none := ih before
        rcases edge with forward | ⟨-, rfl⟩ | ⟨-, back⟩
        · rw [none] at forward
          cases forward
        · rfl
        · revert back
          cases state' <;> simp [allowed]
      · rw [← List.mem_singleton.mp now]
        rfl

omit [DecidableEq W] [DecidableEq R] [DecidableEq L] in
/-- The invariant before any process has begun. -/
theorem Inv.start {env : ClockEnv} {lease : W → L} :
    Inv env initial lease (World.start W R L initial) where
  sound := Journal.sound_empty
  origin k row here := by cases here
  clear _ _ := Iff.rfl
  leased _ leased := by cases leased
  sessions w := by constructor <;> intros <;> contradiction
  recoveries r := .idle (fun _ none => (Option.not_mem_none _ none).elim) rfl
  owners w v _ held there := (Option.not_mem_none held there).elim
  claimants r q _ claimed there := (Option.not_mem_none claimed there).elim

omit [DecidableEq W] [DecidableEq R] [DecidableEq L] in
/-- A change of authority keeps the invariant: no lease comes back. -/
theorem Inv.authority {env : ClockEnv} {lease : W → L} (inv : Inv env initial lease s)
    {authority : Authority L} (once : ∀ lease, authority = .leased lease →
      s.authority = .leased lease ∨ ¬s.granted lease) :
    Inv env initial lease { s with
      authority := authority
      granted := fun lease => s.granted lease ∨ authority = .leased lease } where
  sound := inv.sound
  origin := inv.origin
  clear := inv.clear
  leased _ leased := .inr leased
  sessions w := (inv.sessions w).frame .inl
    (fun granted leased => (once _ leased).resolve_right (not_not.mpr granted)) id
    (fun _ _ row here => ⟨row, here, rfl, fun _ => id, id⟩) fun _ _ _ _ _ _ => rfl
  recoveries r := by
    refine (inv.recoveries r).frame (fun _ _ _ here => here) (fun claimed there w held isHeld same
      leased => ?_) fun _ _ => rfl
    have granted := (inv.sessions w).granted (SessionPhase.entered_of_held isHeld)
    exact (inv.recoveries r).fenced claimed there w held isHeld same
      ((once _ leased).resolve_right (not_not.mpr granted))
  owners := inv.owners
  claimants := inv.claimants

/-- **Every step keeps the invariant.** -/
theorem Inv.step (inv : Inv processes.env initial processes.lease s)
    (taken : Step processes s event s') : Inv processes.env initial processes.lease s' := by
  cases taken with
  | session w answer device journal phase taken => exact inv.session (done_of_perform taken)
  | recovery r answer device journal phase taken => exact inv.recovery (done_of_perform taken)
  | endSession w =>
      exact inv.session_quiet .closed fun _ none => (Option.not_mem_none _ none).elim
  | endRecovery r =>
      exact inv.recovery_quiet (.idle (fun _ none => (Option.not_mem_none _ none).elim) rfl)
        fun _ none => (Option.not_mem_none _ none).elim
  | authority authority once => exact inv.authority once

/-- **Clock safety.** In every run of sessions and recoveries a resource has one unresolved
operation at a time; the log of an operation is a path of the state graph that ends in its
state; a restored operation stays as it is; once a recovery has claimed an operation no session
changes its state; and under a journal without unresolved operations the device shows the
original policy of every operation, the last one among them. -/
theorem clock_safety {device : DevicePolicy} {trace : List (Event W R L)}
    (run : Steps (Step processes) (World.start W R L device) trace s) :
    (∀ k l row row', s.journal.row k = some row → s.journal.row l = some row' →
      row.resourceId = row'.resourceId → row.state ≠ .restored → row'.state ≠ .restored → k = l) ∧
    (∀ k row, s.journal.row k = some row → LogPath (s.journal.log k) row.state) ∧
    (∀ more s', Steps (Step processes) s more s' → ∀ k row, s.journal.row k = some row →
      row.state = .restored → s'.journal.row k = some row) ∧
    (∀ k, .recoveryClaimed ∈ s.journal.log k → ∀ more t, Steps (Step processes) s more t →
      ∀ w answer t', Step processes t (.session w answer) t' →
        t'.journal.row k = t.journal.row k) ∧
    (s.journal.unresolved resource = [] → ∀ k row, s.journal.row k = some row →
      row.resourceId = resource → Shows processes.env s.device row.original) := by
  have invariant : ∀ {more : List (Event W R L)} {t : World W R L},
      Steps (Step processes) (World.start W R L device) more t →
        Inv processes.env device processes.lease t := fun run =>
    run.invariant (fun _ _ _ inv taken => Inv.step inv taken) .start
  have inv := invariant run
  refine ⟨inv.sound.one, inv.sound.log, fun _ _ onward _ _ here restored =>
    restored_stays onward here restored, ?_, ?_⟩
  · intro k claimed more t onward w answer t' taken
    have sound := (invariant (run.trans onward)).sound
    have logged := mem_log_stays onward claimed
    cases here : t.journal.row k with
    | none =>
        rw [sound.logged k here] at logged
        cases logged
    | some row =>
        have none := allowed_of_claimed (sound.log k row here) logged
        rcases (carries_session taken).1 k row here with same | ⟨state, edge, -⟩
        · exact same
        · rw [SessionEdge, none] at edge
          cases edge
  · intro clear k row here _
    exact (inv.clear (inv.all_restored clear) row.original).mpr (inv.origin k row here).1

/-- A session that owns the resource takes the steps of its answers. -/
def sessionRun (env : ClockEnv) (authorizationId : String) :
    List Answer → DevicePolicy × ClockJournal × SessionPhase →
      Option (DevicePolicy × ClockJournal × SessionPhase) :=
  fun answers start => answers.foldlM (fun (device, journal, phase) answer =>
    perform true phase.fail answer device journal
      (sessionCall env authorizationId answer.fresh phase)) start

/-- What a session does alone under its lease is a run of all processes. -/
theorem steps_of_sessionRun (w : W)
    (leased : s.authority = .leased (processes.lease w)) {answers : List Answer}
    {device : DevicePolicy} {journal : ClockJournal} {phase : SessionPhase}
    (alone : sessionRun processes.env (processes.session w) answers
      (s.device, s.journal, s.session w) = some (device, journal, phase)) :
    Steps (Step processes) s (answers.map (.session w))
      (s.afterSession w device journal phase) := by
  induction answers using List.reverseRecOn generalizing device journal phase with
  | nil =>
      cases alone
      have same : s.afterSession w s.device s.journal (s.session w) = s := by
        rw [World.afterSession, Function.update_eq_self]
      rw [same]
      exact .refl s
  | append_singleton answers answer ih =>
      rw [sessionRun, List.foldlM_append] at alone
      obtain ⟨⟨device', journal', phase'⟩, before, last⟩ := Option.bind_eq_some_iff.mp alone
      rw [List.map_append]
      refine .tail (ih before) ?_
      have target : s.afterSession w device journal phase =
          (s.afterSession w device' journal' phase').afterSession w device journal phase := by
        rw [World.afterSession, World.afterSession, Function.update_idem]
      rw [target]
      refine .session w answer device journal phase ?_
      simp only [leased, decide_true, Function.update_self]
      simpa using last

end Runs

/-! ## A session that restores -/

/-- The tests on texts: what the constructor of UUIDs reads, and a prefix with 64 lower-case
hexadecimal digits behind it. -/
def bw20Env : ClockEnv where
  isUuid text := (Uuid.parse text).isSome
  isDigest text := "sha256:".toList.isPrefixOf text.toList && text.toList.length == 71 &&
    (text.toList.drop 7).all fun c => c.isDigit || ['a', 'b', 'c', 'd', 'e', 'f'].contains c
  blank text := stripEnds isBlank text.toList == []

/-- The device in a mode. -/
def bw20Device (mode : String) : DevicePolicy where
  host := "github-bw20"
  pci := "0000:b1:00.0"
  scope := "readonly_non_atomic_observation"
  numaNode := "4"
  bootId := "0a1b2c3d-4e5f-4607-8899-aabbccddeeff"
  performanceLevel := mode
  sclk := some ⟨[600, 1500], false⟩
  mclk := some ⟨[1800], true⟩
  sclkOd := "0"
  mclkOd := "0"
  gfxBoost := "0"
  headerSha256 := some
    "sha256:9f86d081884c7d659a2feaa0c55ad015a3bf4f1b2b0b822cd15d6c15b0f00a08"

/-- One session and one recovery. -/
def bw20Processes : Processes Unit Unit Unit where
  env := bw20Env
  session _ := "window"
  lease _ := ()
  recovery _ := ⟨"recovery", 1⟩

/-- The answers to a session that applies the manual clock and restores the policy. -/
def bw20Answers : List Answer :=
  let answer (mode : String) : Answer := ⟨.ok, "operation", 1, bw20Device mode⟩
  List.replicate 15 (answer "manual") ++ List.replicate 6 (answer "auto")

/-- A session that is granted its lease applies the clock and restores the policy: the journal
is clear afterwards and the device shows the original policy. -/
theorem clock_safety_session :
    ∃ trace s, Steps (Step bw20Processes) (World.start Unit Unit Unit (bw20Device "auto")) trace s ∧
      s.journal.unresolved resource = [] ∧
        ∃ row, s.journal.row "operation" = some row ∧
          Shows bw20Processes.env s.device row.original := by
  have alone : ∃ final ∈ sessionRun bw20Processes.env "window" bw20Answers
      (bw20Device "auto", {}, .new), final.2.1.unresolved resource = [] ∧
        ∃ row ∈ final.2.1.row "operation", row.resourceId = resource := by decide +kernel
  obtain ⟨⟨device, journal, phase⟩, ran, clear, row, here, same⟩ := alone
  have granted : Step bw20Processes (World.start Unit Unit Unit (bw20Device "auto"))
      (.authority (.leased ())) _ := .authority (.leased ()) fun _ _ => .inr id
  have run := (Steps.single granted).trans (steps_of_sessionRun () rfl ran)
  exact ⟨_, _, run, clear, row, here, (clock_safety run).2.2.2.2 clear _ row here same⟩

end Clock

end HcuAutoOpt
