import HcuAutoOpt.Deployment.ClockSafety

/-!
# What a recovery takes over

`recover` reads the unresolved operation of the resource in one transaction, compares its policy
with the device, and claims whatever operation is unresolved on the resource in a later one.
Here one recovery runs among arbitrary transactions of others, on any device, and every call of
its own may raise, before or after its effect. What it has read, compared and claimed is kept as
the history of the run.

**What it settles.** When no operation begins on the resource between the read and the claim, and
the transaction that marks the operation restored does not raise after its commit, the recovery
claims the operation it has compared, marks no other one restored, and leaves a claimed operation
to be reconciled when it raises (`recovery_settles`).
-/

set_option autoImplicit false

namespace HcuAutoOpt

namespace Clock

open Foundation

/-! ## One recovery among others -/

/-- A claim of the recovery: the operation, as it was, and the attempt. -/
structure TakenOver where
  operation : ClockOperation DefaultAutoBaseline
  attemptId : String
  deriving DecidableEq, Repr

/-- The journal, the next call of the recovery, and its history: the operation it has read, the
device it has compared with the policy of that operation, its claim, and whether it has raised. -/
structure Takeover where
  journal : ClockJournal
  phase : RecoveryPhase := .new
  read : Option (ClockOperation DefaultAutoBaseline) := none
  compared : Option DevicePolicy := none
  claim : Option TakenOver := none
  raised : Bool := false

/-- A call of the recovery on a device, or a committed transaction of another process. -/
inductive TakeoverEvent
  | own (answer : Answer) (device : DevicePolicy)
  | begin (operationId resourceId authorizationId : String) (original : DefaultAutoBaseline)
  | transition (operationId : String) (expected state : OperationState)
  | claimRecovery (attemptId resourceId authorizationId : String) (fencingToken : Int)
  | finishRecovery (attemptId : String) (restored : Bool)

/-- The claim that a transaction has added. -/
def addedClaim (journal journal' : ClockJournal) (fresh : String) : Option TakenOver :=
  match journal.attempts.find? fresh with
  | some _ => none
  | none => do
      let attempt ← journal'.attempts.find? fresh
      let operation ← journal.row attempt.operationId
      return ⟨operation, fresh⟩

/-- The history after a call of the recovery. -/
def Takeover.after (s : Takeover) (answer : Answer) (device : DevicePolicy)
    (journal : ClockJournal) (phase : RecoveryPhase) : Takeover where
  journal := journal
  phase := phase
  read := match phase with
    | .observePending _ => (s.journal.unresolved resource).head?
    | _ => s.read
  compared := match phase with
    | .ownPending _ => some device
    | _ => s.compared
  claim := match s.phase with
    | .claim _ => addedClaim s.journal journal answer.fresh
    | _ => s.claim
  -- only a recovery that has marked its operation restored returns
  raised := match s.phase, phase with
    | .finishRestored _, _ => s.raised
    | _, .closed => true
    | _, _ => s.raised

/-- One event. The ownership callbacks of the recovery succeed or raise, and nobody else finishes
its attempt. -/
def takeover (env : ClockEnv) (authority : RecoveryAuthority) (s : Takeover) :
    TakeoverEvent → Option Takeover
  | .own answer device =>
      (perform true s.phase.fail answer device s.journal
        (recoveryCall env authority answer.fresh s.phase)).map fun taken =>
          s.after answer device taken.2.1 taken.2.2
  | .begin operationId resourceId authorizationId original =>
      (Clock.begin operationId resourceId authorizationId original s.journal).toOption.map
        fun journal => { s with journal }
  | .transition operationId expected state =>
      (Clock.transition operationId expected state s.journal).toOption.map
        fun journal => { s with journal }
  | .claimRecovery attemptId resourceId authorizationId fencingToken =>
      (Clock.claimRecovery env.blank attemptId resourceId authorizationId fencingToken
        s.journal).toOption.map fun taken => { s with journal := taken.1 }
  | .finishRecovery attemptId restored =>
      if ∃ claim ∈ s.claim, claim.attemptId = attemptId then none
      else (Clock.finishRecovery attemptId restored s.journal).toOption.map
        fun journal => { s with journal }

/-- The steps of a recovery and of the others. -/
def TakeoverStep (env : ClockEnv) (authority : RecoveryAuthority) (s : Takeover)
    (event : TakeoverEvent) (s' : Takeover) : Prop :=
  takeover env authority s event = some s'

/-- The policy of the operation that the recovery has read and not yet claimed. -/
def RecoveryPhase.reading (phase : RecoveryPhase) : Bool := phase.pending.isSome

/-- No operation begins on the resource between the read and the claim, and marking the operation
restored does not raise after its commit. -/
def Guarded (s : Takeover) : TakeoverEvent → Prop
  | .begin _ resourceId _ _ => s.phase.reading = true → resourceId ≠ resource
  | .own answer _ => ∀ claimed, s.phase = .finishRestored claimed → answer.outcome ≠ .interrupted
  | _ => True

/-- The steps that meet the condition. -/
def GuardedStep (env : ClockEnv) (authority : RecoveryAuthority) (s : Takeover)
    (event : TakeoverEvent) (s' : Takeover) : Prop :=
  TakeoverStep env authority s event s' ∧ Guarded s event

/-! ## What a recovery settles -/

/-- The claimed operation is the one that was read, the device showed its policy when the
recovery compared them, and its authorization is not that of the recovery. -/
def Verified (env : ClockEnv) (authority : RecoveryAuthority) (s : Takeover) : Prop :=
  ∀ claim ∈ s.claim, ∃ read ∈ s.read, ∃ device ∈ s.compared,
    claim.operation.operationId = read.operationId ∧ claim.operation.original = read.original ∧
      Sees env device claim.operation.original ∧
      claim.operation.authorizationId ≠ authority.authorizationId

/-- A call of the recovery restores no other operation than the claimed one. -/
def RestoresOwn (env : ClockEnv) (authority : RecoveryAuthority) (s : Takeover) : Prop :=
  ∀ answer device s', TakeoverStep env authority s (.own answer device) s' →
    ∀ k row, s'.journal.row k = some row → row.state = .restored →
      s.journal.row k = some row ∨ ∃ claim ∈ s.claim, claim.operation.operationId = k

/-- A recovery that raises now leaves its operation to be reconciled, or claimed when the update
that says so failed or the claim itself raised. -/
def LeavesOpen (env : ClockEnv) (authority : RecoveryAuthority) (s : Takeover) : Prop :=
  ∀ answer device s', TakeoverStep env authority s (.own answer device) s' → s.raised = false →
    s'.raised = true → ∀ claim ∈ s'.claim, ∃ row,
      s'.journal.row claim.operation.operationId = some row ∧
        (row.state = .reconciliationRequired ∨
          row.state = .recoveryClaimed ∧ (s'.journal = s.journal ∨ s.claim = none))

/-- What a recovery settles, and what it leaves. -/
structure Settles (env : ClockEnv) (authority : RecoveryAuthority) (s : Takeover) : Prop where
  verified : Verified env authority s
  restores : RestoresOwn env authority s
  leaves : LeavesOpen env authority s

/-! ## What a recovery knows -/

/-- The phases before the claim. -/
def RecoveryPhase.early : RecoveryPhase → Bool
  | .new | .readPending | .observePending _ | .ownPending _ | .claim _ => true
  | _ => false

/-- The policy that the recovery has compared with a device and not yet claimed. -/
def RecoveryPhase.comparedOriginal : RecoveryPhase → Option DefaultAutoBaseline
  | .ownPending original | .claim original => some original
  | _ => none

/-- The recovery has read an operation with a policy, and no other operation of the resource can
be unresolved. -/
def Reads (authority : RecoveryAuthority) (s : Takeover) (original : DefaultAutoBaseline) : Prop :=
  ∃ read ∈ s.read, read.original = original ∧
    read.authorizationId ≠ authority.authorizationId ∧
    (∃ state, s.journal.row read.operationId = some (setState state read)) ∧
    ∀ k row, s.journal.row k = some row → row.resourceId = resource → row.state ≠ .restored →
      k = read.operationId

/-- The attempt of a claim is open. -/
def OpenClaim (journal : ClockJournal) (claim : TakenOver) : Prop :=
  ∃ attempt, journal.attempts.find? claim.attemptId = some attempt ∧ attempt.state = .claimed ∧
    attempt.operationId = claim.operation.operationId

/-- What holds in every state that meets the condition. -/
structure TakeoverInv (env : ClockEnv) (authority : RecoveryAuthority) (s : Takeover) : Prop where
  sound : s.journal.Sound
  reading : ∀ original ∈ s.phase.pending, Reads authority s original
  comparing : ∀ original ∈ s.phase.comparedOriginal, ∃ device ∈ s.compared,
    Sees env device original
  verified : Verified env authority s
  unclaimed : s.phase.early = true → s.claim = none
  holding : ∀ claimed ∈ s.phase.attempt, ∃ claim ∈ s.claim,
    claim.attemptId = claimed.attemptId ∧ OpenClaim s.journal claim

section Knowledge

variable {env : ClockEnv} {authority : RecoveryAuthority} {s s' : Takeover}
variable {journal journal' : ClockJournal}

/-- The operation of an open claim is claimed. -/
theorem OpenClaim.row (sound : journal.Sound) {claim : TakenOver}
    (isOpen : OpenClaim journal claim) : ∃ row,
      journal.row claim.operation.operationId = some row ∧ row.state = .recoveryClaimed := by
  obtain ⟨attempt, found, claimed, same⟩ := isOpen
  obtain ⟨row, here, state⟩ := sound.claim _ attempt found claimed
  exact ⟨row, same ▸ here, state⟩

/-- Steps that leave the journal and the history alone keep what the recovery knows. -/
theorem TakeoverInv.quiet (inv : TakeoverInv env authority s) (journal : s'.journal = s.journal)
    (read : s'.read = s.read) (compared : s'.compared = s.compared) (claim : s'.claim = s.claim)
    (pending : ∀ original ∈ s'.phase.pending, original ∈ s.phase.pending)
    (comparing : ∀ original ∈ s'.phase.comparedOriginal, original ∈ s.phase.comparedOriginal)
    (early : s'.phase.early = true → s.phase.early = true)
    (attempt : ∀ claimed ∈ s'.phase.attempt, claimed ∈ s.phase.attempt) :
    TakeoverInv env authority s' where
  sound := journal ▸ inv.sound
  reading original member := by
    unfold Reads
    rw [journal, read]
    exact inv.reading original (pending original member)
  comparing original member := by
    rw [compared]
    exact inv.comparing original (comparing original member)
  verified := by
    unfold Verified
    rw [claim, read, compared]
    exact inv.verified
  unclaimed isEarly := claim.trans (inv.unclaimed (early isEarly))
  holding claimed member := by
    rw [claim, journal]
    exact inv.holding claimed (attempt claimed member)

/-! ## Transactions of others -/

theorem eq_ok_of_toOption {α : Type} {call : Except String α} {value : α}
    (ok : call.toOption = some value) : call = .ok value := by
  cases call with
  | error message => cases ok
  | ok found =>
      cases ok
      rfl

/-- One operation that is not restored goes on. -/
def Moves (journal journal' : ClockJournal) : Prop :=
  ∃ operationId event row, journal.row operationId = some row ∧ row.state ≠ .restored ∧
    ∀ k, journal'.row k = (journal.enter operationId event).row k

theorem Moves.transition {operationId : String} {expected state : OperationState}
    (ok : Clock.transition operationId expected state journal = .ok journal') :
    Moves journal journal' := by
  obtain ⟨isAllowed, row, found, same, rfl⟩ := transition_spec ok
  refine ⟨operationId, _, row, found, ?_, fun _ => rfl⟩
  intro restored
  rw [← same, restored] at isAllowed
  cases isAllowed

theorem Moves.claimRecovery {blank : String → Bool} {attemptId resourceId authorizationId : String}
    {fencingToken : Int} {row : ClockOperation DefaultAutoBaseline}
    (ok : Clock.claimRecovery blank attemptId resourceId authorizationId fencingToken journal =
      .ok (journal', row)) : Moves journal journal' := by
  obtain ⟨found, -, isRecoverable, -, rows, -, -⟩ := claimRecovery_spec ok
  refine ⟨_, _, row, found, ?_, rows⟩
  intro restored
  rw [restored] at isRecoverable
  revert isRecoverable
  decide

theorem Moves.finishRecovery {attemptId : String} {restored : Bool}
    (ok : Clock.finishRecovery attemptId restored journal = .ok journal') :
    Moves journal journal' := by
  obtain ⟨attempt, row, -, -, found, state, rows, -, -⟩ := finishRecovery_spec ok
  refine ⟨_, _, row, found, ?_, rows⟩
  rw [state]
  decide

/-- What the recovery has read stays the only operation that can be unresolved. -/
theorem Reads.moves {original : DefaultAutoBaseline} (reads : Reads authority s original)
    (moves : Moves s.journal journal') :
    Reads authority { s with journal := journal' } original := by
  obtain ⟨read, known, same, other, ⟨state, here⟩, only⟩ := reads
  obtain ⟨operationId, event, row, found, open_, rows⟩ := moves
  refine ⟨read, known, same, other, ?_, ?_⟩
  · change ∃ state, journal'.row read.operationId = some (setState state read)
    rw [rows, row_enter found]
    by_cases own : read.operationId = operationId
    · rw [own, found, Option.some.injEq] at here
      rw [if_pos own, here]
      exact ⟨event.operationState, rfl⟩
    · rw [if_neg own]
      exact ⟨state, here⟩
  · intro k row' there resource' open'
    change journal'.row k = some row' at there
    rw [rows, row_enter found] at there
    by_cases own : k = operationId
    · rw [if_pos own, Option.some.injEq] at there
      rw [own]
      refine only operationId row found ?_ open_
      rw [← there] at resource'
      exact resource'
    · rw [if_neg own] at there
      exact only k row' there resource' open'

/-- Others keep what the recovery knows. -/
theorem TakeoverInv.others (inv : TakeoverInv env authority s) (sound : journal'.Sound)
    (reading : ∀ original ∈ s.phase.pending, Reads authority s original →
      Reads authority { s with journal := journal' } original)
    (attempts : ∀ claim ∈ s.claim, ∀ attempt, s.journal.attempts.find? claim.attemptId =
      some attempt → journal'.attempts.find? claim.attemptId = some attempt) :
    TakeoverInv env authority { s with journal := journal' } where
  sound := sound
  reading original member := reading original member (inv.reading original member)
  comparing := inv.comparing
  verified := inv.verified
  unclaimed := inv.unclaimed
  holding claimed member := by
    obtain ⟨claim, known, same, attempt, found, facts⟩ := inv.holding claimed member
    exact ⟨claim, known, same, attempt, attempts claim known attempt found, facts⟩

/-- **A transaction of another process** that meets the condition keeps what the recovery
knows. -/
theorem TakeoverInv.other (inv : TakeoverInv env authority s) {event : TakeoverEvent}
    (taken : GuardedStep env authority s event s') (foreign : ∀ answer device,
      event ≠ .own answer device) : TakeoverInv env authority s' := by
  obtain ⟨taken, guarded⟩ := taken
  cases event with
  | own answer device => exact absurd rfl (foreign answer device)
  | begin operationId resourceId authorizationId original =>
      obtain ⟨journal', ok, rfl⟩ := Option.map_eq_some_iff.mp taken
      have begun := eq_ok_of_toOption ok
      obtain ⟨absent, -, rows, -, attempts⟩ := begin_spec begun
      refine inv.others (inv.sound.begin begun) ?_ fun claim _ attempt found => by
        rw [attempts, found]
      intro original' member reads
      have elsewhere : resourceId ≠ resource := guarded (Option.isSome_of_mem member)
      obtain ⟨read, known, same, other, ⟨state, here⟩, only⟩ := reads
      refine ⟨read, known, same, other, ⟨state, ?_⟩, ?_⟩
      · change journal'.row read.operationId = _
        rw [rows, if_neg, here]
        intro own
        rw [own, absent] at here
        cases here
      · intro k row there resource' open_
        change journal'.row k = some row at there
        rw [rows] at there
        by_cases own : k = operationId
        · rw [if_pos own, Option.some.injEq] at there
          rw [← there] at resource'
          exact absurd resource' elsewhere
        · rw [if_neg own] at there
          exact only k row there resource' open_
  | transition operationId expected state =>
      obtain ⟨journal', ok, rfl⟩ := Option.map_eq_some_iff.mp taken
      have moved := eq_ok_of_toOption ok
      obtain ⟨-, -, -, -, rfl⟩ := transition_spec moved
      exact inv.others (inv.sound.transition moved)
        (fun _ _ reads => reads.moves (.transition moved)) fun _ _ _ found => found
  | claimRecovery attemptId resourceId authorizationId fencingToken =>
      obtain ⟨⟨journal', row⟩, ok, rfl⟩ := Option.map_eq_some_iff.mp taken
      have claimed := eq_ok_of_toOption ok
      obtain ⟨-, -, -, absent, -, -, attempts⟩ := claimRecovery_spec claimed
      refine inv.others (inv.sound.claimRecovery claimed)
        (fun _ _ reads => reads.moves (.claimRecovery claimed)) ?_
      intro claim _ attempt found
      rw [attempts, if_neg, found]
      intro own
      rw [own, absent] at found
      cases found
  | finishRecovery attemptId restored =>
      unfold TakeoverStep takeover at taken
      dsimp only at taken
      split at taken
      · cases taken
      · rename_i apart
        obtain ⟨journal', ok, rfl⟩ := Option.map_eq_some_iff.mp taken
        have finished := eq_ok_of_toOption ok
        obtain ⟨_, _, -, -, -, -, -, -, attempts⟩ := finishRecovery_spec finished
        refine inv.others (inv.sound.finishRecovery finished)
          (fun _ _ reads => reads.moves (.finishRecovery finished)) ?_
        intro claim known attempt found
        rw [attempts, if_neg, found]
        exact fun own => apart ⟨claim, known, own⟩

/-! ## Calls of the recovery -/

/-- A call of the recovery is a call of its phase. -/
theorem own_step {answer : Answer} {device : DevicePolicy}
    (taken : TakeoverStep env authority s (.own answer device) s') : ∃ device' journal' phase',
      perform true s.phase.fail answer device s.journal
          (recoveryCall env authority answer.fresh s.phase) = some (device', journal', phase') ∧
        s' = s.after answer device journal' phase' := by
  obtain ⟨⟨device', journal', phase'⟩, done, same⟩ := Option.map_eq_some_iff.mp taken
  exact ⟨device', journal', phase', done, same.symm⟩

/-- A claim is open right after its transaction. -/
theorem openClaim_of_claimRecovery {blank : String → Bool} {attemptId : String}
    {fencingToken : Int} {authorizationId : String} {row : ClockOperation DefaultAutoBaseline}
    (ok : Clock.claimRecovery blank attemptId resource authorizationId fencingToken journal =
      .ok (journal', row)) : addedClaim journal journal' attemptId = some ⟨row, attemptId⟩ ∧
      OpenClaim journal' ⟨row, attemptId⟩ := by
  obtain ⟨found, -, -, absent, -, -, attempts⟩ := claimRecovery_spec ok
  have added := attempts attemptId
  rw [if_pos rfl] at added
  refine ⟨?_, _, added, rfl, rfl⟩
  rw [addedClaim, absent, added]
  simp [found]

/-- **The claim takes over what was compared.** The unresolved operation of the resource is the
one that the recovery has read. -/
theorem TakeoverInv.verified_claim (inv : TakeoverInv env authority s)
    {original : DefaultAutoBaseline} (phase : s.phase = .claim original) {attemptId : String}
    {row : ClockOperation DefaultAutoBaseline}
    (ok : Clock.claimRecovery env.blank attemptId resource authority.authorizationId
      authority.fencingToken s.journal = .ok (journal', row)) :
    ∃ read ∈ s.read, ∃ device ∈ s.compared, row.operationId = read.operationId ∧
      row.original = read.original ∧ Sees env device row.original ∧
      row.authorizationId ≠ authority.authorizationId := by
  obtain ⟨found, same, isRecoverable, -, -, -, -⟩ := claimRecovery_spec ok
  obtain ⟨read, known, readOriginal, other, ⟨state, here⟩, only⟩ :=
    inv.reading original (by rw [phase]; rfl)
  obtain ⟨device, compared, sees⟩ := inv.comparing original (by rw [phase]; rfl)
  have open_ : row.state ≠ .restored := by
    intro restored
    rw [restored] at isRecoverable
    revert isRecoverable
    decide
  have own := only row.operationId row found same open_
  rw [own, here, Option.some.injEq] at found
  refine ⟨read, known, device, compared, own, ?_, ?_, ?_⟩
  · rw [← found]
    rfl
  · rw [← found]
    change Sees env device read.original
    rw [readOriginal]
    exact sees
  · rw [← found]
    exact other

/-- A call that leaves the journal and the history alone. -/
structure Quiet (s s' : Takeover) : Prop where
  journal : s'.journal = s.journal
  read : s'.read = s.read
  compared : s'.compared = s.compared
  claim : s'.claim = s.claim
  pending : ∀ original ∈ s'.phase.pending, original ∈ s.phase.pending
  comparing : ∀ original ∈ s'.phase.comparedOriginal, original ∈ s.phase.comparedOriginal
  early : s'.phase.early = true → s.phase.early = true
  attempt : ∀ claimed ∈ s'.phase.attempt, claimed ∈ s.phase.attempt
  raised : s.raised = false → s'.raised = true → s.phase.early = true ∨
    ∃ claimed, s.phase = .finishFailed claimed

/-- **What a call of the recovery does**: it reads, compares, claims or finishes, or leaves the
journal and the history alone. -/
inductive OwnCase (env : ClockEnv) (authority : RecoveryAuthority) (s : Takeover) (answer : Answer)
    (device : DevicePolicy) : Takeover → Prop
  | quiet {s' : Takeover} (quiet : Quiet s s') : OwnCase env authority s answer device s'
  | read (pending : ClockOperation DefaultAutoBaseline) (phase : s.phase = .readPending)
      (only : s.journal.unresolved resource = [pending])
      (other : pending.authorizationId ≠ authority.authorizationId) :
      OwnCase env authority s answer device
        (s.after answer device s.journal (.observePending pending.original))
  | compare (original : DefaultAutoBaseline) (phase : s.phase = .observePending original)
      (sees : Sees env device original) :
      OwnCase env authority s answer device
        (s.after answer device s.journal (.ownPending original))
  | claim (original : DefaultAutoBaseline) (row : ClockOperation DefaultAutoBaseline)
      (journal' : ClockJournal) (phase' : RecoveryPhase) (phase : s.phase = .claim original)
      (ok : Clock.claimRecovery env.blank answer.fresh resource authority.authorizationId
        authority.fencingToken s.journal = .ok (journal', row))
      (goes : phase' = .ownClaimed ⟨original, answer.fresh, row.operationId⟩ ∨ phase' = .closed) :
      OwnCase env authority s answer device (s.after answer device journal' phase')
  | finish (claimed : Claimed) (restored : Bool) (journal' : ClockJournal)
      (phase' : RecoveryPhase)
      (phase : s.phase = if restored then .finishRestored claimed else .finishFailed claimed)
      (ok : Clock.finishRecovery claimed.attemptId restored s.journal = .ok journal')
      (goes : phase' = .closed ∨ restored = true ∧ answer.outcome = .interrupted) :
      OwnCase env authority s answer device (s.after answer device journal' phase')

/-- A transaction that does not raise after its commit goes on. -/
theorem goes_on {Phase : Type} {fail : Phase} {answer : Answer} {device device' : DevicePolicy}
    {journal journal' : ClockJournal} {phase : Phase}
    {run : ClockJournal → Except String (ClockJournal × Phase)}
    (taken : perform true fail answer device journal (.transact run) =
      some (device', journal', phase)) :
    (journal' = journal ∧ phase = fail) ∨ ∃ next, run journal = .ok (journal', next) ∧
      (phase = next ∨ answer.outcome = .interrupted ∧ phase = fail) := by
  simp only [perform] at taken
  split at taken
  · rename_i ok
    cases taken
    exact .inr ⟨_, ok, .inl rfl⟩
  · rename_i interrupted ok
    cases taken
    exact .inr ⟨_, ok, .inr ⟨interrupted, rfl⟩⟩
  · cases taken
    exact .inl ⟨rfl, rfl⟩

/-- A call that goes on with what the phase knows leaves the history alone. -/
theorem Quiet.after {answer : Answer} {device : DevicePolicy} {phase' : RecoveryPhase}
    (pending : ∀ original ∈ phase'.pending, original ∈ s.phase.pending)
    (comparing : ∀ original ∈ phase'.comparedOriginal, original ∈ s.phase.comparedOriginal)
    (early : phase'.early = true → s.phase.early = true)
    (attempt : ∀ claimed ∈ phase'.attempt, claimed ∈ s.phase.attempt)
    (unread : ∀ original, phase' ≠ .observePending original)
    (uncompared : ∀ original, phase' ≠ .ownPending original)
    (ends : phase' = .closed → s.phase.early = true ∨ ∃ claimed, s.phase = .finishFailed claimed)
    (unclaimed : s.phase.early = true → s.claim = none) :
    Quiet s (s.after answer device s.journal phase') where
  journal := rfl
  read := by
    cases phase' with
    | observePending original => exact absurd rfl (unread original)
    | _ => rfl
  compared := by
    cases phase' with
    | ownPending original => exact absurd rfl (uncompared original)
    | _ => rfl
  claim := by
    have noClaim : addedClaim s.journal s.journal answer.fresh = none := by
      unfold addedClaim
      cases s.journal.attempts.find? answer.fresh <;> rfl
    unfold Takeover.after
    dsimp only
    split
    · rename_i original phase
      rw [noClaim, unclaimed (by rw [phase]; rfl)]
    · rfl
  pending := pending
  comparing := comparing
  early := early
  attempt := attempt
  raised isFalse isTrue := by
    refine ends ?_
    unfold Takeover.after at isTrue
    dsimp only at isTrue
    split at isTrue
    · rw [isFalse] at isTrue
      cases isTrue
    · rfl
    · rw [isFalse] at isTrue
      cases isTrue

/-- A call that raises leaves the history alone. -/
theorem Quiet.failed {answer : Answer} {device : DevicePolicy} (runs : s.phase ≠ .closed)
    (unclaimed : s.phase.early = true → s.claim = none) :
    Quiet s (s.after answer device s.journal s.phase.fail) := by
  refine .after ?_ ?_ ?_ ?_ ?_ ?_ ?_ unclaimed
  all_goals
    cases phase : s.phase <;> simp [RecoveryPhase.fail, RecoveryPhase.pending,
      RecoveryPhase.comparedOriginal, RecoveryPhase.early, RecoveryPhase.attempt,
      RecoveryPhase.claimed]
  exact runs phase

theorem own_cases {answer : Answer} {device : DevicePolicy}
    (unclaimed : s.phase.early = true → s.claim = none)
    (taken : TakeoverStep env authority s (.own answer device) s') :
    OwnCase env authority s answer device s' := by
  obtain ⟨device', journal', phase', done, rfl⟩ := own_step taken
  -- what goes on with the claim of the phase, or with nothing
  have onward : ∀ next : RecoveryPhase, next.early = false → next ≠ .closed →
      (∀ claimed ∈ next.attempt, claimed ∈ s.phase.attempt) →
      Quiet s (s.after answer device s.journal next) := by
    intro next late open_ attempt
    refine .after ?_ ?_ ?_ attempt ?_ ?_ (fun ended => absurd ended open_) unclaimed <;>
      cases next <;> simp_all [RecoveryPhase.early, RecoveryPhase.pending,
        RecoveryPhase.comparedOriginal]
  have failed : s.phase ≠ .closed → OwnCase env authority s answer device
      (s.after answer device s.journal s.phase.fail) :=
    fun runs => .quiet (.failed runs unclaimed)
  cases phase : s.phase with
  | closed =>
      rw [phase] at done
      cases done
  | readPending =>
      rw [phase] at done failed
      rcases goes_on done with ⟨rfl, rfl⟩ | ⟨next, ok, goes⟩
      · exact failed (by simp)
      · split at ok
        · rename_i pending only
          obtain ⟨_, other, ok⟩ := Except.bind_eq_ok.mp ok
          obtain ⟨original, within, ok⟩ := Except.bind_eq_ok.mp ok
          obtain ⟨_, -, same⟩ := Except.bind_eq_ok.mp within
          cases same
          cases ok
          rcases goes with rfl | ⟨-, rfl⟩
          · exact .read pending phase only (require_eq_ok.mp other)
          · exact failed (by simp)
        · cases ok
  | observePending original =>
      rw [phase] at done failed
      cases done_of_perform done with
      | failed => exact failed (by simp)
      | observed check current next same seen =>
          cases same
          obtain ⟨_, -, seen⟩ := Option.bind_eq_some_iff.mp seen
          obtain ⟨_, saw, seen⟩ := Option.bind_eq_some_iff.mp seen
          cases seen
          exact .compare original phase (.of_observes saw)
      | owned _ same => cases same
      | committed _ _ _ same => cases same
      | wrote _ _ same => cases same
      | proceeded _ same => cases same
  | claim original =>
      rw [phase] at done failed
      rcases goes_on done with ⟨rfl, rfl⟩ | ⟨next, ok, goes⟩
      · exact failed (by simp)
      · obtain ⟨⟨claimed', row⟩, claimed, same⟩ := Except.bind_eq_ok.mp ok
        cases same
        exact .claim original row _ _ phase claimed (goes.imp id fun closed => closed.2)
  | finishRestored claimed =>
      rw [phase] at done failed
      rcases goes_on done with ⟨rfl, rfl⟩ | ⟨next, ok, goes⟩
      · exact failed (by simp)
      · obtain ⟨_, finished, same⟩ := Except.bind_eq_ok.mp ok
        cases same
        exact .finish claimed true _ _ phase finished (goes.imp id fun raised => ⟨rfl, raised.1⟩)
  | finishFailed claimed =>
      rw [phase] at done failed
      rcases goes_on done with ⟨rfl, rfl⟩ | ⟨next, ok, goes⟩
      · exact failed (by simp)
      · obtain ⟨_, finished, same⟩ := Except.bind_eq_ok.mp ok
        cases same
        exact .finish claimed false _ _ phase finished (.inl (goes.elim id fun raised => raised.2))
  | observeClaimed claimed =>
      rw [phase] at done failed
      cases done_of_perform done with
      | failed => exact failed (by simp)
      | observed check current next same seen =>
          cases same
          obtain ⟨_, -, seen⟩ := Option.bind_eq_some_iff.mp seen
          cases seen
          split <;> exact .quiet (onward _ rfl (by simp) (by simp [phase, RecoveryPhase.attempt,
            RecoveryPhase.claimed]))
      | owned _ same => cases same
      | committed _ _ _ same => cases same
      | wrote _ _ same => cases same
      | proceeded _ same => cases same
  | verify claimed =>
      rw [phase] at done failed
      cases done_of_perform done with
      | failed => exact failed (by simp)
      | observed check current next same seen =>
          cases same
          obtain ⟨_, -, rfl⟩ := Option.map_eq_some_iff.mp seen
          exact .quiet (onward _ rfl (by simp) (by simp [phase, RecoveryPhase.attempt,
            RecoveryPhase.claimed]))
      | owned _ same => cases same
      | committed _ _ _ same => cases same
      | wrote _ _ same => cases same
      | proceeded _ same => cases same
  | restore claimed =>
      rw [phase] at done failed
      cases done_of_perform done with
      | failed => exact failed (by simp)
      | wrote next after same owner next' goes =>
          cases same
          rcases goes with rfl | rfl
          · exact .quiet (onward _ rfl (by simp) (by simp [phase, RecoveryPhase.attempt,
              RecoveryPhase.claimed]))
          · exact failed (by simp)
      | observed _ _ _ same => cases same
      | owned _ same => cases same
      | committed _ _ _ same => cases same
      | proceeded _ same => cases same
  | new | ownPending | ownClaimed | ownRestored | ownVerified =>
      rw [phase] at done failed
      cases done_of_perform done with
      | failed => exact failed (by simp)
      | owned next same =>
          refine .quiet ?_
          cases same
          refine .after ?_ ?_ ?_ ?_ ?_ ?_ ?_ unclaimed <;>
            simp [phase, RecoveryPhase.pending, RecoveryPhase.comparedOriginal,
              RecoveryPhase.early, RecoveryPhase.attempt, RecoveryPhase.claimed]
      | observed _ _ _ same => cases same
      | committed _ _ _ same => cases same
      | wrote _ _ same => cases same
      | proceeded _ same => cases same

/-! ## Every run -/

section Histories

variable {answer : Answer} {device : DevicePolicy} {phase' : RecoveryPhase}

theorem after_read (unread : ∀ original, phase' ≠ .observePending original) :
    (s.after answer device journal phase').read = s.read := by
  cases phase' with
  | observePending original => exact absurd rfl (unread original)
  | _ => rfl

theorem after_compared (uncompared : ∀ original, phase' ≠ .ownPending original) :
    (s.after answer device journal phase').compared = s.compared := by
  cases phase' with
  | ownPending original => exact absurd rfl (uncompared original)
  | _ => rfl

theorem after_claim (unclaimed : ∀ original, s.phase ≠ .claim original) :
    (s.after answer device journal phase').claim = s.claim := by
  unfold Takeover.after
  dsimp only
  split
  · rename_i original phase
    exact absurd phase (unclaimed original)
  · rfl

theorem after_claimed {original : DefaultAutoBaseline} (phase : s.phase = .claim original) :
    (s.after answer device journal phase').claim = addedClaim s.journal journal answer.fresh := by
  unfold Takeover.after
  rw [phase]

/-- A recovery raises where it ends, unless it has marked its operation restored. -/
theorem raised_now (isFalse : s.raised = false)
    (isTrue : (s.after answer device journal phase').raised = true) :
    phase' = .closed ∧ ∀ claimed, s.phase ≠ .finishRestored claimed := by
  unfold Takeover.after at isTrue
  dsimp only at isTrue
  split at isTrue
  · rw [isFalse] at isTrue
    cases isTrue
  · rename_i other
    exact ⟨rfl, other⟩
  · rw [isFalse] at isTrue
    cases isTrue

end Histories

/-- **A call of the recovery** that meets the condition keeps what it knows. -/
theorem TakeoverInv.own (inv : TakeoverInv env authority s) {answer : Answer}
    {device : DevicePolicy} (taken : GuardedStep env authority s (.own answer device) s') :
    TakeoverInv env authority s' := by
  obtain ⟨taken, guarded⟩ := taken
  cases own_cases inv.unclaimed taken with
  | quiet quiet =>
      exact inv.quiet quiet.journal quiet.read quiet.compared quiet.claim quiet.pending
        quiet.comparing quiet.early quiet.attempt
  | read pending phase only other =>
      have unclaimed : (s.after answer device s.journal
          (.observePending pending.original)).claim = none := by
        rw [after_claim (by rw [phase]; simp)]
        exact inv.unclaimed (by rw [phase]; rfl)
      refine ⟨inv.sound, ?_, ?_, ?_, fun _ => unclaimed, ?_⟩
      · rintro _ ⟨⟩
        have listed : pending ∈ s.journal.unresolved resource := by
          rw [only]
          exact List.mem_cons_self
        refine ⟨pending, ?_, rfl, other, ⟨pending.state, (mem_unresolved.mp listed).1⟩, ?_⟩
        · change (s.journal.unresolved resource).head? = some pending
          rw [only]
          rfl
        · intro k row there same open_
          have own : row ∈ s.journal.unresolved resource :=
            mem_unresolved.mpr ⟨(row_key there).symm ▸ there, same, open_⟩
          rw [only, List.mem_singleton] at own
          rw [← own, row_key there]
      · rintro _ ⟨⟩
      · intro claim member
        rw [unclaimed] at member
        cases member
      · rintro _ ⟨⟩
  | compare original phase sees =>
      have unclaimed : (s.after answer device s.journal (.ownPending original)).claim = none := by
        rw [after_claim (by rw [phase]; simp)]
        exact inv.unclaimed (by rw [phase]; rfl)
      refine ⟨inv.sound, ?_, ?_, ?_, fun _ => unclaimed, ?_⟩
      · rintro _ ⟨⟩
        exact inv.reading original (by rw [phase]; rfl)
      · rintro _ ⟨⟩
        exact ⟨device, rfl, sees⟩
      · intro claim member
        rw [unclaimed] at member
        cases member
      · rintro _ ⟨⟩
  | claim original row journal' phase' phase ok goes =>
      obtain ⟨added, isOpen⟩ := openClaim_of_claimRecovery ok
      have claimed : (s.after answer device journal' phase').claim = some ⟨row, answer.fresh⟩ :=
        (after_claimed phase).trans added
      have ends : phase'.early = false ∧ phase'.pending = none ∧
          phase'.comparedOriginal = none := by
        rcases goes with rfl | rfl <;> exact ⟨rfl, rfl, rfl⟩
      refine ⟨inv.sound.claimRecovery ok, ?_, ?_, ?_, ?_, ?_⟩
      · intro original' member
        change original' ∈ phase'.pending at member
        rw [ends.2.1] at member
        cases member
      · intro original' member
        change original' ∈ phase'.comparedOriginal at member
        rw [ends.2.2] at member
        cases member
      · intro claim member
        rw [claimed] at member
        cases member
        rw [after_read (by rcases goes with rfl | rfl <;> simp),
          after_compared (by rcases goes with rfl | rfl <;> simp)]
        exact inv.verified_claim phase ok
      · intro isEarly
        change phase'.early = true at isEarly
        rw [ends.1] at isEarly
        cases isEarly
      · intro attempt member
        rw [claimed]
        rcases goes with rfl | rfl
        · cases member
          exact ⟨_, rfl, rfl, isOpen⟩
        · cases member
  | finish claimed restored journal' phase' phase ok goes =>
      have closed : phase' = .closed := by
        rcases goes with rfl | ⟨rfl, interrupted⟩
        · rfl
        · exact absurd interrupted (guarded claimed phase)
      subst closed
      refine ⟨inv.sound.finishRecovery ok, ?_, ?_, ?_, ?_, ?_⟩
      · rintro _ ⟨⟩
      · rintro _ ⟨⟩
      · intro claim member
        rw [after_claim (by rw [phase]; cases restored <;> simp)] at member
        exact inv.verified claim member
      · rintro ⟨⟩
      · rintro _ ⟨⟩

/-- **Every step** that meets the condition keeps what the recovery knows. -/
theorem TakeoverInv.step (inv : TakeoverInv env authority s) {event : TakeoverEvent}
    (taken : GuardedStep env authority s event s') : TakeoverInv env authority s' := by
  cases event with
  | own answer device => exact inv.own taken
  | _ => exact inv.other taken fun _ _ => by simp

/-- A recovery that has not read anything knows nothing yet. -/
theorem TakeoverInv.start (sound : journal.Sound) : TakeoverInv env authority { journal } where
  sound := sound
  reading := by rintro _ ⟨⟩
  comparing := by rintro _ ⟨⟩
  verified := by rintro _ ⟨⟩
  unclaimed _ := rfl
  holding := by rintro _ ⟨⟩

/-- Only the transaction that marks the claimed operation restored restores one. -/
theorem TakeoverInv.restores (inv : TakeoverInv env authority s) : RestoresOwn env authority s := by
  intro answer device s' taken k row there restored
  cases own_cases inv.unclaimed taken with
  | quiet quiet =>
      rw [quiet.journal] at there
      exact .inl there
  | read | compare => exact .inl there
  | claim original operation journal' phase' phase ok goes =>
      obtain ⟨found, -, -, -, rows, -, -⟩ := claimRecovery_spec ok
      change journal'.row k = some row at there
      rw [rows, row_enter found] at there
      split at there
      · cases there
        cases restored
      · exact .inl there
  | finish claimed restored' journal' phase' phase ok goes =>
      obtain ⟨attempt, operation, listed, -, found, -, rows, -, -⟩ := finishRecovery_spec ok
      obtain ⟨claim, known, same, attempt', listed', -, own⟩ :=
        inv.holding claimed (by rw [phase]; cases restored' <;> rfl)
      rw [same, listed, Option.some.injEq] at listed'
      change journal'.row k = some row at there
      rw [rows, row_enter found] at there
      by_cases here : k = attempt.operationId
      · exact .inr ⟨claim, known, by rw [here, listed', own]⟩
      · rw [if_neg here] at there
        exact .inl there

/-- A recovery that raises after its claim leaves the operation open. -/
theorem TakeoverInv.leaves (inv : TakeoverInv env authority s) : LeavesOpen env authority s := by
  intro answer device s' taken isFalse isTrue claim member
  cases own_cases inv.unclaimed taken with
  | quiet quiet =>
      rw [quiet.claim] at member
      rw [quiet.journal]
      rcases quiet.raised isFalse isTrue with early | ⟨claimed, phase⟩
      · rw [inv.unclaimed early] at member
        cases member
      · -- the update that says so has failed
        obtain ⟨own, known, -, isOpen⟩ := inv.holding claimed (by rw [phase]; rfl)
        cases Option.mem_unique known member
        obtain ⟨row, here, state⟩ := isOpen.row inv.sound
        exact ⟨row, here, .inr ⟨state, .inl rfl⟩⟩
  | read | compare => cases (raised_now isFalse isTrue).1
  | claim original operation journal' phase' phase ok goes =>
      obtain ⟨added, isOpen⟩ := openClaim_of_claimRecovery ok
      rw [after_claimed phase, added] at member
      cases member
      obtain ⟨row, here, state⟩ := isOpen.row (inv.sound.claimRecovery ok)
      exact ⟨row, here, .inr ⟨state, .inr (inv.unclaimed (by rw [phase]; rfl))⟩⟩
  | finish claimed restored journal' phase' phase ok goes =>
      obtain ⟨-, unrestored⟩ := raised_now isFalse isTrue
      cases restored with
      | true => exact absurd phase (unrestored claimed)
      | false =>
          obtain ⟨attempt, operation, listed, -, found, -, rows, -, -⟩ := finishRecovery_spec ok
          obtain ⟨own, known, same, attempt', listed', -, owned⟩ :=
            inv.holding claimed (by rw [phase]; rfl)
          rw [same, listed, Option.some.injEq] at listed'
          rw [after_claim (by rw [phase]; simp)] at member
          cases Option.mem_unique known member
          refine ⟨setState .reconciliationRequired operation, ?_, .inl rfl⟩
          change journal'.row claim.operation.operationId = _
          rw [rows, row_enter found, if_pos (by rw [listed', owned])]
          rfl

/-- **What a recovery settles.** In every run in which no operation begins on the resource
between the read of the recovery and its claim, and the transaction that marks the operation
restored does not raise after its commit, the recovery claims the operation it has compared,
restores no other one, and leaves a claimed operation open when it raises. -/
theorem recovery_settles (sound : journal.Sound) {trace : List TakeoverEvent}
    (run : Steps (GuardedStep env authority) { journal } trace s) : Settles env authority s := by
  have inv : TakeoverInv env authority s :=
    run.invariant (fun _ _ _ inv taken => TakeoverInv.step inv taken) (.start sound)
  exact ⟨inv.verified, inv.restores, inv.leaves⟩

end Knowledge

/-! ## Two recoveries -/

theorem finishing_iff {phase : RecoveryPhase} :
    (phase matches .finishRestored _) = true ↔ ∃ claimed, phase = .finishRestored claimed := by
  cases phase <;> simp

instance instDecidableGuarded (s : Takeover) (event : TakeoverEvent) :
    Decidable (Guarded s event) :=
  match event with
  | .begin _ resourceId _ _ =>
      inferInstanceAs (Decidable (s.phase.reading = true → resourceId ≠ resource))
  | .own answer _ =>
      decidable_of_iff
        ((s.phase matches .finishRestored _) = true → answer.outcome ≠ .interrupted)
        ((imp_congr_left finishing_iff).trans exists_imp)
  | .transition .. | .claimRecovery .. | .finishRecovery .. => isTrue trivial

/-- One event that meets the condition. -/
def guardedTakeover (env : ClockEnv) (authority : RecoveryAuthority) (s : Takeover)
    (event : TakeoverEvent) : Option Takeover :=
  if Guarded s event then takeover env authority s event else none

/-- The events that meet the condition, one after the other, are a run. -/
theorem steps_of_guardedTakeover {env : ClockEnv} {authority : RecoveryAuthority}
    {trace : List TakeoverEvent} {s s' : Takeover}
    (ran : trace.foldlM (guardedTakeover env authority) s = some s') :
    Steps (GuardedStep env authority) s trace s' := by
  refine (Steps.of_foldlM ran).mono fun t event t' taken => ?_
  unfold guardedTakeover at taken
  split at taken
  · rename_i guarded
    exact ⟨taken, guarded⟩
  · cases taken

/-- A call of the recovery that succeeds. -/
def ownCall (mode : String) : TakeoverEvent :=
  .own ⟨.ok, "attempt", 1, bw20Device "auto"⟩ (bw20Device mode)

/-- The policy of the device. -/
def bw20Original : DefaultAutoBaseline where
  host := "github-bw20"
  pci := "0000:b1:00.0"
  bootId := "0a1b2c3d-4e5f-4607-8899-aabbccddeeff"
  driverHeaderSha256 :=
    "sha256:9f86d081884c7d659a2feaa0c55ad015a3bf4f1b2b0b822cd15d6c15b0f00a08"
  supportedSclkMhz := [600, 1500]

/-- A recovery of an operation whose session has ended. -/
def undisturbed : List TakeoverEvent :=
  .begin "operation" resource "window" bw20Original ::
    (List.replicate 8 (ownCall "manual") ++ List.replicate 4 (ownCall "auto"))

theorem recovery_settles_undisturbed : ∃ s, s.phase = .closed ∧ s.raised = false ∧
    (∃ claim ∈ s.claim, claim.operation.operationId = "operation") ∧
      Settles bw20Processes.env ⟨"recovery", 1⟩ s := by
  have ran : ∃ s ∈ undisturbed.foldlM (guardedTakeover bw20Processes.env ⟨"recovery", 1⟩)
      { journal := {} }, s.phase = .closed ∧ s.raised = false ∧
        ∃ claim ∈ s.claim, claim.operation.operationId = "operation" := by decide +kernel
  obtain ⟨s, ran, closed, returned, claimed⟩ := ran
  exact ⟨s, closed, returned, claimed,
    recovery_settles Journal.sound_empty (steps_of_guardedTakeover ran)⟩

/-- The operation that was compared is restored by its session and another one begins before the
claim, in a window of the recovery's own authorization. -/
def exchanged : List TakeoverEvent :=
  .begin "operation" resource "window" bw20Original ::
    (List.replicate 4 (ownCall "manual") ++
      [.transition "operation" .mutationPossible .restoring,
        .transition "operation" .restoring .restored,
        .begin "next" resource "recovery" { bw20Original with host := "github-bw21" },
        ownCall "manual"])

/-- **What the claim does not check.** Every call of a recovery succeeds and it claims another
operation than it has compared, under the same authorization. -/
theorem recovery_takes_over_next : ∃ s,
    (∀ answer device, .own answer device ∈ exchanged → answer.outcome = .ok) ∧
      Steps (TakeoverStep bw20Processes.env ⟨"recovery", 1⟩) { journal := {} } exchanged s ∧
      (∃ claim ∈ s.claim, ∃ read ∈ s.read, claim.operation.operationId ≠ read.operationId ∧
        claim.operation.original ≠ read.original ∧
        claim.operation.authorizationId = "recovery") ∧
      ¬Settles bw20Processes.env ⟨"recovery", 1⟩ s := by
  have ran : ∃ s ∈ exchanged.foldlM (takeover bw20Processes.env ⟨"recovery", 1⟩) { journal := {} },
      ∃ claim ∈ s.claim, ∃ read ∈ s.read, claim.operation.operationId ≠ read.operationId ∧
        claim.operation.original ≠ read.original ∧
        claim.operation.authorizationId = "recovery" := by decide +kernel
  obtain ⟨s, ran, claim, claimed, read, known, facts⟩ := ran
  refine ⟨s, ?_, Steps.of_foldlM ran, ⟨claim, claimed, read, known, facts⟩, ?_⟩
  · intro answer device member
    simp only [exchanged, ownCall] at member
    simp at member
    exact congrArg Answer.outcome member.1
  · intro settles
    obtain ⟨read', known', _, -, same, -⟩ := settles.verified claim claimed
    cases Option.mem_unique known known'
    exact facts.1 same

end Clock

end HcuAutoOpt
