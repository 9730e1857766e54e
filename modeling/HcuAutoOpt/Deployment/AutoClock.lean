import HcuAutoOpt.Deployment.ClockJournal
import HcuAutoOpt.Foundation.Runs
import Mathlib.Data.Option.Basic
import Mathlib.Logic.Function.Basic

/-!
# Clock sessions and clock recoveries

A clock session captures the policy of a device, applies a manual clock and restores the
policy; a clock recovery takes over an operation that a session left unresolved. Each is a
sequence of ownership checks, observations and writes of the device, and transactions of the
journal (`Call`), one step each; an ownership check directly before a write is one step with
it. Any step may raise, before or after its effect, and a process may end between any two.

The resource is under one lease, quarantined, or free. Sessions may share a lease; a lease that
has ended is not granted again. A write leaves the device in any policy at all: what it was
meant to do plays no part in what is proved.
-/

set_option autoImplicit false

namespace HcuAutoOpt

namespace Clock

open Foundation

/-! ## Observations -/

/-- `RESOURCE`. -/
def resource : String := "bw20-sglang-0.5.12:hcu:7"

/-- `DefaultAutoBaseline`. -/
structure DefaultAutoBaseline where
  host : String
  pci : String
  bootId : String
  driverHeaderSha256 : String
  supportedSclkMhz : List Nat
  fixedMclkMhz : Nat := 1800
  sclkOverdrive : Nat := 0
  mclkOverdrive : Nat := 0
  gfxBoost : Nat := 0
  restorationScope : String := "confirmed_default_auto_v1"
  deriving DecidableEq, Repr

/-- A frequency table without its active level: the frequencies by level. -/
structure ClockTable where
  supportedMhz : List Nat
  dpmDisabled : Bool
  deriving DecidableEq, Repr

/-- What an observation reads, apart from the instantaneous frequency. The texts of the files
are stripped; a table that does not parse is absent. -/
structure DevicePolicy where
  host : String
  pci : String
  scope : String
  numaNode : String
  bootId : String
  performanceLevel : String
  sclk : Option ClockTable
  mclk : Option ClockTable
  sclkOd : String
  mclkOd : String
  gfxBoost : String
  headerSha256 : Option String
  deriving DecidableEq, Repr

/-- The tests on texts. -/
structure ClockEnv where
  /-- The text is a UUID. -/
  isUuid : String → Bool
  /-- The text is a SHA-256 digest with its prefix. -/
  isDigest : String → Bool
  /-- Nothing is left of the text when it is stripped. -/
  blank : String → Bool

section Observations

variable (env : ClockEnv) (device : DevicePolicy)

/-- `assess_clock_state`: the table of the shader clock and the reasons to reject it. -/
def assessClockState : Option (ClockTable × List String) := do
  guard (device.host = "github-bw20" ∧ device.pci = "0000:b1:00.0" ∧
    device.scope = "readonly_non_atomic_observation" ∧ device.numaNode = "4")
  guard (env.isUuid device.bootId)
  let sclk ← device.sclk
  let mclk ← device.mclk
  let reasons :=
    (if device.performanceLevel ≠ "auto" then ["initial_mode_not_auto"] else []) ++
    (if device.sclkOd ≠ "0" ∨ device.mclkOd ≠ "0" ∨ device.gfxBoost ≠ "0" then
      ["nonzero_or_unknown_overdrive_or_boost"] else []) ++
    (if sclk.supportedMhz.count 1500 ≠ 1 ∨ sclk.dpmDisabled then
      ["required_sclk_level_unavailable"] else []) ++
    (if mclk.supportedMhz ≠ [1800] ∨ mclk.dpmDisabled = false then
      ["memory_clock_not_fixed_1800"] else [])
  return (sclk, reasons)

/-- The baseline of an observation in a mode. -/
def observedBaseline (mode : String) : Option DefaultAutoBaseline := do
  let (sclk, reasons) ← assessClockState env device
  let allowedRejections := if mode = "manual" then ["initial_mode_not_auto"] else []
  guard (device.performanceLevel = mode ∧ ∀ reason ∈ reasons, reason ∈ allowedRejections)
  let header ← device.headerSha256
  guard (env.isDigest header)
  return {
    host := device.host
    pci := device.pci
    bootId := device.bootId
    driverHeaderSha256 := header
    supportedSclkMhz := sclk.supportedMhz }

/-- `_observe`: the baseline and the instantaneous frequency, that of the active level. -/
def observe (mode : String) (current : Nat) : Option (DefaultAutoBaseline × Nat) := do
  let baseline ← observedBaseline env device mode
  let frequency ← baseline.supportedSclkMhz[current]?
  return (baseline, frequency)

/-- The frequency of an observation in a mode that has the baseline. -/
def observes (mode : String) (current : Nat) (baseline : DefaultAutoBaseline) : Option Nat := do
  let (observed, frequency) ← observe env device mode current
  guard (observed = baseline)
  return frequency

/-- The device is in its default mode and shows a baseline. -/
def Shows (baseline : DefaultAutoBaseline) : Prop :=
  observedBaseline env device "auto" = some baseline

/-- The device shows a baseline in the mode it is in. -/
def Sees (baseline : DefaultAutoBaseline) : Prop :=
  observedBaseline env device device.performanceLevel = some baseline

variable {env device}

theorem observedBaseline_mode {mode : String} {baseline : DefaultAutoBaseline}
    (seen : observedBaseline env device mode = some baseline) : device.performanceLevel = mode := by
  obtain ⟨_, -, rest⟩ := Option.bind_eq_some_iff.mp seen
  obtain ⟨_, same, -⟩ := Option.bind_eq_some_iff.mp rest
  exact ((Option.guard_eq_some' _).mp same).1

theorem observe_baseline {mode : String} {current frequency : Nat}
    {baseline : DefaultAutoBaseline}
    (seen : observe env device mode current = some (baseline, frequency)) :
    observedBaseline env device mode = some baseline := by
  obtain ⟨observed, there, rest⟩ := Option.bind_eq_some_iff.mp seen
  obtain ⟨frequency', -, same⟩ := Option.bind_eq_some_iff.mp rest
  cases same
  exact there

/-- A device shows one baseline. -/
theorem Shows.unique {baseline baseline' : DefaultAutoBaseline}
    (shows : Shows env device baseline) (shows' : Shows env device baseline') :
    baseline = baseline' :=
  Option.some.inj (shows.symm.trans shows')

theorem Shows.sees {baseline : DefaultAutoBaseline} (shows : Shows env device baseline) :
    Sees env device baseline :=
  (congrArg _ (observedBaseline_mode shows)).trans shows

/-- A device sees one baseline. -/
theorem Sees.unique {baseline baseline' : DefaultAutoBaseline}
    (sees : Sees env device baseline) (sees' : Sees env device baseline') :
    baseline = baseline' :=
  Option.some.inj (sees.symm.trans sees')

theorem Sees.of_observes {mode : String} {current frequency : Nat}
    {baseline : DefaultAutoBaseline}
    (seen : observes env device mode current baseline = some frequency) :
    Sees env device baseline := by
  obtain ⟨⟨observed, frequency'⟩, there, rest⟩ := Option.bind_eq_some_iff.mp seen
  obtain ⟨_, same, -⟩ := Option.bind_eq_some_iff.mp rest
  rw [← (Option.guard_eq_some' _).mp same]
  have found := observe_baseline there
  exact (congrArg _ (observedBaseline_mode found)).trans found

theorem Shows.of_observes {current frequency : Nat} {baseline : DefaultAutoBaseline}
    (seen : observes env device "auto" current baseline = some frequency) :
    Shows env device baseline := by
  obtain ⟨⟨observed, frequency'⟩, there, rest⟩ := Option.bind_eq_some_iff.mp seen
  obtain ⟨_, same, -⟩ := Option.bind_eq_some_iff.mp rest
  rw [← (Option.guard_eq_some' _).mp same]
  exact observe_baseline there

end Observations

/-! ## Steps of a process -/

/-- The tables of the clock journal. -/
abbrev ClockJournal := Journal DefaultAutoBaseline

/-- What a process does next: an ownership check, an observation, a transaction, an ownership
check with a write, or something of its caller; and where it goes on from there. -/
inductive Call (Phase : Type)
  | own (next : Phase)
  | observe (check : DevicePolicy → Nat → Option Phase)
  | transact (run : ClockJournal → Except String (ClockJournal × Phase))
  | write (next : Phase)
  | proceed (next : Phase)
  | halt

/-- A call may raise before or after its effect. -/
inductive Outcome
  | ok
  | raised
  | interrupted
  deriving DecidableEq, Repr

/-- What is outside of a process in one step: the outcome, the fresh identifier, the active
level of an observation, and the policy a write leaves. -/
structure Answer where
  outcome : Outcome
  fresh : String
  current : Nat
  after : DevicePolicy

/-- One step of a process that owns the resource or not, and goes on at `fail` where it
raises. An ownership check only succeeds for an owner. -/
def perform {Phase : Type} (owned : Bool) (fail : Phase) (answer : Answer) (device : DevicePolicy)
    (journal : ClockJournal) : Call Phase → Option (DevicePolicy × ClockJournal × Phase)
  | .own next =>
      match answer.outcome with
      | .ok => if owned then some (device, journal, next) else none
      | .raised | .interrupted => some (device, journal, fail)
  | .observe check =>
      match answer.outcome with
      | .ok => some (device, journal, (check device answer.current).getD fail)
      | .raised | .interrupted => some (device, journal, fail)
  | .transact run =>
      match answer.outcome, run journal with
      | .ok, .ok (journal', next) => some (device, journal', next)
      | .interrupted, .ok (journal', _) => some (device, journal', fail)
      | _, _ => some (device, journal, fail)
  | .write next =>
      match answer.outcome with
      | .ok => if owned then some (answer.after, journal, next) else none
      | .interrupted => if owned then some (answer.after, journal, fail) else none
      | .raised => some (device, journal, fail)
  | .proceed next =>
      match answer.outcome with
      | .ok => some (device, journal, next)
      | .raised | .interrupted => some (device, journal, fail)
  | .halt => none

/-! ## The session -/

/-- What a session knows of its operation. -/
structure Held where
  operationId : String
  original : DefaultAutoBaseline
  journalState : OperationState
  deriving DecidableEq, Repr

/-- The next call of a session. -/
inductive SessionPhase
  | new
  | checkUnresolved
  | capture
  | ownCaptured (original : DefaultAutoBaseline)
  | begin (original : DefaultAutoBaseline)
  | ownBegun (held : Held)
  | observeApply (held : Held)
  | apply (held : Held)
  | ownApplied (held : Held)
  | verifyManual (held : Held)
  | persistActive (held : Held)
  | inUse (held : Held)
  | ownRestore (held : Held)
  | persistRestoring (held : Held)
  | ownRestoring (held : Held)
  | observeRestore (held : Held)
  | restoreAuto (held : Held)
  | restoreManual (held : Held)
  | ownRestored (held : Held)
  | verifyOriginal (held : Held)
  | ownVerified (held : Held)
  | persistRestored (held : Held)
  | persistReconciliation (held : Held)
  | closed
  deriving DecidableEq, Repr

/-- Where a session goes on when its call raises: out of `__enter__`, into `restore`, or into
the handler of `restore`. -/
def SessionPhase.fail : SessionPhase → SessionPhase
  | .new | .checkUnresolved | .capture | .ownCaptured _ | .begin _ => .closed
  | .ownBegun held | .observeApply held | .apply held | .ownApplied held => .ownRestore held
  | .verifyManual held | .persistActive held | .inUse held => .ownRestore held
  | .ownRestore held | .persistRestoring held | .ownRestoring held => .persistReconciliation held
  | .observeRestore held | .restoreAuto held | .restoreManual held => .persistReconciliation held
  | .ownRestored held | .verifyOriginal held | .ownVerified held => .persistReconciliation held
  | .persistRestored held => .persistReconciliation held
  | .persistReconciliation _ | .closed => .closed

/-- `_persist`: a transition from the state the session knows. -/
def persist (held : Held) (state : OperationState) (next : Held → SessionPhase)
    (journal : ClockJournal) : Except String (ClockJournal × SessionPhase) := do
  let journal' ← transition held.operationId held.journalState state journal
  return (journal', next { held with journalState := state })

/-- The mode is one that can be restored. -/
def restorable (mode : String) : Prop := mode = "auto" ∨ mode = "manual"

instance (mode : String) : Decidable (restorable mode) := inferInstanceAs (Decidable (_ ∨ _))

/-- `BW20AutoClockSession`: `__enter__` up to `inUse`, then `restore`. -/
def sessionCall (env : ClockEnv) (authorizationId fresh : String) :
    SessionPhase → Call SessionPhase
  | .new => .own .checkUnresolved
  | .checkUnresolved => .transact fun journal => do
      require (journal.unresolved resource = []) "unresolved durable clock intent blocks reuse"
      return (journal, .capture)
  -- the baseline is confirmed by a callback, which may raise
  | .capture => .observe fun device current =>
      (observe env device "auto" current).map fun seen => .ownCaptured seen.1
  | .ownCaptured original => .own (.begin original)
  | .begin original => .transact fun journal => do
      let journal' ← Clock.begin fresh resource authorizationId original journal
      return (journal', .ownBegun ⟨fresh, original, .mutationPossible⟩)
  | .ownBegun held => .own (.observeApply held)
  | .observeApply held => .observe fun device current =>
      (observes env device "auto" current held.original).map fun _ => .apply held
  | .apply held => .write (.ownApplied held)
  | .ownApplied held => .own (.verifyManual held)
  | .verifyManual held => .observe fun device current => do
      let frequency ← observes env device "manual" current held.original
      guard (frequency = 1500)
      return .persistActive held
  | .persistActive held => .transact (persist held .active .inUse)
  | .inUse held => .proceed (.ownRestore held)
  | .ownRestore held => .own (.persistRestoring held)
  | .persistRestoring held => .transact (persist held .restoring .ownRestoring)
  | .ownRestoring held => .own (.observeRestore held)
  | .observeRestore held => .observe fun device current => do
      guard (restorable device.performanceLevel)
      let _ ← observes env device device.performanceLevel current held.original
      return if device.performanceLevel = "auto" then .restoreAuto held else .restoreManual held
  | .restoreAuto held => .own (.ownRestored held)
  | .restoreManual held => .write (.ownRestored held)
  | .ownRestored held => .own (.verifyOriginal held)
  | .verifyOriginal held => .observe fun device current =>
      (observes env device "auto" current held.original).map fun _ => .ownVerified held
  | .ownVerified held => .own (.persistRestored held)
  | .persistRestored held => .transact (persist held .restored fun _ => .closed)
  | .persistReconciliation held => .transact (persist held .reconciliationRequired fun _ => .closed)
  | .closed => .halt

/-! ## The recovery -/

/-- What a recovery knows of its claim. -/
structure Claimed where
  original : DefaultAutoBaseline
  attemptId : String
  operationId : String
  deriving DecidableEq, Repr

/-- The next call of a recovery. -/
inductive RecoveryPhase
  | new
  | readPending
  | observePending (original : DefaultAutoBaseline)
  | ownPending (original : DefaultAutoBaseline)
  | claim (original : DefaultAutoBaseline)
  | ownClaimed (claimed : Claimed)
  | observeClaimed (claimed : Claimed)
  | restore (claimed : Claimed)
  | ownRestored (claimed : Claimed)
  | verify (claimed : Claimed)
  | ownVerified (claimed : Claimed)
  | finishRestored (claimed : Claimed)
  | finishFailed (claimed : Claimed)
  | closed
  deriving DecidableEq, Repr

/-- Where a recovery goes on when its call raises. -/
def RecoveryPhase.fail : RecoveryPhase → RecoveryPhase
  | .new | .readPending | .observePending _ | .ownPending _ | .claim _ => .closed
  | .ownClaimed claimed | .observeClaimed claimed | .restore claimed => .finishFailed claimed
  | .ownRestored claimed | .verify claimed | .ownVerified claimed => .finishFailed claimed
  | .finishRestored claimed => .finishFailed claimed
  | .finishFailed _ | .closed => .closed

/-- `_baseline_from_journal`. -/
def baselineFromJournal (env : ClockEnv) (original : DefaultAutoBaseline) :
    Except String DefaultAutoBaseline := do
  require ((original.supportedSclkMhz ≠ [] ∧ original.supportedSclkMhz.Nodup ∧
      (∀ level ∈ original.supportedSclkMhz, 0 < level) ∧ 1500 ∈ original.supportedSclkMhz) ∧
    original.fixedMclkMhz = 1800 ∧ original.sclkOverdrive = 0 ∧ original.mclkOverdrive = 0 ∧
    original.gfxBoost = 0 ∧ original.restorationScope = "confirmed_default_auto_v1" ∧
    original.host ≠ "" ∧ original.pci ≠ "" ∧ original.bootId ≠ "" ∧
    env.isDigest original.driverHeaderSha256 = true)
    "clock journal original policy is outside recovery scope"
  return original

/-- The authority a recovery was made with. -/
structure RecoveryAuthority where
  authorizationId : String
  fencingToken : Int

/-- `BW20AutoClockRecovery.recover`. -/
def recoveryCall (env : ClockEnv) (authority : RecoveryAuthority) (fresh : String) :
    RecoveryPhase → Call RecoveryPhase
  | .new => .own .readPending
  | .readPending => .transact fun journal =>
      match journal.unresolved resource with
      | [pending] => do
          require (pending.authorizationId ≠ authority.authorizationId)
            "recovery requires authority distinct from the original window"
          let original ← baselineFromJournal env pending.original
          return (journal, .observePending original)
      | _ => .error "exactly one unresolved clock operation is required"
  | .observePending original => .observe fun device current => do
      guard (restorable device.performanceLevel)
      let _ ← observes env device device.performanceLevel current original
      return .ownPending original
  | .ownPending original => .own (.claim original)
  | .claim original => .transact fun journal => do
      let (journal', operation) ← claimRecovery env.blank fresh resource
        authority.authorizationId authority.fencingToken journal
      return (journal', .ownClaimed ⟨original, fresh, operation.operationId⟩)
  | .ownClaimed claimed => .own (.observeClaimed claimed)
  | .observeClaimed claimed => .observe fun device current => do
      let _ ← observes env device device.performanceLevel current claimed.original
      return if device.performanceLevel = "manual" then .restore claimed else .ownRestored claimed
  | .restore claimed => .write (.ownRestored claimed)
  | .ownRestored claimed => .own (.verify claimed)
  | .verify claimed => .observe fun device current =>
      (observes env device "auto" current claimed.original).map fun _ => .ownVerified claimed
  | .ownVerified claimed => .own (.finishRestored claimed)
  | .finishRestored claimed => .transact fun journal => do
      let journal' ← finishRecovery claimed.attemptId true journal
      return (journal', .closed)
  | .finishFailed claimed => .transact fun journal => do
      let journal' ← finishRecovery claimed.attemptId false journal
      return (journal', .closed)
  | .closed => .halt

/-! ## All processes -/

/-- Who may write to the device. -/
inductive Authority (L : Type)
  | free
  | leased (lease : L)
  | quarantined
  deriving DecidableEq, Repr

/-- The device, the journal, the authority and the processes. -/
structure World (W R L : Type) where
  device : DevicePolicy
  journal : ClockJournal
  authority : Authority L
  granted : L → Prop
  session : W → SessionPhase
  recovery : R → RecoveryPhase

/-- Before any process has begun. -/
def World.start (W R L : Type) (device : DevicePolicy) : World W R L where
  device := device
  journal := {}
  authority := .free
  granted _ := False
  session _ := .new
  recovery _ := .new

/-- The sessions and recoveries, with their authorizations and leases. -/
structure Processes (W R L : Type) where
  env : ClockEnv
  session : W → String
  lease : W → L
  recovery : R → RecoveryAuthority

/-- A step of a process, the end of a process, or a change of authority. -/
inductive Event (W R L : Type)
  | session (w : W) (answer : Answer)
  | recovery (r : R) (answer : Answer)
  | endSession (w : W)
  | endRecovery (r : R)
  | authority (authority : Authority L)

section Steps

variable {W R L : Type} [DecidableEq W] [DecidableEq R] [DecidableEq L]

/-- The steps of all processes. A lease is granted once. -/
inductive Step (processes : Processes W R L) (s : World W R L) :
    Event W R L → World W R L → Prop
  | session (w : W) (answer : Answer) (device : DevicePolicy) (journal : ClockJournal)
      (phase : SessionPhase)
      (taken : perform (decide (s.authority = .leased (processes.lease w))) (s.session w).fail
        answer s.device s.journal (sessionCall processes.env (processes.session w) answer.fresh
          (s.session w)) = some (device, journal, phase)) :
      Step processes s (.session w answer) { s with
        device := device
        journal := journal
        session := Function.update s.session w phase }
  | recovery (r : R) (answer : Answer) (device : DevicePolicy) (journal : ClockJournal)
      (phase : RecoveryPhase)
      (taken : perform (decide (s.authority = .quarantined)) (s.recovery r).fail answer s.device
        s.journal (recoveryCall processes.env (processes.recovery r) answer.fresh
          (s.recovery r)) = some (device, journal, phase)) :
      Step processes s (.recovery r answer) { s with
        device := device
        journal := journal
        recovery := Function.update s.recovery r phase }
  | endSession (w : W) :
      Step processes s (.endSession w) { s with session := Function.update s.session w .closed }
  | endRecovery (r : R) :
      Step processes s (.endRecovery r) { s with recovery := Function.update s.recovery r .closed }
  | authority (authority : Authority L)
      (once : ∀ lease, authority = .leased lease →
        s.authority = .leased lease ∨ ¬s.granted lease) :
      Step processes s (.authority authority) { s with
        authority := authority
        granted := fun lease => s.granted lease ∨ authority = .leased lease }

end Steps

end Clock

end HcuAutoOpt
