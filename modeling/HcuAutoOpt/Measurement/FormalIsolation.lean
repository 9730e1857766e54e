import HcuAutoOpt.Foundation.SingleWriter
import HcuAutoOpt.Measurement.PhaseIsolation

/-!
# The durable isolation authority

`SqliteM2FormalPhaseIsolationAuthority` of `measurement/m2_formal_isolation.py`. Its database has
a row for the plan of each phase of a round, and a row with unique columns for each claim. A claim
is one transaction: any number of processes claim at once, one of them at a time holds the lock,
and a crash drops what was not committed.
-/

set_option autoImplicit false

namespace HcuAutoOpt

namespace M2Runner

open Foundation

/-! ## Records and rows -/

/-- `M2FormalExecutionBinding`, as far as a claim reads it. -/
structure M2FormalExecutionBinding where
  roundId : Uuid
  phase : RoundPhase
  phasePlanHash : String
  measurementPlanHash : String
  deriving DecidableEq, Repr

/-- `RoundMeasurementRef`, as far as a claim reads it. -/
structure RoundMeasurementRef where
  measurementId : Uuid
  rawEvidenceUri : String
  rawEvidenceHash : String
  baselineSampleSetHash : String
  processIdentitySetHash : String
  cacheNamespaceSetHash : String
  deriving DecidableEq, Repr

/-- `M2FormalExecutionStatus`. -/
inductive M2FormalExecutionStatus where
  | succeeded | failed | timedOut | fenceLost | evidenceInvalid | cleanupFailed
  deriving DecidableEq, Repr

/-- `M2FormalPhaseExecutionRecord`, as far as a claim reads it. -/
structure M2FormalPhaseExecutionRecord where
  executionId : Uuid
  status : M2FormalExecutionStatus
  binding : M2FormalExecutionBinding
  measurementRef : Option RoundMeasurementRef
  deriving DecidableEq, Repr

/-- A row of `formal_phase_plans`. -/
structure FormalPhasePlan where
  roundId : String
  phase : String
  phasePlanHash : String
  measurementPlanHash : String
  deriving DecidableEq, Repr

/-- A row of `formal_measurement_claims`. -/
structure FormalMeasurementClaim where
  executionId : String
  roundId : String
  phase : String
  measurementId : String
  rawEvidenceUri : String
  rawEvidenceHash : String
  baselineSampleSetHash : String
  processIdentitySetHash : String
  cacheNamespaceSetHash : String
  deriving DecidableEq, Repr

/-- The database. -/
structure IsolationDatabase where
  plans : List FormalPhasePlan := []
  claims : List FormalMeasurementClaim := []
  deriving DecidableEq, Repr

/-! ## The transaction -/

/-- What a transaction claims: the record and its measurement. -/
structure Claim where
  record : M2FormalPhaseExecutionRecord
  reference : RoundMeasurementRef
  deriving DecidableEq, Repr

/-- `SELECT phase_plan_hash, measurement_plan_hash … WHERE round_id = ? AND phase = ?`. -/
def IsolationDatabase.plan? (database : IsolationDatabase) (roundId : Uuid) (phase : RoundPhase) :
    Option FormalPhasePlan :=
  database.plans.find? fun row => decide (row.roundId = roundId.text ∧ row.phase = phaseValue phase)

/-- The check of the plan of the other phase. -/
def checkOtherPlan (claim : Claim) : Statement IsolationDatabase Raised := fun database =>
  let binding := claim.record.binding
  match database.plan? binding.roundId (otherPhase binding.phase) with
  | none => .ok database
  | some other => do
      let hashes := [other.phasePlanHash, other.measurementPlanHash]
      require (¬(binding.phasePlanHash ∈ hashes ∨ binding.measurementPlanHash ∈ hashes))
        (safety "Search and Holdout require distinct execution plans")
      return database

/-- The check of the plan of the same phase. -/
def checkCurrentPlan (claim : Claim) : Statement IsolationDatabase Raised := fun database =>
  let binding := claim.record.binding
  match database.plan? binding.roundId binding.phase with
  | none => .ok database
  | some current => do
      require ((current.phasePlanHash, current.measurementPlanHash) =
          (binding.phasePlanHash, binding.measurementPlanHash))
        (safety "one Formal phase cannot use multiple execution plans")
      return database

/-- `INSERT OR IGNORE INTO formal_phase_plans`. -/
def insertPlan (claim : Claim) : Statement IsolationDatabase Raised := fun database =>
  let binding := claim.record.binding
  match database.plan? binding.roundId binding.phase with
  | some _ => .ok database
  | none => .ok { database with plans := database.plans ++ [{
      roundId := binding.roundId.text
      phase := phaseValue binding.phase
      phasePlanHash := binding.phasePlanHash
      measurementPlanHash := binding.measurementPlanHash }] }

/-- The row of a claim. -/
def Claim.row (claim : Claim) : FormalMeasurementClaim where
  executionId := claim.record.executionId.text
  roundId := claim.record.binding.roundId.text
  phase := phaseValue claim.record.binding.phase
  measurementId := claim.reference.measurementId.text
  rawEvidenceUri := claim.reference.rawEvidenceUri
  rawEvidenceHash := claim.reference.rawEvidenceHash
  baselineSampleSetHash := claim.reference.baselineSampleSetHash
  processIdentitySetHash := claim.reference.processIdentitySetHash
  cacheNamespaceSetHash := claim.reference.cacheNamespaceSetHash

/-- A unique column of `formal_measurement_claims`. -/
def FormalMeasurementClaim.column (row : FormalMeasurementClaim) : UniqueField → String
  | .measurementId => row.measurementId
  | .rawEvidenceUri => row.rawEvidenceUri
  | .rawEvidenceHash => row.rawEvidenceHash
  | .baselineSampleSetHash => row.baselineSampleSetHash
  | .processIdentitySetHash => row.processIdentitySetHash
  | .cacheNamespaceSetHash => row.cacheNamespaceSetHash

/-- Two rows of `formal_measurement_claims` that cannot both be there. -/
def FormalMeasurementClaim.conflicts (row other : FormalMeasurementClaim) : Bool :=
  decide (row.executionId = other.executionId) ||
    UniqueField.all.any fun field => decide (row.column field = other.column field)

/-- `INSERT INTO formal_measurement_claims`; an `IntegrityError` is raised again as a safety
error. -/
def insertClaim (claim : Claim) : Statement IsolationDatabase Raised := fun database =>
  if database.claims.any claim.row.conflicts then
    .error
      (safety "Formal phase isolation rejected a reused execution or evidence identity")
  else .ok { database with claims := database.claims ++ [claim.row] }

/-- The statements of a claim, in order. -/
def claimStatements (claim : Claim) : List (Statement IsolationDatabase Raised) :=
  [checkOtherPlan claim, checkCurrentPlan claim, insertPlan claim, insertClaim claim]

/-! ## The authority -/

/-- The database with its connections. -/
abbrev FormalAuthority := SharedStore IsolationDatabase Raised Claim

/-- What can happen next: a process calls `claim`, which takes the lock when nobody holds it, a
transaction takes its next statement, or it ends without a commit (a crash, a failing disk). -/
inductive ClaimEvent where
  | claim (connection : Nat) (record : M2FormalPhaseExecutionRecord)
  | advance (connection : Nat)
  | interrupt (connection : Nat)

/-- What a step tells its process. -/
inductive ClaimReply where
  | returned
  | running
  | raised (raised : Raised)
  | interrupted
  deriving DecidableEq

/-- The answer of the store to the caller of `claim`. -/
def claimReply : StoreReply Raised → ClaimReply
  | .running => .running
  | .locked => .raised (.other "OperationalError" "database is locked")
  | .committed => .returned
  | .raised error => .raised error
  | .aborted => .interrupted

/-- `SqliteM2FormalPhaseIsolationAuthority.claim`, step by step. -/
def FormalAuthority.step (s : FormalAuthority) :
    ClaimEvent → Option (FormalAuthority × ClaimReply)
  | .claim connection record =>
      if record.status ≠ .succeeded then some (s, .returned)
      else
        match record.measurementRef with
        | none => some (s,
            .raised (safety "successful Formal execution omitted its Round Measurement Ref"))
        | some reference =>
            (SharedStore.step claimStatements s (.start connection ⟨record, reference⟩)).map
              fun (t, reply) => (t, claimReply reply)
  | .advance connection =>
      (SharedStore.step claimStatements s (.advance connection)).map
        fun (t, reply) => (t, claimReply reply)
  | .interrupt connection =>
      (SharedStore.step claimStatements s (.abort connection)).map
        fun (t, reply) => (t, claimReply reply)

/-- The authority on a new database. -/
def FormalAuthority.initial : FormalAuthority := ⟨{}, none, []⟩

/-- The runs of the authority. -/
abbrev FormalAuthority.Runs (s : FormalAuthority) (events : List ClaimEvent)
    (t : FormalAuthority) : Prop :=
  Steps (fun s event t => ∃ reply, FormalAuthority.step s event = some (t, reply)) s events t

/-- `getattr(reference, field)`. -/
def RoundMeasurementRef.identity (reference : RoundMeasurementRef) : UniqueField → Identity
  | .measurementId => .uuid reference.measurementId
  | .rawEvidenceUri => .text reference.rawEvidenceUri
  | .rawEvidenceHash => .text reference.rawEvidenceHash
  | .baselineSampleSetHash => .text reference.baselineSampleSetHash
  | .processIdentitySetHash => .text reference.processIdentitySetHash
  | .cacheNamespaceSetHash => .text reference.cacheNamespaceSetHash

/-- How claims are read. -/
def formalIsolation : Isolation Claim UniqueField Identity where
  identity field claim := claim.reference.identity field
  roundId claim := claim.record.binding.roundId
  phase claim := claim.record.binding.phase
  plan claim := claim.record.binding.phasePlanHash

/-! ## One transaction after another -/

/-- The database of some accepted claims: a row for each of them, and for each its plan as the
plan of its phase. -/
structure IsolationDatabase.Holds (database : IsolationDatabase) (accepted : List Claim) :
    Prop where
  rows : ∀ claim ∈ accepted, claim.row ∈ database.claims
  plans : ∀ claim ∈ accepted, ∃ row,
    database.plan? claim.record.binding.roundId claim.record.binding.phase = some row ∧
      row.phasePlanHash = claim.record.binding.phasePlanHash

/-- Claims of one identity have one column. -/
theorem column_of_identity {claim other : Claim} {field : UniqueField}
    (same : claim.reference.identity field = other.reference.identity field) :
    claim.row.column field = other.row.column field := by
  cases field with
  | measurementId => exact congrArg Uuid.text (Identity.uuid.inj same)
  | rawEvidenceUri => exact Identity.text.inj same
  | rawEvidenceHash => exact Identity.text.inj same
  | baselineSampleSetHash => exact Identity.text.inj same
  | processIdentitySetHash => exact Identity.text.inj same
  | cacheNamespaceSetHash => exact Identity.text.inj same

/-- A statement that only checks keeps the database. -/
theorem checkOtherPlan_eq_ok {claim : Claim} {database database' : IsolationDatabase} :
    checkOtherPlan claim database = .ok database' ↔ database' = database ∧
      ∀ other, database.plan? claim.record.binding.roundId
          (otherPhase claim.record.binding.phase) = some other →
        claim.record.binding.phasePlanHash ∉ [other.phasePlanHash, other.measurementPlanHash] ∧
          claim.record.binding.measurementPlanHash ∉
            [other.phasePlanHash, other.measurementPlanHash] := by
  dsimp only [checkOtherPlan]
  cases database.plan? claim.record.binding.roundId
      (otherPhase claim.record.binding.phase) with
  | none => simp [eq_comm]
  | some other =>
      simp only [Except.bind_eq_ok, require_eq_ok, exists_const, Option.some.injEq, forall_eq',
        not_or]
      constructor
      · rintro ⟨apart, same⟩
        cases same
        exact ⟨rfl, apart⟩
      · rintro ⟨rfl, apart⟩
        exact ⟨apart, rfl⟩

theorem checkCurrentPlan_eq_ok {claim : Claim} {database database' : IsolationDatabase} :
    checkCurrentPlan claim database = .ok database' ↔ database' = database ∧
      ∀ current, database.plan? claim.record.binding.roundId claim.record.binding.phase =
          some current → current.phasePlanHash = claim.record.binding.phasePlanHash ∧
            current.measurementPlanHash = claim.record.binding.measurementPlanHash := by
  dsimp only [checkCurrentPlan]
  cases database.plan? claim.record.binding.roundId claim.record.binding.phase with
  | none => simp [eq_comm]
  | some current =>
      simp only [Except.bind_eq_ok, require_eq_ok, exists_const, Option.some.injEq, forall_eq',
        Prod.mk.injEq]
      constructor
      · rintro ⟨agree, same⟩
        cases same
        exact ⟨rfl, agree⟩
      · rintro ⟨rfl, agree⟩
        exact ⟨agree, rfl⟩

/-- After the insertion the phase has its plan, and every plan that was there stays. -/
theorem insertPlan_eq_ok {claim : Claim} {database database' : IsolationDatabase}
    (inserted : insertPlan claim database = .ok database') :
    database'.claims = database.claims ∧
      (∀ roundId phase row, database.plan? roundId phase = some row →
        database'.plan? roundId phase = some row) ∧
      ((∃ row, database.plan? claim.record.binding.roundId claim.record.binding.phase = some row)
        ∨ ∃ row, database'.plan? claim.record.binding.roundId claim.record.binding.phase =
            some row ∧ row.phasePlanHash = claim.record.binding.phasePlanHash) := by
  dsimp only [insertPlan] at inserted
  cases found : database.plan? claim.record.binding.roundId claim.record.binding.phase with
  | some row =>
      simp only [found] at inserted
      cases inserted
      exact ⟨rfl, fun _ _ _ there => there, .inl ⟨row, rfl⟩⟩
  | none =>
      simp only [found] at inserted
      cases inserted
      refine ⟨rfl, fun roundId phase row there => ?_, .inr ?_⟩
      · simp only [IsolationDatabase.plan?, List.find?_append] at there ⊢
        rw [there]
        rfl
      · simp only [IsolationDatabase.plan?, List.find?_append] at found ⊢
        rw [found]
        exact ⟨⟨claim.record.binding.roundId.text, phaseValue claim.record.binding.phase,
          claim.record.binding.phasePlanHash, claim.record.binding.measurementPlanHash⟩,
          by simp, rfl⟩

theorem insertClaim_eq_ok {claim : Claim} {database database' : IsolationDatabase} :
    insertClaim claim database = .ok database' ↔
      (∀ row ∈ database.claims, claim.row.conflicts row = false) ∧
        database' = { database with claims := database.claims ++ [claim.row] } := by
  unfold insertClaim
  split
  · rename_i conflict
    obtain ⟨row, member, conflicts⟩ := List.any_eq_true.mp conflict
    simp only [reduceCtorEq, false_iff, not_and]
    intro apart
    rw [apart row member] at conflicts
    cases conflicts
  · rename_i apart
    rw [Bool.not_eq_true, List.any_eq_false] at apart
    simp only [Bool.not_eq_true] at apart
    constructor
    · intro same
      cases same
      exact ⟨apart, rfl⟩
    · rintro ⟨-, rfl⟩
      rfl

/-- **A whole claim** that goes through is of a fresh measurement and a free plan. -/
theorem claim_isolated {accepted : List Claim} {claim : Claim}
    {database database' : IsolationDatabase} (holds : database.Holds accepted)
    (run : runStatements (claimStatements claim) database = .ok database') :
    formalIsolation.Fresh accepted claim ∧ formalIsolation.PlanFree accepted claim ∧
      database'.Holds (claim :: accepted) := by
  simp only [runStatements, claimStatements, List.foldlM_cons, List.foldlM_nil,
    Except.bind_eq_ok] at run
  obtain ⟨_, other, _, current, planned, inserted, _, claimed, last⟩ := run
  cases last
  obtain ⟨rfl, others⟩ := checkOtherPlan_eq_ok.mp other
  obtain ⟨rfl, currents⟩ := checkCurrentPlan_eq_ok.mp current
  obtain ⟨claims, kept, plan⟩ := insertPlan_eq_ok inserted
  obtain ⟨apart, rfl⟩ := insertClaim_eq_ok.mp claimed
  refine ⟨fun field earlier member same => ?_, fun earlier member round phase same => ?_, ?_, ?_⟩
  · have conflict := apart earlier.row (claims ▸ holds.rows earlier member)
    simp only [FormalMeasurementClaim.conflicts, Bool.or_eq_false_iff] at conflict
    have different := List.any_eq_false.mp conflict.2 field (UniqueField.mem_all field)
    exact different (decide_eq_true (column_of_identity same).symm)
  · obtain ⟨row, found, hash⟩ := holds.plans earlier member
    have roundId : earlier.record.binding.roundId = claim.record.binding.roundId := round
    have other : earlier.record.binding.phase = otherPhase claim.record.binding.phase :=
      eq_otherPhase.mpr phase
    rw [roundId, other] at found
    refine (others row found).1 ?_
    rw [hash]
    exact List.mem_cons.mpr (.inl same.symm)
  · intro other member
    rcases List.mem_cons.mp member with rfl | earlier
    · exact List.mem_append_right _ List.mem_cons_self
    · exact List.mem_append_left _ (claims ▸ holds.rows other earlier)
  · intro other member
    change ∃ row, planned.plan? _ _ = some row ∧ _
    rcases List.mem_cons.mp member with rfl | earlier
    · rcases plan with ⟨row, found⟩ | here
      · exact ⟨row, kept _ _ row found, (currents row found).1⟩
      · exact here
    · obtain ⟨row, found, hash⟩ := holds.plans other earlier
      exact ⟨row, kept _ _ row found, hash⟩

/-- **Claims one after another are isolated.** -/
theorem serial_isolated {accepted : List Claim} {database : IsolationDatabase}
    (serial : Serial claimStatements {} accepted database) :
    formalIsolation.Isolated accepted ∧ database.Holds accepted := by
  induction serial with
  | nil => exact ⟨Isolation.isolated_nil, by simp, by simp⟩
  | cons _ run ih =>
      obtain ⟨isolated, holds⟩ := ih
      obtain ⟨fresh, free, holds⟩ := claim_isolated holds run
      exact ⟨Isolation.isolated_cons.mpr ⟨fresh, free, isolated⟩, holds⟩

/-! ## Any interleaving -/

/-- A step of the authority is a step of its store or leaves it alone. -/
theorem FormalAuthority.step_cases {s t : FormalAuthority} {event : ClaimEvent}
    {reply : ClaimReply} (taken : FormalAuthority.step s event = some (t, reply)) :
    t = s ∨ ∃ event' reply', SharedStore.step claimStatements s event' = some (t, reply') ∧
      reply = claimReply reply' := by
  have lift : ∀ event', (SharedStore.step claimStatements s event').map
      (fun (t, reply) => (t, claimReply reply)) = some (t, reply) →
        ∃ event' reply', SharedStore.step claimStatements s event' = some (t, reply') ∧
          reply = claimReply reply' := by
    intro event' taken
    obtain ⟨⟨t', reply'⟩, inner, same⟩ := Option.map_eq_some_iff.mp taken
    cases same
    exact ⟨event', reply', inner, rfl⟩
  cases event with
  | claim connection record =>
      simp only [FormalAuthority.step] at taken
      split at taken
      · cases taken
        exact .inl rfl
      · split at taken
        · cases taken
          exact .inl rfl
        · exact .inr (lift _ taken)
  | advance connection => exact .inr (lift _ taken)
  | interrupt connection => exact .inr (lift _ taken)

/-- What a run of the authority does to its store is a run of the store. -/
theorem FormalAuthority.Runs.storeSteps {s t : FormalAuthority} {events : List ClaimEvent}
    (runs : FormalAuthority.Runs s events t) :
    ∃ storeEvents, SharedStore.Steps claimStatements s storeEvents t := by
  induction runs with
  | refl => exact ⟨[], .refl s⟩
  | tail _ taken ih =>
      obtain ⟨storeEvents, steps⟩ := ih
      obtain ⟨reply, taken⟩ := taken
      rcases FormalAuthority.step_cases taken with rfl | ⟨event, reply', inner, -⟩
      · exact ⟨storeEvents, steps⟩
      · exact ⟨storeEvents ++ [event], steps.tail ⟨reply', inner⟩⟩

/-- **Whatever the order of the steps**, the accepted claims are isolated. -/
theorem runs_isolated {events : List ClaimEvent} {s : FormalAuthority}
    (runs : FormalAuthority.Runs .initial events s) : formalIsolation.Isolated s.log := by
  obtain ⟨_, steps⟩ := runs.storeSteps
  exact (serial_isolated (SharedStore.serial_of_steps steps)).1

/-- A step that does not return leaves the database and the claims. -/
theorem step_unreturned {s t : FormalAuthority} {event : ClaimEvent} {reply : ClaimReply}
    (taken : FormalAuthority.step s event = some (t, reply)) (other : reply ≠ .returned) :
    t.committed = s.committed ∧ t.log = s.log := by
  rcases FormalAuthority.step_cases taken with rfl | ⟨event', reply', inner, rfl⟩
  · exact ⟨rfl, rfl⟩
  · refine SharedStore.step_uncommitted inner ?_
    rintro rfl
    exact other rfl

/-! ## Both authorities -/

/-- **Phase isolation.** The registry in memory isolates a run exactly when every commit of fresh
identities finds the plan remembered that the other phase of its round has used, and a refused
call leaves it alone. The durable authority isolates every interleaving of its claims, and a call
that does not return leaves it alone. -/
theorem phase_isolation (calls : List RegistryCall) (events : List ClaimEvent)
    (s : FormalAuthority) :
    (((∀ before, before <+: calls →
          scriptedIsolation.Isolated (runRegistry before).accepted) ↔
        ∀ before receipt, before ++ [.commit receipt] <+: calls →
          (runRegistry before).Recalls receipt) ∧
      ∀ call raised, ((runRegistry calls).call call).2 = .error raised →
        ((runRegistry calls).call call).1 = runRegistry calls) ∧
    (FormalAuthority.Runs .initial events s →
      formalIsolation.Isolated s.log ∧
        ∀ event t reply, FormalAuthority.step s event = some (t, reply) →
          reply ≠ .returned → t.committed = s.committed ∧ t.log = s.log) :=
  ⟨⟨registry_isolates_iff calls, call_refused (runRegistry calls)⟩,
    fun runs => ⟨runs_isolated runs, fun _ _ _ => step_unreturned⟩⟩

/-- A digest of one character. -/
def plainDigest (c : Char) : String := "sha256:" ++ String.ofList (List.replicate 64 c)

/-- A receipt of round 1 with identities of its own. -/
def plainReceipt (phase : RoundPhase) (plan own : Char) : M2ScriptedPhaseReceipt where
  scriptedPhaseReceiptId := BitVec.ofNat 128 own.toNat
  roundId := 1#128
  roundCandidateId := 2#128
  candidateId := 3#128
  phase := phase
  candidateFamilyHash := plainDigest '0'
  artifactFamilyHash := plainDigest '0'
  holdoutFamilyHash := if phase = .holdout then some (plainDigest '0') else none
  artifactId := 4#128
  artifactHash := plainDigest '0'
  measurementId := BitVec.ofNat 128 own.toNat
  rawEvidenceUri := String.ofList [own]
  rawEvidenceHash := plainDigest own
  measurementPlanHash := plainDigest '0'
  phasePlanHash := plainDigest plan
  holdoutRevealEvidenceHash := if phase = .holdout then some (plainDigest '0') else none
  baselineSampleSetHash := plainDigest own
  processIdentitySetHash := plainDigest own
  cacheNamespaceSetHash := plainDigest own
  leaseId := 5#128
  resourceId := "hcu-0"
  fencingToken := 1

/-- Two plans for Search, and the first of them again for Holdout. -/
def forgottenPlan : List RegistryCall :=
  [.commit (plainReceipt .search 'a' '1'), .commit (plainReceipt .search 'b' '2'),
    .commit (plainReceipt .holdout 'a' '3')]

/-- The registry accepts for Holdout a plan that Search has used. -/
theorem forgotten_plan_accepted :
    (runRegistry forgottenPlan).accepted =
        [plainReceipt .holdout 'a' '3', plainReceipt .search 'b' '2',
          plainReceipt .search 'a' '1'] ∧
      ¬∀ calls, scriptedIsolation.Isolated (runRegistry calls).accepted := by
  have accepted : (runRegistry forgottenPlan).accepted =
      [plainReceipt .holdout 'a' '3', plainReceipt .search 'b' '2',
        plainReceipt .search 'a' '1'] := by decide +kernel
  refine ⟨accepted, fun isolated => ?_⟩
  have here := (isolated forgottenPlan).plans
  rw [accepted] at here
  exact (List.pairwise_cons.mp here).1 (plainReceipt .search 'a' '1') (by simp) rfl (by decide) rfl

/-- The measurement of a Search phase. -/
def plainReference : RoundMeasurementRef where
  measurementId := 1#128
  rawEvidenceUri := "file:///evidence/1"
  rawEvidenceHash := plainDigest '1'
  baselineSampleSetHash := plainDigest '2'
  processIdentitySetHash := plainDigest '3'
  cacheNamespaceSetHash := plainDigest '4'

/-- A Search phase that succeeded. -/
def plainRecord : M2FormalPhaseExecutionRecord where
  executionId := 1#128
  status := .succeeded
  binding := ⟨1#128, .search, plainDigest 'a', plainDigest 'b'⟩
  measurementRef := some plainReference

/-- Two processes claim one measurement at once: the second one is told that the database is
locked, and the first one commits. -/
def contendedClaims : List ClaimEvent :=
  [.claim 0 plainRecord, .claim 1 plainRecord, .advance 0, .advance 0, .advance 0, .advance 0,
    .advance 0]

theorem contended_claims_isolated :
    ∃ s, FormalAuthority.Runs .initial contendedClaims s ∧
      s.log = [⟨plainRecord, plainReference⟩] ∧ formalIsolation.Isolated s.log := by
  have runs : ∃ s, FormalAuthority.Runs .initial contendedClaims s ∧
      s.log = [⟨plainRecord, plainReference⟩] :=
    ⟨_, .tail (.tail (.tail (.tail (.tail (.tail (.tail (.refl _) ⟨_, rfl⟩) ⟨_, rfl⟩) ⟨_, rfl⟩)
      ⟨_, rfl⟩) ⟨_, rfl⟩) ⟨_, rfl⟩) ⟨_, rfl⟩, rfl⟩
  obtain ⟨s, steps, log⟩ := runs
  exact ⟨s, steps, log, ((phase_isolation forgottenPlan contendedClaims s).2 steps).1⟩

end M2Runner

end HcuAutoOpt
