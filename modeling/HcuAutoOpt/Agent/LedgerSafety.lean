import HcuAutoOpt.Agent.LedgerRuns
import HcuAutoOpt.Agent.ClaimCompleteness

/-!
# Budget safety along every run

The authority with its ledger does what the authority without it does, as long as a call states
a plan and a usage that can be accounted for (`ledger_transparent`). In every store it reaches,
what is reserved and consumed for a run can be added up and fits the budget of its plan
(`budget_safety`), and the ledger says exactly what has happened to every attempt, unless the
identifiers of two entries clash (`ledger_exact`).
-/

set_option autoImplicit false

namespace HcuAutoOpt

namespace Agent

open Foundation

/-! ## Calls with and without the ledger -/

/-- The call as the authority without a ledger takes it. -/
def BudgetedCall.plain (s : BudgetedStore) : BudgetedCall → GenerationCall
  | .start createdAt request => .start createdAt request
  | .reconcile now runId => .reconcile now true runId
  | .claim now claimToken locks workerId leaseSeconds only =>
      .claim now claimToken locks workerId leaseSeconds only
  | .renew now attemptId claimToken leaseSeconds =>
      .renew now true attemptId claimToken leaseSeconds
  | .settle now attemptId claimToken settlement usage =>
      .settle now true attemptId claimToken (s.judge attemptId settlement usage)
  | .completeReview now runId evidence => .completeReview now runId evidence

/-- The batch of a settlement is valid. -/
def BudgetedCall.Presents : BudgetedCall → Prop
  | .settle _ _ _ settlement _ => ∀ batch ∈ settlement.batch, batch.Valid
  | _ => True

/-- What the call states can be accounted for: the sums of a plan are within its budget, and the
usage of a settlement can be charged. -/
def BudgetedCall.Chargeable (s : BudgetedStore) : BudgetedCall → Prop
  | .start _ request => request.plan.Bounded
  | .settle now attemptId claimToken settlement usage =>
      s.CanCharge now attemptId claimToken settlement usage
  | _ => True

section Calls

variable {ids : LedgerIdentities} {s s' : BudgetedStore} {call : BudgetedCall}

/-- A call that is silent agrees with a call that is silent. -/
theorem agree_silent {α : Type} {op : Transaction BudgetedStore Error α}
    {op' : Transaction GenerationStore Error α} {t : GenerationStore}
    (agree : Agree (Replies ids) (op s) (op' t)) :
    Agree (Replies ids) (op.silent s) (op'.silent t) := by
  unfold Transaction.silent
  revert agree
  generalize op s = first
  generalize op' t = second
  intro agree
  cases agree with
  | raised e => exact .raised e
  | returned related => exact .returned ⟨related.1, rfl⟩

/-- **Every call agrees with the call without a ledger.** -/
theorem agree_call (booked : s.Booked ids) (orderly : s.tables.Orderly)
    (presents : call.Presents) (chargeable : call.Chargeable s) :
    Agree (Replies ids) (call.run ids s) ((call.plain s).run ids.toIdentities s.tables) := by
  have mirrors : s.Mirrors ids s.tables := ⟨rfl, booked⟩
  cases call with
  | start createdAt request => exact agree_silent (agree_startGenerationRun mirrors chargeable)
  | reconcile now runId =>
      change Agree (Replies ids) ((Budgeted.reconcileGenerationRun ids now runId).silent s)
        ((reconcileGenerationRun ids.toIdentities now true runId).silent s.tables)
      refine agree_silent (Agree.bind_same fun row found => ?_)
      exact agree_reconcileLocked mirrors orderly
        (GenerationStore.holds_of_find (requireRow_eq_ok.mp found))
  | claim now claimToken locks workerId leaseSeconds only =>
      exact agree_silent (agree_claimGenerationAttempt mirrors)
  | renew now attemptId claimToken leaseSeconds =>
      exact agree_silent (agree_renewGenerationAttemptClaim mirrors orderly)
  | settle now attemptId claimToken settlement usage =>
      exact agree_silent (agree_settleGenerationAttempt mirrors orderly presents chargeable)
  | completeReview now runId evidence => exact agree_silent (agree_completeGenerationReview mirrors)

/-- A call that cannot be charged is rejected. -/
theorem rejected_of_unchargeable (unchargeable : ¬call.Chargeable s) {t : BudgetedStore}
    {reply : Unit} (ok : call.run ids s = .ok (t, reply)) : t = s := by
  cases call with
  | start createdAt request =>
      obtain ⟨_, ok⟩ := Transaction.silent_eq_ok.mp ok
      obtain ⟨_, bounded, _⟩ := Except.bind_eq_ok.mp ok
      exact absurd (require_eq_ok.mp bounded) unchargeable
  | settle now attemptId claimToken settlement usage =>
      obtain ⟨_, ok⟩ := Transaction.silent_eq_ok.mp ok
      obtain ⟨-, -, ok⟩ := Except.bind_eq_ok.mp ok
      obtain ⟨-, -, ok⟩ := Except.bind_eq_ok.mp ok
      obtain ⟨⟨attempt, run, generator⟩, bound, ok⟩ := Except.bind_eq_ok.mp ok
      obtain ⟨found, -⟩ := boundAttempt_eq_ok bound
      obtain ⟨-, -, ok⟩ := Except.bind_eq_ok.mp ok
      dsimp only at ok
      split at ok
      · obtain ⟨-, -, ok⟩ := Except.bind_eq_ok.mp ok
        cases ok
        rfl
      · exfalso
        apply unchargeable
        intro attempt' columns found' known held
        obtain rfl : attempt = attempt' := Option.some.inj (found.symm.trans found')
        rw [if_pos held] at ok
        obtain ⟨-, -, ok⟩ := Except.bind_eq_ok.mp ok
        obtain ⟨columns', known', ok⟩ := Except.bind_eq_ok.mp ok
        obtain ⟨charged, charges, -⟩ := Except.bind_eq_ok.mp ok
        obtain rfl : columns = columns' :=
          Option.some.inj (known.symm.trans (requireRow_eq_ok.mp known'))
        exact ⟨charged, charges⟩
  | _ => exact absurd trivial unchargeable

end Calls

/-! ## Steps and runs -/

section Runs

variable {ids : LedgerIdentities} {s s' : BudgetedStore}

/-- The tables are orderly, and the books are in order. -/
structure BudgetedStore.Kept (s : BudgetedStore) (ids : LedgerIdentities) : Prop where
  booked : s.Booked ids
  orderly : s.tables.Orderly

/-- **A step of the authority with its ledger** is a step of the one without, or nothing. -/
theorem BudgetedStep.cases {call : BudgetedCall} (step : BudgetedStep ids s call s')
    (kept : s.Kept ids) (presents : call.Presents) :
    s'.Kept ids ∧ (s' = s ∨
      GenerationStep ids.toIdentities s.tables (call.plain s) s'.tables) := by
  rcases commit_cases (call.run ids) s with ⟨e, -, same⟩ | ⟨t, reply, ok, same⟩
  · rw [step, same]
    exact ⟨kept, .inl rfl⟩
  rw [step, same]
  by_cases chargeable : call.Chargeable s
  · obtain ⟨⟨t', reply'⟩, ok', ⟨rfl, booked⟩, -⟩ :=
      (agree_call kept.booked kept.orderly presents chargeable).of_ok ok
    refine ⟨⟨booked, kept.orderly.moves (moves_call ok')⟩, .inr ?_⟩
    exact (congrArg Prod.fst (commit_of_ok ok')).symm
  · obtain rfl := rejected_of_unchargeable chargeable ok
    exact ⟨kept, .inl rfl⟩

/-- The books are in order along every run. -/
theorem BudgetedStore.Kept.of_steps {trace : List BudgetedCall}
    (run : Steps (BudgetedStep ids) {} trace s) (presents : ∀ call ∈ trace, call.Presents) :
    s.Kept ids ∧ ∃ plain, Steps (GenerationStep ids.toIdentities) {} plain s.tables := by
  suffices keeps : ∀ {s t : BudgetedStore} {trace : List BudgetedCall},
      Steps (BudgetedStep ids) s trace t → (∀ call ∈ trace, call.Presents) →
        (s.Kept ids ∧ ∃ plain, Steps (GenerationStep ids.toIdentities) {} plain s.tables) →
          t.Kept ids ∧ ∃ plain, Steps (GenerationStep ids.toIdentities) {} plain t.tables from
    keeps run presents
      ⟨⟨BudgetedStore.booked_empty ids, GenerationStore.orderly_empty⟩, [], .refl _⟩
  intro s t trace run presents kept
  induction run with
  | refl => exact kept
  | tail _ step ih =>
      obtain ⟨kept, plain, reached⟩ := ih fun call member => presents call (by simp [member])
      obtain ⟨kept', same | taken⟩ := step.cases kept (presents _ (by simp))
      · exact ⟨kept', plain, same ▸ reached⟩
      · exact ⟨kept', plain ++ [_], reached.trans (.single taken)⟩

end Runs

/-- The store after a list of calls. -/
def runBudgetedCalls (ids : LedgerIdentities) (calls : List BudgetedCall) (s : BudgetedStore) :
    BudgetedStore :=
  calls.foldl (fun s call => (commit (call.run ids) s).1) s

/-- Running a list of calls is a run. -/
theorem steps_runBudgetedCalls (ids : LedgerIdentities) (calls : List BudgetedCall)
    (s : BudgetedStore) : Steps (BudgetedStep ids) s calls (runBudgetedCalls ids calls s) := by
  induction calls generalizing s with
  | nil => exact .refl s
  | cons call calls ih => exact (Steps.single rfl).trans (ih (commit (call.run ids) s).1)

/-- Identifiers of the entries, four for each attempt. -/
def patientLedger : LedgerIdentities :=
  { patientIds with
    generationBudgetEntryIdFor := fun attemptId entryType => attemptId * 4 +
      match entryType with
      | .reserve => 0
      | .settle => 1
      | .release => 2 }

/-- The calls of the run with a retry, with the ledger. -/
def patientBudgetedCalls : List BudgetedCall :=
  [.start 0 patientStart, .reconcile 1 1, .claim 2 7 {} "worker" 60 none,
    .reconcile (seconds 100) 1]

theorem patientBudgetedCalls_present : ∀ call ∈ patientBudgetedCalls, call.Presents := by
  simp [patientBudgetedCalls, BudgetedCall.Presents]

/-- **The ledger is transparent.** In every store that the authority reaches, a call that can be
accounted for has the same outcome as without the ledger: it commits the same tables, or it is
rolled back with the same error. Any other call changes nothing. -/
theorem ledger_transparent {ids : LedgerIdentities} {trace : List BudgetedCall}
    {s : BudgetedStore} (run : Steps (BudgetedStep ids) {} trace s)
    (presents : ∀ call ∈ trace, call.Presents) (call : BudgetedCall)
    (presented : call.Presents) :
    (call.Chargeable s →
      (commit (call.run ids) s).1.tables =
          (commit ((call.plain s).run ids.toIdentities) s.tables).1 ∧
        (commit (call.run ids) s).2 =
          (commit ((call.plain s).run ids.toIdentities) s.tables).2) ∧
      (¬call.Chargeable s → (commit (call.run ids) s).1 = s) ∧
        ∃ plain, Steps (GenerationStep ids.toIdentities) {} plain s.tables := by
  obtain ⟨kept, reached⟩ := BudgetedStore.Kept.of_steps run presents
  refine ⟨fun chargeable => ?_, fun unchargeable => ?_, reached⟩
  · have agree := agree_call kept.booked kept.orderly presented chargeable
    rcases commit_cases (call.run ids) s with ⟨e, raised, same⟩ | ⟨t, reply, ok, same⟩
    · obtain raised' := agree.error_of raised
      rw [same, commit_of_error raised']
      exact ⟨rfl, rfl⟩
    · obtain ⟨⟨t', reply'⟩, ok', ⟨rfl, -⟩, rfl⟩ := agree.of_ok ok
      rw [same, commit_of_ok ok']
      exact ⟨rfl, rfl⟩
  · rcases commit_cases (call.run ids) s with ⟨e, -, same⟩ | ⟨t, reply, ok, same⟩
    · rw [same]
    · rw [same]
      exact rejected_of_unchargeable unchargeable ok

/-- The calls up to the claim of the second attempt. -/
def patientClaimedCalls : List BudgetedCall :=
  patientBudgetedCalls ++ [.claim (seconds 101) 8 {} "worker" 60 none]

/-- The settlement of the second attempt with what its runner has used. -/
def patientSettle : BudgetedCall :=
  .settle (seconds 102) 303 8 patientSettlement ⟨900, 200, some 40⟩

theorem patientSettle_presents : patientSettle.Presents := by
  rintro batch ⟨⟩
  exact ⟨by decide, by simp [patientBatch], by simp [patientBatch], by simp [patientBatch],
    List.nodup_singleton _, List.nodup_singleton _⟩

theorem patientSettle_chargeable :
    patientSettle.Chargeable (runBudgetedCalls patientLedger patientClaimedCalls {}) := by
  intro attempt columns _ found _
  have checked : ((runBudgetedCalls patientLedger patientClaimedCalls {}).attemptUsages.find?
      303).map (fun columns => (Budgeted.chargedSettlement patientSettlement ⟨900, 200, some 40⟩
        columns.reserved).toBool) = some true := by
    decide +kernel
  rw [found] at checked
  cases charged : Budgeted.chargedSettlement patientSettlement ⟨900, 200, some 40⟩
      columns.reserved with
  | error raised =>
      rw [Option.map_some, charged] at checked
      cases checked
  | ok usage => exact ⟨usage, rfl⟩

/-- The second attempt is settled and charged: its run has the same tables as without the
ledger. -/
theorem ledger_transparent_patient :
    (commit (patientSettle.run patientLedger)
      (runBudgetedCalls patientLedger patientClaimedCalls {})).1.tables =
    (commit (GenerationCall.run patientLedger.toIdentities
      (patientSettle.plain (runBudgetedCalls patientLedger patientClaimedCalls {})))
      (runBudgetedCalls patientLedger patientClaimedCalls {}).tables).1 ∧
    (commit (patientSettle.run patientLedger)
      (runBudgetedCalls patientLedger patientClaimedCalls {})).2 = .ok () := by
  obtain ⟨tables, reply⟩ := (ledger_transparent
    (steps_runBudgetedCalls patientLedger patientClaimedCalls {})
    (by simp [patientClaimedCalls, patientBudgetedCalls, BudgetedCall.Presents]) patientSettle
    patientSettle_presents).1 patientSettle_chargeable
  refine ⟨tables, reply.trans ?_⟩
  decide +kernel

/-- What the models of a row check about its usage when it is read. -/
structure AttemptUsage.Admits (usage : AttemptUsage) (attempt : GeneratorAttempt) : Prop where
  reserved : usage.reserved.Valid
  actual : usage.actual.Valid
  pending : attempt.state = .pending → usage.actual = {}
  executed : attempt.state = .succeeded ∨ attempt.state = .failed → usage.actual.attempts = 1

theorem BudgetedStore.Booked.admits {ids : LedgerIdentities} {s : BudgetedStore}
    (booked : s.Booked ids) {attempt : GeneratorAttempt} (member : attempt ∈ s.tables.attempts) :
    ∃ usage, s.attemptUsages.find? attempt.attemptId = some usage ∧ usage.Admits attempt := by
  obtain ⟨usage, found, run, inRuns, -, generator, planned, accounts⟩ :=
    booked.attempts attempt member
  have valid : usage.reserved.Valid := by
    rw [accounts.reserved]
    exact ((booked.bounded run inRuns).generators generator
      (List.mem_of_getElem? planned)).reserved_valid
  refine ⟨usage, found, valid, ?_, fun pending => accounts.opened (by rw [pending]; rfl), ?_⟩
  · cases ended : attempt.state.terminal with
    | false =>
        rw [accounts.opened ended, valid_iff]
        intro dimension
        rw [GenerationBudgetUsage.amount_zero]
        exact Nat.zero_le _
    | true =>
        have within := usageIsWithinReservation_iff.mp (accounts.ended ended).2
        exact valid_iff.mpr fun dimension =>
          (within dimension).trans (valid_iff.mp valid dimension)
  · rintro (succeeded | failed)
    · exact (accounts.ended (by rw [succeeded]; rfl)).1
    · exact (accounts.ended (by rw [failed]; rfl)).1

/-- **Budget safety.** In every store that the authority reaches, what the open attempts of a run
have reserved and what its settled attempts have consumed can be added up, the sum fits the
budget of the plan, and so does the usage in the row of the run. The usage of an attempt is one
that its row admits. -/
theorem budget_safety {ids : LedgerIdentities} {trace : List BudgetedCall} {s : BudgetedStore}
    (run : Steps (BudgetedStep ids) {} trace s) (presents : ∀ call ∈ trace, call.Presents) :
    (∀ row ∈ s.tables.runs,
      (∃ reserved consumed total,
        Budgeted.outstandingReserved s row.generationRunId = .ok reserved ∧
          Budgeted.consumedBudget s row.generationRunId = .ok consumed ∧
            reserved.plus consumed = .ok total ∧ total.Fits row.plan.budget) ∧
        ∃ usage, s.runUsages.find? row.generationRunId = some usage ∧
          usage.Fits row.plan.budget) ∧
      ∀ attempt ∈ s.tables.attempts, ∃ usage,
        s.attemptUsages.find? attempt.attemptId = some usage ∧ usage.Admits attempt := by
  obtain ⟨kept, -⟩ := BudgetedStore.Kept.of_steps run presents
  refine ⟨fun row stored => ?_, fun attempt member => kept.booked.admits member⟩
  obtain ⟨reserved, consumed, total, reserves, consumes, added, ⟨-, -, fits⟩, -⟩ :=
    kept.booked.sums_fit kept.orderly stored
  exact ⟨⟨reserved, consumed, total, reserves, consumes, added, fits⟩, kept.booked.runs row stored⟩

theorem budget_safety_patient :
    ∃ row ∈ (runBudgetedCalls patientLedger patientBudgetedCalls {}).tables.runs,
      (∃ reserved consumed total,
        Budgeted.outstandingReserved (runBudgetedCalls patientLedger patientBudgetedCalls {})
            row.generationRunId = .ok reserved ∧
          Budgeted.consumedBudget (runBudgetedCalls patientLedger patientBudgetedCalls {})
              row.generationRunId = .ok consumed ∧
            reserved.plus consumed = .ok total ∧ total.Fits row.plan.budget) ∧
        ∃ usage, (runBudgetedCalls patientLedger patientBudgetedCalls {}).runUsages.find?
            row.generationRunId = some usage ∧ usage.Fits row.plan.budget := by
  have checked : (runBudgetedCalls patientLedger patientBudgetedCalls {}).tables.runs.rows.any
      (fun _ => true) = true := by
    decide +kernel
  obtain ⟨row, stored, -⟩ := List.any_eq_true.mp checked
  exact ⟨row, stored, (budget_safety (steps_runBudgetedCalls patientLedger patientBudgetedCalls {})
    patientBudgetedCalls_present).1 row stored⟩

/-- No two entries that the attempts may have share an identifier. -/
def BudgetedStore.Unclashing (s : BudgetedStore) (ids : LedgerIdentities) : Prop :=
  ∀ attempt ∈ s.tables.attempts, ∀ entry ∈ s.ledger, ∀ entryType,
    entry.ledgerEntryId = ids.generationBudgetEntryIdFor attempt.attemptId entryType →
      entry.attemptId = attempt.attemptId ∧ entry.entryType = entryType

/-- The ledger has the entry, and no other of its attempt and its type. -/
def BudgetedStore.OnlyEntry (s : BudgetedStore) (entry : GenerationBudgetLedgerEntry) : Prop :=
  entry ∈ s.ledger ∧ ∀ other ∈ s.ledger, other.attemptId = entry.attemptId →
    other.entryType = entry.entryType → other = entry

/-- **What the ledger says about an attempt.** There is one reservation. When the attempt has
ended there is one settlement, of what it is charged with, and before that there is none. -/
structure BudgetedStore.Recorded (s : BudgetedStore) (attempt : GeneratorAttempt)
    (usage : AttemptUsage) : Prop where
  reserved : ∃ entry, s.OnlyEntry entry ∧ entry.attemptId = attempt.attemptId ∧
    entry.entryType = .reserve ∧ entry.reserved = usage.reserved ∧ entry.actual = {}
  settled : attempt.state.terminal = true → ∃ entry, s.OnlyEntry entry ∧
    entry.attemptId = attempt.attemptId ∧ entry.entryType = .settle ∧
      entry.reserved = usage.reserved ∧ entry.actual = usage.actual
  unsettled : attempt.state.terminal = false → ∀ entry ∈ s.ledger,
    entry.attemptId = attempt.attemptId → entry.entryType = .reserve

section Exactness

variable {ids : LedgerIdentities} {s : BudgetedStore}

/-- The entry with the identifier of an attempt and a type is the only one of them. -/
theorem BudgetedStore.Booked.onlyEntry (booked : s.Booked ids) (unclashing : s.Unclashing ids)
    {attempt : GeneratorAttempt} (member : attempt ∈ s.tables.attempts)
    {entryType : GenerationBudgetEntryType}
    (known : (s.ledger.find?
      (ids.generationBudgetEntryIdFor attempt.attemptId entryType)).isSome) :
    ∃ entry, s.OnlyEntry entry ∧ entry.attemptId = attempt.attemptId ∧
      entry.entryType = entryType := by
  obtain ⟨entry, found⟩ := Option.isSome_iff_exists.mp known
  have stored := Table.mem_of_find? found
  have identity : entry.ledgerEntryId = _ := Table.key_of_find? found
  obtain ⟨ofAttempt, ofType⟩ := unclashing attempt member entry stored entryType identity
  refine ⟨entry, ⟨stored, fun other inLedger sameAttempt sameType => ?_⟩, ofAttempt, ofType⟩
  refine Table.eq_of_key_eq inLedger stored ((booked.entries other inLedger).identity.trans ?_)
  rw [sameAttempt, sameType]
  exact (booked.entries entry stored).identity.symm

/-- What an entry of an attempt says. -/
theorem BudgetedStore.Booked.entry_of (booked : s.Booked ids) {attempt : GeneratorAttempt}
    (member : attempt ∈ s.tables.attempts) {usage : AttemptUsage}
    (columns : s.attemptUsages.find? attempt.attemptId = some usage)
    {entry : GenerationBudgetLedgerEntry} (stored : entry ∈ s.ledger)
    (ofAttempt : entry.attemptId = attempt.attemptId) : entry.reserved = usage.reserved ∧
      (entry.entryType = .reserve ∧ entry.actual = {} ∨
        entry.entryType = .settle ∧ attempt.state.terminal = true ∧
          entry.actual = usage.actual) := by
  obtain ⟨owner, inAttempts, owns, -, known, found, reserved, kind⟩ :=
    (booked.entries entry stored).booked
  obtain rfl : owner = attempt := Table.eq_of_key_eq inAttempts member (owns.trans ofAttempt)
  rw [ofAttempt, columns] at found
  cases found
  exact ⟨reserved, kind⟩

theorem BudgetedStore.Booked.recorded (booked : s.Booked ids) (unclashing : s.Unclashing ids)
    {attempt : GeneratorAttempt} (member : attempt ∈ s.tables.attempts) {usage : AttemptUsage}
    (columns : s.attemptUsages.find? attempt.attemptId = some usage) :
    s.Recorded attempt usage where
  reserved := by
    obtain ⟨entry, only, ofAttempt, ofType⟩ :=
      booked.onlyEntry unclashing member (booked.reserves attempt member)
    obtain ⟨reserved, kind⟩ := booked.entry_of member columns only.1 ofAttempt
    refine ⟨entry, only, ofAttempt, ofType, reserved, ?_⟩
    rcases kind with ⟨-, nothing⟩ | ⟨settles, -⟩
    · exact nothing
    · rw [ofType] at settles
      cases settles
  settled ended := by
    obtain ⟨entry, only, ofAttempt, ofType⟩ :=
      booked.onlyEntry unclashing member (booked.settles attempt member ended)
    obtain ⟨reserved, kind⟩ := booked.entry_of member columns only.1 ofAttempt
    refine ⟨entry, only, ofAttempt, ofType, reserved, ?_⟩
    rcases kind with ⟨reserves, -⟩ | ⟨-, -, charged⟩
    · rw [ofType] at reserves
      cases reserves
    · exact charged
  unsettled isOpen := by
    intro entry stored ofAttempt
    rcases (booked.entry_of member columns stored ofAttempt).2 with ⟨reserves, -⟩ | ⟨-, ended, -⟩
    · exact reserves
    · rw [isOpen] at ended
      cases ended

/-- Every attempt that has ended is settled. -/
theorem BudgetedStore.Booked.sum_settled_eq (booked : s.Booked ids)
    (unclashing : s.Unclashing ids) (runId : Uuid) (dimension : BudgetDimension) :
    ((Budgeted.settlements s runId).map fun entry => entry.actual.amount dimension).sum =
      ((s.endedIds runId).map (s.consumedBy dimension)).sum := by
  rw [booked.sum_settled]
  refine (List.Perm.map _ ((List.perm_ext_iff_of_nodup (booked.settlements_distinct runId)
    (s.tables.attempts.keys_nodup.sublist (List.filter_sublist.map _))).mpr ?_)).sum_eq
  intro attemptId
  constructor
  · intro member
    obtain ⟨entry, chosen, rfl⟩ := List.mem_map.mp member
    exact (booked.settlement chosen).2.1
  · intro member
    obtain ⟨attempt, chosen, rfl⟩ := List.mem_map.mp member
    obtain ⟨stored, ended⟩ := List.mem_filter.mp chosen
    simp only [Bool.and_eq_true, decide_eq_true_eq] at ended
    obtain ⟨entry, only, ofAttempt, ofType⟩ :=
      booked.onlyEntry unclashing stored (booked.settles attempt stored ended.2)
    obtain ⟨owner, inAttempts, owns, ofRun, -⟩ := (booked.entries entry only.1).booked
    obtain rfl : owner = attempt := Table.eq_of_key_eq inAttempts stored (owns.trans ofAttempt)
    refine List.mem_map.mpr ⟨entry, List.mem_filter.mpr ⟨only.1, ?_⟩, ofAttempt⟩
    simp [← ofRun, ended.1, ofType]

end Exactness

/-- **The ledger is exact.** In every store that the authority reaches, if no two identifiers of
entries clash, the ledger records for every attempt one reservation and, when it has ended, one
settlement with what it is charged with; and what a reconciliation adds up for a run is what its
attempts are charged with. -/
theorem ledger_exact {ids : LedgerIdentities} {trace : List BudgetedCall} {s : BudgetedStore}
    (run : Steps (BudgetedStep ids) {} trace s) (presents : ∀ call ∈ trace, call.Presents)
    (unclashing : s.Unclashing ids) :
    (∀ attempt ∈ s.tables.attempts, ∃ usage,
      s.attemptUsages.find? attempt.attemptId = some usage ∧ s.Recorded attempt usage) ∧
    ∀ row ∈ s.tables.runs, ∃ reserved consumed total,
      Budgeted.outstandingReserved s row.generationRunId = .ok reserved ∧
        Budgeted.consumedBudget s row.generationRunId = .ok consumed ∧
          reserved.plus consumed = .ok total ∧ ∀ dimension, total.amount dimension =
            ((s.tables.attempts.rows.filter fun attempt =>
              decide (attempt.generationRunId = row.generationRunId)).map
                (s.charge dimension)).sum := by
  obtain ⟨kept, -⟩ := BudgetedStore.Kept.of_steps run presents
  constructor
  · intro attempt member
    obtain ⟨usage, columns, -⟩ := kept.booked.attempts attempt member
    exact ⟨usage, columns, kept.booked.recorded unclashing member columns⟩
  · intro row stored
    obtain ⟨reserved, consumed, total, reserves, consumes, added, -, amounts⟩ :=
      kept.booked.sums_fit kept.orderly stored
    refine ⟨reserved, consumed, total, reserves, consumes, added, fun dimension => ?_⟩
    rw [amounts, kept.booked.sum_charges, kept.booked.sum_settled_eq unclashing]

/-- The attempt that failed has been settled, and its retry has a reservation. -/
theorem ledger_exact_patient :
    ∃ attempt ∈ (runBudgetedCalls patientLedger patientBudgetedCalls {}).tables.attempts,
      ∃ usage, (runBudgetedCalls patientLedger patientBudgetedCalls {}).attemptUsages.find?
        attempt.attemptId = some usage ∧
          (runBudgetedCalls patientLedger patientBudgetedCalls {}).Recorded attempt usage := by
  have some_ : (runBudgetedCalls patientLedger patientBudgetedCalls {}).tables.attempts.rows.any
      (fun _ => true) = true := by
    decide +kernel
  obtain ⟨attempt, stored, -⟩ := List.any_eq_true.mp some_
  refine ⟨attempt, stored, (ledger_exact
    (steps_runBudgetedCalls patientLedger patientBudgetedCalls {})
    patientBudgetedCalls_present ?_).1 attempt stored⟩
  have checked : ((runBudgetedCalls patientLedger patientBudgetedCalls {}).tables.attempts.rows.all
      fun attempt => (runBudgetedCalls patientLedger patientBudgetedCalls {}).ledger.rows.all
        fun entry => [GenerationBudgetEntryType.reserve, .settle, .release].all fun entryType =>
          !decide (entry.ledgerEntryId =
            patientLedger.generationBudgetEntryIdFor attempt.attemptId entryType) ||
              decide (entry.attemptId = attempt.attemptId ∧ entry.entryType = entryType)) =
                true := by
    decide +kernel
  simp only [List.all_eq_true, Bool.or_eq_true, Bool.not_eq_true', decide_eq_false_iff_not,
    decide_eq_true_eq] at checked
  intro attempt stored entry inLedger entryType same
  refine (checked attempt stored entry inLedger entryType ?_).resolve_left (not_not.mpr same)
  cases entryType <;> simp

end Agent

end HcuAutoOpt
