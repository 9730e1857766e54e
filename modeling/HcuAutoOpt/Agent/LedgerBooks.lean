import HcuAutoOpt.Agent.BudgetShares

/-!
# The books of Agent generation

The books are in order (`BudgetedStore.Booked`) when every attempt has a row for its usage, the
reservation of its generator and the usage it ended with, and every entry of the ledger states
what such a row does. What the open attempts of a run have reserved and what its settled ones
have consumed can then be added up, and the sum is within the budget of its plan
(`Booked.sums_fit`).
-/

set_option autoImplicit false

namespace HcuAutoOpt

namespace Agent

open Foundation Budgeted

/-- The usage of an attempt of the generator: its reservation, and when it has ended what it is
charged with. A failed attempt keeps no proposals. -/
structure AttemptUsage.Accounts (usage : AttemptUsage) (attempt : GeneratorAttempt)
    (generator : GeneratorPlanEntry) : Prop where
  reserved : usage.reserved = reservedUsageFor generator
  opened : attempt.state.terminal = false → usage.actual = {}
  ended : attempt.state.terminal = true →
    usage.actual.attempts = 1 ∧ usageIsWithinReservation usage.actual usage.reserved = true
  failed : attempt.state = .failed → usage.actual.proposals = 0

/-- The run and the generator of an attempt, and its usage. -/
def BudgetedStore.AccountsFor (s : BudgetedStore) (attempt : GeneratorAttempt) : Prop :=
  ∃ usage, s.attemptUsages.find? attempt.attemptId = some usage ∧
    ∃ run ∈ s.tables.runs, run.generationRunId = attempt.generationRunId ∧
      ∃ generator, run.plan.generators[attempt.generatorOrdinal]? = some generator ∧
        usage.Accounts attempt generator

/-- The entry states what the row of its attempt does. -/
structure GenerationBudgetLedgerEntry.Books (entry : GenerationBudgetLedgerEntry)
    (ids : LedgerIdentities) (s : BudgetedStore) : Prop where
  identity : entry.ledgerEntryId =
    ids.generationBudgetEntryIdFor entry.attemptId entry.entryType
  keyed : entry.idempotencyKey =
    generationBudgetIdempotencyKey entry.attemptId entry.entryType
  booked : ∃ attempt ∈ s.tables.attempts, attempt.attemptId = entry.attemptId ∧
    attempt.generationRunId = entry.generationRunId ∧
      ∃ usage, s.attemptUsages.find? entry.attemptId = some usage ∧
        entry.reserved = usage.reserved ∧
          (entry.entryType = .reserve ∧ entry.actual = {} ∨
            entry.entryType = .settle ∧ attempt.state.terminal = true ∧
              entry.actual = usage.actual)

/-- **The books are in order.** -/
structure BudgetedStore.Booked (s : BudgetedStore) (ids : LedgerIdentities) : Prop where
  bounded : ∀ run ∈ s.tables.runs, run.plan.Bounded
  attempts : ∀ attempt ∈ s.tables.attempts, s.AccountsFor attempt
  owned : ∀ usage ∈ s.attemptUsages, ∃ attempt ∈ s.tables.attempts,
    attempt.attemptId = usage.attemptId
  reserves : ∀ attempt ∈ s.tables.attempts,
    (s.ledger.find? (ids.generationBudgetEntryIdFor attempt.attemptId .reserve)).isSome
  settles : ∀ attempt ∈ s.tables.attempts, attempt.state.terminal = true →
    (s.ledger.find? (ids.generationBudgetEntryIdFor attempt.attemptId .settle)).isSome
  entries : ∀ entry ∈ s.ledger, entry.Books ids s
  runs : ∀ run ∈ s.tables.runs, ∃ usage,
    s.runUsages.find? run.generationRunId = some usage ∧ usage.Fits run.plan.budget
  ownedRuns : ∀ usage ∈ s.runUsages, ∃ run ∈ s.tables.runs,
    run.generationRunId = usage.generationRunId

theorem BudgetedStore.booked_empty (ids : LedgerIdentities) :
    ({} : BudgetedStore).Booked ids where
  bounded run member := absurd member (Table.not_mem_empty run)
  attempts attempt member := absurd member (Table.not_mem_empty attempt)
  owned usage member := absurd member (Table.not_mem_empty usage)
  reserves attempt member := absurd member (Table.not_mem_empty attempt)
  settles attempt member := absurd member (Table.not_mem_empty attempt)
  entries entry member := absurd member (Table.not_mem_empty entry)
  runs run member := absurd member (Table.not_mem_empty run)
  ownedRuns usage member := absurd member (Table.not_mem_empty usage)

/-! ## Adding up -/

section Sums

variable {s : BudgetedStore} {ids : LedgerIdentities} {run : GenerationRun}

/-- What an attempt has reserved, or has consumed when it has ended. -/
def BudgetedStore.charge (s : BudgetedStore) (dimension : BudgetDimension)
    (attempt : GeneratorAttempt) : Nat :=
  match s.attemptUsages.find? attempt.attemptId with
  | none => 0
  | some usage =>
      if attempt.state.terminal then usage.actual.amount dimension
      else usage.reserved.amount dimension

/-- Charges are within reservations. -/
theorem BudgetedStore.Booked.charge_le (booked : s.Booked ids) {attempt : GeneratorAttempt}
    (member : attempt ∈ s.tables.attempts) (stored : run ∈ s.tables.runs)
    (ofRun : attempt.generationRunId = run.generationRunId) {generator : GeneratorPlanEntry}
    (planned : run.plan.generators[attempt.generatorOrdinal]? = some generator)
    (dimension : BudgetDimension) :
    s.charge dimension attempt ≤ (reservedUsageFor generator).amount dimension := by
  obtain ⟨usage, found, other, inRuns, ofOther, entry, planned', accounts⟩ :=
    booked.attempts attempt member
  obtain rfl : other = run := Table.eq_of_key_eq inRuns stored (ofOther.trans ofRun)
  obtain rfl : entry = generator := Option.some.inj (planned'.symm.trans planned)
  unfold BudgetedStore.charge
  rw [found, ← accounts.reserved]
  dsimp only
  split
  · rename_i ended
    exact usageIsWithinReservation_iff.mp (accounts.ended ended).2 dimension
  · exact Nat.le_refl _

theorem BudgetedStore.Booked.charge_failed (booked : s.Booked ids) {attempt : GeneratorAttempt}
    (member : attempt ∈ s.tables.attempts) (failed : attempt.state = .failed) :
    s.charge .proposals attempt = 0 := by
  obtain ⟨usage, found, _, _, _, _, _, accounts⟩ := booked.attempts attempt member
  unfold BudgetedStore.charge
  rw [found, failed]
  exact accounts.failed failed

/-- The charges of a run are within its budget. -/
theorem BudgetedStore.Booked.sum_charges_le (booked : s.Booked ids) (orderly : s.tables.Orderly)
    (stored : run ∈ s.tables.runs) (dimension : BudgetDimension) :
    ((s.tables.attempts.rows.filter fun attempt =>
      decide (attempt.generationRunId = run.generationRunId)).map (s.charge dimension)).sum ≤
        run.plan.budget.limit dimension := by
  refine Agent.sum_charges_le orderly.sound (orderly.scheduled run stored) stored
    (booked.bounded run stored) ?_ ?_
  · intro attempt member ofRun generator planned
    exact booked.charge_le member stored ofRun planned dimension
  · rintro rfl attempt member failed
    exact booked.charge_failed member failed

/-- The reservations of open attempts are their charges. -/
theorem BudgetedStore.Booked.sum_open (booked : s.Booked ids) (runId : Uuid)
    (dimension : BudgetDimension) :
    ((openReservations s runId).map fun usage => usage.amount dimension).sum =
      ((s.tables.attempts.rows.filter fun attempt =>
        decide (attempt.generationRunId = runId) &&
          decide (attempt.state = .pending ∨ attempt.state = .running)).map
            (s.charge dimension)).sum := by
  unfold openReservations
  have known : ∀ attempt ∈ s.tables.attempts.rows.filter (fun attempt =>
      decide (attempt.generationRunId = runId) &&
        decide (attempt.state = .pending ∨ attempt.state = .running)),
      ∃ usage, s.attemptUsages.find? attempt.attemptId = some usage ∧
        s.charge dimension attempt = usage.reserved.amount dimension := by
    intro attempt chosen
    obtain ⟨member, isOpen⟩ := List.mem_filter.mp chosen
    obtain ⟨usage, found, -⟩ := booked.attempts attempt member
    refine ⟨usage, found, ?_⟩
    simp only [Bool.and_eq_true, decide_eq_true_eq] at isOpen
    have waits : attempt.state = .pending ∨ attempt.state = .running := isOpen.2
    unfold BudgetedStore.charge
    rw [found]
    rcases waits with pending | running
    · rw [pending]
      rfl
    · rw [running]
      rfl
  revert known
  generalize s.tables.attempts.rows.filter (fun attempt =>
    decide (attempt.generationRunId = runId) &&
      decide (attempt.state = .pending ∨ attempt.state = .running)) = items
  intro known
  induction items with
  | nil => rfl
  | cons attempt items ih =>
      obtain ⟨usage, found, charged⟩ := known attempt List.mem_cons_self
      rw [List.filterMap_cons_some (b := usage.reserved) (by rw [found]; rfl), List.map_cons,
        List.sum_cons, List.map_cons, List.sum_cons, charged,
        ih fun other later => known other (List.mem_cons_of_mem attempt later)]

/-- What an attempt has consumed, by its identifier. -/
def BudgetedStore.consumedBy (s : BudgetedStore) (dimension : BudgetDimension)
    (attemptId : Uuid) : Nat :=
  match s.attemptUsages.find? attemptId with
  | none => 0
  | some usage => usage.actual.amount dimension

/-- The attempts of a run that have ended. -/
def BudgetedStore.endedIds (s : BudgetedStore) (runId : Uuid) : List Uuid :=
  (s.tables.attempts.rows.filter fun attempt =>
    decide (attempt.generationRunId = runId) && attempt.state.terminal).map
      GeneratorAttempt.attemptId

/-- A settlement is that of an attempt which has ended, with what it is charged with. -/
theorem BudgetedStore.Booked.settlement (booked : s.Booked ids) {runId : Uuid}
    {entry : GenerationBudgetLedgerEntry} (chosen : entry ∈ settlements s runId) :
    entry.ledgerEntryId = ids.generationBudgetEntryIdFor entry.attemptId .settle ∧
      entry.attemptId ∈ s.endedIds runId ∧ ∀ dimension,
        entry.actual.amount dimension = s.consumedBy dimension entry.attemptId := by
  obtain ⟨member, ofRun⟩ := List.mem_filter.mp chosen
  simp only [Bool.and_eq_true, decide_eq_true_eq] at ofRun
  have books := booked.entries entry member
  obtain ⟨attempt, stored, sameId, sameRun, usage, found, -, kind⟩ := books.booked
  rcases kind with ⟨reserves, -⟩ | ⟨-, ended, charged⟩
  · rw [ofRun.2] at reserves
    cases reserves
  refine ⟨ofRun.2 ▸ books.identity, List.mem_map.mpr ⟨attempt, ?_, sameId⟩, fun dimension => ?_⟩
  · exact List.mem_filter.mpr ⟨stored, by simp [sameRun, ofRun.1, ended]⟩
  · unfold BudgetedStore.consumedBy
    rw [found, charged]

/-- No attempt is settled twice. -/
theorem BudgetedStore.Booked.settlements_distinct (booked : s.Booked ids) (runId : Uuid) :
    ((settlements s runId).map GenerationBudgetLedgerEntry.attemptId).Nodup := by
  refine List.Nodup.map_on ?_ ((s.ledger.keys_nodup.of_map _).filter _)
  intro first member second member' same
  refine Table.eq_of_key_eq (List.mem_filter.mp member).1 (List.mem_filter.mp member').1 ?_
  exact (booked.settlement member).1.trans (same ▸ (booked.settlement member').1.symm)

theorem BudgetedStore.Booked.sum_settled (booked : s.Booked ids) (runId : Uuid)
    (dimension : BudgetDimension) :
    ((settlements s runId).map fun entry => entry.actual.amount dimension) =
      ((settlements s runId).map GenerationBudgetLedgerEntry.attemptId).map
        (s.consumedBy dimension) := by
  rw [List.map_map]
  exact List.map_congr_left fun entry member => (booked.settlement member).2.2 dimension

/-- The charges of the attempts that have ended. -/
theorem BudgetedStore.sum_ended (s : BudgetedStore) (runId : Uuid) (dimension : BudgetDimension) :
    ((s.tables.attempts.rows.filter fun attempt =>
      decide (attempt.generationRunId = runId) && attempt.state.terminal).map
        (s.charge dimension)) = (s.endedIds runId).map (s.consumedBy dimension) := by
  unfold BudgetedStore.endedIds
  rw [List.map_map]
  refine List.map_congr_left fun attempt member => ?_
  have ended : attempt.state.terminal = true := by
    have chosen := (List.mem_filter.mp member).2
    simp only [Bool.and_eq_true] at chosen
    exact chosen.2
  simp only [BudgetedStore.charge, Function.comp_apply, BudgetedStore.consumedBy, ended, if_true]

/-- Every attempt is settled at most once, with what it is charged with. -/
theorem BudgetedStore.Booked.sum_settled_le (booked : s.Booked ids) (runId : Uuid)
    (dimension : BudgetDimension) :
    ((settlements s runId).map fun entry => entry.actual.amount dimension).sum ≤
      ((s.endedIds runId).map (s.consumedBy dimension)).sum := by
  rw [booked.sum_settled]
  refine sum_map_le_of_subset (booked.settlements_distinct runId) ?_ _
  intro attemptId member
  obtain ⟨entry, chosen, rfl⟩ := List.mem_map.mp member
  exact (booked.settlement chosen).2.1

/-- What is charged is what open attempts have reserved and what the others have consumed. -/
theorem BudgetedStore.Booked.sum_charges (booked : s.Booked ids) (runId : Uuid)
    (dimension : BudgetDimension) :
    ((s.tables.attempts.rows.filter fun attempt =>
      decide (attempt.generationRunId = runId)).map (s.charge dimension)).sum =
        ((openReservations s runId).map fun usage => usage.amount dimension).sum +
          ((s.endedIds runId).map (s.consumedBy dimension)).sum := by
  have split := List.filter_append_perm (fun attempt : GeneratorAttempt => attempt.state.terminal)
    (s.tables.attempts.rows.filter fun attempt => decide (attempt.generationRunId = runId))
  rw [← (split.map (s.charge dimension)).sum_eq, List.map_append, List.sum_append,
    List.filter_filter, List.filter_filter, booked.sum_open, ← s.sum_ended, Nat.add_comm]
  congr 3
  · refine List.filter_congr fun attempt _ => ?_
    cases attempt.state <;> simp [GeneratorAttemptState.terminal]
  · exact List.filter_congr fun attempt _ => Bool.and_comm _ _

/-- What is reserved and what is consumed are within what is charged. -/
theorem BudgetedStore.Booked.sum_le (booked : s.Booked ids) (orderly : s.tables.Orderly)
    (stored : run ∈ s.tables.runs) (dimension : BudgetDimension) :
    ((openReservations s run.generationRunId).map fun usage => usage.amount dimension).sum +
      ((settlements s run.generationRunId).map fun entry => entry.actual.amount dimension).sum ≤
        run.plan.budget.limit dimension := by
  refine le_trans ?_ (booked.sum_charges_le orderly stored dimension)
  rw [booked.sum_charges]
  exact Nat.add_le_add_left (booked.sum_settled_le run.generationRunId dimension) _

/-- **The sums of a run fit its budget**, and they can all be stated. -/
theorem BudgetedStore.Booked.sums_fit (booked : s.Booked ids) (orderly : s.tables.Orderly)
    (stored : run ∈ s.tables.runs) : ∃ reserved consumed total,
      outstandingReserved s run.generationRunId = .ok reserved ∧
        consumedBudget s run.generationRunId = .ok consumed ∧
          reserved.plus consumed = .ok total ∧ (reserved.Fits run.plan.budget ∧
            consumed.Fits run.plan.budget ∧ total.Fits run.plan.budget) ∧
            ∀ dimension, total.amount dimension =
              ((openReservations s run.generationRunId).map
                fun usage => usage.amount dimension).sum +
              ((settlements s run.generationRunId).map
                fun entry => entry.actual.amount dimension).sum := by
  have limits := (booked.bounded run stored).budget.limit_le
  have sums := booked.sum_le orderly stored
  obtain ⟨reserved, reserves, amounts⟩ := sumUsage_eq_ok
    (openReservations s run.generationRunId) fun dimension =>
      ((Nat.le_add_right _ _).trans (sums dimension)).trans (limits dimension)
  obtain ⟨consumed, consumes, amounts'⟩ := sumUsage_eq_ok
    ((settlements s run.generationRunId).map GenerationBudgetLedgerEntry.actual)
    fun dimension => by
      rw [List.map_map]
      exact ((Nat.le_add_left _ _).trans (sums dimension)).trans (limits dimension)
  have together : ∀ dimension, reserved.amount dimension + consumed.amount dimension ≤
      run.plan.budget.limit dimension := by
    intro dimension
    rw [amounts, amounts', List.map_map]
    exact sums dimension
  obtain ⟨total, added, amounts''⟩ := plus_eq_ok reserved consumed
    fun dimension => (together dimension).trans (limits dimension)
  refine ⟨reserved, consumed, total, reserves, consumes, added, ⟨fits_iff.mpr ?_, fits_iff.mpr ?_,
    fits_iff.mpr ?_⟩, ?_⟩ <;> intro dimension
  · exact (Nat.le_add_right _ _).trans (together dimension)
  · exact (Nat.le_add_left _ _).trans (together dimension)
  · rw [amounts'']
    exact together dimension
  · rw [amounts'', amounts, amounts', List.map_map]
    rfl

end Sums

end Agent

end HcuAutoOpt
