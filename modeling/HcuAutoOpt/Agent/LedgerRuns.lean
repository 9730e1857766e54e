import HcuAutoOpt.Agent.LedgerWrites

/-!
# The authority with its ledger

Every operation of the authority with its ledger agrees with the operation without: both raise
the same error, or both commit the same tables, and the books are in order again. The ledger
never stops a reconciliation, since what it adds up fits the budget of the plan.
-/

set_option autoImplicit false

namespace HcuAutoOpt

namespace Agent

open Foundation

section Operations

variable {ids : LedgerIdentities} {s : BudgetedStore} {t : GenerationStore}
variable {run : GenerationRun} {now : Timestamp}

/-- The stores mirror each other, and the replies are the same. -/
def Replies (ids : LedgerIdentities) {α : Type} (p : BudgetedStore × α)
    (q : GenerationStore × α) : Prop :=
  p.1.Mirrors ids q.1 ∧ p.2 = q.2

/-! ## Reconciliations -/

/-- A failure is charged with what was reserved, without proposals. -/
theorem conservativeFailureUsage_within {reserved : GenerationBudgetUsage}
    (once : reserved.attempts = 1) :
    usageIsWithinReservation (conservativeFailureUsage reserved) reserved = true := by
  rw [usageIsWithinReservation_iff]
  intro dimension
  cases dimension with
  | attempts => exact once.ge
  | proposals => exact Nat.zero_le _
  | _ => exact Nat.le_refl _

theorem BudgetedStore.Mirrors.columns {attempt : GeneratorAttempt} (mirrors : s.Mirrors ids t)
    (member : attempt ∈ t.attempts) : ∃ usage,
      s.attemptUsages.find? attempt.attemptId = some usage ∧ usage.reserved.attempts = 1 := by
  obtain ⟨rfl, booked⟩ := mirrors
  obtain ⟨usage, found, _, _, _, _, _, accounts⟩ := booked.attempts attempt member
  exact ⟨usage, found, congrArg GenerationBudgetUsage.attempts accounts.reserved⟩

theorem agree_failStaleAttempts (now : Timestamp) (attempts : List GeneratorAttempt)
    (mirrors : s.Mirrors ids t)
    (distinct : (attempts.map GeneratorAttempt.attemptId).Nodup)
    (known : ∀ attempt ∈ attempts, t.attempts.find? attempt.attemptId = some attempt) :
    Agree (fun s' t' => s'.Mirrors ids t') (Budgeted.failStaleAttempts ids now attempts s)
      (failStaleAttempts now attempts t) := by
  -- the attempts that are left are stored as they were read
  refine (Agree.foldlM (R := fun rest s t => s.Mirrors ids t ∧
    (rest.map GeneratorAttempt.attemptId).Nodup ∧
      ∀ attempt ∈ rest, t.attempts.find? attempt.attemptId = some attempt) ?_
        ⟨mirrors, distinct, known⟩).mono fun _ _ related => related.1
  rintro attempt rest s t ⟨mirrors, distinct, known⟩
  obtain ⟨fresh, distinct⟩ := List.nodup_cons.mp distinct
  have found := known attempt List.mem_cons_self
  by_cases stale : attempt.Stale now
  · rw [if_pos stale, if_pos stale]
    obtain ⟨usage, columns, once⟩ := mirrors.columns (Table.mem_of_find? found)
    have closes : Closes (GeneratorAttempt.failStale now) attempt usage.reserved
        (conservativeFailureUsage usage.reserved) :=
      ⟨by rw [stale.1]; rfl, rfl, rfl, conservativeFailureUsage_within once, fun _ => rfl⟩
    refine Agree.bind_ok (requireRow_eq_ok.mpr columns) ?_
    refine Agree.map_right (((agree_closeAttempt now mirrors found columns closes).knowing
      (P := fun p => ∀ other ∈ rest, p.1.attempts.find? other.attemptId = some other) ?_).mono
        fun s' p related => ⟨related.1, distinct, related.2⟩)
    rintro ⟨t', row⟩ written other later
    obtain ⟨-, -, -, -, rfl, -⟩ := writeAttempt_eq_ok.mp written
    refine (Table.find?_update_ne fun same => fresh ?_).trans
      (known other (List.mem_cons_of_mem attempt later))
    exact same ▸ List.mem_map_of_mem later
  · rw [if_neg stale, if_neg stale]
    exact .returned ⟨mirrors, distinct, fun other later =>
      known other (List.mem_cons_of_mem attempt later)⟩

/-- **Trying a generator again** reserves for the new attempt. -/
theorem agree_retryGenerator {attempts : List GeneratorAttempt} {ordinal : Nat}
    (mirrors : s.Mirrors ids t) (holds : t.Holds run) :
    Agree (fun s' t' => s'.Mirrors ids t' ∧ t'.Holds run)
      (Budgeted.retryGenerator ids run attempts now s ordinal)
      (retryGenerator ids.toIdentities run attempts now t ordinal) := by
  refine Agree.bind_same fun ⟨generator, own, latest⟩ _ => ?_
  dsimp only
  by_cases retries : anySucceeded own = false ∧ latest.state = .failed ∧
      latest.attemptNumber < generator.maxAttempts
  · rw [if_pos retries, if_pos retries]
    refine Agree.bind_same fun entry planned => Agree.bind_same fun attempt loaded => ?_
    obtain ⟨-, rfl⟩ := loadAttempt_eq_ok.mp loaded
    obtain ⟨row, found, plan, request⟩ := holds
    refine (agree_insertPending mirrors (Table.mem_of_find? found) (Table.key_of_find? found)
      (plan ▸ requireSome_eq_ok.mp planned) rfl).knowing fun t' inserted => ?_
    obtain ⟨-, -, -, rfl⟩ := insertAttempt_eq_ok.mp inserted
    exact ⟨row, found, plan, request⟩
  · rw [if_neg retries, if_neg retries]
    exact .returned ⟨mirrors, holds⟩

theorem agree_retryGenerators {attempts : List GeneratorAttempt} {ordinals : List Nat}
    (mirrors : s.Mirrors ids t) (holds : t.Holds run) :
    Agree (fun s' t' => s'.Mirrors ids t' ∧ t'.Holds run)
      (ordinals.foldlM (Budgeted.retryGenerator ids run attempts now) s)
      (ordinals.foldlM (retryGenerator ids.toIdentities run attempts now) t) :=
  Agree.foldlM (f := Budgeted.retryGenerator ids run attempts now)
    (g := retryGenerator ids.toIdentities run attempts now)
    (R := fun _ (s : BudgetedStore) (t : GenerationStore) => s.Mirrors ids t ∧ t.Holds run)
    (fun _ _ _ _ related => agree_retryGenerator related.1 related.2) ⟨mirrors, holds⟩

/-- The usage of a run is rewritten with sums that fit. -/
theorem BudgetedStore.Booked.summarized {reserved consumed : GenerationBudgetUsage}
    (booked : s.Booked ids) (fits : ∀ row ∈ s.tables.runs,
      row.generationRunId = run.generationRunId →
        RunUsage.Fits ⟨run.generationRunId, reserved, consumed⟩ row.plan.budget) :
    ({ s with
        runUsages := s.runUsages.update run.generationRunId
          (RunUsage.summarized reserved consumed) } : BudgetedStore).Booked ids := by
  refine ⟨booked.bounded, booked.attempts, booked.owned, booked.reserves, booked.settles, ?_, ?_,
    ?_⟩
  · intro entry member
    obtain ⟨identity, keyed, books⟩ := booked.entries entry member
    exact ⟨identity, keyed, books⟩
  · intro row member
    obtain ⟨usage, found, fit⟩ := booked.runs row member
    by_cases here : row.generationRunId = run.generationRunId
    · refine ⟨usage.summarized reserved consumed, ?_, fits row member here⟩
      rw [here] at found ⊢
      rw [Table.find?_update_self, found]
      rfl
    · exact ⟨usage, (Table.find?_update_ne here).trans found, fit⟩
  · intro usage member
    obtain ⟨before, stored, rfl⟩ := Table.mem_update.mp member
    obtain ⟨row, inRuns, owns⟩ := booked.ownedRuns before stored
    refine ⟨row, inRuns, owns.trans ?_⟩
    split <;> rfl

/-- **A summary is never stopped by the ledger**: what it adds up fits the budget. -/
theorem agree_summarizeRun (mirrors : s.Mirrors ids t) (orderly : t.Orderly)
    (holds : t.Holds run) :
    Agree (Replies ids) (Budgeted.summarizeRun run now s) (summarizeRun run true now t) := by
  obtain ⟨rfl, booked⟩ := mirrors
  obtain ⟨row, found, plan, -⟩ := holds
  have stored := Table.mem_of_find? found
  have sameId : row.generationRunId = run.generationRunId := Table.key_of_find? found
  obtain ⟨reserved, consumed, total, reserves, consumes, added,
    ⟨fitsReserved, fitsConsumed, fitsTotal⟩, -⟩ := booked.sums_fit orderly stored
  rw [sameId] at reserves consumes
  rw [plan] at fitsReserved fitsConsumed fitsTotal
  refine Agree.bind_same fun attempts _ => Agree.bind_same fun finished _ => ?_
  dsimp only
  generalize decided : (if decide (finished.count true = run.plannedGeneratorCount) = true then
    finalizeProposals run.generationRunId s.tables else (s.tables, 0)) = pair
  obtain ⟨tables, retained⟩ := pair
  have sameBooks : tables.SameBooks s.tables := by
    split at decided
    · cases decided
      exact .of_rows (finalizeProposals_runs _) (finalizeProposals_attempts _)
    · cases decided
      exact .refl _
  refine Agree.bind_ok reserves (Agree.bind_ok consumes (Agree.bind_ok added ?_))
  refine Agree.require_right rfl ?_
  have sound : (!decide (total.Fits run.plan.budget)) = false := by simp [fitsTotal]
  dsimp only
  rw [sound]
  simp only [Bool.or_false, Bool.false_eq_true, if_false]
  refine Agree.bind_left fun pair written => ?_
  obtain ⟨tables', row'⟩ := pair
  refine Agree.require_left fitsReserved (Agree.require_left fitsConsumed
    (Agree.require_left fitsTotal ?_))
  have sameBooks' := GenerationStore.SameBooks.writeRun written
  have booked' := (booked.of_tables sameBooks).of_tables sameBooks'
  refine .returned ⟨⟨rfl, booked'.summarized fun other member ofRun => ?_⟩, rfl⟩
  obtain ⟨next, inTables, nextId, nextPlan⟩ := sameBooks'.runs other member
  obtain ⟨last, inRuns, lastId, lastPlan⟩ := sameBooks.runs next inTables
  obtain rfl : last = row := Table.eq_of_key_eq inRuns stored
    (lastId.trans (nextId.trans (ofRun.trans sameId.symm)))
  rw [← nextPlan, ← lastPlan, plan]
  exact ⟨fitsReserved, fitsConsumed, total, added, fitsTotal⟩

/-- **A reconciliation of a run that is running.** -/
theorem agree_reconcileRunning (mirrors : s.Mirrors ids t) (orderly : t.Orderly)
    (holds : t.Holds run) :
    Agree (Replies ids) (Budgeted.reconcileRunning ids run now s)
      (reconcileRunning ids.toIdentities run true now t) := by
  have same := mirrors.1
  unfold Budgeted.reconcileRunning reconcileRunning
  rw [same]
  refine Agree.bind_same fun attempts loaded => ?_
  obtain rfl := loadAttempts_eq_ok loaded
  have failing := (agree_failStaleAttempts now (t.attemptsOf run.generationRunId) mirrors
    ?_ ?_).knowing
      (P := fun t' => t'.Orderly ∧ t'.Holds run) fun t' failed =>
        ⟨orderly.moves (moves_failStaleAttempts _ failed).1,
          holds.of_runs (moves_failStaleAttempts _ failed).2⟩
  rotate_left
  · exact ((List.perm_insertionSort _ _).map _).nodup_iff.mpr
      (t.attempts.keys_nodup.sublist (List.filter_sublist.map _))
  · intro attempt member
    exact Table.find?_of_mem (mem_attemptsOf.mp member).1
  refine failing.bind fun s' t' ⟨mirrors', orderly', holds'⟩ => ?_
  rw [mirrors'.1]
  refine Agree.bind_same fun attempts' loaded' => ?_
  obtain rfl := loadAttempts_eq_ok loaded'
  refine Agree.bind_same fun _ _ => ?_
  refine ((agree_retryGenerators mirrors' holds').knowing (P := GenerationStore.Orderly)
    fun u retried => orderly'.moves (moves_retryGenerators List.nodup_range holds'
      (List.pairwise_insertionSort _ _) (fun _ _ _ _ => Iff.rfl) retried).1).bind ?_
  rintro s'' t'' ⟨⟨mirrors'', holds''⟩, orderly''⟩
  exact agree_summarizeRun mirrors'' orderly'' holds''

/-- **A reconciliation.** -/
theorem agree_reconcileLocked (mirrors : s.Mirrors ids t) (orderly : t.Orderly)
    (holds : t.Holds run) :
    Agree (Replies ids) (Budgeted.reconcileGenerationRunLocked ids run now s)
      (reconcileGenerationRunLocked ids.toIdentities run true now t) := by
  refine Agree.bind_same fun row loaded => ?_
  obtain ⟨-, rfl⟩ := loadRun_eq_ok.mp loaded
  cases state : row.state with
  | created =>
      have starting := (agree_onTables (writeRun row.generationRunId
        (GenerationRun.started now)) mirrors fun t' reply written =>
          GenerationStore.SameBooks.writeRun written).knowing
            (P := fun q => q.1.Orderly ∧ q.1.Holds q.2) fun q written => ?_
      · refine starting.bind ?_
        rintro ⟨s', next⟩ ⟨t', next'⟩ ⟨⟨mirrors', rfl⟩, orderly', holds'⟩
        exact agree_reconcileRunning mirrors' orderly' holds'
      · have held := holds.writeRun written
        obtain ⟨stored, found, plan, request⟩ := holds
        obtain ⟨old, found', -, -, -, same⟩ := writeRun_eq_ok.mp written
        cases Option.some.inj (found.symm.trans found')
        refine ⟨orderly.writeRun written, ?_⟩
        obtain ⟨row', found'', plan', request'⟩ := held
        rw [same]
        exact ⟨row', (congrArg _ (Table.key_of_find? found)).trans found'',
          plan'.trans plan.symm, request'.trans request.symm⟩
  | running => exact agree_reconcileRunning mirrors orderly holds
  | _ => exact .returned ⟨mirrors, rfl⟩

theorem agree_reportStale {attempt : GeneratorAttempt} {message : String}
    (mirrors : s.Mirrors ids t) (orderly : t.Orderly) (holds : t.Holds run) :
    Agree (Replies ids) (Budgeted.reportStale ids now attempt run message s)
      (reportStale ids.toIdentities now true attempt run message t) := by
  unfold Budgeted.reportStale reportStale
  by_cases claimed : attempt.state = .running ∧ attempt.lease ≠ none
  · rw [if_pos claimed, if_pos claimed]
    refine (agree_reconcileLocked mirrors orderly holds).bind ?_
    rintro ⟨s', _⟩ ⟨t', _⟩ ⟨mirrors', -⟩
    exact .returned ⟨mirrors', rfl⟩
  · rw [if_neg claimed, if_neg claimed]
    exact .returned ⟨mirrors, rfl⟩

/-! ## Starting a run -/

/-- The reservations of the first attempts fit the budget. -/
theorem initialReserved_fits {plan : ApexGenerationPlan} (bounded : plan.Bounded) :
    ∃ reserved, sumUsage (plan.generators.map reservedUsageFor) = .ok reserved ∧
      ∀ runId, RunUsage.Fits { generationRunId := runId, reserved } plan.budget := by
  have sums : ∀ dimension, ((plan.generators.map reservedUsageFor).map
      fun usage => usage.amount dimension).sum ≤ plan.budget.limit dimension := by
    intro dimension
    refine le_trans ?_ (bounded.sum_shares_le dimension)
    rw [List.map_map]
    refine List.sum_le_sum fun generator _ => ?_
    unfold GeneratorPlanEntry.share
    split
    · rename_i proposals
      subst proposals
      exact Nat.le_refl _
    · exact Nat.le_mul_of_pos_left _ generator.maxAttempts_range.1
  have limits := bounded.budget.limit_le
  obtain ⟨reserved, summed, amounts⟩ := sumUsage_eq_ok _ fun dimension =>
    (sums dimension).trans (limits dimension)
  have fits : ∀ dimension, reserved.amount dimension ≤ plan.budget.limit dimension := by
    intro dimension
    rw [amounts]
    exact sums dimension
  obtain ⟨total, added, amounts'⟩ := plus_eq_ok reserved {} fun dimension => by
    rw [GenerationBudgetUsage.amount_zero]
    exact (fits dimension).trans (limits dimension)
  refine ⟨reserved, summed, fun runId => ⟨fits_iff.mpr fits, fits_iff.mpr ?_, total, added,
    fits_iff.mpr ?_⟩⟩ <;> intro dimension
  · rw [GenerationBudgetUsage.amount_zero]
    exact Nat.zero_le _
  · rw [amounts', GenerationBudgetUsage.amount_zero]
    exact fits dimension

/-- A new run with the usage of its first attempts. -/
theorem BudgetedStore.Booked.insertRun {reserved : GenerationBudgetUsage} (booked : s.Booked ids)
    (bounded : run.plan.Bounded) (unknown : s.tables.runs.find? run.generationRunId = none)
    (fits : RunUsage.Fits { generationRunId := run.generationRunId, reserved } run.plan.budget) :
    ({ s with
        tables := { s.tables with runs := s.tables.runs.insertIfAbsent run }
        runUsages := s.runUsages.insertIfAbsent
          { generationRunId := run.generationRunId, reserved } } : BudgetedStore).Booked ids := by
  have atRun : run ∈ s.tables.runs.insertIfAbsent run :=
    Table.mem_insertIfAbsent.mpr (.inr ⟨unknown, rfl⟩)
  have noUsage : s.runUsages.find? run.generationRunId = none := by
    rw [Table.find?_eq_none_iff]
    intro usage member same
    obtain ⟨owner, inTable, owns⟩ := booked.ownedRuns usage member
    exact Table.find?_eq_none_iff.mp unknown owner inTable (owns.trans same)
  refine ⟨?_, ?_, booked.owned, booked.reserves, booked.settles, ?_, ?_, ?_⟩
  · intro other member
    rcases Table.mem_insertIfAbsent.mp member with old | ⟨-, rfl⟩
    · exact booked.bounded other old
    · exact bounded
  · intro attempt member
    obtain ⟨usage, found, owner, inRuns, rest⟩ := booked.attempts attempt member
    exact ⟨usage, found, owner, Table.mem_insertIfAbsent.mpr (.inl inRuns), rest⟩
  · intro entry member
    obtain ⟨identity, keyed, books⟩ := booked.entries entry member
    exact ⟨identity, keyed, books⟩
  · intro other member
    rcases Table.mem_insertIfAbsent.mp member with old | ⟨-, rfl⟩
    · obtain ⟨usage, found, fit⟩ := booked.runs other old
      exact ⟨usage, Table.find?_insertIfAbsent_of_some found, fit⟩
    · exact ⟨_, (Table.find?_insert_new noUsage _).trans (if_pos rfl), fits⟩
  · intro usage member
    rcases Table.mem_insertIfAbsent.mp member with old | ⟨-, rfl⟩
    · obtain ⟨owner, inTable, owns⟩ := booked.ownedRuns usage old
      exact ⟨owner, Table.mem_insertIfAbsent.mpr (.inl inTable), owns⟩
    · exact ⟨run, atRun, rfl⟩

/-- The first attempts with their generators. -/
theorem zip_startAttempts {start : GenerationRunStartRequest} {generator : GeneratorPlanEntry}
    {attempt : GeneratorAttempt} (member : (generator, attempt) ∈
      start.plan.generators.zip (start.attempts ids.toIdentities now)) :
    (start.run ids.toIdentities now).generationRunId = attempt.generationRunId ∧
      start.plan.generators[attempt.generatorOrdinal]? = some generator ∧
        attempt.state = .pending := by
  obtain ⟨place, inRange, same⟩ := List.mem_iff_getElem.mp member
  rw [List.length_zip] at inRange
  have inPlan : place < start.plan.generators.length := by omega
  simp only [GenerationRunStartRequest.attempts, List.getElem_zip, List.getElem_map,
    List.getElem_zipIdx, Prod.mk.injEq] at same
  obtain ⟨rfl, rfl⟩ := same
  refine ⟨rfl, ?_, rfl⟩
  change start.plan.generators[0 + place]? = _
  rw [Nat.zero_add]
  exact List.getElem?_eq_getElem inPlan

/-- Inserting the first attempts of a stored run. -/
theorem agree_insertFirst (start : GenerationRunStartRequest) (mirrors : s.Mirrors ids t)
    (stored : start.run ids.toIdentities now ∈ t.runs) :
    Agree (fun s' t' => s'.Mirrors ids t')
      ((start.plan.generators.zip (start.attempts ids.toIdentities now)).foldlM
        (fun s (generator, attempt) => insertPending ids generator attempt now s) s)
      ((start.attempts ids.toIdentities now).foldlM
        (fun t attempt => insertAttempt attempt t) t) := by
  have attempts : start.attempts ids.toIdentities now =
      (start.plan.generators.zip (start.attempts ids.toIdentities now)).map Prod.snd := by
    refine (List.map_snd_zip ?_).symm
    simp [GenerationRunStartRequest.attempts]
  conv => rhs; rw [attempts, List.foldlM_map]
  refine (Agree.foldlM (R := fun rest (s : BudgetedStore) (t : GenerationStore) =>
      s.Mirrors ids t ∧ (start.run ids.toIdentities now) ∈ t.runs ∧
        ∀ pair ∈ rest, pair ∈ start.plan.generators.zip (start.attempts ids.toIdentities now))
    ?_ ⟨mirrors, stored, fun _ member => member⟩).mono fun _ _ related => related.1
  rintro ⟨generator, attempt⟩ rest s t ⟨mirrors, stored, members⟩
  obtain ⟨ofRun, planned, pending⟩ := zip_startAttempts (members _ List.mem_cons_self)
  refine ((agree_insertPending mirrors stored ofRun planned pending).knowing
    (P := fun t' => t'.runs = t.runs) ?_).mono fun s' t' related =>
      ⟨related.1, related.2 ▸ stored, fun pair later =>
        members pair (List.mem_cons_of_mem _ later)⟩
  intro t' inserted
  obtain ⟨-, -, -, rfl⟩ := insertAttempt_eq_ok.mp inserted
  rfl

/-- **Starting a run** of a plan whose sums are within its budget. -/
theorem agree_startGenerationRun {start : GenerationRunStartRequest} (mirrors : s.Mirrors ids t)
    (bounded : start.plan.Bounded) :
    Agree (Replies ids) (Budgeted.startGenerationRun ids now start s)
      (startGenerationRun ids.toIdentities now start t) := by
  obtain ⟨rfl, booked⟩ := mirrors
  refine Agree.require_left bounded ?_
  refine Agree.bind_same fun ⟨run, attempts⟩ built => ?_
  obtain ⟨rfl, rfl⟩ := buildGenerationRunStart_eq_ok (mapError_eq_ok.mp built)
  obtain ⟨reserved, summed, fits⟩ := initialReserved_fits bounded
  refine Agree.bind_ok summed ?_
  refine Agree.bind_same fun _ _ => Agree.bind_same fun _ _ => ?_
  unfold Budgeted.createGenerationRun createGenerationRun
  refine Agree.bind_same fun _ _ => Agree.bind_same fun _ complete => ?_
  generalize clashes : (s.tables.runs.rows.filter fun other =>
    decide ((start.run ids.toIdentities now).ClashesWith other)) = rows
  rcases rows with _ | ⟨row, _ | ⟨next, rows⟩⟩
  · have unknown : s.tables.runs.find? (start.run ids.toIdentities now).generationRunId = none := by
      rw [Table.find?_eq_none_iff]
      intro other member same
      exact List.filter_eq_nil_iff.mp clashes other member (decide_eq_true (.inl same))
    refine (agree_insertFirst start ⟨rfl, booked.insertRun bounded unknown (fits _)⟩
      (Table.mem_insertIfAbsent.mpr (.inr ⟨unknown, rfl⟩))).bind ?_
    intro s' t' mirrors'
    exact .returned ⟨mirrors', rfl⟩
  · refine Agree.bind_same fun stored _ => Agree.bind_same fun _ _ => ?_
    exact .returned ⟨⟨rfl, booked⟩, rfl⟩
  · exact .raised _

/-! ## Claims and reviews -/

/-- A claim changes no books: what was pending is running. -/
theorem agree_claimGenerationAttempt {claimToken : Uuid} {locks : GenerationLocks}
    {workerId : String} {leaseSeconds : Int} {only : Option Uuid} (mirrors : s.Mirrors ids t) :
    Agree (Replies ids) (BudgetedStore.onTables
        (claimGenerationAttempt now claimToken locks workerId leaseSeconds only) s)
      (claimGenerationAttempt now claimToken locks workerId leaseSeconds only t) := by
  refine agree_onTables _ mirrors fun t' reply ok => ?_
  simp only [claimGenerationAttempt, Except.bind_eq_ok, require_eq_ok, exists_const] at ok
  obtain ⟨-, -, found, -, ok⟩ := ok
  cases found with
  | none =>
      cases ok
      exact .refl t
  | some run =>
      dsimp only at ok
      split at ok
      · cases ok
        exact .refl t
      · rename_i row chosen
        obtain ⟨stored, -, pending⟩ := pendingAttempt?_eq_some chosen
        simp only [claimPending, Except.bind_eq_ok, require_eq_ok, exists_const,
          loadAttempt_eq_ok] at ok
        obtain ⟨_, ⟨-, rfl⟩, generator, -, -, ⟨u, attempt⟩, written, -, ok⟩ := ok
        cases ok
        exact .writeAttempt written (Table.find?_of_mem stored) (by rw [pending]; rfl) rfl

theorem agree_completeGenerationReview {runId : Uuid} {evidence : ReviewEvidence}
    (mirrors : s.Mirrors ids t) :
    Agree (Replies ids) (BudgetedStore.onTables (completeGenerationReview now runId evidence) s)
      (completeGenerationReview now runId evidence t) := by
  refine agree_onTables _ mirrors fun t' reply ok => ?_
  obtain ⟨row, -, ok⟩ := Except.bind_eq_ok.mp ok
  obtain ⟨run, -, ok⟩ := Except.bind_eq_ok.mp ok
  split at ok
  · obtain ⟨-, -, ok⟩ := Except.bind_eq_ok.mp ok
    cases ok
    exact .refl t
  · obtain ⟨-, -, ok⟩ := Except.bind_eq_ok.mp ok
    exact .writeRun ok

/-- **Renewing a claim.** -/
theorem agree_renewGenerationAttemptClaim {attemptId claimToken : Uuid} {leaseSeconds : Int}
    (mirrors : s.Mirrors ids t) (orderly : t.Orderly) :
    Agree (Replies ids)
      (Budgeted.renewGenerationAttemptClaim ids now attemptId claimToken leaseSeconds s)
      (renewGenerationAttemptClaim ids.toIdentities now true attemptId claimToken leaseSeconds
        t) := by
  unfold Budgeted.renewGenerationAttemptClaim renewGenerationAttemptClaim
  rw [mirrors.1]
  refine Agree.bind_same fun _ _ => Agree.bind_same fun ⟨attempt, run, generator⟩ bound => ?_
  obtain ⟨found, foundRun⟩ := boundAttempt_eq_ok bound
  refine Agree.bind_same fun _ _ => ?_
  dsimp only
  by_cases held : attempt.HeldBy claimToken now
  · rw [if_pos held, if_pos held]
    refine (agree_onTables _ mirrors fun t' row written => GenerationStore.SameBooks.writeAttempt
      written found held.running.2.2 held.running.2.2).bind ?_
    rintro ⟨s', row⟩ ⟨t', row'⟩ ⟨mirrors', rfl⟩
    exact .returned ⟨mirrors', rfl⟩
  · rw [if_neg held, if_neg held]
    exact agree_reportStale mirrors orderly (GenerationStore.holds_of_find foundRun)

/-! ## Settling an attempt -/

/-- What the comparison with the reservation leaves of a settlement. -/
def judgedSettlement (settlement : Settlement) (usage : Budgeted.RunnerUsage)
    (reserved : GenerationBudgetUsage) : Settlement :=
  match Budgeted.chargedSettlement settlement usage reserved with
  | .ok charged => charged.1
  | .error _ => settlement

theorem chargedSettlement_eq_ok {settlement judged : Settlement} {usage : Budgeted.RunnerUsage}
    {reserved actual : GenerationBudgetUsage}
    (ok : Budgeted.chargedSettlement settlement usage reserved = .ok (judged, actual)) :
    settlement.batch = none ∧ judged = settlement ∧ actual = conservativeFailureUsage reserved ∨
      ∃ batch consumed, settlement.batch = some batch ∧
        Budgeted.actualUsageForRunnerReceipt usage batch.proposals.length = .ok consumed ∧
          judged = { settlement with
            withinReservation := usageIsWithinReservation consumed reserved } ∧
            actual = if usageIsWithinReservation consumed reserved then consumed
              else conservativeFailureUsage reserved := by
  unfold Budgeted.chargedSettlement at ok
  split at ok
  · rename_i none
    cases ok
    exact .inl ⟨none, rfl, rfl⟩
  · rename_i batch some
    obtain ⟨consumed, stated, ok⟩ := Except.bind_eq_ok.mp ok
    cases ok
    exact .inr ⟨batch, consumed, some, stated, rfl, rfl⟩

theorem judgedSettlement_eq (settlement : Settlement) (usage : Budgeted.RunnerUsage)
    (reserved : GenerationBudgetUsage) : ∃ withinReservation,
      judgedSettlement settlement usage reserved = { settlement with withinReservation } := by
  unfold judgedSettlement
  cases ok : Budgeted.chargedSettlement settlement usage reserved with
  | error e => exact ⟨settlement.withinReservation, rfl⟩
  | ok charged =>
      rcases chargedSettlement_eq_ok ok with ⟨-, same, -⟩ | ⟨_, _, -, -, same, -⟩
      · exact ⟨settlement.withinReservation, same⟩
      · exact ⟨_, same⟩

/-- What an attempt is charged with when it is settled. -/
theorem Closes.of_charged {settlement judged : Settlement} {usage : Budgeted.RunnerUsage}
    {reserved actual : GenerationBudgetUsage} {attempt : GeneratorAttempt} {claimToken : Uuid}
    (held : attempt.HeldBy claimToken now) (once : reserved.attempts = 1)
    (presents : ∀ batch ∈ settlement.batch, batch.Valid)
    (ok : Budgeted.chargedSettlement settlement usage reserved = .ok (judged, actual)) :
    Closes (GeneratorAttempt.settled judged now) attempt reserved actual := by
  have ends := attempt.settled_terminal judged now
  rcases chargedSettlement_eq_ok ok with
    ⟨none, rfl, rfl⟩ | ⟨batch, consumed, some, stated, rfl, rfl⟩
  · exact ⟨held.running.2.2, ends, rfl, conservativeFailureUsage_within once, fun _ => rfl⟩
  · obtain ⟨tokens, -, checked⟩ := Except.bind_eq_ok.mp stated
    obtain ⟨-, -, checked⟩ := Except.bind_eq_ok.mp checked
    cases checked
    by_cases within : usageIsWithinReservation
        { attempts := 1, wallMilliseconds := usage.wallMilliseconds,
          outputBytes := usage.totalOutputBytes, tokens, proposals := batch.proposals.length }
        reserved = true
    · rw [if_pos within]
      refine ⟨held.running.2.2, ends, rfl, within, fun failed => ?_⟩
      by_cases unfinished : batch.status = .failed
      · exact congrArg List.length ((presents batch some).members.mp unfinished)
      · exfalso
        have noError : ({ settlement with
            withinReservation := usageIsWithinReservation
              { attempts := 1, wallMilliseconds := usage.wallMilliseconds,
                outputBytes := usage.totalOutputBytes, tokens,
                proposals := batch.proposals.length } reserved } : Settlement).error = none := by
          simp [Settlement.error, some, within, unfinished]
        unfold GeneratorAttempt.settled at failed
        rw [noError] at failed
        cases failed
    · rw [if_neg within]
      exact ⟨held.running.2.2, ends, rfl, conservativeFailureUsage_within once, fun _ => rfl⟩

/-- The comparison with the reservation does not decide whether references are refused. -/
theorem refs_withinReservation (ids : LedgerIdentities) (run : GenerationRun) (settlement : Settlement)
    (attempt : GeneratorAttempt)
    (generator : GeneratorPlanEntry) (withinReservation : Bool) :
    Agree (fun _ _ => True) (settlement.refs ids.toIdentities run attempt generator)
      (({ settlement with withinReservation } : Settlement).refs ids.toIdentities run attempt
        generator) := by
  unfold Settlement.refs
  dsimp only
  split
  · exact .returned trivial
  · exact Agree.bind_same fun _ _ => .returned trivial

/-- The proposals of a settlement change no books. -/
theorem insertProposals_kept {refs : List CandidateProposalRef} {t t' : GenerationStore}
    (orderly : t.Orderly) (holds : t.Holds run)
    (ok : refs.foldlM (fun t ref => insertProposal ref t) t = .ok t') :
    t'.SameBooks t ∧ t'.Orderly ∧ t'.Holds run := by
  have kept := foldlM_keeps (P := fun u : GenerationStore => u.runs = t.runs ∧
    u.attempts = t.attempts) ?_ ⟨rfl, rfl⟩ ok
  · exact ⟨.of_rows kept.1 kept.2, orderly.of_proposals kept.1 kept.2, holds.of_runs kept.1⟩
  · rintro ref - u v ⟨runs, attempts⟩ turn
    obtain ⟨sameRuns, sameAttempts⟩ := insertProposal_eq_ok turn
    exact ⟨sameRuns.trans runs, sameAttempts.trans attempts⟩

/-- **Settling a claim that is held**, with a usage that can be stated. -/
theorem agree_settleHeld {attempt : GeneratorAttempt} {generator : GeneratorPlanEntry}
    {claimToken : Uuid} {columns : AttemptUsage} {settlement judged : Settlement}
    {usage : Budgeted.RunnerUsage} {actual : GenerationBudgetUsage} (mirrors : s.Mirrors ids t)
    (orderly : t.Orderly) (holds : t.Holds run)
    (found : t.attempts.find? attempt.attemptId = some attempt)
    (held : attempt.HeldBy claimToken now)
    (known : s.attemptUsages.find? attempt.attemptId = some columns)
    (once : columns.reserved.attempts = 1) (presents : ∀ batch ∈ settlement.batch, batch.Valid)
    (charged : Budgeted.chargedSettlement settlement usage columns.reserved =
      .ok (judged, actual)) :
    Agree (Replies ids)
      (do
        let refs ← judged.refs ids.toIdentities run attempt generator
        let s ← closeAttempt ids (GeneratorAttempt.settled judged now) attempt columns.reserved
          actual now s
        let tables ← refs.foldlM (fun tables ref => insertProposal ref tables) s.tables
        let (s, _) ← Budgeted.reconcileGenerationRunLocked ids run now { s with tables }
        let row ← requireRow (s.tables.attempts.find? attempt.attemptId) "attempt row"
        let result ← loadAttempt row
        return (s, (.ok result : Except Error GeneratorAttempt)))
      (do
        let refs ← judged.refs ids.toIdentities run attempt generator
        let (t, _) ← writeAttempt attempt.attemptId (GeneratorAttempt.settled judged now) t
        let t ← refs.foldlM (fun t ref => insertProposal ref t) t
        let (t, _) ← reconcileGenerationRunLocked ids.toIdentities run true now t
        let row ← requireRow (t.attempts.find? attempt.attemptId) "attempt row"
        let result ← loadAttempt row
        return (t, .ok result)) := by
  refine Agree.bind_same fun refs _ => ?_
  have closing := (agree_closeAttempt now mirrors found known
    (Closes.of_charged held once presents charged)).knowing
      (P := fun p => p.1.Orderly ∧ p.1.Holds run) ?_
  · refine closing.bind ?_
    rintro s' ⟨t', row⟩ ⟨⟨rfl, booked'⟩, orderly', holds'⟩
    refine Agree.bind_same fun tables inserted => ?_
    obtain ⟨sameBooks, orderly'', holds''⟩ := insertProposals_kept orderly' holds' inserted
    refine (agree_reconcileLocked ⟨rfl, booked'.of_tables sameBooks⟩ orderly'' holds'').bind ?_
    rintro ⟨s'', _⟩ ⟨t'', _⟩ ⟨⟨rfl, booked''⟩, -⟩
    refine Agree.bind_same fun row _ => Agree.bind_same fun result _ => ?_
    exact .returned ⟨⟨rfl, booked''⟩, rfl⟩
  · rintro ⟨t', row⟩ written
    exact ⟨orderly.move (move_settled found held written),
      holds.of_runs (writeAttempt_runs written)⟩

/-- The usage that a settlement states can be charged. -/
def BudgetedStore.CanCharge (s : BudgetedStore) (now : Timestamp) (attemptId claimToken : Uuid)
    (settlement : Settlement) (usage : Budgeted.RunnerUsage) : Prop :=
  ∀ attempt columns, s.tables.attempts.find? attemptId = some attempt →
    s.attemptUsages.find? attemptId = some columns → attempt.HeldBy claimToken now →
      ∃ charged, Budgeted.chargedSettlement settlement usage columns.reserved = .ok charged

/-- The settlement as the authority without a ledger is given it. -/
def BudgetedStore.judge (s : BudgetedStore) (attemptId : Uuid) (settlement : Settlement)
    (usage : Budgeted.RunnerUsage) : Settlement :=
  match s.attemptUsages.find? attemptId with
  | none => settlement
  | some columns => judgedSettlement settlement usage columns.reserved

theorem BudgetedStore.judge_eq (s : BudgetedStore) (attemptId : Uuid) (settlement : Settlement)
    (usage : Budgeted.RunnerUsage) : ∃ withinReservation,
      s.judge attemptId settlement usage = { settlement with withinReservation } := by
  unfold judge
  split
  · exact ⟨settlement.withinReservation, rfl⟩
  · exact judgedSettlement_eq settlement usage _

/-- **Settling an attempt.** -/
theorem agree_settleGenerationAttempt {attemptId claimToken : Uuid} {settlement : Settlement}
    {usage : Budgeted.RunnerUsage} (mirrors : s.Mirrors ids t) (orderly : t.Orderly)
    (presents : ∀ batch ∈ settlement.batch, batch.Valid)
    (chargeable : s.CanCharge now attemptId claimToken settlement usage) :
    Agree (Replies ids)
      (Budgeted.settleGenerationAttempt ids now attemptId claimToken settlement usage s)
      (settleGenerationAttempt ids.toIdentities now true attemptId claimToken
        (s.judge attemptId settlement usage) t) := by
  obtain ⟨withinReservation, judged⟩ := s.judge_eq attemptId settlement usage
  unfold Budgeted.settleGenerationAttempt settleGenerationAttempt
  rw [mirrors.1]
  generalize same : s.judge attemptId settlement usage = plain
  rw [same] at judged
  subst judged
  refine Agree.bind_same fun _ _ => Agree.bind_same fun _ _ => ?_
  refine Agree.bind_same fun ⟨attempt, run, generator⟩ bound => ?_
  obtain ⟨found, foundRun⟩ := boundAttempt_eq_ok bound
  have holds := GenerationStore.holds_of_find foundRun
  obtain rfl : attempt.attemptId = attemptId := Table.key_of_find? found
  refine Agree.bind_same fun _ _ => ?_
  dsimp only
  by_cases ended : attempt.state = .succeeded ∨ attempt.state = .failed
  · rw [if_pos ended, if_pos ended]
    exact Agree.bind_same fun _ _ => .returned ⟨mirrors, rfl⟩
  rw [if_neg ended, if_neg ended]
  by_cases held : attempt.HeldBy claimToken now
  · rw [if_pos held, if_pos held]
    obtain ⟨columns, known, once⟩ := mirrors.columns (Table.mem_of_find? found)
    obtain ⟨⟨charged, actual⟩, charges⟩ := chargeable attempt columns (mirrors.1 ▸ found) known held
    have judges : charged = { settlement with withinReservation } := by
      rw [← same]
      unfold BudgetedStore.judge judgedSettlement
      rw [known]
      dsimp only
      rw [charges]
    subst judges
    have refused := refs_withinReservation ids run settlement attempt generator withinReservation
    cases first : settlement.refs ids.toIdentities run attempt generator with
    | error e =>
        rw [first] at refused
        cases second : ({ settlement with withinReservation } : Settlement).refs
            ids.toIdentities run attempt generator with
        | error e' =>
            rw [second] at refused
            cases refused
            exact .raised e
        | ok refs =>
            rw [second] at refused
            cases refused
    | ok refs =>
        refine Agree.bind_ok rfl (Agree.bind_ok (requireRow_eq_ok.mpr known)
          (Agree.bind_ok charges ?_))
        exact agree_settleHeld mirrors orderly holds found held known once presents charges
  · rw [if_neg held, if_neg held]
    exact agree_reportStale mirrors orderly holds

end Operations

end Agent

end HcuAutoOpt
