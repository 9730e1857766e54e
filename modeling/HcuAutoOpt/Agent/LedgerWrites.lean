import HcuAutoOpt.Agent.LedgerBooks

/-!
# Writes that keep the books in order

When the books are in order, the ledger stops no write: an attempt is inserted with its
reservation exactly when it is inserted without, and it is closed exactly when its row is
written. The tables are then the same, and the books are in order again (`Mirrors`).
-/

set_option autoImplicit false

namespace HcuAutoOpt

namespace Agent

open Foundation Budgeted

/-! ## Ledger entries -/

/-- A text that ends with the name of a type ends with no other name of a type. -/
theorem GenerationBudgetEntryType.text_suffix {front front' : List Char}
    {entryType entryType' : GenerationBudgetEntryType}
    (same : front ++ entryType.text.toList = front' ++ entryType'.text.toList) :
    entryType = entryType' := by
  have reserve : GenerationBudgetEntryType.reserve.text.toList.reverse =
      ['e', 'v', 'r', 'e', 's', 'e', 'r'] := rfl
  have settle : GenerationBudgetEntryType.settle.text.toList.reverse =
      ['e', 'l', 't', 't', 'e', 's'] := rfl
  have release : GenerationBudgetEntryType.release.text.toList.reverse =
      ['e', 's', 'a', 'e', 'l', 'e', 'r'] := rfl
  -- the names differ in the last character but one
  have backwards := congrArg (fun text => text.reverse[1]?) same
  simp only [List.reverse_append] at backwards
  cases entryType <;> cases entryType' <;> simp [reserve, settle, release] at backwards ⊢

theorem generationBudgetIdempotencyKey_toList (attemptId : Uuid)
    (entryType : GenerationBudgetEntryType) :
    (generationBudgetIdempotencyKey attemptId entryType).toList =
      "agent-generation-budget:".toList ++ attemptId.text.toList ++ ":".toList ++
        entryType.text.toList := by
  unfold generationBudgetIdempotencyKey
  rw [String.toList_append, String.toList_append, String.toList_append]
  rfl

/-- The key of an entry names its attempt and its type. -/
theorem generationBudgetIdempotencyKey_inj {attemptId attemptId' : Uuid}
    {entryType entryType' : GenerationBudgetEntryType}
    (same : generationBudgetIdempotencyKey attemptId entryType =
      generationBudgetIdempotencyKey attemptId' entryType') :
    attemptId = attemptId' ∧ entryType = entryType' := by
  have texts := congrArg String.toList same
  rw [generationBudgetIdempotencyKey_toList, generationBudgetIdempotencyKey_toList] at texts
  obtain rfl := GenerationBudgetEntryType.text_suffix texts
  refine ⟨Uuid.text_injective (String.toList_inj.mp ?_), rfl⟩
  simpa only [List.append_cancel_right_eq, List.append_cancel_left_eq] using texts

section Writes

variable {ids : LedgerIdentities} {s s' : BudgetedStore} {t : GenerationStore}

/-- The store has the tables of the other, and its books are in order. -/
def BudgetedStore.Mirrors (s : BudgetedStore) (ids : LedgerIdentities) (t : GenerationStore) :
    Prop :=
  s.tables = t ∧ s.Booked ids

/-- **An entry is never refused.** The ledger holds it already, or it holds no entry of the
attempt and the type and none with the key. -/
theorem insertBudgetEntry_eq_ok (ids : LedgerIdentities) (entry : GenerationBudgetLedgerEntry)
    (books : ∀ other ∈ s.ledger, other.ledgerEntryId =
      ids.generationBudgetEntryIdFor other.attemptId other.entryType ∧ other.idempotencyKey =
        generationBudgetIdempotencyKey other.attemptId other.entryType)
    (identity : entry.ledgerEntryId =
      ids.generationBudgetEntryIdFor entry.attemptId entry.entryType)
    (keyed : entry.idempotencyKey =
      generationBudgetIdempotencyKey entry.attemptId entry.entryType)
    (known : s.tables.attempts.find? entry.attemptId ≠ none)
    (knownRun : s.tables.runs.find? entry.generationRunId ≠ none) :
    insertBudgetEntry entry s = .ok { s with ledger := s.ledger.insertIfAbsent entry } := by
  unfold insertBudgetEntry
  by_cases absent : s.ledger.find? entry.ledgerEntryId = none
  · have fresh : ∀ other ∈ s.ledger,
        ¬(other.attemptId = entry.attemptId ∧ other.entryType = entry.entryType) := by
      rintro other member ⟨sameId, sameType⟩
      refine Table.find?_eq_none_iff.mp absent other member ?_
      exact (books other member).1.trans (by rw [sameId, sameType, identity])
    rw [if_pos absent]
    refine Except.bind_eq_ok.mpr ⟨(), require_eq_ok.mpr ?_, Except.bind_eq_ok.mpr
      ⟨(), require_eq_ok.mpr ?_, Except.bind_eq_ok.mpr ⟨(), require_eq_ok.mpr known,
        Except.bind_eq_ok.mpr ⟨(), require_eq_ok.mpr knownRun, rfl⟩⟩⟩⟩
    · rw [List.all_eq_true]
      intro other member
      rw [Bool.not_eq_true', decide_eq_false_iff_not]
      exact fresh other member
    · rw [List.all_eq_true]
      intro other member
      rw [Bool.not_eq_true', decide_eq_false_iff_not]
      intro same
      rw [(books other member).2, keyed] at same
      exact fresh other member (generationBudgetIdempotencyKey_inj same)
  · rw [if_neg absent]
    obtain ⟨other, found⟩ := Option.ne_none_iff_exists'.mp absent
    rw [Table.insertIfAbsent_of_present found]
    rfl

/-! ## Tables with the same books -/

/-- The two rows are accounted for alike. -/
structure GeneratorAttempt.SameBook (attempt before : GeneratorAttempt) : Prop where
  sameId : attempt.attemptId = before.attemptId
  sameRun : attempt.generationRunId = before.generationRunId
  ordinal : attempt.generatorOrdinal = before.generatorOrdinal
  terminal : attempt.state.terminal = before.state.terminal
  failed : attempt.state = .failed ↔ before.state = .failed

theorem GeneratorAttempt.SameBook.refl (attempt : GeneratorAttempt) : attempt.SameBook attempt :=
  ⟨rfl, rfl, rfl, rfl, Iff.rfl⟩

/-- The two stores have the same runs and the same attempts, as far as books are concerned. -/
structure GenerationStore.SameBooks (t before : GenerationStore) : Prop where
  runs : ∀ run ∈ t.runs, ∃ old ∈ before.runs,
    old.generationRunId = run.generationRunId ∧ old.plan = run.plan
  keptRuns : ∀ old ∈ before.runs, ∃ run ∈ t.runs,
    run.generationRunId = old.generationRunId ∧ run.plan = old.plan
  attempts : ∀ attempt ∈ t.attempts, ∃ old ∈ before.attempts, attempt.SameBook old
  kept : ∀ old ∈ before.attempts, ∃ attempt ∈ t.attempts, attempt.SameBook old

theorem GenerationStore.SameBooks.of_rows {before : GenerationStore}
    (runs : t.runs = before.runs) (attempts : t.attempts = before.attempts) :
    t.SameBooks before where
  runs run member := ⟨run, runs ▸ member, rfl, rfl⟩
  keptRuns run member := ⟨run, runs ▸ member, rfl, rfl⟩
  attempts attempt member := ⟨attempt, attempts ▸ member, .refl attempt⟩
  kept attempt member := ⟨attempt, attempts ▸ member, .refl attempt⟩

theorem GenerationStore.SameBooks.refl (t : GenerationStore) : t.SameBooks t := .of_rows rfl rfl

theorem GenerationStore.SameBooks.writeRun {before : GenerationStore} {runId : Uuid}
    {f : GenerationRun → GenerationRun} [KeepsKey f] [authority : KeepsAuthority f]
    {row : GenerationRun} (ok : Agent.writeRun runId f before = .ok (t, row)) :
    t.SameBooks before := by
  obtain ⟨-, -, -, -, rfl, -⟩ := writeRun_eq_ok.mp ok
  have same : ∀ run : GenerationRun,
      (if key run = runId then f run else run).generationRunId = run.generationRunId ∧
        (if key run = runId then f run else run).plan = run.plan := by
    intro run
    split
    · exact ⟨KeepsKey.keeps (f := f) run, authority.plan run⟩
    · exact ⟨rfl, rfl⟩
  refine ⟨?_, ?_, fun attempt member => ⟨attempt, member, .refl attempt⟩,
    fun attempt member => ⟨attempt, member, .refl attempt⟩⟩
  · intro run member
    obtain ⟨old, stored, rfl⟩ := Table.mem_update.mp member
    exact ⟨old, stored, (same old).1.symm, (same old).2.symm⟩
  · intro old stored
    exact ⟨_, Table.mem_update.mpr ⟨old, stored, rfl⟩, same old⟩

/-- Rewriting an attempt that is open and stays open. -/
theorem GenerationStore.SameBooks.writeAttempt {before : GenerationStore} {attemptId : Uuid}
    {f : GeneratorAttempt → GeneratorAttempt} [KeepsKey f] [place : KeepsPlace f]
    {row old : GeneratorAttempt} (ok : Agent.writeAttempt attemptId f before = .ok (t, row))
    (found : before.attempts.find? attemptId = some old) (isOpen : old.state.terminal = false)
    (staysOpen : (f old).state.terminal = false) : t.SameBooks before := by
  obtain ⟨-, -, -, -, rfl, -⟩ := writeAttempt_eq_ok.mp ok
  have same : ∀ attempt ∈ before.attempts,
      (if key attempt = attemptId then f attempt else attempt).SameBook attempt := by
    intro attempt member
    split
    · rename_i here
      have known : before.attempts.find? attemptId = some attempt :=
        here ▸ Table.find?_of_mem member
      obtain rfl : old = attempt := Option.some.inj (found.symm.trans known)
      have samePlace := place.place old
      simp only [GeneratorAttempt.place, Prod.mk.injEq] at samePlace
      refine ⟨KeepsKey.keeps (f := f) old, samePlace.1, samePlace.2.2.2.2.1,
        staysOpen.trans isOpen.symm, ?_⟩
      constructor
      · intro failed
        rw [failed] at staysOpen
        cases staysOpen
      · intro failed
        rw [failed] at isOpen
        cases isOpen
    · exact .refl attempt
  refine ⟨fun run member => ⟨run, member, rfl, rfl⟩, fun run member => ⟨run, member, rfl, rfl⟩,
    ?_, ?_⟩
  · intro attempt member
    obtain ⟨old, stored, rfl⟩ := Table.mem_update.mp member
    exact ⟨old, stored, same old stored⟩
  · intro old stored
    exact ⟨_, Table.mem_update.mpr ⟨old, stored, rfl⟩, same old stored⟩

/-- **The books stay in order** under tables with the same books. -/
theorem BudgetedStore.Booked.of_tables (booked : s.Booked ids) (same : t.SameBooks s.tables) :
    ({ s with tables := t } : BudgetedStore).Booked ids where
  bounded run member := by
    obtain ⟨old, stored, -, plan⟩ := same.runs run member
    exact plan ▸ booked.bounded old stored
  attempts attempt member := by
    obtain ⟨old, stored, book⟩ := same.attempts attempt member
    obtain ⟨usage, found, run, inRuns, ofRun, generator, planned, accounts⟩ :=
      booked.attempts old stored
    obtain ⟨run', inRuns', sameId, plan⟩ := same.keptRuns run inRuns
    refine ⟨usage, book.sameId ▸ found, run', inRuns', ?_, generator, ?_, accounts.reserved,
      book.terminal ▸ accounts.opened, book.terminal ▸ accounts.ended,
      fun failed => accounts.failed (book.failed.mp failed)⟩
    · exact sameId.trans (ofRun.trans book.sameRun.symm)
    · rw [plan, book.ordinal]
      exact planned
  owned usage member := by
    obtain ⟨old, stored, owns⟩ := booked.owned usage member
    obtain ⟨attempt, inTable, book⟩ := same.kept old stored
    exact ⟨attempt, inTable, book.sameId.trans owns⟩
  reserves attempt member := by
    obtain ⟨old, stored, book⟩ := same.attempts attempt member
    exact book.sameId ▸ booked.reserves old stored
  settles attempt member ended := by
    obtain ⟨old, stored, book⟩ := same.attempts attempt member
    exact book.sameId ▸ booked.settles old stored (book.terminal ▸ ended)
  entries entry member := by
    have books := booked.entries entry member
    obtain ⟨old, stored, sameId, sameRun, usage, found, reserved, kind⟩ := books.booked
    obtain ⟨attempt, inTable, book⟩ := same.kept old stored
    exact ⟨books.identity, books.keyed, attempt, inTable, book.sameId.trans sameId,
      book.sameRun.trans sameRun, usage, found, reserved, book.terminal ▸ kind⟩
  runs run member := by
    obtain ⟨old, stored, sameId, plan⟩ := same.runs run member
    exact sameId ▸ plan ▸ booked.runs old stored
  ownedRuns usage member := by
    obtain ⟨old, stored, owns⟩ := booked.ownedRuns usage member
    obtain ⟨run, inTable, sameId, -⟩ := same.keptRuns old stored
    exact ⟨run, inTable, sameId.trans owns⟩

/-- An operation that leaves the books alone. -/
theorem agree_onTables {α : Type} (op : Transaction GenerationStore Error α)
    (mirrors : s.Mirrors ids t)
    (same : ∀ t' reply, op t = .ok (t', reply) → t'.SameBooks t) :
    Agree (fun p q => p.1.Mirrors ids q.1 ∧ p.2 = q.2) (BudgetedStore.onTables op s) (op t) := by
  obtain ⟨rfl, booked⟩ := mirrors
  unfold BudgetedStore.onTables
  cases ok : op s.tables with
  | error e => exact .raised e
  | ok result => exact .returned ⟨⟨rfl, booked.of_tables (same result.1 result.2 ok)⟩, rfl⟩

/-! ## Inserting and closing attempts -/

theorem isSome_insertIfAbsent {Row Key : Type} [Keyed Row Key] [DecidableEq Key] {table : Table Row}
    {row : Row} {k : Key} (known : (table.find? k).isSome ∨ key row = k) :
    ((table.insertIfAbsent row).find? k).isSome := by
  rcases known with found | rfl
  · obtain ⟨other, found⟩ := Option.isSome_iff_exists.mp found
    exact Option.isSome_iff_exists.mpr ⟨other, Table.find?_insertIfAbsent_of_some found⟩
  · exact Option.isSome_iff_exists.mpr (Table.find?_insertIfAbsent_self table row)

/-- The books with a new attempt, its reservation and its entry. -/
def BudgetedStore.pending (s : BudgetedStore) (attempt : GeneratorAttempt)
    (generator : GeneratorPlanEntry) (entry : GenerationBudgetLedgerEntry) : BudgetedStore :=
  { s with
    tables := { s.tables with attempts := s.tables.attempts.insertIfAbsent attempt }
    attemptUsages := s.attemptUsages.insertIfAbsent
      { attemptId := attempt.attemptId, reserved := reservedUsageFor generator }
    ledger := s.ledger.insertIfAbsent entry }

theorem BudgetedStore.Booked.pending {attempt : GeneratorAttempt} {generator : GeneratorPlanEntry}
    {createdAt : Timestamp} {run : GenerationRun} (booked : s.Booked ids)
    (stored : run ∈ s.tables.runs) (ofRun : run.generationRunId = attempt.generationRunId)
    (planned : run.plan.generators[attempt.generatorOrdinal]? = some generator)
    (pending : attempt.state = .pending)
    (absent : s.tables.attempts.find? attempt.attemptId = none) :
    (s.pending attempt generator (ledgerEntry ids attempt .reserve (reservedUsageFor generator)
      {} createdAt)).Booked ids := by
  have noUsage : s.attemptUsages.find? attempt.attemptId = none := by
    rw [Table.find?_eq_none_iff]
    intro usage member same
    obtain ⟨owner, inTable, owns⟩ := booked.owned usage member
    exact Table.find?_eq_none_iff.mp absent owner inTable (owns.trans same)
  have usageHere : (s.attemptUsages.insertIfAbsent
      { attemptId := attempt.attemptId, reserved := reservedUsageFor generator }).find?
        attempt.attemptId =
          some { attemptId := attempt.attemptId, reserved := reservedUsageFor generator } :=
    (Table.find?_insert_new noUsage attempt.attemptId).trans (if_pos rfl)
  have atAttempt : attempt ∈ s.tables.attempts.insertIfAbsent attempt :=
    Table.mem_insertIfAbsent.mpr (.inr ⟨absent, rfl⟩)
  refine ⟨booked.bounded, ?_, ?_, ?_, ?_, ?_, booked.runs, booked.ownedRuns⟩
  · intro other member
    rcases Table.mem_insertIfAbsent.mp member with old | ⟨-, rfl⟩
    · obtain ⟨usage, found, rest⟩ := booked.attempts other old
      exact ⟨usage, Table.find?_insertIfAbsent_of_some found, rest⟩
    · refine ⟨_, usageHere, run, stored, ofRun, generator, planned, rfl, fun _ => rfl, ?_, ?_⟩
      · intro ended
        rw [pending] at ended
        cases ended
      · exact fun _ => rfl
  · intro usage member
    rcases Table.mem_insertIfAbsent.mp member with old | ⟨-, rfl⟩
    · obtain ⟨owner, inTable, owns⟩ := booked.owned usage old
      exact ⟨owner, Table.mem_insertIfAbsent.mpr (.inl inTable), owns⟩
    · exact ⟨attempt, atAttempt, rfl⟩
  · intro other member
    rcases Table.mem_insertIfAbsent.mp member with old | ⟨-, rfl⟩
    · exact isSome_insertIfAbsent (.inl (booked.reserves other old))
    · exact isSome_insertIfAbsent (.inr rfl)
  · intro other member ended
    rcases Table.mem_insertIfAbsent.mp member with old | ⟨-, rfl⟩
    · exact isSome_insertIfAbsent (.inl (booked.settles other old ended))
    · rw [pending] at ended
      cases ended
  · intro entry member
    rcases Table.mem_insertIfAbsent.mp member with old | ⟨-, rfl⟩
    · have books := booked.entries entry old
      obtain ⟨owner, inTable, sameId, sameRun, usage, found, rest⟩ := books.booked
      exact ⟨books.identity, books.keyed, owner, Table.mem_insertIfAbsent.mpr (.inl inTable),
        sameId, sameRun, usage, Table.find?_insertIfAbsent_of_some found, rest⟩
    · exact ⟨rfl, rfl, attempt, atAttempt, rfl, rfl, _, usageHere, rfl, .inl ⟨rfl, rfl⟩⟩

/-- **An attempt is inserted with its reservation** exactly when it is inserted without. -/
theorem agree_insertPending {attempt : GeneratorAttempt} {generator : GeneratorPlanEntry}
    {createdAt : Timestamp} {run : GenerationRun} (mirrors : s.Mirrors ids t)
    (stored : run ∈ t.runs) (ofRun : run.generationRunId = attempt.generationRunId)
    (planned : run.plan.generators[attempt.generatorOrdinal]? = some generator)
    (pending : attempt.state = .pending) :
    Agree (fun s' t' => s'.Mirrors ids t') (insertPending ids generator attempt createdAt s)
      (insertAttempt attempt t) := by
  obtain ⟨rfl, booked⟩ := mirrors
  let entry := ledgerEntry ids attempt .reserve (reservedUsageFor generator) {} createdAt
  have valid : entry.Valid :=
    ⟨rfl, fun _ => rfl, fun settles => by cases settles⟩
  refine Agree.bind_ok (Except.bind_eq_ok.mpr ⟨(), require_eq_ok.mpr valid, rfl⟩ :
    reserveEntry ids attempt (reservedUsageFor generator) createdAt = .ok entry) ?_
  cases ok : insertAttempt attempt s.tables with
  | error e => exact .raised e
  | ok tables =>
      obtain ⟨-, absent, -, rfl⟩ := insertAttempt_eq_ok.mp ok
      have recorded := insertBudgetEntry_eq_ok ids entry
        (s := { s with
          tables := { s.tables with attempts := s.tables.attempts.insertIfAbsent attempt }
          attemptUsages := s.attemptUsages.insertIfAbsent
            { attemptId := attempt.attemptId, reserved := reservedUsageFor generator } })
        (fun other member => ⟨(booked.entries other member).identity,
          (booked.entries other member).keyed⟩) rfl rfl
        (Option.isSome_iff_ne_none.mp (isSome_insertIfAbsent (.inr rfl)))
        (by
          have found := Table.find?_of_mem stored
          change s.tables.runs.find? run.generationRunId = some run at found
          change s.tables.runs.find? attempt.generationRunId ≠ none
          rw [← ofRun, found]
          exact Option.some_ne_none run)
      change Agree _ (insertBudgetEntry entry _) _
      rw [recorded]
      exact .returned ⟨rfl, booked.pending stored ofRun planned pending absent⟩

/-- The books with an attempt that has ended, its usage and its entry. -/
def BudgetedStore.closed (s : BudgetedStore) (f : GeneratorAttempt → GeneratorAttempt) [KeepsKey f]
    (attemptId : Uuid) (actual : GenerationBudgetUsage) (entry : GenerationBudgetLedgerEntry) :
    BudgetedStore :=
  { s with
    tables := { s.tables with attempts := s.tables.attempts.update attemptId f }
    attemptUsages := s.attemptUsages.update attemptId (AttemptUsage.charged actual)
    ledger := s.ledger.insertIfAbsent entry }

/-- How an attempt ends: it was open, and it is charged with no more than its reservation. -/
structure Closes (f : GeneratorAttempt → GeneratorAttempt) (attempt : GeneratorAttempt)
    (reserved actual : GenerationBudgetUsage) : Prop where
  isOpen : attempt.state.terminal = false
  ends : (f attempt).state.terminal = true
  once : actual.attempts = 1
  within : usageIsWithinReservation actual reserved = true
  failed : (f attempt).state = .failed → actual.proposals = 0

theorem BudgetedStore.Booked.closed {f : GeneratorAttempt → GeneratorAttempt} [KeepsKey f]
    [place : KeepsPlace f] {attempt : GeneratorAttempt} {usage : AttemptUsage}
    {actual : GenerationBudgetUsage} {now : Timestamp} (booked : s.Booked ids)
    (found : s.tables.attempts.find? attempt.attemptId = some attempt)
    (columns : s.attemptUsages.find? attempt.attemptId = some usage)
    (closes : Closes f attempt usage.reserved actual) :
    (s.closed f attempt.attemptId actual
      (ledgerEntry ids attempt .settle usage.reserved actual now)).Booked ids := by
  have member := Table.mem_of_find? found
  have samePlace := place.place attempt
  simp only [GeneratorAttempt.place, Prod.mk.injEq] at samePlace
  have sameId : (f attempt).attemptId = attempt.attemptId := KeepsKey.keeps (f := f) attempt
  have charged : (s.attemptUsages.update attempt.attemptId (AttemptUsage.charged actual)).find?
      attempt.attemptId = some (usage.charged actual) := by
    rw [Table.find?_update_self, columns]
    rfl
  have atAttempt : f attempt ∈ s.tables.attempts.update attempt.attemptId f :=
    Table.mem_update.mpr ⟨attempt, member, if_pos rfl⟩
  -- every row is the one that ends or is as it was
  have rows : ∀ other ∈ s.tables.attempts.update attempt.attemptId f, other = f attempt ∨
      other ∈ s.tables.attempts ∧ other.attemptId ≠ attempt.attemptId := by
    intro other inTable
    obtain ⟨old, stored, rfl⟩ := Table.mem_update.mp inTable
    by_cases here : key old = attempt.attemptId
    · rw [if_pos here]
      exact .inl (congrArg f (Table.eq_of_key_eq stored member here))
    · rw [if_neg here]
      exact .inr ⟨stored, here⟩
  have kept : ∀ old ∈ s.tables.attempts, ∃ other ∈ s.tables.attempts.update attempt.attemptId f,
      other.attemptId = old.attemptId ∧ other.generationRunId = old.generationRunId ∧
        (old.attemptId ≠ attempt.attemptId → other = old) := by
    intro old stored
    by_cases here : old.attemptId = attempt.attemptId
    · obtain rfl : old = attempt := Table.eq_of_key_eq stored member here
      exact ⟨f old, atAttempt, sameId, samePlace.1, fun apart => absurd rfl apart⟩
    · exact ⟨old, Table.mem_update.mpr ⟨old, stored, if_neg here⟩, rfl, rfl, fun _ => rfl⟩
  refine ⟨booked.bounded, ?_, ?_, ?_, ?_, ?_, booked.runs, booked.ownedRuns⟩
  · intro other inTable
    rcases rows other inTable with rfl | ⟨old, apart⟩
    · obtain ⟨known, columns', run, inRuns, ofRun, generator, planned, accounts⟩ :=
        booked.attempts attempt member
      obtain rfl : usage = known := Option.some.inj (columns.symm.trans columns')
      refine ⟨_, (congrArg _ sameId).trans charged, run, inRuns, ofRun.trans samePlace.1.symm,
        generator, ?_, accounts.reserved, ?_, fun _ => ⟨closes.once, closes.within⟩, closes.failed⟩
      · rw [samePlace.2.2.2.2.1]
        exact planned
      · intro isOpen
        rw [closes.ends] at isOpen
        cases isOpen
    · obtain ⟨known, columns', rest⟩ := booked.attempts other old
      exact ⟨known, (Table.find?_update_ne apart).trans columns', rest⟩
  · intro columns' inTable
    obtain ⟨before, stored, rfl⟩ := Table.mem_update.mp inTable
    obtain ⟨owner, inAttempts, owns⟩ := booked.owned before stored
    obtain ⟨other, inTable', sameOther, -⟩ := kept owner inAttempts
    refine ⟨other, inTable', sameOther.trans (owns.trans ?_)⟩
    split <;> rfl
  · intro other inTable
    refine isSome_insertIfAbsent (.inl ?_)
    rcases rows other inTable with rfl | ⟨old, -⟩
    · exact sameId ▸ booked.reserves attempt member
    · exact booked.reserves other old
  · intro other inTable ended
    rcases rows other inTable with rfl | ⟨old, -⟩
    · exact isSome_insertIfAbsent (.inr (congrArg
        (fun attemptId => ids.generationBudgetEntryIdFor attemptId .settle) sameId.symm))
    · exact isSome_insertIfAbsent (.inl (booked.settles other old ended))
  · intro entry inTable
    rcases Table.mem_insertIfAbsent.mp inTable with old | ⟨-, rfl⟩
    · have books := booked.entries entry old
      obtain ⟨owner, inAttempts, owns, ofRun, known, columns', reserved, kind⟩ := books.booked
      obtain ⟨other, inTable', sameOther, sameRun, others⟩ := kept owner inAttempts
      refine ⟨books.identity, books.keyed, other, inTable', sameOther.trans owns,
        sameRun.trans ofRun, ?_⟩
      by_cases here : owner.attemptId = attempt.attemptId
      · obtain rfl : owner = attempt := Table.eq_of_key_eq inAttempts member here
        obtain rfl : usage = known :=
          Option.some.inj (columns.symm.trans ((congrArg _ owns).trans columns'))
        refine ⟨_, (congrArg _ owns.symm).trans charged, reserved, ?_⟩
        rcases kind with reserves | ⟨-, ended, -⟩
        · exact .inl reserves
        · rw [closes.isOpen] at ended
          cases ended
      · refine ⟨known, (Table.find?_update_ne fun same => here (owns.trans same)).trans columns',
          reserved, ?_⟩
        rw [others here]
        exact kind
    · exact ⟨rfl, rfl, f attempt, atAttempt, sameId, samePlace.1, _, charged, rfl,
        .inr ⟨rfl, closes.ends, rfl⟩⟩

/-- **An attempt is closed with its usage** exactly when its row is written. -/
theorem agree_closeAttempt {f : GeneratorAttempt → GeneratorAttempt} [KeepsKey f] [KeepsPlace f]
    {attempt : GeneratorAttempt} {usage : AttemptUsage} {actual : GenerationBudgetUsage}
    (now : Timestamp) (mirrors : s.Mirrors ids t)
    (found : t.attempts.find? attempt.attemptId = some attempt)
    (columns : s.attemptUsages.find? attempt.attemptId = some usage)
    (closes : Closes f attempt usage.reserved actual) :
    Agree (fun s' p => s'.Mirrors ids p.1)
      (closeAttempt ids f attempt usage.reserved actual now s)
      (writeAttempt attempt.attemptId f t) := by
  obtain ⟨rfl, booked⟩ := mirrors
  obtain ⟨known, columns', run, inRuns, ofRun, generator, -, accounts⟩ :=
    booked.attempts attempt (Table.mem_of_find? found)
  obtain rfl : usage = known := Option.some.inj (columns.symm.trans columns')
  let entry := ledgerEntry ids attempt .settle usage.reserved actual now
  have within := of_decide_eq_true closes.within
  have valid : entry.Valid := by
    refine ⟨congrArg GenerationBudgetUsage.attempts accounts.reserved, ?_,
      fun _ => ⟨closes.once, within.2⟩⟩
    rintro (reserves | releases)
    · cases reserves
    · cases releases
  unfold closeAttempt
  cases ok : writeAttempt attempt.attemptId f s.tables with
  | error e => exact .raised e
  | ok pair =>
      obtain ⟨tables, row⟩ := pair
      obtain ⟨-, -, -, -, rfl, -⟩ := writeAttempt_eq_ok.mp ok
      have recorded := insertBudgetEntry_eq_ok ids entry
        (s := { s with
          tables := { s.tables with attempts := s.tables.attempts.update attempt.attemptId f }
          attemptUsages :=
            s.attemptUsages.update attempt.attemptId (AttemptUsage.charged actual) })
        (fun other member => ⟨(booked.entries other member).identity,
          (booked.entries other member).keyed⟩) rfl rfl
        (by
          change (s.tables.attempts.update attempt.attemptId f).find? attempt.attemptId ≠ none
          rw [Table.find?_update_self, found]
          exact Option.some_ne_none _)
        (by
          have found' := Table.find?_of_mem inRuns
          change s.tables.runs.find? run.generationRunId = some run at found'
          change s.tables.runs.find? attempt.generationRunId ≠ none
          rw [← ofRun, found']
          exact Option.some_ne_none run)
      refine Agree.bind_ok rfl (Agree.bind_ok (Except.bind_eq_ok.mpr
        ⟨(), require_eq_ok.mpr valid, rfl⟩ :
          settleEntry ids attempt usage.reserved actual now = .ok entry) ?_)
      rw [recorded]
      exact .returned ⟨rfl, booked.closed found columns closes⟩

end Writes

end Agent

end HcuAutoOpt
