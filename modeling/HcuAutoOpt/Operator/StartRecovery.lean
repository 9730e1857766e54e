import HcuAutoOpt.Operator.StartIntegrity

/-!
# Recovery of formal start intents

`FormalStartCoordinator.recover` lists the recoverable intents, those updated longest ago
first, and reconciles them in turn. A verdict is always recorded
(`FormalStartCoordinator.valid_outcome`), so a reconciliation of a listed intent raises in two
cases only: the intent belongs to another deployment, or the clock is behind its creation and
the row violates a constraint (`FormalStartCoordinator.reconcile_spec`). The list is not
restricted to the deployment, and the first error ends the recovery. An intent of another
deployment is never updated, so it comes to the head of the list and stays there.

**Main result.** `recover_reaches_own`: a recovery reconciles what it lists exactly when
everything it lists is the deployment's own and no younger than the clock, and repeated
recoveries reach every own intent without an error exactly when no recoverable intent is another
deployment's. `foreign_intent_stops_recovery` is a store in which one foreign intent keeps the
deployment from its own.
-/

set_option autoImplicit false

namespace HcuAutoOpt

open Foundation

/-! ## Verdicts can be recorded -/

/-- Sorting different codes makes them canonical. -/
theorem canonical_insertionSort {codes : List String} (different : codes.Nodup) :
    CanonicalCodes (codes.insertionSort (· ≤ ·)) := by
  have sorted := List.pairwise_insertionSort (· ≤ · : String → String → Prop) codes
  have apart : (codes.insertionSort (· ≤ ·)).Nodup :=
    (List.perm_insertionSort (· ≤ ·) codes).nodup_iff.mpr different
  exact (sorted.and apart).imp fun ⟨le, ne⟩ => lt_of_le_of_ne le ne

theorem FormalRoundPlanPreview.canonical_nonStartBlocks (preview : FormalRoundPlanPreview) :
    CanonicalCodes preview.nonStartBlocks :=
  canonical_insertionSort
    (preview.codesUnique.sublist ((List.filter_sublist).map PreflightCheckResult.code))

/-- Unless both authorities are there, the codes of the missing ones are canonical and not
none. -/
theorem missingAuthorities_spec {α β : Type} (execution : Option α) (evaluation : Option β) :
    CanonicalCodes (missingAuthorities execution evaluation) ∧
      (missingAuthorities execution evaluation = [] ↔
        execution.isSome = true ∧ evaluation.isSome = true) := by
  have both : CanonicalCodes (missingAuthorities (none : Option Unit) (none : Option Unit)) := by
    decide
  cases execution with
  | none =>
      cases evaluation with
      | none => exact ⟨both, by simp [missingAuthorities]⟩
      | some _ => exact ⟨List.pairwise_singleton _ _, by simp [missingAuthorities]⟩
  | some _ =>
      cases evaluation with
      | none => exact ⟨List.pairwise_singleton _ _, by simp [missingAuthorities]⟩
      | some _ => exact ⟨List.Pairwise.nil, by simp [missingAuthorities]⟩

/-- The blocker codes of a verdict, which only a verdict to wait has. -/
def FormalStartVerdict.Sound : FormalStartVerdict → Prop
  | .awaiting blockerCodes => blockerCodes ≠ [] ∧ CanonicalCodes blockerCodes
  | .ready | .failed _ _ => True

namespace FormalStartCoordinator

variable {c : FormalStartCoordinator} {verifiers : FormalStartVerifiers}

theorem sound_examine {reading : FormalStartReading} {intent : FormalStartIdentity}
    {verdict : FormalStartVerdict} (examined : c.examine verifiers reading intent = .ok verdict) :
    verdict.Sound := by
  unfold examine at examined
  simp only [Except.bind_eq_ok] at examined
  obtain ⟨preview, -, _, -, revalidated, -, _, -, examined⟩ := examined
  split at examined
  case isTrue blocked =>
    cases examined
    exact ⟨blocked, revalidated.canonical_nonStartBlocks⟩
  case isFalse =>
    simp only [Except.bind_eq_ok] at examined
    obtain ⟨execution, -, evaluation, -, examined⟩ := examined
    split at examined
    case h_1 execution evaluation =>
      simp only [Except.bind_eq_ok] at examined
      obtain ⟨_, -, _, -, _, -, examined⟩ := examined
      cases examined
      trivial
    case h_2 missing =>
      cases examined
      have spec := missingAuthorities_spec execution evaluation
      refine ⟨fun none => ?_, spec.1⟩
      obtain ⟨hasExecution, hasEvaluation⟩ := spec.2.mp none
      obtain ⟨_, rfl⟩ := Option.isSome_iff_exists.mp hasExecution
      obtain ⟨_, rfl⟩ := Option.isSome_iff_exists.mp hasEvaluation
      exact missing _ _ rfl rfl

theorem sound_verdict (c : FormalStartCoordinator) (verifiers : FormalStartVerifiers)
    (reading : FormalStartReading) (intent : FormalStartIdentity) :
    (c.verdict verifiers reading intent).Sound := by
  unfold verdict settle
  split
  case h_1 verdict examined => exact sound_examine examined
  case h_2 => exact ⟨by decide, by decide⟩
  case h_3 => exact ⟨by decide, by decide⟩
  case h_4 => trivial
  case h_5 => trivial

/-- What the coordinator records always passes the checks of the repository. -/
theorem valid_outcome (c : FormalStartCoordinator) (verifiers : FormalStartVerifiers)
    (reading : FormalStartReading) (intent : FormalStartIdentity) :
    (c.outcome verifiers reading intent).validate = .ok () := by
  have sound := c.sound_verdict verifiers reading intent
  unfold outcome
  cases verdict : c.verdict verifiers reading intent with
  | awaiting blockerCodes =>
      rw [verdict] at sound
      simp [FormalStartReconciliation.validate, FormalStartVerdict.outcome, sound.1, sound.2,
        require, bind, Except.bind]
  | ready => rfl
  | failed errorCode errorMessage => rfl

theorem paired_outcome (c : FormalStartCoordinator) (verifiers : FormalStartVerifiers)
    (reading : FormalStartReading) (intent : FormalStartIdentity) :
    (c.outcome verifiers reading intent).errorCode.isSome =
      (c.outcome verifiers reading intent).errorMessage.isSome := by
  unfold outcome
  cases c.verdict verifiers reading intent <;> rfl

@[simp] theorem outcome_checkedAt (reading : FormalStartReading) (intent : FormalStartIdentity) :
    (c.outcome verifiers reading intent).checkedAt = reading.now :=
  FormalStartVerdict.outcome_checkedAt _ _

end FormalStartCoordinator

/-- A reconciled row satisfies the constraints exactly when it is not reconciled before it was
created. -/
theorem FormalStartReconciliation.checked_apply {outcome : FormalStartReconciliation}
    {row : FormalStartIntent} (valid : outcome.validate = .ok ())
    (paired : outcome.errorCode.isSome = outcome.errorMessage.isSome) (checked : row.Checked)
    (unsettled : ¬ row.state.Settled) :
    (outcome.apply row).Checked ↔ row.createdAt ≤ outcome.checkedAt := by
  refine ⟨fun after => after.updated, fun later => ?_⟩
  unfold validate at valid
  simp only [Except.bind_eq_ok, require_eq_ok] at valid
  obtain ⟨_, active, _, -, _, blocked, _, unblocked, errors⟩ := valid
  have uncancelled : row.cancelledAt = none := by
    have none : ¬ row.cancelledAt.isSome = true := fun some =>
      unsettled (.inl (checked.columns.cancelled.mp some))
    simpa using none
  exact
    { bindings := checked.bindings
      columns :=
        { authority := by simp [apply]
          blockers := by
            constructor
            · intro some
              by_contra other
              exact unblocked ⟨other, some⟩
            · intro awaiting none
              exact blocked ⟨awaiting, none⟩
          ready := by
            by_cases ready : outcome.state = .readyForRoundCreation <;> simp [apply, ready]
          errors := paired
          failed := by simp [apply, errors, paired]
          cancelled := by simp [apply, uncancelled, active] }
      nonExecuting := checked.nonExecuting
      version := Nat.le_add_left 1 row.version
      updated := later
      times := by
        intro time member
        have here : time = outcome.checkedAt := by
          by_cases ready : outcome.state = .readyForRoundCreation <;>
            simpa [FormalStartIntent.eventTimes, apply, ready, uncancelled] using member
        exact here ▸ later }

/-- The next sequence number of an intent is free. -/
theorem FormalStartTables.Sound.next_absent {tables : FormalStartTables} (sound : tables.Sound)
    {row : FormalStartIntent} (member : row ∈ tables.intents) :
    tables.events.find? (row.intentId, row.version + 1) = none := by
  refine Table.find?_eq_none_iff.mpr fun event inTable same => ?_
  obtain ⟨named, numbered⟩ := Prod.mk.inj same
  have listed : event.sequence ∈
      (tables.eventsOf row.intentId).map FormalStartEvent.sequence :=
    List.mem_map_of_mem (List.mem_filter.mpr ⟨inTable, decide_eq_true named⟩)
  rw [sound.numbered row member, numbered, List.mem_range'_1] at listed
  omega

/-- A reconciliation of an unsettled row is committed exactly when its constraints hold. -/
theorem recordFormalStartReconciliation_eq {intentId : Uuid} {outcome : FormalStartReconciliation}
    {s : Store} {row : FormalStartIntent} (valid : outcome.validate = .ok ())
    (found : s.formalStarts.intents.find? intentId = some row)
    (unsettled : ¬ row.state.Settled)
    (absent : s.formalStarts.events.find? (intentId, row.version + 1) = none) :
    recordFormalStartReconciliation intentId outcome s =
      if (outcome.apply row).Checked then
        .ok (s.withFormalStarts (s.formalStarts.rewrites intentId outcome.apply
          (outcome.event (outcome.apply row))), outcome.apply row)
      else .error (.databaseError "formal_operator_start_intents") := by
  have named : row.intentId = intentId := Table.key_of_find? found
  have keyed : key (outcome.event (outcome.apply row)) = (intentId, row.version + 1) := by
    rw [← named]
    rfl
  unfold recordFormalStartReconciliation FormalStartIntent.requireChecked
    FormalStartTables.append
  by_cases checked : (outcome.apply row).Checked
  · simp [valid, found, unsettled, checked, keyed, absent, require, requireRow, bind, Except.bind,
      pure, Except.pure, FormalStartTables.rewrites]
  · simp [valid, found, unsettled, checked, require, requireRow, bind, Except.bind]

/-! ## One intent -/

namespace FormalStartCoordinator

variable (c : FormalStartCoordinator) (verifiers : FormalStartVerifiers)

/-- The intent is the deployment's own, and the clock is not behind its creation. -/
def Reaches (reading : FormalStartReading) (row : FormalStartIntent) : Prop :=
  row.serviceIdentity = c.serviceIdentity ∧ row.createdAt ≤ reading.now

/-- A row with its verdict recorded. -/
def reconciled (reading : FormalStartReading) (row : FormalStartIntent) : FormalStartIntent :=
  (c.outcome verifiers reading row.toFormalStartIdentity).apply row

/-- The store after a verdict on a row is recorded. -/
def record (reading : FormalStartReading) (row : FormalStartIntent) (s : Store) : Store :=
  s.withFormalStarts (s.formalStarts.rewrites row.intentId
    (c.outcome verifiers reading row.toFormalStartIdentity).apply
    ((c.outcome verifiers reading row.toFormalStartIdentity).event
      (c.reconciled verifiers reading row)))

variable {c verifiers}

/-- A reconciliation of a recoverable row records its verdict or raises, as the row is reached
or not. -/
theorem reconcile_spec (verifiers : FormalStartVerifiers) {s : Store} (sound : s.formalStarts.Sound) {row : FormalStartIntent}
    (member : row ∈ s.formalStarts.intents) (recoverable : row.state.Recoverable)
    (reading : FormalStartReading) :
    (c.Reaches reading row →
      (∃ view, c.reconcile verifiers reading row.intentId s =
        (c.record verifiers reading row s, .ok view)) ∧
        (c.record verifiers reading row s).formalStarts.Sound) ∧
    (¬ c.Reaches reading row →
      ∃ e, c.reconcile verifiers reading row.intentId s = (s, .error e)) := by
  have found : s.formalStarts.intents.find? row.intentId = some row := Table.find?_of_mem member
  have unsettled := FormalStartState.recoverable_iff.mp recoverable
  have consistent : row.ConsistentState :=
    sound.viewable row member fun cancelled => unsettled (.inl cancelled)
  have absent := sound.next_absent member
  have valid := c.valid_outcome verifiers reading row.toFormalStartIdentity
  have checked := FormalStartReconciliation.checked_apply valid
    (c.paired_outcome verifiers reading row.toFormalStartIdentity) consistent.toChecked unsettled
  rw [outcome_checkedAt] at checked
  have got : getFormalStartIntent s row.intentId = .ok ⟨row, consistent⟩ := by
    simp [getFormalStartIntent, found, formalStartIntent, consistent, requireRow, bind,
      Except.bind]
  have recorded := recordFormalStartReconciliation_eq valid found unsettled absent
  by_cases own : row.serviceIdentity = c.serviceIdentity
  case neg =>
    refine ⟨fun reaches => absurd reaches.1 own, fun _ => ?_⟩
    refine ⟨.operator (.serviceIdentityMismatch
      "Formal StartIntent belongs to another service deployment"), ?_⟩
    simp [reconcile, readLocal, got, raiseRepository, raiseOperator, requireLocalIntent, require,
      own, bind, Except.bind, Except.mapError]
  case pos =>
    have readHere : c.readLocal s row.intentId = .ok ⟨row, consistent⟩ := by
      simp [readLocal, got, raiseRepository, raiseOperator, requireLocalIntent, require, own,
        bind, Except.bind, pure, Except.pure, Except.mapError]
    by_cases later : row.createdAt ≤ reading.now
    case neg =>
      refine ⟨fun reaches => absurd reaches.2 later, fun _ => ?_⟩
      rw [if_neg (mt checked.mp later)] at recorded
      refine ⟨.repository (.databaseError "formal_operator_start_intents"), ?_⟩
      simp [reconcile, readHere, unsettled, commit_of_error recorded]
    case pos =>
      refine ⟨fun _ => ?_, fun unreached => absurd ⟨own, later⟩ unreached⟩
      have after := checked.mpr later
      rw [if_pos after] at recorded
      have canonical := (FormalStartReconciliation.of_validate valid).2
      have moved := FormalStartReconciliation.moved unsettled canonical after
      have viewed := moved.viewable consistent (FormalStartReconciliation.of_validate valid).1
      refine ⟨⟨⟨_, viewed⟩, ?_⟩, sound.rewrites found moved rfl absent⟩
      simp [reconcile, readHere, unsettled, commit_of_ok recorded, raiseRepository,
        formalStartIntent, viewed, Except.mapError, record, reconciled]

/-- The lookups after a verdict on a row is recorded. -/
theorem find?_record {s : Store} {row : FormalStartIntent}
    (member : row ∈ s.formalStarts.intents) (reading : FormalStartReading) (intentId : Uuid) :
    (c.record verifiers reading row s).formalStarts.intents.find? intentId =
      if intentId = row.intentId then some (c.reconciled verifiers reading row)
      else s.formalStarts.intents.find? intentId :=
  Table.find?_update_known (Table.find?_of_mem member) intentId

end FormalStartCoordinator

/-! ## One recovery -/

namespace FormalStartCoordinator

variable {c : FormalStartCoordinator} {verifiers : FormalStartVerifiers}
  (readings : Uuid → FormalStartReading)

/-- Reconciling different recoverable rows in turn records the verdict on each of them, or
raises, as all of them are reached or not. -/
theorem reconcileEach_spec (rows : List FormalStartIntent) {s : Store}
    (sound : s.formalStarts.Sound) (different : (rows.map (·.intentId)).Nodup)
    (stored : ∀ row ∈ rows, row ∈ s.formalStarts.intents ∧ row.state.Recoverable) :
    ((∀ row ∈ rows, c.Reaches (readings row.intentId) row) →
      ∃ t views, c.reconcileEach verifiers readings (rows.map (·.intentId)) s = (t, .ok views) ∧
        t.formalStarts.Sound ∧
        ∀ intentId, t.formalStarts.intents.find? intentId =
          if intentId ∈ rows.map (·.intentId) then
            (s.formalStarts.intents.find? intentId).map
              (c.reconciled verifiers (readings intentId))
          else s.formalStarts.intents.find? intentId) ∧
    ((∃ row ∈ rows, ¬ c.Reaches (readings row.intentId) row) →
      ∃ t e, c.reconcileEach verifiers readings (rows.map (·.intentId)) s = (t, .error e)) := by
  induction rows generalizing s with
  | nil => exact ⟨fun _ => ⟨s, [], rfl, sound, fun _ => rfl⟩, fun none => by simp at none⟩
  | cons row rest ih =>
      obtain ⟨member, recoverable⟩ := stored row List.mem_cons_self
      obtain ⟨apart, different⟩ := List.nodup_cons.mp different
      obtain ⟨reached, unreached⟩ := reconcile_spec (c := c) verifiers sound member
        recoverable (readings row.intentId)
      by_cases reaches : c.Reaches (readings row.intentId) row
      case neg =>
        obtain ⟨e, raises⟩ := unreached reaches
        refine ⟨fun all => absurd (all row List.mem_cons_self) reaches, fun _ => ⟨s, e, ?_⟩⟩
        simp [reconcileEach, raises]
      case pos =>
        obtain ⟨⟨view, records⟩, sound'⟩ := reached reaches
        have stored' : ∀ other ∈ rest,
            other ∈ (c.record verifiers (readings row.intentId) row s).formalStarts.intents ∧
              other.state.Recoverable := by
          intro other later
          obtain ⟨inTable, open_⟩ := stored other (List.mem_cons_of_mem row later)
          have ne : other.intentId ≠ row.intentId := by
            intro same
            refine apart (List.mem_map.mpr ⟨other, later, same⟩)
          refine ⟨Table.mem_of_find? (k := other.intentId) ?_, open_⟩
          rw [find?_record member, if_neg ne]
          exact Table.find?_of_mem inTable
        obtain ⟨succeeds, fails⟩ := ih sound' different stored'
        constructor
        · intro all
          obtain ⟨t, views, each, soundEnd, lookups⟩ :=
            succeeds fun other later => all other (List.mem_cons_of_mem row later)
          refine ⟨t, view :: views, ?_, soundEnd, fun intentId => ?_⟩
          · simp [reconcileEach, records, each, Except.map]
          · rw [lookups, find?_record member]
            by_cases here : intentId = row.intentId
            · subst here
              have found : s.formalStarts.intents.find? row.intentId = some row :=
                Table.find?_of_mem member
              rw [if_neg apart]
              simp [found]
            · simp [here]
        · rintro ⟨other, listed, missed⟩
          rcases List.mem_cons.mp listed with rfl | later
          · exact absurd reaches missed
          · obtain ⟨t, e, each⟩ := fails ⟨other, later, missed⟩
            exact ⟨t, e, by simp [reconcileEach, records, each, Except.map]⟩

/-- The rows that a recovery lists. -/
def listed (limit : Int) (s : Store) : List FormalStartIntent :=
  s.formalStarts.recoverable.take limit.toNat

/-- A recovery raises no error and records the verdict on each row of the deployment that it
lists. -/
def RecoversListed (c : FormalStartCoordinator) (verifiers : FormalStartVerifiers)
    (readings : Uuid → FormalStartReading) (limit : Int) (s : Store) : Prop :=
  (∃ views, (c.recover readings limit s).2 = .ok views) ∧
    ∀ row ∈ listed limit s, row.serviceIdentity = c.serviceIdentity →
      c.reconciled verifiers (readings row.intentId) row ∈
        (c.recover readings limit s).1.formalStarts.intents

end FormalStartCoordinator

/-- The recoverable rows are those of the table. -/
theorem FormalStartTables.mem_recoverable {tables : FormalStartTables}
    {row : FormalStartIntent} :
    row ∈ tables.recoverable ↔ row ∈ tables.intents ∧ row.state.Recoverable := by
  rw [recoverable, List.mem_insertionSort, List.mem_filter, Table.mem_rows]
  exact and_congr_right fun _ => decide_eq_true_iff

theorem FormalStartTables.nodup_recoverable (tables : FormalStartTables) :
    (tables.recoverable.map (·.intentId)).Nodup := by
  have perm := (List.perm_insertionSort FormalStartIntent.ListedBefore
    (tables.intents.rows.filter fun row => decide row.state.Recoverable)).map (·.intentId)
  refine perm.nodup_iff.mpr ?_
  exact tables.intents.keys_nodup.sublist (List.filter_sublist.map _)

namespace FormalStartCoordinator

variable {c : FormalStartCoordinator} {verifiers : FormalStartVerifiers}
  {readings : Uuid → FormalStartReading} {limit : Int} {s : Store}

theorem mem_of_mem_listed {row : FormalStartIntent} (member : row ∈ listed limit s) :
    row ∈ s.formalStarts.intents ∧ row.state.Recoverable :=
  FormalStartTables.mem_recoverable.mp (List.mem_of_mem_take member)

/-- A recovery reconciles the rows that it lists. -/
theorem recover_eq (configured : c.requireVerifiers = .ok verifiers)
    (bounds : 1 ≤ limit ∧ limit ≤ 1000) :
    c.recover readings limit s =
      c.reconcileEach verifiers readings ((listed limit s).map (·.intentId)) s := by
  simp [recover, configured, listRecoverableFormalStartIntentIds, bounds, require, bind,
    Except.bind, pure, Except.pure, listed]

/-- What one recovery does, as all the rows that it lists are reached or not. -/
theorem recover_spec (readings : Uuid → FormalStartReading) (limit : Int)
    (configured : c.requireVerifiers = .ok verifiers)
    (bounds : 1 ≤ limit ∧ limit ≤ 1000) (sound : s.formalStarts.Sound) :
    ((∀ row ∈ listed limit s, c.Reaches (readings row.intentId) row) →
      ∃ t views, c.recover readings limit s = (t, .ok views) ∧ t.formalStarts.Sound ∧
        ∀ intentId, t.formalStarts.intents.find? intentId =
          if intentId ∈ (listed limit s).map (·.intentId) then
            (s.formalStarts.intents.find? intentId).map
              (c.reconciled verifiers (readings intentId))
          else s.formalStarts.intents.find? intentId) ∧
    ((∃ row ∈ listed limit s, ¬ c.Reaches (readings row.intentId) row) →
      ∃ t e, c.recover readings limit s = (t, .error e)) := by
  rw [recover_eq configured bounds]
  refine reconcileEach_spec readings _ sound ?_ fun row member => mem_of_mem_listed member
  exact (FormalStartTables.nodup_recoverable _).sublist ((List.take_sublist _ _).map _)

/-- One recovery does its work exactly when it reaches every row that it lists. -/
theorem recoversListed_iff (configured : c.requireVerifiers = .ok verifiers)
    (bounds : 1 ≤ limit ∧ limit ≤ 1000) (sound : s.formalStarts.Sound) :
    c.RecoversListed verifiers readings limit s ↔
      ∀ row ∈ listed limit s, c.Reaches (readings row.intentId) row := by
  obtain ⟨succeeds, fails⟩ := recover_spec (c := c) readings limit configured bounds sound
  constructor
  · rintro ⟨⟨views, ok⟩, -⟩ row member
    by_contra unreached
    obtain ⟨t, e, raises⟩ := fails ⟨row, member, unreached⟩
    rw [raises] at ok
    cases ok
  · intro all
    obtain ⟨t, views, ok, -, lookups⟩ := succeeds all
    refine ⟨⟨views, by rw [ok]⟩, fun row member _ => ?_⟩
    have found : s.formalStarts.intents.find? row.intentId = some row :=
      Table.find?_of_mem (mem_of_mem_listed member).1
    rw [ok]
    refine Table.mem_of_find? (k := row.intentId) ?_
    rw [lookups, if_pos (List.mem_map_of_mem member), found]
    rfl

end FormalStartCoordinator

/-! ## Repeated recoveries -/

namespace FormalStartCoordinator

/-- The store before the recovery of a number, each with readings of its own. -/
def recoverTimes (c : FormalStartCoordinator) (limit : Int) :
    (Nat → Uuid → FormalStartReading) → Nat → Store → Store
  | _, 0, s => s
  | readings, n + 1, s =>
      recoverTimes c limit (fun k => readings (k + 1)) n (c.recover (readings 0) limit s).1

/-- No recovery raises an error, and every recoverable row of the deployment waits for a
recovery that records its verdict. -/
def RecoversAll (c : FormalStartCoordinator) (verifiers : FormalStartVerifiers)
    (readings : Nat → Uuid → FormalStartReading) (limit : Int) (s : Store) : Prop :=
  (∀ n, ∃ views, (c.recover (readings n) limit (c.recoverTimes limit readings n s)).2 =
    .ok views) ∧
    ∀ row ∈ s.formalStarts.recoverable, row.serviceIdentity = c.serviceIdentity →
      ∃ n, row ∈ (c.recoverTimes limit readings n s).formalStarts.intents ∧
        c.reconciled verifiers (readings n row.intentId) row ∈
          (c.recover (readings n) limit (c.recoverTimes limit readings n s)).1.formalStarts.intents

end FormalStartCoordinator

namespace FormalStartTables

/-- The intents that recovery takes before a row. -/
def ahead (tables : FormalStartTables) (row : FormalStartIntent) : Finset Uuid :=
  ((tables.recoverable.filter fun other =>
    decide (other.ListedBefore row ∧ other.intentId ≠ row.intentId)).map (·.intentId)).toFinset

theorem mem_ahead {tables : FormalStartTables} {row : FormalStartIntent} {intentId : Uuid} :
    intentId ∈ tables.ahead row ↔
      ∃ other ∈ tables.intents, other.state.Recoverable ∧ other.ListedBefore row ∧
        other.intentId = intentId ∧ intentId ≠ row.intentId := by
  simp only [ahead, List.mem_toFinset, List.mem_map, List.mem_filter, mem_recoverable,
    decide_eq_true_eq]
  constructor
  · rintro ⟨other, ⟨⟨member, open_⟩, before, apart⟩, rfl⟩
    exact ⟨other, member, open_, before, rfl, apart⟩
  · rintro ⟨other, member, open_, before, rfl, apart⟩
    exact ⟨other, ⟨⟨member, open_⟩, before, apart⟩, rfl⟩

end FormalStartTables

instance : Std.Total FormalStartIntent.ListedBefore where
  total row other := by
    unfold FormalStartIntent.ListedBefore
    omega

instance : IsTrans FormalStartIntent FormalStartIntent.ListedBefore where
  trans row other third first second := by
    unfold FormalStartIntent.ListedBefore at *
    omega

namespace FormalStartCoordinator

variable {c : FormalStartCoordinator} {verifiers : FormalStartVerifiers} {limit : Int} {s : Store}

/-- Some row is listed before a recoverable row that is not. -/
theorem exists_listed_before (bounds : 1 ≤ limit ∧ limit ≤ 1000) {row : FormalStartIntent}
    (waiting : row ∈ s.formalStarts.recoverable) (unlisted : row ∉ listed limit s) :
    ∃ first ∈ listed limit s, first.ListedBefore row ∧ first.intentId ≠ row.intentId := by
  have sorted := List.pairwise_insertionSort FormalStartIntent.ListedBefore
    (s.formalStarts.intents.rows.filter fun row => decide row.state.Recoverable)
  have different := s.formalStarts.nodup_recoverable
  obtain ⟨k, positive⟩ : ∃ k, limit.toNat = k + 1 := ⟨limit.toNat - 1, by omega⟩
  unfold listed at unlisted ⊢
  unfold FormalStartTables.recoverable at waiting unlisted different ⊢
  rw [positive] at unlisted ⊢
  generalize (s.formalStarts.intents.rows.filter fun row =>
    decide row.state.Recoverable).insertionSort FormalStartIntent.ListedBefore = rows at *
  cases rows with
  | nil => simp at waiting
  | cons first rest =>
      rw [List.take_succ_cons] at unlisted ⊢
      have later : row ∈ rest := by
        rcases List.mem_cons.mp waiting with rfl | later
        · exact absurd List.mem_cons_self unlisted
        · exact later
      refine ⟨first, List.mem_cons_self, (List.pairwise_cons.mp sorted).1 row later, ?_⟩
      intro same
      exact (List.nodup_cons.mp different).1 (List.mem_map.mpr ⟨row, later, same.symm⟩)

/-- A recovery that raises no error keeps a row that it does not list, and takes some intent
from before it. -/
theorem recover_unlisted {readings : Uuid → FormalStartReading} {row : FormalStartIntent}
    (configured : c.requireVerifiers = .ok verifiers) (bounds : 1 ≤ limit ∧ limit ≤ 1000)
    (sound : s.formalStarts.Sound)
    (ok : ∃ views, (c.recover readings limit s).2 = .ok views)
    (waiting : row ∈ s.formalStarts.recoverable) (unlisted : row ∉ listed limit s)
    (clock : ∀ intentId, row.updatedAt < (readings intentId).now) :
    (c.recover readings limit s).1.formalStarts.Sound ∧
      row ∈ (c.recover readings limit s).1.formalStarts.recoverable ∧
      ((c.recover readings limit s).1.formalStarts.ahead row).card <
        (s.formalStarts.ahead row).card := by
  obtain ⟨succeeds, fails⟩ := recover_spec (c := c) readings limit configured bounds sound
  have all : ∀ other ∈ listed limit s, c.Reaches (readings other.intentId) other := by
    by_contra missed
    push Not at missed
    obtain ⟨t, e, raises⟩ := fails missed
    obtain ⟨views, ok⟩ := ok
    rw [raises] at ok
    cases ok
  obtain ⟨t, views, done, soundAfter, lookups⟩ := succeeds all
  rw [done]
  obtain ⟨member, open_⟩ := FormalStartTables.mem_recoverable.mp waiting
  have apart : row.intentId ∉ (listed limit s).map (·.intentId) := by
    intro inside
    obtain ⟨other, here, same⟩ := List.mem_map.mp inside
    have equal : other = row :=
      Table.eq_of_key_eq (mem_of_mem_listed here).1 member same
    exact unlisted (equal ▸ here)
  have stays : row ∈ t.formalStarts.intents := by
    refine Table.mem_of_find? (k := row.intentId) ?_
    rw [lookups, if_neg apart]
    exact Table.find?_of_mem member
  -- A listed row is updated at the clock, after the row that waits.
  have passed : ∀ other ∈ t.formalStarts.intents, other.ListedBefore row →
      other.intentId ∉ (listed limit s).map (·.intentId) := by
    intro other inTable before inside
    have found : t.formalStarts.intents.find? other.intentId = some other :=
      Table.find?_of_mem inTable
    rw [lookups, if_pos inside, Option.map_eq_some_iff] at found
    obtain ⟨old, -, same⟩ := found
    have time : (c.reconciled verifiers (readings other.intentId) old).updatedAt =
        (readings other.intentId).now := outcome_checkedAt _ _
    rw [same] at time
    have later := clock other.intentId
    unfold FormalStartIntent.ListedBefore at before
    omega
  refine ⟨soundAfter, FormalStartTables.mem_recoverable.mpr ⟨stays, open_⟩,
    Finset.card_lt_card (Finset.ssubset_iff_subset_ne.mpr ⟨?_, ?_⟩)⟩
  · intro intentId inside
    obtain ⟨other, inTable, openOther, before, rfl, ne⟩ := FormalStartTables.mem_ahead.mp inside
    have found : t.formalStarts.intents.find? other.intentId = some other :=
      Table.find?_of_mem inTable
    rw [lookups, if_neg (passed other inTable before)] at found
    exact FormalStartTables.mem_ahead.mpr
      ⟨other, Table.mem_of_find? found, openOther, before, rfl, ne⟩
  · obtain ⟨first, here, before, ne⟩ := exists_listed_before bounds waiting unlisted
    intro same
    obtain ⟨firstMember, firstOpen⟩ := mem_of_mem_listed here
    have inside : first.intentId ∈ s.formalStarts.ahead row :=
      FormalStartTables.mem_ahead.mpr ⟨first, firstMember, firstOpen, before, rfl, ne⟩
    rw [← same] at inside
    obtain ⟨other, inTable, -, before', named, -⟩ := FormalStartTables.mem_ahead.mp inside
    exact passed other inTable before' (named ▸ List.mem_map_of_mem here)

/-- When no recovery raises an error, every recoverable row is listed by one of them as it
is. -/
theorem listed_eventually {readings : Nat → Uuid → FormalStartReading} {row : FormalStartIntent}
    (configured : c.requireVerifiers = .ok verifiers) (bounds : 1 ≤ limit ∧ limit ≤ 1000)
    (sound : s.formalStarts.Sound)
    (ok : ∀ n, ∃ views, (c.recover (readings n) limit (c.recoverTimes limit readings n s)).2 =
      .ok views)
    (waiting : row ∈ s.formalStarts.recoverable)
    (clock : ∀ n intentId, row.updatedAt < (readings n intentId).now) :
    ∃ n, (c.recoverTimes limit readings n s).formalStarts.Sound ∧
      row ∈ listed limit (c.recoverTimes limit readings n s) := by
  induction measure : (s.formalStarts.ahead row).card using Nat.strong_induction_on
    generalizing s readings with
  | _ size ih =>
      by_cases here : row ∈ listed limit s
      case pos => exact ⟨0, sound, here⟩
      case neg =>
        obtain ⟨soundAfter, waits, fewer⟩ :=
          recover_unlisted configured bounds sound (ok 0) waiting here (clock 0)
        have okAfter : ∀ n, ∃ views, (c.recover (readings (n + 1)) limit
            (c.recoverTimes limit (fun k => readings (k + 1)) n
              (c.recover (readings 0) limit s).1)).2 = .ok views := fun n => ok (n + 1)
        obtain ⟨n, soundThen, listedThen⟩ := ih _ (measure ▸ fewer) soundAfter okAfter waits
          (fun n => clock (n + 1)) rfl
        exact ⟨n + 1, soundThen, listedThen⟩

/-- Every recoverable row is the deployment's own, and not younger than a clock to come. -/
structure Serves (c : FormalStartCoordinator) (readings : Nat → Uuid → FormalStartReading)
    (s : Store) : Prop where
  sound : s.formalStarts.Sound
  reaches : ∀ row ∈ s.formalStarts.recoverable, ∀ n intentId,
    c.Reaches (readings n intentId) row

/-- A recovery of a deployment that serves every row raises no error and still serves every
row. -/
theorem Serves.recover {readings : Nat → Uuid → FormalStartReading}
    (serves : c.Serves readings s) (configured : c.requireVerifiers = .ok verifiers)
    (bounds : 1 ≤ limit ∧ limit ≤ 1000) :
    (∃ views, (c.recover (readings 0) limit s).2 = .ok views) ∧
      c.Serves (fun k => readings (k + 1)) (c.recover (readings 0) limit s).1 := by
  obtain ⟨succeeds, -⟩ := recover_spec (c := c) (readings 0) limit
    configured bounds serves.sound
  obtain ⟨t, views, done, sound, lookups⟩ := succeeds fun row member =>
    serves.reaches row (List.mem_of_mem_take member) 0 row.intentId
  rw [done]
  refine ⟨⟨views, rfl⟩, sound, fun row member n intentId => ?_⟩
  obtain ⟨inTable, open_⟩ := FormalStartTables.mem_recoverable.mp member
  have found : t.formalStarts.intents.find? row.intentId = some row :=
    Table.find?_of_mem inTable
  rw [lookups] at found
  by_cases inside : row.intentId ∈ (listed limit s).map (·.intentId)
  case pos =>
    rw [if_pos inside, Option.map_eq_some_iff] at found
    obtain ⟨old, before, moved⟩ := found
    obtain ⟨other, here, same⟩ := List.mem_map.mp inside
    have equal : other = old := by
      refine Table.eq_of_key_eq (mem_of_mem_listed here).1 (Table.mem_of_find? before) ?_
      exact same.trans (Table.key_of_find? before).symm
    have reaches : c.Reaches (readings (n + 1) intentId) old :=
      serves.reaches old (equal ▸ List.mem_of_mem_take here) (n + 1) intentId
    have kept : row.serviceIdentity = old.serviceIdentity ∧ row.createdAt = old.createdAt := by
      rw [← moved]
      exact ⟨rfl, rfl⟩
    exact ⟨kept.1.trans reaches.1, kept.2.trans_le reaches.2⟩
  case neg =>
    rw [if_neg inside] at found
    exact serves.reaches row
      (FormalStartTables.mem_recoverable.mpr ⟨Table.mem_of_find? found, open_⟩) (n + 1) intentId

theorem Serves.recoverTimes {readings : Nat → Uuid → FormalStartReading}
    (serves : c.Serves readings s) (configured : c.requireVerifiers = .ok verifiers)
    (bounds : 1 ≤ limit ∧ limit ≤ 1000) (n : Nat) :
    ∃ views, (c.recover (readings n) limit (c.recoverTimes limit readings n s)).2 =
      .ok views := by
  induction n generalizing s readings with
  | zero => exact (serves.recover configured bounds).1
  | succ n ih => exact ih (serves.recover configured bounds).2

/-- Repeated recoveries with clocks past every stored update do their work exactly when every
recoverable row is the deployment's own. -/
theorem recoversAll_iff {readings : Nat → Uuid → FormalStartReading}
    (configured : c.requireVerifiers = .ok verifiers) (bounds : 1 ≤ limit ∧ limit ≤ 1000)
    (sound : s.formalStarts.Sound)
    (clock : ∀ row ∈ s.formalStarts.recoverable, ∀ n intentId,
      row.updatedAt < (readings n intentId).now) :
    c.RecoversAll verifiers readings limit s ↔
      ∀ row ∈ s.formalStarts.recoverable, row.serviceIdentity = c.serviceIdentity := by
  constructor
  · rintro ⟨ok, -⟩ row waiting
    by_contra foreign
    obtain ⟨n, soundThen, here⟩ :=
      listed_eventually configured bounds sound ok waiting (clock row waiting)
    obtain ⟨t, e, raises⟩ := (recover_spec (readings n) limit configured bounds
      soundThen).2 ⟨row, here, fun reaches => foreign reaches.1⟩
    obtain ⟨views, done⟩ := ok n
    rw [raises] at done
    cases done
  · intro own
    have serves : c.Serves readings s :=
      { sound := sound
        reaches := fun row waiting n intentId =>
          ⟨own row waiting, le_of_lt (lt_of_le_of_lt
            (sound.checked row (FormalStartTables.mem_recoverable.mp waiting).1).updated
            (clock row waiting n intentId))⟩ }
    have ok := serves.recoverTimes configured bounds
    refine ⟨ok, fun row waiting here => ?_⟩
    obtain ⟨n, soundThen, listedThen⟩ :=
      listed_eventually configured bounds sound ok waiting (clock row waiting)
    refine ⟨n, (mem_of_mem_listed listedThen).1, ?_⟩
    have reached : c.RecoversListed verifiers (readings n) limit
        (c.recoverTimes limit readings n s) := by
      refine (recoversListed_iff configured bounds soundThen).mpr fun other member => ?_
      by_contra unreached
      obtain ⟨t, e, raises⟩ := (recover_spec (readings n) limit configured bounds
        soundThen).2 ⟨other, member, unreached⟩
      obtain ⟨views, done⟩ := ok n
      rw [raises] at done
      cases done
    exact reached.2 row listedThen here

end FormalStartCoordinator

/-! ## The main result -/

/-- **When recovery is not blocked.** In every state that a run reaches, a recovery of a
deployment reconciles what it lists exactly when everything it lists is the deployment's own and
was not created after the clock of its reconciliation. With clocks past every stored update,
repeated recoveries raise no error and reach every recoverable intent of the deployment exactly
when every recoverable intent is the deployment's. -/
theorem recover_reaches_own {start sys : FormalStartSystem} {trace : List FormalStartCall}
    (empty : start.store.formalStarts = {}) (unread : start.reads = [])
    (run : Steps FormalStartStep start trace sys) {c : FormalStartCoordinator}
    {verifiers : FormalStartVerifiers} (configured : c.requireVerifiers = .ok verifiers)
    {limit : Int} (bounds : 1 ≤ limit ∧ limit ≤ 1000)
    (readings : Nat → Uuid → FormalStartReading) :
    (c.RecoversListed verifiers (readings 0) limit sys.store ↔
      ∀ row ∈ FormalStartCoordinator.listed limit sys.store,
        row.serviceIdentity = c.serviceIdentity ∧
          row.createdAt ≤ (readings 0 row.intentId).now) ∧
    ((∀ row ∈ sys.store.formalStarts.recoverable, ∀ n intentId,
        row.updatedAt < (readings n intentId).now) →
      (c.RecoversAll verifiers readings limit sys.store ↔
        ∀ row ∈ sys.store.formalStarts.recoverable,
          row.serviceIdentity = c.serviceIdentity)) := by
  have initial : start.Sound :=
    { tables := empty ▸ FormalStartTables.Sound.empty
      known := fun intent member => by simp [unread] at member }
  have sound := (FormalStartSystem.justified run initial empty).1.tables
  exact ⟨FormalStartCoordinator.recoversListed_iff configured bounds sound,
    FormalStartCoordinator.recoversAll_iff configured bounds sound⟩

/-- The store in which only the first intent waits is recovered. -/
theorem recover_reaches_own_opened :
    (sampleCoordinator 7).RecoversListed sampleVerifiers (fun _ => sampleReading 7 20) 100
        openedStore ∧
      (sampleCoordinator 7).RecoversAll sampleVerifiers (fun _ _ => sampleReading 7 20) 100
        openedStore := by
  have result := recover_reaches_own rfl rfl (Steps.single step_opened)
    (verifiers_sampleCoordinator 7) (by decide : (1 : Int) ≤ 100 ∧ (100 : Int) ≤ 1000)
    fun _ _ => sampleReading 7 20
  have clock : ∀ row ∈ openedStore.formalStarts.recoverable, row.updatedAt < 20 := by decide
  exact ⟨result.1.mpr (by decide), (result.2 fun row member _ _ => clock row member).mpr
    (by decide)⟩

/-! ## An intent of another deployment -/

/-- The second intent, opened by another deployment before the first. -/
def foreignView : FormalStartIntentView := ⟨sampleIntent 8 "start-2" 6 9, by decide⟩

/-- The store in which the deployment's intent waits behind a foreign one. -/
def foreignStore : Store :=
  (commit (createFormalStartIntent sampleView)
    (commit (createFormalStartIntent foreignView) {}).1).1

/-- The two creations. -/
def foreignTrace : List FormalStartCall :=
  [.create (sampleCoordinator 8) (sampleStartRequest 8 "start-2" 6) (samplePreview 8 6) 9,
    .create (sampleCoordinator 7) (sampleStartRequest 7 "start-1" 5) (samplePreview 7 5) 10]

theorem steps_foreignTrace :
    Steps FormalStartStep ⟨{}, []⟩ foreignTrace ⟨foreignStore, []⟩ := by
  have accepted : (sampleCoordinator 8).acceptCreate (sampleStartRequest 8 "start-2" 6)
      (samplePreview 8 6) 9 = .ok foreignView := rfl
  have accepted' : (sampleCoordinator 7).acceptCreate (sampleStartRequest 7 "start-1" 5)
      (samplePreview 7 5) 10 = .ok sampleView := rfl
  exact (Steps.single (.create accepted)).tail (.create accepted')

/-- A waiting intent of another deployment, opened before the deployment's own, ends every
recovery of the deployment at once: nothing is recorded, and no number of recoveries reaches
the own intent, which every object is there for. -/
theorem foreign_intent_stops_recovery :
    Steps FormalStartStep ⟨{}, []⟩ foreignTrace ⟨foreignStore, []⟩ ∧
      foreignStore.formalStarts.recoverable.map (·.intentId) = [2, 1] ∧
      (sampleCoordinator 7).recover (fun _ => sampleReading 7 20) 100 foreignStore =
        (foreignStore, .error (.operator (.serviceIdentityMismatch
          "Formal StartIntent belongs to another service deployment"))) ∧
      ¬ (sampleCoordinator 7).RecoversListed sampleVerifiers (fun _ => sampleReading 7 20) 100
        foreignStore ∧
      ¬ (sampleCoordinator 7).RecoversAll sampleVerifiers (fun _ _ => sampleReading 7 20) 100
        foreignStore := by
  have stops : (sampleCoordinator 7).recover (fun _ => sampleReading 7 20) 100 foreignStore =
      (foreignStore, .error (.operator (.serviceIdentityMismatch
        "Formal StartIntent belongs to another service deployment"))) := rfl
  refine ⟨steps_foreignTrace, by decide +kernel, stops, ?_, ?_⟩
  · rintro ⟨⟨views, done⟩, -⟩
    rw [stops] at done
    cases done
  · rintro ⟨all, -⟩
    obtain ⟨views, done⟩ := all 0
    rw [FormalStartCoordinator.recoverTimes, stops] at done
    cases done

end HcuAutoOpt
