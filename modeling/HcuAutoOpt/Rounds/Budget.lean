import HcuAutoOpt.Rounds.Lifecycle
import HcuAutoOpt.Foundation.GroupedSums
import Mathlib.Algebra.Order.Ring.Rat

/-!
# The budget ledger of a round

A budget is the usage it allows at most (`RoundBudget.violation_eq_none`). Usage is added up
amount by amount, and seconds are rounded at every step, so a total depends on the order of
the amounts; it never falls below a part of it (`BudgetUsage.le_plus`). The rows about a
round are `Booked` when each reservation has the terminal events its state says: none while
it is outstanding, one when it is closed. Every move keeps this (`RoundMove.booked`), and it
makes the projected usage a total of what the reservations count for
(`RoundRows.Booked.adds_usage`).

The main result is `round_budget_ledger`.
-/

set_option autoImplicit false

namespace HcuAutoOpt

open Foundation

/-! ## Usage -/

namespace BudgetUsage

/-- At most as much in every dimension. -/
instance : LE BudgetUsage := ⟨fun a b =>
  a.candidates ≤ b.candidates ∧ a.buildAttempts ≤ b.buildAttempts ∧
  a.correctnessAttempts ≤ b.correctnessAttempts ∧ a.searchSamples ≤ b.searchSamples ∧
  a.holdoutSamples ≤ b.holdoutSamples ∧ a.wallSeconds ≤ b.wallSeconds ∧
  a.exclusiveLeaseSeconds ≤ b.exclusiveLeaseSeconds⟩

theorem le_def {a b : BudgetUsage} : a ≤ b ↔
    a.candidates ≤ b.candidates ∧ a.buildAttempts ≤ b.buildAttempts ∧
    a.correctnessAttempts ≤ b.correctnessAttempts ∧ a.searchSamples ≤ b.searchSamples ∧
    a.holdoutSamples ≤ b.holdoutSamples ∧ a.wallSeconds ≤ b.wallSeconds ∧
    a.exclusiveLeaseSeconds ≤ b.exclusiveLeaseSeconds := Iff.rfl

theorem le_trans {a b c : BudgetUsage} (first : a ≤ b) (second : b ≤ c) : a ≤ c :=
  ⟨first.1.trans second.1, first.2.1.trans second.2.1, first.2.2.1.trans second.2.2.1,
    first.2.2.2.1.trans second.2.2.2.1, first.2.2.2.2.1.trans second.2.2.2.2.1,
    first.2.2.2.2.2.1.trans second.2.2.2.2.2.1, first.2.2.2.2.2.2.trans second.2.2.2.2.2.2⟩

theorem plus_mono {a b : BudgetUsage} (le : a ≤ b) (c : BudgetUsage) : a.plus c ≤ b.plus c :=
  ⟨Nat.add_le_add_right le.1 _, Nat.add_le_add_right le.2.1 _, Nat.add_le_add_right le.2.2.1 _,
    Nat.add_le_add_right le.2.2.2.1 _, Nat.add_le_add_right le.2.2.2.2.1 _,
    Binary64.add_mono le.2.2.2.2.2.1 le_rfl, Binary64.add_mono le.2.2.2.2.2.2 le_rfl⟩

theorem zero_le (a : BudgetUsage) : {} ≤ a :=
  ⟨Nat.zero_le _, Nat.zero_le _, Nat.zero_le _, Nat.zero_le _, Nat.zero_le _, a.wallSeconds.2,
    a.exclusiveLeaseSeconds.2⟩

/-- Both durations are doubles. -/
def IsDouble (usage : BudgetUsage) : Prop :=
  Binary64.add usage.wallSeconds 0 = usage.wallSeconds ∧
    Binary64.add usage.exclusiveLeaseSeconds 0 = usage.exclusiveLeaseSeconds

theorem isDouble_plus (a b : BudgetUsage) : (a.plus b).IsDouble :=
  ⟨Binary64.add_add_zero _ _, Binary64.add_add_zero _ _⟩

/-- **A total is not below what it started from.** -/
theorem le_plus {a : BudgetUsage} (double : a.IsDouble) (b : BudgetUsage) : a ≤ a.plus b :=
  ⟨Nat.le_add_right .., Nat.le_add_right .., Nat.le_add_right .., Nat.le_add_right ..,
    Nat.le_add_right .., Binary64.le_add double.1 _, Binary64.le_add double.2 _⟩

/-- The amounts added to a usage, one after the other. -/
def total (start : BudgetUsage) (amounts : List BudgetUsage) : BudgetUsage :=
  amounts.foldl plus start

theorem total_append (start : BudgetUsage) (amounts more : List BudgetUsage) :
    total start (amounts ++ more) = total (total start amounts) more := List.foldl_append ..

theorem total_mono {start start' : BudgetUsage} (le : start ≤ start')
    (amounts : List BudgetUsage) : total start amounts ≤ total start' amounts := by
  induction amounts generalizing start start' with
  | nil => exact le
  | cons amount amounts ih => exact ih (plus_mono le amount)

theorem isDouble_total {start : BudgetUsage} (double : start.IsDouble)
    (amounts : List BudgetUsage) : (total start amounts).IsDouble := by
  induction amounts generalizing start with
  | nil => exact double
  | cons amount amounts ih => exact ih (isDouble_plus start amount)

/-- Members alone take no time. -/
theorem isDouble_candidates (count : Nat) : IsDouble { candidates := count } :=
  ⟨Binary64.add_zero_zero, Binary64.add_zero_zero⟩

/-- Nothing adds nothing to members. -/
theorem total_candidates_zeros (count zeros : Nat) :
    total { candidates := count } (List.replicate zeros {}) = { candidates := count } := by
  induction zeros with
  | zero => rfl
  | succ zeros ih =>
      have same : plus { candidates := count } {} = { candidates := count } := by
        simp [plus, Binary64.add_zero_zero]
      rw [List.replicate_succ, total, List.foldl_cons, same]
      exact ih

end BudgetUsage

/-- The usage that a budget allows at most. -/
def RoundBudget.limit (budget : RoundBudget) : BudgetUsage where
  candidates := budget.maxCandidates
  buildAttempts := budget.maxBuildAttempts
  correctnessAttempts := budget.maxCorrectnessAttempts
  searchSamples := budget.maxSearchSamples
  holdoutSamples := budget.maxHoldoutSamples
  wallSeconds := budget.maxWallSeconds
  exclusiveLeaseSeconds := budget.maxExclusiveLeaseSeconds

/-- A budget is not violated by what it allows. -/
theorem RoundBudget.violation_eq_none {budget : RoundBudget} {usage : BudgetUsage} :
    budget.violation usage = none ↔ usage ≤ budget.limit := by
  have seconds : ∀ (limit : Nat) (used : NNRat), ¬(limit : Rat) < used ↔ used ≤ limit := by
    intro limit used
    rw [not_lt, ← NNRat.coe_natCast, NNRat.coe_le_coe]
  simp only [RoundBudget.violation, Option.map_eq_none_iff, List.find?_eq_none, List.mem_cons,
    List.not_mem_nil, or_false, forall_eq_or_imp, forall_eq, decide_eq_true_eq, seconds,
    Nat.cast_lt, not_lt, BudgetUsage.le_def, RoundBudget.limit]

/-! ## The rows of a ledger -/

namespace RoundRows

/-- The usage of the members by their number. -/
def counted (rows : RoundRows) : BudgetUsage := { candidates := rows.members.length }

/-- What the outstanding reservations plan. -/
def outstanding (rows : RoundRows) : List BudgetUsage :=
  (rows.reservations.filter fun row => decide (row.state = .reserved)).map fun row => row.planned

/-- What the settled reservations used, in the order of the ledger. -/
def actuals (rows : RoundRows) : List BudgetUsage :=
  (rows.ledger.filter fun row => decide (row.entryType = .settle)).map fun row => row.actual

/-- The usage that is settled. -/
def settled (rows : RoundRows) : BudgetUsage := BudgetUsage.total {} rows.actuals

/-- The terminal events of a reservation. -/
def terminals (rows : RoundRows) (reservationId : Uuid) : List RoundBudgetLedgerEntry :=
  (group RoundBudgetLedgerEntry.reservationId rows.ledger reservationId).filter fun row =>
    decide (row.entryType ∈ [RoundBudgetEntryType.settle, .release])

/-- What a reservation counts for: its plan while it is outstanding, the usage it was
settled with, or nothing once it is released. -/
def charge (rows : RoundRows) (reservation : RoundBudgetReservation) : BudgetUsage :=
  match reservation.state with
  | .reserved => reservation.planned
  | .released => {}
  | .settled =>
      ((rows.terminals reservation.reservationId).head?.map fun row => row.actual).getD {}

/-- The usage is that of the members with what every reservation counts for added, each once. -/
def Adds (rows : RoundRows) (usage : BudgetUsage) : Prop :=
  ∃ amounts : List BudgetUsage, amounts.Perm (rows.reservations.map rows.charge) ∧
    usage = BudgetUsage.total rows.counted amounts

theorem usage_eq (rows : RoundRows) :
    rows.usage = BudgetUsage.total rows.counted (rows.outstanding ++ rows.actuals) := by
  rw [BudgetUsage.total_append]
  simp only [usage, BudgetUsage.total, outstanding, actuals, List.foldl_map]
  rfl

end RoundRows

/-- A reservation with the terminal events that its state says it has. -/
inductive RoundBudgetReservation.Booked (reservation : RoundBudgetReservation) :
    List RoundBudgetLedgerEntry → Prop
  | outstanding (state : reservation.state = .reserved) : Booked reservation []
  | closed (entry : RoundBudgetLedgerEntry) (state : reservation.state = entry.closes)
      (terminal : entry.entryType ∈ [RoundBudgetEntryType.settle, .release]) :
      Booked reservation [entry]

/-- **Every reservation of the rows is booked**, under its own identifier, and every entry
belongs to a reservation. -/
structure RoundRows.Booked (rows : RoundRows) : Prop where
  distinct : (rows.reservations.map fun row => row.reservationId).Nodup
  known : ∀ entry ∈ rows.ledger,
    entry.reservationId ∈ rows.reservations.map fun row => row.reservationId
  booked : ∀ reservation ∈ rows.reservations,
    reservation.Booked (rows.terminals reservation.reservationId)

/-! ## Moves keep the books -/

theorem RoundRows.terminals_append (rows : RoundRows) (entry : RoundBudgetLedgerEntry)
    (reservationId : Uuid) :
    RoundRows.terminals { rows with ledger := rows.ledger ++ [entry] } reservationId =
      rows.terminals reservationId ++
        if entry.reservationId = reservationId ∧
          entry.entryType ∈ [RoundBudgetEntryType.settle, .release] then [entry] else [] := by
  simp only [terminals, group_append, List.filter_append]
  congr 1
  by_cases own : entry.reservationId = reservationId
  · cases type : entry.entryType <;> simp [group, own, type]
  · simp [group, own]

namespace RoundRows.Booked

variable {rows : RoundRows} (booked : rows.Booked)
include booked

/-- A reservation that is not there has no events. -/
theorem terminals_eq_nil {reservationId : Uuid}
    (fresh : ∀ row ∈ rows.reservations, row.reservationId ≠ reservationId) :
    rows.terminals reservationId = [] := by
  refine List.filter_eq_nil_iff.mpr fun entry present => ?_
  obtain ⟨inLedger, own⟩ := mem_group.mp present
  obtain ⟨row, there, same⟩ := List.mem_map.mp (booked.known entry inLedger)
  exact absurd (same.trans own) (fresh row there)

theorem reserve {request : RoundBudgetReservation} {entry : RoundBudgetLedgerEntry}
    (fresh : ∀ row ∈ rows.reservations, row.reservationId ≠ request.reservationId)
    (reserved : request.state = .reserved)
    (books : entry.entryType = .reserve ∧ entry.reservationId = request.reservationId) :
    RoundRows.Booked
      { rows with reservations := rows.reservations ++ [request]
                  ledger := rows.ledger ++ [entry] } := by
  have same : ∀ reservationId, RoundRows.terminals
      { rows with reservations := rows.reservations ++ [request]
                  ledger := rows.ledger ++ [entry] } reservationId =
      rows.terminals reservationId := by
    intro reservationId
    refine (rows.terminals_append entry reservationId).trans ?_
    rw [books.1, if_neg fun closed => absurd closed.2 (by decide), List.append_nil]
  constructor
  · rw [List.map_append, List.nodup_append]
    refine ⟨booked.distinct, List.nodup_singleton _, fun a old b new both => ?_⟩
    obtain ⟨row, there, rfl⟩ := List.mem_map.mp old
    simp only [List.map_cons, List.map_nil, List.mem_singleton] at new
    exact fresh row there (both.trans new)
  · intro other present
    rw [List.map_append, List.mem_append]
    rcases List.mem_append.mp present with old | new
    · exact .inl (booked.known other old)
    · rw [List.mem_singleton.mp new, books.2]
      exact .inr (List.mem_singleton.mpr rfl)
  · intro reservation present
    rw [same]
    rcases List.mem_append.mp present with old | new
    · exact booked.booked reservation old
    · rw [List.mem_singleton.mp new, booked.terminals_eq_nil fresh]
      exact .outstanding reserved

theorem close {reservation : RoundBudgetReservation} {entry : RoundBudgetLedgerEntry}
    (present : reservation ∈ rows.reservations)
    (terminal : entry.entryType ∈ [RoundBudgetEntryType.settle, .release])
    (owner : entry.reservationId = reservation.reservationId)
    (first : ∀ row ∈ rows.ledger, row.reservationId = reservation.reservationId →
      row.entryType ∉ [RoundBudgetEntryType.settle, .release]) :
    RoundRows.Booked
      { rows with
        reservations := rows.reservations.map fun row =>
          if row.reservationId = reservation.reservationId then row.close entry.closes else row
        ledger := rows.ledger ++ [entry] } := by
  have identifiers : (rows.reservations.map fun row =>
      if row.reservationId = reservation.reservationId then row.close entry.closes
      else row).map (fun row => row.reservationId) =
      rows.reservations.map fun row => row.reservationId := by
    rw [List.map_map]
    refine List.map_congr_left fun row _ => ?_
    by_cases own : row.reservationId = reservation.reservationId <;>
      simp [own, RoundBudgetReservation.close]
  constructor
  · rw [identifiers]
    exact booked.distinct
  · intro other there
    rw [identifiers]
    rcases List.mem_append.mp there with old | new
    · exact booked.known other old
    · rw [List.mem_singleton.mp new, owner]
      exact List.mem_map.mpr ⟨reservation, present, rfl⟩
  · intro closed there
    obtain ⟨row, was, rfl⟩ := List.mem_map.mp there
    by_cases own : row.reservationId = reservation.reservationId
    · have events := rows.terminals_append entry row.reservationId
      have none : rows.terminals row.reservationId = [] := by
        refine List.filter_eq_nil_iff.mpr fun other inGroup => ?_
        obtain ⟨inLedger, ofRow⟩ := mem_group.mp inGroup
        simpa using first other inLedger (ofRow.trans own)
      rw [none, if_pos ⟨owner.trans own.symm, terminal⟩] at events
      rw [if_pos own]
      have booking : (row.close entry.closes).Booked [entry] := .closed entry rfl terminal
      rw [show [entry] = _ from events.symm] at booking
      exact booking
    · have events := rows.terminals_append entry row.reservationId
      rw [if_neg fun here => own (here.1.symm.trans owner), List.append_nil] at events
      have booking := booked.booked row was
      rw [← events] at booking
      rw [if_neg own]
      exact booking

/-- What a settled reservation counts for is what the ledger says it used. -/
theorem settlements {row : RoundBudgetReservation} (present : row ∈ rows.reservations) :
    (group RoundBudgetLedgerEntry.reservationId
        (rows.ledger.filter fun entry => decide (entry.entryType = .settle))
        row.reservationId).map (fun entry => entry.actual) =
      if row.state = .settled then [rows.charge row] else [] := by
  have events : group RoundBudgetLedgerEntry.reservationId
        (rows.ledger.filter fun row => decide (row.entryType = .settle)) row.reservationId =
      (rows.terminals row.reservationId).filter fun entry =>
        decide (entry.entryType = .settle) := by
    simp only [group, RoundRows.terminals, List.filter_filter]
    refine List.filter_congr fun entry _ => ?_
    by_cases settle : entry.entryType = .settle <;> simp [settle]
  have booked := booked.booked row present
  rw [events]
  unfold RoundRows.charge
  cases booking : rows.terminals row.reservationId with
  | nil =>
      rw [booking] at booked
      cases booked with
      | outstanding state => simp [state]
  | cons first rest =>
      rw [booking] at booked
      cases booked with
      | closed entry state terminal =>
          rcases List.mem_pair.mp terminal with settle | release
          · simp [state, RoundBudgetLedgerEntry.closes, settle]
          · simp [state, RoundBudgetLedgerEntry.closes, release]

/-- What the ledger says was used is what the settled reservations count for. -/
theorem actuals_perm : rows.actuals.Perm
    ((rows.reservations.filter fun row => decide (row.state = .settled)).map rows.charge) := by
  have covered : ∀ entry ∈ rows.ledger.filter fun row => decide (row.entryType = .settle),
      entry.reservationId ∈ rows.reservations.map fun row => row.reservationId :=
    fun entry present => booked.known entry (List.mem_of_mem_filter present)
  have perm := (perm_flatMap_group RoundBudgetLedgerEntry.reservationId booked.distinct
    covered).map fun entry => entry.actual
  refine perm.trans (List.Perm.of_eq ?_)
  rw [List.map_flatMap, List.flatMap_map, ← flatMap_ite_singleton]
  exact List.flatMap_congr fun row present => booked.settlements present

/-- **What the reservations count for**: nothing, their plans and their actual usage. -/
theorem charges_perm :
    (List.replicate (rows.reservations.filter fun row => decide (row.state = .released)).length
        ({} : BudgetUsage) ++ (rows.outstanding ++ rows.actuals)).Perm
      (rows.reservations.map rows.charge) := by
  have split : ∀ row ∈ rows.reservations,
      ((if row.state = .released then [({} : BudgetUsage)] else []) ++
        ((if row.state = .reserved then [row.planned] else []) ++
          if row.state = .settled then [rows.charge row] else [])) = [rows.charge row] := by
    intro row _
    unfold RoundRows.charge
    cases row.state <;> rfl
  have parts := (List.flatMap_append_perm rows.reservations _ _).trans
    (List.Perm.of_eq (List.flatMap_congr split))
  rw [← List.map_eq_flatMap] at parts
  refine List.Perm.trans (List.Perm.append (List.Perm.of_eq ?_) ?_) parts
  · rw [flatMap_ite_singleton, List.map_const']
  · refine List.Perm.trans (List.Perm.append (List.Perm.of_eq ?_) ?_)
      (List.flatMap_append_perm rows.reservations _ _)
    · rw [flatMap_ite_singleton]
      rfl
    · rw [flatMap_ite_singleton]
      exact booked.actuals_perm

/-- **The projected usage** counts the members and what every reservation counts for. -/
theorem adds_usage : rows.Adds rows.usage := by
  refine ⟨_, booked.charges_perm, ?_⟩
  rw [BudgetUsage.total_append, RoundRows.counted, BudgetUsage.total_candidates_zeros,
    RoundRows.usage_eq]
  rfl

end RoundRows.Booked

/-- **A move keeps the books of a round.** -/
theorem RoundMove.booked {env : RoundEnv} {p p' : RoundPicture} {action : Option RoundAction}
    (move : RoundMove env p action p') (booked : p.rows.Booked) : p'.rows.Booked := by
  cases move with
  | reserve request entry _ fresh reserved books => exact booked.reserve fresh reserved books
  | settle reservation entry present _ terminal owner first =>
      exact booked.close present terminal owner first
  | join | closeIntake | build | freeze | closeSearch | reveal | closeHoldout | compare
  | complete | cancel => exact ⟨booked.distinct, booked.known, booked.booked⟩

/-- Every round of the store is booked. -/
def Store.Booked (s : Store) : Prop := ∀ roundId, (s.rowsOf roundId).Booked

theorem Store.NoRounds.booked {s : Store} (start : s.NoRounds) : s.Booked := by
  intro roundId
  rw [start.rows]
  exact ⟨List.nodup_nil, (fun _ absent => by cases absent), (fun _ absent => by cases absent)⟩

theorem RoundStep.booked {env : RoundEnv} {s s' : Store} {label : Option RoundCall}
    (step : RoundStep env s label s') (consistent : s.RoundsConsistent) (booked : s.Booked) :
    s'.Booked := by
  intro roundId
  cases step with
  | elsewhere untouched =>
      rw [untouched.rows]
      exact booked roundId
  | call call =>
      rcases commit_cases (call.run env) s with ⟨e, _, committed⟩ | ⟨t, reply, ok, committed⟩
      · rw [committed]
        exact booked roundId
      · rw [committed]
        rcases call.effect consistent.owned ok with same | ⟨p, p', moves⟩ |
          ⟨request, task, _, created⟩
        · rw [same]
          exact booked roundId
        · by_cases own : roundId = call.roundId
          · have before := (Store.picture_eq_some.mp moves.before).2.2
            have after := (Store.picture_eq_some.mp moves.after).2.2
            rw [own, after]
            refine moves.move.booked ?_
            rw [← before]
            exact booked call.roundId
          · rw [(moves.otherRounds roundId own).2]
            exact booked roundId
        · rw [created.rows]
          exact booked roundId

theorem booked_of_steps {env : RoundEnv} {s s' : Store} {trace : List (Option RoundCall)}
    (steps : Steps (RoundStep env) s trace s') (consistent : s.RoundsConsistent)
    (booked : s.Booked) : s'.Booked :=
  (steps.invariant (I := fun s => s.RoundsConsistent ∧ s.Booked)
    (fun _ _ _ here step => ⟨step.roundsConsistent here.1, step.booked here.1 here.2⟩)
    ⟨consistent, booked⟩).2

/-! ## What is accepted -/

/-- An event of a reservation is terminal at most once, in the whole ledger. -/
theorem Store.Booked.once {s : Store} (booked : s.Booked) (reservationId : Uuid) :
    (s.budgetLedger.rows.filter fun entry => decide (entry.reservationId = reservationId ∧
      entry.entryType ∈ [RoundBudgetEntryType.settle, .release])).length ≤ 1 := by
  have owner : ∀ entry ∈ s.budgetLedger, ∃ row ∈ s.budgetReservations,
      row.reservationId = entry.reservationId ∧ row.roundId = entry.roundId := by
    intro entry present
    have inLedger : entry ∈ (s.rowsOf entry.roundId).ledger := by
      simp only [Store.rowsOf, Store.ledgerOf, List.mem_filter, decide_true, and_true]
      exact present
    obtain ⟨row, there, same⟩ := List.mem_map.mp ((booked entry.roundId).known entry inLedger)
    simp only [Store.rowsOf, Store.reservationsOf, List.mem_filter, decide_eq_true_eq] at there
    exact ⟨row, there.1, same, there.2⟩
  by_cases reserved : ∃ row ∈ s.budgetReservations, row.reservationId = reservationId
  · obtain ⟨row, there, own⟩ := reserved
    have events : (s.budgetLedger.rows.filter fun entry =>
        decide (entry.reservationId = reservationId ∧
          entry.entryType ∈ [RoundBudgetEntryType.settle, .release])) =
        (s.rowsOf row.roundId).terminals reservationId := by
      simp only [RoundRows.terminals, group, Store.rowsOf, Store.ledgerOf, List.filter_filter]
      refine List.filter_congr fun entry present => ?_
      by_cases same : entry.reservationId = reservationId
      · obtain ⟨other, there', own', round⟩ := owner entry present
        have one : other = row := Table.eq_of_key_eq there' there (own'.trans (same.trans own.symm))
        rw [one] at round
        simp [same, round]
      · simp [same]
    have inRound : row ∈ (s.rowsOf row.roundId).reservations := by
      simp only [Store.rowsOf, Store.reservationsOf, List.mem_filter, decide_true, and_true]
      exact there
    have booking := (booked row.roundId).booked row inRound
    rw [events, ← own]
    cases closing : (s.rowsOf row.roundId).terminals row.reservationId with
    | nil => exact Nat.zero_le 1
    | cons first rest =>
        rw [closing] at booking
        cases booking
        exact le_rfl
  · rw [List.filter_eq_nil_iff.mpr]
    · exact Nat.zero_le 1
    · intro entry present chosen
      obtain ⟨row, there, own, _⟩ := owner entry present
      exact reserved ⟨row, there, own.trans (of_decide_eq_true chosen).1⟩

/-- An accepted reservation that is new leaves the round within its budget. -/
theorem reserveRoundBudget_within {s s' : Store} {request : RoundBudgetReservation}
    {entry : RoundBudgetLedgerEntry} {reply : RoundBudgetReservation × RoundBudgetLedgerEntry}
    (ok : reserveRoundBudget request entry s = .ok (s', reply)) (new : s' ≠ s) :
    ∃ round, s.searchRounds.find? request.roundId = some round ∧
      (s.roundUsage request.roundId).plus request.planned ≤ round.budget.limit ∧
      s'.rowsOf request.roundId =
        { s.rowsOf request.roundId with
          reservations := s.reservationsOf request.roundId ++ [request]
          ledger := s.ledgerOf request.roundId ++ [entry.reserving] } ∧
      (∀ row ∈ s.reservationsOf request.roundId, row.reservationId ≠ request.reservationId) ∧
      request.state = .reserved ∧ entry.reserving.entryType = .reserve ∧
      entry.reserving.reservationId = request.reservationId := by
  simp only [reserveRoundBudget, Except.bind_eq_ok, require_eq_ok,
    Store.requireRound_eq_ok] at ok
  obtain ⟨_, reserved, _, _, _, ⟨reserves, owner, sameRound, _⟩, round, found, ok⟩ := ok
  split at ok
  · simp only [Except.bind_eq_ok] at ok
    obtain ⟨_, _, _, _, _, _, ok⟩ := ok
    cases ok
    exact absurd rfl new
  · rename_i absent
    simp only [persistReservation, Except.bind_eq_ok, require_eq_ok, requireBudget_eq_ok] at ok
    obtain ⟨_, _, _, _, _, _, _, within, _, unclashed, ok⟩ := ok
    cases ok
    refine ⟨round, found, RoundBudget.violation_eq_none.mp within, ?_, fun row there same => ?_,
      reserved, reserves, owner⟩
    swap
    · have clash := List.find?_eq_none.mp absent row (List.mem_of_mem_filter there)
      simp [RoundBudgetReservation.clashes, same] at clash
    have rows := rowsOf_of_reserve absent unclashed request.roundId
    have inRound : entry.reserving.roundId = request.roundId := sameRound
    rw [if_pos rfl, if_pos inRound] at rows
    exact rows

/-! ## Replays -/

section Replays

variable {s : Store}

theorem addRoundCandidate_replayed {request : RoundCandidate}
    (taken : ∃ row ∈ s.roundCandidates, row.idempotencyKey = request.idempotencyKey) :
    (commit (addRoundCandidate request) s).1 = s := by
  obtain ⟨row, present, sameKey⟩ := taken
  rcases commit_cases (addRoundCandidate request) s with ⟨e, _, same⟩ | ⟨t, reply, ok, same⟩
  · rw [same]
  · rw [same]
    simp only [addRoundCandidate, Except.bind_eq_ok, require_eq_ok, Store.requireRound_eq_ok] at ok
    obtain ⟨_, _, round, _, ok⟩ := ok
    split at ok
    · simp only [Except.bind_eq_ok] at ok
      obtain ⟨_, _, ok⟩ := ok
      cases ok
      rfl
    · rename_i absent
      have clash := List.find?_eq_none.mp absent row present
      simp [RoundCandidate.clashes, sameKey] at clash

theorem reserveRoundBudget_replayed {request : RoundBudgetReservation}
    {entry : RoundBudgetLedgerEntry}
    (taken : ∃ row ∈ s.budgetReservations, row.idempotencyKey = request.idempotencyKey) :
    (commit (reserveRoundBudget request entry) s).1 = s := by
  obtain ⟨row, present, sameKey⟩ := taken
  rcases commit_cases (reserveRoundBudget request entry) s with
    ⟨e, _, same⟩ | ⟨t, reply, ok, same⟩
  · rw [same]
  · rw [same]
    simp only [reserveRoundBudget, Except.bind_eq_ok] at ok
    obtain ⟨_, _, _, _, _, _, round, _, ok⟩ := ok
    split at ok
    · simp only [Except.bind_eq_ok] at ok
      obtain ⟨_, _, _, _, _, _, ok⟩ := ok
      cases ok
      rfl
    · rename_i absent
      have clash := List.find?_eq_none.mp absent row present
      simp [RoundBudgetReservation.clashes, sameKey] at clash

theorem finalizeRoundBudget_replayed {entry : RoundBudgetLedgerEntry}
    (taken : ∃ row ∈ s.budgetLedger, row.roundId = entry.roundId ∧
      row.idempotencyKey = entry.idempotencyKey) :
    (commit (finalizeRoundBudget entry) s).1 = s := by
  obtain ⟨row, present, sameRound, sameKey⟩ := taken
  rcases commit_cases (finalizeRoundBudget entry) s with ⟨e, _, same⟩ | ⟨t, reply, ok, same⟩
  · rw [same]
  · rw [same]
    simp only [finalizeRoundBudget, Except.bind_eq_ok, require_eq_ok] at ok
    obtain ⟨_, _, round, _, reservation, _, _, _, ok⟩ := ok
    split at ok
    · simp only [Except.bind_eq_ok] at ok
      obtain ⟨_, _, ok⟩ := ok
      cases ok
      rfl
    · simp only [Except.bind_eq_ok, require_eq_ok] at ok
      obtain ⟨_, _, _, _, _, unclashed, _⟩ := ok
      have clash := List.any_eq_false.mp unclashed row present
      simp [RoundBudgetLedgerEntry.clashes, sameRound, sameKey] at clash

end Replays

/-! ## The ledger -/

/-- What the ledger of a round guarantees. An accepted new reservation leaves what was
settled and what is outstanding within the budget; the projected usage counts the members
and every reservation by its state; and after an overrun nothing is reserved. -/
structure Store.BudgetKept (s : Store) (round : SearchRound) : Prop where
  within : ∀ request entry s' reply, request.roundId = round.roundId →
    reserveRoundBudget request entry s = .ok (s', reply) → s' ≠ s →
    request ∈ s'.reservationsOf round.roundId ∧ request.state = .reserved ∧
      ∃ usage, (s'.rowsOf round.roundId).Adds usage ∧ usage ≤ round.budget.limit
  projected : (s.rowsOf round.roundId).Adds (s.roundUsage round.roundId)
  overrun : ¬(s.rowsOf round.roundId).settled ≤ round.budget.limit →
    ∀ request entry, request.roundId = round.roundId →
      (commit (reserveRoundBudget request entry) s).1 = s

/-- A new reservation stands for its plan in the total that is checked. -/
theorem RoundRows.Booked.adds_reserved {rows : RoundRows} {request : RoundBudgetReservation}
    {entry : RoundBudgetLedgerEntry} (reserved : request.state = .reserved)
    (reserves : entry.entryType = .reserve)
    (booked : RoundRows.Booked { rows with reservations := rows.reservations ++ [request]
                                           ledger := rows.ledger ++ [entry] }) :
    RoundRows.Adds { rows with reservations := rows.reservations ++ [request]
                               ledger := rows.ledger ++ [entry] }
      (rows.usage.plus request.planned) := by
  have outstanding : RoundRows.outstanding
      { rows with reservations := rows.reservations ++ [request]
                  ledger := rows.ledger ++ [entry] } = rows.outstanding ++ [request.planned] := by
    simp [RoundRows.outstanding, reserved]
  have actuals : RoundRows.actuals
      { rows with reservations := rows.reservations ++ [request]
                  ledger := rows.ledger ++ [entry] } = rows.actuals := by
    simp [RoundRows.actuals, reserves]
  have perm := booked.charges_perm
  rw [outstanding, actuals, List.append_assoc] at perm
  -- The function adds the new plan behind what was settled.
  refine ⟨_, (List.Perm.append_left _ (List.Perm.append_left _ List.perm_append_comm)).trans perm,
    ?_⟩
  rw [BudgetUsage.total_append, RoundRows.counted, BudgetUsage.total_candidates_zeros,
    ← List.append_assoc, BudgetUsage.total_append, RoundRows.usage_eq]
  rfl

/-- What was settled is within a budget that has room for another reservation. -/
theorem RoundRows.settled_le {rows : RoundRows} (planned : BudgetUsage) :
    rows.settled ≤ rows.usage.plus planned := by
  have double : rows.usage.IsDouble := by
    rw [RoundRows.usage_eq]
    exact BudgetUsage.isDouble_total (BudgetUsage.isDouble_candidates _) _
  refine BudgetUsage.le_trans ?_ (BudgetUsage.le_plus double planned)
  rw [RoundRows.usage_eq, BudgetUsage.total_append]
  exact BudgetUsage.total_mono (BudgetUsage.zero_le _) _

theorem Store.Booked.budgetKept {s : Store} (booked : s.Booked) {round : SearchRound}
    (present : round ∈ s.searchRounds) : s.BudgetKept round := by
  have found := Table.find?_of_mem present
  rw [key_searchRound] at found
  refine ⟨fun request entry s' reply own ok new => ?_, (booked round.roundId).adds_usage,
    fun exceeded request entry own => ?_⟩
  · obtain ⟨other, found', within, rows, fresh, reserved, books⟩ := reserveRoundBudget_within ok new
    rw [own] at found' within rows fresh
    cases found.symm.trans found'
    refine ⟨?_, reserved, _, ?_, within⟩
    · have here : request ∈ (s'.rowsOf round.roundId).reservations := by
        rw [rows]
        exact List.mem_append_right _ (List.mem_singleton.mpr rfl)
      exact here
    · rw [rows]
      exact ((booked round.roundId).reserve fresh reserved books).adds_reserved reserved books.1
  · rcases commit_cases (reserveRoundBudget request entry) s with
      ⟨e, _, same⟩ | ⟨t, reply, ok, same⟩
    · rw [same]
    · rw [same]
      by_contra new
      obtain ⟨other, found', within, _⟩ := reserveRoundBudget_within ok new
      rw [own] at found' within
      cases found.symm.trans found'
      exact exceeded (BudgetUsage.le_trans (RoundRows.settled_le _) within)

/-- **The budget ledger of a round.** In every store of a run each round keeps its budget,
a reservation has at most one terminal event, and a call under a key that is taken
changes nothing. -/
theorem round_budget_ledger {env : RoundEnv} {s₀ s : Store} {trace : List (Option RoundCall)}
    (start : s₀.NoRounds) (reached : Steps (RoundStep env) s₀ trace s) :
    (∀ round ∈ s.searchRounds, s.BudgetKept round) ∧
    (∀ reservationId, (s.budgetLedger.rows.filter fun entry =>
      decide (entry.reservationId = reservationId ∧
        entry.entryType ∈ [RoundBudgetEntryType.settle, .release])).length ≤ 1) ∧
    (∀ request : RoundCandidate,
      (∃ row ∈ s.roundCandidates, row.idempotencyKey = request.idempotencyKey) →
        (commit (addRoundCandidate request) s).1 = s) ∧
    (∀ (request : RoundBudgetReservation) entry,
      (∃ row ∈ s.budgetReservations, row.idempotencyKey = request.idempotencyKey) →
        (commit (reserveRoundBudget request entry) s).1 = s) ∧
    ∀ entry : RoundBudgetLedgerEntry,
      (∃ row ∈ s.budgetLedger, row.roundId = entry.roundId ∧
        row.idempotencyKey = entry.idempotencyKey) →
        (commit (finalizeRoundBudget entry) s).1 = s := by
  have booked := booked_of_steps reached start.roundsConsistent start.booked
  exact ⟨fun round present => booked.budgetKept present, booked.once,
    fun _ => addRoundCandidate_replayed, fun _ _ => reserveRoundBudget_replayed,
    fun _ => finalizeRoundBudget_replayed⟩

/-! ## A settled reservation -/

/-- A reservation of one build attempt. -/
def sampleReservation : RoundBudgetReservation where
  reservationId := 50
  roundId := 11
  jobId := 7
  attempt := 1
  planned := { buildAttempts := 1 }
  idempotencyKey := "reservation"
  state := .reserved

/-- The reserve event of the reservation. -/
def sampleReserve : RoundBudgetLedgerEntry where
  ledgerEntryId := 51
  reservationId := 50
  roundId := 11
  entryType := .reserve
  reserved := { buildAttempts := 1 }
  rawUsageEvidenceHash := "raw"
  idempotencyKey := "reserve"
  createdAt := 0

theorem valid_sampleReserve : sampleReserve.Valid := by decide +kernel

/-- It is settled with more attempts than the budget has. -/
def sampleSettle : RoundBudgetLedgerEntry where
  ledgerEntryId := 52
  reservationId := 50
  roundId := 11
  entryType := .settle
  reserved := { buildAttempts := 1 }
  actual := { buildAttempts := 5 }
  rawUsageEvidenceHash := "raw"
  idempotencyKey := "settle"
  createdAt := 0

/-- A reservation that overruns the budget when it is settled. -/
def sampleOverrun : List RoundCall :=
  sampleIntake ++ [.reserveRoundBudget sampleReservation sampleReserve valid_sampleReserve,
    .finalizeRoundBudget sampleSettle (by decide +kernel)]

theorem round_budget_ledger_overrun :
    ((runRoundCalls plainEnv authorityStore sampleOverrun).rowsOf 11).settled.buildAttempts = 5 ∧
      ∀ round ∈ (runRoundCalls plainEnv authorityStore sampleOverrun).searchRounds,
        (runRoundCalls plainEnv authorityStore sampleOverrun).BudgetKept round :=
  ⟨by decide +kernel,
    (round_budget_ledger noRounds_authorityStore (steps_runRoundCalls plainEnv _ _)).1⟩

/-- The members alone are projected usage, without any reservation. -/
theorem projected_usage_counts_members :
    authorityStore.NoRounds ∧
      Steps (RoundStep plainEnv) authorityStore (sampleIntake.map some)
        (runRoundCalls plainEnv authorityStore sampleIntake) ∧
      (runRoundCalls plainEnv authorityStore sampleIntake).reservationsOf 11 = [] ∧
      (runRoundCalls plainEnv authorityStore sampleIntake).roundUsage 11 ≠
        BudgetUsage.total {}
          (((runRoundCalls plainEnv authorityStore sampleIntake).reservationsOf 11).map
            ((runRoundCalls plainEnv authorityStore sampleIntake).rowsOf 11).charge) :=
  ⟨noRounds_authorityStore, steps_runRoundCalls _ _ _, by decide +kernel, by decide +kernel⟩

end HcuAutoOpt
