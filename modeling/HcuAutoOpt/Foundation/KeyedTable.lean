import Mathlib.Data.List.Nodup
import Mathlib.Data.List.Sort

/-!
# Keyed tables

A table is a finite list of rows with pairwise distinct primary keys. The
distinctness is a field of the table, so a table with two rows of one key cannot
be built, and every lookup lemma below is unconditional.

Rows are read by key (`Table.find?`), added when their key is absent
(`Table.insertIfAbsent`) and rewritten in place by a predicate
(`Table.updateWhere`) or by a key (`Table.update`). A rewrite keeps the key of the
row it rewrites, which is an instance of `KeepsKey`; nothing deletes rows. The lemmas `Table.find?_insertIfAbsent`
and `Table.find?_updateWhere` describe a table after a write by its lookups
before the write, and are all that a development over tables needs.
-/

set_option autoImplicit false

namespace Foundation

universe u v

/-- A row type with a primary key. -/
class Keyed (Row : Type u) (Key : outParam (Type v)) where
  /-- The primary key of a row. -/
  key : Row → Key

export Keyed (key)

/-- A rewrite of rows that keeps their keys. -/
class KeepsKey {Row : Type u} {Key : Type v} [Keyed Row Key] (f : Row → Row) : Prop where
  keeps : ∀ row, key (f row) = key row

/-- Finitely many rows with pairwise distinct keys. -/
structure Table (Row : Type u) {Key : Type v} [Keyed Row Key] where
  rows : List Row
  keys_nodup : (rows.map (key : Row → Key)).Nodup

namespace Table

variable {Row : Type u} {Key : Type v} [Keyed Row Key]

theorem ext_rows {t t' : Table Row} (same : t.rows = t'.rows) : t = t' := by
  cases t
  cases t'
  cases same
  rfl

instance [DecidableEq Row] : DecidableEq (Table Row) := fun t t' =>
  decidable_of_iff (t.rows = t'.rows) ⟨ext_rows, congrArg rows⟩

instance : EmptyCollection (Table Row) := ⟨⟨[], List.nodup_nil⟩⟩

instance : Membership Row (Table Row) := ⟨fun t row => row ∈ t.rows⟩

theorem mem_rows {t : Table Row} {row : Row} : row ∈ t ↔ row ∈ t.rows := Iff.rfl

@[simp] theorem not_mem_empty (row : Row) : row ∉ (∅ : Table Row) := List.not_mem_nil

/-- Two rows of one table with the same key are the same row. -/
theorem eq_of_key_eq {t : Table Row} {row row' : Row} (member : row ∈ t) (member' : row' ∈ t)
    (same : key row = key row') : row = row' :=
  List.inj_on_of_nodup_map t.keys_nodup member member' same

/-! ## Lookup -/

section Lookup

variable [DecidableEq Key]

/-- The row of a key. -/
def find? (t : Table Row) (k : Key) : Option Row :=
  t.rows.find? fun row => decide (key row = k)

@[simp] theorem find?_empty (k : Key) : (∅ : Table Row).find? k = none := rfl

theorem mem_of_find? {t : Table Row} {k : Key} {row : Row} (found : t.find? k = some row) :
    row ∈ t :=
  List.mem_of_find?_eq_some found

theorem key_of_find? {t : Table Row} {k : Key} {row : Row} (found : t.find? k = some row) :
    key row = k := by
  have holds := List.find?_some found
  exact of_decide_eq_true holds

/-- A row of the table is the row found at its key. -/
theorem find?_of_mem {t : Table Row} {row : Row} (member : row ∈ t) :
    t.find? (key row) = some row := by
  cases found : t.find? (key row) with
  | none =>
      have absent := List.find?_eq_none.mp found row member
      simp at absent
  | some other =>
      rw [eq_of_key_eq (mem_of_find? found) member (key_of_find? found)]

theorem find?_eq_some_iff {t : Table Row} {k : Key} {row : Row} :
    t.find? k = some row ↔ row ∈ t ∧ key row = k := by
  constructor
  · exact fun found => ⟨mem_of_find? found, key_of_find? found⟩
  · rintro ⟨member, rfl⟩
    exact find?_of_mem member

theorem find?_eq_none_iff {t : Table Row} {k : Key} :
    t.find? k = none ↔ ∀ row ∈ t, key row ≠ k := by
  simp [find?, List.find?_eq_none, mem_rows]

end Lookup

/-! ## Insertion -/

section Insertion

variable [DecidableEq Key]

/-- Append a row whose key is new; leave the table alone when the key is taken. -/
def insertIfAbsent (t : Table Row) (row : Row) : Table Row :=
  if absent : t.find? (key row) = none then
    { rows := t.rows ++ [row]
      keys_nodup := by
        have apart := find?_eq_none_iff.mp absent
        rw [List.map_append, List.nodup_append]
        refine ⟨t.keys_nodup, List.nodup_singleton _, ?_⟩
        intro k member k' member' same
        obtain ⟨other, inTable, rfl⟩ := List.mem_map.mp member
        simp only [List.map_cons, List.map_nil, List.mem_singleton] at member'
        exact apart other inTable (same.trans member') }
  else t

theorem insertIfAbsent_of_absent {t : Table Row} {row : Row} (absent : t.find? (key row) = none) :
    (t.insertIfAbsent row).rows = t.rows ++ [row] := by
  simp [insertIfAbsent, absent]

/-- A taken key makes the insertion a no-op. -/
theorem insertIfAbsent_of_present {t : Table Row} {row other : Row}
    (present : t.find? (key row) = some other) : t.insertIfAbsent row = t := by
  simp [insertIfAbsent, present]

theorem mem_insertIfAbsent {t : Table Row} {row other : Row} :
    other ∈ t.insertIfAbsent row ↔ other ∈ t ∨ t.find? (key row) = none ∧ other = row := by
  by_cases absent : t.find? (key row) = none
  · simp [mem_rows, insertIfAbsent_of_absent absent, absent]
  · obtain ⟨found, present⟩ := Option.ne_none_iff_exists'.mp absent
    simp [insertIfAbsent_of_present present, present]

theorem find?_insertIfAbsent (t : Table Row) (row : Row) (k : Key) :
    (t.insertIfAbsent row).find? k =
      (t.find? k).or (if key row = k then some row else none) := by
  by_cases absent : t.find? (key row) = none
  · simp [find?, insertIfAbsent_of_absent absent, List.find?_append, List.find?_cons]
    by_cases same : key row = k <;> simp [same]
  · obtain ⟨found, present⟩ := Option.ne_none_iff_exists'.mp absent
    rw [insertIfAbsent_of_present present]
    by_cases same : key row = k
    · subst same
      simp [present]
    · simp [same]

/-- After an insertion there is a row at its key. -/
theorem find?_insertIfAbsent_self (t : Table Row) (row : Row) :
    ∃ other, (t.insertIfAbsent row).find? (key row) = some other := by
  rw [find?_insertIfAbsent, if_pos rfl]
  cases t.find? (key row) with
  | none => exact ⟨row, rfl⟩
  | some other => exact ⟨other, rfl⟩

/-- Lookups that succeed survive an insertion. -/
theorem find?_insertIfAbsent_of_some {t : Table Row} {row other : Row} {k : Key}
    (found : t.find? k = some other) : (t.insertIfAbsent row).find? k = some other := by
  simp [find?_insertIfAbsent, found]

@[simp] theorem find?_insertIfAbsent_ne {t : Table Row} {row : Row} {k : Key}
    (different : key row ≠ k) : (t.insertIfAbsent row).find? k = t.find? k := by
  simp [find?_insertIfAbsent, different]

/-- Every lookup after the insertion of a new row. -/
theorem find?_insert_new {t : Table Row} {row : Row} (absent : t.find? (key row) = none) (k : Key) :
    (t.insertIfAbsent row).find? k = if k = key row then some row else t.find? k := by
  rw [find?_insertIfAbsent]
  by_cases same : k = key row
  · subst same
    simp [absent]
  · simp [same, Ne.symm same]

theorem filter_insertIfAbsent {t : Table Row} {row : Row} (absent : t.find? (key row) = none)
    (p : Row → Bool) :
    (t.insertIfAbsent row).rows.filter p = t.rows.filter p ++ if p row then [row] else [] := by
  rw [insertIfAbsent_of_absent absent, List.filter_append]
  by_cases chosen : p row <;> simp [chosen]

/-- `INSERT … ON CONFLICT DO NOTHING`: the row is added unless a row clashes with it. -/
def insertUnless (t : Table Row) (row : Row) (clash : Row → Bool) : Table Row :=
  if t.rows.any clash then t else t.insertIfAbsent row

/-- What the caller of `insertUnless` goes on with: the row, or after a clash the first row
a second query selects. -/
def insertedOr (t : Table Row) (row : Row) (clash selected : Row → Bool) : Option Row :=
  if t.rows.any clash then t.rows.find? selected else some row

/-- An insertion adds its row, or there was a clash and nothing happens. -/
theorem insertUnless_cases (t : Table Row) (row : Row) (clash selected : Row → Bool) :
    ((∀ other ∈ t, clash other = false) ∧ t.insertUnless row clash = t.insertIfAbsent row ∧
        t.insertedOr row clash selected = some row) ∨
      ((∃ other ∈ t, clash other = true) ∧ t.insertUnless row clash = t ∧
        t.insertedOr row clash selected = t.rows.find? selected) := by
  by_cases clashes : t.rows.any clash = true
  · exact .inr ⟨List.any_eq_true.mp clashes, by simp [insertUnless, clashes],
      by simp [insertedOr, clashes]⟩
  · refine .inl ⟨fun other member => ?_, by simp [insertUnless, clashes],
      by simp [insertedOr, clashes]⟩
    have none := List.any_eq_false.mp (by simpa using clashes) other member
    simpa using none

end Insertion

/-! ## Rewriting -/

section Rewriting

/-- Rewrite every row that satisfies a predicate. -/
def updateWhere (t : Table Row) (p : Row → Bool) (f : Row → Row) [KeepsKey f] : Table Row where
  rows := t.rows.map fun row => if p row then f row else row
  keys_nodup := by
    have same : (key : Row → Key) ∘ (fun row => if p row then f row else row) = key := by
      funext row
      by_cases chosen : p row <;> simp [chosen, KeepsKey.keeps]
    rw [List.map_map, same]
    exact t.keys_nodup

variable {t : Table Row} {p : Row → Bool} {f : Row → Row} [KeepsKey f]

theorem mem_updateWhere {row : Row} :
    row ∈ t.updateWhere p f ↔ ∃ old ∈ t, (if p old then f old else old) = row := by
  simp [mem_rows, updateWhere]

/-- A rewrite that changes none of the chosen rows changes nothing. -/
theorem updateWhere_eq_self (still : ∀ row ∈ t, p row = true → f row = row) :
    t.updateWhere p f = t := by
  apply ext_rows
  conv_rhs => rw [← List.map_id t.rows]
  apply List.map_congr_left
  intro row member
  by_cases chosen : p row
  · simp [chosen, still row member chosen]
  · simp [chosen]

variable [DecidableEq Key]

theorem find?_updateWhere (k : Key) :
    (t.updateWhere p f).find? k = (t.find? k).map fun row => if p row then f row else row := by
  have same : ∀ row, key (if p row then f row else row) = key row := by
    intro row
    by_cases chosen : p row <;> simp [chosen, KeepsKey.keeps]
  simp only [find?, updateWhere, List.find?_map]
  congr 2
  funext row
  simp [same]

/-- Rewrite the row of one key. -/
def update (t : Table Row) (k : Key) (f : Row → Row) [KeepsKey f] : Table Row :=
  t.updateWhere (fun row => decide (key row = k)) f

@[simp] theorem find?_update_self (k : Key) : (t.update k f).find? k = (t.find? k).map f := by
  rw [update, find?_updateWhere]
  cases found : t.find? k with
  | none => rfl
  | some row => simp [key_of_find? found]

@[simp] theorem find?_update_ne {k k' : Key} (different : k' ≠ k) :
    (t.update k f).find? k' = t.find? k' := by
  rw [update, find?_updateWhere]
  cases found : t.find? k' with
  | none => rfl
  | some row => simp [key_of_find? found, different]

theorem find?_update (k k' : Key) :
    (t.update k f).find? k' = if k' = k then (t.find? k').map f else t.find? k' := by
  by_cases same : k' = k
  · subst same
    simp
  · simp [same]

/-- Every lookup after the rewriting of a row that is there. -/
theorem find?_update_known {k : Key} {row : Row} (found : t.find? k = some row) (k' : Key) :
    (t.update k f).find? k' = if k' = k then some (f row) else t.find? k' := by
  rw [find?_update]
  by_cases same : k' = k
  · simp [same, found]
  · simp [same]

theorem mem_update {k : Key} {row : Row} :
    row ∈ t.update k f ↔ ∃ old ∈ t, (if key old = k then f old else old) = row := by
  simp [update, mem_updateWhere]

/-- A selection that a rewrite does not change selects the rewritten rows. -/
theorem filter_update {k : Key} {q : Row → Bool} (keeps : ∀ row, q (f row) = q row) :
    (t.update k f).rows.filter q =
      (t.rows.filter q).map fun row => if key row = k then f row else row := by
  simp only [update, updateWhere, List.filter_map, decide_eq_true_eq]
  congr 1
  refine List.filter_congr fun row _ => ?_
  by_cases chosen : key row = k <;> simp [chosen, keeps]

/-- A selection that has the rewritten row neither before nor after selects the same rows. -/
theorem filter_update_of_out {k : Key} {q : Row → Bool}
    (out : ∀ row, t.find? k = some row → q row = false ∧ q (f row) = false) :
    (t.update k f).rows.filter q = t.rows.filter q := by
  have here : ∀ row ∈ t.rows, key row = k → q row = false ∧ q (f row) = false :=
    fun row member same => out row (find?_eq_some_iff.mpr ⟨member, same⟩)
  simp only [update, updateWhere, List.filter_map, decide_eq_true_eq]
  rw [List.filter_congr (q := q)]
  · conv_rhs => rw [← List.map_id (t.rows.filter q)]
    refine List.map_congr_left fun row member => if_neg fun same => ?_
    obtain ⟨stored, chosen⟩ := List.mem_filter.mp member
    rw [(here row stored same).1] at chosen
    cases chosen
  · intro row member
    by_cases same : key row = k
    · simp [same, here row member same]
    · simp [same]

/-- Rewriting a row to itself changes nothing. -/
theorem update_eq_self {k : Key} (still : ∀ row, t.find? k = some row → f row = row) :
    t.update k f = t := by
  refine updateWhere_eq_self fun row member chosen => still row ?_
  rw [find?_eq_some_iff]
  exact ⟨member, of_decide_eq_true chosen⟩

/-- **A loop of rewrites** of distinct keys rewrites the row of each key once. -/
theorem foldl_update_rows {α : Type} {k : α → Key} {f : α → Row → Row} [∀ a, KeepsKey (f a)]
    {items : List α} (distinct : (items.map k).Nodup) (t : Table Row) :
    (items.foldl (fun t a => t.update (k a) (f a)) t).rows = t.rows.map fun row =>
      ((items.find? fun a => decide (k a = key row)).map fun a => f a row).getD row := by
  induction items generalizing t with
  | nil => simp
  | cons first items ih =>
      rw [List.map_cons, List.nodup_cons] at distinct
      rw [List.foldl_cons, ih distinct.2]
      simp only [update, updateWhere, List.map_map, decide_eq_true_eq]
      refine List.map_congr_left fun row _ => ?_
      rw [Function.comp_apply, List.find?_cons]
      by_cases here : k first = key row
      · have passed : (items.find? fun a => decide (k a = key row)) = none := by
          refine List.find?_eq_none.mpr fun a later same => distinct.1 ?_
          rw [here, ← of_decide_eq_true same]
          exact List.mem_map_of_mem later
        rw [if_pos here.symm, KeepsKey.keeps, passed, decide_eq_true here]
        rfl
      · rw [if_neg (Ne.symm here), decide_eq_false here]

end Rewriting

end Table

end Foundation
