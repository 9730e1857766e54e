import HcuAutoOpt.Foundation.GroupedSums
import Mathlib.Data.List.Chain
import Mathlib.Order.Lattice

/-!
# Runs of a list

A list falls into runs of equal neighbours. A pass that keeps an item when it differs from the
one it kept last returns the items of the runs (`runHeads`); it returns given items, no two
neighbours equal, exactly for the lists that repeat each of them some number of times in turn
(`runHeads_eq_iff`).

A list in the order of a key is the concatenation of the groups of its keys
(`eq_flatMap_group`).
-/

set_option autoImplicit false

namespace Foundation

variable {α : Type}

/-! ## The items of the runs -/

/-- The list with the given runs, each an item and how often it is repeated. -/
def ofRuns (runs : List (α × Nat)) : List α :=
  runs.flatMap fun run => List.replicate run.2 run.1

@[simp] theorem ofRuns_nil : ofRuns ([] : List (α × Nat)) = [] := rfl

@[simp] theorem ofRuns_cons (run : α × Nat) (runs : List (α × Nat)) :
    ofRuns (run :: runs) = List.replicate run.2 run.1 ++ ofRuns runs := rfl

theorem ofRuns_append (runs more : List (α × Nat)) :
    ofRuns (runs ++ more) = ofRuns runs ++ ofRuns more :=
  List.flatMap_append

theorem map_ofRuns {β : Type} (f : α → β) (runs : List (α × Nat)) :
    (ofRuns runs).map f = ofRuns (runs.map fun run => (f run.1, run.2)) := by
  induction runs with
  | nil => rfl
  | cons run runs ih => simp [ih]

section Heads

variable [DecidableEq α]

/-- Keep an item when it differs from the one kept last. -/
def keepNew (kept : List α) (item : α) : List α :=
  if kept.getLast? = some item then kept else kept ++ [item]

/-- The items of the runs of a list. -/
def runHeads (items : List α) : List α := items.foldl keepNew []

/-- Repetitions of the item kept last change nothing. -/
theorem foldl_keepNew_replicate (kept : List α) (item : α) (count : Nat) :
    (List.replicate count item).foldl keepNew (kept ++ [item]) = kept ++ [item] := by
  induction count with
  | zero => rfl
  | succ count ih => simpa [List.replicate_succ, keepNew] using ih

/-- Runs are kept in turn after items that end differently. -/
theorem foldl_keepNew_ofRuns {runs : List (α × Nat)} (some_ : ∀ run ∈ runs, 0 < run.2)
    (distinct : (runs.map Prod.fst).IsChain (· ≠ ·)) :
    ∀ kept : List α, (∀ run ∈ runs.head?, kept.getLast? ≠ some run.1) →
      (ofRuns runs).foldl keepNew kept = kept ++ runs.map Prod.fst := by
  induction runs with
  | nil => simp
  | cons run runs ih =>
      intro kept other
      obtain ⟨item, count⟩ := run
      obtain ⟨more, rfl⟩ := Nat.exists_eq_succ_of_ne_zero (some_ _ List.mem_cons_self).ne'
      have first : keepNew kept item = kept ++ [item] := if_neg (other _ rfl)
      have rest : (ofRuns runs).foldl keepNew (kept ++ [item]) =
          (kept ++ [item]) ++ runs.map Prod.fst := by
        refine ih (fun later present => some_ later (List.mem_cons_of_mem _ present))
          distinct.tail (kept ++ [item]) ?_
        intro next isNext
        cases runs with
        | nil => cases isNext
        | cons following runs =>
            cases isNext
            simpa using (List.isChain_cons_cons.mp distinct).1
      rw [ofRuns_cons, List.replicate_succ, List.cons_append, List.foldl_cons, first,
        List.foldl_append, foldl_keepNew_replicate, rest]
      simp

/-- Every list has runs, and none of them is empty. -/
theorem exists_runs (items : List α) :
    ∃ runs : List (α × Nat), runs.map Prod.fst = runHeads items ∧ (∀ run ∈ runs, 0 < run.2) ∧
      items = ofRuns runs := by
  induction items using List.reverseRecOn with
  | nil => exact ⟨[], rfl, by simp, rfl⟩
  | append_singleton items item ih =>
      obtain ⟨runs, heads, some_, same⟩ := ih
      have step : runHeads (items ++ [item]) = keepNew (runHeads items) item := by
        simp [runHeads]
      rw [step, ← heads]
      by_cases again : (runs.map Prod.fst).getLast? = some item
      · -- the item makes the last run longer
        rcases List.eq_nil_or_concat runs with rfl | ⟨front, last, rfl⟩
        · simp at again
        · have sameItem : last.1 = item := by simpa using again
          refine ⟨front ++ [(item, last.2 + 1)], ?_, ?_, ?_⟩
          · simp [keepNew, ← sameItem]
          · intro run present
            rcases List.mem_append.mp present with before | here
            · exact some_ run (by simp [before])
            · simp only [List.mem_singleton] at here
              simp [here]
          · rw [same]
            simp [ofRuns, sameItem, List.replicate_succ']
      · refine ⟨runs ++ [(item, 1)], ?_, ?_, ?_⟩
        · rw [keepNew, if_neg again, List.map_append]
          rfl
        · intro run present
          rcases List.mem_append.mp present with before | here
          · exact some_ run before
          · simp only [List.mem_singleton] at here
            simp [here]
        · rw [same, ofRuns_append]
          rfl

/-- **The lists of given runs.** The runs of a list have given items, of which no two neighbours
are equal, exactly when the list repeats them in turn. -/
theorem runHeads_eq_iff {items heads : List α} (distinct : heads.IsChain (· ≠ ·)) :
    runHeads items = heads ↔
      ∃ runs : List (α × Nat), runs.map Prod.fst = heads ∧ (∀ run ∈ runs, 0 < run.2) ∧
        items = ofRuns runs := by
  constructor
  · rintro rfl
    exact exists_runs items
  · rintro ⟨runs, rfl, some_, rfl⟩
    exact foldl_keepNew_ofRuns some_ distinct [] (by simp)

end Heads

/-! ## Lists in the order of a key -/

section Keys

variable {β ι : Type} [LinearOrder ι] {key : β → ι}

/-- The items of the least key stand at the front. -/
theorem eq_group_append {items : List β} (sorted : (items.map key).Pairwise (· ≤ ·)) {i : ι}
    (least : ∀ b ∈ items, i ≤ key b) :
    items = group key items i ++ items.filter fun b => decide (key b ≠ i) := by
  induction items with
  | nil => rfl
  | cons b items ih =>
      rw [List.map_cons, List.pairwise_cons] at sorted
      have rest := ih sorted.2 fun c later => least c (List.mem_cons_of_mem b later)
      by_cases here : key b = i
      · simpa [group, here] using rest
      · -- every later key is above `i` as well
        have above : ∀ c ∈ items, key c ≠ i := by
          intro c later same
          have le := sorted.1 (key c) (List.mem_map_of_mem later)
          exact here (le_antisymm (same ▸ le) (least b List.mem_cons_self))
        have none_ : group key (b :: items) i = [] := by
          refine List.filter_eq_nil_iff.mpr fun c present => ?_
          rcases List.mem_cons.mp present with rfl | later
          · simpa using here
          · simpa using above c later
        have all : (b :: items).filter (fun c => decide (key c ≠ i)) = b :: items := by
          refine List.filter_eq_self.mpr fun c present => ?_
          rcases List.mem_cons.mp present with rfl | later
          · simpa using here
          · simpa using above c later
        rw [none_, all, List.nil_append]

/-- **A list in the order of a key is the concatenation of its groups.** -/
theorem eq_flatMap_group {items : List β} (sorted : (items.map key).Pairwise (· ≤ ·))
    {keys : List ι} (increasing : keys.Pairwise (· < ·)) (covered : ∀ b ∈ items, key b ∈ keys) :
    items = keys.flatMap (group key items) := by
  induction keys generalizing items with
  | nil =>
      cases items with
      | nil => rfl
      | cons b items => exact absurd (covered b List.mem_cons_self) List.not_mem_nil
  | cons i keys ih =>
      rw [List.pairwise_cons] at increasing
      have least : ∀ b ∈ items, i ≤ key b := by
        intro b present
        rcases List.mem_cons.mp (covered b present) with same | later
        · exact same.ge
        · exact (increasing.1 _ later).le
      have others := @ih (items.filter fun b => decide (key b ≠ i))
        (sorted.sublist (List.filter_sublist.map key)) increasing.2 (by
          intro b present
          obtain ⟨present, other⟩ := List.mem_filter.mp present
          rcases List.mem_cons.mp (covered b present) with same | later
          · simp [same] at other
          · exact later)
      have groups : ∀ j ∈ keys,
          group key (items.filter fun b => decide (key b ≠ i)) j = group key items j := by
        intro j later
        simp only [group, List.filter_filter]
        refine List.filter_congr fun b _ => ?_
        by_cases here : key b = j
        · simp [here, (increasing.1 j later).ne']
        · simp [here]
      rw [List.flatMap_cons]
      conv_lhs => rw [eq_group_append sorted least, others]
      congr 1
      exact List.flatMap_congr groups

/-- Groups are taken item by item. -/
theorem map_group {γ : Type} (f : β → γ) (keyOf : γ → ι) (same : ∀ b, keyOf (f b) = key b)
    (items : List β) (i : ι) : (group key items i).map f = group keyOf (items.map f) i := by
  simp [group, List.filter_map, Function.comp_def, same]

/-- A concatenation of lists, each of one key, has these lists as its groups. -/
theorem group_flatMap {keys : List ι} (distinct : keys.Nodup) {chunk : ι → List β}
    (keyed : ∀ i ∈ keys, ∀ b ∈ chunk i, key b = i) {i : ι} (present : i ∈ keys) :
    group key (keys.flatMap chunk) i = chunk i := by
  induction keys with
  | nil => cases present
  | cons j keys ih =>
      rw [List.flatMap_cons, group_append]
      have headKeyed := keyed j List.mem_cons_self
      have tailKeyed : ∀ k ∈ keys, ∀ b ∈ chunk k, key b = k :=
        fun k later => keyed k (List.mem_cons_of_mem j later)
      rw [List.nodup_cons] at distinct
      rcases List.mem_cons.mp present with rfl | later
      · have own : group key (chunk i) i = chunk i :=
          List.filter_eq_self.mpr fun b there => by simpa using headKeyed b there
        have others : group key (keys.flatMap chunk) i = [] := by
          refine List.filter_eq_nil_iff.mpr fun b there => ?_
          obtain ⟨k, later, there⟩ := List.mem_flatMap.mp there
          have different : k ≠ i := fun same => distinct.1 (same ▸ later)
          simpa [tailKeyed k later b there] using different
        rw [own, others, List.append_nil]
      · have none_ : group key (chunk j) i = [] := by
          refine List.filter_eq_nil_iff.mpr fun b there => ?_
          have different : j ≠ i := fun same => distinct.1 (same ▸ later)
          simpa [headKeyed b there] using different
        rw [none_, List.nil_append, ih distinct.2 tailKeyed later]

end Keys

end Foundation
