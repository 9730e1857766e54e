import Mathlib.Data.List.DropRight
import Mathlib.Data.List.Induction
import Mathlib.Tactic.Common

/-!
# Lists up to what stands at their ends

Two lists are trimmed alike when they differ only in items at their ends that a test names, such
as the blanks of a line or the empty lines of a text (`TrimmedAlike`). A first item is compared
with a first item, where a list that is over has the items of the test (`trimmedAlike_cons_cons`),
and a function that reads a list piece by piece and keeps the items of the test keeps the
relation (`TrimmedAlike.map`).
-/

set_option autoImplicit false

namespace Foundation

variable {α : Type} {test : α → Bool}

/-- A first item goes only when everything behind it does. -/
theorem rdropWhile_cons (item : α) (items : List α) : (item :: items).rdropWhile test =
    if items.rdropWhile test = [] ∧ test item = true then []
    else item :: items.rdropWhile test := by
  simp only [List.rdropWhile, List.reverse_cons, List.dropWhile_append, List.isEmpty_iff,
    List.reverse_eq_nil_iff]
  by_cases empty : List.dropWhile test items.reverse = []
  · cases tested : test item <;> simp [empty, tested]
  · simp [empty]

/-- Only what stands behind a last item that stays can go. -/
theorem rdropWhile_append_of_self {start : List α} (solid : start.rdropWhile test = start)
    (rest : List α) : (start ++ rest).rdropWhile test = start ++ rest.rdropWhile test := by
  have solid' : (start.reverse.dropWhile test).reverse = start := solid
  simp only [List.rdropWhile, List.reverse_append, List.dropWhile_append, List.isEmpty_iff]
  split
  · rename_i empty
    rw [empty, solid', List.reverse_nil, List.append_nil]
  · rw [List.reverse_append, List.reverse_reverse]

/-- The lists differ only in items of the test at their ends. -/
def TrimmedAlike (test : α → Bool) (items items' : List α) : Prop :=
  items.rdropWhile test = items'.rdropWhile test

theorem TrimmedAlike.rfl {items : List α} : TrimmedAlike test items items := Eq.refl _

theorem TrimmedAlike.symm {items items' : List α} (alike : TrimmedAlike test items items') :
    TrimmedAlike test items' items := Eq.symm alike

theorem TrimmedAlike.trans {items items' items'' : List α} (alike : TrimmedAlike test items items')
    (alike' : TrimmedAlike test items' items'') : TrimmedAlike test items items'' :=
  Eq.trans alike alike'

/-- First items are compared. -/
theorem trimmedAlike_cons_cons {item item' : α} {items items' : List α}
    (decides : ∀ item item', test item = true → test item' = true → item = item') :
    TrimmedAlike test (item :: items) (item' :: items') ↔
      item = item' ∧ TrimmedAlike test items items' := by
  unfold TrimmedAlike
  rw [rdropWhile_cons, rdropWhile_cons]
  constructor
  · intro same
    by_cases over₁ : items.rdropWhile test = [] ∧ test item = true
    · rw [if_pos over₁] at same
      by_cases over₂ : items'.rdropWhile test = [] ∧ test item' = true
      · exact ⟨decides item item' over₁.2 over₂.2, over₁.1.trans over₂.1.symm⟩
      · rw [if_neg over₂] at same
        cases same
    · rw [if_neg over₁] at same
      by_cases over₂ : items'.rdropWhile test = [] ∧ test item' = true
      · rw [if_pos over₂] at same
        cases same
      · rw [if_neg over₂] at same
        exact List.cons.inj same
  · rintro ⟨rfl, same⟩
    rw [same]

/-- A list that is over is alike with items of the test. -/
theorem trimmedAlike_nil_cons {item : α} {items : List α} :
    TrimmedAlike test [] (item :: items) ↔ test item = true ∧ TrimmedAlike test [] items := by
  unfold TrimmedAlike
  rw [rdropWhile_cons, List.rdropWhile_nil]
  by_cases ended : items.rdropWhile test = [] ∧ test item = true
  · simp [ended.1, ended.2]
  · rw [if_neg ended]
    constructor
    · intro same
      cases same
    · rintro ⟨tested, same⟩
      exact absurd ⟨same.symm, tested⟩ ended

/-- What stands in front of lists does not matter. -/
theorem TrimmedAlike.append_left {items items' : List α} (alike : TrimmedAlike test items items')
    (front : List α) : TrimmedAlike test (front ++ items) (front ++ items') := by
  induction front with
  | nil => exact alike
  | cons item front ih =>
      unfold TrimmedAlike at ih ⊢
      rw [List.cons_append, List.cons_append, rdropWhile_cons, rdropWhile_cons, ih]

/-- An item of the test at the end goes. -/
theorem trimmedAlike_concat {item : α} (items : List α) (tested : test item = true) :
    TrimmedAlike test (items ++ [item]) items :=
  List.rdropWhile_concat_pos test items item tested

/-- **A function that reads piece by piece** and keeps items of the test keeps the relation. -/
theorem TrimmedAlike.map {β : Type} {test' : β → Bool} {read : List α → List β}
    (pieces : ∀ items items', read (items ++ items') = read items ++ read items')
    (kept : ∀ item, test item = true → ∃ item', read [item] = [item'] ∧ test' item' = true)
    {items items' : List α} (alike : TrimmedAlike test items items') :
    TrimmedAlike test' (read items) (read items') := by
  have trimmed : ∀ items : List α,
      TrimmedAlike test' (read items) (read (items.rdropWhile test)) := by
    intro items
    induction items using List.reverseRecOn with
    | nil => exact .rfl
    | append_singleton items item ih =>
        cases tested : test item with
        | true =>
            obtain ⟨item', same, tested'⟩ := kept item tested
            rw [List.rdropWhile_concat_pos test items item tested, pieces, same]
            exact (trimmedAlike_concat _ tested').trans ih
        | false =>
            rw [List.rdropWhile_concat_neg test items item (by simp [tested])]
            exact .rfl
  have here := trimmed items
  rw [alike] at here
  exact here.trans (trimmed items').symm

end Foundation
