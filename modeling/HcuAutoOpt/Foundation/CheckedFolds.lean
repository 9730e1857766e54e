import HcuAutoOpt.Foundation.CommittedCalls
import Mathlib.Data.List.Nodup
import Mathlib.Data.List.Perm.Basic

/-!
# Loops that check and accumulate

A loop over a list that may raise at any turn and otherwise only extends an accumulator
succeeds exactly when every turn passes its check (`foldlM_ok_iff`, `forM_ok_iff`), and its
result is then a plain fold. A bound on the accumulator that is checked turn by turn and
can only get harder to meet is one check of the result.

A list whose entries have distinct keys is a dictionary: a lookup finds the entry of a key
wherever it stands (`find?_eq_some_iff_of_nodup`, `find?_perm`).
-/

set_option autoImplicit false

namespace Foundation

variable {α β τ ε : Type}

/-! ## Loops -/

/-- **Checked accumulation.** A loop whose turns succeed exactly when the item passes `P`
and the new accumulator is within `Q` succeeds exactly when every item passes and the final
accumulator is within `Q`. -/
theorem foldlM_ok_iff {step : τ → α → Except ε τ} {f : τ → α → τ} {P : α → Prop} {Q : τ → Prop}
    (turn : ∀ t x u, Q t → (step t x = .ok u ↔ P x ∧ Q (f t x) ∧ u = f t x))
    (back : ∀ t x, Q (f t x) → Q t) (xs : List α) :
    ∀ t u, Q t → (xs.foldlM step t = .ok u ↔
      (∀ x ∈ xs, P x) ∧ Q (xs.foldl f t) ∧ u = xs.foldl f t) := by
  have backFold : ∀ (ys : List α) t, Q (ys.foldl f t) → Q t := by
    intro ys
    induction ys with
    | nil => exact fun t within => within
    | cons y ys ih => exact fun t within => back t y (ih _ within)
  induction xs with
  | nil =>
      intro t u within
      simp only [List.foldlM_nil, List.foldl_nil, List.not_mem_nil, false_implies, implies_true,
        true_and]
      constructor
      · rintro ⟨⟩
        exact ⟨within, rfl⟩
      · rintro ⟨-, rfl⟩
        rfl
  | cons x xs ih =>
      intro t u within
      rw [List.foldlM_cons, Except.bind_eq_ok, List.foldl_cons]
      constructor
      · rintro ⟨middle, first, rest⟩
        obtain ⟨passes, within', rfl⟩ := (turn t x middle within).mp first
        obtain ⟨all, final, rfl⟩ := (ih _ u within').mp rest
        refine ⟨?_, final, rfl⟩
        intro y member
        rcases List.mem_cons.mp member with rfl | later
        · exact passes
        · exact all y later
      · rintro ⟨all, final, rfl⟩
        have within' := backFold xs _ final
        refine ⟨f t x, (turn t x _ within).mpr ⟨all x (.head _), within', rfl⟩, ?_⟩
        exact (ih _ _ within').mpr ⟨fun y later => all y (.tail _ later), final, rfl⟩

/-- What every turn keeps, a loop keeps. -/
theorem foldlM_keeps {step : τ → α → Except ε τ} {P : τ → Prop} {xs : List α}
    (keeps : ∀ x ∈ xs, ∀ t u, P t → step t x = .ok u → P u) {t u : τ} (start : P t)
    (done : xs.foldlM step t = .ok u) : P u := by
  induction xs generalizing t with
  | nil =>
      cases done
      exact start
  | cons x xs ih =>
      obtain ⟨next, turn, rest⟩ := Except.bind_eq_ok.mp done
      exact ih (fun y later => keeps y (List.mem_cons_of_mem x later))
        (keeps x List.mem_cons_self t next start turn) rest

/-- A loop without accumulator succeeds when each turn does. -/
theorem forM_ok_iff {check : α → Except ε Unit} {P : α → Prop}
    (turn : ∀ x u, check x = .ok u ↔ P x) (xs : List α) (u : Unit) :
    xs.forM check = .ok u ↔ ∀ x ∈ xs, P x := by
  induction xs with
  | nil =>
      simp only [List.not_mem_nil, false_implies, implies_true, iff_true]
      rfl
  | cons x xs ih =>
      change (check x >>= fun _ => xs.forM check) = .ok u ↔ _
      rw [Except.bind_eq_ok]
      simp only [turn, exists_const, List.forall_mem_cons]
      exact and_congr_right fun _ => ih

/-- A list of computations succeeds when each does, with their results in order. -/
theorem mapM_ok_iff {f : α → Except ε β} {xs : List α} {ys : List β} :
    xs.mapM f = .ok ys ↔ List.Forall₂ (fun x y => f x = .ok y) xs ys := by
  induction xs generalizing ys with
  | nil =>
      rw [List.forall₂_nil_left_iff, List.mapM_nil]
      exact ⟨fun same => by cases same; rfl, fun same => by rw [same]; rfl⟩
  | cons x xs ih =>
      rw [List.mapM_cons, Except.bind_eq_ok, List.forall₂_cons_left_iff]
      simp only [Except.bind_eq_ok, ih]
      constructor
      · rintro ⟨y, first, ys', rest, same⟩
        cases same
        exact ⟨y, ys', first, rest, rfl⟩
      · rintro ⟨y, ys', first, rest, rfl⟩
        exact ⟨y, first, ys', rest, rfl⟩

/-- A list of computations whose only error is `e` has related results, or stops at an item
with that error. -/
theorem mapM_cases {f : α → Except ε β} {R : α → β → Prop} {e : ε} {xs : List α}
    (turn : ∀ x ∈ xs, (∃ y, f x = .ok y ∧ R x y) ∨ f x = .error e) :
    (∃ ys, xs.mapM f = .ok ys ∧ List.Forall₂ R xs ys) ∨
      xs.mapM f = .error e ∧ ∃ x ∈ xs, f x = .error e := by
  induction xs with
  | nil => exact .inl ⟨[], rfl, .nil⟩
  | cons x xs ih =>
      rw [List.mapM_cons]
      rcases turn x List.mem_cons_self with ⟨y, first, related⟩ | failed
      · rcases ih fun other later => turn other (List.mem_cons_of_mem x later) with
          ⟨ys, rest, all⟩ | ⟨rest, other, later, failed⟩
        · refine .inl ⟨y :: ys, ?_, .cons related all⟩
          exact Except.bind_eq_ok.mpr ⟨y, first, Except.bind_eq_ok.mpr ⟨ys, rest, rfl⟩⟩
        · refine .inr ⟨?_, other, List.mem_cons_of_mem x later, failed⟩
          exact Except.bind_eq_error.mpr (.inr ⟨y, first, Except.bind_eq_error.mpr (.inl rest)⟩)
      · exact .inr ⟨Except.bind_eq_error.mpr (.inl failed), x, List.mem_cons_self, failed⟩

/-- Lists related by a function and a property of the left items. -/
theorem forall₂_map_iff {f : α → β} {Q : α → Prop} {xs : List α} {ys : List β} :
    List.Forall₂ (fun x y => y = f x ∧ Q x) xs ys ↔ ys = xs.map f ∧ ∀ x ∈ xs, Q x := by
  induction xs generalizing ys with
  | nil => simp
  | cons x xs ih =>
      rw [List.forall₂_cons_left_iff]
      simp only [ih, List.map_cons, List.forall_mem_cons]
      constructor
      · rintro ⟨y, ys', ⟨rfl, first⟩, ⟨rfl, rest⟩, rfl⟩
        exact ⟨rfl, first, rest⟩
      · rintro ⟨rfl, first, rest⟩
        exact ⟨_, _, ⟨rfl, first⟩, ⟨rfl, rest⟩, rfl⟩

/-- Related lists with a list between them, whose items are related to the left ones and agree
with the right ones. -/
theorem forall₂_split {γ δ : Type} {A : α → γ → Prop} {R : α → β → Prop} {g : β → δ} {h : γ → δ}
    (between : ∀ x z, A x z → ∃ y, R x y ∧ g y = h z) {xs : List α} {zs : List γ}
    (related : List.Forall₂ A xs zs) :
    ∃ ys, List.Forall₂ R xs ys ∧ ys.map g = zs.map h := by
  induction related with
  | nil => exact ⟨[], .nil, rfl⟩
  | cons first _ ih =>
      obtain ⟨y, left, same⟩ := between _ _ first
      obtain ⟨ys, lefts, sames⟩ := ih
      exact ⟨y :: ys, .cons left lefts, by rw [List.map_cons, List.map_cons, same, sames]⟩

/-- The converse of `forall₂_split`. -/
theorem forall₂_join {γ δ : Type} {A : α → γ → Prop} {R : α → β → Prop} {g : β → δ} {h : γ → δ}
    (joined : ∀ x y z, R x y → g y = h z → A x z) {xs : List α} {ys : List β} {zs : List γ}
    (related : List.Forall₂ R xs ys) (same : ys.map g = zs.map h) : List.Forall₂ A xs zs := by
  induction related generalizing zs with
  | nil =>
      rw [List.map_nil, eq_comm, List.map_eq_nil_iff] at same
      rw [same]
      exact .nil
  | cons first _ ih =>
      rw [List.map_cons, eq_comm, List.map_eq_cons_iff] at same
      obtain ⟨z, zs, rfl, here, rest⟩ := same
      exact .cons (joined _ _ _ first here.symm) (ih rest.symm)

/-- A list of computations of which each succeeds with a known value when its item passes. -/
theorem mapM_ok_map_iff {f : α → Except ε β} {g : α → β} {Q : α → Prop} {xs : List α}
    {ys : List β} (turn : ∀ x ∈ xs, ∀ y, f x = .ok y ↔ y = g x ∧ Q x) :
    xs.mapM f = .ok ys ↔ ys = xs.map g ∧ ∀ x ∈ xs, Q x := by
  rw [mapM_ok_iff, ← forall₂_map_iff]
  induction xs generalizing ys with
  | nil => simp
  | cons x xs ih =>
      rw [List.forall₂_cons_left_iff, List.forall₂_cons_left_iff]
      simp only [turn x List.mem_cons_self,
        ih fun other later => turn other (List.mem_cons_of_mem x later)]

/-- An item of the right list of two related lists is related to one of the left. -/
theorem exists_of_forall₂ {R : α → β → Prop} {xs : List α} {ys : List β}
    (related : List.Forall₂ R xs ys) {y : β} (present : y ∈ ys) : ∃ x ∈ xs, R x y := by
  induction related with
  | nil => cases present
  | cons first _ ih =>
      rcases List.mem_cons.mp present with rfl | later
      · exact ⟨_, List.mem_cons_self, first⟩
      · obtain ⟨x, there, same⟩ := ih later
        exact ⟨x, List.mem_cons_of_mem _ there, same⟩

/-- A list of computations that all succeed has the list of their results. -/
theorem mapM_eq_some_of_forall {f : α → Option β} {items : List α}
    (found : ∀ item ∈ items, ∃ b, f item = some b) :
    ∃ bs, items.mapM f = some bs ∧ bs.length = items.length := by
  induction items with
  | nil => exact ⟨[], rfl, rfl⟩
  | cons item items ih =>
      obtain ⟨b, first⟩ := found item List.mem_cons_self
      obtain ⟨bs, rest, length⟩ := ih fun other later =>
        found other (List.mem_cons_of_mem item later)
      exact ⟨b :: bs, by simp [first, rest], by simp [length]⟩

/-! ## Lookups -/

section

variable [DecidableEq β] {key : α → β} {xs ys : List α} {k : β} {x : α}

/-- A lookup in a list with distinct keys finds the entry of the key. -/
theorem find?_eq_some_iff_of_nodup (distinct : (xs.map key).Nodup) :
    xs.find? (fun entry => decide (key entry = k)) = some x ↔ x ∈ xs ∧ key x = k := by
  constructor
  · intro found
    exact ⟨List.mem_of_find?_eq_some found, by simpa using List.find?_some found⟩
  · rintro ⟨member, named⟩
    cases found : xs.find? fun entry => decide (key entry = k) with
    | none => exact absurd named (by simpa using List.find?_eq_none.mp found x member)
    | some y =>
        have named' : key y = k := by simpa using List.find?_some found
        rw [List.inj_on_of_nodup_map distinct (List.mem_of_find?_eq_some found) member
          (named'.trans named.symm)]

/-- A lookup in a list with distinct keys does not depend on the order of the entries. -/
theorem find?_perm (distinct : (xs.map key).Nodup) (perm : xs.Perm ys) :
    ys.find? (fun entry => decide (key entry = k)) =
      xs.find? (fun entry => decide (key entry = k)) := by
  have distinct' : (ys.map key).Nodup := (perm.map key).nodup_iff.mp distinct
  ext x
  rw [find?_eq_some_iff_of_nodup distinct, find?_eq_some_iff_of_nodup distinct', perm.mem_iff]

end

end Foundation
