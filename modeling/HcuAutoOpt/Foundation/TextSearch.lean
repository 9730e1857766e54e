import Mathlib.Data.List.Basic
import Mathlib.Tactic.Common

/-!
# Taking apart a text with free text in it

A record may hold a name that its writer chose, with the marks of the record in it. Two searches
still find where such a name ends. A search from the right returns the last occurrence of a mark
(`rfindIndex`), which is the mark of the record when nothing behind it holds the mark
(`rfindIndex_append`). A greedy run of a regular expression is tried at its longest first and
given back item by item until the rest of the expression matches (`greedyRun`), so what it takes
is the longest run behind which the rest matches (`greedyRun_append`).
-/

set_option autoImplicit false

namespace Foundation

variable {α β : Type}

/-! ## The last occurrence -/

section Occurrences

/-- The pattern stands in the text at an index. -/
def OccursAt (pattern text : List α) (index : Nat) : Prop := pattern <+: text.drop index

/-- The pattern stands in the text at an index and nowhere behind it. -/
structure LastAt (pattern text : List α) (index : Nat) : Prop where
  here : OccursAt pattern text index
  last : ∀ other, OccursAt pattern text other → other ≤ index

variable {pattern : List α}

theorem occursAt_zero {text : List α} : OccursAt pattern text 0 ↔ pattern <+: text := Iff.rfl

theorem occursAt_succ {item : α} {rest : List α} {index : Nat} :
    OccursAt pattern (item :: rest) (index + 1) ↔ OccursAt pattern rest index := Iff.rfl

/-- A pattern that is not empty does not occur in the empty text. -/
theorem not_occursAt_nil (some_ : pattern ≠ []) (index : Nat) : ¬OccursAt pattern [] index := by
  unfold OccursAt
  rw [List.drop_nil, List.prefix_nil]
  exact some_

/-- The last index is one. -/
theorem LastAt.unique {text : List α} {index other : Nat} (last : LastAt pattern text index)
    (again : LastAt pattern text other) : index = other :=
  Nat.le_antisymm (again.last index last.here) (last.last other again.here)

/-- The last occurrence in the rest of a text is the last one in the text. -/
theorem LastAt.cons {rest : List α} {index : Nat} (last : LastAt pattern rest index) (item : α) :
    LastAt pattern (item :: rest) (index + 1) := by
  refine ⟨last.here, fun other occurs => ?_⟩
  cases other with
  | zero => exact Nat.zero_le _
  | succ other => exact Nat.succ_le_succ (last.last other occurs)

/-- **A mark is the last one** where nothing behind it holds its first item. -/
theorem lastAt_append (front : List α) {mark : α} {more tail : List α}
    (absent : mark ∉ more ++ tail) :
    LastAt (mark :: more) (front ++ mark :: (more ++ tail)) front.length := by
  induction front with
  | nil =>
      refine ⟨occursAt_zero.mpr (List.prefix_append (mark :: more) tail), fun other occurs => ?_⟩
      cases other with
      | zero => exact Nat.le_refl 0
      | succ other =>
          have behind : mark ∈ (more ++ tail).drop other :=
            (occursAt_succ.mp occurs).subset List.mem_cons_self
          exact absurd (List.mem_of_mem_drop behind) absent
  | cons item front ih => exact ih.cons item

end Occurrences

section Search

variable [DecidableEq α] {pattern : List α}

/-- `text.rfind(pattern)`. -/
def rfindIndex (pattern : List α) : List α → Option Nat
  | [] => if pattern = [] then some 0 else none
  | item :: rest =>
      match rfindIndex pattern rest with
      | some index => some (index + 1)
      | none => if pattern.isPrefixOf (item :: rest) then some 0 else none

/-- A search from the right finds nothing where nothing occurs. -/
theorem rfindIndex_eq_none (some_ : pattern ≠ []) {text : List α} :
    rfindIndex pattern text = none ↔ ∀ index, ¬OccursAt pattern text index := by
  induction text with
  | nil =>
      rw [rfindIndex, if_neg some_]
      exact ⟨fun _ => not_occursAt_nil some_, fun _ => rfl⟩
  | cons item rest ih =>
      rw [rfindIndex]
      cases found : rfindIndex pattern rest with
      | some index =>
          have occurs : ¬∀ index, ¬OccursAt pattern rest index := by
            rw [← ih, found]
            exact Option.some_ne_none index
          simp only [reduceCtorEq, false_iff]
          exact fun nowhere => occurs fun index => nowhere (index + 1)
      | none =>
          have nowhere := ih.mp found
          simp only [ite_eq_right_iff, reduceCtorEq, imp_false, List.isPrefixOf_iff_prefix]
          constructor
          · intro different index
            cases index with
            | zero => exact different
            | succ index => exact nowhere index
          · exact fun nowhere => nowhere 0

/-- **A search from the right finds the last occurrence.** -/
theorem rfindIndex_eq_some (some_ : pattern ≠ []) {text : List α} : ∀ {index : Nat},
    rfindIndex pattern text = some index ↔ LastAt pattern text index := by
  have sound : ∀ {text : List α} {index : Nat}, rfindIndex pattern text = some index →
      LastAt pattern text index := by
    intro text
    induction text with
    | nil =>
        intro index found
        rw [rfindIndex, if_neg some_] at found
        cases found
    | cons item rest ih =>
        intro index found
        rw [rfindIndex] at found
        cases later : rfindIndex pattern rest with
        | some before =>
            rw [later] at found
            cases found
            exact (ih later).cons item
        | none =>
            rw [later] at found
            obtain ⟨here, zero⟩ := Option.ite_none_right_eq_some.mp found
            cases zero
            refine ⟨List.isPrefixOf_iff_prefix.mp here, fun other occurs => ?_⟩
            cases other with
            | zero => exact Nat.le_refl 0
            | succ other => exact absurd occurs ((rfindIndex_eq_none some_).mp later other)
  intro index
  refine ⟨sound, fun last => ?_⟩
  cases found : rfindIndex pattern text with
  | none => exact absurd last.here ((rfindIndex_eq_none some_).mp found index)
  | some other => rw [(sound found).unique last]

/-- A search from the right finds a mark that nothing behind it holds. -/
theorem rfindIndex_append (front : List α) {mark : α} {more tail : List α}
    (absent : mark ∉ more ++ tail) :
    rfindIndex (mark :: more) (front ++ mark :: (more ++ tail)) = some front.length :=
  (rfindIndex_eq_some (List.cons_ne_nil mark more)).mpr (lastAt_append front absent)

end Search

/-! ## Greedy runs -/

section Greedy

variable {accept : α → Bool}

/-- `[…]*` followed by the rest of an expression: the longest run of accepted items is tried
first, and an item is given back where the rest does not match. -/
def greedyRun (accept : α → Bool) (next : List α → List α → Option β) : List α → Option β
  | [] => next [] []
  | item :: rest =>
      if accept item = true then
        (greedyRun accept (fun run => next (item :: run)) rest).or (next [] (item :: rest))
      else next [] (item :: rest)

/-- Nothing matches where the rest matches behind no run. -/
theorem greedyRun_eq_none_iff {next : List α → List α → Option β} {text : List α} :
    greedyRun accept next text = none ↔
      ∀ run rest, text = run ++ rest → (∀ item ∈ run, accept item = true) →
        next run rest = none := by
  induction text generalizing next with
  | nil =>
      rw [greedyRun]
      constructor
      · intro nothing run rest split _
        obtain ⟨rfl, rfl⟩ := List.append_eq_nil_iff.mp split.symm
        exact nothing
      · exact fun nothing => nothing [] [] rfl (by simp)
  | cons item text ih =>
      rw [greedyRun]
      constructor
      · intro nothing run rest split accepted
        cases run with
        | nil =>
            rw [List.nil_append] at split
            subst split
            split at nothing
            · exact (Option.or_eq_none_iff.mp nothing).2
            · exact nothing
        | cons first run =>
            obtain ⟨rfl, tails⟩ := List.cons.inj split
            rw [if_pos (accepted item List.mem_cons_self)] at nothing
            exact ih.mp (Option.or_eq_none_iff.mp nothing).1 run rest tails
              fun other member => accepted other (List.mem_cons_of_mem _ member)
      · intro nothing
        have bare := nothing [] (item :: text) rfl (by simp)
        split
        · rename_i taken
          refine Option.or_eq_none_iff.mpr ⟨ih.mpr fun run rest split accepted => ?_, bare⟩
          exact nothing (item :: run) rest (congrArg (item :: ·) split)
            (List.forall_mem_cons.mpr ⟨taken, accepted⟩)
        · exact bare

/-- **A greedy run is the longest one behind which the rest matches.** -/
theorem greedyRun_append {next : List α → List α → Option β} {run rest : List α} {b : β}
    (accepted : ∀ item ∈ run, accept item = true) (found : next run rest = some b)
    (longest : ∀ more rest', rest = more ++ rest' → more ≠ [] →
      (∀ item ∈ more, accept item = true) → next (run ++ more) rest' = none) :
    greedyRun accept next (run ++ rest) = some b := by
  induction run generalizing next with
  | nil =>
      rw [List.nil_append]
      cases rest with
      | nil => exact found
      | cons item rest =>
          rw [greedyRun]
          split
          · rename_i taken
            rw [greedyRun_eq_none_iff.mpr, Option.none_or, found]
            intro run rest' split accepted
            exact longest (item :: run) rest' (congrArg (item :: ·) split) (List.cons_ne_nil _ _)
              (List.forall_mem_cons.mpr ⟨taken, accepted⟩)
          · exact found
  | cons item run ih =>
      obtain ⟨taken, accepted⟩ := List.forall_mem_cons.mp accepted
      rw [List.cons_append, greedyRun, if_pos taken, ih accepted found longest, Option.some_or]

/-- A run that ends where an item stands that is not accepted. -/
theorem greedyRun_append_of_stop {next : List α → List α → Option β} {run rest : List α} {b : β}
    (accepted : ∀ item ∈ run, accept item = true)
    (stop : ∀ item, rest.head? = some item → accept item = false)
    (found : next run rest = some b) : greedyRun accept next (run ++ rest) = some b := by
  refine greedyRun_append accepted found fun more rest' split some_ accepted' => ?_
  cases more with
  | nil => exact absurd rfl some_
  | cons item more =>
      have refused := stop item (by rw [split]; rfl)
      rw [accepted' item List.mem_cons_self] at refused
      cases refused

/-- A run to the end of the text. -/
theorem greedyRun_whole {next : List α → List α → Option β} {text : List α} {b : β}
    (accepted : ∀ item ∈ text, accept item = true) (found : next text [] = some b) :
    greedyRun accept next text = some b := by
  have ended : ∀ item, ([] : List α).head? = some item → accept item = false := by simp
  have whole := greedyRun_append_of_stop accepted ended found
  rwa [List.append_nil] at whole

end Greedy

end Foundation
