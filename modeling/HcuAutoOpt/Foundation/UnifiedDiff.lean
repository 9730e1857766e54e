import Mathlib.Data.List.Basic
import Mathlib.Tactic.Common

/-!
# Unified diffs

A unified diff of two sequences is a list of hunks. A hunk names a range of the old sequence and
one of the new, and lists context, deleted and added items; its old items are the context and the
deleted ones, its new items the context and the added ones. A range without items names the item
before it, and any other range its first item, both counted from one.

`Replaces` says what a list of hunks does to a sequence: from left to right, the old items of
each hunk stand at its place and are replaced by its new items. The result is determined by the
hunks (`Replaces.unique`).
-/

set_option autoImplicit false

namespace Foundation

/-- What a hunk does with an item. -/
inductive Change where
  | context | deleted | added
  deriving DecidableEq, Repr

/-- How many items of the old sequence a change has. -/
def Change.oldSize : Change → Nat
  | .context | .deleted => 1
  | .added => 0

/-- How many items of the new sequence a change has. -/
def Change.newSize : Change → Nat
  | .context | .added => 1
  | .deleted => 0

/-- The ranges of a hunk. -/
structure HunkHeader where
  oldStart : Nat
  oldCount : Nat
  newStart : Nat
  newCount : Nat
  deriving DecidableEq, Repr

/-- The place of a range: how many items stand before it. -/
def rangePlace (start count : Nat) : Nat := if count = 0 then start else start - 1

/-- A range that has items starts at one of them. -/
def RangeProper (start count : Nat) : Prop := count ≠ 0 → 1 ≤ start

/-- A hunk. -/
structure Hunk (α : Type) extends HunkHeader where
  body : List (Change × α)

section Items

variable {α : Type}

/-- The items that a body has in the old sequence. -/
def oldItems (body : List (Change × α)) : List α :=
  (body.filter fun entry => decide (entry.1 ≠ .added)).map Prod.snd

/-- The items that a body has in the new sequence. -/
def newItems (body : List (Change × α)) : List α :=
  (body.filter fun entry => decide (entry.1 ≠ .deleted)).map Prod.snd

@[simp] theorem oldItems_nil : oldItems ([] : List (Change × α)) = [] := rfl

@[simp] theorem newItems_nil : newItems ([] : List (Change × α)) = [] := rfl

@[simp] theorem oldItems_context (item : α) (body : List (Change × α)) :
    oldItems ((.context, item) :: body) = item :: oldItems body := rfl

@[simp] theorem oldItems_deleted (item : α) (body : List (Change × α)) :
    oldItems ((.deleted, item) :: body) = item :: oldItems body := rfl

@[simp] theorem oldItems_added (item : α) (body : List (Change × α)) :
    oldItems ((.added, item) :: body) = oldItems body := rfl

@[simp] theorem newItems_context (item : α) (body : List (Change × α)) :
    newItems ((.context, item) :: body) = item :: newItems body := rfl

@[simp] theorem newItems_deleted (item : α) (body : List (Change × α)) :
    newItems ((.deleted, item) :: body) = newItems body := rfl

@[simp] theorem newItems_added (item : α) (body : List (Change × α)) :
    newItems ((.added, item) :: body) = item :: newItems body := rfl

theorem length_oldItems_cons (entry : Change × α) (body : List (Change × α)) :
    (oldItems (entry :: body)).length = entry.1.oldSize + (oldItems body).length := by
  obtain ⟨change, item⟩ := entry
  cases change <;> simp [Change.oldSize, Nat.add_comm]

theorem length_newItems_cons (entry : Change × α) (body : List (Change × α)) :
    (newItems (entry :: body)).length = entry.1.newSize + (newItems body).length := by
  obtain ⟨change, item⟩ := entry
  cases change <;> simp [Change.newSize, Nat.add_comm]

/-- A body without old and new items is empty. -/
theorem body_eq_nil {body : List (Change × α)} (old : oldItems body = [])
    (new : newItems body = []) : body = [] := by
  cases body with
  | nil => rfl
  | cons entry body =>
      obtain ⟨change, item⟩ := entry
      cases change <;> simp at old new

/-- The counts of a hunk are those of its items. -/
def Hunk.Counted (hunk : Hunk α) : Prop :=
  (oldItems hunk.body).length = hunk.oldCount ∧ (newItems hunk.body).length = hunk.newCount

/-- The place of a hunk in the old sequence. -/
def Hunk.place (hunk : Hunk α) : Nat := rangePlace hunk.oldStart hunk.oldCount

/-- The end of a hunk in the old sequence: how many items stand before it. -/
def Hunk.oldEnd (hunk : Hunk α) : Nat := hunk.place + hunk.oldCount

/-- The place of a hunk in the new sequence. -/
def Hunk.newPlace (hunk : Hunk α) : Nat := rangePlace hunk.newStart hunk.newCount

/-- The new places follow from the old ones when the earlier hunks move items by `shift`. -/
def Consistent : Int → List (Hunk α) → Prop
  | _, [] => True
  | shift, hunk :: hunks =>
      RangeProper hunk.oldStart hunk.oldCount ∧ RangeProper hunk.newStart hunk.newCount ∧
        (hunk.newPlace : Int) = hunk.place + shift ∧
        Consistent (shift + hunk.newCount - hunk.oldCount) hunks

/-- What hunks do to the rest of a sequence, from an offset on: the old items of each hunk stand
at its place, and its new items replace them. -/
inductive Replaces : Nat → List α → List (Hunk α) → List α → Prop
  | done (offset : Nat) (rest : List α) : Replaces offset rest [] rest
  | hunk {offset : Nat} {before after result : List α} {hunk : Hunk α} {hunks : List (Hunk α)}
      (placed : offset + before.length = hunk.place)
      (others : Replaces (hunk.place + hunk.oldCount) after hunks result) :
      Replaces offset (before ++ oldItems hunk.body ++ after) (hunk :: hunks)
        (before ++ newItems hunk.body ++ result)

/-- No hunks change nothing. -/
theorem replaces_nil {offset : Nat} {rest result : List α} :
    Replaces offset rest [] result ↔ result = rest := by
  constructor
  · rintro (_ | _)
    rfl
  · rintro rfl
    exact .done offset result

/-- Hunks replace a first hunk and the others after it. -/
theorem replaces_cons {offset : Nat} {rest result : List α} {hunk : Hunk α}
    {hunks : List (Hunk α)} : Replaces offset rest (hunk :: hunks) result ↔
      ∃ before after others, rest = before ++ oldItems hunk.body ++ after ∧
        result = before ++ newItems hunk.body ++ others ∧
        offset + before.length = hunk.place ∧
        Replaces (hunk.place + hunk.oldCount) after hunks others := by
  constructor
  · rintro (_ | ⟨placed, others⟩)
    exact ⟨_, _, _, rfl, rfl, placed, others⟩
  · rintro ⟨before, after, others, rfl, rfl, placed, replaced⟩
    exact .hunk placed replaced

/-- **The result of hunks is determined.** -/
theorem Replaces.unique {offset : Nat} {rest result result' : List α} {hunks : List (Hunk α)}
    (replaces : Replaces offset rest hunks result) (again : Replaces offset rest hunks result') :
    result = result' := by
  induction replaces generalizing result' with
  | done => cases again; rfl
  | @hunk offset before after result hunk hunks placed others ih =>
      obtain ⟨before', after', others', same, rfl, placed', replaced⟩ := replaces_cons.mp again
      have length : before.length = before'.length := by omega
      rw [List.append_assoc, List.append_assoc] at same
      obtain ⟨rfl, tails⟩ := List.append_inj same length
      obtain rfl := List.append_cancel_left tails
      rw [ih replaced]

end Items

end Foundation
