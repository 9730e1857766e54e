import Mathlib.Tactic.Common

/-!
# Committed calls

A service offers transactions on a shared state: a transaction either commits a
new state with a reply or raises, and a raise rolls the state back
(`Transaction`, `commit`). Inside a transaction, `require` and `requireSome` raise
unless something holds or is there, and a sequence succeeds when its parts do
(`Except.bind_eq_ok`).
-/

set_option autoImplicit false

namespace Foundation

universe u

/-- A transaction commits a state with a reply, or raises. -/
abbrev Transaction (σ ε α : Type u) : Type u := σ → Except ε (σ × α)

section Transactions

variable {σ ε α β : Type u}

/-- The state after a transaction and what its caller sees; a raise rolls back. -/
def commit (op : Transaction σ ε α) (s : σ) : σ × Except ε α :=
  match op s with
  | .ok (t, reply) => (t, .ok reply)
  | .error e => (s, .error e)

theorem commit_of_ok {op : Transaction σ ε α} {s t : σ} {reply : α}
    (ok : op s = .ok (t, reply)) : commit op s = (t, .ok reply) := by
  simp [commit, ok]

theorem commit_of_error {op : Transaction σ ε α} {s : σ} {e : ε}
    (error : op s = .error e) : commit op s = (s, .error e) := by
  simp [commit, error]

/-- A committed state is the old one or the one the transaction returned. -/
theorem commit_cases (op : Transaction σ ε α) (s : σ) :
    (∃ e, op s = .error e ∧ commit op s = (s, .error e)) ∨
      ∃ t reply, op s = .ok (t, reply) ∧ commit op s = (t, .ok reply) := by
  cases result : op s with
  | error e => exact .inl ⟨e, rfl, commit_of_error result⟩
  | ok pair => exact .inr ⟨pair.1, pair.2, rfl, commit_of_ok result⟩

/-- A transaction whose reply nobody looks at. -/
def Transaction.silent {σ ε α : Type} (op : Transaction σ ε α) : Transaction σ ε Unit :=
  fun s =>
    match op s with
    | .ok (t, _) => .ok (t, ())
    | .error e => .error e

theorem Transaction.silent_eq_ok {σ ε α : Type} {op : Transaction σ ε α} {s t : σ} {u : Unit} :
    op.silent s = .ok (t, u) ↔ ∃ reply, op s = .ok (t, reply) := by
  unfold Transaction.silent
  cases op s with
  | error e => simp
  | ok pair =>
      obtain ⟨state, reply⟩ := pair
      simp

/-- Raise unless a condition holds. -/
def require {ε : Type} (p : Prop) [Decidable p] (e : ε) : Except ε Unit :=
  if p then .ok () else .error e

theorem require_eq_ok {ε : Type} {p : Prop} [Decidable p] {e : ε} {u : Unit} :
    require p e = .ok u ↔ p := by
  by_cases holds : p <;> simp [require, holds]

theorem require_eq_error {ε : Type} {p : Prop} [Decidable p] {e e' : ε} :
    require p e = .error e' ↔ ¬p ∧ e = e' := by
  by_cases holds : p <;> simp [require, holds]

theorem require_congr {ε : Type} {p q : Prop} [Decidable p] [Decidable q] {e : ε}
    (same : p ↔ q) : require p e = require q e := by
  simp [require, same]

/-- Raise unless there is a value. -/
def requireSome {ε α : Type} (found : Option α) (e : ε) : Except ε α :=
  match found with
  | some value => .ok value
  | none => .error e

@[simp] theorem requireSome_eq_ok {ε α : Type} {found : Option α} {e : ε} {value : α} :
    requireSome found e = .ok value ↔ found = some value := by
  cases found <;> simp [requireSome]

theorem Except.bind_eq_ok {x : Except ε α} {f : α → Except ε β} {b : β} :
    (x >>= f) = .ok b ↔ ∃ a, x = .ok a ∧ f a = .ok b := by
  cases x <;> simp [bind, Except.bind]

theorem Except.bind_eq_error {x : Except ε α} {f : α → Except ε β} {e : ε} :
    (x >>= f) = .error e ↔ x = .error e ∨ ∃ a, x = .ok a ∧ f a = .error e := by
  cases x <;> simp [bind, Except.bind]

/-- Two sequences with one first part are the same when they go on alike from what it
returns. -/
theorem Except.bind_congr_ok {x : Except ε α} {f g : α → Except ε β}
    (same : ∀ a, x = .ok a → f a = g a) : x >>= f = x >>= g := by
  cases x with
  | error e => rfl
  | ok a => exact same a rfl

/-- A sequence succeeds with a property when its first part succeeds and the rest does. -/
theorem exists_bind_ok {x : Except ε α} {f : α → Except ε β} {P : β → Prop} :
    (∃ b, x >>= f = .ok b ∧ P b) ↔ ∃ a, x = .ok a ∧ ∃ b, f a = .ok b ∧ P b := by
  simp only [Except.bind_eq_ok]
  constructor
  · rintro ⟨b, ⟨a, first, rest⟩, here⟩
    exact ⟨a, first, b, rest, here⟩
  · rintro ⟨a, first, b, rest, here⟩
    exact ⟨b, ⟨a, first, rest⟩, here⟩

theorem exists_pure_ok {a : α} {P : α → Prop} :
    (∃ b, (pure a : Except ε α) = .ok b ∧ P b) ↔ P a := by
  constructor
  · rintro ⟨b, same, here⟩
    cases same
    exact here
  · exact fun here => ⟨a, rfl, here⟩

end Transactions

end Foundation
