import Mathlib.Tactic.Common

/-!
# Code over a mutable state that may raise

`Raising ε σ α` is code that reads and changes a state of type `σ` and ends with a value
or with a raised error. Nothing is rolled back: what was changed before an error was
raised stays changed. Code that only reads (`Raising.Reads`) may stand before code that
raises without trace (`Raising.RaisesClean`), which is how an object checks everything
before it changes anything.
-/

set_option autoImplicit false

namespace Foundation

/-- Stateful code that ends with a value or raises. -/
def Raising (ε σ α : Type) : Type := σ → Except ε α × σ

namespace Raising

variable {ε σ α β : Type}

instance : Monad (Raising ε σ) where
  pure a := fun s => (.ok a, s)
  bind x f := fun s =>
    match x s with
    | (.ok a, t) => f a t
    | (.error e, t) => (.error e, t)

/-- The code run from a state. -/
def run (x : Raising ε σ α) (s : σ) : Except ε α × σ := x s

/-- The state as it stands. -/
def get : Raising ε σ σ := fun s => (.ok s, s)

/-- Change the state. -/
def modify (f : σ → σ) : Raising ε σ Unit := fun s => (.ok (), f s)

/-- `raise`. -/
def raise (e : ε) : Raising ε σ α := fun s => (.error e, s)

/-- `if bad: raise`. -/
def raiseIf (bad : Prop) [Decidable bad] (e : ε) : Raising ε σ Unit :=
  if bad then raise e else pure ()

/-- The value that was found; `raise` when there is none. -/
def orRaise (found : Option α) (e : ε) : Raising ε σ α :=
  match found with
  | some a => pure a
  | none => raise e

/-! ## Runs -/

@[simp] theorem run_pure (a : α) (s : σ) : (pure a : Raising ε σ α).run s = (.ok a, s) := rfl

@[simp] theorem run_get (s : σ) : (get : Raising ε σ σ).run s = (.ok s, s) := rfl

@[simp] theorem run_modify (f : σ → σ) (s : σ) :
    (modify f : Raising ε σ Unit).run s = (.ok (), f s) := rfl

@[simp] theorem run_raise (e : ε) (s : σ) : (raise e : Raising ε σ α).run s = (.error e, s) := rfl

theorem run_bind_of_ok {x : Raising ε σ α} {f : α → Raising ε σ β} {s t : σ} {a : α}
    (first : x.run s = (.ok a, t)) : (x >>= f).run s = (f a).run t := by
  change (match x s with | (.ok a, t) => f a t | (.error e, t) => (.error e, t)) = f a t
  rw [show x s = (.ok a, t) from first]

theorem run_bind_of_error {x : Raising ε σ α} {f : α → Raising ε σ β} {s t : σ} {e : ε}
    (first : x.run s = (.error e, t)) : (x >>= f).run s = (.error e, t) := by
  change (match x s with | (.ok a, t) => f a t | (.error e, t) => (.error e, t)) = (.error e, t)
  rw [show x s = (.error e, t) from first]

/-- Both parts of a sequence that ends with a value end with one. -/
theorem run_bind_ok {x : Raising ε σ α} {f : α → Raising ε σ β} {s u : σ} {b : β}
    (ran : (x >>= f).run s = (.ok b, u)) :
    ∃ a t, x.run s = (.ok a, t) ∧ (f a).run t = (.ok b, u) := by
  change (match x s with | (.ok a, t) => f a t | (.error e, t) => (.error e, t)) = _ at ran
  rcases first : x s with ⟨a | a, t⟩
  · simp [first] at ran
  · rw [first] at ran
    exact ⟨a, t, first, ran⟩

/-- A sequence raises in its first part or, after that ended with a value, in its second. -/
theorem run_bind_error {x : Raising ε σ α} {f : α → Raising ε σ β} {s u : σ} {e : ε}
    (ran : (x >>= f).run s = (.error e, u)) :
    x.run s = (.error e, u) ∨ ∃ a t, x.run s = (.ok a, t) ∧ (f a).run t = (.error e, u) := by
  change (match x s with | (.ok a, t) => f a t | (.error e, t) => (.error e, t)) = _ at ran
  rcases first : x s with ⟨a | a, t⟩
  · rw [first] at ran
    obtain ⟨same, still⟩ := Prod.mk.inj ran
    cases same
    exact .inl (still ▸ first)
  · rw [first] at ran
    exact .inr ⟨a, t, first, ran⟩

@[simp] theorem run_get_bind (f : σ → Raising ε σ β) (s : σ) :
    ((get : Raising ε σ σ) >>= f).run s = (f s).run s := rfl

@[simp] theorem run_modify_bind (g : σ → σ) (f : Unit → Raising ε σ β) (s : σ) :
    ((modify g : Raising ε σ Unit) >>= f).run s = (f ()).run (g s) := rfl

/-- Code that goes on after a check passed it. -/
theorem run_raiseIf_bind_ok {bad : Prop} [Decidable bad] {e : ε} {f : Unit → Raising ε σ β}
    {s u : σ} {b : β} :
    (raiseIf bad e >>= f).run s = (.ok b, u) ↔ ¬bad ∧ (f ()).run s = (.ok b, u) := by
  by_cases h : bad
  · simp only [raiseIf, h, if_true, not_true, false_and, iff_false]
    intro ran
    cases ran
  · simp only [raiseIf, h, if_false, not_false_iff, true_and]
    exact Iff.rfl

/-- Code that goes on after a value was found. -/
theorem run_orRaise_bind_ok {found : Option α} {e : ε} {f : α → Raising ε σ β} {s u : σ} {b : β} :
    (orRaise found e >>= f).run s = (.ok b, u) ↔
      ∃ a, found = some a ∧ (f a).run s = (.ok b, u) := by
  cases found with
  | none =>
      simp only [reduceCtorEq, false_and, exists_false, iff_false]
      intro ran
      cases ran
  | some a =>
      simp only [Option.some.injEq, exists_eq_left']
      exact Iff.rfl

/-! ## Raising without trace -/

/-- The code changes nothing, whether it raises or not. -/
def Reads (x : Raising ε σ α) : Prop := ∀ s, (x.run s).2 = s

/-- The code has changed nothing when it raises. -/
def RaisesClean (x : Raising ε σ α) : Prop := ∀ s e t, x.run s = (.error e, t) → t = s

theorem reads_pure (a : α) : Reads (pure a : Raising ε σ α) := fun _ => rfl

theorem reads_get : Reads (get : Raising ε σ σ) := fun _ => rfl

theorem reads_raiseIf (bad : Prop) [Decidable bad] (e : ε) :
    Reads (raiseIf bad e : Raising ε σ Unit) := by
  intro s
  by_cases h : bad <;> simp [raiseIf, h]

theorem reads_orRaise (found : Option α) (e : ε) : Reads (orRaise found e : Raising ε σ α) := by
  intro s
  cases found <;> simp [orRaise]

theorem raisesClean_modify (f : σ → σ) : RaisesClean (modify f : Raising ε σ Unit) := by
  intro s e t ran
  simp at ran

/-- Code that raises without trace may follow code that reads. -/
theorem Reads.bind_raisesClean {x : Raising ε σ α} {f : α → Raising ε σ β} (reads : Reads x)
    (clean : ∀ a, RaisesClean (f a)) : RaisesClean (x >>= f) := by
  intro s e u ran
  rcases run_bind_error ran with raised | ⟨a, t, first, raised⟩
  · simpa [raised] using reads s
  · have still : t = s := by simpa [first] using reads s
    exact (clean a _ _ _ raised).trans still

/-- A value may be returned after a change. -/
theorem RaisesClean.bind_pure {x : Raising ε σ α} (clean : RaisesClean x) (f : α → β) :
    RaisesClean (x >>= fun a => pure (f a)) := by
  intro s e u ran
  rcases run_bind_error ran with raised | ⟨a, t, -, raised⟩
  · exact clean _ _ _ raised
  · simp at raised

theorem Reads.bind {x : Raising ε σ α} {f : α → Raising ε σ β} (reads : Reads x)
    (more : ∀ a, Reads (f a)) : Reads (x >>= f) := by
  intro s
  rcases first : x.run s with ⟨e | a, t⟩
  · have still : t = s := by simpa [first] using reads s
    change (match x s with | (.ok a, t) => f a t | (.error e, t) => (.error e, t)).2 = s
    rw [show x s = (.error e, t) from first]
    exact still
  · have still : t = s := by simpa [first] using reads s
    rw [run_bind_of_ok first, more a t]
    exact still

/-- Code that goes on after code that only read. -/
theorem Reads.run_bind_ok {x : Raising ε σ α} {f : α → Raising ε σ β} (reads : Reads x)
    {s u : σ} {b : β} (ran : (x >>= f).run s = (.ok b, u)) :
    ∃ a, x.run s = (.ok a, s) ∧ (f a).run s = (.ok b, u) := by
  obtain ⟨a, t, first, rest⟩ := Raising.run_bind_ok ran
  have still : t = s := by simpa [first] using reads s
  exact ⟨a, still ▸ first, still ▸ rest⟩

end Raising

end Foundation
