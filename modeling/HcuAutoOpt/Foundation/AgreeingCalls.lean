import HcuAutoOpt.Foundation.CommittedCalls

/-!
# Agreeing computations

Two computations agree when both raise the same error, or both return and what they return is
related (`Agree`). A program that keeps more books than another one agrees with it when the
books never stop it: the rules below follow the two programs step by step, and the relation
carries the invariant of the books.
-/

set_option autoImplicit false

namespace Foundation

variable {ε α β γ δ σ τ : Type}

/-- Both raise the same error, or both return and their values are related. -/
inductive Agree (R : α → β → Prop) : Except ε α → Except ε β → Prop
  | raised (e : ε) : Agree R (.error e) (.error e)
  | returned {a : α} {b : β} (related : R a b) : Agree R (.ok a) (.ok b)

namespace Agree

variable {R S : α → β → Prop} {x : Except ε α} {y : Except ε β}

theorem mono (agree : Agree R x y) (sub : ∀ a b, R a b → S a b) : Agree S x y := by
  cases agree with
  | raised e => exact .raised e
  | returned related => exact .returned (sub _ _ related)

/-- Sequences agree when their first parts do and the rest does on related values. -/
theorem bind {Q : γ → δ → Prop} {f : α → Except ε γ} {g : β → Except ε δ} (first : Agree R x y)
    (rest : ∀ a b, R a b → Agree Q (f a) (g b)) : Agree Q (x >>= f) (y >>= g) := by
  cases first with
  | raised e => exact .raised e
  | returned related => exact rest _ _ related

/-- Sequences that begin alike. -/
theorem bind_same {Q : γ → δ → Prop} {f : α → Except ε γ} {g : α → Except ε δ}
    (rest : ∀ a, x = .ok a → Agree Q (f a) (g a)) : Agree Q (x >>= f) (x >>= g) := by
  cases x with
  | error e => exact .raised e
  | ok a => exact rest a rfl

/-- A part that returns does not stop the program on its side. -/
theorem bind_ok {Q : γ → β → Prop} {f : α → Except ε γ} {a : α} (ok : x = .ok a)
    (rest : Agree Q (f a) y) : Agree Q (x >>= f) y := by
  rw [ok]
  exact rest

/-- A condition that holds does not stop the program on its side. -/
theorem require_left {Q : γ → β → Prop} {p : Prop} [Decidable p] {e : ε}
    {f : Unit → Except ε γ} (holds : p) (rest : Agree Q (f ()) y) :
    Agree Q (require p e >>= f) y :=
  bind_ok (require_eq_ok.mpr holds) rest

/-- A condition that holds does not stop the program on its side. -/
theorem require_right {Q : α → δ → Prop} {p : Prop} [Decidable p] {e : ε}
    {g : Unit → Except ε δ} (holds : p) (rest : Agree Q x (g ())) :
    Agree Q x (require p e >>= g) := by
  have ok : require p e = .ok () := require_eq_ok.mpr holds
  rw [ok]
  exact rest

/-- A program that goes on where the other one ends. -/
theorem bind_left {Q : γ → α → Prop} {x : Except ε α} {f : α → Except ε γ}
    (rest : ∀ a, x = .ok a → Agree Q (f a) (.ok a)) : Agree Q (x >>= f) x := by
  cases x with
  | error e => exact .raised e
  | ok a => exact rest a rfl

theorem of_ok (agree : Agree R x y) {a : α} (ok : x = .ok a) : ∃ b, y = .ok b ∧ R a b := by
  subst ok
  cases agree with
  | returned related => exact ⟨_, rfl, related⟩

theorem error_of (agree : Agree R x y) {e : ε} (raised : x = .error e) : y = .error e := by
  subst raised
  cases agree with
  | raised e => rfl

/-- What is known of the second computation when it returns. -/
theorem knowing {P : β → Prop} (agree : Agree R x y) (known : ∀ b, y = .ok b → P b) :
    Agree (fun a b => R a b ∧ P b) x y := by
  cases agree with
  | raised e => exact .raised e
  | returned related => exact .returned ⟨related, known _ rfl⟩

/-- The second computation may go on to map its value. -/
theorem map_right {Q : α → γ → Prop} {g : β → γ} (agree : Agree (fun a b => Q a (g b)) x y) :
    Agree Q x (y.map g) := by
  cases agree with
  | raised e => exact .raised e
  | returned related => exact .returned related

/-- **Loops agree** when their turns do, as long as the relation holds. It may depend on the
items that are left. -/
theorem foldlM {R : List γ → σ → τ → Prop} {f : σ → γ → Except ε σ} {g : τ → γ → Except ε τ}
    (turn : ∀ item rest s t, R (item :: rest) s t → Agree (R rest) (f s item) (g t item))
    {items : List γ} {s : σ} {t : τ} (related : R items s t) :
    Agree (R []) (items.foldlM f s) (items.foldlM g t) := by
  induction items generalizing s t with
  | nil => exact .returned related
  | cons item items ih =>
      rw [List.foldlM_cons, List.foldlM_cons]
      exact bind (turn item items s t related) fun s' t' related' => ih related'

end Agree

end Foundation
