import Mathlib.Data.List.Induction
import Mathlib.Order.Basic

/-!
# Runs of labelled transition systems

`Steps step s trace s'` is a run from `s` to `s'` whose labels, in order, are
`trace`. A run is grown at its end, so an induction on it has the state before
the last step and what that step did.

Two rules carry every safety argument: a predicate kept by each step is kept by
a run (`Steps.invariant`), and a reflexive transitive relation that holds across
each step taken inside an invariant holds across a run (`Steps.relate`).
-/

set_option autoImplicit false

namespace Foundation

universe u v

variable {State : Type u} {Label : Type v} {step : State → Label → State → Prop}

/-- The runs of a step relation, with the labels of their steps in order. -/
inductive Steps (step : State → Label → State → Prop) : State → List Label → State → Prop
  | refl (s : State) : Steps step s [] s
  | tail {s t u : State} {trace : List Label} {label : Label} :
      Steps step s trace t → step t label u → Steps step s (trace ++ [label]) u

namespace Steps

theorem single {s t : State} {label : Label} (taken : step s label t) :
    Steps step s [label] t :=
  .tail (.refl s) taken

theorem trans {s t u : State} {first second : List Label}
    (steps : Steps step s first t) (more : Steps step t second u) :
    Steps step s (first ++ second) u := by
  induction more with
  | refl => simpa using steps
  | tail _ taken ih =>
      rw [← List.append_assoc]
      exact .tail ih taken

/-- A predicate kept by every step is kept by every run. -/
theorem invariant {I : State → Prop}
    (keeps : ∀ s label t, I s → step s label t → I t)
    {s t : State} {trace : List Label} (steps : Steps step s trace t) (start : I s) : I t := by
  induction steps with
  | refl => exact start
  | tail _ taken ih => exact keeps _ _ _ ih taken

/-- A reflexive transitive relation that holds across every step taken inside an
invariant holds across every run that starts inside it. -/
theorem relate {I : State → Prop} {R : State → State → Prop}
    (keeps : ∀ s label t, I s → step s label t → I t)
    (refl : ∀ s, R s s) (trans : ∀ s t u, R s t → R t u → R s u)
    (across : ∀ s label t, I s → step s label t → R s t)
    {s t : State} {trace : List Label} (steps : Steps step s trace t) (start : I s) :
    R s t := by
  induction steps with
  | refl => exact refl _
  | tail before taken ih =>
      exact trans _ _ _ ih (across _ _ _ (before.invariant keeps start) taken)

/-- Runs of a relation are runs of any relation that includes it. -/
theorem mono {step' : State → Label → State → Prop}
    (sub : ∀ s label t, step s label t → step' s label t)
    {s t : State} {trace : List Label} (steps : Steps step s trace t) :
    Steps step' s trace t := by
  induction steps with
  | refl => exact .refl _
  | tail _ taken ih => exact .tail ih (sub _ _ _ taken)

/-- A machine that performs a list of labels one after the other takes a run. -/
theorem of_foldlM {perform : State → Label → Option State} {trace : List Label} {s s' : State}
    (performed : trace.foldlM perform s = some s') :
    Steps (fun s label s' => perform s label = some s') s trace s' := by
  induction trace using List.reverseRecOn generalizing s' with
  | nil =>
      cases performed
      exact .refl s
  | append_singleton trace label ih =>
      rw [List.foldlM_append] at performed
      obtain ⟨t, before, last⟩ := Option.bind_eq_some_iff.mp performed
      refine .tail (ih before) ?_
      simpa using last

end Steps

end Foundation
