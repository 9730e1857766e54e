import HcuAutoOpt.Foundation.KeyedTable

/-!
# Tables whose rows advance

A table advances to another when every row of it has a later row there (`Table.Advances`). What
a later row is, is a relation: one that is reflexive and transitive makes tables advance along
every sequence of insertions and of rewrites that take rows to later ones. Rows that only move forward while they are open have such
a relation (`forward_trans`).
-/

set_option autoImplicit false

namespace Foundation

/-- A row that only moves while it is open, to a stage not before and to a higher version, has
done so also after two moves. -/
theorem forward_trans {Row : Type} (isOpen : Row → Prop) (stage version : Row → Nat)
    {first second third : Row}
    (later : second = first ∨ isOpen first ∧ stage first ≤ stage second ∧
      version first < version second)
    (later' : third = second ∨ isOpen second ∧ stage second ≤ stage third ∧
      version second < version third) :
    third = first ∨ isOpen first ∧ stage first ≤ stage third ∧ version first < version third := by
  rcases later' with rfl | ⟨open', stage', version'⟩
  · exact later
  · rcases later with rfl | ⟨isOpen, stage, version⟩
    · exact .inr ⟨open', stage', version'⟩
    · exact .inr ⟨isOpen, stage.trans stage', version.trans version'⟩

namespace Table

variable {Row : Type} {Key : Type} [Keyed Row Key] {Later : Row → Row → Prop}

/-- Every row has a later row in the other table. -/
def Advances (Later : Row → Row → Prop) (t t' : Table Row) : Prop :=
  ∀ row ∈ t, ∃ later ∈ t', Later row later

theorem Advances.refl (refl : ∀ row, Later row row) (t : Table Row) : t.Advances Later t :=
  fun row member => ⟨row, member, refl row⟩

theorem Advances.trans {t t' t'' : Table Row}
    (trans : ∀ {first second third}, Later first second → Later second third → Later first third)
    (first : t.Advances Later t') (second : t'.Advances Later t'') : t.Advances Later t'' := by
  intro row member
  obtain ⟨next, inNext, later⟩ := first row member
  obtain ⟨last, inLast, later'⟩ := second next inNext
  exact ⟨last, inLast, trans later later'⟩

variable [DecidableEq Key]

/-- An insertion changes no row. -/
theorem advances_insertIfAbsent (refl : ∀ row, Later row row) (t : Table Row) (row : Row) :
    t.Advances Later (t.insertIfAbsent row) :=
  fun other member => ⟨other, mem_insertIfAbsent.mpr (.inl member), refl other⟩

/-- A rewrite takes one row to a later one. -/
theorem advances_update (refl : ∀ row, Later row row) {t : Table Row} {k : Key} {f : Row → Row}
    [KeepsKey f] (moves : ∀ row, t.find? k = some row → Later row (f row)) :
    t.Advances Later (t.update k f) := by
  intro row member
  refine ⟨_, mem_update.mpr ⟨row, member, rfl⟩, ?_⟩
  split
  · rename_i here
    exact moves row (here ▸ find?_of_mem member)
  · exact refl row

end Table

end Foundation
