import Mathlib.Algebra.Order.Ring.Rat
import Mathlib.Data.List.Nodup
import Mathlib.Data.List.Sort

/-!
# Rankings by a score with a tag to break ties

Items have a score, where more is better, and a tag, where less is better. `Outranks`
compares the scores first and the tags of items with equal scores. When the tags of a
list are pairwise distinct, there is exactly one way to put it in this order, so the
sorted list and its prefixes do not depend on the order of the list
(`insertionSort_eq_of_perm`).

`best?` is the item a left-to-right search for the minimum of the key keeps.
-/

set_option autoImplicit false

namespace Foundation

variable {α : Type}

/-! ## Sorting is blind to the order of its input -/

/-- **Sorting forgets the order of a list** on which the relation is antisymmetric. -/
theorem insertionSort_eq_of_perm {r : α → α → Prop} [DecidableRel r] [Std.Total r] [IsTrans α r]
    {items items' : List α} (perm : items.Perm items')
    (unique : ∀ a ∈ items, ∀ b ∈ items, r a b → r b a → a = b) :
    items.insertionSort r = items'.insertionSort r := by
  have sorted := List.perm_insertionSort r items
  have sorted' := List.perm_insertionSort r items'
  refine List.Perm.eq_of_pairwise ?_ (List.pairwise_insertionSort r items)
    (List.pairwise_insertionSort r items') (sorted.trans (perm.trans sorted'.symm))
  intro a b here there
  exact unique a (sorted.mem_iff.mp here) b (perm.mem_iff.mpr (sorted'.mem_iff.mp there))

/-- **The first item in an order.** A search through a sorted list finds the least of the items
that satisfy a predicate. -/
theorem find?_insertionSort_eq_some {r : α → α → Prop} [DecidableRel r] [Std.Total r]
    [IsTrans α r] {p : α → Bool} {items : List α} {a : α}
    (unique : ∀ a ∈ items, ∀ b ∈ items, p a = true → p b = true → r a b → r b a → a = b) :
    (items.insertionSort r).find? p = some a ↔
      a ∈ items ∧ p a = true ∧ ∀ b ∈ items, p b = true → r a b := by
  have inSorted : ∀ b, b ∈ items.insertionSort r ↔ b ∈ items := fun b =>
    (List.perm_insertionSort r items).mem_iff
  have least : ∀ c, (items.insertionSort r).find? p = some c →
      c ∈ items ∧ p c = true ∧ ∀ b ∈ items, p b = true → r c b := by
    intro c found
    obtain ⟨chosen, before, after, split, passed⟩ := List.find?_eq_some_iff_append.mp found
    refine ⟨(inSorted c).mp (List.mem_of_find?_eq_some found), chosen, fun b member takes => ?_⟩
    have sorted := List.pairwise_insertionSort r items
    rw [split, List.pairwise_append, List.pairwise_cons] at sorted
    have place := (inSorted b).mpr member
    rw [split, List.mem_append, List.mem_cons] at place
    rcases place with earlier | rfl | later
    · simpa [takes] using passed b earlier
    · exact (Std.Total.total b b : r b b ∨ r b b).elim id id
    · exact sorted.2.1.1 b later
  refine ⟨least a, fun ⟨member, chosen, first⟩ => ?_⟩
  cases found : (items.insertionSort r).find? p with
  | none =>
      have refused := List.find?_eq_none.mp found a ((inSorted a).mpr member)
      exact absurd chosen refused
  | some c =>
      obtain ⟨memberC, chosenC, firstC⟩ := least c found
      rw [unique a member c memberC chosen chosenC (first c memberC chosenC)
        (firstC a member chosen)]

/-- **The first item of a stable sort.** Sorting puts the earliest of the least items in front. -/
theorem head?_insertionSort_eq_some {r : α → α → Prop} [DecidableRel r] [Std.Total r]
    [IsTrans α r] {items : List α} {a : α} :
    (items.insertionSort r).head? = some a ↔
      ∃ earlier later, items = earlier ++ a :: later ∧ (∀ b ∈ earlier, ¬r b a) ∧
        ∀ b ∈ later, r a b := by
  induction items with
  | nil =>
      refine iff_of_false (by simp) ?_
      rintro ⟨earlier, later, split, -⟩
      exact absurd split.symm (List.append_ne_nil_of_right_ne_nil earlier (List.cons_ne_nil a later))
  | cons first items ih =>
      rw [List.insertionSort_cons]
      cases sorted : items.insertionSort r with
      | nil =>
          have empty : items = [] :=
            List.Perm.nil_eq (sorted ▸ List.perm_insertionSort r items) |>.symm
          subst empty
          constructor
          · rintro same
            obtain rfl : first = a := Option.some.inj same
            exact ⟨[], [], rfl, fun b member => absurd member List.not_mem_nil,
              fun b member => absurd member List.not_mem_nil⟩
          · rintro ⟨earlier, later, split, -⟩
            have one := List.append_eq_singleton_iff.mp split.symm
            rcases one with ⟨-, same⟩ | ⟨-, same⟩
            · rw [(List.cons.inj same).1]
              rfl
            · cases same
      | cons least rest =>
          rw [sorted, List.head?_cons, Option.some_inj] at ih
          have inRest : ∀ b, b ∈ items ↔ b ∈ least :: rest := fun b =>
            sorted ▸ (List.perm_insertionSort r items).mem_iff.symm
          have ordered := List.pairwise_insertionSort r items
          rw [sorted, List.pairwise_cons] at ordered
          have below : ∀ b ∈ items, r least b := by
            intro b member
            rcases List.mem_cons.mp ((inRest b).mp member) with rfl | later
            · exact (Std.Total.total b b : r b b ∨ r b b).elim id id
            · exact ordered.1 b later
          by_cases front : r first least
          · rw [List.orderedInsert_cons, if_pos front, List.head?_cons, Option.some_inj]
            constructor
            · rintro rfl
              exact ⟨[], items, rfl, fun b member => absurd member List.not_mem_nil,
                fun b member => IsTrans.trans _ _ _ front (below b member)⟩
            · rintro ⟨earlier, later, split, passed, -⟩
              cases earlier with
              | nil => exact (List.cons.inj split).1
              | cons b earlier =>
                  obtain ⟨rfl, rfl⟩ := List.cons.inj split
                  exact absurd (IsTrans.trans _ _ _ front (below a (by simp)))
                    (passed first List.mem_cons_self)
          · rw [List.orderedInsert_cons, if_neg front, List.head?_cons, Option.some_inj, ih]
            constructor
            · rintro ⟨earlier, later, split, passed, first⟩
              have same : least = a := ih.mpr ⟨earlier, later, split, passed, first⟩
              refine ⟨_ :: earlier, later, by rw [split]; rfl, ?_, first⟩
              intro b member
              rcases List.mem_cons.mp member with rfl | earlierToo
              · rwa [← same]
              · exact passed b earlierToo
            · rintro ⟨earlier, later, split, passed, first⟩
              cases earlier with
              | nil =>
                  obtain ⟨rfl, rfl⟩ := List.cons.inj split
                  exact absurd (first least ((inRest least).mpr List.mem_cons_self)) front
              | cons b earlier =>
                  obtain ⟨rfl, rfl⟩ := List.cons.inj split
                  exact ⟨earlier, later, rfl,
                    fun b member => passed b (List.mem_cons_of_mem _ member), first⟩

section Tags

variable {T : Type} [LE T] [Std.IsLinearOrder T]

instance total_of_tag (tag : α → T) : Std.Total fun a b : α => tag a ≤ tag b :=
  ⟨fun _ _ => Std.le_total⟩

instance trans_of_tag (tag : α → T) : IsTrans α fun a b : α => tag a ≤ tag b :=
  ⟨fun _ _ _ first second => Std.le_trans first second⟩

variable [DecidableLE T]

/-- Sorting by distinct tags forgets the order of a list. -/
theorem insertionSort_tag_eq_of_perm (tag : α → T) {items items' : List α}
    (perm : items.Perm items') (distinct : (items.map tag).Nodup) :
    (items.insertionSort fun a b => tag a ≤ tag b) =
      items'.insertionSort fun a b => tag a ≤ tag b := by
  refine insertionSort_eq_of_perm perm fun a here b there le ge => ?_
  exact List.inj_on_of_nodup_map distinct here there (Std.le_antisymm le ge)

variable [LT T] [Std.LawfulOrderLT T]

/-- A list sorted by distinct tags has increasing tags. -/
theorem pairwise_lt_insertionSort_tag (tag : α → T) {items : List α}
    (distinct : (items.map tag).Nodup) :
    ((items.insertionSort fun a b => tag a ≤ tag b).map tag).Pairwise (· < ·) := by
  have sorted := List.pairwise_insertionSort (fun a b => tag a ≤ tag b) items
  have apart : ((items.insertionSort fun a b => tag a ≤ tag b).map tag).Nodup :=
    ((List.perm_insertionSort _ items).map tag).nodup_iff.mpr distinct
  rw [List.pairwise_map]
  refine (sorted.and (List.pairwise_map.mp apart)).imp fun {a b} both => ?_
  exact Std.lt_of_le_of_ne both.1 both.2

end Tags

/-! ## Rankings -/

section Ranking

variable {S T : Type} [LinearOrder S] [LE T]
variable (score : α → S) (tag : α → T)

/-- The higher score first, and the smaller tag among equal scores. -/
def Outranks (a b : α) : Prop :=
  score b < score a ∨ (score a = score b ∧ tag a ≤ tag b)

instance [DecidableLE T] : DecidableRel (Outranks score tag) := fun _ _ =>
  inferInstanceAs (Decidable (_ ∨ _))

variable {score tag} [Std.IsLinearOrder T]

variable (score tag) in
theorem Outranks.total (a b : α) : Outranks score tag a b ∨ Outranks score tag b a := by
  rcases lt_trichotomy (score a) (score b) with less | same | more
  · exact .inr (.inl less)
  · rcases Std.le_total (a := tag a) (b := tag b) with le | ge
    · exact .inl (.inr ⟨same, le⟩)
    · exact .inr (.inr ⟨same.symm, ge⟩)
  · exact .inl (.inl more)

theorem Outranks.trans {a b c : α} (first : Outranks score tag a b)
    (second : Outranks score tag b c) : Outranks score tag a c := by
  rcases first with more | ⟨same, le⟩
  · rcases second with more' | ⟨same', -⟩
    · exact .inl (lt_trans more' more)
    · exact .inl (same' ▸ more)
  · rcases second with more' | ⟨same', le'⟩
    · exact .inl (same ▸ more')
    · exact .inr ⟨same.trans same', Std.le_trans le le'⟩

/-- Two items that outrank each other have one tag. -/
theorem Outranks.tag_eq {a b : α} (first : Outranks score tag a b)
    (second : Outranks score tag b a) : tag a = tag b := by
  rcases first with more | ⟨same, le⟩
  · rcases second with more' | ⟨same', -⟩
    · exact absurd more' (lt_asymm more)
    · exact absurd same' (ne_of_lt more)
  · rcases second with more' | ⟨-, ge⟩
    · exact absurd same (ne_of_lt more')
    · exact Std.le_antisymm le ge

instance Outranks.instTotal : Std.Total (Outranks score tag) := ⟨Outranks.total score tag⟩

instance Outranks.instTrans : IsTrans α (Outranks score tag) := ⟨fun _ _ _ => Outranks.trans⟩

variable (score tag) [LT T]

/-- The strict form of `Outranks`. -/
def Beats (a b : α) : Prop :=
  score b < score a ∨ (score a = score b ∧ tag a < tag b)

instance [DecidableLT T] : DecidableRel (Beats score tag) := fun _ _ =>
  inferInstanceAs (Decidable (_ ∨ _))

variable {score tag} [Std.LawfulOrderLT T]

/-- Of items with distinct tags one beats the other when it outranks it. -/
theorem Outranks.beats {a b : α} (ranks : Outranks score tag a b) (apart : tag a ≠ tag b) :
    Beats score tag a b := by
  rcases ranks with more | ⟨same, le⟩
  · exact .inl more
  · exact .inr ⟨same, Std.lt_of_le_of_ne le apart⟩

omit [Std.IsLinearOrder T] in
theorem Beats.outranks {a b : α} (beats : Beats score tag a b) : Outranks score tag a b := by
  rcases beats with more | ⟨same, less⟩
  · exact .inl more
  · exact .inr ⟨same, Std.le_of_lt less⟩

omit [Std.IsLinearOrder T] in
theorem Beats.irrefl (a : α) : ¬Beats score tag a a := by
  rintro (more | ⟨-, less⟩)
  · exact lt_irrefl _ more
  · exact Std.lt_irrefl less

omit [Std.IsLinearOrder T] in
theorem Beats.asymm {a b : α} (beats : Beats score tag a b) (beaten : Beats score tag b a) :
    False := by
  rcases beats with more | ⟨same, less⟩
  · rcases beaten with more' | ⟨same', -⟩
    · exact lt_asymm more more'
    · exact ne_of_lt more same'
  · rcases beaten with more' | ⟨-, less'⟩
    · exact ne_of_lt more' same
    · exact Std.not_le_of_gt less (Std.le_of_lt less')

omit [Std.IsLinearOrder T] in
/-- **There is one ranking of the same items.** -/
theorem eq_of_pairwise_beats {items items' : List α} (ranked : items.Pairwise (Beats score tag))
    (ranked' : items'.Pairwise (Beats score tag)) (same : ∀ a, a ∈ items ↔ a ∈ items') :
    items = items' := by
  have irrefl : Std.Irrefl (Beats score tag) := ⟨Beats.irrefl⟩
  have antisymm : Std.Antisymm (Beats score tag) :=
    ⟨fun _ _ beats beaten => (beats.asymm beaten).elim⟩
  exact ranked.eq_of_mem_iff ranked' same

/-- An item that does not beat another is outranked by it. -/
theorem outranks_of_not_beats {a b : α} (not_beats : ¬Beats score tag a b) :
    Outranks score tag b a := by
  rcases Outranks.total score tag a b with ranks | ranks
  · by_cases same : tag a = tag b
    · rcases ranks with more | ⟨equal, -⟩
      · exact absurd (.inl more) not_beats
      · exact .inr ⟨equal.symm, Std.le_of_eq same.symm⟩
    · exact absurd (ranks.beats same) not_beats
  · exact ranks

/-! ## The best item -/

variable (score tag) [DecidableLT T]

/-- The item of the best score, of the smallest tag among them, and the first of those. -/
def best? : List α → Option α
  | [] => none
  | a :: rest =>
      some (rest.foldl (fun held item => if Beats score tag item held then item else held) a)

variable {score tag}

theorem foldl_best (rest : List α) (a : α) :
    let held := rest.foldl (fun held item => if Beats score tag item held then item else held) a
    held ∈ a :: rest ∧ ∀ item ∈ a :: rest, Outranks score tag held item := by
  induction rest generalizing a with
  | nil => simp [Outranks, Std.le_refl]
  | cons b rest ih =>
      obtain ⟨there, ranks⟩ := ih (if Beats score tag b a then b else a)
      simp only [List.foldl_cons]
      refine ⟨?_, ?_⟩
      · rcases List.mem_cons.mp there with here | later
        · rw [here]
          by_cases beats : Beats score tag b a <;> simp [beats]
        · exact List.mem_cons_of_mem a (List.mem_cons_of_mem b later)
      · intro item present
        have kept := ranks _ List.mem_cons_self
        rcases List.mem_cons.mp present with rfl | rest'
        · refine kept.trans ?_
          by_cases beats : Beats score tag b item
          · simpa only [if_pos beats] using beats.outranks
          · rw [if_neg beats]
            exact .inr ⟨rfl, Std.le_refl _⟩
        · rcases List.mem_cons.mp rest' with rfl | later
          · refine kept.trans ?_
            by_cases beats : Beats score tag item a
            · rw [if_pos beats]
              exact .inr ⟨rfl, Std.le_refl _⟩
            · simpa only [if_neg beats] using outranks_of_not_beats beats
          · exact ranks item (List.mem_cons_of_mem _ later)

omit [LE T] [Std.IsLinearOrder T] [Std.LawfulOrderLT T] in
theorem best?_eq_none_iff {items : List α} : best? score tag items = none ↔ items = [] := by
  cases items <;> simp [best?]

/-- **The best item is one of the items and outranks them all.** -/
theorem best?_spec {items : List α} {item : α} (found : best? score tag items = some item) :
    item ∈ items ∧ ∀ other ∈ items, Outranks score tag item other := by
  cases items with
  | nil => cases found
  | cons a rest =>
      cases found
      exact foldl_best rest a

end Ranking

end Foundation
