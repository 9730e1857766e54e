import Mathlib.Data.List.Lex
import Mathlib.Data.List.Sort

/-!
# Forests with names

A forest is a list of entries with names: leaves with a label, and branches with a forest of their
own. Its meaning is what it has at each path (`Forest.lookup`), which does not depend on the order
of the entries.

A traversal visits the entries in the order of their names, a branch before its own entries
(`Forest.records`). In a forest with distinct names it visits every path once, in the
lexicographic order of paths, so two forests with one meaning have the same traversal
(`records_eq_iff`).
-/

set_option autoImplicit false

namespace Foundation

/-- A list of entries with names. -/
inductive Forest (N L : Type) where
  | nil
  | leaf (name : N) (label : L) (rest : Forest N L)
  | branch (name : N) (entries rest : Forest N L)

/-- What stands at a path. -/
inductive ForestItem (L : Type) where
  | leaf (label : L)
  | branch
  deriving DecidableEq, Repr

namespace Forest

variable {N L : Type}

/-- The names of the entries. -/
def names : Forest N L → List N
  | .nil => []
  | .leaf name _ rest => name :: rest.names
  | .branch name _ rest => name :: rest.names

/-- The names of the entries of a branch are distinct, at every level. -/
def Distinct : Forest N L → Prop
  | .nil => True
  | .leaf name _ rest => name ∉ rest.names ∧ rest.Distinct
  | .branch name entries rest => name ∉ rest.names ∧ entries.Distinct ∧ rest.Distinct

theorem Distinct.names_nodup {forest : Forest N L} (distinct : forest.Distinct) :
    forest.names.Nodup := by
  induction forest with
  | nil => exact List.nodup_nil
  | leaf name label rest ih => exact List.nodup_cons.mpr ⟨distinct.1, ih distinct.2⟩
  | branch name entries rest _ ih => exact List.nodup_cons.mpr ⟨distinct.1, ih distinct.2.2⟩

section Lookup

variable [DecidableEq N]

/-- What stands at a path of names. -/
def lookup : Forest N L → List N → Option (ForestItem L)
  | _, [] => none
  | .nil, _ :: _ => none
  | .leaf name label rest, first :: path =>
      if name = first then (if path = [] then some (.leaf label) else none)
      else rest.lookup (first :: path)
  | .branch name entries rest, first :: path =>
      if name = first then (if path = [] then some .branch else entries.lookup path)
      else rest.lookup (first :: path)

/-- The forest without the entries of a name. -/
def without (name : N) : Forest N L → Forest N L
  | .nil => .nil
  | .leaf other label rest =>
      if other = name then rest.without name else .leaf other label (rest.without name)
  | .branch other entries rest =>
      if other = name then rest.without name else .branch other entries (rest.without name)

@[simp] theorem lookup_path_nil (forest : Forest N L) : forest.lookup [] = none := by
  cases forest <;> rfl

/-- A path that leads somewhere starts with one of the names. -/
theorem mem_names_of_lookup {forest : Forest N L} {first : N} {path : List N}
    {item : ForestItem L} (found : forest.lookup (first :: path) = some item) :
    first ∈ forest.names := by
  induction forest with
  | nil => cases found
  | leaf name label rest ih =>
      rw [lookup] at found
      split at found
      · rename_i here
        exact here ▸ List.mem_cons_self
      · exact List.mem_cons_of_mem _ (ih found)
  | branch name entries rest _ ih =>
      rw [lookup] at found
      split at found
      · rename_i here
        exact here ▸ List.mem_cons_self
      · exact List.mem_cons_of_mem _ (ih found)

theorem mem_names_without {forest : Forest N L} {name other : N} :
    other ∈ (forest.without name).names ↔ other ∈ forest.names ∧ other ≠ name := by
  induction forest with
  | nil => simp [without, names]
  | leaf entry label rest ih =>
      rw [without]
      split
      · rename_i here
        subst here
        rw [ih, names, List.mem_cons]
        tauto
      · rw [names, names, List.mem_cons, List.mem_cons, ih]
        constructor
        · rintro (rfl | ⟨later, different⟩)
          · exact ⟨.inl rfl, by assumption⟩
          · exact ⟨.inr later, different⟩
        · rintro ⟨rfl | later, different⟩
          · exact .inl rfl
          · exact .inr ⟨later, different⟩
  | branch entry entries rest _ ih =>
      rw [without]
      split
      · rename_i here
        subst here
        rw [ih, names, List.mem_cons]
        tauto
      · rw [names, names, List.mem_cons, List.mem_cons, ih]
        constructor
        · rintro (rfl | ⟨later, different⟩)
          · exact ⟨.inl rfl, by assumption⟩
          · exact ⟨.inr later, different⟩
        · rintro ⟨rfl | later, different⟩
          · exact .inl rfl
          · exact .inr ⟨later, different⟩

/-- Entries of a name can be left out. -/
theorem Distinct.without {forest : Forest N L} (distinct : forest.Distinct) (name : N) :
    (forest.without name).Distinct := by
  induction forest with
  | nil => trivial
  | leaf entry label rest ih =>
      obtain ⟨fresh, others⟩ := distinct
      rw [Forest.without]
      split
      · exact ih others
      · exact ⟨fun again => fresh (mem_names_without.mp again).1, ih others⟩
  | branch entry entries rest _ ih =>
      obtain ⟨fresh, inner, others⟩ := distinct
      rw [Forest.without]
      split
      · exact ih others
      · exact ⟨fun again => fresh (mem_names_without.mp again).1, inner, ih others⟩

/-- Without the entries of a name, only the paths through that name are gone. -/
theorem lookup_without {forest : Forest N L} {name first : N} {path : List N} :
    (forest.without name).lookup (first :: path) =
      if first = name then none else forest.lookup (first :: path) := by
  induction forest with
  | nil => simp [without, lookup]
  | leaf entry label rest ih =>
      rw [without]
      by_cases gone : entry = name
      · rw [if_pos gone, ih, lookup]
        split
        · rfl
        · rename_i other
          rw [if_neg fun here : entry = first => other (here.symm.trans gone)]
      · rw [if_neg gone, lookup, lookup, ih]
        by_cases here : entry = first
        · rw [if_pos here, if_pos here, if_neg fun same => gone (here.trans same)]
        · rw [if_neg here, if_neg here]
  | branch entry entries rest _ ih =>
      rw [without]
      by_cases gone : entry = name
      · rw [if_pos gone, ih, lookup]
        split
        · rfl
        · rename_i other
          rw [if_neg fun here : entry = first => other (here.symm.trans gone)]
      · rw [if_neg gone, lookup, lookup, ih]
        by_cases here : entry = first
        · rw [if_pos here, if_pos here, if_neg fun same => gone (here.trans same)]
        · rw [if_neg here, if_neg here]

end Lookup

/-! ## The order of the entries -/

/-- An entry: a leaf with its label or a branch with its entries. -/
def cons (name : N) : L ⊕ Forest N L → Forest N L → Forest N L
  | .inl label, rest => .leaf name label rest
  | .inr entries, rest => .branch name entries rest

/-- The same entries in another order, at every level. -/
inductive Relisted : Forest N L → Forest N L → Prop
  | refl (forest : Forest N L) : Relisted forest forest
  | trans {forest middle other : Forest N L} (first : Relisted forest middle)
      (second : Relisted middle other) : Relisted forest other
  | leaf (name : N) (label : L) {rest rest' : Forest N L} (others : Relisted rest rest') :
      Relisted (.leaf name label rest) (.leaf name label rest')
  | branch (name : N) {entries entries' rest rest' : Forest N L}
      (inner : Relisted entries entries') (others : Relisted rest rest') :
      Relisted (.branch name entries rest) (.branch name entries' rest')
  | swap (name name' : N) (item item' : L ⊕ Forest N L) (rest : Forest N L) :
      Relisted (cons name item (cons name' item' rest)) (cons name' item' (cons name item rest))

theorem names_cons (name : N) (item : L ⊕ Forest N L) (rest : Forest N L) :
    (cons name item rest).names = name :: rest.names := by
  cases item <;> rfl

theorem Distinct.of_cons {name : N} {item : L ⊕ Forest N L} {rest : Forest N L}
    (distinct : (cons name item rest).Distinct) : name ∉ rest.names ∧ rest.Distinct := by
  cases item with
  | inl label => exact distinct
  | inr entries => exact ⟨distinct.1, distinct.2.2⟩

theorem Relisted.names_perm {forest other : Forest N L} (relisted : forest.Relisted other) :
    forest.names.Perm other.names := by
  induction relisted with
  | refl forest => exact .refl _
  | trans _ _ first second => exact first.trans second
  | leaf name _ _ ih => exact ih.cons name
  | branch name _ _ _ ih => exact ih.cons name
  | swap name name' item item' rest =>
      simp only [names_cons]
      exact .swap name' name rest.names

theorem Relisted.distinct {forest other : Forest N L} (relisted : forest.Relisted other) :
    forest.Distinct → other.Distinct := by
  induction relisted with
  | refl forest => exact id
  | trans _ _ first second => exact fun distinct => second (first distinct)
  | leaf name label others ih =>
      rintro ⟨fresh, distinct⟩
      exact ⟨fun again => fresh (others.names_perm.mem_iff.mpr again), ih distinct⟩
  | branch name inner others inside ih =>
      rintro ⟨fresh, below, distinct⟩
      exact ⟨fun again => fresh (others.names_perm.mem_iff.mpr again), inside below, ih distinct⟩
  | swap name name' item item' rest =>
      intro distinct
      obtain ⟨fresh, distinct'⟩ := distinct.of_cons
      obtain ⟨fresh', -⟩ := distinct'.of_cons
      rw [names_cons, List.mem_cons, not_or] at fresh
      have apart : name' ∉ (cons name item rest).names := by
        rw [names_cons, List.mem_cons, not_or]
        exact ⟨fun same => fresh.1 same.symm, fresh'⟩
      cases item <;> cases item' <;> simp_all [cons, Distinct, names]

/-- **The order of the entries does not matter**: a forest keeps its meaning. -/
theorem Relisted.lookup_eq [DecidableEq N] {forest other : Forest N L}
    (relisted : forest.Relisted other) : forest.Distinct → ∀ path,
      forest.lookup path = other.lookup path := by
  induction relisted with
  | refl forest => exact fun _ _ => rfl
  | trans first _ ih ih' =>
      exact fun distinct path => (ih distinct path).trans (ih' (first.distinct distinct) path)
  | leaf name label _ ih =>
      rintro ⟨-, distinct⟩ (_ | ⟨first, path⟩)
      · simp
      · rw [lookup, lookup, ih distinct]
  | branch name _ _ inside ih =>
      rintro ⟨-, below, distinct⟩ (_ | ⟨first, path⟩)
      · simp
      · rw [lookup, lookup, ih distinct, inside below]
  | swap name name' item item' rest =>
      rintro distinct (_ | ⟨first, path⟩)
      · simp
      · have apart : name ≠ name' := by
          rintro rfl
          exact distinct.of_cons.1 (by rw [names_cons]; exact List.mem_cons_self)
        have step : ∀ (name : N) (item : L ⊕ Forest N L) (rest : Forest N L),
            (cons name item rest).lookup (first :: path) =
              if name = first then (cons name item .nil).lookup (first :: path)
              else rest.lookup (first :: path) := by
          intro name item rest
          cases item <;> rw [cons, cons, lookup, lookup] <;> split <;> simp_all
        rw [step name item (cons name' item' rest), step name' item' rest,
          step name' item' (cons name item rest), step name item rest]
        by_cases here : name = first
        · rw [if_pos here, if_pos here, if_neg fun there => apart (here.trans there.symm)]
        · rw [if_neg here, if_neg here]

/-! ## Traversal -/

section Traversal

variable [LinearOrder N]

/-- The order of entries by their names. -/
def byName {β : Type} (entry other : N × β) : Prop := entry.1 ≤ other.1

instance {β : Type} : DecidableRel (byName : N × β → N × β → Prop) := fun entry other =>
  inferInstanceAs (Decidable (entry.1 ≤ other.1))

instance {β : Type} : Std.Total (byName : N × β → N × β → Prop) :=
  ⟨fun entry other => le_total entry.1 other.1⟩

instance {β : Type} : IsTrans (N × β) byName :=
  ⟨fun _ _ _ first second => le_trans (α := N) first second⟩

/-- What is visited at each entry below a path. -/
def visits (path : List N) : Forest N L → List (N × List (List N × ForestItem L))
  | .nil => []
  | .leaf name label rest => (name, [(path ++ [name], .leaf label)]) :: rest.visits path
  | .branch name entries rest =>
      (name, (path ++ [name], .branch) ::
        ((entries.visits (path ++ [name])).insertionSort byName).flatMap Prod.snd) ::
          rest.visits path

/-- The traversal below a path, in the order of the names. -/
def records (path : List N) (forest : Forest N L) : List (List N × ForestItem L) :=
  ((forest.visits path).insertionSort byName).flatMap Prod.snd

theorem visits_branch (path : List N) (name : N) (entries rest : Forest N L) :
    (Forest.branch name entries rest).visits path =
      (name, (path ++ [name], .branch) :: entries.records (path ++ [name])) ::
        rest.visits path := rfl

theorem map_fst_visits (path : List N) (forest : Forest N L) :
    (forest.visits path).map Prod.fst = forest.names := by
  induction forest with
  | nil => rfl
  | leaf name label rest ih => rw [visits, List.map_cons, ih, names]
  | branch name entries rest _ ih => rw [visits, List.map_cons, ih, names]

theorem mem_records {path : List N} {forest : Forest N L} {record : List N × ForestItem L} :
    record ∈ forest.records path ↔ ∃ visit ∈ forest.visits path, record ∈ visit.2 := by
  simp only [records, List.mem_flatMap, (List.perm_insertionSort byName _).mem_iff]

section Meaning

variable [DecidableEq N]

/-- **What a traversal visits**: the paths of the forest, with what stands there. -/
theorem mem_records_iff {forest : Forest N L} : forest.Distinct → ∀ {path : List N}
    {record : List N × ForestItem L}, record ∈ forest.records path ↔
      ∃ inner, record.1 = path ++ inner ∧ forest.lookup inner = some record.2 := by
  induction forest with
  | nil =>
      intro _ path record
      simp only [mem_records, visits, List.not_mem_nil, false_and, exists_false, false_iff,
        not_exists, not_and]
      intro inner _
      cases inner <;> simp [lookup]
  | leaf name label rest ih =>
      rintro ⟨fresh, others⟩ path record
      rw [mem_records, visits, List.exists_mem_cons_iff, List.mem_singleton, ← mem_records,
        ih others]
      constructor
      · rintro (rfl | ⟨inner, here, found⟩)
        · exact ⟨[name], rfl, by simp [lookup]⟩
        · refine ⟨inner, here, ?_⟩
          cases inner with
          | nil => simp at found
          | cons first inner =>
              have different : name ≠ first := by
                rintro rfl
                exact fresh (mem_names_of_lookup found)
              rw [lookup, if_neg different, found]
      · rintro ⟨inner, here, found⟩
        cases inner with
        | nil => simp at found
        | cons first inner =>
            rw [lookup] at found
            split at found
            · rename_i same
              split at found
              · rename_i single
                subst same single
                exact .inl (Prod.ext here (Option.some.inj found).symm)
              · cases found
            · exact .inr ⟨first :: inner, here, found⟩
  | branch name entries rest inside ih =>
      rintro ⟨fresh, distinct, others⟩ path record
      rw [mem_records, visits_branch, List.exists_mem_cons_iff, ← mem_records, ih others,
        List.mem_cons, inside distinct]
      constructor
      · rintro ((rfl | ⟨inner, here, found⟩) | ⟨inner, here, found⟩)
        · exact ⟨[name], rfl, by simp [lookup]⟩
        · refine ⟨name :: inner, by rw [here]; simp, ?_⟩
          cases inner with
          | nil => simp at found
          | cons first inner => simp [lookup, found]
        · refine ⟨inner, here, ?_⟩
          cases inner with
          | nil => simp at found
          | cons first inner =>
              have different : name ≠ first := by
                rintro rfl
                exact fresh (mem_names_of_lookup found)
              rw [lookup, if_neg different, found]
      · rintro ⟨inner, here, found⟩
        cases inner with
        | nil => simp at found
        | cons first inner =>
            rw [lookup] at found
            split at found
            · rename_i same
              subst same
              split at found
              · rename_i single
                subst single
                exact .inl (.inl (Prod.ext here (Option.some.inj found).symm))
              · exact .inl (.inr ⟨inner, by rw [here]; simp, found⟩)
            · exact .inr ⟨first :: inner, here, found⟩

end Meaning

/-! ## The order of a traversal -/

/-- The records of an entry: in order, and of paths through its name. -/
def InOrder (path : List N) (visit : N × List (List N × ForestItem L)) : Prop :=
  visit.2.Pairwise (fun record other => record.1 < other.1) ∧
    ∀ record ∈ visit.2, ∃ inner, record.1 = path ++ visit.1 :: inner

/-- Entries in the order of their names are visited in the order of their paths. -/
theorem records_pairwise {forest : Forest N L} {path : List N} (distinct : forest.Distinct)
    (visits : ∀ visit ∈ forest.visits path, InOrder path visit) :
    (forest.records path).Pairwise fun record other => record.1 < other.1 := by
  have perm := List.perm_insertionSort byName (forest.visits path)
  have apart : ((forest.visits path).insertionSort byName).Pairwise fun visit other =>
      visit.1 ≠ other.1 := by
    have names : (((forest.visits path).insertionSort byName).map Prod.fst).Nodup := by
      rw [(perm.map Prod.fst).nodup_iff, map_fst_visits]
      exact distinct.names_nodup
    exact List.pairwise_map.mp names
  refine List.pairwise_flatMap.mpr ⟨fun visit member => ?_, ?_⟩
  · exact (visits visit (perm.mem_iff.mp member)).1
  · refine List.Pairwise.imp_of_mem ?_
      ((List.pairwise_insertionSort byName (forest.visits path)).and apart)
    rintro visit other here there ⟨ordered, different⟩ record inVisit record' inOther
    obtain ⟨inner, start⟩ := (visits visit (perm.mem_iff.mp here)).2 record inVisit
    obtain ⟨inner', start'⟩ := (visits other (perm.mem_iff.mp there)).2 record' inOther
    rw [start, start']
    exact List.append_left_lt (List.Lex.rel (lt_of_le_of_ne ordered different))

theorem visits_inOrder [DecidableEq N] {forest : Forest N L} : forest.Distinct → ∀ {path : List N},
    ∀ visit ∈ forest.visits path, InOrder path visit := by
  induction forest with
  | nil => exact fun _ _ _ member => absurd member List.not_mem_nil
  | leaf name label rest ih =>
      rintro ⟨-, others⟩ path
      refine List.forall_mem_cons.mpr ⟨⟨List.pairwise_singleton _ _, ?_⟩, ih others⟩
      intro record member
      obtain rfl := List.mem_singleton.mp member
      exact ⟨[], rfl⟩
  | branch name entries rest inside ih =>
      rintro ⟨-, distinct, others⟩ path
      rw [visits_branch]
      -- what is below a branch comes after it
      have below : ∀ record ∈ entries.records (path ++ [name]), ∃ first inner,
          record.1 = path ++ name :: first :: inner := by
        intro record member
        obtain ⟨inner, here, found⟩ := (mem_records_iff distinct).mp member
        cases inner with
        | nil => simp at found
        | cons first inner => exact ⟨first, inner, by rw [here]; simp⟩
      refine List.forall_mem_cons.mpr ⟨⟨List.pairwise_cons.mpr ⟨?_, ?_⟩, ?_⟩, ih others⟩
      · intro record member
        obtain ⟨first, inner, here⟩ := below record member
        rw [here]
        exact List.append_left_lt (List.cons_lt_cons_iff.mpr
          (.inr ⟨rfl, List.nil_lt_cons first inner⟩))
      · exact records_pairwise distinct (inside distinct)
      · refine List.forall_mem_cons.mpr ⟨⟨[], rfl⟩, fun record member => ?_⟩
        obtain ⟨first, inner, here⟩ := below record member
        exact ⟨first :: inner, here⟩

/-- **A traversal goes through the paths in order.** -/
theorem records_sorted [DecidableEq N] {forest : Forest N L} (distinct : forest.Distinct) (path : List N) :
    (forest.records path).Pairwise fun record other => record.1 < other.1 :=
  records_pairwise distinct (visits_inOrder distinct)

/-- **Forests with one meaning have the same traversal**, and only these. -/
theorem records_eq_iff [DecidableEq N] {forest other : Forest N L} (distinct : forest.Distinct)
    (distinct' : other.Distinct) :
    forest.records [] = other.records [] ↔ ∀ path, forest.lookup path = other.lookup path := by
  have member : ∀ {forest : Forest N L}, forest.Distinct → ∀ path item,
      (path, item) ∈ forest.records [] ↔ forest.lookup path = some item := by
    intro forest distinct path item
    rw [mem_records_iff distinct]
    constructor
    · rintro ⟨inner, here, found⟩
      rw [List.nil_append] at here
      obtain rfl := here
      exact found
    · exact fun found => ⟨path, rfl, found⟩
  constructor
  · intro same path
    refine Option.ext fun item => ?_
    rw [← member distinct, ← member distinct', same]
  · intro same
    have sorted := records_sorted distinct []
    have sorted' := records_sorted distinct' []
    have nodup : ∀ {records : List (List N × ForestItem L)},
        (records.Pairwise fun record other => record.1 < other.1) → records.Nodup := by
      intro records sorted
      refine sorted.imp ?_
      rintro record _ before rfl
      exact lt_irrefl _ before
    refine List.Perm.eq_of_pairwise (fun record record' _ _ before after => ?_) sorted sorted'
      ((List.perm_ext_iff_of_nodup (nodup sorted) (nodup sorted')).mpr ?_)
    · exact absurd before (lt_asymm after)
    · rintro ⟨path, item⟩
      rw [member distinct, member distinct', same]

end Traversal

end Forest

end Foundation
