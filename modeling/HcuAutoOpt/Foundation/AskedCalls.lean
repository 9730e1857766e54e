import HcuAutoOpt.Foundation.Raising

/-!
# Code that calls its surroundings

Code whose state is the list of the calls that it made, with what was answered. An answer is any
function of the calls made before, so that the surroundings may behave in any way (`asking`).

`Adds x R` says what the code adds to the list and how it ends. `Within P x Q` is the case in
which all calls are of one kind and a value that is returned has a property; it has a rule for
each way to put code together. `Decides P passes x` is the case in which the code ends with a
value exactly when all its calls pass. `finallyDo` is `try ... finally`, and `catching` is
`try ... except`. Calls get resources that later calls have to free (`Freed`).
-/

set_option autoImplicit false

namespace Foundation

namespace Raising

variable {ε ι α β : Type}

/-- A call that the surroundings answer, and that is put on record. -/
def asking (answer : List ι → Except ε α) (event : Except ε α → ι) : Raising ε (List ι) α :=
  fun past => (answer past, past ++ [event (answer past)])

/-- `try: body finally: last`. An error of the last part replaces one of the body. -/
def finallyDo {σ : Type} (body : Raising ε σ α) (last : Raising ε σ β) : Raising ε σ (α × β) :=
  fun s =>
    match last (body s).2 with
    | (.error e, t) => (.error e, t)
    | (.ok b, t) => ((body s).1.map fun a => (a, b), t)

/-- `try: body`, before code that goes on however the body ended. -/
def catching {σ : Type} (body : Raising ε σ α) : Raising ε σ (Except ε α) :=
  fun s => (.ok (body s).1, (body s).2)

/-- Code without calls that ends in a given way. -/
def ending {σ : Type} (ended : Except ε α) : Raising ε σ α :=
  fun s => (ended, s)

/-! ## What code adds -/

/-- Whatever was on record, the code adds calls that fit how it ends. -/
def Adds (x : Raising ε (List ι) α) (R : Except ε α → List ι → Prop) : Prop :=
  ∀ past, ∃ added, (x.run past).2 = past ++ added ∧ R (x.run past).1 added

section Adds

variable {x : Raising ε (List ι) α} {f : α → Raising ε (List ι) β}
variable {R R' : Except ε α → List ι → Prop} {S : α → Except ε β → List ι → Prop}

theorem Adds.mono (adds : Adds x R) (weaker : ∀ result added, R result added → R' result added) :
    Adds x R' := by
  intro past
  obtain ⟨added, record, fits⟩ := adds past
  exact ⟨added, record, weaker _ _ fits⟩

theorem adds_pure (a : α) :
    Adds (pure a : Raising ε (List ι) α) fun result added => result = .ok a ∧ added = [] :=
  fun past => ⟨[], (List.append_nil past).symm, rfl, rfl⟩

theorem adds_raise (e : ε) :
    Adds (raise e : Raising ε (List ι) α) fun result added => result = .error e ∧ added = [] :=
  fun past => ⟨[], (List.append_nil past).symm, rfl, rfl⟩

theorem adds_ending (ended : Except ε α) :
    Adds (ending ended : Raising ε (List ι) α) fun result added => result = ended ∧ added = [] :=
  fun past => ⟨[], (List.append_nil past).symm, rfl, rfl⟩

theorem adds_asking (answer : List ι → Except ε α) (event : Except ε α → ι) :
    Adds (asking answer event) fun result added => added = [event result] :=
  fun _ => ⟨_, rfl, rfl⟩

/-- A sequence adds what its first part adds, and, after a value, what its second part adds. -/
theorem Adds.bind (first : Adds x R) (rest : ∀ a added, R (.ok a) added → Adds (f a) (S a)) :
    Adds (x >>= f) fun result added =>
      (∃ e, result = .error e ∧ R (.error e) added) ∨
        ∃ a before after, added = before ++ after ∧ R (.ok a) before ∧ S a result after := by
  intro past
  obtain ⟨before, record, fits⟩ := first past
  rcases ran : x.run past with ⟨e | a, s⟩
  · rw [ran] at record fits
    refine ⟨before, ?_, .inl ⟨e, ?_, fits⟩⟩
    · rw [run_bind_of_error ran]
      exact record
    · rw [run_bind_of_error ran]
  · rw [ran] at record fits
    obtain rfl : s = past ++ before := record
    obtain ⟨after, recordAfter, fitsAfter⟩ := rest a before fits (past ++ before)
    rw [run_bind_of_ok ran]
    exact ⟨before ++ after, by rw [recordAfter, List.append_assoc], .inr
      ⟨a, before, after, rfl, fits, fitsAfter⟩⟩

/-- The last part of `try ... finally` follows the body, however that ends. -/
theorem Adds.finallyDo {last : Raising ε (List ι) β} {L : Except ε β → List ι → Prop}
    (body : Adds x R) (final : Adds last L) :
    Adds (finallyDo x last) fun result added =>
      ∃ before after ended closed, added = before ++ after ∧ R ended before ∧ L closed after ∧
        result = closed.bind fun b => ended.map fun a => (a, b) := by
  intro past
  obtain ⟨before, record, fits⟩ := body past
  obtain ⟨after, recordAfter, fitsAfter⟩ := final (past ++ before)
  have runs : (Raising.finallyDo x last).run past =
      ((last.run (past ++ before)).1.bind fun b => (x.run past).1.map fun a => (a, b),
        (last.run (past ++ before)).2) := by
    have unfolded : (Raising.finallyDo x last).run past = Raising.finallyDo x last past := rfl
    have reached : (x past).2 = past ++ before := record
    rw [unfolded, Raising.finallyDo, reached]
    rcases ends : last (past ++ before) with ⟨e | b, t⟩ <;> simp only [run, ends] <;> rfl
  rw [runs]
  exact ⟨before ++ after, by rw [recordAfter, List.append_assoc], before, after, _, _, rfl, fits,
    fitsAfter, rfl⟩

/-- Code behind a part that never raises. -/
theorem Adds.bind_ok {R : α → List ι → Prop}
    (first : Adds x fun result added => ∃ a, result = .ok a ∧ R a added)
    (rest : ∀ a added, R a added → Adds (f a) (S a)) :
    Adds (x >>= f) fun result added =>
      ∃ a before after, added = before ++ after ∧ R a before ∧ S a result after := by
  refine (Adds.bind (f := f) (S := S) first fun a added ⟨ended, same, fits⟩ => ?_).mono ?_
  · cases same
    exact rest a added fits
  · rintro result added (⟨e, -, ended, same, -⟩ |
      ⟨a, before, after, rfl, ⟨ended, same, fits⟩, more⟩)
    · cases same
    · obtain rfl := Except.ok.inj same
      exact ⟨a, before, after, rfl, fits, more⟩

/-- What follows `try ... except` knows how the body ended. -/
theorem Adds.catching (adds : Adds x R) :
    Adds (catching x) fun result added => ∃ ended, result = .ok ended ∧ R ended added := by
  intro past
  obtain ⟨added, record, fits⟩ := adds past
  exact ⟨added, record, _, rfl, fits⟩

/-- Code that starts with a call. -/
theorem adds_asking_bind {answer : List ι → Except ε α} {event : Except ε α → ι}
    {T : Except ε β → List ι → Prop} (raised : ∀ e, T (.error e) [event (.error e)])
    (rest : ∀ a, Adds (f a) fun result added => T result (event (.ok a) :: added)) :
    Adds (asking answer event >>= f) T := by
  refine (Adds.bind (f := f) (adds_asking answer event) fun a _ _ => rest a).mono ?_
  rintro result added (⟨e, rfl, rfl⟩ | ⟨a, before, after, rfl, rfl, holds⟩)
  · exact raised e
  · exact holds

/-- Code that starts with a check. -/
theorem adds_raiseIf_bind {bad : Prop} [Decidable bad] {e : ε} {f : Unit → Raising ε (List ι) β}
    {T : Except ε β → List ι → Prop} (raised : bad → T (.error e) [])
    (rest : ¬bad → Adds (f ()) T) : Adds (raiseIf bad e >>= f) T := by
  intro past
  by_cases fails : bad
  · refine ⟨[], ?_, ?_⟩ <;> simp only [raiseIf, fails, if_true]
    · exact (List.append_nil past).symm
    · exact raised fails
  · obtain ⟨added, record, holds⟩ := rest fails past
    refine ⟨added, ?_, ?_⟩ <;> simp only [raiseIf, fails, if_false]
    · exact record
    · exact holds

end Adds

/-! ## Calls of one kind -/

/-- The code makes calls of one kind only, and a value that it returns has a property. -/
def Within (P : ι → Prop) (x : Raising ε (List ι) α) (Q : α → Prop) : Prop :=
  Adds x fun result added => (∀ event ∈ added, P event) ∧ ∀ a, result = .ok a → Q a

section Within

variable {P : ι → Prop} {x : Raising ε (List ι) α} {f : α → Raising ε (List ι) β}
variable {Q Q' : α → Prop} {S : β → Prop}

theorem Within.mono (within : Within P x Q) (weaker : ∀ a, Q a → Q' a) : Within P x Q' :=
  Adds.mono within fun _ _ fits => ⟨fits.1, fun a ok => weaker a (fits.2 a ok)⟩

theorem within_pure {a : α} (holds : Q a) : Within P (pure a : Raising ε (List ι) α) Q := by
  refine (adds_pure a).mono ?_
  rintro result added ⟨rfl, rfl⟩
  exact ⟨fun event member => absurd member List.not_mem_nil, fun b ok => Except.ok.inj ok ▸ holds⟩

theorem within_raise (e : ε) : Within P (raise e : Raising ε (List ι) α) Q := by
  refine (adds_raise e).mono ?_
  rintro result added ⟨rfl, rfl⟩
  exact ⟨fun event member => absurd member List.not_mem_nil, fun b ok => by cases ok⟩

theorem within_raiseIf {bad : Prop} [Decidable bad] (e : ε) :
    Within P (raiseIf bad e : Raising ε (List ι) Unit) fun _ => ¬bad := by
  unfold raiseIf
  split
  · exact within_raise e
  · exact within_pure ‹_›

theorem within_orRaise (found : Option α) (e : ε) :
    Within P (orRaise found e : Raising ε (List ι) α) fun a => found = some a := by
  cases found with
  | none => exact within_raise e
  | some a => exact within_pure rfl

theorem within_asking {answer : List ι → Except ε α} {event : Except ε α → ι}
    (kind : ∀ result, P (event result)) (holds : ∀ a, Q a) : Within P (asking answer event) Q := by
  refine (adds_asking answer event).mono ?_
  rintro result added rfl
  exact ⟨List.forall_mem_singleton.mpr (kind result), fun a _ => holds a⟩

theorem Within.bind (first : Within P x Q) (rest : ∀ a, Q a → Within P (f a) S) :
    Within P (x >>= f) S := by
  refine (Adds.bind (f := f) first fun a added fits => rest a (fits.2 a rfl)).mono ?_
  rintro result added (⟨e, rfl, fits, -⟩ | ⟨a, before, after, rfl, ⟨kind, -⟩, kindAfter, holds⟩)
  · exact ⟨fits, fun b ok => by cases ok⟩
  · refine ⟨fun event member => ?_, holds⟩
    exact (List.mem_append.mp member).elim (kind event) (kindAfter event)

/-- The rule of `try ... finally` before code that goes on. -/
theorem Within.finallyDo_bind {last : Raising ε (List ι) β} {L : List ι → Prop} {γ : Type}
    {g : α × β → Raising ε (List ι) γ} {T : γ → Prop} (body : Within P x Q)
    (final : Adds last fun _ added => L added)
    (rest : ∀ a b, Q a → Within P (g (a, b)) T) :
    Adds (finallyDo x last >>= g) fun result added =>
      ∃ before middle after, added = before ++ (middle ++ after) ∧
        (∀ call ∈ before, P call) ∧ L middle ∧ (∀ call ∈ after, P call) ∧
        ∀ c, result = .ok c → T c := by
  have closed := Adds.finallyDo body final
  refine (Adds.bind (f := g) (S := fun _ result added => (∀ call ∈ added, P call) ∧
    ∀ c, result = .ok c → T c) closed fun ⟨a, b⟩ added fits => ?_).mono ?_
  · obtain ⟨before, after, ended, answer, -, ⟨-, holds⟩, -, same⟩ := fits
    cases answer with
    | error e => cases same
    | ok last =>
        cases ended with
        | error e => cases same
        | ok value =>
            cases same
            exact rest a b (holds a rfl)
  · rintro result added (⟨e, rfl, before, middle, ended, answer, rfl, ⟨kind, -⟩, lasts, -⟩ |
      ⟨a, first, more, rfl, ⟨before, middle, ended, answer, rfl, ⟨kind, -⟩, lasts, -⟩, later,
        holds⟩)
    · exact ⟨before, middle, [], by rw [List.append_nil], kind, lasts,
        fun _ member => absurd member List.not_mem_nil, fun c ok => by cases ok⟩
    · exact ⟨before, middle, more, List.append_assoc _ _ _, kind, lasts, later, holds⟩

/-- The rule of a loop: an invariant of the items that are done. -/
theorem within_foldlM {κ : Type} (step : β → κ → Raising ε (List ι) β) (Inv : List κ → β → Prop)
    (each : ∀ done item b, Inv done b → Within P (step b item) (Inv (done ++ [item]))) :
    ∀ (items done : List κ) (b : β), Inv done b →
      Within P (items.foldlM step b) (Inv (done ++ items)) := by
  intro items
  induction items with
  | nil =>
      intro done b start
      rw [List.append_nil]
      exact within_pure start
  | cons item items ih =>
      intro done b start
      rw [List.foldlM_cons, List.append_cons]
      exact (each done item b start).bind fun next holds => ih (done ++ [item]) next holds

/-- A loop without a value. -/
theorem within_forM {κ : Type} {step : κ → Raising ε (List ι) PUnit}
    (each : ∀ item, Within P (step item) fun _ => True) (items : List κ) :
    Within P (items.forM step) fun _ => True := by
  induction items with
  | nil => exact within_pure trivial
  | cons item items ih =>
      exact (each item).bind fun _ _ => ih

end Within

/-! ## Calls that decide -/

/-- The code makes calls of one kind only, and ends with a value exactly when all of them pass. -/
def Decides (P passes : ι → Prop) (x : Raising ε (List ι) α) : Prop :=
  Adds x fun result added => (∀ event ∈ added, P event) ∧
    ((∃ a, result = .ok a) ↔ ∀ event ∈ added, passes event)

section Decides

variable {P passes : ι → Prop} {x : Raising ε (List ι) α} {f : α → Raising ε (List ι) β}

theorem decides_pure (a : α) : Decides P passes (pure a : Raising ε (List ι) α) := by
  refine (adds_pure a).mono ?_
  rintro result added ⟨rfl, rfl⟩
  exact ⟨fun event member => absurd member List.not_mem_nil,
    iff_of_true ⟨a, rfl⟩ fun event member => absurd member List.not_mem_nil⟩

theorem decides_asking {answer : List ι → Except ε α} {event : Except ε α → ι}
    (kind : ∀ result, P (event result))
    (pass : ∀ result, passes (event result) ↔ ∃ a, result = .ok a) :
    Decides P passes (asking answer event) := by
  refine (adds_asking answer event).mono ?_
  rintro result added rfl
  exact ⟨List.forall_mem_singleton.mpr (kind result),
    by rw [List.forall_mem_singleton, pass result]⟩

/-- A call whose answer is checked. -/
theorem decides_asking_checked {answer : List ι → Except ε α} {event : Except ε α → ι}
    {check : α → Except ε Unit} (kind : ∀ result, P (event result))
    (pass : ∀ result, passes (event result) ↔ ∃ a, result = .ok a ∧ check a = .ok ()) :
    Decides P passes (asking answer event >>= fun a => ending (check a) >>= fun _ => pure a) := by
  refine adds_asking_bind (fun e => ?_) fun a => ?_
  · refine ⟨List.forall_mem_singleton.mpr (kind _), ?_⟩
    rw [List.forall_mem_singleton, pass]
    simp
  · intro past
    refine ⟨[], ?_, List.forall_mem_singleton.mpr (kind _), ?_⟩
    · rcases check a with e | ⟨⟩ <;> exact (List.append_nil past).symm
    · rw [List.forall_mem_singleton, pass]
      rcases checked : check a with e | ⟨⟩
      · refine iff_of_false (fun ⟨b, same⟩ => by cases same) ?_
        rintro ⟨b, same, passed⟩
        cases same
        rw [checked] at passed
        cases passed
      · exact iff_of_true ⟨a, rfl⟩ ⟨a, rfl, checked⟩

theorem Decides.bind (first : Decides P passes x) (rest : ∀ a, Decides P passes (f a)) :
    Decides P passes (x >>= f) := by
  refine (Adds.bind (f := f) first fun a _ _ => rest a).mono ?_
  rintro result added (⟨e, rfl, kind, decided⟩ |
    ⟨a, before, after, rfl, ⟨kind, decided⟩, kindAfter, decidedAfter⟩)
  · refine ⟨kind, iff_of_false (fun ⟨b, same⟩ => by cases same) fun pass => ?_⟩
    obtain ⟨a, same⟩ := decided.mpr pass
    cases same
  · refine ⟨List.forall_mem_append.mpr ⟨kind, kindAfter⟩, ?_⟩
    rw [List.forall_mem_append, ← decidedAfter]
    exact ⟨fun ended => ⟨decided.mp ⟨a, rfl⟩, ended⟩, fun both => both.2⟩

end Decides

/-! ## Resources -/

section Resources

variable {ρ : Type} {gets frees : ι → Option ρ}

/-- Every resource that a call got is freed by a later call. -/
def Freed (gets frees : ι → Option ρ) : List ι → Prop
  | [] => True
  | call :: later =>
      (∀ resource ∈ gets call, ∃ other ∈ later, frees other = some resource) ∧
        Freed gets frees later

theorem Freed.append {calls later : List ι} (freed : Freed gets frees calls)
    (freedLater : Freed gets frees later) : Freed gets frees (calls ++ later) := by
  induction calls with
  | nil => exact freedLater
  | cons call calls ih =>
      refine ⟨fun resource got => ?_, ih freed.2⟩
      obtain ⟨other, member, isFree⟩ := freed.1 resource got
      exact ⟨other, List.mem_append_left _ member, isFree⟩

theorem freed_append_right {calls later : List ι} (freed : Freed gets frees (calls ++ later)) :
    Freed gets frees later := by
  induction calls with
  | nil => exact freed
  | cons call calls ih => exact ih freed.2

/-- Calls that free nothing do not make up for calls before them. -/
theorem freed_append_left {calls later : List ι} (nothing : ∀ call ∈ later, frees call = none)
    (freed : Freed gets frees (calls ++ later)) : Freed gets frees calls := by
  induction calls with
  | nil => trivial
  | cons call calls ih =>
      refine ⟨fun resource got => ?_, ih freed.2⟩
      obtain ⟨other, member, isFree⟩ := freed.1 resource got
      rcases List.mem_append.mp member with before | after
      · exact ⟨other, before, isFree⟩
      · rw [nothing other after] at isFree
        cases isFree

/-- Calls that neither get nor free do not count. -/
theorem freed_filter {counts : ι → Bool} {calls : List ι}
    (nothing : ∀ call ∈ calls, counts call = false → gets call = none ∧ frees call = none) :
    Freed gets frees (calls.filter counts) ↔ Freed gets frees calls := by
  induction calls with
  | nil => exact Iff.rfl
  | cons call calls ih =>
      have inner := ih fun other member => nothing other (List.mem_cons_of_mem _ member)
      by_cases counted : counts call = true
      · rw [List.filter_cons_of_pos counted]
        refine and_congr (forall₂_congr fun resource got => ?_) inner
        constructor
        · rintro ⟨other, member, isFree⟩
          exact ⟨other, (List.mem_filter.mp member).1, isFree⟩
        · rintro ⟨other, member, isFree⟩
          refine ⟨other, List.mem_filter.mpr ⟨member, ?_⟩, isFree⟩
          by_contra uncounted
          rw [(nothing other (List.mem_cons_of_mem _ member) (by simpa using uncounted)).2] at isFree
          cases isFree
      · rw [List.filter_cons_of_neg counted, inner]
        refine ⟨fun freed => ⟨fun resource got => ?_, freed⟩, And.right⟩
        rw [(nothing call List.mem_cons_self (by simpa using counted)).1] at got
        cases got

/-- Calls that get nothing leave nothing to free. -/
theorem freed_of_none {calls : List ι} (nothing : ∀ call ∈ calls, gets call = none) :
    Freed gets frees calls := by
  induction calls with
  | nil => trivial
  | cons call calls ih =>
      refine ⟨fun resource got => ?_, ih fun other member => nothing other
        (List.mem_cons_of_mem _ member)⟩
      rw [nothing call List.mem_cons_self] at got
      cases got

end Resources

end Raising

end Foundation
