import HcuAutoOpt.Agent.ReviewRuns

/-!
# Chains of attempts

The attempts of one generator are a chain: they are numbered from one without a gap, there are
no more of them than its plan allows, and all but the last have failed (`Chain`). So at most
one of them is open, at most one has succeeded, and that one is the last. A run is scheduled
when the attempts of each of its generators are a chain and no more of them are running than
its plan allows (`GenerationStore.Scheduled`).

What a write does to chains is said once for each primitive: an attempt is rewritten in its
place, or appended after the failed attempts of its generator.
-/

set_option autoImplicit false

namespace Foundation

/-- What every turn of a loop keeps, about the items that are left too. -/
theorem foldlM_keeps_rest {ε τ α : Type} {step : τ → α → Except ε τ} {P : List α → τ → Prop}
    (keeps : ∀ x rest t t', P (x :: rest) t → step t x = .ok t' → P rest t') {xs : List α}
    {t t' : τ} (holds : P xs t) (ok : xs.foldlM step t = .ok t') : P [] t' := by
  induction xs generalizing t with
  | nil =>
      cases ok
      exact holds
  | cons x xs ih =>
      obtain ⟨next, turn, rest⟩ := Except.bind_eq_ok.mp ok
      exact ih (keeps x xs t next holds turn) rest

namespace Table

variable {Row : Type} {Key : Type} [Keyed Row Key] [DecidableEq Key]

/-- Rewriting a row of a table changes one row in its place. -/
theorem update_split {t : Table Row} {k : Key} {f : Row → Row} [KeepsKey f] {old : Row}
    (found : t.find? k = some old) :
    ∃ before after, t.rows = before ++ old :: after ∧
      (t.update k f).rows = before ++ f old :: after := by
  obtain ⟨before, after, split⟩ := List.append_of_mem (mem_rows.mp (mem_of_find? found))
  have apart : ∀ row ∈ before ++ after, key row ≠ k := by
    have distinct := t.keys_nodup
    rw [split, List.map_append, List.map_cons, List.nodup_middle, List.nodup_cons,
      ← List.map_append, key_of_find? found] at distinct
    intro row member same
    apply distinct.1
    rw [← same]
    exact List.mem_map_of_mem member
  have still : ∀ rows : List Row, (∀ row ∈ rows, key row ≠ k) →
      (rows.map fun row => if key row = k then f row else row) = rows := by
    intro rows out
    conv_rhs => rw [← List.map_id rows]
    apply List.map_congr_left
    intro row member
    exact if_neg (out row member)
  refine ⟨before, after, split, ?_⟩
  simp only [update, updateWhere, split, List.map_append, List.map_cons, decide_eq_true_eq]
  rw [still before fun row member => apart row (List.mem_append_left _ member),
    still after fun row member => apart row (List.mem_append_right _ member),
    if_pos (key_of_find? found)]

/-- How a rewrite changes the number of rows with a property. -/
theorem length_filter_update {t : Table Row} {k : Key} {f : Row → Row} [KeepsKey f] {old : Row}
    (found : t.find? k = some old) (q : Row → Bool) :
    ((t.update k f).rows.filter q).length + (if q old then 1 else 0) =
      (t.rows.filter q).length + if q (f old) then 1 else 0 := by
  obtain ⟨before, after, split, updated⟩ := update_split (f := f) found
  simp only [split, updated, List.filter_append, List.length_append, List.filter_cons]
  by_cases here : q old <;> by_cases there : q (f old) <;> simp [here, there] <;> omega

end Table

end Foundation

namespace HcuAutoOpt

namespace Agent

open Foundation

/-! ## Chains -/

/-- The attempts of a generator of a run, in the order in which they were inserted. -/
def GenerationStore.turns (s : GenerationStore) (runId : Uuid) (ordinal : Nat) :
    List GeneratorAttempt :=
  s.attempts.rows.filter fun attempt =>
    decide (attempt.generationRunId = runId ∧ attempt.generatorOrdinal = ordinal)

/-- Attempts numbered from one without a gap, at most so many, all but the last failed. -/
structure Chain (turns : List GeneratorAttempt) (limit : Nat) : Prop where
  numbers : turns.map GeneratorAttempt.attemptNumber = List.range' 1 turns.length
  limited : turns.length ≤ limit
  failed : ∀ attempt ∈ turns, attempt.attemptNumber < turns.length → attempt.state = .failed

namespace Chain

variable {turns : List GeneratorAttempt} {limit : Nat}

theorem nil (limit : Nat) : Chain [] limit where
  numbers := rfl
  limited := Nat.zero_le _
  failed _ member := absurd member List.not_mem_nil

theorem number_range (chain : Chain turns limit) {attempt : GeneratorAttempt}
    (member : attempt ∈ turns) :
    1 ≤ attempt.attemptNumber ∧ attempt.attemptNumber ≤ turns.length := by
  have numbered : attempt.attemptNumber ∈ turns.map GeneratorAttempt.attemptNumber :=
    List.mem_map_of_mem member
  rw [chain.numbers, List.mem_range'_1] at numbered
  omega

theorem eq_of_number (chain : Chain turns limit) {first second : GeneratorAttempt}
    (member : first ∈ turns) (member' : second ∈ turns)
    (same : first.attemptNumber = second.attemptNumber) : first = second := by
  apply List.inj_on_of_nodup_map _ member member' same
  rw [chain.numbers]
  exact List.nodup_range'

/-- Only one attempt has not failed, and it is the last. -/
theorem eq_of_not_failed (chain : Chain turns limit) {first second : GeneratorAttempt}
    (member : first ∈ turns) (member' : second ∈ turns) (unfailed : first.state ≠ .failed)
    (unfailed' : second.state ≠ .failed) : first = second := by
  have last : ∀ attempt ∈ turns, attempt.state ≠ .failed →
      attempt.attemptNumber = turns.length := by
    intro attempt inChain unfailed
    have range := chain.number_range inChain
    by_contra other
    exact unfailed (chain.failed attempt inChain (by omega))
  exact chain.eq_of_number member member'
    ((last first member unfailed).trans (last second member' unfailed').symm)

/-- When the attempt with the greatest number has failed, so have all, and the next number is
the next one of the chain. -/
theorem next (chain : Chain turns limit) {latest : GeneratorAttempt} (member : latest ∈ turns)
    (failed : latest.state = .failed)
    (last : ∀ attempt ∈ turns, attempt.attemptNumber ≤ latest.attemptNumber) :
    latest.attemptNumber = turns.length ∧ ∀ attempt ∈ turns, attempt.state = .failed := by
  have range := chain.number_range member
  have numbered : turns.length ∈ turns.map GeneratorAttempt.attemptNumber := by
    rw [chain.numbers, List.mem_range'_1]
    omega
  obtain ⟨greatest, inChain, number⟩ := List.mem_map.mp numbered
  have bound := last greatest inChain
  have length : latest.attemptNumber = turns.length := by omega
  refine ⟨length, ?_⟩
  intro attempt inChain'
  have range' := chain.number_range inChain'
  rcases Nat.lt_or_ge attempt.attemptNumber turns.length with earlier | here
  · exact chain.failed attempt inChain' earlier
  · have same : attempt = latest := chain.eq_of_number inChain' member (by omega)
    rw [same]
    exact failed

/-- A chain whose attempts have all failed goes on with the next number. -/
theorem append (chain : Chain turns limit) {row : GeneratorAttempt}
    (failed : ∀ attempt ∈ turns, attempt.state = .failed)
    (number : row.attemptNumber = turns.length + 1) (room : turns.length + 1 ≤ limit) :
    Chain (turns ++ [row]) limit where
  numbers := by
    have oneMore : (turns ++ [row]).length = turns.length + 1 := List.length_append
    rw [oneMore, List.range'_1_concat, List.map_append, chain.numbers, List.map_singleton, number,
      Nat.add_comm]
  limited := by simpa using room
  failed := by
    intro attempt member earlier
    rcases List.mem_append.mp member with old | new
    · exact failed attempt old
    · rw [List.mem_singleton.mp new, number, List.length_append] at earlier
      simp at earlier

/-- Rewriting attempts that have not failed. -/
theorem map (chain : Chain turns limit) {f : GeneratorAttempt → GeneratorAttempt}
    (number : ∀ attempt ∈ turns, (f attempt).attemptNumber = attempt.attemptNumber)
    (failed : ∀ attempt ∈ turns, attempt.state = .failed → (f attempt).state = .failed) :
    Chain (turns.map f) limit where
  numbers := by
    rw [List.map_map, List.length_map, ← chain.numbers]
    exact List.map_congr_left number
  limited := by simpa using chain.limited
  failed := by
    intro attempt member earlier
    obtain ⟨before, inChain, rfl⟩ := List.mem_map.mp member
    rw [number before inChain, List.length_map] at earlier
    exact failed before inChain (chain.failed before inChain earlier)

end Chain

/-! ## Scheduled runs -/

/-- **A scheduled run.** The attempts of each generator are a chain, and no more of them are
running than the plan allows. -/
structure GenerationStore.Scheduled (s : GenerationStore) (run : GenerationRun) : Prop where
  chains : ∀ ordinal generator, run.plan.generators[ordinal]? = some generator →
    Chain (s.turns run.generationRunId ordinal) generator.maxAttempts
  slots : s.activeCount run.generationRunId ≤ run.plan.maxConcurrency

section Writes

variable {s : GenerationStore} {run : GenerationRun}

@[simp] theorem mem_turns {runId : Uuid} {ordinal : Nat} {attempt : GeneratorAttempt} :
    attempt ∈ s.turns runId ordinal ↔ attempt ∈ s.attempts ∧
      attempt.generationRunId = runId ∧ attempt.generatorOrdinal = ordinal := by
  unfold GenerationStore.turns
  rw [List.mem_filter, decide_eq_true_eq, Table.mem_rows]

theorem GenerationStore.Scheduled.congr {s' : GenerationStore} {run' : GenerationRun}
    (scheduled : s.Scheduled run) (attempts : s'.attempts = s.attempts)
    (sameId : run'.generationRunId = run.generationRunId) (plan : run'.plan = run.plan) :
    s'.Scheduled run' := by
  constructor
  · intro ordinal generator planned
    rw [plan] at planned
    have chain := scheduled.chains ordinal generator planned
    unfold GenerationStore.turns at chain ⊢
    rw [attempts, sameId]
    exact chain
  · have slots := scheduled.slots
    unfold GenerationStore.activeCount at slots ⊢
    rw [attempts, sameId, plan]
    exact slots

/-- A rewritten attempt stays in its chain. -/
theorem turns_update {attemptId runId : Uuid} {ordinal : Nat}
    {f : GeneratorAttempt → GeneratorAttempt} [KeepsKey f] [place : KeepsPlace f] :
    ({ s with attempts := s.attempts.update attemptId f } : GenerationStore).turns runId ordinal =
      (s.turns runId ordinal).map fun row => if key row = attemptId then f row else row := by
  unfold GenerationStore.turns
  refine Table.filter_update fun row => ?_
  have same := place.place row
  simp only [GeneratorAttempt.place, Prod.mk.injEq] at same
  obtain ⟨ofRun, -, -, -, ordinal, -⟩ := same
  rw [ofRun, ordinal]

/-- **Rewriting an attempt** keeps the runs scheduled, when a failed attempt stays failed and one
that starts has a free slot. -/
theorem GenerationStore.Scheduled.update {attemptId : Uuid}
    {f : GeneratorAttempt → GeneratorAttempt} [KeepsKey f] [place : KeepsPlace f]
    {old : GeneratorAttempt} (scheduled : s.Scheduled run)
    (found : s.attempts.find? attemptId = some old)
    (failed : old.state = .failed → (f old).state = .failed)
    (slot : old.generationRunId = run.generationRunId → (f old).state = .running →
      old.state = .running ∨ s.activeCount run.generationRunId < run.plan.maxConcurrency) :
    ({ s with attempts := s.attempts.update attemptId f } : GenerationStore).Scheduled run := by
  constructor
  · intro ordinal generator planned
    rw [turns_update]
    refine (scheduled.chains ordinal generator planned).map ?_ ?_
    · intro attempt _
      split
      · have same := place.place attempt
        simp only [GeneratorAttempt.place, Prod.mk.injEq] at same
        exact same.2.2.2.2.2
      · rfl
    · intro attempt member before
      split
      · rename_i here
        have known : s.attempts.find? attemptId = some attempt :=
          here ▸ Table.find?_of_mem (mem_turns.mp member).1
        cases Option.some.inj (found.symm.trans known)
        exact failed before
      · exact before
  · have counts := Table.length_filter_update (f := f) found fun attempt =>
      decide (attempt.generationRunId = run.generationRunId) && decide (attempt.state = .running)
    have ofRun : (f old).generationRunId = old.generationRunId :=
      congrArg Prod.fst (place.place old)
    have slots := scheduled.slots
    unfold GenerationStore.activeCount at slots slot ⊢
    dsimp only at counts slots slot ⊢
    by_cases here : old.generationRunId = run.generationRunId
    · by_cases starts : (f old).state = .running
      · rcases slot here starts with running | free
        · simp only [ofRun, here, starts, running, decide_true, Bool.and_self, if_true] at counts
          omega
        · simp only [ofRun, here, starts, decide_true, Bool.and_self, if_true] at counts
          omega
      · simp only [ofRun, here, starts, decide_true, decide_false, Bool.and_false,
          Bool.false_eq_true, if_false] at counts
        omega
    · simp only [ofRun, here, decide_false, Bool.false_and, Bool.false_eq_true, if_false] at counts
      omega

/-- **Appending an attempt** that is pending to the failed attempts of its generator. -/
theorem GenerationStore.Scheduled.insert {row : GeneratorAttempt} {generator : GeneratorPlanEntry}
    (scheduled : s.Scheduled run) (absent : s.attempts.find? row.attemptId = none)
    (pending : row.state = .pending)
    (planned : row.generationRunId = run.generationRunId →
      run.plan.generators[row.generatorOrdinal]? = some generator)
    (failed : ∀ attempt ∈ s.turns row.generationRunId row.generatorOrdinal,
      attempt.state = .failed)
    (number : row.attemptNumber =
      (s.turns row.generationRunId row.generatorOrdinal).length + 1)
    (room : row.attemptNumber ≤ generator.maxAttempts) :
    ({ s with attempts := s.attempts.insertIfAbsent row } : GenerationStore).Scheduled run := by
  constructor
  · intro ordinal entry known
    have chain := scheduled.chains ordinal entry known
    unfold GenerationStore.turns at chain ⊢
    rw [Table.filter_insertIfAbsent absent]
    by_cases here : row.generationRunId = run.generationRunId ∧ row.generatorOrdinal = ordinal
    · rw [if_pos (decide_eq_true here)]
      obtain ⟨ofRun, rfl⟩ := here
      cases Option.some.inj (known.symm.trans (planned ofRun))
      rw [ofRun] at failed number
      exact chain.append failed number (number ▸ room)
    · rw [if_neg (by simpa using here), List.append_nil]
      exact chain
  · have slots := scheduled.slots
    unfold GenerationStore.activeCount at slots ⊢
    dsimp only at slots ⊢
    rw [Table.filter_insertIfAbsent absent, pending]
    simpa using slots

end Writes

end Agent

end HcuAutoOpt
