import HcuAutoOpt.Agent.GenerationSoundness
import HcuAutoOpt.Foundation.Ranking

/-!
# When a claim finds the work there is

A claim without a run identifier commits to the first run that is not locked, is running, has a
pending attempt and has a free slot, and then to the first pending attempt of that run. Only
then is the lease compared with the timeout of the attempt's generator. On sound tables the
outcome of a claim is therefore decided by this one head attempt (`claim_of_head`,
`claim_without_head`).

A claim hands out an attempt whenever some attempt could be claimed exactly when the head
attempt admits the lease or nothing can be claimed at all (`claim_completes_iff`). A run whose
first generator has a short timeout makes every claim with a longer lease raise, whatever later
runs offer (`short_timeout_raises`).
-/

set_option autoImplicit false

namespace HcuAutoOpt

namespace Agent

open Foundation

/-! ## What can be claimed -/

/-- The run is running and has a free slot. -/
def GenerationStore.Open (s : GenerationStore) (run : GenerationRun) : Prop :=
  run.state = .running ∧ s.activeCount run.generationRunId < run.plan.maxConcurrency

/-- The attempt is pending in an open run, and its generator's timeout admits the lease. -/
structure GenerationStore.Claimable (s : GenerationStore) (leaseSeconds : Int)
    (attempt : GeneratorAttempt) : Prop where
  stored : attempt ∈ s.attempts
  pending : attempt.state = .pending
  admitted : ∃ run ∈ s.runs, attempt.generationRunId = run.generationRunId ∧ s.Open run ∧
    ∃ generator, run.plan.generators[attempt.generatorOrdinal]? = some generator ∧
      leaseSeconds ≤ generator.timeoutSeconds

/-- The run is one a claim may take an attempt from. -/
structure GenerationStore.Offers (s : GenerationStore) (locks : GenerationLocks)
    (run : GenerationRun) : Prop where
  stored : run ∈ s.runs
  isOpen : s.Open run
  pending : ∃ attempt ∈ s.attempts, attempt.generationRunId = run.generationRunId ∧
    attempt.state = .pending
  unlocked : locks.run run.generationRunId = false

/-- The first run that offers an attempt. -/
structure GenerationStore.HeadRun (s : GenerationStore) (locks : GenerationLocks)
    (run : GenerationRun) : Prop where
  offers : s.Offers locks run
  first : ∀ other, s.Offers locks other → run.Before other

/-- The attempt of the run is pending and not locked. -/
structure GenerationStore.Waits (s : GenerationStore) (locks : GenerationLocks)
    (run : GenerationRun) (attempt : GeneratorAttempt) : Prop where
  stored : attempt ∈ s.attempts
  ofRun : attempt.generationRunId = run.generationRunId
  pending : attempt.state = .pending
  unlocked : locks.attempt attempt.attemptId = false

/-- The first attempt of the run that waits. -/
structure GenerationStore.HeadAttempt (s : GenerationStore) (locks : GenerationLocks)
    (run : GenerationRun) (attempt : GeneratorAttempt) : Prop where
  waits : s.Waits locks run attempt
  first : ∀ other, s.Waits locks run other → attempt.Before other

/-- **The head admits the lease.** The first waiting attempt of the first run that offers one
was created by now, and its generator's timeout admits the lease. -/
def GenerationStore.HeadAdmits (s : GenerationStore) (locks : GenerationLocks)
    (leaseSeconds : Int) (now : Timestamp) : Prop :=
  ∃ run attempt generator, s.HeadRun locks run ∧ s.HeadAttempt locks run attempt ∧
    run.plan.generators[attempt.generatorOrdinal]? = some generator ∧
      leaseSeconds ≤ generator.timeoutSeconds ∧ attempt.createdAt ≤ now

/-! ## The order of runs and attempts -/

instance : Std.Total GenerationRun.Before where
  total first second := by
    have total : ∀ (a b : Int) (m n : Nat),
        (a < b ∨ a = b ∧ m ≤ n) ∨ (b < a ∨ b = a ∧ n ≤ m) := by omega
    exact total _ _ _ _

instance : IsTrans GenerationRun GenerationRun.Before where
  trans first second third before after := by
    have trans : ∀ (a b c : Int) (l m n : Nat), (a < b ∨ a = b ∧ l ≤ m) →
        (b < c ∨ b = c ∧ m ≤ n) → (a < c ∨ a = c ∧ l ≤ n) := by omega
    exact trans _ _ _ _ _ _ before after

instance : Std.Total GeneratorAttempt.Before where
  total first second := by
    unfold GeneratorAttempt.Before
    omega

instance : IsTrans GeneratorAttempt GeneratorAttempt.Before where
  trans first second third before after := by
    unfold GeneratorAttempt.Before at *
    omega

section Heads

variable {s : GenerationStore} {locks : GenerationLocks}

/-- Two stored runs that are not after each other are one run. -/
theorem GenerationRun.eq_of_before {run other : GenerationRun} (member : run ∈ s.runs)
    (member' : other ∈ s.runs) (before : run.Before other) (after : other.Before run) :
    run = other := by
  have antisymm : ∀ (a b : Int) (m n : Nat), (a < b ∨ a = b ∧ m ≤ n) →
      (b < a ∨ b = a ∧ n ≤ m) → m = n := by omega
  exact Table.eq_of_key_eq member member'
    (BitVec.eq_of_toNat_eq (antisymm _ _ _ _ before after))

/-- Two stored attempts of one run that are not after each other are one attempt. -/
theorem GeneratorAttempt.eq_of_before (sound : s.Sound) {attempt other : GeneratorAttempt}
    (member : attempt ∈ s.attempts) (member' : other ∈ s.attempts)
    (ofRun : attempt.generationRunId = other.generationRunId) (before : attempt.Before other)
    (after : other.Before attempt) : attempt = other := by
  obtain ⟨ordinal, number⟩ : attempt.generatorOrdinal = other.generatorOrdinal ∧
      attempt.attemptNumber = other.attemptNumber := by
    unfold GeneratorAttempt.Before at before after
    omega
  obtain ⟨run, stored, belongs, generator, found, named⟩ := sound.placed attempt member
  obtain ⟨run', stored', belongs', generator', found', named'⟩ := sound.placed other member'
  have sameRun : run = run' :=
    Table.eq_of_key_eq stored stored' (belongs.1.trans (ofRun.trans belongs'.1.symm))
  subst sameRun
  rw [ordinal, found'] at found
  cases found
  exact sound.turns attempt member other member' ⟨ofRun, named.symm.trans named', number⟩

theorem hasPending_iff {runId : Uuid} : s.hasPending runId = true ↔
    ∃ attempt ∈ s.attempts, attempt.generationRunId = runId ∧ attempt.state = .pending := by
  simp [GenerationStore.hasPending, Table.mem_rows]

theorem mem_candidateRuns {run : GenerationRun} :
    run ∈ s.candidateRuns none ↔ run ∈ s.runs ∧ s.hasWork run = true := by
  simp [GenerationStore.candidateRuns, (List.perm_insertionSort _ _).mem_iff, Table.mem_rows]

/-- What a claim asks of a run when it has locked it. -/
def GenerationStore.takes (s : GenerationStore) (locks : GenerationLocks)
    (run : GenerationRun) : Bool :=
  !locks.run run.generationRunId &&
    decide (s.activeCount run.generationRunId < run.plan.maxConcurrency)

/-- The search for a run finds the first one it takes. -/
theorem openRun_eq (sound : s.Sound) {candidates : List GenerationRun}
    (known : ∀ run ∈ candidates, run ∈ s.runs ∧ s.hasWork run = true) :
    s.openRun locks candidates = .ok (candidates.find? (s.takes locks)) := by
  induction candidates with
  | nil => rfl
  | cons candidate candidates ih =>
      have rest := ih fun run later => known run (List.mem_cons_of_mem candidate later)
      obtain ⟨stored, work⟩ := known candidate List.mem_cons_self
      have lookup : (s.runs.rows.find? fun run =>
          decide (run.generationRunId = candidate.generationRunId) && s.hasWork run &&
            !locks.run run.generationRunId) =
          if locks.run candidate.generationRunId then none else some candidate := by
        split
        · rename_i locked
          rw [List.find?_eq_none]
          intro run _ chosen
          simp only [Bool.and_eq_true, decide_eq_true_eq, Bool.not_eq_true'] at chosen
          rw [chosen.1.1, locked] at chosen
          exact absurd chosen.2 (by decide)
        · rename_i unlocked
          have found : s.runs.find? (key candidate) = some candidate := Table.find?_of_mem stored
          have alone : ∀ run ∈ s.runs.rows,
              (decide (run.generationRunId = candidate.generationRunId) && s.hasWork run &&
                !locks.run run.generationRunId) = decide (key run = key candidate) := by
            intro run member
            by_cases same : run.generationRunId = candidate.generationRunId
            · have : run = candidate := Table.eq_of_key_eq member stored same
              subst this
              simp [work, unlocked]
            · have apart : ¬key run = key candidate := same
              simp [same, apart]
          rw [← found, Table.find?, ← List.head?_filter, ← List.head?_filter,
            List.filter_congr alone]
      have loaded : loadRun candidate = .ok candidate :=
        loadRun_eq_ok.mpr ⟨sound.runs candidate stored, rfl⟩
      rw [GenerationStore.openRun, lookup, List.find?_cons]
      by_cases locked : locks.run candidate.generationRunId = true
      · simpa [locked, GenerationStore.takes] using rest
      · rw [if_neg locked]
        change loadRun candidate >>= _ = _
        rw [loaded]
        change (if _ then _ else _) = _
        by_cases free : s.activeCount candidate.generationRunId < candidate.plan.maxConcurrency
        · have taken : s.takes locks candidate = true := by
            simp [GenerationStore.takes, locked, free]
          rw [if_neg (Nat.not_le.mpr free), taken]
          rfl
        · have passed : s.takes locks candidate = false := by
            simp [GenerationStore.takes, free]
          rw [if_pos (Nat.not_lt.mp free), passed]
          exact rest

theorem offers_iff {run : GenerationRun} : s.Offers locks run ↔
    run ∈ s.candidateRuns none ∧ s.takes locks run = true := by
  rw [mem_candidateRuns, GenerationStore.hasWork, Bool.and_eq_true, hasPending_iff,
    GenerationStore.takes, Bool.and_eq_true, decide_eq_true_eq, decide_eq_true_eq,
    Bool.not_eq_true']
  constructor
  · rintro ⟨stored, ⟨running, free⟩, pending, unlocked⟩
    exact ⟨⟨stored, running, pending⟩, unlocked, free⟩
  · rintro ⟨⟨stored, running, pending⟩, unlocked, free⟩
    exact ⟨stored, ⟨running, free⟩, pending, unlocked⟩

/-- The run a claim commits to is the head run. -/
theorem find?_takes_eq_some_iff {run : GenerationRun} :
    (s.candidateRuns none).find? (s.takes locks) = some run ↔ s.HeadRun locks run := by
  have offered : ∀ run, run ∈ s.runs.rows.filter (fun run => s.hasWork run &&
      decide ((none : Option Uuid) = none ∨ none = some run.generationRunId)) ∧
        s.takes locks run = true ↔ s.Offers locks run := by
    intro run
    rw [offers_iff, GenerationStore.candidateRuns, (List.perm_insertionSort _ _).mem_iff]
  rw [GenerationStore.candidateRuns, find?_insertionSort_eq_some]
  · constructor
    · rintro ⟨member, taken, first⟩
      exact ⟨(offered run).mp ⟨member, taken⟩, fun other offers =>
        first other ((offered other).mpr offers).1 ((offered other).mpr offers).2⟩
    · rintro ⟨offers, first⟩
      exact ⟨((offered run).mpr offers).1, ((offered run).mpr offers).2,
        fun other member taken => first other ((offered other).mp ⟨member, taken⟩)⟩
  · intro run member other member' taken taken' before after
    exact GenerationRun.eq_of_before ((offered run).mp ⟨member, taken⟩).stored
      ((offered other).mp ⟨member', taken'⟩).stored before after

/-- The attempt a claim commits to is the head attempt of its run. -/
theorem pendingAttempt?_eq_some_iff (sound : s.Sound) {run : GenerationRun}
    {attempt : GeneratorAttempt} :
    s.pendingAttempt? locks run.generationRunId = some attempt ↔
      s.HeadAttempt locks run attempt := by
  have waiting : ∀ attempt, attempt ∈ s.attempts.rows.filter (fun attempt =>
      decide (attempt.generationRunId = run.generationRunId) &&
        decide (attempt.state = .pending) && !locks.attempt attempt.attemptId) ↔
          s.Waits locks run attempt := by
    intro attempt
    simp only [List.mem_filter, Bool.and_eq_true, decide_eq_true_eq, Bool.not_eq_true']
    constructor
    · rintro ⟨stored, ⟨ofRun, pending⟩, unlocked⟩
      exact ⟨stored, ofRun, pending, unlocked⟩
    · rintro ⟨stored, ofRun, pending, unlocked⟩
      exact ⟨stored, ⟨ofRun, pending⟩, unlocked⟩
  have asSearch : ∀ attempts : List GeneratorAttempt,
      attempts.head? = attempts.find? fun _ => true := by
    intro attempts
    cases attempts <;> rfl
  rw [GenerationStore.pendingAttempt?, asSearch, find?_insertionSort_eq_some]
  · constructor
    · rintro ⟨member, -, first⟩
      exact ⟨(waiting attempt).mp member, fun other waits =>
        first other ((waiting other).mpr waits) rfl⟩
    · rintro ⟨waits, first⟩
      exact ⟨(waiting attempt).mpr waits, rfl, fun other member _ =>
        first other ((waiting other).mp member)⟩
  · intro attempt member other member' _ _ before after
    have waits := (waiting attempt).mp member
    have waits' := (waiting other).mp member'
    exact GeneratorAttempt.eq_of_before sound waits.stored waits'.stored
      (waits.ofRun.trans waits'.ofRun.symm) before after

end Heads

/-! ## The outcome of a claim -/

section Outcome

variable {s : GenerationStore} {locks : GenerationLocks} {now : Timestamp} {claimToken : Uuid}
  {workerId : String} {leaseSeconds : Int}

/-- A worker's name as the authority accepts it: normalized, and short enough to be stored. -/
structure AcceptedWorker (workerId : String) : Prop where
  normalized : workerId ≠ "" ∧ strip workerId = workerId
  short : workerId.length ≤ 200

theorem AcceptedWorker.length_range (worker : AcceptedWorker workerId) :
    1 ≤ workerId.length ∧ workerId.length ≤ 200 := by
  refine ⟨Nat.pos_of_ne_zero fun empty => worker.normalized.1 ?_, worker.short⟩
  exact String.length_eq_zero_iff.mp empty

/-- A pending attempt that was created by now is valid when it has been claimed. -/
theorem GeneratorAttempt.Valid.claimed {attempt : GeneratorAttempt} (valid : attempt.Valid)
    (pending : attempt.state = .pending) (worker : AcceptedWorker workerId)
    (created : attempt.createdAt ≤ now) :
    (attempt.claimed workerId claimToken now leaseSeconds).Valid := by
  have unfinished : attempt.finishedAt = none := by
    have := valid.finished
    rw [pending] at this
    simpa [GeneratorAttemptState.terminal] using this
  have noError : attempt.error = none := by
    have := valid.failedError
    rw [pending] at this
    simpa using this
  refine
    { ordinal := valid.ordinal
      number := valid.number
      version := Nat.le_add_left 1 _
      updated := created
      worker := ?_
      pending := fun running => by cases running
      running := fun _ => ⟨by simp [GeneratorAttempt.claimed], unfinished⟩
      finished := ?_
      succeeded := fun running => by cases running
      unfinished := fun _ => valid.unfinished (.inl pending)
      profile := valid.profile
      runner := valid.runner
      failedError := ?_
      ended := ?_ }
  · intro lease held
    cases held
    exact worker.length_range
  · simp [GeneratorAttempt.claimed, GeneratorAttemptState.terminal, unfinished]
  · simp [GeneratorAttempt.claimed, noError]
  · intro finishedAt finished
    have ended : finishedAt ∈ attempt.finishedAt := finished
    rw [unfinished] at ended
    cases ended

/-- The run of a waiting attempt has its generator, and the claim of the two is bound. -/
theorem GenerationStore.Waits.placed (sound : s.Sound) {run : GenerationRun}
    {attempt : GeneratorAttempt} (stored : run ∈ s.runs) (waits : s.Waits locks run attempt) :
    attempt.Placed run := by
  obtain ⟨run', stored', placed⟩ := sound.placed attempt waits.stored
  have same : run' = run := Table.eq_of_key_eq stored' stored (placed.1.1.trans waits.ofRun)
  rwa [← same]

/-- What a claim hands out: the attempt, now running for the worker, with its run. -/
structure GenerationStore.HandsOut (s s' : GenerationStore) (workerId : String)
    (claimToken : Uuid) (now : Timestamp) (leaseSeconds : Int) (claim : GenerationAttemptClaim) :
    Prop where
  pending : ∃ attempt, s.Claimable leaseSeconds attempt ∧
    claim.attempt = attempt.claimed workerId claimToken now leaseSeconds
  run : claim.run ∈ s.runs ∧ claim.attempt.generationRunId = claim.run.generationRunId
  stored : s' = { s with
    attempts := s.attempts.update claim.attempt.attemptId
      (GeneratorAttempt.claimed workerId claimToken now leaseSeconds) }

/-- Claiming the head attempt succeeds exactly when it admits the lease. -/
theorem claimPending_iff (sound : s.Sound) (worker : AcceptedWorker workerId)
    {run : GenerationRun} {attempt : GeneratorAttempt} {generator : GeneratorPlanEntry}
    (offers : s.Offers locks run) (waits : s.Waits locks run attempt)
    (found : run.plan.generators[attempt.generatorOrdinal]? = some generator)
    {s' : GenerationStore} {reply : Option GenerationAttemptClaim} :
    claimPending workerId claimToken now leaseSeconds run attempt s = .ok (s', reply) ↔
      (leaseSeconds ≤ generator.timeoutSeconds ∧ attempt.createdAt ≤ now) ∧
        ∃ claim, reply = some claim ∧
          s.HandsOut s' workerId claimToken now leaseSeconds claim ∧
          claim = ⟨run, attempt.claimed workerId claimToken now leaseSeconds, generator,
            run.request⟩ := by
  have valid := sound.attempts attempt waits.stored
  obtain ⟨belongs, generator', found', named⟩ := waits.placed sound offers.stored
  cases Option.some.inj (found'.symm.trans found)
  have atKey : s.attempts.find? attempt.attemptId = some attempt :=
    Table.find?_of_mem waits.stored
  simp only [claimPending, Except.bind_eq_ok, loadAttempt_eq_ok, requireSome_eq_ok,
    require_eq_ok, exists_const]
  constructor
  · rintro ⟨attempt, ⟨-, rfl⟩, _, same, admits, ⟨t, row⟩, written, bound, done⟩
    cases Option.some.inj (same.symm.trans found)
    obtain ⟨old, stored, times, -, rfl, rfl⟩ := writeAttempt_eq_ok.mp written
    obtain rfl : attempt = old := Option.some.inj (atKey.symm.trans stored)
    cases done
    refine ⟨⟨admits, times _ rfl⟩, _, rfl, ⟨⟨attempt, ⟨waits.stored, waits.pending, run,
      offers.stored, waits.ofRun, offers.isOpen, _, found, admits⟩, rfl⟩, ⟨offers.stored,
      waits.ofRun⟩, rfl⟩, rfl⟩
  · rintro ⟨⟨admits, created⟩, claim, rfl, handed, rfl⟩
    have times : (attempt.claimed workerId claimToken now leaseSeconds).TimesValid := by
      intro lease held
      cases held
      exact created
    refine ⟨attempt, ⟨valid, rfl⟩, generator, found, admits, ⟨s', _⟩,
      writeAttempt_eq_ok.mpr ⟨attempt, atKey, times,
        valid.claimed waits.pending worker created, handed.stored, rfl⟩, ?_, rfl⟩
    exact ⟨rfl, waits.ofRun.symm, belongs.2.1.symm, belongs.2.2.symm, rfl, named, found⟩

/-- A claim commits to the head attempt of the head run. -/
theorem claim_of_head (sound : s.Sound) (worker : AcceptedWorker workerId)
    (range : 1 ≤ leaseSeconds ∧ leaseSeconds ≤ 7200) {run : GenerationRun}
    {attempt : GeneratorAttempt} (headRun : s.HeadRun locks run)
    (headAttempt : s.HeadAttempt locks run attempt) :
    claimGenerationAttempt now claimToken locks workerId leaseSeconds none s =
      claimPending workerId claimToken now leaseSeconds run attempt s := by
  have search : s.openRun locks (s.candidateRuns none) = .ok (some run) := by
    rw [openRun_eq sound fun run member => mem_candidateRuns.mp member,
      find?_takes_eq_some_iff.mpr headRun]
  have picked := (pendingAttempt?_eq_some_iff sound).mpr headAttempt
  rw [claimGenerationAttempt, require, if_pos worker.normalized, require, if_pos range, search]
  simp only [bind, Except.bind, picked]

/-- Without a head attempt a claim returns nothing. -/
theorem claim_without_head (sound : s.Sound) (worker : AcceptedWorker workerId)
    (range : 1 ≤ leaseSeconds ∧ leaseSeconds ≤ 7200)
    (headless : ∀ run attempt, s.HeadRun locks run → ¬s.HeadAttempt locks run attempt) :
    claimGenerationAttempt now claimToken locks workerId leaseSeconds none s = .ok (s, none) := by
  rw [claimGenerationAttempt, require, if_pos worker.normalized, require, if_pos range,
    openRun_eq sound fun run member => mem_candidateRuns.mp member]
  cases search : (s.candidateRuns none).find? (s.takes locks) with
  | none => rfl
  | some run =>
      have headRun := find?_takes_eq_some_iff.mp search
      cases picked : s.pendingAttempt? locks run.generationRunId with
      | none =>
          simp only [bind, Except.bind, picked]
          rfl
      | some attempt =>
          exact absurd ((pendingAttempt?_eq_some_iff sound).mp picked) (headless run attempt headRun)

end Outcome

/-! ## Completeness -/

/-- **What completeness asks of a claim.** It hands out a pending attempt whenever one could be
claimed, so that it never raises then, and returns nothing only when none could. -/
structure ClaimCompletes (s : GenerationStore) (now : Timestamp) (claimToken : Uuid)
    (locks : GenerationLocks) (workerId : String) (leaseSeconds : Int) : Prop where
  handsOut : (∃ attempt, s.Claimable leaseSeconds attempt) → ∃ s' claim,
    claimGenerationAttempt now claimToken locks workerId leaseSeconds none s =
        .ok (s', some claim) ∧
      s.HandsOut s' workerId claimToken now leaseSeconds claim
  nothing : ∀ s', claimGenerationAttempt now claimToken locks workerId leaseSeconds none s =
    .ok (s', none) → ¬∃ attempt, s.Claimable leaseSeconds attempt

/-- **When a claim completes.** In every reachable store a claim without a run identifier hands
out an attempt whenever one could be claimed exactly when nothing can be claimed or the head
admits the lease. -/
theorem claim_completes_iff (ids : Identities) {trace : List GenerationCall}
    {s : GenerationStore} (reached : Steps (GenerationStep ids) {} trace s) (now : Timestamp)
    (claimToken : Uuid) (locks : GenerationLocks) {workerId : String}
    (worker : AcceptedWorker workerId) {leaseSeconds : Int}
    (range : 1 ≤ leaseSeconds ∧ leaseSeconds ≤ 7200) :
    ClaimCompletes s now claimToken locks workerId leaseSeconds ↔
      (¬∃ attempt, s.Claimable leaseSeconds attempt) ∨
        s.HeadAdmits locks leaseSeconds now := by
  have sound := GenerationStore.Sound.of_steps reached
  constructor
  · intro completes
    by_cases claimable : ∃ attempt, s.Claimable leaseSeconds attempt
    · refine .inr ?_
      obtain ⟨s', claim, ok, -⟩ := completes.handsOut claimable
      by_contra refused
      by_cases headed : ∃ run attempt, s.HeadRun locks run ∧ s.HeadAttempt locks run attempt
      · obtain ⟨run, attempt, headRun, headAttempt⟩ := headed
        obtain ⟨-, generator, found, -⟩ := headAttempt.waits.placed sound headRun.offers.stored
        rw [claim_of_head sound worker range headRun headAttempt,
          claimPending_iff sound worker headRun.offers headAttempt.waits found] at ok
        exact refused ⟨run, attempt, generator, headRun, headAttempt, found, ok.1⟩
      · rw [claim_without_head sound worker range fun run attempt headRun headAttempt =>
          headed ⟨run, attempt, headRun, headAttempt⟩] at ok
        cases ok
    · exact .inl claimable
  · intro admits
    have handsOut : (∃ attempt, s.Claimable leaseSeconds attempt) → ∃ s' claim,
        claimGenerationAttempt now claimToken locks workerId leaseSeconds none s =
            .ok (s', some claim) ∧
          s.HandsOut s' workerId claimToken now leaseSeconds claim := by
      intro claimable
      rcases admits with unclaimable | ⟨run, attempt, generator, headRun, headAttempt, found, fits⟩
      · exact absurd claimable unclaimable
      · have waits := headAttempt.waits
        have handed : s.HandsOut { s with
            attempts := s.attempts.update attempt.attemptId
              (GeneratorAttempt.claimed workerId claimToken now leaseSeconds) }
            workerId claimToken now leaseSeconds
            ⟨run, attempt.claimed workerId claimToken now leaseSeconds, generator,
              run.request⟩ :=
          ⟨⟨attempt, ⟨waits.stored, waits.pending, run, headRun.offers.stored, waits.ofRun,
              headRun.offers.isOpen, generator, found, fits.1⟩, rfl⟩,
            ⟨headRun.offers.stored, waits.ofRun⟩, rfl⟩
        refine ⟨_, _, ?_, handed⟩
        rw [claim_of_head sound worker range headRun headAttempt,
          claimPending_iff sound worker headRun.offers waits found]
        exact ⟨fits, _, rfl, handed, rfl⟩
    refine ⟨handsOut, fun s' nothing claimable => ?_⟩
    obtain ⟨s'', claim, ok, -⟩ := handsOut claimable
    rw [nothing] at ok
    cases ok

/-! ## A short timeout at the head -/

/-- A generator with one attempt and a timeout. -/
def timedGenerator (timeoutSeconds : Int) (range : 1 ≤ timeoutSeconds ∧ timeoutSeconds ≤ 7200) :
    GeneratorPlanEntry where
  generatorId := "generator-a"
  adapterProfile := "apex"
  maxAttempts := 1
  maxProposals := 1
  timeoutSeconds := timeoutSeconds
  maxAttempts_range := ⟨Nat.le_refl 1, Nat.le_add_left 1 7⟩
  timeoutSeconds_range := range

/-- A start of a run of one generator. -/
def startOne (runId : Uuid) (idempotencyKey : String) (generator : GeneratorPlanEntry) :
    GenerationRunStartRequest where
  request :=
    { requestId := runId + 100, generationRunId := runId, maxProposals := 1 }
  plan :=
    { planId := runId + 200, generationRunId := runId, requestId := runId + 100,
      requestHash := "sha256:request", generators := [generator], maxConcurrency := 1,
      budgetMaxProposals := 1, generators_range := ⟨Nat.le_refl 1, Nat.le_add_left 1 7⟩,
      generators_distinct := List.nodup_singleton _,
      maxConcurrency_range := ⟨Nat.le_refl 1, Nat.le_add_left 1 3⟩,
      maxConcurrency_le := Nat.le_refl 1 }
  actor := "operator"
  idempotencyKey := idempotencyKey

/-- Identifiers of two runs. -/
def twoRuns : Identities where
  generationRunIdFor key := if key = "run-one!" then 1 else 2
  generationPlanIdFor runId := runId + 200
  generationAttemptIdFor runId _ number := runId + 300 + BitVec.ofNat 128 number
  candidateGenerationRequestHash _ := "sha256:request"
  apexGenerationPlanHash _ := "sha256:plan"

/-- The run started first allows a minute, the other one two hours. -/
def twoStarts : List GenerationCall :=
  [.start 0 (startOne 1 "run-one!" (timedGenerator 60 (by decide))),
    .start 1 (startOne 2 "run-two!" (timedGenerator 7200 (by decide))),
    .reconcile 2 true 1, .reconcile 2 true 2]

/-- A lease of a minute is admitted by the head, so the claim completes. -/
theorem short_lease_completes :
    ClaimCompletes (runGenerationCalls twoRuns twoStarts {}) 3 7 {} "worker" 60 := by
  have reached := steps_runGenerationCalls twoRuns twoStarts {}
  have sound := GenerationStore.Sound.of_steps reached
  refine (claim_completes_iff twoRuns reached 3 7 {} ⟨by decide +kernel, by decide⟩
    (by decide)).mpr (.inr ?_)
  have checked : ((runGenerationCalls twoRuns twoStarts {}).candidateRuns none |>.find?
      ((runGenerationCalls twoRuns twoStarts {}).takes {})).any (fun run =>
        ((runGenerationCalls twoRuns twoStarts {}).pendingAttempt? {} run.generationRunId).any
          fun attempt => run.plan.generators[attempt.generatorOrdinal]?.any fun generator =>
            decide ((60 : Int) ≤ generator.timeoutSeconds) &&
              decide ((attempt.createdAt : Int) ≤ 3)) = true := by
    decide +kernel
  simp only [Option.any_eq_true, Bool.and_eq_true, decide_eq_true_eq] at checked
  obtain ⟨run, taken, attempt, picked, generator, found, fits⟩ := checked
  exact ⟨run, attempt, generator, find?_takes_eq_some_iff.mp taken,
    (pendingAttempt?_eq_some_iff sound).mp picked, found, fits⟩

/-- **One short timeout stops every claim.** The run that was started first has a generator with
a timeout of a minute, so a claim for two minutes raises, although the other run has a pending
attempt whose generator allows two hours. -/
theorem short_timeout_raises : ∃ trace s, Steps (GenerationStep twoRuns) {} trace s ∧
    claimGenerationAttempt 3 7 {} "worker" 120 none s =
      .error (.conflict "Agent generator claim lease exceeds its immutable timeout") ∧
    (∃ attempt, s.Claimable 120 attempt) ∧ ¬ClaimCompletes s 3 7 {} "worker" 120 := by
  have raised : claimGenerationAttempt 3 7 {} "worker" 120 none
      (runGenerationCalls twoRuns twoStarts {}) =
        .error (.conflict "Agent generator claim lease exceeds its immutable timeout") := by
    decide +kernel
  have claimable : ∃ attempt, (runGenerationCalls twoRuns twoStarts {}).Claimable 120 attempt := by
    have checked : (runGenerationCalls twoRuns twoStarts {}).attempts.rows.any (fun attempt =>
        decide (attempt.state = .pending) &&
          (runGenerationCalls twoRuns twoStarts {}).runs.rows.any fun run =>
            decide (attempt.generationRunId = run.generationRunId) &&
              decide (run.state = .running) &&
              decide ((runGenerationCalls twoRuns twoStarts {}).activeCount run.generationRunId <
                run.plan.maxConcurrency) &&
              run.plan.generators[attempt.generatorOrdinal]?.any fun generator =>
                decide ((120 : Int) ≤ generator.timeoutSeconds)) = true := by
      decide +kernel
    simp only [List.any_eq_true, Option.any_eq_true, Bool.and_eq_true, decide_eq_true_eq]
      at checked
    obtain ⟨attempt, stored, pending, run, inRuns, ⟨⟨ofRun, running⟩, free⟩, generator, found,
      admits⟩ := checked
    exact ⟨attempt, stored, pending, run, inRuns, ofRun, ⟨running, free⟩, generator, found,
      admits⟩
  refine ⟨_, _, steps_runGenerationCalls twoRuns twoStarts {}, raised, claimable, ?_⟩
  intro completes
  obtain ⟨s', claim, ok, -⟩ := completes.handsOut claimable
  rw [raised] at ok
  cases ok

end Agent

end HcuAutoOpt
