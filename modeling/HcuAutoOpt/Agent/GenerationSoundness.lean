import HcuAutoOpt.Storage.AgentGeneration
import HcuAutoOpt.Foundation.CheckedFolds
import HcuAutoOpt.Foundation.Runs

/-!
# Soundness of the generation tables

Every row of a run and of an attempt is valid, and every attempt takes a turn of a generator in
the plan of a stored run. This is what a claim relies on when it looks up the generator of a
pending attempt, and every run of the authority keeps it (`GenerationStore.Sound`,
`Sound.of_steps`).

Operations write through a few primitives. Each primitive keeps the tables sound, and none of
them changes the plan or the request of a run (`GenerationStore.Holds`), so the operations
follow by going through their parts.
-/

set_option autoImplicit false

namespace HcuAutoOpt

namespace Agent

open Foundation

/-! ## Sound tables -/

/-- The attempt belongs to the run and takes a turn of a generator of its plan. -/
def GeneratorAttempt.Placed (attempt : GeneratorAttempt) (run : GenerationRun) : Prop :=
  attempt.BelongsTo run ∧ ∃ generator,
    run.plan.generators[attempt.generatorOrdinal]? = some generator ∧
      generator.generatorId = attempt.generatorId

/-- Rows are valid, and attempts have their place in the plan of a run, one for each turn of a
generator. -/
structure GenerationStore.Sound (s : GenerationStore) : Prop where
  runs : ∀ run ∈ s.runs, run.Valid
  attempts : ∀ attempt ∈ s.attempts, attempt.Valid
  placed : ∀ attempt ∈ s.attempts, ∃ run ∈ s.runs, attempt.Placed run
  turns : ∀ attempt ∈ s.attempts, ∀ other ∈ s.attempts, attempt.SameTurn other → attempt = other

/-- The run is stored, with the plan and the request it was read with. -/
def GenerationStore.Holds (s : GenerationStore) (run : GenerationRun) : Prop :=
  ∃ row, s.runs.find? run.generationRunId = some row ∧ row.plan = run.plan ∧
    row.request = run.request

/-- The tables are sound and hold the run. -/
def GenerationStore.SoundFor (s : GenerationStore) (run : GenerationRun) : Prop :=
  s.Sound ∧ s.Holds run

theorem GenerationStore.sound_empty : ({} : GenerationStore).Sound where
  runs run member := absurd member (Table.not_mem_empty run)
  attempts attempt member := absurd member (Table.not_mem_empty attempt)
  placed attempt member := absurd member (Table.not_mem_empty attempt)
  turns attempt member := absurd member (Table.not_mem_empty attempt)

theorem GenerationStore.holds_of_find {s : GenerationStore} {runId : Uuid} {run : GenerationRun}
    (found : s.runs.find? runId = some run) : s.Holds run :=
  ⟨run, Table.find?_of_mem (Table.mem_of_find? found), rfl, rfl⟩

/-! ## Reading rows -/

theorem loadRun_eq_ok {row run : GenerationRun} :
    loadRun row = .ok run ↔ row.Valid ∧ run = row := by
  simp only [loadRun, Except.bind_eq_ok, require_eq_ok, exists_const]
  exact and_congr_right fun _ => ⟨fun same => by cases same; rfl, fun same => by rw [same]; rfl⟩

theorem loadAttempt_eq_ok {row attempt : GeneratorAttempt} :
    loadAttempt row = .ok attempt ↔ row.Valid ∧ attempt = row := by
  simp only [loadAttempt, Except.bind_eq_ok, require_eq_ok, exists_const]
  exact and_congr_right fun _ => ⟨fun same => by cases same; rfl, fun same => by rw [same]; rfl⟩

/-! ## Writing rows -/

/-- A rewrite of runs that leaves their plans and requests alone. -/
class KeepsAuthority (f : GenerationRun → GenerationRun) : Prop where
  plan : ∀ run, (f run).plan = run.plan
  request : ∀ run, (f run).request = run.request

instance (now : Timestamp) : KeepsAuthority (GenerationRun.started now) :=
  ⟨fun _ => rfl, fun _ => rfl⟩

instance (summary : RunSummary) (now : Timestamp) :
    KeepsAuthority (GenerationRun.summarized summary now) := ⟨fun _ => rfl, fun _ => rfl⟩

instance (evidence : ReviewEvidence) (now : Timestamp) :
    KeepsAuthority (GenerationRun.reviewedBy evidence now) := ⟨fun _ => rfl, fun _ => rfl⟩

/-- The identity of an attempt: everything its place depends on. -/
def GeneratorAttempt.place (attempt : GeneratorAttempt) :
    Uuid × Uuid × Uuid × String × Nat × Nat :=
  (attempt.generationRunId, attempt.planId, attempt.requestId, attempt.generatorId,
    attempt.generatorOrdinal, attempt.attemptNumber)

/-- A rewrite of attempts that leaves them in their place. -/
class KeepsPlace (f : GeneratorAttempt → GeneratorAttempt) : Prop where
  place : ∀ attempt, (f attempt).place = attempt.place

instance (now : Timestamp) : KeepsPlace (GeneratorAttempt.failStale now) := ⟨fun _ => rfl⟩

instance (workerId : String) (claimToken : Uuid) (now : Timestamp) (leaseSeconds : Int) :
    KeepsPlace (GeneratorAttempt.claimed workerId claimToken now leaseSeconds) := ⟨fun _ => rfl⟩

instance (now : Timestamp) (leaseSeconds : Int) :
    KeepsPlace (GeneratorAttempt.renewed now leaseSeconds) := ⟨fun _ => rfl⟩

instance (settlement : Settlement) (now : Timestamp) :
    KeepsPlace (GeneratorAttempt.settled settlement now) := ⟨fun _ => rfl⟩

theorem GeneratorAttempt.placed_congr {attempt attempt' : GeneratorAttempt}
    {run run' : GenerationRun} (place : attempt'.place = attempt.place)
    (runId : run'.generationRunId = run.generationRunId) (plan : run'.plan = run.plan)
    (request : run'.request = run.request) : attempt'.Placed run' ↔ attempt.Placed run := by
  simp only [GeneratorAttempt.place, Prod.mk.injEq] at place
  obtain ⟨ofRun, ofPlan, ofRequest, ofGenerator, ordinal, -⟩ := place
  simp only [GeneratorAttempt.Placed, GeneratorAttempt.BelongsTo, ofRun, ofPlan, ofRequest,
    ofGenerator, ordinal, runId, plan, request]

theorem GeneratorAttempt.sameTurn_congr {attempt attempt' other other' : GeneratorAttempt}
    (place : attempt'.place = attempt.place) (place' : other'.place = other.place) :
    attempt'.SameTurn other' ↔ attempt.SameTurn other := by
  simp only [GeneratorAttempt.place, Prod.mk.injEq] at place place'
  simp only [GeneratorAttempt.SameTurn, place, place']

section Writes

variable {s s' : GenerationStore}

theorem writeRun_eq_ok {runId : Uuid} {f : GenerationRun → GenerationRun} [KeepsKey f]
    {row : GenerationRun} : writeRun runId f s = .ok (s', row) ↔
      ∃ old, s.runs.find? runId = some old ∧ (f old).TimesValid ∧ (f old).Valid ∧
        s' = { s with runs := s.runs.update runId f } ∧ row = f old := by
  simp only [writeRun, Except.bind_eq_ok, requireRow_eq_ok, require_eq_ok, exists_const,
    loadRun_eq_ok]
  constructor
  · rintro ⟨old, found, times, _, ⟨valid, rfl⟩, same⟩
    cases same
    exact ⟨old, found, times, valid, rfl, rfl⟩
  · rintro ⟨old, found, times, valid, rfl, rfl⟩
    exact ⟨old, found, times, f old, ⟨valid, rfl⟩, rfl⟩

theorem writeAttempt_eq_ok {attemptId : Uuid} {f : GeneratorAttempt → GeneratorAttempt}
    [KeepsKey f] {row : GeneratorAttempt} : writeAttempt attemptId f s = .ok (s', row) ↔
      ∃ old, s.attempts.find? attemptId = some old ∧ (f old).TimesValid ∧ (f old).Valid ∧
        s' = { s with attempts := s.attempts.update attemptId f } ∧ row = f old := by
  simp only [writeAttempt, Except.bind_eq_ok, requireRow_eq_ok, require_eq_ok, exists_const,
    loadAttempt_eq_ok]
  constructor
  · rintro ⟨old, found, times, _, ⟨valid, rfl⟩, same⟩
    cases same
    exact ⟨old, found, times, valid, rfl, rfl⟩
  · rintro ⟨old, found, times, valid, rfl, rfl⟩
    exact ⟨old, found, times, f old, ⟨valid, rfl⟩, rfl⟩

/-- Writing a run keeps the tables sound. -/
theorem GenerationStore.Sound.writeRun {runId : Uuid} {f : GenerationRun → GenerationRun}
    [KeepsKey f] [authority : KeepsAuthority f] {row : GenerationRun} (sound : s.Sound)
    (ok : Agent.writeRun runId f s = .ok (s', row)) : s'.Sound := by
  obtain ⟨old, found, -, valid, rfl, rfl⟩ := writeRun_eq_ok.mp ok
  refine ⟨?_, sound.attempts, ?_, sound.turns⟩
  · intro run member
    obtain ⟨before, stored, same⟩ := Table.mem_update.mp member
    split at same
    · rename_i here
      have : before = old := by
        rw [Table.find?_eq_some_iff] at found
        exact Table.eq_of_key_eq stored found.1 (here.trans found.2.symm)
      rw [← same, this]
      exact valid
    · rw [← same]
      exact sound.runs before stored
  · intro attempt member
    obtain ⟨run, stored, placed⟩ := sound.placed attempt member
    refine ⟨_, Table.mem_update.mpr ⟨run, stored, rfl⟩, ?_⟩
    split
    · exact (GeneratorAttempt.placed_congr rfl (KeepsKey.keeps (f := f) run)
        (authority.plan run) (authority.request run)).mpr placed
    · exact placed

/-- No write of a run changes its plan or its request. -/
theorem GenerationStore.Holds.writeRun {runId : Uuid} {f : GenerationRun → GenerationRun}
    [KeepsKey f] [authority : KeepsAuthority f] {row run : GenerationRun} (holds : s.Holds run)
    (ok : Agent.writeRun runId f s = .ok (s', row)) : s'.Holds run := by
  obtain ⟨old, -, -, -, rfl, -⟩ := writeRun_eq_ok.mp ok
  obtain ⟨stored, found, plan, request⟩ := holds
  by_cases same : run.generationRunId = runId
  · refine ⟨f stored, ?_, (authority.plan stored).trans plan,
      (authority.request stored).trans request⟩
    simp [← same, found]
  · exact ⟨stored, by simpa [same] using found, plan, request⟩

/-- Writing an attempt keeps the tables sound. -/
theorem GenerationStore.Sound.writeAttempt {attemptId : Uuid}
    {f : GeneratorAttempt → GeneratorAttempt} [KeepsKey f] [place : KeepsPlace f]
    {row : GeneratorAttempt} (sound : s.Sound)
    (ok : Agent.writeAttempt attemptId f s = .ok (s', row)) : s'.Sound := by
  obtain ⟨old, found, -, valid, rfl, rfl⟩ := writeAttempt_eq_ok.mp ok
  refine ⟨sound.runs, ?_, ?_, ?_⟩
  · intro attempt member
    obtain ⟨before, stored, same⟩ := Table.mem_update.mp member
    split at same
    · rename_i here
      have : before = old := by
        rw [Table.find?_eq_some_iff] at found
        exact Table.eq_of_key_eq stored found.1 (here.trans found.2.symm)
      rw [← same, this]
      exact valid
    · rw [← same]
      exact sound.attempts before stored
  · intro attempt member
    obtain ⟨before, stored, same⟩ := Table.mem_update.mp member
    obtain ⟨run, inRuns, placed⟩ := sound.placed before stored
    refine ⟨run, inRuns, ?_⟩
    rw [← same]
    split
    · exact (GeneratorAttempt.placed_congr (place.place before) rfl rfl rfl).mpr placed
    · exact placed
  · intro attempt member other member' same
    obtain ⟨before, stored, rfl⟩ := Table.mem_update.mp member
    obtain ⟨before', stored', rfl⟩ := Table.mem_update.mp member'
    have keeps : ∀ row : GeneratorAttempt,
        (if key row = attemptId then f row else row).place = row.place := by
      intro row
      split
      · exact place.place row
      · rfl
    have same' : before.SameTurn before' :=
      (GeneratorAttempt.sameTurn_congr (keeps before) (keeps before')).mp same
    rw [sound.turns before stored before' stored' same']

theorem writeAttempt_runs {attemptId : Uuid} {f : GeneratorAttempt → GeneratorAttempt}
    [KeepsKey f] {row : GeneratorAttempt} (ok : Agent.writeAttempt attemptId f s = .ok (s', row)) :
    s'.runs = s.runs := by
  obtain ⟨-, -, -, -, rfl, -⟩ := writeAttempt_eq_ok.mp ok
  rfl

theorem GenerationStore.Holds.of_runs {run : GenerationRun} (holds : s.Holds run)
    (same : s'.runs = s.runs) : s'.Holds run := by
  obtain ⟨row, found, plan, request⟩ := holds
  exact ⟨row, same ▸ found, plan, request⟩

theorem GenerationStore.SoundFor.writeRun {runId : Uuid} {f : GenerationRun → GenerationRun}
    [KeepsKey f] [KeepsAuthority f] {row run : GenerationRun} (sound : s.SoundFor run)
    (ok : Agent.writeRun runId f s = .ok (s', row)) : s'.SoundFor run :=
  ⟨sound.1.writeRun ok, sound.2.writeRun ok⟩

theorem GenerationStore.SoundFor.writeAttempt {attemptId : Uuid}
    {f : GeneratorAttempt → GeneratorAttempt} [KeepsKey f] [KeepsPlace f]
    {row : GeneratorAttempt} {run : GenerationRun} (sound : s.SoundFor run)
    (ok : Agent.writeAttempt attemptId f s = .ok (s', row)) : s'.SoundFor run :=
  ⟨sound.1.writeAttempt ok, sound.2.of_runs (writeAttempt_runs ok)⟩

theorem insertAttempt_eq_ok {row : GeneratorAttempt} : insertAttempt row s = .ok s' ↔
    (∃ run ∈ s.runs, row.BelongsTo run) ∧ s.attempts.find? row.attemptId = none ∧
      (∀ other ∈ s.attempts, ¬row.SameTurn other) ∧
        s' = { s with attempts := s.attempts.insertIfAbsent row } := by
  simp only [insertAttempt, Except.bind_eq_ok, require_eq_ok, exists_const, List.any_eq_true,
    List.all_eq_true, decide_eq_true_eq, Bool.not_eq_true', decide_eq_false_iff_not]
  refine and_congr Iff.rfl (and_congr_right fun _ => and_congr Iff.rfl ?_)
  exact ⟨fun same => by cases same; rfl, fun same => by rw [same]; rfl⟩

/-- Inserting a valid attempt of a stored run keeps the tables sound. -/
theorem GenerationStore.SoundFor.insertAttempt {run : GenerationRun} {row : GeneratorAttempt}
    (sound : s.SoundFor run) (valid : row.Valid) (placed : row.Placed run)
    (ok : Agent.insertAttempt row s = .ok s') : s'.SoundFor run := by
  obtain ⟨-, -, fresh, rfl⟩ := insertAttempt_eq_ok.mp ok
  obtain ⟨stored, found, plan, request⟩ := sound.2
  obtain ⟨member, sameId⟩ := Table.find?_eq_some_iff.mp found
  refine ⟨⟨sound.1.runs, ?_, ?_, ?_⟩, sound.2⟩
  · intro attempt member
    rcases Table.mem_insertIfAbsent.mp member with before | ⟨-, rfl⟩
    · exact sound.1.attempts attempt before
    · exact valid
  · intro attempt member'
    rcases Table.mem_insertIfAbsent.mp member' with before | ⟨-, rfl⟩
    · exact sound.1.placed attempt before
    · exact ⟨stored, member,
        (GeneratorAttempt.placed_congr rfl sameId plan request).mpr placed⟩
  · intro attempt member other member' same
    rcases Table.mem_insertIfAbsent.mp member with before | ⟨-, rfl⟩
    · rcases Table.mem_insertIfAbsent.mp member' with before' | ⟨-, rfl⟩
      · exact sound.1.turns attempt before other before' same
      · exact absurd ⟨same.1.symm, same.2.1.symm, same.2.2.symm⟩ (fresh attempt before)
    · rcases Table.mem_insertIfAbsent.mp member' with before' | ⟨-, rfl⟩
      · exact absurd same (fresh other before')
      · rfl

/-- Proposals play no part in soundness. -/
theorem GenerationStore.SoundFor.of_proposals {run : GenerationRun} (sound : s.SoundFor run)
    (runs : s'.runs = s.runs) (attempts : s'.attempts = s.attempts) : s'.SoundFor run :=
  ⟨⟨runs ▸ sound.1.runs, attempts ▸ sound.1.attempts,
      runs ▸ attempts ▸ sound.1.placed, attempts ▸ sound.1.turns⟩,
    sound.2.of_runs runs⟩

end Writes

/-! ## Reconciliations -/

section Reconciliations

variable {ids : Identities} {s s' : GenerationStore} {run : GenerationRun} {now : Timestamp}

theorem buildPendingAttempt_placed {generator : GeneratorPlanEntry} {ordinal number : Nat}
    (found : run.plan.generators[ordinal]? = some generator) :
    (buildPendingAttempt ids run generator ordinal number now).Placed run :=
  ⟨⟨rfl, rfl, rfl⟩, generator, found, rfl⟩

theorem GenerationStore.SoundFor.failStaleAttempts {attempts : List GeneratorAttempt}
    (sound : s.SoundFor run) (ok : Agent.failStaleAttempts now attempts s = .ok s') :
    s'.SoundFor run := by
  refine foldlM_keeps (P := fun s : GenerationStore => s.SoundFor run) ?_ sound ok
  intro attempt _ t u sound turn
  split at turn
  · cases written : Agent.writeAttempt attempt.attemptId (GeneratorAttempt.failStale now) t with
    | error e => simp [written, Except.map] at turn
    | ok pair =>
        obtain ⟨t', row⟩ := pair
        simp only [written, Except.map, Except.ok.injEq] at turn
        subst turn
        exact sound.writeAttempt written
  · cases turn
    exact sound

theorem GenerationStore.SoundFor.insertRetry {ordinal number : Nat} (sound : s.SoundFor run)
    (ok : Agent.insertRetry ids run ordinal number now s = .ok s') : s'.SoundFor run := by
  simp only [Agent.insertRetry, Except.bind_eq_ok, requireSome_eq_ok, loadAttempt_eq_ok] at ok
  obtain ⟨generator, found, attempt, ⟨valid, rfl⟩, inserted⟩ := ok
  exact sound.insertAttempt valid (buildPendingAttempt_placed found) inserted

theorem GenerationStore.SoundFor.retryGenerator {attempts : List GeneratorAttempt} {ordinal : Nat}
    (sound : s.SoundFor run)
    (ok : Agent.retryGenerator ids run attempts now s ordinal = .ok s') : s'.SoundFor run := by
  obtain ⟨⟨generator, own, latest⟩, -, ok⟩ := Except.bind_eq_ok.mp ok
  dsimp only at ok
  split at ok
  · exact sound.insertRetry ok
  · cases ok
    exact sound

theorem finalizeProposals_runs (runId : Uuid) : (finalizeProposals runId s).1.runs = s.runs := rfl

theorem finalizeProposals_attempts (runId : Uuid) :
    (finalizeProposals runId s).1.attempts = s.attempts := rfl

theorem GenerationStore.SoundFor.summarizeRun {budgetFits : Bool} {run' : GenerationRun}
    (sound : s.SoundFor run)
    (ok : Agent.summarizeRun run budgetFits now s = .ok (s', run')) : s'.SoundFor run := by
  obtain ⟨attempts, -, ok⟩ := Except.bind_eq_ok.mp ok
  obtain ⟨finished, -, ok⟩ := Except.bind_eq_ok.mp ok
  dsimp only at ok
  split at ok
  · obtain ⟨-, -, ok⟩ := Except.bind_eq_ok.mp ok
    exact (sound.of_proposals (finalizeProposals_runs _) (finalizeProposals_attempts _)).writeRun ok
  · obtain ⟨-, -, ok⟩ := Except.bind_eq_ok.mp ok
    exact sound.writeRun ok

theorem GenerationStore.SoundFor.reconcileRunning {budgetFits : Bool} {run' : GenerationRun}
    (sound : s.SoundFor run)
    (ok : Agent.reconcileRunning ids run budgetFits now s = .ok (s', run')) :
    s'.SoundFor run := by
  simp only [Agent.reconcileRunning, Except.bind_eq_ok, require_eq_ok, exists_const] at ok
  obtain ⟨attempts, -, t, failed, attempts', -, -, u, retried, ok⟩ := ok
  have soundU : u.SoundFor run :=
    foldlM_keeps (P := fun s : GenerationStore => s.SoundFor run)
      (fun ordinal _ _ _ sound turn => sound.retryGenerator turn)
      (sound.failStaleAttempts failed) retried
  exact soundU.summarizeRun ok

/-- **A reconciliation keeps the tables sound.** -/
theorem GenerationStore.SoundFor.reconcileLocked {budgetFits : Bool} {row run' : GenerationRun}
    (sound : s.SoundFor row)
    (ok : reconcileGenerationRunLocked ids row budgetFits now s = .ok (s', run')) :
    s'.SoundFor row := by
  simp only [reconcileGenerationRunLocked, Except.bind_eq_ok, loadRun_eq_ok] at ok
  obtain ⟨run, ⟨-, rfl⟩, ok⟩ := ok
  have goesOn : ∀ {t : GenerationStore} {next : GenerationRun}, t.SoundFor run →
      next.generationRunId = run.generationRunId → next.plan = run.plan →
      next.request = run.request → Agent.reconcileRunning ids next budgetFits now t =
        .ok (s', run') → s'.SoundFor run := by
    intro t next sound sameId samePlan sameRequest ok
    have sound' : t.SoundFor next := by
      obtain ⟨sound, stored, found, plan, request⟩ := sound
      exact ⟨sound, stored, sameId ▸ found, plan.trans samePlan.symm,
        request.trans sameRequest.symm⟩
    obtain ⟨sound', stored, found, plan, request⟩ := sound'.reconcileRunning ok
    exact ⟨sound', stored, sameId ▸ found, plan.trans samePlan, request.trans sameRequest⟩
  split at ok
  case h_5 =>
    obtain ⟨⟨t, next⟩, written, ok⟩ := Except.bind_eq_ok.mp ok
    obtain ⟨old, found, -, -, rfl, rfl⟩ := writeRun_eq_ok.mp written
    obtain ⟨stored, found', plan, request⟩ := sound.2
    cases Option.some.inj (found.symm.trans found')
    exact goesOn (sound.writeRun written) (Table.key_of_find? found) plan request ok
  case h_6 => exact goesOn sound rfl rfl rfl ok
  all_goals
    cases ok
    exact sound

end Reconciliations

/-! ## Calls -/

section Calls

variable {ids : Identities} {s s' : GenerationStore} {now : Timestamp}

theorem startAttempts_placed {start : GenerationRunStartRequest} {attempt : GeneratorAttempt}
    (member : attempt ∈ start.attempts ids now) : attempt.Placed (start.run ids now) := by
  obtain ⟨⟨generator, ordinal⟩, inPlan, rfl⟩ := List.mem_map.mp member
  exact buildPendingAttempt_placed (List.mk_mem_zipIdx_iff_getElem?.mp inPlan)

/-- A run whose row clashes with no stored one is inserted. -/
theorem GenerationStore.Sound.insertRun {run : GenerationRun} (sound : s.Sound) (valid : run.Valid)
    (fresh : s.runs.find? run.generationRunId = none) :
    ({ s with runs := s.runs.insertIfAbsent run } : GenerationStore).SoundFor run := by
  refine ⟨⟨?_, sound.attempts, ?_, sound.turns⟩, run, ?_, rfl, rfl⟩
  · intro other member
    rcases Table.mem_insertIfAbsent.mp member with before | ⟨-, rfl⟩
    · exact sound.runs other before
    · exact valid
  · intro attempt member
    obtain ⟨other, stored, placed⟩ := sound.placed attempt member
    exact ⟨other, Table.mem_insertIfAbsent.mpr (.inl stored), placed⟩
  · exact Table.find?_of_mem (Table.mem_insertIfAbsent.mpr (.inr ⟨fresh, rfl⟩))

theorem GenerationStore.Sound.createGenerationRun {run : GenerationRun}
    {attempts : List GeneratorAttempt} {reply : GenerationRun × Bool} (sound : s.Sound)
    (valid : run.Valid) (validAttempts : ∀ attempt ∈ attempts, attempt.Valid)
    (placed : ∀ attempt ∈ attempts, attempt.Placed run)
    (ok : Agent.createGenerationRun run attempts s = .ok (s', reply)) : s'.Sound := by
  simp only [Agent.createGenerationRun, Except.bind_eq_ok, require_eq_ok, exists_const] at ok
  obtain ⟨-, -, ok⟩ := ok
  split at ok
  case h_1 empty =>
    obtain ⟨t, inserted, ok⟩ := Except.bind_eq_ok.mp ok
    cases ok
    have fresh : s.runs.find? run.generationRunId = none := by
      rw [Table.find?_eq_none_iff]
      intro other member same
      have := List.filter_eq_nil_iff.mp empty other member
      exact this (decide_eq_true (.inl same))
    exact (foldlM_keeps (P := fun s : GenerationStore => s.SoundFor run)
      (fun attempt member _ _ sound turn =>
        sound.insertAttempt (validAttempts attempt member) (placed attempt member) turn)
      (sound.insertRun valid fresh) inserted).1
  case h_2 =>
    simp only [Except.bind_eq_ok, require_eq_ok, exists_const] at ok
    obtain ⟨stored, -, -, ok⟩ := ok
    cases ok
    exact sound
  case h_3 => cases ok

theorem buildGenerationRunStart_eq_ok {start : GenerationRunStartRequest} {createdAt : Timestamp}
    {run : GenerationRun} {attempts : List GeneratorAttempt}
    (ok : buildGenerationRunStart ids start createdAt = .ok (run, attempts)) :
    run = start.run ids createdAt ∧ attempts = start.attempts ids createdAt := by
  simp only [buildGenerationRunStart, Except.bind_eq_ok, require_eq_ok, exists_const] at ok
  obtain ⟨-, -, -, -, -, ok⟩ := ok
  cases ok
  exact ⟨rfl, rfl⟩

theorem mapError_eq_ok {ε ε' α : Type} {x : Except ε α} {f : ε → ε'} {a : α} :
    x.mapError f = .ok a ↔ x = .ok a := by
  cases x <;> simp [Except.mapError]

theorem GenerationStore.Sound.startGenerationRun {start : GenerationRunStartRequest}
    {reply : GenerationRun × Bool} (sound : s.Sound)
    (ok : Agent.startGenerationRun ids now start s = .ok (s', reply)) : s'.Sound := by
  obtain ⟨⟨run, attempts⟩, built, ok⟩ := Except.bind_eq_ok.mp ok
  simp only [Except.bind_eq_ok, require_eq_ok, exists_const] at ok
  obtain ⟨valid, validAttempts, ok⟩ := ok
  obtain ⟨rfl, rfl⟩ := buildGenerationRunStart_eq_ok (mapError_eq_ok.mp built)
  exact sound.createGenerationRun valid validAttempts
    (fun attempt member => startAttempts_placed member) ok

theorem GenerationStore.Sound.claimPending {workerId : String} {claimToken : Uuid}
    {leaseSeconds : Int} {run : GenerationRun} {row : GeneratorAttempt}
    {reply : Option GenerationAttemptClaim} (sound : s.Sound)
    (ok : Agent.claimPending workerId claimToken now leaseSeconds run row s = .ok (s', reply)) :
    s'.Sound := by
  obtain ⟨pending, -, ok⟩ := Except.bind_eq_ok.mp ok
  obtain ⟨generator, -, ok⟩ := Except.bind_eq_ok.mp ok
  obtain ⟨-, -, ok⟩ := Except.bind_eq_ok.mp ok
  obtain ⟨⟨t, attempt⟩, written, ok⟩ := Except.bind_eq_ok.mp ok
  obtain ⟨-, -, ok⟩ := Except.bind_eq_ok.mp ok
  cases ok
  exact sound.writeAttempt written

theorem GenerationStore.Sound.claimGenerationAttempt {claimToken : Uuid} {locks : GenerationLocks}
    {workerId : String} {leaseSeconds : Int} {only : Option Uuid}
    {reply : Option GenerationAttemptClaim} (sound : s.Sound)
    (ok : Agent.claimGenerationAttempt now claimToken locks workerId leaseSeconds only s =
      .ok (s', reply)) : s'.Sound := by
  simp only [Agent.claimGenerationAttempt, Except.bind_eq_ok, require_eq_ok, exists_const] at ok
  obtain ⟨-, -, found, -, ok⟩ := ok
  cases found with
  | none =>
      cases ok
      exact sound
  | some run =>
      dsimp only at ok
      split at ok
      · cases ok
        exact sound
      · exact sound.claimPending ok

theorem boundAttempt_eq_ok {attemptId : Uuid} {attempt : GeneratorAttempt} {run : GenerationRun}
    {generator : GeneratorPlanEntry}
    (ok : s.boundAttempt attemptId = .ok (attempt, run, generator)) :
    s.attempts.find? attemptId = some attempt ∧
      s.runs.find? attempt.generationRunId = some run := by
  simp only [GenerationStore.boundAttempt, Except.bind_eq_ok, requireRow_eq_ok, loadRun_eq_ok,
    loadAttempt_eq_ok] at ok
  obtain ⟨attemptRow, found, runRow, ofRun, _, ⟨-, rfl⟩, _, ⟨-, rfl⟩, _, -, same⟩ := ok
  cases same
  exact ⟨found, ofRun⟩

theorem GenerationStore.Sound.reportStale {budgetFits : Bool} {attempt : GeneratorAttempt}
    {runId : Uuid} {run : GenerationRun} {message : String}
    {reply : Except Error GeneratorAttempt} (sound : s.Sound)
    (found : s.runs.find? runId = some run)
    (ok : Agent.reportStale ids now budgetFits attempt run message s = .ok (s', reply)) :
    s'.Sound := by
  simp only [Agent.reportStale] at ok
  split at ok
  · obtain ⟨⟨t, run'⟩, reconciled, ok⟩ := Except.bind_eq_ok.mp ok
    cases ok
    exact (GenerationStore.SoundFor.reconcileLocked
      ⟨sound, GenerationStore.holds_of_find found⟩ reconciled).1
  · cases ok
    exact sound

theorem GenerationStore.Sound.renewGenerationAttemptClaim {budgetFits : Bool}
    {attemptId claimToken : Uuid} {leaseSeconds : Int} {reply : Except Error GeneratorAttempt}
    (sound : s.Sound) (ok : Agent.renewGenerationAttemptClaim ids now budgetFits attemptId
      claimToken leaseSeconds s = .ok (s', reply)) : s'.Sound := by
  obtain ⟨-, -, ok⟩ := Except.bind_eq_ok.mp ok
  obtain ⟨⟨attempt, run, generator⟩, bound, ok⟩ := Except.bind_eq_ok.mp ok
  obtain ⟨-, -, ok⟩ := Except.bind_eq_ok.mp ok
  dsimp only at ok
  split at ok
  · obtain ⟨⟨t, row⟩, written, ok⟩ := Except.bind_eq_ok.mp ok
    cases ok
    exact sound.writeAttempt written
  · exact sound.reportStale (boundAttempt_eq_ok bound).2 ok

theorem insertProposal_eq_ok {ref : CandidateProposalRef} (ok : insertProposal ref s = .ok s') :
    s'.runs = s.runs ∧ s'.attempts = s.attempts := by
  simp only [insertProposal, Except.bind_eq_ok, require_eq_ok, exists_const] at ok
  obtain ⟨-, -, ok⟩ := ok
  cases ok
  exact ⟨rfl, rfl⟩

theorem GenerationStore.Sound.settleGenerationAttempt {budgetFits : Bool}
    {attemptId claimToken : Uuid} {settlement : Settlement}
    {reply : Except Error GeneratorAttempt} (sound : s.Sound)
    (ok : Agent.settleGenerationAttempt ids now budgetFits attemptId claimToken settlement s =
      .ok (s', reply)) : s'.Sound := by
  obtain ⟨-, -, ok⟩ := Except.bind_eq_ok.mp ok
  obtain ⟨-, -, ok⟩ := Except.bind_eq_ok.mp ok
  obtain ⟨⟨attempt, run, generator⟩, bound, ok⟩ := Except.bind_eq_ok.mp ok
  obtain ⟨-, -, ok⟩ := Except.bind_eq_ok.mp ok
  have found := (boundAttempt_eq_ok bound).2
  dsimp only at ok
  split at ok
  · obtain ⟨-, -, ok⟩ := Except.bind_eq_ok.mp ok
    cases ok
    exact sound
  · split at ok
    · obtain ⟨refs, -, ok⟩ := Except.bind_eq_ok.mp ok
      obtain ⟨⟨t, row⟩, written, ok⟩ := Except.bind_eq_ok.mp ok
      obtain ⟨u, inserted, ok⟩ := Except.bind_eq_ok.mp ok
      obtain ⟨⟨v, run'⟩, reconciled, ok⟩ := Except.bind_eq_ok.mp ok
      obtain ⟨row', -, ok⟩ := Except.bind_eq_ok.mp ok
      obtain ⟨result, -, ok⟩ := Except.bind_eq_ok.mp ok
      cases ok
      have soundT : t.SoundFor run := GenerationStore.SoundFor.writeAttempt
        ⟨sound, GenerationStore.holds_of_find found⟩ written
      have soundU : u.SoundFor run :=
        foldlM_keeps (P := fun s : GenerationStore => s.SoundFor run)
          (fun ref _ _ _ sound turn =>
            sound.of_proposals (insertProposal_eq_ok turn).1 (insertProposal_eq_ok turn).2)
          soundT inserted
      exact (soundU.reconcileLocked reconciled).1
    · exact sound.reportStale found ok

theorem GenerationStore.Sound.completeGenerationReview {runId : Uuid} {evidence : ReviewEvidence}
    {reply : GenerationRun} (sound : s.Sound)
    (ok : Agent.completeGenerationReview now runId evidence s = .ok (s', reply)) : s'.Sound := by
  obtain ⟨row, -, ok⟩ := Except.bind_eq_ok.mp ok
  obtain ⟨run, -, ok⟩ := Except.bind_eq_ok.mp ok
  split at ok
  · obtain ⟨-, -, ok⟩ := Except.bind_eq_ok.mp ok
    cases ok
    exact sound
  · obtain ⟨-, -, ok⟩ := Except.bind_eq_ok.mp ok
    exact sound.writeRun ok

end Calls

/-! ## Steps and runs -/

/-- A committed call keeps the tables sound. -/
theorem GenerationStore.Sound.call {ids : Identities} {s s' : GenerationStore}
    {call : GenerationCall} {reply : Unit} (sound : s.Sound)
    (ok : call.run ids s = .ok (s', reply)) : s'.Sound := by
  cases call with
  | start createdAt request =>
      obtain ⟨_, ok⟩ := Transaction.silent_eq_ok.mp ok
      exact sound.startGenerationRun ok
  | reconcile now budgetFits runId =>
      obtain ⟨_, ok⟩ := Transaction.silent_eq_ok.mp ok
      obtain ⟨row, found, ok⟩ := Except.bind_eq_ok.mp ok
      exact (GenerationStore.SoundFor.reconcileLocked
        ⟨sound, GenerationStore.holds_of_find (requireRow_eq_ok.mp found)⟩ ok).1
  | claim now claimToken locks workerId leaseSeconds only =>
      obtain ⟨_, ok⟩ := Transaction.silent_eq_ok.mp ok
      exact sound.claimGenerationAttempt ok
  | renew now budgetFits attemptId claimToken leaseSeconds =>
      obtain ⟨_, ok⟩ := Transaction.silent_eq_ok.mp ok
      exact sound.renewGenerationAttemptClaim ok
  | settle now budgetFits attemptId claimToken settlement =>
      obtain ⟨_, ok⟩ := Transaction.silent_eq_ok.mp ok
      exact sound.settleGenerationAttempt ok
  | completeReview now runId evidence =>
      obtain ⟨_, ok⟩ := Transaction.silent_eq_ok.mp ok
      exact sound.completeGenerationReview ok

theorem GenerationStep.sound {ids : Identities} {s s' : GenerationStore} {call : GenerationCall}
    (step : GenerationStep ids s call s') (sound : s.Sound) : s'.Sound := by
  rcases commit_cases (call.run ids) s with ⟨e, -, same⟩ | ⟨t, reply, ok, same⟩
  · rw [step, same]
    exact sound
  · rw [step, same]
    exact sound.call ok

/-- **The tables are sound along every run.** -/
theorem GenerationStore.Sound.of_steps {ids : Identities} {s : GenerationStore}
    {trace : List GenerationCall} (run : Steps (GenerationStep ids) {} trace s) : s.Sound :=
  run.invariant (fun _ _ _ sound step => GenerationStep.sound step sound)
    GenerationStore.sound_empty

/-- Running a list of calls is a run. -/
theorem steps_runGenerationCalls (ids : Identities) (calls : List GenerationCall)
    (s : GenerationStore) :
    Steps (GenerationStep ids) s calls (runGenerationCalls ids calls s) := by
  induction calls generalizing s with
  | nil => exact .refl s
  | cons call calls ih => exact (Steps.single rfl).trans (ih (commit (call.run ids) s).1)

end Agent

end HcuAutoOpt
