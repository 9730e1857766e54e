import HcuAutoOpt.Agent.AuthorityMoves

/-!
# Scheduled runs along every run

Every move of the Agent Generation Authority keeps the tables orderly: they stay sound, and
every stored run stays scheduled. A new attempt is the first of its generator or follows a
failed one, and an attempt is only started in a run that has a free slot.
-/

set_option autoImplicit false

namespace HcuAutoOpt

namespace Agent

open Foundation

/-- **Orderly tables** are sound, and every run in them is scheduled. -/
structure GenerationStore.Orderly (s : GenerationStore) : Prop where
  sound : s.Sound
  scheduled : ∀ run ∈ s.runs, s.Scheduled run

theorem GenerationStore.orderly_empty : ({} : GenerationStore).Orderly where
  sound := GenerationStore.sound_empty
  scheduled run member := absurd member (Table.not_mem_empty run)

/-! ## Primitive writes -/

section Writes

variable {s s' : GenerationStore} {run : GenerationRun}

theorem GenerationStore.Orderly.writeRun {runId : Uuid} {f : GenerationRun → GenerationRun}
    [KeepsKey f] [KeepsInputs f] {row : GenerationRun} (orderly : s.Orderly)
    (ok : Agent.writeRun runId f s = .ok (s', row)) : s'.Orderly := by
  have authority := KeepsInputs.authority f
  refine ⟨orderly.sound.writeRun ok, ?_⟩
  obtain ⟨old, found, -, -, rfl, -⟩ := writeRun_eq_ok.mp ok
  intro run member
  obtain ⟨before, stored, same⟩ := Table.mem_update.mp member
  have scheduled := orderly.scheduled before stored
  split at same
  · rw [← same]
    exact scheduled.congr rfl (KeepsKey.keeps (f := f) before) (authority.plan before)
  · rw [← same]
    exact scheduled.congr rfl rfl rfl

/-- Proposals play no part in schedules. -/
theorem GenerationStore.Orderly.of_proposals (orderly : s.Orderly) (runs : s'.runs = s.runs)
    (attempts : s'.attempts = s.attempts) : s'.Orderly where
  sound :=
    { runs := runs ▸ orderly.sound.runs
      attempts := attempts ▸ orderly.sound.attempts
      placed := runs ▸ attempts ▸ orderly.sound.placed
      turns := attempts ▸ orderly.sound.turns }
  scheduled run member := (orderly.scheduled run (runs ▸ member)).congr attempts rfl rfl

theorem GenerationStore.Orderly.writeAttempt {attemptId : Uuid}
    {f : GeneratorAttempt → GeneratorAttempt} [KeepsKey f] [KeepsPlace f]
    {row old : GeneratorAttempt} (orderly : s.Orderly)
    (ok : Agent.writeAttempt attemptId f s = .ok (s', row))
    (found : s.attempts.find? attemptId = some old)
    (failed : old.state = .failed → (f old).state = .failed)
    (slot : (f old).state = .running → old.state = .running ∨ ∀ run ∈ s.runs,
      old.generationRunId = run.generationRunId →
        s.activeCount run.generationRunId < run.plan.maxConcurrency) : s'.Orderly := by
  refine ⟨orderly.sound.writeAttempt ok, ?_⟩
  obtain ⟨-, -, -, -, rfl, -⟩ := writeAttempt_eq_ok.mp ok
  intro run member
  refine (orderly.scheduled run member).update found failed fun ofRun starts => ?_
  exact (slot starts).imp_right fun free => free run member ofRun

/-- A new attempt is the first of its generator or follows failed ones. -/
theorem GenerationStore.Orderly.insertAttempt {row : GeneratorAttempt}
    {generator : GeneratorPlanEntry} (orderly : s.Orderly) (holds : s.Holds run)
    (valid : row.Valid) (placed : row.Placed run) (pending : row.state = .pending)
    (planned : run.plan.generators[row.generatorOrdinal]? = some generator)
    (failed : ∀ attempt ∈ s.turns row.generationRunId row.generatorOrdinal,
      attempt.state = .failed)
    (number : row.attemptNumber =
      (s.turns row.generationRunId row.generatorOrdinal).length + 1)
    (room : row.attemptNumber ≤ generator.maxAttempts)
    (ok : Agent.insertAttempt row s = .ok s') : s'.Orderly := by
  have sound : s'.SoundFor run :=
    GenerationStore.SoundFor.insertAttempt ⟨orderly.sound, holds⟩ valid placed ok
  refine ⟨sound.1, ?_⟩
  obtain ⟨-, absent, -, rfl⟩ := insertAttempt_eq_ok.mp ok
  obtain ⟨stored, found, plan, -⟩ := holds
  intro other member
  refine (orderly.scheduled other member).insert absent pending (fun ofOther => ?_) failed number
    room
  have same : other = stored := by
    refine Table.eq_of_key_eq member (Table.mem_of_find? found) ?_
    exact (ofOther.symm.trans placed.1.1.symm).trans (Table.key_of_find? found).symm
  rw [same, plan]
  exact planned

/-- A new run has no attempts. -/
theorem GenerationStore.Orderly.insertRun (orderly : s.Orderly) (valid : run.Valid)
    (unknown : ∀ other ∈ s.runs, other.generationRunId ≠ run.generationRunId) :
    ({ s with runs := s.runs.insertIfAbsent run } : GenerationStore).Orderly ∧
      ({ s with runs := s.runs.insertIfAbsent run } : GenerationStore).Holds run ∧
        ∀ attempt ∈ s.attempts, attempt.generationRunId ≠ run.generationRunId := by
  have none : ∀ attempt ∈ s.attempts, attempt.generationRunId ≠ run.generationRunId := by
    intro attempt stored ofRun
    obtain ⟨other, inRuns, belongs, -⟩ := orderly.sound.placed attempt stored
    exact unknown other inRuns (belongs.1.trans ofRun)
  have sound := orderly.sound.insertRun valid (Table.find?_eq_none_iff.mpr unknown)
  refine ⟨⟨sound.1, ?_⟩, sound.2, none⟩
  intro other member
  rcases Table.mem_insertIfAbsent.mp member with old | ⟨-, rfl⟩
  · exact (orderly.scheduled other old).congr rfl rfl rfl
  · constructor
    · intro ordinal generator planned
      have empty : s.turns other.generationRunId ordinal = [] := by
        refine List.filter_eq_nil_iff.mpr fun attempt stored => ?_
        simp [none attempt stored]
      exact empty ▸ Chain.nil generator.maxAttempts
    · have idle : s.activeCount other.generationRunId = 0 := by
        refine List.length_eq_zero_iff.mpr (List.filter_eq_nil_iff.mpr fun attempt stored => ?_)
        simp [none attempt stored]
      exact idle.trans_le (Nat.zero_le _)

/-- Inserting the first attempts of a run, of which the generators left have none. -/
theorem GenerationStore.Orderly.insertFirst {attempts : List GeneratorAttempt}
    (orderly : s.Orderly) (holds : s.Holds run) (firsts : FirstAttempts run attempts)
    (valid : ∀ attempt ∈ attempts, attempt.Valid)
    (none : ∀ attempt ∈ attempts, s.turns run.generationRunId attempt.generatorOrdinal = [])
    (ok : attempts.foldlM (fun s attempt => Agent.insertAttempt attempt s) s = .ok s') :
    s'.Orderly := by
  induction attempts generalizing s with
  | nil =>
      cases ok
      exact orderly
  | cons attempt attempts ih =>
      obtain ⟨t, turn, rest⟩ := Except.bind_eq_ok.mp ok
      obtain ⟨fresh, distinct⟩ := List.nodup_cons.mp firsts.distinct
      obtain ⟨number, pending⟩ := firsts.first attempt List.mem_cons_self
      have placed := firsts.placed attempt List.mem_cons_self
      have belongs := placed.1
      obtain ⟨generator, planned, -⟩ := placed.2
      have empty : s.turns attempt.generationRunId attempt.generatorOrdinal = [] := by
        rw [← belongs.1]
        exact none attempt List.mem_cons_self
      refine ih (orderly.insertAttempt holds (valid attempt List.mem_cons_self) placed pending
        planned (by simp [empty]) (by simp [empty, number]) ?_ turn) (holds.of_runs ?_)
        ⟨distinct, fun other later => firsts.placed other (List.mem_cons_of_mem _ later),
          fun other later => firsts.first other (List.mem_cons_of_mem _ later)⟩
        (fun other later => valid other (List.mem_cons_of_mem _ later)) ?_ rest
      · exact number.trans_le generator.maxAttempts_range.1
      · obtain ⟨-, -, -, rfl⟩ := insertAttempt_eq_ok.mp turn
        rfl
      · intro other later
        have before := none other (List.mem_cons_of_mem _ later)
        obtain ⟨-, absent, -, rfl⟩ := insertAttempt_eq_ok.mp turn
        unfold GenerationStore.turns at before ⊢
        have apart : attempt.generatorOrdinal ≠ other.generatorOrdinal := by
          intro same
          exact fresh (same ▸ List.mem_map_of_mem later)
        rw [Table.filter_insertIfAbsent absent, before, if_neg (by simp [apart])]
        rfl

/-- **A move keeps the tables orderly.** -/
theorem GenerationStore.Orderly.move (orderly : s.Orderly) (move : GenerationMove s s') :
    s'.Orderly := by
  cases move with
  | start valid unknown firsts validAttempts ok =>
      obtain ⟨orderly', holds, none⟩ := orderly.insertRun valid unknown
      refine orderly'.insertFirst holds firsts validAttempts (fun attempt _ => ?_) ok
      refine List.filter_eq_nil_iff.mpr fun other stored => ?_
      simp [none other stored]
  | retry holds valid placed pending planned last failed room number ok =>
      obtain ⟨row, stored, plan, -⟩ := id holds
      have scheduled := (orderly.scheduled row (Table.mem_of_find? stored)).chains _ _
        (plan ▸ planned)
      rw [show row.generationRunId = _ from Table.key_of_find? stored] at scheduled
      obtain ⟨length, allFailed⟩ := scheduled.next last.turn failed last.last
      rw [placed.1.1] at length allFailed
      exact orderly.insertAttempt holds valid placed pending planned allFailed
        (number.trans (congrArg Nat.succ length)) (number.trans_le room) ok
  | writeRun ok => exact orderly.writeRun ok
  | writeAttempt ok found isOpen forward raised slot =>
      refine orderly.writeAttempt ok found (fun failed => ?_) slot
      rw [failed] at isOpen
      cases isOpen
  | insertProposal ok =>
      obtain ⟨runs, attempts⟩ := insertProposal_eq_ok ok
      exact orderly.of_proposals runs attempts
  | finalizeProposals runId =>
      exact orderly.of_proposals (finalizeProposals_runs runId) (finalizeProposals_attempts runId)

theorem GenerationStore.Orderly.moves (orderly : s.Orderly) (moves : GenerationMoves s s') :
    s'.Orderly := by
  induction moves with
  | refl => exact orderly
  | tail _ move ih => exact ih.move move

end Writes

/-- **Every run of the authority is scheduled.** In every store that calls of the authority
reach, the attempts of a generator are numbered from one without a gap and are no more than its
plan allows, all but the last have failed, and no more attempts of a run are running at once
than its plan allows. -/
theorem runs_scheduled {ids : Identities} {trace : List GenerationCall} {s : GenerationStore}
    (run : Steps (GenerationStep ids) {} trace s) : ∀ run ∈ s.runs, s.Scheduled run :=
  (GenerationStore.orderly_empty.moves (moves_of_steps run)).scheduled

/-! ## A run with a retry -/

theorem patientAttempts_range : 1 ≤ 2 ∧ 2 ≤ 8 := by decide

theorem patientTimeout_range : (1 : Int) ≤ 60 ∧ (60 : Int) ≤ 7200 := by decide

/-- A generator with two attempts of a minute. -/
def patientGenerator : GeneratorPlanEntry where
  generatorId := "generator-a"
  adapterProfile := "apex"
  maxAttempts := 2
  maxProposals := 1
  timeoutSeconds := 60
  terms := [("max_output_bytes_per_attempt", .int 1000), ("max_tokens_per_attempt", .int 500)]
  maxAttempts_range := patientAttempts_range
  timeoutSeconds_range := patientTimeout_range

theorem patientGenerators_range :
    1 ≤ [patientGenerator].length ∧ [patientGenerator].length ≤ 8 := by decide

theorem patientGenerators_distinct :
    ([patientGenerator].map GeneratorPlanEntry.generatorId).Nodup := List.nodup_singleton _

theorem patientConcurrency_range : 1 ≤ 1 ∧ 1 ≤ 4 := by decide

theorem patientConcurrency_le : 1 ≤ [patientGenerator].length := Nat.le_refl 1

/-- A start of a run of that generator, with a budget for both attempts. -/
def patientStart : GenerationRunStartRequest where
  request := { requestId := 101, generationRunId := 1, maxProposals := 1 }
  plan :=
    { planId := 201, generationRunId := 1, requestId := 101, requestHash := "sha256:request",
      generators := [patientGenerator], maxConcurrency := 1, budgetMaxProposals := 1,
      terms := [("budget", .obj [("max_generator_attempts", .int 2),
        ("max_wall_seconds", .int 120), ("max_total_output_bytes", .int 2000),
        ("max_total_tokens", .int 1000)])],
      generators_range := patientGenerators_range
      generators_distinct := patientGenerators_distinct
      maxConcurrency_range := patientConcurrency_range
      maxConcurrency_le := patientConcurrency_le }
  actor := "operator"
  idempotencyKey := "run-one!"

/-- Identifiers of the run and its attempts. -/
def patientIds : Identities where
  generationRunIdFor _ := 1
  generationPlanIdFor runId := runId + 200
  generationAttemptIdFor runId _ number := runId + 300 + BitVec.ofNat 128 number
  candidateGenerationRequestHash _ := "sha256:request"
  apexGenerationPlanHash _ := "sha256:plan"

/-- The first attempt is claimed, and its lease expires before the run is reconciled. -/
def patientCalls : List GenerationCall :=
  [.start 0 patientStart, .reconcile 1 true 1, .claim 2 7 {} "worker" 60 none,
    .reconcile (seconds 100) true 1]

/-- The provenance of the generator and of its runner. -/
def patientProvenance (profile capability : String) : AdapterProvenance where
  profile := profile
  capability := capability
  adapterName := "adapter"
  adapterVersion := "1.0.0"
  implementationKind := "real"
  sourceCommit := none

/-- The batch of the second attempt, with one proposal. -/
def patientBatch : CandidateProposalBatch where
  batchId := 601
  requestId := 101
  requestHash := "sha256:request"
  generationRunId := 1
  generatorId := "generator-a"
  adapterProvenance := patientProvenance "apex" "candidate_proposal_generation"
  status := .succeeded
  proposals :=
    [{ proposalId := 501, proposalHash := "sha256:proposal", requestHash := "sha256:request",
       ordinal := 0, patchUri := "file:///patch", patchHash := "sha256:patch",
       normalizedPatchHash := "sha256:normal" }]
  rawOutputUri := "file:///raw"
  rawOutputHash := "sha256:raw"
  attemptCount := 2
  error := none
  batchHash := "sha256:batch"

/-- The settlement of the second attempt with its batch. -/
def patientSettlement : Settlement where
  batch := some patientBatch
  batchUri := some "file:///batch"
  receipt := ⟨701, "file:///receipt", "sha256:receipt", "v1",
    patientProvenance "runner" "agent_runner"⟩
  executionStatus := "succeeded"

theorem runs_scheduled_patient : ∃ run ∈ (runGenerationCalls patientIds patientCalls {}).runs,
    (runGenerationCalls patientIds patientCalls {}).Scheduled run := by
  have checked : (runGenerationCalls patientIds patientCalls {}).runs.rows.any
      (fun _ => true) = true := by
    decide +kernel
  obtain ⟨run, stored, -⟩ := List.any_eq_true.mp checked
  exact ⟨run, stored, runs_scheduled (steps_runGenerationCalls patientIds patientCalls {}) run
    stored⟩

end Agent

end HcuAutoOpt
