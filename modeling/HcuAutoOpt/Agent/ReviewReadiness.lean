import HcuAutoOpt.Agent.ClaimCompleteness
import HcuAutoOpt.Agent.ProposalDispositions

/-!
# What a run under review shows

A run collects proposals while it is created or running: the attempts of a generator fail one
after another, and no proposal has a disposition. When it awaits its review it is settled: no
attempt is open, its counters count the rows of the run, and the dispositions are those of all
its proposals together (`GenerationStore.Reviewed`). Every proposal that is stored comes from
the batch its attempt has succeeded with (`GenerationStore.Sourced`).

The tables are accountable when all of this holds (`GenerationStore.Accountable`). A call works
on one run and leaves the rows of every other run alone, so what it has to show is about the
run it works on (`Accountable.turn`). The primitives that write rows keep the tables
accountable as long as their run collects.
-/

set_option autoImplicit false

namespace HcuAutoOpt

namespace Agent

open Foundation

/-! ## The rows of a run -/

/-- The proposals of a run. -/
def GenerationStore.proposalsOf (s : GenerationStore) (runId : Uuid) :
    List CandidateProposalRef :=
  s.proposals.rows.filter fun proposal => decide (proposal.generationRunId = runId)

/-- The run waits for attempts to end. -/
def GenerationRun.Collects (run : GenerationRun) : Prop :=
  run.state = .created ∨ run.state = .running

/-- The hashes of the run are those of its documents. -/
def GenerationRun.Authoritative (ids : Identities) (run : GenerationRun) : Prop :=
  run.requestHash = ids.candidateGenerationRequestHash run.request ∧
    run.planHash = ids.apexGenerationPlanHash run.plan

/-- A generator is not tried again before its earlier attempts have failed. -/
def GenerationStore.Ordered (s : GenerationStore) (runId : Uuid) : Prop :=
  ∀ earlier ∈ s.attemptsOf runId, ∀ later ∈ s.attemptsOf runId,
    earlier.generatorOrdinal = later.generatorOrdinal →
      earlier.attemptNumber < later.attemptNumber → earlier.state = .failed

/-- No proposal of the run has a disposition. -/
def GenerationStore.Undecided (s : GenerationStore) (runId : Uuid) : Prop :=
  ∀ proposal ∈ s.proposalsOf runId, proposal.disposition = .pending

/-- **The rows of a run under review.** No attempt is open, every generator has one, the
counters count the rows, and the dispositions are decided. -/
structure GenerationStore.Reviewed (s : GenerationStore) (run : GenerationRun) : Prop where
  ended : ∀ attempt ∈ s.attemptsOf run.generationRunId, attempt.state.terminal = true
  covered : ∀ ordinal < run.plannedGeneratorCount, ∃ attempt ∈ s.attemptsOf run.generationRunId,
    attempt.generatorOrdinal = ordinal
  attempts : run.attemptCount = (s.attemptsOf run.generationRunId).length
  terminalAttempts : run.terminalAttemptCount = (s.attemptsOf run.generationRunId).length
  proposals : run.proposalCount = (s.proposalsOf run.generationRunId).length
  retained : run.retainedProposalCount = ((s.proposalsOf run.generationRunId).filter
    fun proposal => decide (proposal.disposition = .retained)).length
  decided : (s.proposalsOf run.generationRunId).Perm
    (finalizeProposalDispositions (s.proposalsOf run.generationRunId))

/-- The rows of the run are what its state says. -/
structure GenerationStore.Consistent (s : GenerationStore) (run : GenerationRun) : Prop where
  collecting : run.Collects → s.Ordered run.generationRunId ∧ s.Undecided run.generationRunId
  reviewed : run.state = .awaitingReview → s.Reviewed run

/-- `CandidateProposalBatch.require_coherent_batch`, with the bound of its members. -/
structure CandidateProposalBatch.Valid (batch : CandidateProposalBatch) : Prop where
  length : batch.proposals.length ≤ 8
  members : batch.status = .failed ↔ batch.proposals = []
  error : batch.status = .succeeded ↔ batch.error = none
  requestHashes : ∀ proposal ∈ batch.proposals, proposal.requestHash = batch.requestHash
  identities : (batch.proposals.map CandidateProposal.proposalId).Nodup
  ordinals : (batch.proposals.map CandidateProposal.ordinal).Nodup

/-- The columns are those of the batch. -/
structure BatchBinding.Of (binding : BatchBinding) (batch : CandidateProposalBatch) : Prop where
  batchId : binding.batchId = batch.batchId
  batchHash : binding.batchHash = batch.batchHash
  batchStatus : binding.batchStatus = batch.status
  rawOutputUri : binding.rawOutputUri = batch.rawOutputUri
  rawOutputHash : binding.rawOutputHash = batch.rawOutputHash
  adapterProvenance : binding.adapterProvenance = batch.adapterProvenance

/-- The proposal is a member of the batch with which the attempt has succeeded. -/
structure GenerationStore.Source (s : GenerationStore) (ids : Identities)
    (proposal : CandidateProposalRef) (run : GenerationRun) (attempt : GeneratorAttempt)
    (generator : GeneratorPlanEntry) (batch : CandidateProposalBatch) : Prop where
  storedRun : run ∈ s.runs
  storedAttempt : attempt ∈ s.attempts
  succeeded : attempt.state = .succeeded
  planned : run.plan.generators[attempt.generatorOrdinal]? = some generator
  bound : ∃ binding, attempt.batch = some binding ∧ binding.Of batch
  refs : ∃ refs, proposalRefsForBatch ids run attempt generator batch = .ok refs ∧
    proposal.withDisposition .pending ∈ refs

/-- The proposal comes from a valid batch that is held. -/
def GenerationStore.Sourced (s : GenerationStore) (ids : Identities)
    (Held : CandidateProposalBatch → Prop) (proposal : CandidateProposalRef) : Prop :=
  ∃ run attempt generator batch, batch.Valid ∧ Held batch ∧
    s.Source ids proposal run attempt generator batch

/-- **Accountable tables.** -/
structure GenerationStore.Accountable (s : GenerationStore) (ids : Identities)
    (Held : CandidateProposalBatch → Prop) : Prop where
  sound : s.Sound
  authority : ∀ run ∈ s.runs, run.Authoritative ids
  sourced : ∀ proposal ∈ s.proposals, s.Sourced ids Held proposal
  consistent : ∀ run ∈ s.runs, s.Consistent run

section Rows

variable {s s' : GenerationStore} {ids : Identities} {Held : CandidateProposalBatch → Prop}

theorem mem_attemptsOf {runId : Uuid} {attempt : GeneratorAttempt} :
    attempt ∈ s.attemptsOf runId ↔ attempt ∈ s.attempts ∧ attempt.generationRunId = runId := by
  unfold GenerationStore.attemptsOf
  rw [(List.perm_insertionSort _ _).mem_iff, List.mem_filter, decide_eq_true_eq, Table.mem_rows]

theorem mem_proposalsOf {runId : Uuid} {proposal : CandidateProposalRef} :
    proposal ∈ s.proposalsOf runId ↔
      proposal ∈ s.proposals ∧ proposal.generationRunId = runId := by
  unfold GenerationStore.proposalsOf
  rw [List.mem_filter, decide_eq_true_eq, Table.mem_rows]

theorem distinct_proposalsOf (runId : Uuid) : Distinct (s.proposalsOf runId) :=
  s.proposals.keys_nodup.sublist (List.filter_sublist.map _)

theorem GenerationRun.Collects.not_awaiting {run : GenerationRun} (collects : run.Collects) :
    run.state ≠ .awaitingReview := by
  rcases collects with created | running
  · rw [created]
    decide
  · rw [running]
    decide

/-! ## Sources -/

theorem proposalRefsForBatch_eq_ok {run : GenerationRun} {attempt : GeneratorAttempt}
    {generator : GeneratorPlanEntry} {batch : CandidateProposalBatch}
    {refs : List CandidateProposalRef}
    (ok : proposalRefsForBatch ids run attempt generator batch = .ok refs) :
    attempt.generationRunId = run.generationRunId ∧
      refs = (batch.proposals.insertionSort CandidateProposal.Before).map
        fun proposal => proposal.ref attempt batch.batchId := by
  simp only [proposalRefsForBatch, Except.bind_eq_ok, require_eq_ok, exists_const] at ok
  obtain ⟨-, ofRun, -, -, -, -, -, ok⟩ := ok
  cases ok
  exact ⟨ofRun.1, rfl⟩

/-- A member of the references of a batch names its attempt and its run, and is pending. -/
theorem mem_proposalRefsForBatch {run : GenerationRun} {attempt : GeneratorAttempt}
    {generator : GeneratorPlanEntry} {batch : CandidateProposalBatch}
    {refs : List CandidateProposalRef} {ref : CandidateProposalRef}
    (ok : proposalRefsForBatch ids run attempt generator batch = .ok refs) (member : ref ∈ refs) :
    ∃ proposal ∈ batch.proposals, ref = proposal.ref attempt batch.batchId := by
  obtain ⟨-, rfl⟩ := proposalRefsForBatch_eq_ok ok
  obtain ⟨proposal, sorted, rfl⟩ := List.mem_map.mp member
  exact ⟨proposal, (List.perm_insertionSort _ _).mem_iff.mp sorted, rfl⟩

/-- The references of a batch depend on the inputs of the run only. -/
theorem proposalRefsForBatch_congr {run run' : GenerationRun} {attempt : GeneratorAttempt}
    {generator : GeneratorPlanEntry} {batch : CandidateProposalBatch}
    (same : run'.SameInputs run) : proposalRefsForBatch ids run' attempt generator batch =
      proposalRefsForBatch ids run attempt generator batch := by
  obtain ⟨sameId, request, requestHash, plan, -⟩ := same
  simp only [proposalRefsForBatch, sameId, request, requestHash, plan]

theorem GenerationStore.Source.ofRun {proposal : CandidateProposalRef} {run : GenerationRun}
    {attempt : GeneratorAttempt} {generator : GeneratorPlanEntry} {batch : CandidateProposalBatch}
    (source : s.Source ids proposal run attempt generator batch) :
    proposal.generationRunId = run.generationRunId := by
  obtain ⟨refs, ok, member⟩ := source.refs
  obtain ⟨origin, -, same⟩ := mem_proposalRefsForBatch ok member
  have stored : proposal.generationRunId = attempt.generationRunId :=
    congrArg CandidateProposalRef.generationRunId same
  exact stored.trans (proposalRefsForBatch_eq_ok ok).1

/-- The runs keep their inputs, and attempts that have succeeded stay as they are. -/
structure GenerationStore.Extends (s s' : GenerationStore) : Prop where
  runs : ∀ run ∈ s.runs, ∃ run' ∈ s'.runs, run'.SameInputs run
  succeeded : ∀ attempt ∈ s.attempts, attempt.state = .succeeded → attempt ∈ s'.attempts

theorem GenerationRun.SameInputs.refl (run : GenerationRun) : run.SameInputs run :=
  ⟨rfl, rfl, rfl, rfl, rfl, rfl, rfl⟩

/-- A source stays a source, whatever is decided about the proposal. -/
theorem GenerationStore.Sourced.extends {proposal proposal' : CandidateProposalRef}
    (sourced : s.Sourced ids Held proposal) (extension : s.Extends s')
    (same : proposal'.withDisposition .pending = proposal.withDisposition .pending) :
    s'.Sourced ids Held proposal' := by
  obtain ⟨run, attempt, generator, batch, valid, held, source⟩ := sourced
  obtain ⟨run', stored, inputs⟩ := extension.runs run source.storedRun
  refine ⟨run', attempt, generator, batch, valid, held, stored,
    extension.succeeded attempt source.storedAttempt source.succeeded, source.succeeded, ?_,
    source.bound, ?_⟩
  · rw [inputs.2.2.2.1]
    exact source.planned
  · obtain ⟨refs, ok, member⟩ := source.refs
    exact ⟨refs, (proposalRefsForBatch_congr inputs).trans ok, same ▸ member⟩

/-! ## One run at a time -/

/-- The rows of the run are the same. -/
structure GenerationStore.SameRows (s s' : GenerationStore) (runId : Uuid) : Prop where
  run : s'.runs.find? runId = s.runs.find? runId
  attempts : s'.attemptsOf runId = s.attemptsOf runId
  proposals : s'.proposalsOf runId = s.proposalsOf runId

theorem GenerationStore.Consistent.congr {run : GenerationRun} (consistent : s.Consistent run)
    (attempts : s'.attemptsOf run.generationRunId = s.attemptsOf run.generationRunId)
    (proposals : s'.proposalsOf run.generationRunId = s.proposalsOf run.generationRunId) :
    s'.Consistent run where
  collecting collects := by
    unfold GenerationStore.Ordered GenerationStore.Undecided
    rw [attempts, proposals]
    exact consistent.collecting collects
  reviewed awaits := by
    obtain ⟨ended, covered, attemptCount, terminal, proposalCount, retained, decided⟩ :=
      consistent.reviewed awaits
    constructor <;> first | rwa [attempts] | rwa [proposals]

/-- **A turn of one run.** When the rows of every other run stay the same, what remains to be
shown is about the run whose turn it is. -/
theorem GenerationStore.Accountable.turn (accountable : s.Accountable ids Held) (runId : Uuid)
    (sound : s'.Sound) (authority : ∀ run ∈ s'.runs, run.Authoritative ids)
    (sourced : ∀ proposal ∈ s'.proposals, s'.Sourced ids Held proposal)
    (others : ∀ other, other ≠ runId → s.SameRows s' other)
    (own : ∀ run ∈ s'.runs, run.generationRunId = runId → s'.Consistent run) :
    s'.Accountable ids Held where
  sound := sound
  authority := authority
  sourced := sourced
  consistent run member := by
    by_cases here : run.generationRunId = runId
    · exact own run member here
    · obtain ⟨sameRun, attempts, proposals⟩ := others _ here
      have stored : s.runs.find? run.generationRunId = some run :=
        sameRun ▸ Table.find?_of_mem member
      exact (accountable.consistent run (Table.mem_of_find? stored)).congr attempts proposals

end Rows

/-! ## Primitives -/

section Writes

variable {s s' : GenerationStore} {ids : Identities} {Held : CandidateProposalBatch → Prop}

/-- The attempts of a run are those of its generators. -/
theorem GenerationStore.Accountable.ordinal_lt (accountable : s.Accountable ids Held)
    {run : GenerationRun} (member : run ∈ s.runs) {attempt : GeneratorAttempt}
    (inRun : attempt ∈ s.attemptsOf run.generationRunId) :
    attempt.generatorOrdinal < run.plannedGeneratorCount := by
  obtain ⟨stored, ofRun⟩ := mem_attemptsOf.mp inRun
  obtain ⟨other, inRuns, belongs, generator, planned, -⟩ :=
    accountable.sound.placed attempt stored
  obtain rfl : run = other := Table.eq_of_key_eq member inRuns (ofRun.symm.trans belongs.1.symm)
  rw [(accountable.sound.runs run member).plannedAll]
  exact (List.getElem?_eq_some_iff.mp planned).1

/-- A run with an attempt that is open is not under review. -/
theorem GenerationStore.Accountable.early_of_open (accountable : s.Accountable ids Held)
    {attempt : GeneratorAttempt} (stored : attempt ∈ s.attempts)
    (unfinished : attempt.state.terminal = false) {run : GenerationRun} (member : run ∈ s.runs)
    (ofRun : run.generationRunId = attempt.generationRunId) : run.state ≠ .awaitingReview := by
  intro awaits
  have ended := ((accountable.consistent run member).reviewed awaits).ended attempt
    (mem_attemptsOf.mpr ⟨stored, ofRun.symm⟩)
  rw [unfinished] at ended
  cases ended

/-- Writing an attempt of one run leaves the attempts of other runs alone. -/
theorem attemptsOf_update {attemptId runId : Uuid} {f : GeneratorAttempt → GeneratorAttempt}
    [KeepsKey f] [place : KeepsPlace f] {old : GeneratorAttempt}
    (found : s.attempts.find? attemptId = some old) (apart : runId ≠ old.generationRunId) :
    ({ s with attempts := s.attempts.update attemptId f } : GenerationStore).attemptsOf runId =
      s.attemptsOf runId := by
  unfold GenerationStore.attemptsOf
  rw [Table.filter_update_of_out]
  intro row here
  cases Option.some.inj (here.symm.trans found)
  have same : (f old).generationRunId = old.generationRunId := congrArg Prod.fst (place.place old)
  rw [same]
  exact ⟨decide_eq_false (Ne.symm apart), decide_eq_false (Ne.symm apart)⟩

/-- **Writing an attempt** of a run that is not under review. An attempt that has succeeded is
not written again, and one that has failed stays so. -/
theorem GenerationStore.Accountable.writeAttempt {attemptId : Uuid}
    {f : GeneratorAttempt → GeneratorAttempt} [KeepsKey f] [place : KeepsPlace f]
    {row old : GeneratorAttempt} (accountable : s.Accountable ids Held)
    (ok : Agent.writeAttempt attemptId f s = .ok (s', row))
    (found : s.attempts.find? attemptId = some old) (unsettled : old.state ≠ .succeeded)
    (failed : old.state = .failed → (f old).state = .failed)
    (early : ∀ run ∈ s.runs, run.generationRunId = old.generationRunId →
      run.state ≠ .awaitingReview) : s'.Accountable ids Held := by
  have sound := accountable.sound.writeAttempt ok
  obtain ⟨old', found', -, -, rfl, -⟩ := writeAttempt_eq_ok.mp ok
  cases Option.some.inj (found'.symm.trans found)
  have extension : s.Extends { s with attempts := s.attempts.update attemptId f } := by
    refine ⟨fun run stored => ⟨run, stored, .refl run⟩, fun attempt stored succeeded => ?_⟩
    refine Table.mem_update.mpr ⟨attempt, stored, if_neg fun same => unsettled ?_⟩
    have known : s.attempts.find? attemptId = some attempt := same ▸ Table.find?_of_mem stored
    rwa [Option.some.inj (known.symm.trans found)] at succeeded
  refine accountable.turn old.generationRunId sound accountable.authority
    (fun proposal stored => (accountable.sourced proposal stored).extends extension rfl)
    (fun other apart => ⟨rfl, attemptsOf_update found apart, rfl⟩) ?_
  intro run stored ofRun
  refine ⟨fun collects => ?_, fun awaits => absurd awaits (early run stored ofRun)⟩
  obtain ⟨ordered, undecided⟩ := (accountable.consistent run stored).collecting collects
  refine ⟨?_, undecided⟩
  -- the rewritten attempts are in their places, and failed ones are still failed
  have before : ∀ attempt ∈ ({ s with attempts := s.attempts.update attemptId f } :
      GenerationStore).attemptsOf run.generationRunId, ∃ row ∈ s.attemptsOf run.generationRunId,
        attempt.place = row.place ∧ (row.state = .failed → attempt.state = .failed) := by
    intro attempt member
    obtain ⟨written, ofRun'⟩ := mem_attemptsOf.mp member
    obtain ⟨row, inTable, same⟩ := Table.mem_update.mp written
    have placed : attempt.place = row.place := by
      rw [← same]
      split
      · exact place.place row
      · rfl
    have sameRun : attempt.generationRunId = row.generationRunId := congrArg Prod.fst placed
    refine ⟨row, mem_attemptsOf.mpr ⟨inTable, sameRun.symm.trans ofRun'⟩, placed, ?_⟩
    intro ended
    rw [← same]
    split
    · rename_i here
      have known : s.attempts.find? attemptId = some row := here ▸ Table.find?_of_mem inTable
      cases Option.some.inj (known.symm.trans found)
      exact failed ended
    · exact ended
  intro earlier member later member' ordinal number
  obtain ⟨row, inTable, placed, keeps⟩ := before earlier member
  obtain ⟨row', inTable', placed', -⟩ := before later member'
  simp only [GeneratorAttempt.place, Prod.mk.injEq] at placed placed'
  refine keeps (ordered row inTable row' inTable' ?_ ?_)
  · rw [← placed.2.2.2.2.1, ordinal, placed'.2.2.2.2.1]
  · rw [← placed.2.2.2.2.2, ← placed'.2.2.2.2.2]
    exact number

/-- **Inserting an attempt** of a run that collects, after the attempts of its generator, which
have failed. -/
theorem GenerationStore.Accountable.insertAttempt {row : GeneratorAttempt} {run : GenerationRun}
    (accountable : s.Accountable ids Held) (stored : s.runs.find? run.generationRunId = some run)
    (collects : run.Collects) (valid : row.Valid) (placed : row.Placed run)
    (latest : ∀ attempt ∈ s.attemptsOf run.generationRunId,
      attempt.generatorOrdinal = row.generatorOrdinal → attempt.attemptNumber ≤ row.attemptNumber)
    (failed : ∀ attempt ∈ s.attemptsOf run.generationRunId,
      attempt.generatorOrdinal = row.generatorOrdinal →
        attempt.attemptNumber < row.attemptNumber → attempt.state = .failed)
    (ok : Agent.insertAttempt row s = .ok s') : s'.Accountable ids Held := by
  have sound : s'.Sound := (GenerationStore.SoundFor.insertAttempt
    ⟨accountable.sound, GenerationStore.holds_of_find stored⟩ valid placed ok).1
  obtain ⟨-, absent, -, rfl⟩ := insertAttempt_eq_ok.mp ok
  have ofRun : row.generationRunId = run.generationRunId := placed.1.1.symm
  have extension : s.Extends { s with attempts := s.attempts.insertIfAbsent row } :=
    ⟨fun other stored => ⟨other, stored, .refl other⟩,
      fun attempt stored _ => Table.mem_insertIfAbsent.mpr (.inl stored)⟩
  refine accountable.turn run.generationRunId sound accountable.authority
    (fun proposal stored => (accountable.sourced proposal stored).extends extension rfl)
    (fun other apart => ⟨rfl, ?_, rfl⟩) ?_
  · unfold GenerationStore.attemptsOf
    rw [Table.filter_insertIfAbsent absent, if_neg, List.append_nil]
    rw [ofRun, decide_eq_true_eq]
    exact Ne.symm apart
  · intro other member same
    obtain rfl : run = other := Table.eq_of_key_eq (Table.mem_of_find? stored) member same.symm
    refine ⟨fun _ => ?_, fun awaits => absurd awaits collects.not_awaiting⟩
    obtain ⟨ordered, undecided⟩ := (accountable.consistent run member).collecting collects
    refine ⟨?_, undecided⟩
    have before : ∀ attempt ∈ ({ s with attempts := s.attempts.insertIfAbsent row } :
        GenerationStore).attemptsOf run.generationRunId,
          attempt ∈ s.attemptsOf run.generationRunId ∨ attempt = row := by
      intro attempt inserted
      obtain ⟨inTable, ofRun'⟩ := mem_attemptsOf.mp inserted
      rcases Table.mem_insertIfAbsent.mp inTable with old | ⟨-, rfl⟩
      · exact .inl (mem_attemptsOf.mpr ⟨old, ofRun'⟩)
      · exact .inr rfl
    intro earlier member later member' ordinal number
    rcases before earlier member with old | rfl
    · rcases before later member' with old' | rfl
      · exact ordered earlier old later old' ordinal number
      · exact failed earlier old ordinal number
    · rcases before later member' with old' | rfl
      · exact absurd (latest later old' ordinal.symm) (Nat.not_le.mpr number)
      · exact absurd number (Nat.lt_irrefl _)

/-- **Inserting a proposal** of a run that is not under review: it has a source and no
disposition. -/
theorem GenerationStore.Accountable.insertProposal {ref : CandidateProposalRef}
    {run : GenerationRun} (accountable : s.Accountable ids Held)
    (stored : s.runs.find? run.generationRunId = some run) (early : run.state ≠ .awaitingReview)
    (ofRun : ref.generationRunId = run.generationRunId) (pending : ref.disposition = .pending)
    (sourced : s.Sourced ids Held ref) (ok : Agent.insertProposal ref s = .ok s') :
    s'.Accountable ids Held := by
  simp only [Agent.insertProposal, Except.bind_eq_ok, require_eq_ok, exists_const] at ok
  obtain ⟨absent, -, ok⟩ := ok
  cases ok
  have extension : s.Extends { s with proposals := s.proposals.insertIfAbsent ref } :=
    ⟨fun other stored => ⟨other, stored, .refl other⟩, fun attempt stored _ => stored⟩
  refine accountable.turn run.generationRunId ⟨accountable.sound.runs,
    accountable.sound.attempts, accountable.sound.placed, accountable.sound.turns⟩
    accountable.authority ?_
    (fun other apart => ⟨rfl, rfl, ?_⟩) ?_
  · intro proposal member
    rcases Table.mem_insertIfAbsent.mp member with old | ⟨-, rfl⟩
    · exact (accountable.sourced proposal old).extends extension rfl
    · exact sourced.extends extension rfl
  · unfold GenerationStore.proposalsOf
    rw [Table.filter_insertIfAbsent absent, if_neg, List.append_nil]
    rw [ofRun, decide_eq_true_eq]
    exact Ne.symm apart
  · intro other member same
    obtain rfl : run = other := Table.eq_of_key_eq (Table.mem_of_find? stored) member same.symm
    refine ⟨fun collects => ?_, fun awaits => absurd awaits early⟩
    obtain ⟨ordered, undecided⟩ := (accountable.consistent run member).collecting collects
    refine ⟨ordered, fun proposal inserted => ?_⟩
    obtain ⟨inTable, ofRun'⟩ := mem_proposalsOf.mp inserted
    rcases Table.mem_insertIfAbsent.mp inTable with old | ⟨-, rfl⟩
    · exact undecided proposal (mem_proposalsOf.mpr ⟨old, ofRun'⟩)
    · exact pending

/-- Nothing but the dispositions of the proposals of one run differs. -/
structure GenerationStore.Redecides (s s' : GenerationStore) (runId : Uuid) : Prop where
  runs : s'.runs = s.runs
  attempts : s'.attempts = s.attempts
  proposals : ∀ proposal ∈ s'.proposals, ∃ before ∈ s.proposals,
    proposal.withDisposition .pending = before.withDisposition .pending
  others : ∀ other, other ≠ runId → s'.proposalsOf other = s.proposalsOf other

theorem GenerationStore.Redecides.refl (s : GenerationStore) (runId : Uuid) :
    s.Redecides s runId :=
  ⟨rfl, rfl, fun proposal stored => ⟨proposal, stored, rfl⟩, fun _ _ => rfl⟩

/-- A rewrite of runs that leaves their immutable inputs alone. -/
class KeepsInputs (f : GenerationRun → GenerationRun) : Prop where
  inputs : ∀ run, (f run).SameInputs run

instance (now : Timestamp) : KeepsInputs (GenerationRun.started now) :=
  ⟨fun _ => ⟨rfl, rfl, rfl, rfl, rfl, rfl, rfl⟩⟩

instance (summary : RunSummary) (now : Timestamp) :
    KeepsInputs (GenerationRun.summarized summary now) :=
  ⟨fun _ => ⟨rfl, rfl, rfl, rfl, rfl, rfl, rfl⟩⟩

instance (evidence : ReviewEvidence) (now : Timestamp) :
    KeepsInputs (GenerationRun.reviewedBy evidence now) :=
  ⟨fun _ => ⟨rfl, rfl, rfl, rfl, rfl, rfl, rfl⟩⟩

theorem KeepsInputs.authority (f : GenerationRun → GenerationRun) [keeps : KeepsInputs f] :
    KeepsAuthority f :=
  ⟨fun run => (keeps.inputs run).2.2.2.1, fun run => (keeps.inputs run).2.1⟩

/-- **Writing a run** when its proposals have been decided about: its rows are then what its
new state says. -/
theorem GenerationStore.Accountable.writeRun {t : GenerationStore} {runId : Uuid}
    {f : GenerationRun → GenerationRun} [KeepsKey f] [keeps : KeepsInputs f]
    {row : GenerationRun} (accountable : s.Accountable ids Held)
    (redecides : s.Redecides t runId)
    (own : ∀ run, s.runs.find? runId = some run → t.Consistent (f run))
    (ok : Agent.writeRun runId f t = .ok (s', row)) : s'.Accountable ids Held := by
  obtain ⟨runs, attempts, proposals⟩ := t
  obtain ⟨rfl, rfl, stays, others⟩ := redecides
  have before : (⟨s.runs, s.attempts, proposals⟩ : GenerationStore).Sound :=
    ⟨accountable.sound.runs, accountable.sound.attempts, accountable.sound.placed,
      accountable.sound.turns⟩
  have authority : KeepsAuthority f := KeepsInputs.authority f
  have sound := before.writeRun ok
  obtain ⟨old, found, -, -, rfl, -⟩ := writeRun_eq_ok.mp ok
  have extension : s.Extends ⟨s.runs.update runId f, s.attempts, proposals⟩ := by
    refine ⟨fun run stored => ⟨_, Table.mem_update.mpr ⟨run, stored, rfl⟩, ?_⟩,
      fun attempt stored _ => stored⟩
    split
    · exact keeps.inputs run
    · exact .refl run
  refine accountable.turn runId sound ?_ ?_
    (fun other apart => ⟨Table.find?_update_ne apart, rfl, others other apart⟩) ?_
  · intro run member
    obtain ⟨before, stored, rfl⟩ := Table.mem_update.mp member
    have authority := accountable.authority before stored
    split
    · obtain ⟨-, request, requestHash, plan, planHash, -⟩ := keeps.inputs before
      unfold GenerationRun.Authoritative
      rw [request, requestHash, plan, planHash]
      exact authority
    · exact authority
  · intro proposal member
    obtain ⟨before, stored, same⟩ := stays proposal member
    exact (accountable.sourced before stored).extends extension same
  · intro run member same
    obtain ⟨before, stored, rfl⟩ := Table.mem_update.mp member
    split at same
    · rename_i here
      rw [if_pos here]
      exact (own before (here ▸ Table.find?_of_mem stored)).congr rfl rfl
    · rename_i elsewhere
      exact absurd same elsewhere

end Writes

end Agent

end HcuAutoOpt
