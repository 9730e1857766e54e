import HcuAutoOpt.Rounds.Effects
import HcuAutoOpt.Foundation.Runs

/-!
# The lifecycle of search rounds

Runs of the thirteen operations on search rounds, in any order and with any arguments,
among transactions of other parts of the control plane that leave the rounds alone
(`RoundStep`). Every store of such a run keeps `Store.RoundsConsistent`, and every round
of it advances.

The main result is `search_round_lifecycle`: the state of a round only moves forward, its
three family hashes are written once, nothing about a holdout exists without a search
barrier that promoted somebody, an ended round never changes, and nothing is ever
released automatically.
-/

set_option autoImplicit false

namespace HcuAutoOpt

open Foundation

/-! ## Calls -/

/-- A call of an operation on search rounds, with its validated request. -/
inductive RoundCall where
  | createSearchRound (request : SearchRound) (valid : request.Valid)
  | addRoundCandidate (request : RoundCandidate) (valid : request.Valid)
  | closeSearchRoundIntake (now : Timestamp) (roundId : Uuid)
  | recordRoundCandidateBuild (request : RoundCandidateBuildTerminal)
  | freezeSearchRoundArtifactFamily (request : ArtifactFamilyFreezeRequest)
  | closeScriptedSearchBarrier (decision : SearchBarrierDecision)
  | recordScriptedHoldoutReveal (reveal : HoldoutRevealResult)
  | closeScriptedHoldoutBarrier (barrier : RoundBarrierResult)
  | recordScriptedMultipleComparison (result : MultipleComparisonResult)
  | finalizeScriptedSearchRound (evidence : RoundEvidenceBundle)
  | cancelScriptedSearchRound (now : Timestamp) (roundId : Uuid) (reason : String)
  | reserveRoundBudget (request : RoundBudgetReservation) (entry : RoundBudgetLedgerEntry)
      (valid : entry.Valid)
  | finalizeRoundBudget (entry : RoundBudgetLedgerEntry) (valid : entry.Valid)

namespace RoundCall

/-- The transaction of a call. -/
def run (env : RoundEnv) : RoundCall → Transaction Store Error Unit
  | createSearchRound request _ => (HcuAutoOpt.createSearchRound request).silent
  | addRoundCandidate request _ => (HcuAutoOpt.addRoundCandidate request).silent
  | closeSearchRoundIntake now roundId =>
      (HcuAutoOpt.closeSearchRoundIntake env now roundId).silent
  | recordRoundCandidateBuild request => (HcuAutoOpt.recordRoundCandidateBuild request).silent
  | freezeSearchRoundArtifactFamily request =>
      (HcuAutoOpt.freezeSearchRoundArtifactFamily env request).silent
  | closeScriptedSearchBarrier decision =>
      (HcuAutoOpt.closeScriptedSearchBarrier env decision).silent
  | recordScriptedHoldoutReveal reveal =>
      (HcuAutoOpt.recordScriptedHoldoutReveal env reveal).silent
  | closeScriptedHoldoutBarrier barrier =>
      (HcuAutoOpt.closeScriptedHoldoutBarrier env barrier).silent
  | recordScriptedMultipleComparison result =>
      (HcuAutoOpt.recordScriptedMultipleComparison env result).silent
  | finalizeScriptedSearchRound evidence =>
      (HcuAutoOpt.finalizeScriptedSearchRound env evidence).silent
  | cancelScriptedSearchRound now roundId reason =>
      (HcuAutoOpt.cancelScriptedSearchRound now roundId reason).silent
  | reserveRoundBudget request entry _ => (HcuAutoOpt.reserveRoundBudget request entry).silent
  | finalizeRoundBudget entry _ => (HcuAutoOpt.finalizeRoundBudget entry).silent

/-- The round that a call is about. -/
def roundId : RoundCall → Uuid
  | createSearchRound request _ => request.roundId
  | addRoundCandidate request _ => request.roundId
  | closeSearchRoundIntake _ roundId => roundId
  | recordRoundCandidateBuild request => request.roundId
  | freezeSearchRoundArtifactFamily request => request.roundId
  | closeScriptedSearchBarrier decision => decision.barrier.roundId
  | recordScriptedHoldoutReveal reveal => reveal.roundId
  | closeScriptedHoldoutBarrier barrier => barrier.roundId
  | recordScriptedMultipleComparison result => result.roundId
  | finalizeScriptedSearchRound evidence => evidence.roundId
  | cancelScriptedSearchRound _ roundId _ => roundId
  | reserveRoundBudget request _ _ => request.roundId
  | finalizeRoundBudget entry _ => entry.roundId

/-- The action of the recovery projection that a call carries out, if any. -/
def action : RoundCall → Option RoundAction
  | addRoundCandidate .. => some .awaitCandidateIntake
  | closeSearchRoundIntake .. => some .closeIntake
  | recordRoundCandidateBuild .. => some .awaitBuildTerminals
  | freezeSearchRoundArtifactFamily .. => some .freezeArtifactFamily
  | closeScriptedSearchBarrier .. => some .closeSearchBarrier
  | recordScriptedHoldoutReveal .. => some .recordHoldoutReveal
  | closeScriptedHoldoutBarrier .. => some .closeHoldoutBarrier
  | recordScriptedMultipleComparison .. => some .recordMultipleComparison
  | finalizeScriptedSearchRound .. => some .finalizeScriptedRound
  | createSearchRound .. | cancelScriptedSearchRound .. | reserveRoundBudget ..
  | finalizeRoundBudget .. => none

end RoundCall

/-- Other transactions leave the rounds, the rows about them and their tasks alone. -/
structure RoundsUntouched (s s' : Store) : Prop where
  rounds : s'.searchRounds = s.searchRounds
  rows : ∀ roundId, s'.rowsOf roundId = s.rowsOf roundId
  tasks : ∀ taskId task, task.workflowType = .searchRound →
    (s'.tasks.find? taskId = some task ↔ s.tasks.find? taskId = some task)

/-- One step: a call on search rounds, committed or rolled back, or a transaction elsewhere. -/
inductive RoundStep (env : RoundEnv) : Store → Option RoundCall → Store → Prop
  | call (call : RoundCall) (s : Store) :
      RoundStep env s (some call) (commit (call.run env) s).1
  | elsewhere {s s' : Store} (untouched : RoundsUntouched s s') : RoundStep env s none s'

/-- A store before any search round. -/
structure Store.NoRounds (s : Store) : Prop where
  rounds : s.searchRounds = ∅
  rows : ∀ roundId, s.rowsOf roundId = {}
  tasks : ∀ task ∈ s.tasks, task.workflowType ≠ .searchRound

/-! ## What a call does -/

/-- **A call that creates no round moves the round it is about, or changes nothing.** -/
theorem RoundCall.moves {env : RoundEnv} {s s' : Store} {call : RoundCall} {u : Unit}
    (owned : s.RoundsOwned) (old : ∀ request valid, call ≠ .createSearchRound request valid)
    (ok : call.run env s = .ok (s', u)) :
    s' = s ∨ ∃ p p', s.MovesRound env s' call.roundId call.action p p' := by
  cases call with
  | createSearchRound request valid => exact absurd rfl (old request valid)
  | addRoundCandidate request valid =>
      obtain ⟨reply, ok⟩ := Transaction.silent_eq_ok.mp ok
      exact addRoundCandidate_effect owned valid ok
  | closeSearchRoundIntake now roundId =>
      obtain ⟨reply, ok⟩ := Transaction.silent_eq_ok.mp ok
      exact closeSearchRoundIntake_effect owned ok
  | recordRoundCandidateBuild request =>
      obtain ⟨reply, ok⟩ := Transaction.silent_eq_ok.mp ok
      exact recordRoundCandidateBuild_effect owned ok
  | freezeSearchRoundArtifactFamily request =>
      obtain ⟨reply, ok⟩ := Transaction.silent_eq_ok.mp ok
      exact freezeSearchRoundArtifactFamily_effect owned ok
  | closeScriptedSearchBarrier decision =>
      obtain ⟨reply, ok⟩ := Transaction.silent_eq_ok.mp ok
      exact closeScriptedSearchBarrier_effect owned ok
  | recordScriptedHoldoutReveal reveal =>
      obtain ⟨reply, ok⟩ := Transaction.silent_eq_ok.mp ok
      exact recordScriptedHoldoutReveal_effect owned ok
  | closeScriptedHoldoutBarrier barrier =>
      obtain ⟨reply, ok⟩ := Transaction.silent_eq_ok.mp ok
      exact closeScriptedHoldoutBarrier_effect owned ok
  | recordScriptedMultipleComparison result =>
      obtain ⟨reply, ok⟩ := Transaction.silent_eq_ok.mp ok
      exact recordScriptedMultipleComparison_effect owned ok
  | finalizeScriptedSearchRound evidence =>
      obtain ⟨reply, ok⟩ := Transaction.silent_eq_ok.mp ok
      exact finalizeScriptedSearchRound_effect owned ok
  | cancelScriptedSearchRound now roundId reason =>
      obtain ⟨reply, ok⟩ := Transaction.silent_eq_ok.mp ok
      exact cancelScriptedSearchRound_round owned ok
  | reserveRoundBudget request entry valid =>
      obtain ⟨reply, ok⟩ := Transaction.silent_eq_ok.mp ok
      exact reserveRoundBudget_effect owned ok
  | finalizeRoundBudget entry valid =>
      obtain ⟨reply, ok⟩ := Transaction.silent_eq_ok.mp ok
      exact finalizeRoundBudget_effect owned ok

/-- **A call moves the round it is about, creates it, or changes nothing.** -/
theorem RoundCall.effect {env : RoundEnv} {s s' : Store} {call : RoundCall} {u : Unit}
    (owned : s.RoundsOwned) (ok : call.run env s = .ok (s', u)) :
    s' = s ∨ (∃ p p', s.MovesRound env s' call.roundId call.action p p') ∨
      ∃ request task, request.Valid ∧ s.CreatesRound s' request task := by
  by_cases old : ∀ request valid, call ≠ .createSearchRound request valid
  · exact (RoundCall.moves owned old ok).imp_right .inl
  · push Not at old
    obtain ⟨request, valid, rfl⟩ := old
    obtain ⟨reply, ok⟩ := Transaction.silent_eq_ok.mp ok
    rcases createSearchRound_effect owned ok with same | ⟨task, created⟩
    · exact .inl same
    · exact .inr (.inr ⟨request, task, valid, created⟩)

/-! ## The invariant -/

/-- **The invariant of the rounds**: each has its own task, none has rows before it was
created, and the picture of each is consistent. -/
structure Store.RoundsConsistent (s : Store) : Prop where
  owned : s.RoundsOwned
  blank : ∀ roundId, s.searchRounds.find? roundId = none → s.rowsOf roundId = {}
  consistent : ∀ roundId p, s.picture roundId = some p → p.Consistent

theorem Store.NoRounds.roundsConsistent {s : Store} (start : s.NoRounds) :
    s.RoundsConsistent where
  owned := {
    tasked := fun round present => by simp [start.rounds] at present
    owned := fun task present workflow => absurd workflow (start.tasks task present)
    apart := fun round present => by simp [start.rounds] at present }
  blank := fun roundId _ => start.rows roundId
  consistent := fun roundId p here => by
    have found := (Store.picture_eq_some.mp here).1
    rw [start.rounds] at found
    exact absurd (Table.mem_of_find? found) (Table.not_mem_empty _)

section Preservation

variable {env : RoundEnv} {s s' : Store} {roundId : Uuid} {action : Option RoundAction}
  {p p' : RoundPicture}

/-- The pictures of the other rounds stay. -/
theorem Store.MovesRound.other_picture (moves : s.MovesRound env s' roundId action p p')
    (owned : s.RoundsOwned) {other : Uuid} (different : other ≠ roundId) :
    s'.picture other = s.picture other := by
  obtain ⟨sameRound, sameTask⟩ := moves.rewrites.other_found owned different
  unfold Store.picture
  rw [sameRound, (moves.otherRounds other different).2]
  cases found : s.searchRounds.find? other with
  | none => rfl
  | some round =>
      simp only [Option.bind_eq_bind, Option.bind_some]
      rw [sameTask round found]

theorem Store.MovesRound.roundsConsistent (moves : s.MovesRound env s' roundId action p p')
    (consistent : s.RoundsConsistent) : s'.RoundsConsistent where
  owned := moves.rewrites.roundsOwned consistent.owned
  blank := fun other absent => by
    by_cases here : other = roundId
    · rw [here, (Store.picture_eq_some.mp moves.after).1] at absent
      cases absent
    · rw [(moves.otherRounds other here).1] at absent
      rw [(moves.otherRounds other here).2]
      exact consistent.blank other absent
  consistent := fun other q here => by
    by_cases same : other = roundId
    · rw [same, moves.after] at here
      cases here
      exact moves.move.consistent (consistent.consistent roundId p moves.before)
    · rw [moves.other_picture consistent.owned same] at here
      exact consistent.consistent other q here

end Preservation

section Creation

variable {s s' : Store} {request : SearchRound} {task : Task}
  (created : s.CreatesRound s' request task)
include created

theorem Store.CreatesRound.round_cases {round : SearchRound} :
    round ∈ s'.searchRounds ↔ round ∈ s.searchRounds ∨ round = request := by
  rw [created.rounds, Table.mem_insertIfAbsent]
  exact or_congr_right ⟨And.right, fun same => ⟨created.newRound, same⟩⟩

theorem Store.CreatesRound.task_cases {other : Task} :
    other ∈ s'.tasks ↔ other ∈ s.tasks ∨ other = task := by
  obtain ⟨targetId, rfl⟩ := created.task
  rw [created.tasks, Table.mem_insertIfAbsent]
  exact or_congr_right ⟨And.right, fun same => ⟨created.newTask, same⟩⟩

theorem Store.CreatesRound.own_task : s'.tasks.find? request.taskId = some task := by
  obtain ⟨targetId, rfl⟩ := created.task
  rw [Table.find?_eq_some_iff]
  exact ⟨created.task_cases.mpr (.inr rfl), rfl⟩

/-- No round had the new task. -/
theorem Store.CreatesRound.other_task (owned : s.RoundsOwned) {round : SearchRound}
    (present : round ∈ s.searchRounds) : round.taskId ≠ request.taskId := by
  intro same
  obtain ⟨own, found, _⟩ := owned.tasked round present
  rw [same, created.newTask] at found
  cases found

theorem Store.CreatesRound.roundsOwned (owned : s.RoundsOwned) : s'.RoundsOwned := by
  refine ⟨fun round present => ?_, fun other present workflow => ?_,
    fun round present other present' same => ?_⟩
  · rcases created.round_cases.mp present with old | rfl
    · obtain ⟨own, found, rest⟩ := owned.tasked round old
      refine ⟨own, ?_, rest⟩
      rw [created.tasks]
      exact Table.find?_insertIfAbsent_of_some found
    · refine ⟨task, created.own_task, ?_⟩
      obtain ⟨targetId, rfl⟩ := created.task
      exact ⟨rfl, rfl, rfl⟩
  · rcases created.task_cases.mp present with old | rfl
    · obtain ⟨round, there, same⟩ := owned.owned other old workflow
      exact ⟨round, created.round_cases.mpr (.inl there), same⟩
    · refine ⟨request, created.round_cases.mpr (.inr rfl), ?_⟩
      obtain ⟨targetId, rfl⟩ := created.task
      rfl
  · rcases created.round_cases.mp present with old | rfl <;>
    rcases created.round_cases.mp present' with old' | rfl
    · exact owned.apart round old other old' same
    · exact absurd same (created.other_task owned old)
    · exact absurd same.symm (created.other_task owned old')
    · rfl

/-- The pictures of the rounds that were there stay. -/
theorem Store.CreatesRound.old_picture {roundId : Uuid} {p : RoundPicture}
    (here : s.picture roundId = some p) : s'.picture roundId = some p := by
  obtain ⟨found, tasked, same⟩ := Store.picture_eq_some.mp here
  refine Store.picture_eq_some.mpr ⟨?_, ?_, (created.rows roundId).trans same⟩
  · rw [created.rounds]
    exact Table.find?_insertIfAbsent_of_some found
  · rw [created.tasks]
    exact Table.find?_insertIfAbsent_of_some tasked

theorem Store.CreatesRound.roundsConsistent (valid : request.Valid)
    (consistent : s.RoundsConsistent) : s'.RoundsConsistent where
  owned := created.roundsOwned consistent.owned
  blank := fun roundId absent => by
    rw [created.rows]
    refine consistent.blank roundId ?_
    rw [Table.find?_eq_none_iff] at absent ⊢
    exact fun round present => absent round (created.round_cases.mpr (.inl present))
  consistent := fun roundId p here => by
    obtain ⟨found, tasked, same⟩ := Store.picture_eq_some.mp here
    rcases created.round_cases.mp (Table.mem_of_find? found) with old | new
    · have foundOld := Table.find?_of_mem old
      rw [key_searchRound, show p.round.roundId = roundId from Table.key_of_find? found] at foundOld
      obtain ⟨own, there⟩ := consistent.owned.task foundOld
      have before : s.picture roundId = some { round := p.round, task := own, rows := p.rows } :=
        Store.picture_eq_some.mpr ⟨foundOld, there, (created.rows roundId).symm.trans same⟩
      have one := Option.some.inj ((created.old_picture before).symm.trans here)
      have kept := consistent.consistent roundId _ before
      rw [one] at kept
      exact kept
    · have key : p.round.roundId = roundId := Table.key_of_find? found
      obtain ⟨round, own, rows⟩ := p
      simp only at new key tasked same
      subst new key
      cases created.own_task.symm.trans tasked
      rw [created.rows, consistent.blank _ created.newRound] at same
      subst same
      obtain ⟨opened, _, candidateFamily, artifactFamily, holdoutFamily, plan, _⟩ :=
        created.unfrozen
      obtain ⟨targetId, rfl⟩ := created.task
      exact {
        scripted := created.scripted
        valid := valid
        stage := ⟨.intakeOpen,
          .intakeOpen ⟨candidateFamily, artifactFamily, holdoutFamily, plan⟩
            ⟨rfl, rfl, rfl, rfl, rfl⟩ (fun _ absent => by cases absent), .inl opened⟩
        members := ⟨List.nodup_nil, (fun _ absent => by cases absent), List.nodup_nil,
          List.nodup_nil⟩
        task := by
          simp only
          rw [opened]
          rfl
        settled := fun _ _ absent => by cases absent
        unreleasable := fun _ absent => by cases absent }

end Creation

theorem RoundsUntouched.picture {s s' : Store} (untouched : RoundsUntouched s s')
    (owned : s.RoundsOwned) (roundId : Uuid) : s'.picture roundId = s.picture roundId := by
  unfold Store.picture
  rw [untouched.rounds, untouched.rows]
  cases found : s.searchRounds.find? roundId with
  | none => rfl
  | some round =>
      obtain ⟨task, there, workflow, _⟩ := owned.tasked round (Table.mem_of_find? found)
      simp only [Option.bind_eq_bind, Option.bind_some]
      rw [there, (untouched.tasks _ _ workflow).mpr there]

theorem RoundsUntouched.roundsConsistent {s s' : Store} (untouched : RoundsUntouched s s')
    (consistent : s.RoundsConsistent) : s'.RoundsConsistent where
  owned := {
    tasked := fun round present => by
      rw [untouched.rounds] at present
      obtain ⟨task, there, workflow, rest⟩ := consistent.owned.tasked round present
      exact ⟨task, (untouched.tasks _ _ workflow).mpr there, workflow, rest⟩
    owned := fun task present workflow => by
      rw [untouched.rounds]
      exact consistent.owned.owned task
        (Table.mem_of_find? ((untouched.tasks _ _ workflow).mp (Table.find?_of_mem present)))
        workflow
    apart := fun round present other present' => by
      rw [untouched.rounds] at present present'
      exact consistent.owned.apart round present other present' }
  blank := fun roundId absent => by
    rw [untouched.rounds] at absent
    rw [untouched.rows]
    exact consistent.blank roundId absent
  consistent := fun roundId p here => by
    rw [untouched.picture consistent.owned] at here
    exact consistent.consistent roundId p here

/-! ## Steps and runs -/

/-- **A step keeps the invariant of the rounds.** -/
theorem RoundStep.roundsConsistent {env : RoundEnv} {s s' : Store} {label : Option RoundCall}
    (step : RoundStep env s label s') (consistent : s.RoundsConsistent) :
    s'.RoundsConsistent := by
  cases step with
  | elsewhere untouched => exact untouched.roundsConsistent consistent
  | call call =>
      rcases commit_cases (call.run env) s with ⟨e, _, committed⟩ | ⟨t, reply, ok, committed⟩
      · rw [committed]
        exact consistent
      · rw [committed]
        rcases call.effect consistent.owned ok with same | ⟨p, p', moves⟩ |
          ⟨request, task, valid, created⟩
        · rw [same]
          exact consistent
        · exact moves.roundsConsistent consistent
        · exact created.roundsConsistent valid consistent

theorem roundsConsistent_of_steps {env : RoundEnv} {s s' : Store}
    {trace : List (Option RoundCall)} (steps : Steps (RoundStep env) s trace s')
    (consistent : s.RoundsConsistent) : s'.RoundsConsistent :=
  steps.invariant (fun _ _ _ here step => step.roundsConsistent here) consistent

/-- Every round of the store is there later, and its pictures are related. -/
def RoundsRelate (R : RoundPicture → RoundPicture → Prop) (s s' : Store) : Prop :=
  ∀ roundId p, s.picture roundId = some p → ∃ p', s'.picture roundId = some p' ∧ R p p'

section Relations

variable {env : RoundEnv} {R : RoundPicture → RoundPicture → Prop} (refl : ∀ p, R p p)
  (moved : ∀ p action p', RoundMove env p action p' → p.Consistent → R p p')
include refl moved

/-- **What holds across a move holds across a step**, of every round. -/
theorem RoundStep.relates {s s' : Store} {label : Option RoundCall}
    (step : RoundStep env s label s') (consistent : s.RoundsConsistent) :
    RoundsRelate R s s' := by
  cases step with
  | elsewhere untouched =>
      refine fun roundId p here => ⟨p, ?_, refl p⟩
      rw [untouched.picture consistent.owned]
      exact here
  | call call =>
      rcases commit_cases (call.run env) s with ⟨e, _, committed⟩ | ⟨t, reply, ok, committed⟩
      · rw [committed]
        exact fun roundId p here => ⟨p, here, refl p⟩
      · rw [committed]
        rcases call.effect consistent.owned ok with same | ⟨p, p', moves⟩ |
          ⟨request, task, valid, created⟩
        · rw [same]
          exact fun roundId p here => ⟨p, here, refl p⟩
        · intro roundId q here
          by_cases same : roundId = call.roundId
          · rw [same, moves.before] at here
            cases here
            rw [same]
            exact ⟨p', moves.after,
              moved p _ p' moves.move (consistent.consistent _ p moves.before)⟩
          · refine ⟨q, ?_, refl q⟩
            rw [moves.other_picture consistent.owned same]
            exact here
        · exact fun roundId p here => ⟨p, created.old_picture here, refl p⟩

theorem roundsRelate_of_steps (trans : ∀ p q r, R p q → R q r → R p r) {s s' : Store}
    {trace : List (Option RoundCall)} (steps : Steps (RoundStep env) s trace s')
    (consistent : s.RoundsConsistent) : RoundsRelate R s s' := by
  refine steps.relate (fun _ _ _ here step => step.roundsConsistent here)
    (fun s roundId p here => ⟨p, here, refl p⟩) (fun s t u first second roundId p here => ?_)
    (fun _ _ _ here step => step.relates refl moved here) consistent
  obtain ⟨q, there, ahead⟩ := first roundId p here
  obtain ⟨r, last, further⟩ := second roundId q there
  exact ⟨r, last, trans p q r ahead further⟩

end Relations

theorem roundsAdvance_of_steps {env : RoundEnv} {s s' : Store}
    {trace : List (Option RoundCall)} (steps : Steps (RoundStep env) s trace s')
    (consistent : s.RoundsConsistent) : RoundsRelate RoundPicture.Advances s s' :=
  roundsRelate_of_steps .refl (fun _ _ _ move here => move.advances here)
    (fun _ _ _ => RoundPicture.Advances.trans) steps consistent

/-! ## What a stage says -/

namespace RoundPicture.Consistent

variable {p : RoundPicture}

/-- A holdout family or a revealed plan needs a search barrier that promoted somebody. -/
theorem holdout_promoted (consistent : p.Consistent)
    (holdout : p.round.holdoutFamilyHash ≠ none ∨ p.round.holdoutPlanHash ≠ none ∨
      p.rows.reveal ≠ none) :
    ∃ search, p.rows.search = some search ∧ search.barrier.promotedCandidateIds ≠ [] := by
  obtain ⟨stage, here, _⟩ := consistent.stage
  have promotes : ∀ {search : SearchBarrierDecision} {family : String}, search.Decided →
      search.holdoutFamilyHash = some family → search.barrier.promotedCandidateIds ≠ [] := by
    intro search family decided promoted nobody
    rw [decided.family.mpr nobody] at promoted
    cases promoted
  cases here with
  | intakeOpen hashes rows | intakeClosed hashes rows | building hashes rows
  | correctness hashes rows =>
      obtain ⟨_, _, family, plan⟩ := hashes
      simp [family, plan, rows.2.1] at holdout
  | searchBarrier hashes rows _ decided =>
      obtain ⟨_, _, family, plan⟩ := hashes
      refine ⟨_, rows.1, fun nobody => ?_⟩
      rw [decided.family.mpr nobody] at family
      simp [family, plan, rows.2.1] at holdout
  | holdoutMeasuring _ rows _ decided promoted | holdoutBarrier _ rows _ decided promoted
  | completed _ rows _ decided promoted =>
      exact ⟨_, rows.1, promotes decided promoted⟩
  | withoutWinner hashes rows =>
      obtain ⟨_, _, family, plan⟩ := hashes
      simp [family, plan, rows.2.1] at holdout

/-- After a search barrier that promoted nobody there is only the end without a winner. -/
theorem without_winner (consistent : p.Consistent) {search : SearchBarrierDecision}
    (searched : p.rows.search = some search)
    (nobody : search.barrier.promotedCandidateIds = []) :
    p.round.state ∈ [SearchRoundState.searchBarrier, .scriptedCompleted, .cancelled] ∧
      p.rows.reveal = none ∧ p.rows.holdout = none ∧ p.rows.comparison = none ∧
      ∀ evidence ∈ p.rows.evidence, evidence.terminalReason = .noPromotableCandidate := by
  obtain ⟨stage, here, state⟩ := consistent.stage
  have promotes : ∀ {other : SearchBarrierDecision} {family : String},
      p.rows.search = some other → other.Decided →
      other.holdoutFamilyHash = some family → False := by
    intro other family same decided promoted
    cases same.symm.trans searched
    rw [decided.family.mpr nobody] at promoted
    cases promoted
  cases here with
  | intakeOpen _ rows | intakeClosed _ rows | building _ rows | correctness _ rows =>
      cases rows.1.symm.trans searched
  | searchBarrier _ rows =>
      obtain ⟨_, reveal, holdout, comparison, evidence⟩ := rows
      refine ⟨?_, reveal, holdout, comparison, fun bundle there => ?_⟩
      · rcases state with same | ⟨same, _⟩ <;> rw [same] <;> decide
      · rw [evidence] at there
        cases there
  | holdoutMeasuring _ rows _ decided promoted | holdoutBarrier _ rows _ decided promoted
  | completed _ rows _ decided promoted =>
      exact (promotes rows.1 decided promoted).elim
  | withoutWinner _ rows _ _ _ reason =>
      obtain ⟨_, reveal, holdout, comparison, evidence⟩ := rows
      refine ⟨?_, reveal, holdout, comparison, fun bundle there => ?_⟩
      · rcases state with same | ⟨same, _⟩ <;> rw [same] <;> decide
      · rw [evidence] at there
        cases there
        exact reason

end RoundPicture.Consistent

/-! ## The lifecycle -/

/-- From one row of a round to a later one: the state stays or climbs in the order of the
lifecycle, and each family hash, once written, stays. -/
structure SearchRound.MovesForward (round round' : SearchRound) : Prop where
  state : round'.state = round.state ∨ round.state.rank < round'.state.rank
  candidateFamily : ∀ hash, round.candidateFamilyHash = some hash →
    round'.candidateFamilyHash = some hash
  artifactFamily : ∀ hash, round.artifactFamilyHash = some hash →
    round'.artifactFamilyHash = some hash
  holdoutFamily : ∀ hash, round.holdoutFamilyHash = some hash →
    round'.holdoutFamilyHash = some hash

/-- What holds of a round in every store of a run: a holdout only after a promotion, only
the end without a winner when nobody was promoted, and no automatic release. -/
structure Store.RoundSound (s : Store) (round : SearchRound) : Prop where
  promotion : round.holdoutFamilyHash ≠ none ∨ round.holdoutPlanHash ≠ none ∨
      s.holdoutReveals.find? round.roundId ≠ none →
    ∃ search, s.searchDecision round.roundId = some search ∧
      search.barrier.promotedCandidateIds ≠ []
  noWinner : ∀ search, s.searchDecision round.roundId = some search →
    search.barrier.promotedCandidateIds = [] →
    round.state ∈ [SearchRoundState.searchBarrier, .scriptedCompleted, .cancelled] ∧
      s.holdoutReveals.find? round.roundId = none ∧ s.holdoutBarrier round.roundId = none ∧
      s.multipleComparisons.find? round.roundId = none ∧
      ∀ evidence ∈ s.roundEvidenceBundles.find? round.roundId,
        evidence.terminalReason = .noPromotableCandidate
  noRelease : round.automaticReleaseAllowed = false
  noTaskRelease : ∀ task ∈ s.tasks.find? round.taskId, task.automaticReleaseAllowed = false
  noEvidenceRelease : ∀ evidence ∈ s.roundEvidenceBundles.find? round.roundId,
    evidence.automaticReleaseAllowed = false

theorem Store.RoundsConsistent.roundSound {s : Store} (consistent : s.RoundsConsistent)
    {round : SearchRound} (present : round ∈ s.searchRounds) : s.RoundSound round := by
  have found := Table.find?_of_mem present
  rw [key_searchRound] at found
  obtain ⟨task, tasked, _, _, release⟩ := consistent.owned.tasked round present
  have sound := consistent.consistent _ _ (picture_of_round found tasked)
  exact {
    promotion := sound.holdout_promoted
    noWinner := fun search searched nobody => sound.without_winner searched nobody
    noRelease := sound.valid.noRelease
    noTaskRelease := fun other there => by
      rw [tasked] at there
      cases there
      exact release
    noEvidenceRelease := sound.unreleasable }

/-- **The lifecycle of search rounds.** From any store of a run to any later one every
round moves forward, and one that has ended is unchanged with its task and all rows about
it; and in every store each round is sound. -/
theorem search_round_lifecycle {env : RoundEnv} {s₀ s s' : Store}
    {before after : List (Option RoundCall)} (start : s₀.NoRounds)
    (reached : Steps (RoundStep env) s₀ before s) (run : Steps (RoundStep env) s after s') :
    (∀ roundId round, s.searchRounds.find? roundId = some round →
      ∃ round', s'.searchRounds.find? roundId = some round' ∧ round.MovesForward round' ∧
        (round.state.isTerminal = true → round' = round ∧
          s'.tasks.find? round.taskId = s.tasks.find? round.taskId ∧
          s'.rowsOf roundId = s.rowsOf roundId)) ∧
    ∀ round ∈ s'.searchRounds, s'.RoundSound round := by
  have consistent := roundsConsistent_of_steps reached start.roundsConsistent
  refine ⟨fun roundId round found => ?_, fun round present =>
    (roundsConsistent_of_steps run consistent).roundSound present⟩
  obtain ⟨task, tasked⟩ := consistent.owned.task found
  obtain ⟨p', there, ahead⟩ :=
    roundsAdvance_of_steps run consistent roundId _ (picture_of_round found tasked)
  obtain ⟨found', tasked', rows'⟩ := Store.picture_eq_some.mp there
  refine ⟨p'.round, found',
    ⟨ahead.state, ahead.candidateFamily, ahead.artifactFamily, ahead.holdoutFamily⟩,
    fun ended => ?_⟩
  have still := ahead.ended ended
  subst still
  exact ⟨rfl, tasked'.trans tasked.symm, rows'⟩

/-! ## A run without a winner -/

/-- The store after calls in sequence. -/
def runRoundCalls (env : RoundEnv) (s : Store) (calls : List RoundCall) : Store :=
  calls.foldl (fun s call => (commit (call.run env) s).1) s

theorem steps_runRoundCalls (env : RoundEnv) (s : Store) (calls : List RoundCall) :
    Steps (RoundStep env) s (calls.map some) (runRoundCalls env s calls) := by
  induction calls generalizing s with
  | nil => exact .refl s
  | cons call calls ih =>
      have steps := (Steps.single (RoundStep.call call s : RoundStep env s _ _)).trans
        (ih (commit (call.run env) s).1)
      exact steps

/-- Surroundings with one hash for every document and a verifier that accepts. -/
def plainEnv : RoundEnv where
  digest _ := "sha256:0"
  uuid5 _ := 900
  revealAccepted _ := true
  scriptedFinalizer := some fun _ _ _ _ _ => .ok ()

/-- The authority rows that a round is created under, and a queued job of its task. -/
def authorityStore : Store where
  tasks := Table.insertIfAbsent ∅
    { taskId := 1, workflowType := .stage0, state := .completed
      stage0Authority := some "synthetic" }
  stage0Runs := Table.insertIfAbsent ∅
    { stage0RunId := 2, taskId := 1, mode := .dryRun, state := .finalized, targetSnapshotId := 3 }
  targetSnapshots := Table.insertIfAbsent ∅ { targetSnapshotId := 3, targetId := "target" }
  sourceSnapshots := Table.insertIfAbsent ∅ { snapshotId := 4, sourceHash := "baseline" }
  baselineEpochs := Table.insertIfAbsent ∅
    { baselineEpochId := 5, sourceSnapshotId := some 4, targetSnapshotId := some 3
      stage0RunId := some 2, stage0ProtocolHash := some "protocol", workloadId := "workload"
      workloadHash := some "workload", configurationHash := "configuration"
      imageDigest := "image", adapterProfile := some "adapter" }
  hotspots := Table.insertIfAbsent ∅
    { hotspotId := 6, baselineEpochId := 5, candidateKind := .fixture
      evidence := [("replacement_point", .str "point")] }
  jobs := Table.insertIfAbsent ∅
    { jobId := 7, taskId := 10, jobType := .build, acceptedWorkerType := .build, payload := []
      idempotencyKey := "job", availableAt := 0, createdAt := 0 }

/-- A round of two members. -/
def sampleRound : SearchRound where
  roundId := 11
  taskId := 10
  idempotencyKey := "round"
  runMode := .scripted
  targetSnapshotId := 3
  stage0RunId := 2
  stage0ProtocolHash := "protocol"
  baselineEpochId := 5
  hotspotId := 6
  replacementPoint := "point"
  workloadId := "workload"
  workloadHash := "workload"
  configurationHash := "configuration"
  imageDigest := "image"
  adapterProfile := "adapter"
  declaredCandidateCount := 2
  maxPromoted := 1
  familyAlpha := ⟨1, 20, by decide, by decide⟩
  searchPlanHash := "search-plan"
  holdoutPlanCommitment := "commitment"
  holdoutPlanAuthorityId := "authority"
  holdoutPlanAuthorityHash := "authority"
  selectionRuleHash := "rule"
  budget := {
    maxCandidates := 2, maxBuildAttempts := 4, maxCorrectnessAttempts := 4, maxSearchSamples := 4
    maxHoldoutSamples := 4, maxWallSeconds := 100, maxExclusiveLeaseSeconds := 100 }
  createdAt := 0
  state := .intakeOpen

/-- A member of the round by its ordinal. -/
def sampleMember (ordinal : Nat) : RoundCandidate where
  roundCandidateId := 20 + ordinal
  roundId := 11
  candidateId := 30 + ordinal
  ordinal := ordinal
  sourcePackageStoreId := "store"
  sourcePackageStoreHash := "store"
  sourcePackageHash := if ordinal = 0 then "package-0" else "package-1"
  sourceManifestHash := if ordinal = 0 then "manifest-0" else "manifest-1"
  baselineSourceHash := "baseline"
  candidateSourceHash := if ordinal = 0 then "source-0" else "source-1"
  optimizationIntent := "intent"
  replacementPoint := "point"
  candidateKind := .fixture
  idempotencyKey := if ordinal = 0 then "member-0" else "member-1"
  state := .intakeAccepted

/-- The failed build of a member. -/
def sampleBuild (ordinal : Nat) : RoundCandidateBuildTerminal where
  roundId := 11
  roundCandidateId := 20 + ordinal
  candidateId := 30 + ordinal
  terminal := {
    state := .buildFailed, terminalFailureCode := some "compiler"
    failureEvidenceHash := some "log" }
  valid := by decide

/-- The failed member at the search barrier. -/
def sampleResult (ordinal : Nat) : BarrierMemberResult where
  roundCandidateId := 20 + ordinal
  candidateId := 30 + ordinal
  candidateState := .buildFailed
  failureEvidenceHash := some "log"
  budgetUsageEvidenceHash := "usage"

/-- What the search barrier decides on. -/
def sampleSummary : SearchBarrierInputSummary where
  roundId := 11
  artifactFamilyHash := "sha256:0"
  selectionRuleHash := "rule"
  members := [sampleResult 0, sampleResult 1]
  statistics := []
  promotedCandidateIds := []

/-- The decision that promotes nobody. -/
def sampleDecision : SearchBarrierDecision where
  barrier := searchBarrierOf plainEnv sampleSummary "closer" 0 "search-barrier"
  inputSummary := sampleSummary
  holdoutFamilyHash := none

/-- The evidence of a round that ended without a winner. -/
def sampleEvidence : RoundEvidenceBundle where
  roundEvidenceBundleId := 40
  roundId := 11
  runMode := .scripted
  terminalReason := .noPromotableCandidate
  budgetLedgerHash := "sha256:0"
  synthetic := true
  createdAt := 0
  evidence := .null

/-- From the creation of a round to the close of its intake. -/
def sampleIntake : List RoundCall :=
  [.createSearchRound sampleRound (by decide), .addRoundCandidate (sampleMember 0) (by decide),
   .addRoundCandidate (sampleMember 1) (by decide), .closeSearchRoundIntake 1 11]

/-- From there to a search barrier that promotes nobody. -/
def sampleSearch : List RoundCall :=
  [.recordRoundCandidateBuild (sampleBuild 0), .recordRoundCandidateBuild (sampleBuild 1),
   .freezeSearchRoundArtifactFamily ⟨11, "sha256:0", "sha256:0"⟩,
   .closeScriptedSearchBarrier sampleDecision]

theorem noRounds_authorityStore : authorityStore.NoRounds where
  rounds := rfl
  rows _ := rfl
  tasks task present := by
    have here : task ∈ [_] := present
    rw [List.mem_singleton.mp here]
    decide

/-- The end without a winner is reached from a closed intake, and is the end. -/
theorem search_round_lifecycle_without_winner :
    ((runRoundCalls plainEnv authorityStore sampleIntake).searchRounds.find? 11).map
        SearchRound.state = some .intakeClosed ∧
      ((runRoundCalls plainEnv (runRoundCalls plainEnv authorityStore sampleIntake)
          (sampleSearch ++ [.finalizeScriptedSearchRound sampleEvidence])).searchRounds.find?
            11).map SearchRound.state = some .scriptedCompleted ∧
      ∀ round ∈ (runRoundCalls plainEnv (runRoundCalls plainEnv authorityStore sampleIntake)
          (sampleSearch ++ [.finalizeScriptedSearchRound sampleEvidence])).searchRounds,
        (runRoundCalls plainEnv (runRoundCalls plainEnv authorityStore sampleIntake)
          (sampleSearch ++ [.finalizeScriptedSearchRound sampleEvidence])).RoundSound round :=
  ⟨by decide +kernel, by decide +kernel,
    (search_round_lifecycle noRounds_authorityStore (steps_runRoundCalls _ _ _)
      (steps_runRoundCalls _ _ _)).2⟩

end HcuAutoOpt
