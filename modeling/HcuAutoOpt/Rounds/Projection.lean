import HcuAutoOpt.Rounds.Budget
import HcuAutoOpt.Rounds.Replays

/-!
# Recovery and the moves of a round

`reconcile_scripted_search_round` reads the next action of a round off its rows. The rows
of a round are those of its stage, so that the projection agrees with the state of the
round and its task (`RoundPicture.Consistent.projects`), a move carries out the action that
is named (`RoundMove.named`), and the operation that is named is accepted for every
admissible input (`RoundCall.accepted`).

The main result is `recovery_projection`.
-/

set_option autoImplicit false

namespace HcuAutoOpt

open Foundation

/-! ## The projection of a stage -/

/-- The action that recovery names for a round. -/
def RoundPicture.nextAction (p : RoundPicture) : RoundAction :=
  if p.round.state = .cancelled then .none else p.graph.project.nextAction

theorem RoundGraph.builtCount_eq_zero {graph : RoundGraph} :
    graph.builtCount = 0 ↔ ∀ member ∈ graph.members, member.state ∉ buildTerminalStates := by
  simp [builtCount, List.filter_eq_nil_iff]

theorem RoundGraph.builtCount_eq_length {graph : RoundGraph} :
    graph.builtCount = graph.members.length ↔
      ∀ member ∈ graph.members, member.state ∈ buildTerminalStates := by
  simp [builtCount, List.length_filter_eq_length_iff]

theorem BuildTerminal.waiting_of_accepted {terminal : BuildTerminal}
    (accepted : terminal = .accepted) : terminal.state ∉ buildTerminalStates := by
  rw [accepted]
  decide

section Projections

variable {p : RoundPicture} {search : SearchBarrierDecision} {reveal : HoldoutRevealResult}
  {holdout : RoundBarrierResult} {comparison : Option MultipleComparisonResult}

theorem project_of_families (rows : p.rows.Hold none none none none none) :
    p.graph.Complete ∧ p.graph.project = p.graph.projectFamilies := by
  obtain ⟨search, reveal, holdout, comparison, evidence⟩ := rows
  constructor
  · simp [RoundGraph.Complete, RoundPicture.graph, search, reveal, holdout, comparison, evidence]
  · simp [RoundGraph.project, RoundPicture.graph, search, reveal, holdout, comparison, evidence]

theorem project_of_search (rows : p.rows.Hold (some search) none none none none) :
    p.graph.Complete ∧ p.graph.project = RoundGraph.projectSearch search := by
  obtain ⟨search, reveal, holdout, comparison, evidence⟩ := rows
  constructor
  · simp [RoundGraph.Complete, RoundPicture.graph, search, reveal, holdout, comparison, evidence]
  · simp [RoundGraph.project, RoundPicture.graph, search, reveal, holdout, comparison, evidence]

theorem project_of_reveal (rows : p.rows.Hold (some search) (some reveal) none none none)
    (promoted : search.barrier.promotedCandidateIds ≠ []) :
    p.graph.Complete ∧ p.graph.project.expectedState = .holdoutMeasuring ∧
      p.graph.project.nextAction = .closeHoldoutBarrier := by
  obtain ⟨search, reveal, holdout, comparison, evidence⟩ := rows
  constructor
  · simp [RoundGraph.Complete, RoundPicture.graph, search, reveal, holdout, comparison, evidence,
      promoted]
  · simp [RoundGraph.project, RoundPicture.graph, search, reveal, holdout, comparison, evidence]

theorem project_of_holdout
    (rows : p.rows.Hold (some search) (some reveal) (some holdout) comparison none)
    (promoted : search.barrier.promotedCandidateIds ≠ []) :
    p.graph.Complete ∧ p.graph.project.expectedState = .holdoutBarrier ∧
      p.graph.project.nextAction =
        if comparison = none then .recordMultipleComparison else .finalizeScriptedRound := by
  obtain ⟨search, reveal, holdout, compared, evidence⟩ := rows
  refine ⟨?_, ?_⟩
  · simp [RoundGraph.Complete, RoundPicture.graph, search, reveal, holdout, evidence, promoted]
  · cases comparison <;>
      simp [RoundGraph.project, RoundPicture.graph, search, reveal, holdout, compared, evidence]

theorem project_of_evidence (searched : p.rows.search = some search)
    (revealed : p.rows.reveal ≠ none → search.barrier.promotedCandidateIds ≠ [])
    (held : p.rows.holdout ≠ none → p.rows.reveal ≠ none)
    (compared : p.rows.comparison ≠ none → p.rows.holdout ≠ none)
    (finalized : p.rows.evidence ≠ none) :
    p.graph.Complete ∧ p.graph.project.expectedState = .scriptedCompleted ∧
      p.graph.project.nextAction = .none := by
  refine ⟨⟨fun there => ⟨?_, held there⟩, fun there => ?_, compared, fun _ => ?_⟩, ?_⟩
  · simp [RoundPicture.graph, searched]
  · exact ⟨search, searched, revealed there⟩
  · simp [RoundPicture.graph, searched]
  · simp [RoundGraph.project, RoundPicture.graph, finalized]

theorem projectFamilies_of_open {holdoutFamily plan : Option String}
    (hashes : p.round.Carries none none holdoutFamily plan) :
    p.graph.projectFamilies.expectedState = .intakeOpen ∧
      p.graph.projectFamilies.nextAction =
        if p.rows.members.length = p.round.declaredCandidateCount then .closeIntake
        else .awaitCandidateIntake := by
  have candidates : p.graph.round.candidateFamilyHash = none := hashes.1
  have artifacts : p.graph.round.artifactFamilyHash = none := hashes.2.1
  by_cases full : p.rows.members.length = p.round.declaredCandidateCount
  · have here : p.graph.members.length = p.graph.round.declaredCandidateCount := full
    simp [RoundGraph.projectFamilies, candidates, artifacts, here, full]
  · have here : p.graph.members.length ≠ p.graph.round.declaredCandidateCount := full
    simp [RoundGraph.projectFamilies, candidates, artifacts, here, full]

theorem projectFamilies_of_closed {family : String} {holdoutFamily plan : Option String}
    (hashes : p.round.Carries (some family) none holdoutFamily plan) :
    p.graph.projectFamilies.expectedState =
        (if p.graph.builtCount ≠ 0 then .building else .intakeClosed) ∧
      p.graph.projectFamilies.nextAction =
        if p.graph.builtCount = p.round.declaredCandidateCount then .freezeArtifactFamily
        else .awaitBuildTerminals := by
  have candidates : p.graph.round.candidateFamilyHash = some family := hashes.1
  have artifacts : p.graph.round.artifactFamilyHash = none := hashes.2.1
  by_cases full : p.graph.builtCount = p.round.declaredCandidateCount
  · have here : p.graph.builtCount = p.graph.round.declaredCandidateCount := full
    simp [RoundGraph.projectFamilies, candidates, artifacts, ← here, ← full]
  · have here : p.graph.builtCount ≠ p.graph.round.declaredCandidateCount := full
    simp [RoundGraph.projectFamilies, candidates, artifacts, here, full]

theorem projectFamilies_of_frozen {family artifacts : String} {holdoutFamily plan : Option String}
    (hashes : p.round.Carries (some family) (some artifacts) holdoutFamily plan) :
    p.graph.projectFamilies.expectedState = .correctness ∧
      p.graph.projectFamilies.nextAction = .closeSearchBarrier := by
  have frozen : p.graph.round.artifactFamilyHash = some artifacts := hashes.2.1
  simp [RoundGraph.projectFamilies, frozen]

end Projections

/-- A decision that freezes a holdout family promoted somebody. -/
theorem SearchBarrierDecision.Decided.promotes {search : SearchBarrierDecision} {family : String}
    (decided : search.Decided) (promoted : search.holdoutFamilyHash = some family) :
    search.barrier.promotedCandidateIds ≠ [] := by
  intro nobody
  rw [decided.family.mpr nobody] at promoted
  cases promoted

/-- The rows of a stage are complete, and the projection expects the stage. -/
theorem RoundStage.project {p : RoundPicture} {stage : SearchRoundState}
    (here : RoundStage p stage) :
    p.graph.Complete ∧ p.graph.project.expectedState = stage := by
  cases here with
  | intakeOpen hashes rows _ =>
      obtain ⟨complete, projected⟩ := project_of_families rows
      rw [projected]
      exact ⟨complete, (projectFamilies_of_open hashes).1⟩
  | intakeClosed hashes rows _ waiting =>
      obtain ⟨complete, projected⟩ := project_of_families rows
      have unbuilt : p.graph.builtCount = 0 := RoundGraph.builtCount_eq_zero.mpr
        fun member present => BuildTerminal.waiting_of_accepted (waiting member present)
      rw [projected, (projectFamilies_of_closed hashes).1, if_neg (not_not.mpr unbuilt)]
      exact ⟨complete, rfl⟩
  | building hashes rows _ _ begun =>
      obtain ⟨complete, projected⟩ := project_of_families rows
      have built : p.graph.builtCount ≠ 0 := fun none => by
        obtain ⟨member, present, ended⟩ := begun
        exact RoundGraph.builtCount_eq_zero.mp none member present ended.state_mem
      rw [projected, (projectFamilies_of_closed hashes).1, if_pos built]
      exact ⟨complete, rfl⟩
  | correctness hashes rows =>
      obtain ⟨complete, projected⟩ := project_of_families rows
      rw [projected]
      exact ⟨complete, (projectFamilies_of_frozen hashes).1⟩
  | searchBarrier hashes rows _ decided =>
      obtain ⟨complete, projected⟩ := project_of_search rows
      refine ⟨complete, ?_⟩
      rw [projected]
      unfold RoundGraph.projectSearch
      split <;> rfl
  | holdoutMeasuring hashes rows _ decided promoted =>
      obtain ⟨complete, state, _⟩ := project_of_reveal rows (decided.promotes promoted)
      exact ⟨complete, state⟩
  | holdoutBarrier hashes rows _ decided promoted =>
      obtain ⟨complete, state, _⟩ := project_of_holdout rows (decided.promotes promoted)
      exact ⟨complete, state⟩
  | withoutWinner hashes rows =>
      obtain ⟨search, reveal, holdout, comparison, evidence⟩ := rows
      obtain ⟨complete, state, _⟩ := project_of_evidence search (fun there => absurd reveal there)
        (fun there => absurd holdout there) (fun there => absurd comparison there)
        (by rw [evidence]; exact Option.some_ne_none _)
      exact ⟨complete, state⟩
  | completed hashes rows _ decided promoted =>
      obtain ⟨search, reveal, holdout, comparison, evidence⟩ := rows
      obtain ⟨complete, state, _⟩ := project_of_evidence search
        (fun _ => decided.promotes promoted) (fun _ => by rw [reveal]; exact Option.some_ne_none _)
        (fun _ => by rw [holdout]; exact Option.some_ne_none _)
        (by rw [evidence]; exact Option.some_ne_none _)
      exact ⟨complete, state⟩

/-- **A consistent round agrees with its projection**, as does its task. -/
theorem RoundPicture.Consistent.projects {p : RoundPicture} (consistent : p.Consistent)
    (uncancelled : p.round.state ≠ .cancelled) :
    p.graph.Complete ∧ p.round.state = p.graph.project.expectedState ∧
      p.task.state = p.graph.project.expectedState.taskState := by
  have stage := consistent.stage_of_state rfl uncancelled
  obtain ⟨complete, expected⟩ := stage.project
  refine ⟨complete, expected.symm, ?_⟩
  rw [expected, consistent.task]
  exact if_neg uncancelled

/-! ## Moves carry out the named action -/

/-- A family with room for another ordinal is not full. -/
theorem FamilyDistinct.room {identities : List RoundCandidateIdentity} {declared ordinal : Nat}
    (distinct : FamilyDistinct identities declared) (small : ordinal < declared)
    (fresh : ∀ identity ∈ identities, identity.ordinal ≠ ordinal) :
    identities.length < declared := by
  have nodup : (ordinal :: identities.map RoundCandidateIdentity.ordinal).Nodup := by
    refine List.nodup_cons.mpr ⟨fun present => ?_, distinct.ordinals⟩
    obtain ⟨identity, there, same⟩ := List.mem_map.mp present
    exact fresh identity there same
  have inside : ordinal :: identities.map RoundCandidateIdentity.ordinal ⊆
      List.range declared := by
    intro other present
    rcases List.mem_cons.mp present with rfl | old
    · exact List.mem_range.mpr small
    · obtain ⟨identity, there, rfl⟩ := List.mem_map.mp old
      exact List.mem_range.mpr (distinct.small identity there)
  have lengths := (List.subperm_of_subset nodup inside).length_le
  rw [List.length_cons, List.length_map, List.length_range] at lengths
  omega

/-- The counted builds of a round are all of its builds. -/
theorem RoundPicture.builtCount_eq {p : RoundPicture}
    (count : p.rows.members.length = p.round.declaredCandidateCount) :
    p.graph.builtCount = p.round.declaredCandidateCount ↔
      ∀ member ∈ p.rows.members, member.state ∈ buildTerminalStates := by
  rw [← count]
  exact RoundGraph.builtCount_eq_length

/-- **A move carries out the action that recovery names.** -/
theorem RoundMove.named {env : RoundEnv} {p p' : RoundPicture} {action : RoundAction}
    (move : RoundMove env p (some action) p') (consistent : p.Consistent) :
    p.nextAction = action := by
  have uncancelled : p.round.state ≠ .cancelled := fun cancelled => by
    have live := move.live consistent
    rw [cancelled] at live
    cases live
  unfold RoundPicture.nextAction
  rw [if_neg uncancelled]
  cases move with
  | join member opened _ small fresh =>
      cases consistent.stage_of_state opened (by decide) with
      | intakeOpen hashes rows _ =>
          rw [(project_of_families rows).2, (projectFamilies_of_open hashes).2, if_neg]
          have room := consistent.members.room small fun identity present => by
            obtain ⟨other, there, rfl⟩ := List.mem_map.mp present
            exact (fresh other there).1
          rw [RoundRows.length_identities] at room
          exact room.ne
  | closeIntake _ opened count _ =>
      cases consistent.stage_of_state opened (by decide) with
      | intakeOpen hashes rows _ =>
          rw [(project_of_families rows).2, (projectFamilies_of_open hashes).2, if_pos count]
  | build member _ present waiting _ accepting =>
      obtain ⟨family, hashes, rows, count⟩ : ∃ family,
          p.round.Carries (some family) none none none ∧ p.rows.Hold none none none none none ∧
          p.rows.members.length = p.round.declaredCandidateCount := by
        rcases List.mem_pair.mp accepting.2 with here | here
        · cases consistent.stage_of_state here (by decide) with
          | intakeClosed hashes rows count _ => exact ⟨_, hashes, rows, count⟩
        · cases consistent.stage_of_state here (by decide) with
          | building hashes rows count _ _ => exact ⟨_, hashes, rows, count⟩
      rw [(project_of_families rows).2, (projectFamilies_of_closed hashes).2, if_neg]
      exact fun built => waiting ((RoundPicture.builtCount_eq count).mp built member present)
  | freeze _ building hashed =>
      cases consistent.stage_of_state building (by decide) with
      | building hashes rows count _ _ =>
          rw [(project_of_families rows).2, (projectFamilies_of_closed hashes).2, if_pos]
          exact (RoundPicture.builtCount_eq count).mpr (artifactFamilyHash_ended hashed)
  | closeSearch _ _ ready _ =>
      rcases List.mem_pair.mp ready with here | here
      · cases consistent.stage_of_state here (by decide) with
        | correctness hashes rows _ =>
            rw [(project_of_families rows).2, (projectFamilies_of_frozen hashes).2]
      · cases consistent.stage_of_state here (by decide)
  | reveal _ search ready durable promoted _ =>
      cases consistent.stage_of_state ready (by decide) with
      | searchBarrier hashes rows _ decided =>
          cases rows.1.symm.trans durable
          rw [(project_of_search rows).2, RoundGraph.projectSearch, if_pos]
          intro nobody
          rw [decided.outcome, if_pos nobody] at promoted
          cases promoted
  | closeHoldout _ ready =>
      cases consistent.stage_of_state ready (by decide) with
      | holdoutMeasuring hashes rows _ decided promoted =>
          exact (project_of_reveal rows (decided.promotes promoted)).2.2
  | compare _ ready first =>
      cases consistent.stage_of_state ready (by decide) with
      | holdoutBarrier hashes rows _ decided promoted =>
          cases rows.2.2.2.1.symm.trans first
          exact (project_of_holdout rows (decided.promotes promoted)).2.2
  | complete _ search durable path _ _ _ =>
      unfold requireTerminalPath at path
      split at path
      · obtain ⟨here, nobody, _⟩ := require_eq_ok.mp path
        cases consistent.stage_of_state here (by decide) with
        | searchBarrier hashes rows _ decided =>
            cases rows.1.symm.trans durable
            rw [(project_of_search rows).2, RoundGraph.projectSearch, if_neg]
            intro somebody
            rw [decided.outcome, if_neg somebody] at nobody
            cases nobody
      · obtain ⟨here, _, _, compared⟩ := require_eq_ok.mp path
        cases consistent.stage_of_state here (by decide) with
        | holdoutBarrier hashes rows _ decided promoted =>
            rw [rows.2.2.2.1] at compared
            rw [(project_of_holdout rows (decided.promotes promoted)).2.2, if_neg compared]

/-! ## What the named action says -/

/-- The round is where the action belongs. -/
def RoundPicture.ReadyFor (p : RoundPicture) : RoundAction → Prop
  | .awaitCandidateIntake => p.round.state = .intakeOpen
  | .closeIntake => p.round.state = .intakeOpen ∧
      p.rows.members.length = p.round.declaredCandidateCount
  | .awaitBuildTerminals => p.round.state ∈ [SearchRoundState.intakeClosed, .building]
  | .freezeArtifactFamily => p.round.state = .building ∧
      ∀ member ∈ p.rows.members, member.state ∈ buildTerminalStates
  | .closeSearchBarrier => p.round.state = .correctness
  | .recordHoldoutReveal => p.round.state = .searchBarrier ∧
      ∃ search ∈ p.rows.search, search.barrier.outcome = .membersPromoted
  | .closeHoldoutBarrier => p.round.state = .holdoutMeasuring
  | .recordMultipleComparison => p.round.state = .holdoutBarrier ∧ p.rows.comparison = none
  | .finalizeScriptedRound =>
      (p.round.state = .searchBarrier ∧
        ∃ search ∈ p.rows.search, search.barrier.outcome = .noPromotableCandidate) ∨
      p.round.state = .holdoutBarrier ∧ p.rows.comparison ≠ none
  | .none => p.round.state.isTerminal = true

/-- **A round is where the action belongs that recovery names.** -/
theorem RoundPicture.Consistent.readyFor {p : RoundPicture} (consistent : p.Consistent) :
    p.ReadyFor p.nextAction := by
  unfold RoundPicture.nextAction
  by_cases cancelled : p.round.state = .cancelled
  · rw [if_pos cancelled]
    simp only [RoundPicture.ReadyFor, cancelled]
    rfl
  rw [if_neg cancelled]
  have stage := consistent.stage_of_state rfl cancelled
  generalize here : p.round.state = state at stage
  cases stage with
  | intakeOpen hashes rows _ =>
      rw [(project_of_families rows).2, (projectFamilies_of_open hashes).2]
      split
      · rename_i full
        exact ⟨here, full⟩
      · exact here
  | intakeClosed hashes rows count waiting =>
      rw [(project_of_families rows).2, (projectFamilies_of_closed hashes).2, if_neg]
      · exact List.mem_pair.mpr (.inl here)
      · intro full
        have unbuilt : p.graph.builtCount = 0 := RoundGraph.builtCount_eq_zero.mpr
          fun member present => BuildTerminal.waiting_of_accepted (waiting member present)
        have some := consistent.valid.candidateCount.1
        omega
  | building hashes rows count _ _ =>
      rw [(project_of_families rows).2, (projectFamilies_of_closed hashes).2]
      split
      · rename_i full
        exact ⟨here, (RoundPicture.builtCount_eq count).mp full⟩
      · exact List.mem_pair.mpr (.inr here)
  | correctness hashes rows _ =>
      rw [(project_of_families rows).2, (projectFamilies_of_frozen hashes).2]
      exact here
  | searchBarrier hashes rows _ decided =>
      rw [(project_of_search rows).2, RoundGraph.projectSearch]
      split
      · rename_i somebody
        exact ⟨here, _, rows.1, decided.outcome.trans (if_neg somebody)⟩
      · rename_i nobody
        exact .inl ⟨here, _, rows.1, decided.outcome.trans (if_pos (not_not.mp nobody))⟩
  | holdoutMeasuring hashes rows _ decided promoted =>
      rw [(project_of_reveal rows (decided.promotes promoted)).2.2]
      exact here
  | holdoutBarrier hashes rows _ decided promoted =>
      rw [(project_of_holdout rows (decided.promotes promoted)).2.2]
      split
      · rename_i uncompared
        exact ⟨here, rows.2.2.2.1.trans uncompared⟩
      · rename_i compared
        exact .inr ⟨here, by rw [rows.2.2.2.1]; exact compared⟩
  | withoutWinner hashes rows =>
      obtain ⟨search, reveal, holdout, comparison, evidence⟩ := rows
      rw [(project_of_evidence search (fun there => absurd reveal there)
        (fun there => absurd holdout there) (fun there => absurd comparison there)
        (by rw [evidence]; exact Option.some_ne_none _)).2.2]
      simp only [RoundPicture.ReadyFor, here]
      rfl
  | completed hashes rows _ decided promoted =>
      obtain ⟨search, reveal, holdout, comparison, evidence⟩ := rows
      rw [(project_of_evidence search (fun _ => decided.promotes promoted)
        (fun _ => by rw [reveal]; exact Option.some_ne_none _)
        (fun _ => by rw [holdout]; exact Option.some_ne_none _)
        (by rw [evidence]; exact Option.some_ne_none _)).2.2]
      simp only [RoundPicture.ReadyFor, here]
      rfl

/-! ## Families that can be frozen -/

theorem BuildTerminal.Ended.checkFamily {terminal : BuildTerminal} (ended : terminal.Ended) :
    terminal.checkFamily = .ok () := by
  simp only [BuildTerminal.checkFamily, Except.bind_eq_ok, require_eq_ok]
  obtain ⟨state, artifactId, artifactHash, code, evidence⟩ := terminal
  rcases ended with ⟨built, artifact, hash, rfl, rfl⟩ | ⟨failed, rfl, rfl, failure, stored⟩
  · cases built
    obtain ⟨_, rfl⟩ := Option.isSome_iff_exists.mp artifact
    obtain ⟨_, rfl⟩ := Option.isSome_iff_exists.mp hash
    exact ⟨(), by simp [BuildTerminal.Paired], (), ⟨List.mem_cons_self, by rintro ⟨⟩⟩, (),
      fun _ => rfl, by rintro ⟨⟩⟩
  · obtain ⟨_, rfl⟩ := Option.isSome_iff_exists.mp failure
    obtain ⟨_, rfl⟩ := Option.isSome_iff_exists.mp stored
    have listed := List.mem_cons_of_mem RoundCandidateState.built failed
    exact ⟨(), by simp [BuildTerminal.Paired], (), ⟨listed, by rintro ⟨⟩⟩, (),
      by rintro ⟨⟩, fun _ => failed⟩

/-- Two members of a family have nothing in common that identifies them. -/
def RoundCandidate.Apart (other member : RoundCandidate) : Prop :=
  other.ordinal ≠ member.ordinal ∧ other.candidateId ≠ member.candidateId ∧
    other.roundCandidateId ≠ member.roundCandidateId

theorem FamilyDistinct.apart {rows : RoundRows} {declared : Nat}
    (distinct : FamilyDistinct rows.identities declared) :
    rows.members.Pairwise RoundCandidate.Apart := by
  have ordinals := List.pairwise_map.mp (List.pairwise_map.mp distinct.ordinals)
  have candidates := List.pairwise_map.mp (List.pairwise_map.mp distinct.candidates)
  have identifiers := List.pairwise_map.mp (List.pairwise_map.mp distinct.identifiers)
  exact (ordinals.and (candidates.and identifiers)).imp fun apart => apart

theorem artifactFamilyMembers_of_ended {seen members : List RoundCandidate}
    (ended : ∀ member ∈ members, member.toBuildTerminal.Ended)
    (fresh : ∀ other ∈ seen, ∀ member ∈ members, other.Apart member)
    (apart : members.Pairwise RoundCandidate.Apart) :
    ∃ family, artifactFamilyMembers seen members = .ok family := by
  induction members generalizing seen with
  | nil => exact ⟨[], rfl⟩
  | cons member members ih =>
      obtain ⟨first, rest⟩ := List.pairwise_cons.mp apart
      have fresh' : ∀ other ∈ member :: seen, ∀ later ∈ members, other.Apart later := by
        intro other present later there
        rcases List.mem_cons.mp present with rfl | old
        · exact first later there
        · exact fresh other old later (List.mem_cons_of_mem _ there)
      obtain ⟨family, hashed⟩ :=
        ih (fun other later => ended other (List.mem_cons_of_mem _ later)) fresh' rest
      simp only [artifactFamilyMembers, Except.bind_eq_ok, require_eq_ok]
      exact ⟨_, (), fun other old => fresh other old member List.mem_cons_self, (),
        (ended member List.mem_cons_self).checkFamily, family, hashed, rfl⟩

/-- **The artifact family of a round can be hashed when recovery asks for its freeze.** -/
theorem RoundPicture.Consistent.artifactFamily {p : RoundPicture} (consistent : p.Consistent)
    (env : RoundEnv) (ready : p.ReadyFor .freezeArtifactFamily) :
    ∃ familyHash, artifactFamilyHash env p.round p.rows.members = .ok familyHash := by
  obtain ⟨building, built⟩ := ready
  cases consistent.stage_of_state building (by decide) with
  | building hashes rows count builds _ =>
      have ended : ∀ member ∈ byOrdinal p.rows.members, member.toBuildTerminal.Ended := by
        intro member present
        have there := (List.perm_insertionSort _ p.rows.members).mem_iff.mp present
        rcases builds member there with accepted | ended
        · exact absurd (built member there) (BuildTerminal.waiting_of_accepted accepted)
        · exact ended
      have apart : (byOrdinal p.rows.members).Pairwise RoundCandidate.Apart :=
        ((List.perm_insertionSort _ p.rows.members).pairwise_iff fun apart =>
          ⟨apart.1.symm, apart.2.1.symm, apart.2.2.symm⟩).mpr consistent.members.apart
      have fresh : ∀ other ∈ ([] : List RoundCandidate),
          ∀ member ∈ byOrdinal p.rows.members, other.Apart member := by simp
      obtain ⟨family, hashed⟩ := artifactFamilyMembers_of_ended ended fresh apart
      simp only [artifactFamilyHash, hashes.1, Except.bind_eq_ok, require_eq_ok]
      exact ⟨_, (), count, family, hashed, rfl⟩

/-! ## Admissible inputs -/

/-- The member is new, and it and its generic candidate fit the round. -/
structure RoundCandidate.Admissible (request : RoundCandidate) (s : Store) (round : SearchRound) :
    Prop where
  accepted : request.state = .intakeAccepted ∧ request.artifactId = none ∧
    request.terminalFailureCode = none
  fresh : ∀ member ∈ s.roundCandidates, request.clashes member = false
  small : request.ordinal < round.declaredCandidateCount
  bound : request.replacementPoint = round.replacementPoint ∧ request.candidateKind = .fixture
  source : s.baselineSourceHash round.baselineEpochId = some request.baselineSourceHash
  generic : ∃ candidate,
    s.candidates.insertedOr (request.candidate round) (request.candidate round).clashes
      (request.candidate round).selects = some candidate ∧
    { candidate with state := .proposed } = request.candidate round

/-- The build is that of a member that waits for it. -/
structure RoundCandidateBuildTerminal.Admissible (request : RoundCandidateBuildTerminal)
    (s : Store) (round : SearchRound) : Prop where
  member : ∃ member ∈ s.membersOf request.roundId,
    member.roundCandidateId = request.roundCandidateId ∧
      member.candidateId = request.candidateId ∧ member.state ∉ buildTerminalStates
  artifact : s.HasSyntheticArtifact round request.candidateId request.terminal

/-- The request names the families as they are. -/
structure ArtifactFamilyFreezeRequest.Admissible (request : ArtifactFamilyFreezeRequest)
    (env : RoundEnv) (s : Store) (round : SearchRound) : Prop where
  candidates : round.candidateFamilyHash = some request.candidateFamilyHash
  artifacts : artifactFamilyHash env round (s.membersOf request.roundId) =
    .ok request.expectedArtifactFamilyHash

/-- The decision is the one of the evaluation package about the members of the round. -/
structure SearchBarrierDecision.Admissible (decision : SearchBarrierDecision) (env : RoundEnv)
    (s : Store) (round : SearchRound) : Prop where
  scripted : decision.barrier.phase = .search ∧ decision.barrier.runMode = .scripted ∧
    decision.barrier.synthetic = true
  identified : ∀ item ∈ decision.barrier.members,
    ∃ stored ∈ s.membersOf round.roundId, stored.Identifies item
  failures : ∀ item ∈ decision.barrier.members, ∀ stored ∈ s.membersOf round.roundId,
    stored.candidateId = item.candidateId → stored.KeepsFailure item
  decided : searchBarrierDecision env { round with state := .searchBarrier }
    ((s.membersOf round.roundId).map fun member => member.candidateId)
    decision.barrier.members decision.inputSummary.statistics decision.barrier.closedBy
    decision.barrier.closedAt decision.barrier.idempotencyKey = .ok decision
  fresh : s.BarrierFresh decision.barrier

/-- The reveal is that of the holdout family the search barrier has frozen. -/
structure HoldoutRevealResult.Admissible (reveal : HoldoutRevealResult) (s : Store)
    (round : SearchRound) : Prop where
  bound : ∀ search ∈ s.searchDecision reveal.roundId, reveal.BoundTo round search
  fresh : ∀ row ∈ s.holdoutReveals.rows, row.revealLeaseId ≠ reveal.revealLeaseId

/-- The barrier is the one of the evaluation package about the promoted members. -/
structure RoundBarrierResult.AdmissibleHoldout (barrier : RoundBarrierResult) (env : RoundEnv)
    (s : Store) (round : SearchRound) : Prop where
  scripted : barrier.phase = .holdout ∧ barrier.runMode = .scripted ∧ barrier.synthetic = true
  promoted : ∀ search ∈ s.searchDecision barrier.roundId,
    barrier.members.map BarrierMemberResult.candidateId = search.barrier.promotedCandidateIds ∧
    holdoutBarrierResult env { round with state := .holdoutBarrier }
      search.barrier.promotedCandidateIds barrier.members barrier.closedBy barrier.closedAt
      barrier.idempotencyKey = .ok barrier
  identified : ∀ item ∈ barrier.members,
    ∃ stored ∈ s.membersOf round.roundId, stored.Identifies item
  fresh : s.BarrierFresh barrier

/-- The result is about the holdout barrier of the round. -/
structure MultipleComparisonResult.Admissible (result : MultipleComparisonResult)
    (env : RoundEnv) (s : Store) (round : SearchRound) : Prop where
  scripted : result.Scripted env
  bound : result.BoundTo round (s.holdoutBarrier result.roundId)
  fresh : s.ComparisonFresh result

/-- The evidence binds the ledger and the end that the round came to, and the configured
finalizer accepts it. -/
structure RoundEvidenceBundle.Admissible (evidence : RoundEvidenceBundle) (env : RoundEnv)
    (s : Store) (round : SearchRound) : Prop where
  scripted : evidence.runMode = .scripted ∧ evidence.synthetic = true ∧
    evidence.automaticReleaseAllowed = false
  reason : evidence.terminalReason =
    if s.holdoutBarrier evidence.roundId = none then .noPromotableCandidate
    else .holdoutCompleted
  hashed : evidence.budgetLedgerHash = roundBudgetLedgerHash env evidence.roundId
    (s.reservationsOf evidence.roundId) (s.ledgerOf evidence.roundId)
  verified : ∃ verify, env.scriptedFinalizer = some verify ∧
    ∀ search ∈ s.searchDecision evidence.roundId,
      verify round search.unsigned evidence (s.holdoutBarrier evidence.roundId)
        (s.multipleComparisons.find? evidence.roundId) = .ok ()
  fresh : ∀ row ∈ s.roundEvidenceBundles.rows,
    row.roundEvidenceBundleId ≠ evidence.roundEvidenceBundleId

/-- What an operation asks of its inputs, apart from where its round is. -/
def RoundCall.Admissible (env : RoundEnv) (s : Store) (round : SearchRound) : RoundCall → Prop
  | addRoundCandidate request _ => request.Admissible s round
  | recordRoundCandidateBuild request => request.Admissible s round
  | freezeSearchRoundArtifactFamily request => request.Admissible env s round
  | closeScriptedSearchBarrier decision => decision.Admissible env s round
  | recordScriptedHoldoutReveal reveal => reveal.Admissible s round
  | closeScriptedHoldoutBarrier barrier => barrier.AdmissibleHoldout env s round
  | recordScriptedMultipleComparison result => result.Admissible env s round
  | finalizeScriptedSearchRound evidence => evidence.Admissible env s round
  | createSearchRound .. | closeSearchRoundIntake .. | cancelScriptedSearchRound ..
  | reserveRoundBudget .. | finalizeRoundBudget .. => True

/-! ## One lemma an operation -/

section Acceptance

variable {env : RoundEnv} {s : Store} {round : SearchRound}

/-- A store whose round has another version is another store. -/
theorem ne_of_version {s' : Store} {roundId : Uuid} {round' : SearchRound}
    (found : s.searchRounds.find? roundId = some round)
    (found' : s'.searchRounds.find? roundId = some round')
    (version : round'.version = round.version + 1) : s' ≠ s := by
  rintro rfl
  cases found.symm.trans found'
  exact Nat.succ_ne_self _ version.symm

theorem addRoundCandidate_accepted {request : RoundCandidate}
    (found : s.searchRounds.find? request.roundId = some round)
    (admissible : request.Admissible s round) (ready : round.state = .intakeOpen) :
    ∃ result, addRoundCandidate request s = .ok result ∧ result.1 ≠ s := by
  obtain ⟨candidate, inserted, same⟩ := admissible.generic
  have unclashed : s.roundCandidates.rows.find? request.clashes = none :=
    List.find?_eq_none.mpr fun member present => by
      rw [admissible.fresh member present]
      exact by simp
  have member : s.roundCandidates.insertedOr request request.clashes (fun _ => false) =
      some request := by
    rcases Table.insertUnless_cases s.roundCandidates request request.clashes fun _ => false with
      ⟨_, _, new⟩ | ⟨⟨other, present, clash⟩, _⟩
    · exact new
    · rw [admissible.fresh other present] at clash
      cases clash
  obtain ⟨inserts, absent⟩ := insertMember admissible.fresh
  simp only [addRoundCandidate, exists_bind_ok, require_eq_ok, Store.requireRound_eq_ok]
  refine ⟨(), admissible.accepted, round, found, ?_⟩
  rw [unclashed]
  simp only [registerMember, exists_bind_ok, exists_pure_ok, require_eq_ok, requireSome_eq_ok]
  refine ⟨(), ready, (), admissible.small, (), admissible.bound, (), admissible.source, candidate,
    inserted, (), same, request, member, fun still => ?_⟩
  have there := congrArg (fun t : Store => t.roundCandidates.find? request.roundCandidateId) still
  simp only [inserts] at there
  rw [absent, Table.find?_insert_new absent, key_roundCandidate, if_pos rfl] at there
  cases there

theorem closeSearchRoundIntake_accepted {now : Timestamp} {roundId : Uuid}
    (found : s.searchRounds.find? roundId = some round) (ready : round.state = .intakeOpen)
    (count : (s.membersOf roundId).length = round.declaredCandidateCount)
    (accepted : ∀ member ∈ s.membersOf roundId, member.state = .intakeAccepted) :
    ∃ result, closeSearchRoundIntake env now roundId s = .ok result ∧ result.1 ≠ s := by
  simp only [closeSearchRoundIntake, exists_bind_ok, require_eq_ok, Store.requireRound_eq_ok]
  refine ⟨round, found, (), count, (), accepted, ?_⟩
  rw [if_neg (not_not.mpr ready)]
  simp only [exists_pure_ok]
  exact ne_of_version found (by simp [found]; rfl) rfl

theorem recordRoundCandidateBuild_accepted {request : RoundCandidateBuildTerminal}
    (found : s.searchRounds.find? request.roundId = some round)
    (admissible : request.Admissible s round)
    (closed : round.candidateFamilyHash ≠ none ∧ round.artifactFamilyHash = none ∧
      round.state ∈ [SearchRoundState.intakeClosed, .building]) :
    ∃ result, recordRoundCandidateBuild request s = .ok result ∧ result.1 ≠ s := by
  obtain ⟨member, present, key, candidate, waiting⟩ := admissible.member
  simp only [Store.membersOf, List.mem_filter, decide_eq_true_eq] at present
  have there : s.roundCandidates.find? request.roundCandidateId = some member := by
    rw [← key]
    exact Table.find?_of_mem present.1
  simp only [recordRoundCandidateBuild, exists_bind_ok, require_eq_ok, requireSome_eq_ok,
    Store.requireRound_eq_ok]
  refine ⟨round, found, member, there, (), ⟨present.2, candidate⟩, ?_⟩
  rw [if_neg waiting]
  simp only [exists_bind_ok, exists_pure_ok, require_eq_ok]
  exact ⟨(), closed, (), admissible.artifact,
    ne_of_version found (by simp [setCandidateState, found]; rfl) rfl⟩

theorem freezeSearchRoundArtifactFamily_accepted {request : ArtifactFamilyFreezeRequest}
    (found : s.searchRounds.find? request.roundId = some round)
    (admissible : request.Admissible env s round) (ready : round.state = .building)
    (unfrozen : round.artifactFamilyHash = none) :
    ∃ result, freezeSearchRoundArtifactFamily env request s = .ok result ∧ result.1 ≠ s := by
  simp only [freezeSearchRoundArtifactFamily, exists_bind_ok, require_eq_ok,
    Store.requireRound_eq_ok, familyOrConflict_eq_ok]
  refine ⟨round, found, (), admissible.candidates, _, admissible.artifacts, (), rfl, ?_⟩
  rw [if_neg (not_not.mpr unfrozen)]
  simp only [exists_bind_ok, exists_pure_ok, require_eq_ok]
  exact ⟨(), ready, ne_of_version found (by simp [found]; rfl) rfl⟩

theorem SearchRound.authority_accepted (valid : round.Valid) (state : SearchRoundState) :
    round.authority state = .ok { round with state := state } := by
  simp only [SearchRound.authority, Except.bind_eq_ok, require_eq_ok]
  exact ⟨(), valid, rfl⟩

theorem closeScriptedSearchBarrier_accepted {decision : SearchBarrierDecision}
    (found : s.searchRounds.find? decision.barrier.roundId = some round)
    (admissible : decision.Admissible env s round) (valid : round.Valid)
    (absent : s.searchDecision decision.barrier.roundId = none)
    (ready : round.runMode = .scripted ∧
      round.state ∈ [SearchRoundState.correctness, .searchMeasuring] ∧
      round.artifactFamilyHash ≠ none)
    (count : (s.membersOf round.roundId).length = round.declaredCandidateCount) :
    ∃ result, closeScriptedSearchBarrier env decision s = .ok result ∧ result.1 ≠ s := by
  have key : round.roundId = decision.barrier.roundId := Table.key_of_find? found
  simp only [closeScriptedSearchBarrier, exists_bind_ok, require_eq_ok, Store.requireRound_eq_ok]
  refine ⟨(), admissible.scripted, round, found, ?_⟩
  rw [absent]
  simp only [persistSearchBarrier, exists_bind_ok, exists_pure_ok, require_eq_ok]
  refine ⟨(), ready, (), count, (), admissible.identified, (), admissible.failures, _,
    SearchRound.authority_accepted valid _, decision, admissible.decided, (), rfl, (),
    admissible.fresh, ?_⟩
  rw [key]
  exact ne_of_version found (by simp [found]; rfl) rfl

theorem recordScriptedHoldoutReveal_accepted {reveal : HoldoutRevealResult}
    {search : SearchBarrierDecision}
    (found : s.searchRounds.find? reveal.roundId = some round)
    (admissible : reveal.Admissible s round)
    (durable : s.searchDecision reveal.roundId = some search)
    (absent : s.holdoutReveals.find? reveal.roundId = none)
    (reloads : search.Reloads env)
    (ready : round.runMode = .scripted ∧ round.state = .searchBarrier)
    (promoted : search.barrier.outcome = .membersPromoted) :
    ∃ result, recordScriptedHoldoutReveal env reveal s = .ok result ∧ result.1 ≠ s := by
  simp only [recordScriptedHoldoutReveal, exists_bind_ok, Store.requireRound_eq_ok]
  refine ⟨round, found, ?_⟩
  rw [absent]
  simp only [persistHoldoutReveal, exists_bind_ok, exists_pure_ok, require_eq_ok,
    requireSome_eq_ok, SearchBarrierDecision.reload_eq_ok]
  exact ⟨search, durable, _, ⟨reloads, rfl⟩, (),
    ⟨ready.1, ready.2, promoted, admissible.bound search durable⟩, (), admissible.fresh,
    ne_of_version found (by simp [found]; rfl) rfl⟩

theorem closeScriptedHoldoutBarrier_accepted {barrier : RoundBarrierResult}
    {search : SearchBarrierDecision} {reveal : HoldoutRevealResult}
    (found : s.searchRounds.find? barrier.roundId = some round)
    (admissible : barrier.AdmissibleHoldout env s round) (valid : round.Valid)
    (durable : s.searchDecision barrier.roundId = some search)
    (revealed : s.holdoutReveals.find? barrier.roundId = some reveal)
    (absent : s.holdoutBarrier barrier.roundId = none) (reloads : search.Reloads env)
    (ready : round.state = .holdoutMeasuring)
    (promoted : search.barrier.outcome = .membersPromoted) :
    ∃ result, closeScriptedHoldoutBarrier env barrier s = .ok result ∧ result.1 ≠ s := by
  have key : round.roundId = barrier.roundId := Table.key_of_find? found
  obtain ⟨family, decided⟩ := admissible.promoted search durable
  simp only [closeScriptedHoldoutBarrier, exists_bind_ok, require_eq_ok, Store.requireRound_eq_ok]
  refine ⟨(), admissible.scripted, round, found, ?_⟩
  rw [absent]
  simp only [persistHoldoutBarrier, exists_bind_ok, exists_pure_ok, require_eq_ok,
    requireSome_eq_ok, SearchBarrierDecision.reload_eq_ok]
  refine ⟨search, durable, reveal, revealed, _, ⟨reloads, rfl⟩, (), ⟨ready, promoted, family⟩, (),
    admissible.identified, _, SearchRound.authority_accepted valid _, barrier, decided, (), rfl, (),
    admissible.fresh, ?_⟩
  rw [key]
  exact ne_of_version found (by simp [found]; rfl) rfl

theorem recordScriptedMultipleComparison_accepted {result : MultipleComparisonResult}
    (found : s.searchRounds.find? result.roundId = some round)
    (admissible : result.Admissible env s round)
    (absent : s.multipleComparisons.find? result.roundId = none)
    (ready : round.state = .holdoutBarrier) :
    ∃ answer, recordScriptedMultipleComparison env result s = .ok answer ∧ answer.1 ≠ s := by
  simp only [recordScriptedMultipleComparison, exists_bind_ok, require_eq_ok,
    Store.requireRound_eq_ok]
  refine ⟨(), admissible.scripted, round, found, ?_⟩
  rw [absent]
  simp only [exists_bind_ok, exists_pure_ok, require_eq_ok]
  exact ⟨(), ⟨ready, admissible.bound⟩, (), admissible.fresh,
    ne_of_version found (by simp [found]; rfl) rfl⟩

theorem finalizeScriptedSearchRound_accepted {evidence : RoundEvidenceBundle}
    {search : SearchBarrierDecision}
    (found : s.searchRounds.find? evidence.roundId = some round)
    (admissible : evidence.Admissible env s round) (valid : round.Valid)
    (durable : s.searchDecision evidence.roundId = some search)
    (absent : s.roundEvidenceBundles.find? evidence.roundId = none) (reloads : search.Reloads env)
    (path : requireTerminalPath evidence round search (s.holdoutBarrier evidence.roundId)
      (s.multipleComparisons.find? evidence.roundId) = .ok ())
    (settled : ∀ row ∈ s.reservationsOf evidence.roundId, row.state ≠ .reserved) :
    ∃ result, finalizeScriptedSearchRound env evidence s = .ok result ∧ result.1 ≠ s := by
  obtain ⟨verify, configured, verified⟩ := admissible.verified
  simp only [finalizeScriptedSearchRound, exists_bind_ok, require_eq_ok,
    Store.requireRound_eq_ok]
  refine ⟨(), admissible.scripted, round, found, ?_⟩
  rw [absent]
  simp only [persistEvidence, exists_bind_ok, exists_pure_ok, require_eq_ok, requireSome_eq_ok,
    verifierVerdict_eq_ok, SearchBarrierDecision.reload_eq_ok]
  exact ⟨verify, configured, search, durable, _, ⟨reloads, rfl⟩, (), path, (), settled, (),
    admissible.hashed, round,
    SearchRound.authority_accepted valid _, (), verified search durable, (), admissible.fresh,
    ne_of_version found (by simp [setTaskState, found]; rfl) rfl⟩

end Acceptance

theorem silent_accepted {s : Store} {α : Type} {op : Transaction Store Error α}
    (accepted : ∃ result, op s = .ok result ∧ result.1 ≠ s) :
    ∃ s', op.silent s = .ok (s', ()) ∧ s' ≠ s := by
  obtain ⟨⟨s', reply⟩, ok, changed⟩ := accepted
  exact ⟨s', Transaction.silent_eq_ok.mpr ⟨reply, ok⟩, changed⟩

/-- The named operation is accepted for every admissible input and changes something; the
last one when no reservation is open. -/
theorem RoundCall.changes {env : RoundEnv} {s : Store} (consistent : s.RoundsConsistent)
    {call : RoundCall} {p : RoundPicture} (here : s.picture call.roundId = some p)
    (reloads : ∀ search ∈ s.searchDecision call.roundId, search.Reloads env)
    (named : call.action = some p.nextAction) (admissible : call.Admissible env s p.round)
    (settled : p.nextAction = .finalizeScriptedRound →
      ∀ row ∈ s.reservationsOf call.roundId, row.state ≠ .reserved) :
    ∃ s', call.run env s = .ok (s', ()) ∧ s' ≠ s := by
  have sound := consistent.consistent _ _ here
  obtain ⟨found, _, rows⟩ := Store.picture_eq_some.mp here
  have ready := sound.readyFor
  have members : s.membersOf call.roundId = p.rows.members := congrArg RoundRows.members rows
  have searched : s.searchDecision call.roundId = p.rows.search := congrArg RoundRows.search rows
  have revealed : s.holdoutReveals.find? call.roundId = p.rows.reveal :=
    congrArg RoundRows.reveal rows
  have held : s.holdoutBarrier call.roundId = p.rows.holdout := congrArg RoundRows.holdout rows
  have compared : s.multipleComparisons.find? call.roundId = p.rows.comparison :=
    congrArg RoundRows.comparison rows
  have finalized : s.roundEvidenceBundles.find? call.roundId = p.rows.evidence :=
    congrArg RoundRows.evidence rows
  have key : p.round.roundId = call.roundId := Table.key_of_find? found
  cases call with
  | createSearchRound | cancelScriptedSearchRound | reserveRoundBudget | finalizeRoundBudget =>
      cases named
  | addRoundCandidate request valid =>
      rw [← Option.some.inj named] at ready
      exact silent_accepted (addRoundCandidate_accepted found admissible ready)
  | closeSearchRoundIntake now roundId =>
      rw [← Option.some.inj named] at ready
      obtain ⟨opened, count⟩ := ready
      have stage := sound.stage_of_state opened (by decide)
      refine silent_accepted (closeSearchRoundIntake_accepted found opened
        (members ▸ count) fun member present => ?_)
      cases stage with
      | intakeOpen _ _ waiting =>
          exact congrArg BuildTerminal.state (waiting member (members ▸ present))
  | recordRoundCandidateBuild request =>
      rw [← Option.some.inj named] at ready
      refine silent_accepted (recordRoundCandidateBuild_accepted found admissible ?_)
      rcases List.mem_pair.mp ready with closed | building
      · cases sound.stage_of_state closed (by decide) with
        | intakeClosed hashes =>
            exact ⟨by rw [hashes.1]; exact Option.some_ne_none _, hashes.2.1, ready⟩
      · cases sound.stage_of_state building (by decide) with
        | building hashes =>
            exact ⟨by rw [hashes.1]; exact Option.some_ne_none _, hashes.2.1, ready⟩
  | freezeSearchRoundArtifactFamily request =>
      rw [← Option.some.inj named] at ready
      obtain ⟨building, _⟩ := ready
      cases sound.stage_of_state building (by decide) with
      | building hashes =>
          exact silent_accepted
            (freezeSearchRoundArtifactFamily_accepted found admissible building hashes.2.1)
  | closeScriptedSearchBarrier decision =>
      rw [← Option.some.inj named] at ready
      cases sound.stage_of_state ready (by decide) with
      | correctness hashes stored count =>
          refine silent_accepted (closeScriptedSearchBarrier_accepted found admissible
            sound.valid (searched.trans stored.1) ⟨sound.scripted, List.mem_pair.mpr (.inl ready),
              by rw [hashes.2.1]; exact Option.some_ne_none _⟩ ?_)
          rw [key, members]
          exact count
  | recordScriptedHoldoutReveal reveal =>
      rw [← Option.some.inj named] at ready
      obtain ⟨state, search, durable, promoted⟩ := ready
      cases sound.stage_of_state state (by decide) with
      | searchBarrier hashes stored =>
          exact silent_accepted (recordScriptedHoldoutReveal_accepted found admissible
            (searched.trans durable) (revealed.trans stored.2.1)
            (reloads _ (searched.trans durable)) ⟨sound.scripted, state⟩ promoted)
  | closeScriptedHoldoutBarrier barrier =>
      rw [← Option.some.inj named] at ready
      cases sound.stage_of_state ready (by decide) with
      | holdoutMeasuring hashes stored _ decided promoted =>
          exact silent_accepted (closeScriptedHoldoutBarrier_accepted found admissible
            sound.valid (searched.trans stored.1) (revealed.trans stored.2.1)
            (held.trans stored.2.2.1) (reloads _ (searched.trans stored.1)) ready
            (decided.outcome.trans (if_neg (decided.promotes promoted))))
  | recordScriptedMultipleComparison result =>
      rw [← Option.some.inj named] at ready
      exact silent_accepted (recordScriptedMultipleComparison_accepted found admissible
        (compared.trans ready.2) ready.1)
  | finalizeScriptedSearchRound evidence =>
      rw [← Option.some.inj named] at ready
      have open' := settled (Option.some.inj named).symm
      have reason := admissible.reason
      simp only [RoundCall.roundId] at held compared
      rw [held] at reason
      rcases ready with ⟨state, search, durable, nobody⟩ | ⟨state, there⟩
      · cases sound.stage_of_state state (by decide) with
        | searchBarrier hashes stored =>
            refine silent_accepted (finalizeScriptedSearchRound_accepted found admissible
              sound.valid (searched.trans durable) (finalized.trans stored.2.2.2.2)
              (reloads _ (searched.trans durable)) ?_ open')
            rw [if_pos stored.2.2.1] at reason
            rw [held, compared, requireTerminalPath, reason]
            exact require_eq_ok.mpr ⟨state, nobody, stored.2.2.1, stored.2.2.2.1⟩
      · cases sound.stage_of_state state (by decide) with
        | holdoutBarrier hashes stored _ decided promoted =>
            have somebody := decided.outcome.trans (if_neg (decided.promotes promoted))
            have barrier : p.rows.holdout ≠ none := by
              rw [stored.2.2.1]
              exact Option.some_ne_none _
            refine silent_accepted (finalizeScriptedSearchRound_accepted found admissible
              sound.valid (searched.trans stored.1) (finalized.trans stored.2.2.2.2)
              (reloads _ (searched.trans stored.1)) ?_ open')
            rw [if_neg barrier] at reason
            rw [held, compared, requireTerminalPath, reason]
            exact require_eq_ok.mpr ⟨state, somebody, barrier, there⟩

theorem RoundCall.old_of_action {call : RoundCall} (forward : call.action ≠ none) :
    ∀ request valid, call ≠ .createSearchRound request valid := by
  rintro request valid rfl
  exact forward rfl

/-- **The named operation is accepted for every admissible input**, and moves its round. -/
theorem RoundCall.accepted {env : RoundEnv} {s : Store} (consistent : s.RoundsConsistent)
    {call : RoundCall} {p : RoundPicture} (here : s.picture call.roundId = some p)
    (reloads : ∀ search ∈ s.searchDecision call.roundId, search.Reloads env)
    (named : call.action = some p.nextAction) (admissible : call.Admissible env s p.round)
    (settled : p.nextAction = .finalizeScriptedRound →
      ∀ row ∈ s.reservationsOf call.roundId, row.state ≠ .reserved) :
    ∃ s' p', call.run env s = .ok (s', ()) ∧
      s.MovesRound env s' call.roundId (some p.nextAction) p p' := by
  have forward : call.action ≠ none := by
    rw [named]
    exact Option.some_ne_none _
  obtain ⟨s', ok, changed⟩ := RoundCall.changes consistent here reloads named admissible settled
  rcases RoundCall.moves consistent.owned (RoundCall.old_of_action forward) ok with
    same | ⟨q, p', moves⟩
  · exact absurd same changed
  · cases here.symm.trans moves.before
    rw [named] at moves
    exact ⟨s', p', ok, moves⟩

/-- A forward operation that recovery does not name is refused or changes nothing. -/
theorem RoundCall.unnamed {env : RoundEnv} {s : Store} (consistent : s.RoundsConsistent)
    {call : RoundCall} {p : RoundPicture} (here : s.picture call.roundId = some p)
    (forward : call.action ≠ none) (other : call.action ≠ some p.nextAction) :
    (commit (call.run env) s).1 = s := by
  rcases commit_cases (call.run env) s with ⟨e, _, committed⟩ | ⟨t, reply, ok, committed⟩
  · rw [committed]
  rw [committed]
  rcases RoundCall.moves consistent.owned (RoundCall.old_of_action forward) ok with
    same | ⟨q, p', moves⟩
  · exact same
  · cases here.symm.trans moves.before
    obtain ⟨action, named⟩ := Option.ne_none_iff_exists'.mp forward
    have move := moves.move
    rw [named] at move other
    rw [move.named (consistent.consistent _ _ here)] at other
    exact absurd rfl other

/-- The stored documents about the round are accepted by their models when they are read back. -/
def Store.Reloads (s : Store) (env : RoundEnv) (roundId : Uuid) : Prop :=
  (∀ search ∈ s.searchDecision roundId, search.Reloads env) ∧
    ∀ reveal ∈ s.holdoutReveals.find? roundId, env.revealAccepted reveal = true

instance (s : Store) (env : RoundEnv) (roundId : Uuid) : Decidable (s.Reloads env roundId) := by
  unfold Store.Reloads
  infer_instance

/-- Recovery answers with the named action, and changes nothing. -/
theorem reconcileScriptedSearchRound_answers {env : RoundEnv} {s : Store}
    (consistent : s.RoundsConsistent) {roundId : Uuid} {p : RoundPicture}
    (here : s.picture roundId = some p) (reloads : s.Reloads env roundId) :
    ∃ answer, reconcileScriptedSearchRound env roundId s = .ok answer ∧
      (answer.1 = s ∧ answer.2.round = p.round ∧ answer.2.nextAction = p.nextAction) := by
  have sound := consistent.consistent _ _ here
  obtain ⟨found, tasked, rows⟩ := Store.picture_eq_some.mp here
  have key : p.round.roundId = roundId := Table.key_of_find? found
  simp only [reconcileScriptedSearchRound, exists_bind_ok, require_eq_ok, requireSome_eq_ok,
    Store.requireRound_eq_ok]
  refine ⟨p.round, found, (), sound.scripted, p.task, tasked, ?_⟩
  by_cases cancelled : p.round.state = .cancelled
  · rw [if_pos cancelled]
    simp only [exists_bind_ok, exists_pure_ok, require_eq_ok]
    refine ⟨(), ?_, trivial, trivial, (if_pos cancelled).symm⟩
    rw [sound.task, cancelled]
    rfl
  · rw [if_neg cancelled]
    obtain ⟨complete, state, task⟩ := sound.projects cancelled
    have loaded : (s.roundGraph p.round).Reloads env := by
      unfold Store.roundGraph
      rw [key]
      exact reloads
    have graph : s.roundGraph p.round = p.graph := by
      unfold Store.roundGraph RoundPicture.graph
      rw [key, ← rows]
      rfl
    rw [graph] at loaded ⊢
    simp only [exists_bind_ok, exists_pure_ok, require_eq_ok]
    exact ⟨(), loaded, (), complete, (), state, (), task, trivial, trivial,
      (if_neg cancelled).symm⟩

/-! ## The main result -/

/-- **Recovery agrees with the state machine.** In every store of a run whose documents about
the round are accepted when they are read back, recovery answers for the round and changes
nothing; the operation it names is accepted for every admissible input and moves the round,
the finalization when no reservation is open; and every other forward operation is refused
or changes nothing. -/
theorem recovery_projection {env : RoundEnv} {s₀ s : Store} {before : List (Option RoundCall)}
    (start : s₀.NoRounds) (reached : Steps (RoundStep env) s₀ before s) {roundId : Uuid}
    {round : SearchRound} (found : s.searchRounds.find? roundId = some round)
    (reloads : s.Reloads env roundId) :
    ∃ result, reconcileScriptedSearchRound env roundId s = .ok (s, result) ∧
      result.round = round ∧
      (∀ call : RoundCall, call.roundId = roundId → call.action = some result.nextAction →
        call.Admissible env s round →
        (result.nextAction = .finalizeScriptedRound →
          ∀ row ∈ s.reservationsOf roundId, row.state ≠ .reserved) →
        ∃ s' p p', call.run env s = .ok (s', ()) ∧
          s.MovesRound env s' roundId (some result.nextAction) p p') ∧
      ∀ call : RoundCall, call.roundId = roundId → call.action ≠ none →
        call.action ≠ some result.nextAction → (commit (call.run env) s).1 = s := by
  have consistent := roundsConsistent_of_steps reached start.roundsConsistent
  obtain ⟨task, tasked⟩ := consistent.owned.task found
  have here := picture_of_round found tasked
  obtain ⟨⟨_, result⟩, ok, rfl, same, named⟩ :=
    reconcileScriptedSearchRound_answers consistent here reloads
  refine ⟨result, ok, same, fun call own action admissible settled => ?_,
    fun call own forward other => ?_⟩
  · subst own
    rw [named] at action settled ⊢
    obtain ⟨s', p', accepted, moves⟩ :=
      RoundCall.accepted consistent here reloads.1 action admissible settled
    exact ⟨s', _, p', accepted, moves⟩
  · subst own
    rw [named] at other
    exact RoundCall.unnamed consistent here forward other

/-- Behind the close of the intake recovery waits for the builds. -/
theorem recovery_projection_intake :
    ∃ result, reconcileScriptedSearchRound plainEnv 11
        (runRoundCalls plainEnv authorityStore sampleIntake) =
          .ok (runRoundCalls plainEnv authorityStore sampleIntake, result) ∧
      result.nextAction = .awaitBuildTerminals := by
  have there : ((runRoundCalls plainEnv authorityStore sampleIntake).searchRounds.find? 11).isSome =
      true := by decide +kernel
  obtain ⟨round, found⟩ := Option.isSome_iff_exists.mp there
  obtain ⟨result, ok, _⟩ := recovery_projection noRounds_authorityStore
    (steps_runRoundCalls plainEnv _ _) found (by decide +kernel)
  have named : (reconcileScriptedSearchRound plainEnv 11
      (runRoundCalls plainEnv authorityStore sampleIntake)).map (fun answer => answer.2.nextAction) =
        .ok .awaitBuildTerminals := by decide +kernel
  rw [ok] at named
  exact ⟨result, ok, Except.ok.inj named⟩

/-- A round without a winner whose budget has an open reservation. -/
def sampleOpenBudget : List RoundCall :=
  sampleIntake ++ .reserveRoundBudget sampleReservation sampleReserve valid_sampleReserve ::
    sampleSearch

/-- **Recovery names an operation that is refused**: no evidence finalizes the round as long
as its reservation is open; and another operation is accepted, which changes nothing. -/
theorem recovery_names_refused :
    authorityStore.NoRounds ∧
      (let s := runRoundCalls plainEnv authorityStore sampleOpenBudget
      Steps (RoundStep plainEnv) authorityStore (sampleOpenBudget.map some) s ∧
      (reconcileScriptedSearchRound plainEnv 11 s).map (fun answer => answer.2.nextAction) =
        .ok .finalizeScriptedRound ∧
      (∀ (evidence : RoundEvidenceBundle) s' reply, evidence.roundId = 11 →
        finalizeScriptedSearchRound plainEnv evidence s ≠ .ok (s', reply)) ∧
      (closeScriptedSearchBarrier plainEnv sampleDecision s).toOption.isSome = true) := by
  refine ⟨noRounds_authorityStore, steps_runRoundCalls _ _ _, by decide +kernel,
    fun evidence s' reply own ok => ?_, by decide +kernel⟩
  have unfinished : (runRoundCalls plainEnv authorityStore sampleOpenBudget).roundEvidenceBundles.find?
      11 = none := by decide +kernel
  have reserved : ∃ row ∈ (runRoundCalls plainEnv authorityStore sampleOpenBudget).reservationsOf 11,
      row.state = .reserved := by decide +kernel
  simp only [finalizeScriptedSearchRound, Except.bind_eq_ok, require_eq_ok, own, unfinished,
    persistEvidence] at ok
  obtain ⟨_, _, _, _, _, _, _, _, _, _, _, _, _, settled, _⟩ := ok
  obtain ⟨row, present, still⟩ := reserved
  exact settled row present still

end HcuAutoOpt
