import HcuAutoOpt.Rounds.Moves

/-!
# The moves keep the invariant of a round

`RoundMove.consistent` keeps `RoundPicture.Consistent`, and `RoundMove.advances` says
that a move goes forward: the state climbs in the order of the lifecycle, a frozen hash
stays, and a round that has ended does not move.
-/

set_option autoImplicit false

namespace HcuAutoOpt

open Foundation

/-! ## Live rounds -/

/-- The states that a scripted round may be in. -/
def SearchRoundState.isScripted (state : SearchRoundState) : Bool :=
  decide (state ∉ [SearchRoundState.awaitingSignoff, .completed, .rejected])

/-- A scripted round stays valid in another state and version. -/
theorem SearchRound.Valid.moved {round round' : SearchRound} (valid : round.Valid)
    (creation : round'.toRoundCreation = round.toRoundCreation)
    (scripted : round.runMode = .scripted)
    (state : round'.state.isScripted = true)
    (version : 1 ≤ round'.version)
    (reveal : (round'.holdoutPlanHash.isSome = round'.holdoutRevealLeaseId.isSome) ∧
      (round'.holdoutPlanHash.isSome = round'.holdoutRevealEvidenceHash.isSome))
    (revealFamily : round'.holdoutPlanHash ≠ none → round'.holdoutFamilyHash ≠ none) :
    round'.Valid := by
  obtain ⟨creation', _⟩ := round'
  subst creation
  exact {
    candidateCount := valid.candidateCount
    promotedCount := valid.promotedCount
    familyAlpha := valid.familyAlpha
    noRelease := valid.noRelease
    version := version
    scripted := fun mode => ⟨(valid.scripted mode).1, of_decide_eq_true state⟩
    formal := fun mode => by
      have same : round.runMode = .formal := mode
      rw [scripted] at same
      cases same
    promotion := valid.promotion
    budget := valid.budget
    reveal := reveal
    revealFamily := revealFamily }

theorem SearchRoundState.ownTaskState_live {state : SearchRoundState}
    (live : state.isTerminal = false) : state.ownTaskState = .created := by
  cases state <;> first | rfl | cases live

namespace RoundPicture.Consistent

variable {p p' : RoundPicture}

/-- The state of a round that was not cancelled names its stage. -/
theorem stage_of_state (consistent : p.Consistent) {state : SearchRoundState}
    (here : p.round.state = state) (uncancelled : state ≠ .cancelled) : RoundStage p state := by
  obtain ⟨stage, rows, same | ⟨cancelled, _⟩⟩ := consistent.stage
  · rw [← here, same]
    exact rows
  · exact absurd (here.symm.trans cancelled) uncancelled

/-- A live round stays consistent when it moves on to another live stage. -/
theorem move_on (consistent : p.Consistent) (live : p.round.state.isTerminal = false)
    (task : p'.task = p.task) (scripted : p'.round.runMode = p.round.runMode)
    (live' : p'.round.state.isTerminal = false) (valid : p'.round.Valid)
    (stage : RoundStage p' p'.round.state)
    (members : FamilyDistinct p'.rows.identities p'.round.declaredCandidateCount)
    (evidence : p'.rows.evidence = p.rows.evidence) : p'.Consistent where
  scripted := scripted.trans consistent.scripted
  valid := valid
  stage := ⟨_, stage, .inl rfl⟩
  members := members
  task := by
    rw [task, consistent.task, SearchRoundState.ownTaskState_live live,
      SearchRoundState.ownTaskState_live live']
  settled := fun ended => by
    rw [live'] at ended
    cases ended
  unreleasable := by
    rw [evidence]
    exact consistent.unreleasable

end RoundPicture.Consistent

/-- A stage is a matter of the round's hashes, its members and its authority rows. -/
theorem RoundStage.congr {p p' : RoundPicture} {stage : SearchRoundState}
    (here : RoundStage p stage)
    (declared : p'.round.declaredCandidateCount = p.round.declaredCandidateCount)
    (hashes : ∀ a b c d, p.round.Carries a b c d → p'.round.Carries a b c d)
    (members : p'.rows.members = p.rows.members)
    (rows : ∀ a b c d e, p.rows.Hold a b c d e → p'.rows.Hold a b c d e) :
    RoundStage p' stage := by
  cases here with
  | intakeOpen carries hold waiting =>
      exact .intakeOpen (hashes _ _ _ _ carries) (rows _ _ _ _ _ hold) (members ▸ waiting)
  | intakeClosed carries hold count waiting =>
      exact .intakeClosed (hashes _ _ _ _ carries) (rows _ _ _ _ _ hold)
        (by rw [members, count, declared]) (members ▸ waiting)
  | building carries hold count builds begun =>
      refine .building (hashes _ _ _ _ carries) (rows _ _ _ _ _ hold)
        (by rw [members, count, declared]) ?_ (members ▸ begun)
      rw [RoundRows.BuildsUnderWay, members]
      exact builds
  | correctness carries hold count =>
      exact .correctness (hashes _ _ _ _ carries) (rows _ _ _ _ _ hold)
        (by rw [members, count, declared])
  | searchBarrier carries hold count decided =>
      exact .searchBarrier (hashes _ _ _ _ carries) (rows _ _ _ _ _ hold)
        (by rw [members, count, declared]) decided
  | holdoutMeasuring carries hold count decided promoted =>
      exact .holdoutMeasuring (hashes _ _ _ _ carries) (rows _ _ _ _ _ hold)
        (by rw [members, count, declared]) decided promoted
  | holdoutBarrier carries hold count decided promoted =>
      exact .holdoutBarrier (hashes _ _ _ _ carries) (rows _ _ _ _ _ hold)
        (by rw [members, count, declared]) decided promoted
  | withoutWinner carries hold count decided nobody reason =>
      exact .withoutWinner (hashes _ _ _ _ carries) (rows _ _ _ _ _ hold)
        (by rw [members, count, declared]) decided nobody reason
  | completed carries hold count decided promoted reason =>
      exact .completed (hashes _ _ _ _ carries) (rows _ _ _ _ _ hold)
        (by rw [members, count, declared]) decided promoted reason

/-! ## One lemma a move -/

section Moves

variable {env : RoundEnv} {p : RoundPicture} (consistent : p.Consistent)
include consistent

theorem consistent_join {member : RoundCandidate} (opened : p.round.state = .intakeOpen)
    (accepted : member.toBuildTerminal = .accepted)
    (small : member.ordinal < p.round.declaredCandidateCount)
    (fresh : ∀ other ∈ p.rows.members, other.ordinal ≠ member.ordinal ∧
      other.candidateId ≠ member.candidateId ∧
      other.roundCandidateId ≠ member.roundCandidateId) :
    RoundPicture.Consistent { p with rows.members := p.rows.members ++ [member] } := by
  have stage := consistent.stage_of_state opened (by decide)
  have live : p.round.state.isTerminal = false := by rw [opened]; rfl
  refine consistent.move_on live rfl rfl live consistent.valid ?_ ?_ rfl
  · cases stage with
    | intakeOpen hashes rows waiting =>
        rw [show RoundStage _ p.round.state = RoundStage _ .intakeOpen from by rw [opened]]
        refine .intakeOpen hashes rows fun other present => ?_
        rcases List.mem_append.mp present with old | new
        · exact waiting other old
        · rw [List.mem_singleton.mp new]
          exact accepted
  · have distinct := consistent.members
    have apart : ∀ {α : Type} (field : RoundCandidateIdentity → α),
        (∀ other ∈ p.rows.members, field other.toRoundCandidateIdentity ≠
          field member.toRoundCandidateIdentity) →
        (p.rows.identities.map field).Nodup →
        ((p.rows.members ++ [member]).map RoundCandidate.toRoundCandidateIdentity
          |>.map field).Nodup := by
      intro α field different nodup
      rw [List.map_append, List.map_append, List.nodup_append]
      refine ⟨nodup, List.nodup_singleton _, fun a old b new same => ?_⟩
      simp only [List.map_map, List.mem_map] at old
      obtain ⟨other, present, rfl⟩ := old
      simp only [List.map_cons, List.map_nil, List.mem_singleton] at new
      exact different other present (same.trans new)
    exact {
      ordinals := apart _ (fun other present => (fresh other present).1) distinct.ordinals
      small := fun identity present => by
        simp only [RoundRows.identities, List.map_append, List.mem_append, List.map_cons,
          List.map_nil, List.mem_singleton] at present
        rcases present with old | rfl
        · exact distinct.small identity old
        · exact small
      candidates := apart _ (fun other present => (fresh other present).2.1) distinct.candidates
      identifiers := apart _ (fun other present => (fresh other present).2.2)
        distinct.identifiers }

theorem consistent_closeIntake {now : Timestamp} {family : String}
    (opened : p.round.state = .intakeOpen)
    (count : p.rows.members.length = p.round.declaredCandidateCount) :
    RoundPicture.Consistent { p with round := p.round.closeIntake now family } := by
  have stage := consistent.stage_of_state opened (by decide)
  have live : p.round.state.isTerminal = false := by rw [opened]; rfl
  refine consistent.move_on live rfl rfl rfl ?_ ?_ consistent.members rfl
  · exact consistent.valid.moved rfl consistent.scripted rfl (Nat.le_add_left 1 _)
      consistent.valid.reveal consistent.valid.revealFamily
  · cases stage with
    | intakeOpen hashes rows waiting =>
        obtain ⟨_, artifacts, holdout, plan⟩ := hashes
        have carries : (p.round.closeIntake now family).Carries (some family) none none none :=
          ⟨rfl, artifacts, holdout, plan⟩
        exact .intakeClosed carries rows count waiting

theorem consistent_build {member : RoundCandidate} {terminal : BuildTerminal}
    (present : member ∈ p.rows.members) (ended : terminal.Ended)
    (accepting : p.round.state ∈ [SearchRoundState.intakeClosed, .building]) :
    RoundPicture.Consistent
      { p with round := p.round.startBuilding
               rows.members := p.rows.members.map fun other =>
                 if other.roundCandidateId = member.roundCandidateId then other.terminate terminal
                 else other } := by
  have live : p.round.state.isTerminal = false := by
    rcases List.mem_pair.mp accepting with here | here <;> rw [here] <;> rfl
  obtain ⟨family, hashes, rows, count, builds⟩ : ∃ family,
      p.round.Carries (some family) none none none ∧ p.rows.Hold none none none none none ∧
      p.rows.members.length = p.round.declaredCandidateCount ∧ p.rows.BuildsUnderWay := by
    rcases List.mem_pair.mp accepting with here | here
    · cases consistent.stage_of_state here (by decide) with
      | intakeClosed hashes rows count waiting =>
          exact ⟨_, hashes, rows, count, fun other old => .inl (waiting other old)⟩
    · cases consistent.stage_of_state here (by decide) with
      | building hashes rows count builds _ => exact ⟨_, hashes, rows, count, builds⟩
  refine consistent.move_on live rfl rfl rfl ?_ ?_ ?_ rfl
  · exact consistent.valid.moved rfl consistent.scripted rfl (Nat.le_add_left 1 _)
      consistent.valid.reveal consistent.valid.revealFamily
  · refine .building hashes rows ((List.length_map _).trans count) ?_ ?_
    · intro other moved
      obtain ⟨old, was, rfl⟩ := List.mem_map.mp moved
      by_cases chosen : old.roundCandidateId = member.roundCandidateId
      · rw [if_pos chosen]
        exact .inr ended
      · rw [if_neg chosen]
        exact builds old was
    · refine ⟨member.terminate terminal, List.mem_map.mpr ⟨member, present, ?_⟩, ended⟩
      rw [if_pos rfl]
  · have distinct := consistent.members
    rw [RoundRows.identities, ← identities_terminate member.roundCandidateId terminal] at distinct
    exact distinct

theorem consistent_freeze {family : String} (building : p.round.state = .building) :
    RoundPicture.Consistent { p with round := p.round.freezeArtifacts family } := by
  have stage := consistent.stage_of_state building (by decide)
  have live : p.round.state.isTerminal = false := by rw [building]; rfl
  refine consistent.move_on live rfl rfl rfl ?_ ?_ consistent.members rfl
  · exact consistent.valid.moved rfl consistent.scripted rfl (Nat.le_add_left 1 _)
      consistent.valid.reveal consistent.valid.revealFamily
  · cases stage with
    | building hashes rows count _ _ =>
        obtain ⟨candidates, _, holdout, plan⟩ := hashes
        have carries : (p.round.freezeArtifacts family).Carries _ (some family) none none :=
          ⟨candidates, rfl, holdout, plan⟩
        exact .correctness carries rows count

theorem consistent_closeSearch {decision : SearchBarrierDecision}
    (ready : p.round.state ∈ [SearchRoundState.correctness, .searchMeasuring])
    (decided : decision.Decided) :
    RoundPicture.Consistent
      { p with round := p.round.closeSearch decision.holdoutFamilyHash
               rows.members := memberStates decision.barrier.members p.rows.members
               rows.search := some decision } := by
  have live : p.round.state.isTerminal = false := by
    rcases List.mem_pair.mp ready with here | here <;> rw [here] <;> rfl
  obtain ⟨family, artifacts, hashes, rows, count⟩ : ∃ family artifacts,
      p.round.Carries (some family) (some artifacts) none none ∧
      p.rows.Hold none none none none none ∧
      p.rows.members.length = p.round.declaredCandidateCount := by
    rcases List.mem_pair.mp ready with here | here
    · cases consistent.stage_of_state here (by decide) with
      | correctness hashes rows count => exact ⟨_, _, hashes, rows, count⟩
    · cases consistent.stage_of_state here (by decide)
  obtain ⟨candidates, frozen, _, plan⟩ := hashes
  obtain ⟨_, reveal, holdout, comparison, evidence⟩ := rows
  have same := identities_memberStates decision.barrier.members p.rows.members
  refine consistent.move_on live rfl rfl rfl ?_ ?_ ?_ rfl
  · refine consistent.valid.moved rfl consistent.scripted rfl (Nat.le_add_left 1 _)
      consistent.valid.reveal fun revealed => ?_
    exact absurd plan revealed
  · refine .searchBarrier ⟨candidates, frozen, rfl, plan⟩
      ⟨rfl, reveal, holdout, comparison, evidence⟩ ?_ decided
    have lengths := congrArg List.length same
    rw [List.length_map, List.length_map] at lengths
    exact lengths.trans count
  · have distinct := consistent.members
    rw [RoundRows.identities, ← same] at distinct
    exact distinct

theorem consistent_reveal {reveal : HoldoutRevealResult} {search : SearchBarrierDecision}
    (ready : p.round.state = .searchBarrier) (durable : p.rows.search = some search)
    (bound : reveal.BoundTo p.round search) :
    RoundPicture.Consistent
      { p with round := p.round.revealHoldout reveal
               rows.reveal := some reveal } := by
  have stage := consistent.stage_of_state ready (by decide)
  have live : p.round.state.isTerminal = false := by rw [ready]; rfl
  obtain ⟨sameFamily, family, _⟩ := bound
  refine consistent.move_on live rfl rfl rfl ?_ ?_ consistent.members rfl
  · refine consistent.valid.moved rfl consistent.scripted rfl (Nat.le_add_left 1 _)
      ⟨rfl, rfl⟩ fun _ => ?_
    change p.round.holdoutFamilyHash ≠ none
    rw [sameFamily, ← family]
    exact Option.some_ne_none _
  · cases stage with
    | searchBarrier hashes rows count decided =>
        obtain ⟨candidates, artifacts, holdoutFamily, _⟩ := hashes
        obtain ⟨searched, _, holdout, comparison, evidence⟩ := rows
        cases searched.symm.trans durable
        have carries : (p.round.revealHoldout reveal).Carries _ _ _ (some reveal.planHash) :=
          ⟨candidates, artifacts, holdoutFamily.trans family.symm, rfl⟩
        exact .holdoutMeasuring carries ⟨searched, rfl, holdout, comparison, evidence⟩ count
          decided family.symm

theorem consistent_closeHoldout {barrier : RoundBarrierResult}
    (ready : p.round.state = .holdoutMeasuring) :
    RoundPicture.Consistent
      { p with round := p.round.closeHoldout
               rows.members := memberStates barrier.members p.rows.members
               rows.holdout := some barrier } := by
  have stage := consistent.stage_of_state ready (by decide)
  have live : p.round.state.isTerminal = false := by rw [ready]; rfl
  have same := identities_memberStates barrier.members p.rows.members
  refine consistent.move_on live rfl rfl rfl ?_ ?_ ?_ rfl
  · exact consistent.valid.moved rfl consistent.scripted rfl (Nat.le_add_left 1 _)
      consistent.valid.reveal consistent.valid.revealFamily
  · cases stage with
    | holdoutMeasuring hashes rows count decided promoted =>
        obtain ⟨search, reveal, _, comparison, evidence⟩ := rows
        refine .holdoutBarrier hashes ⟨search, reveal, rfl, comparison, evidence⟩ ?_ decided
          promoted
        have lengths := congrArg List.length same
        rw [List.length_map, List.length_map] at lengths
        exact lengths.trans count
  · have distinct := consistent.members
    rw [RoundRows.identities, ← same] at distinct
    exact distinct

theorem consistent_compare {result : MultipleComparisonResult}
    (ready : p.round.state = .holdoutBarrier) :
    RoundPicture.Consistent
      { p with round := p.round.nextVersion
               rows.comparison := some result } := by
  have stage := consistent.stage_of_state ready (by decide)
  have live : p.round.state.isTerminal = false := by rw [ready]; rfl
  refine consistent.move_on live rfl rfl live ?_ ?_ consistent.members rfl
  · exact consistent.valid.moved rfl consistent.scripted
      (by rw [show p.round.nextVersion.state = _ from ready]; rfl) (Nat.le_add_left 1 _)
      consistent.valid.reveal consistent.valid.revealFamily
  · cases stage with
    | holdoutBarrier hashes rows count decided promoted =>
        obtain ⟨search, reveal, holdout, _, evidence⟩ := rows
        rw [show p.round.nextVersion.state = _ from ready]
        exact .holdoutBarrier hashes ⟨search, reveal, holdout, rfl, evidence⟩ count decided
          promoted

theorem consistent_complete {evidence : RoundEvidenceBundle} {search : SearchBarrierDecision}
    (durable : p.rows.search = some search)
    (path : requireTerminalPath evidence p.round search p.rows.holdout p.rows.comparison = .ok ())
    (settled : ∀ row ∈ p.rows.reservations, row.state ≠ .reserved)
    (unreleasable : evidence.automaticReleaseAllowed = false) :
    RoundPicture.Consistent
      { round := p.round.complete
        task := p.task.inState .completed
        rows := { p.rows with evidence := some evidence } } where
  scripted := consistent.scripted
  valid := consistent.valid.moved rfl consistent.scripted rfl (Nat.le_add_left 1 _)
    consistent.valid.reveal consistent.valid.revealFamily
  stage := by
    refine ⟨.scriptedCompleted, ?_, .inl rfl⟩
    unfold requireTerminalPath at path
    split at path
    · rename_i reason
      obtain ⟨here, nobody, _, _⟩ := require_eq_ok.mp path
      cases consistent.stage_of_state here (by decide) with
      | searchBarrier hashes rows count decided =>
          obtain ⟨candidates, artifacts, family, plan⟩ := hashes
          obtain ⟨searched, reveal, holdout, comparison, _⟩ := rows
          cases searched.symm.trans durable
          have empty : search.holdoutFamilyHash = none := by
            rw [decided.family]
            by_contra somebody
            rw [decided.outcome, if_neg somebody] at nobody
            cases nobody
          exact .withoutWinner ⟨candidates, artifacts, family.trans empty, plan⟩
            ⟨searched, reveal, holdout, comparison, rfl⟩ count decided empty reason
    · rename_i reason
      obtain ⟨here, _, _, compared⟩ := require_eq_ok.mp path
      cases consistent.stage_of_state here (by decide) with
      | holdoutBarrier hashes rows count decided promoted =>
          obtain ⟨searched, reveal, holdout, _, _⟩ := rows
          obtain ⟨comparison, there⟩ := Option.ne_none_iff_exists'.mp compared
          exact .completed hashes ⟨searched, reveal, holdout, there, rfl⟩ count decided promoted
            reason
  members := consistent.members
  task := rfl
  settled := fun _ => settled
  unreleasable := fun _ same => by
    cases same
    exact unreleasable

theorem consistent_cancel (live : p.round.state.isTerminal = false)
    (settled : ∀ row ∈ p.rows.reservations, row.state ≠ .reserved) :
    RoundPicture.Consistent
      { p with round := p.round.cancel
               task := p.task.inState .cancelled } where
  scripted := consistent.scripted
  valid := consistent.valid.moved rfl consistent.scripted rfl (Nat.le_add_left 1 _)
    consistent.valid.reveal consistent.valid.revealFamily
  stage := by
    have stage := consistent.stage_of_state rfl (fun same => by rw [same] at live; cases live)
    refine ⟨p.round.state, stage.congr rfl (fun _ _ _ _ carries => carries) rfl
      (fun _ _ _ _ _ hold => hold), .inr ⟨rfl, fun same => ?_⟩⟩
    rw [same] at live
    cases live
  members := consistent.members
  task := rfl
  settled := fun _ => settled
  unreleasable := consistent.unreleasable

theorem consistent_budget {reservations : List RoundBudgetReservation}
    {ledger : List RoundBudgetLedgerEntry} (live : p.round.state.isTerminal = false) :
    RoundPicture.Consistent
      { p with rows.reservations := reservations
               rows.ledger := ledger } := by
  refine consistent.move_on live rfl rfl live consistent.valid ?_ consistent.members rfl
  have stage := consistent.stage_of_state rfl (fun same => by rw [same] at live; cases live)
  exact stage.congr rfl (fun _ _ _ _ carries => carries) rfl (fun _ _ _ _ _ hold => hold)

end Moves

/-- **A move keeps the invariant of a round.** -/
theorem RoundMove.consistent {env : RoundEnv} {p p' : RoundPicture} {action : Option RoundAction}
    (move : RoundMove env p action p') (consistent : p.Consistent) : p'.Consistent := by
  cases move with
  | join member opened accepted small fresh =>
      exact consistent_join consistent opened accepted small fresh
  | closeIntake now opened count _ => exact consistent_closeIntake consistent opened count
  | build member terminal present _ ended accepting =>
      exact consistent_build consistent present ended accepting.2
  | freeze family building _ => exact consistent_freeze consistent building
  | closeSearch decision _ ready decided =>
      exact consistent_closeSearch consistent ready (searchBarrierDecision_decided decided)
  | reveal reveal search ready durable _ bound =>
      exact consistent_reveal consistent ready durable bound
  | closeHoldout barrier ready => exact consistent_closeHoldout consistent ready
  | compare result ready _ => exact consistent_compare consistent ready
  | complete evidence search durable path settled _ unreleasable =>
      exact consistent_complete consistent durable path settled unreleasable
  | cancel _ live settled => exact consistent_cancel consistent live settled
  | reserve _ _ live => exact consistent_budget consistent live
  | settle reservation _ present reserved =>
      refine consistent_budget consistent ?_
      by_contra ended
      exact consistent.settled (by simpa using ended) reservation present reserved

/-! ## Forward -/

/-- The place of a state in the lifecycle of a round; its ends come last. -/
def SearchRoundState.rank : SearchRoundState → Nat
  | .intakeOpen => 0
  | .intakeClosed => 1
  | .building => 2
  | .correctness => 3
  | .searchMeasuring => 4
  | .searchBarrier => 5
  | .holdoutMeasuring => 6
  | .holdoutBarrier => 7
  | .awaitingSignoff => 8
  | .scriptedCompleted | .completed | .rejected | .cancelled => 9

/-- The later picture of a round is ahead of the earlier one: the state stays or climbs, a
hash once written stays, and a round that has ended is as it was. -/
structure RoundPicture.Advances (p p' : RoundPicture) : Prop where
  creation : p'.round.toRoundCreation = p.round.toRoundCreation
  state : p'.round.state = p.round.state ∨ p.round.state.rank < p'.round.state.rank
  candidateFamily : ∀ hash, p.round.candidateFamilyHash = some hash →
    p'.round.candidateFamilyHash = some hash
  artifactFamily : ∀ hash, p.round.artifactFamilyHash = some hash →
    p'.round.artifactFamilyHash = some hash
  holdoutFamily : ∀ hash, p.round.holdoutFamilyHash = some hash →
    p'.round.holdoutFamilyHash = some hash
  ended : p.round.state.isTerminal = true → p' = p

theorem RoundPicture.Advances.refl (p : RoundPicture) : p.Advances p :=
  ⟨rfl, .inl rfl, fun _ h => h, fun _ h => h, fun _ h => h, fun _ => rfl⟩

theorem RoundPicture.Advances.trans {p q r : RoundPicture} (first : p.Advances q)
    (second : q.Advances r) : p.Advances r where
  creation := second.creation.trans first.creation
  state := by
    rcases first.state with same | climbed
    · rw [← same]
      exact second.state
    · rcases second.state with same | further
      · rw [same]
        exact .inr climbed
      · exact .inr (climbed.trans further)
  candidateFamily hash written := second.candidateFamily hash (first.candidateFamily hash written)
  artifactFamily hash written := second.artifactFamily hash (first.artifactFamily hash written)
  holdoutFamily hash written := second.holdoutFamily hash (first.holdoutFamily hash written)
  ended terminal := by
    have still := first.ended terminal
    subst still
    exact second.ended terminal

/-- Only a live round moves. -/
theorem RoundMove.live {env : RoundEnv} {p p' : RoundPicture} {action : Option RoundAction}
    (move : RoundMove env p action p') (consistent : p.Consistent) :
    p.round.state.isTerminal = false := by
  cases move with
  | join _ opened | closeIntake _ opened => rw [opened]; rfl
  | build _ _ _ _ _ accepting =>
      rcases List.mem_pair.mp accepting.2 with here | here <;> rw [here] <;> rfl
  | freeze _ here _ | reveal _ _ here | closeHoldout _ here | compare _ here => rw [here]; rfl
  | closeSearch _ _ ready => rcases List.mem_pair.mp ready with here | here <;> rw [here] <;> rfl
  | complete evidence _ _ path =>
      unfold requireTerminalPath at path
      split at path
      · rw [(require_eq_ok.mp path).1]; rfl
      · rw [(require_eq_ok.mp path).1]; rfl
  | cancel _ live => exact live
  | reserve _ _ live => exact live
  | settle reservation _ present reserved =>
      by_contra ended
      exact consistent.settled (by simpa using ended) reservation present reserved

theorem RoundPicture.climbs {p p' : RoundPicture} {here there : SearchRoundState}
    (before : p.round.state = here) (after : p'.round.state = there)
    (up : decide (here.rank < there.rank) = true) :
    p'.round.state = p.round.state ∨ p.round.state.rank < p'.round.state.rank := by
  rw [before, after]
  exact .inr (of_decide_eq_true up)

/-- **A move goes forward.** -/
theorem RoundMove.advances {env : RoundEnv} {p p' : RoundPicture} {action : Option RoundAction}
    (move : RoundMove env p action p') (consistent : p.Consistent) : p.Advances p' := by
  have live := move.live consistent
  have ended : p.round.state.isTerminal = true → p' = p := by
    rw [live]
    simp
  cases move with
  | join | reserve | settle =>
      exact ⟨rfl, .inl rfl, fun _ h => h, fun _ h => h, fun _ h => h, ended⟩
  | compare => exact ⟨rfl, .inl rfl, fun _ h => h, fun _ h => h, fun _ h => h, ended⟩
  | closeIntake now opened _ _ =>
      refine ⟨rfl, RoundPicture.climbs opened rfl rfl, fun hash written => ?_, fun _ h => h,
        fun _ h => h, ended⟩
      cases consistent.stage_of_state opened (by decide) with
      | intakeOpen hashes _ _ => cases hashes.1.symm.trans written
  | build _ _ _ _ _ accepting =>
      refine ⟨rfl, ?_, fun _ h => h, fun _ h => h, fun _ h => h, ended⟩
      rcases List.mem_pair.mp accepting.2 with here | here
      · exact RoundPicture.climbs here rfl rfl
      · exact .inl here.symm
  | freeze family building _ =>
      refine ⟨rfl, RoundPicture.climbs building rfl rfl, fun _ h => h, fun hash written => ?_,
        fun _ h => h, ended⟩
      cases consistent.stage_of_state building (by decide) with
      | building hashes _ _ _ _ => cases hashes.2.1.symm.trans written
  | closeSearch decision _ ready _ =>
      have rank : p.round.state.rank < SearchRoundState.searchBarrier.rank := by
        rcases List.mem_pair.mp ready with here | here <;> rw [here] <;> decide
      refine ⟨rfl, .inr rank, fun _ h => h, fun _ h => h, fun hash written => ?_, ended⟩
      rcases List.mem_pair.mp ready with here | here
      · cases consistent.stage_of_state here (by decide) with
        | correctness hashes _ _ => cases hashes.2.2.1.symm.trans written
      · cases consistent.stage_of_state here (by decide)
  | reveal _ _ ready =>
      exact ⟨rfl, RoundPicture.climbs ready rfl rfl, fun _ h => h, fun _ h => h,
        fun _ h => h, ended⟩
  | closeHoldout _ ready =>
      exact ⟨rfl, RoundPicture.climbs ready rfl rfl, fun _ h => h, fun _ h => h,
        fun _ h => h, ended⟩
  | complete =>
      have rank : p.round.state.rank < SearchRoundState.scriptedCompleted.rank := by
        revert live
        cases p.round.state <;> decide
      exact ⟨rfl, .inr rank, fun _ h => h, fun _ h => h, fun _ h => h, ended⟩
  | cancel =>
      have rank : p.round.state.rank < SearchRoundState.cancelled.rank := by
        revert live
        cases p.round.state <;> decide
      exact ⟨rfl, .inr rank, fun _ h => h, fun _ h => h, fun _ h => h, ended⟩

end HcuAutoOpt
