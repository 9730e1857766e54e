import HcuAutoOpt.Rounds.Lifecycle

/-!
# Repeating an operation on a round

An accepted operation leaves its result in the rows about the round, and the rows keep
it (`RoundPicture.Keeps`). A repetition looks for the result and answers with the row
that is there. Three operations look at more than their result: the close of an intake
and the freeze of the artifact family at all members, the record of a build at its
member. Their repetitions are answered while these are as the call left them.

The main result is `round_operations_replay`.
-/

set_option autoImplicit false

namespace HcuAutoOpt

open Foundation

/-! ## What a round keeps -/

/-- What the later picture of a round keeps of the earlier one: the moment its intake
closed, its revealed plan, and every authority row. -/
structure RoundPicture.Keeps (p p' : RoundPicture) : Prop where
  closed : p.round.state ≠ .intakeOpen → p'.round.state ≠ .intakeOpen ∧
    p'.round.intakeClosedAt = p.round.intakeClosedAt
  plan : ∀ hash, p.round.holdoutPlanHash = some hash → p'.round.holdoutPlanHash = some hash ∧
    p'.round.holdoutRevealLeaseId = p.round.holdoutRevealLeaseId ∧
    p'.round.holdoutRevealEvidenceHash = p.round.holdoutRevealEvidenceHash
  search : ∀ row, p.rows.search = some row → p'.rows.search = some row
  reveal : ∀ row, p.rows.reveal = some row → p'.rows.reveal = some row
  holdout : ∀ row, p.rows.holdout = some row → p'.rows.holdout = some row
  comparison : ∀ row, p.rows.comparison = some row → p'.rows.comparison = some row
  evidence : ∀ row, p.rows.evidence = some row → p'.rows.evidence = some row

theorem RoundPicture.Keeps.refl (p : RoundPicture) : p.Keeps p :=
  ⟨fun left => ⟨left, rfl⟩, fun _ h => ⟨h, rfl, rfl⟩, fun _ h => h, fun _ h => h, fun _ h => h,
    fun _ h => h, fun _ h => h⟩

theorem RoundPicture.Keeps.trans {p q r : RoundPicture} (first : p.Keeps q) (second : q.Keeps r) :
    p.Keeps r where
  closed left := by
    obtain ⟨left', at'⟩ := first.closed left
    obtain ⟨left'', at''⟩ := second.closed left'
    exact ⟨left'', at''.trans at'⟩
  plan hash revealed := by
    obtain ⟨revealed', lease, evidence⟩ := first.plan hash revealed
    obtain ⟨revealed'', lease', evidence'⟩ := second.plan hash revealed'
    exact ⟨revealed'', lease'.trans lease, evidence'.trans evidence⟩
  search row there := second.search row (first.search row there)
  reveal row there := second.reveal row (first.reveal row there)
  holdout row there := second.holdout row (first.holdout row there)
  comparison row there := second.comparison row (first.comparison row there)
  evidence row there := second.evidence row (first.evidence row there)

/-- Nothing an authority row is written over was there before. -/
theorem RoundPicture.Consistent.unwritten {p : RoundPicture} (consistent : p.Consistent) :
    (p.round.state ∈ [SearchRoundState.correctness, .searchMeasuring] → p.rows.search = none) ∧
    (p.round.state = .searchBarrier → p.round.holdoutPlanHash = none ∧ p.rows.reveal = none) ∧
    (p.round.state = .holdoutMeasuring → p.rows.holdout = none) ∧
    (p.round.state.isTerminal = false → p.rows.evidence = none) := by
  refine ⟨fun ready => ?_, fun here => ?_, fun here => ?_, fun live => ?_⟩
  · rcases List.mem_pair.mp ready with here | here
    · cases consistent.stage_of_state here (by decide) with
      | correctness _ rows => exact rows.1
    · cases consistent.stage_of_state here (by decide)
  · cases consistent.stage_of_state here (by decide) with
    | searchBarrier hashes rows => exact ⟨hashes.2.2.2, rows.2.1⟩
  · cases consistent.stage_of_state here (by decide) with
    | holdoutMeasuring _ rows => exact rows.2.2.1
  · obtain ⟨stage, rows, same | ⟨cancelled, _⟩⟩ := consistent.stage
    · rw [same] at live
      cases rows with
      | withoutWinner | completed => cases live
      | intakeOpen _ hold | intakeClosed _ hold | building _ hold | correctness _ hold
      | searchBarrier _ hold | holdoutMeasuring _ hold | holdoutBarrier _ hold =>
          exact hold.2.2.2.2
    · rw [cancelled] at live
      cases live

theorem RoundMove.keeps {env : RoundEnv} {p p' : RoundPicture} {action : Option RoundAction}
    (move : RoundMove env p action p') (consistent : p.Consistent) : p.Keeps p' := by
  obtain ⟨unsearched, unrevealed, unheld, unfinished⟩ := consistent.unwritten
  have live := move.live consistent
  -- A move keeps what it does not write.
  have same : ∀ {row : Type} {old new : Option row}, new = old →
      ∀ value, old = some value → new = some value := fun h _ there => h.trans there
  cases move with
  | join | reserve | settle =>
      exact ⟨fun left => ⟨left, rfl⟩, fun _ h => ⟨h, rfl, rfl⟩, same rfl, same rfl, same rfl,
        same rfl, same rfl⟩
  | closeIntake _ opened =>
      exact ⟨fun left => absurd opened left, fun _ h => ⟨h, rfl, rfl⟩, same rfl, same rfl,
        same rfl, same rfl, same rfl⟩
  | build | freeze | cancel =>
      exact ⟨fun _ => ⟨(by rintro ⟨⟩), rfl⟩, fun _ h => ⟨h, rfl, rfl⟩, same rfl, same rfl,
        same rfl, same rfl, same rfl⟩
  | closeSearch _ _ ready =>
      refine ⟨fun _ => ⟨(by rintro ⟨⟩), rfl⟩, fun _ h => ⟨h, rfl, rfl⟩,
        fun row there => ?_, same rfl, same rfl, same rfl, same rfl⟩
      cases (unsearched ready).symm.trans there
  | reveal _ _ ready =>
      refine ⟨fun _ => ⟨(by rintro ⟨⟩), rfl⟩, fun hash revealed => ?_, same rfl,
        fun row there => ?_, same rfl, same rfl, same rfl⟩
      · cases (unrevealed ready).1.symm.trans revealed
      · cases (unrevealed ready).2.symm.trans there
  | closeHoldout _ ready =>
      refine ⟨fun _ => ⟨(by rintro ⟨⟩), rfl⟩, fun _ h => ⟨h, rfl, rfl⟩, same rfl, same rfl,
        fun row there => ?_, same rfl, same rfl⟩
      cases (unheld ready).symm.trans there
  | compare _ _ first =>
      refine ⟨fun left => ⟨left, rfl⟩, fun _ h => ⟨h, rfl, rfl⟩, same rfl, same rfl, same rfl,
        fun row there => ?_, same rfl⟩
      cases first.symm.trans there
  | complete =>
      refine ⟨fun _ => ⟨(by rintro ⟨⟩), rfl⟩, fun _ h => ⟨h, rfl, rfl⟩, same rfl, same rfl,
        same rfl, same rfl, fun row there => ?_⟩
      cases (unfinished live).symm.trans there

/-- The later row of a round is a later state of the same record: nothing that was frozen
in it has changed. -/
structure SearchRound.SameRecord (round later : SearchRound) : Prop where
  creation : later.toRoundCreation = round.toRoundCreation
  forward : round.MovesForward later
  closed : round.state ≠ .intakeOpen → later.intakeClosedAt = round.intakeClosedAt
  plan : ∀ hash, round.holdoutPlanHash = some hash → later.holdoutPlanHash = some hash ∧
    later.holdoutRevealLeaseId = round.holdoutRevealLeaseId ∧
    later.holdoutRevealEvidenceHash = round.holdoutRevealEvidenceHash

/-- A round later in a run, with everything it keeps. -/
theorem round_later {env : RoundEnv} {s t : Store} {trace : List (Option RoundCall)}
    (steps : Steps (RoundStep env) s trace t) (consistent : s.RoundsConsistent)
    {roundId : Uuid} {round : SearchRound} (found : s.searchRounds.find? roundId = some round) :
    ∃ later, t.searchRounds.find? roundId = some later ∧ round.SameRecord later ∧
      ∃ task task', RoundPicture.Keeps { round, task, rows := s.rowsOf roundId }
        { round := later, task := task', rows := t.rowsOf roundId } := by
  obtain ⟨task, tasked⟩ := consistent.owned.task found
  have here := picture_of_round found tasked
  obtain ⟨p, there, ahead, kept⟩ :=
    roundsRelate_of_steps (R := fun p p' => p.Advances p' ∧ p.Keeps p')
      (fun p => ⟨.refl p, .refl p⟩)
      (fun _ _ _ move ok => ⟨move.advances ok, move.keeps ok⟩)
      (fun _ _ _ first second => ⟨first.1.trans second.1, first.2.trans second.2⟩)
      steps consistent roundId _ here
  obtain ⟨found', _, rows⟩ := Store.picture_eq_some.mp there
  refine ⟨p.round, found', ⟨ahead.creation,
    ⟨ahead.state, ahead.candidateFamily, ahead.artifactFamily, ahead.holdoutFamily⟩,
    fun left => (kept.closed left).2, kept.plan⟩, task, p.task, ?_⟩
  obtain ⟨round', task', rows'⟩ := p
  simp only at rows
  subst rows
  exact kept

/-! ## What an accepted call leaves, and how it is repeated -/

section Intake

variable {env : RoundEnv} {s s' : Store}

/-- A candidate family is hashed from the members and the creation of the round. -/
theorem candidateFamilyHash_of_creation {round later : SearchRound}
    (creation : later.toRoundCreation = round.toRoundCreation) (members : List RoundCandidate) :
    candidateFamilyHash env later members = candidateFamilyHash env round members := by
  have hotspot : later.hotspotId = round.hotspotId := congrArg RoundCreation.hotspotId creation
  simp only [candidateFamilyHash, RoundCandidate.familyMember, hotspot]

/-- An artifact family is hashed from the members, their number and the candidate family. -/
theorem artifactFamilyHash_congr {round later : SearchRound}
    (creation : later.toRoundCreation = round.toRoundCreation)
    (family : later.candidateFamilyHash = round.candidateFamilyHash)
    (members : List RoundCandidate) :
    artifactFamilyHash env later members = artifactFamilyHash env round members := by
  have declared : later.declaredCandidateCount = round.declaredCandidateCount :=
    congrArg RoundCreation.declaredCandidateCount creation
  simp only [artifactFamilyHash, family, declared]

/-- The intake of the round is closed over its members, which wait for their builds. -/
structure Store.IntakeClosed (env : RoundEnv) (s : Store) (roundId : Uuid) (round : SearchRound) :
    Prop where
  found : s.searchRounds.find? roundId = some round
  count : (s.membersOf roundId).length = round.declaredCandidateCount
  accepted : ∀ member ∈ s.membersOf roundId, member.state = .intakeAccepted
  closed : round.state ≠ .intakeOpen
  family : round.candidateFamilyHash =
    some (candidateFamilyHash env round (s.membersOf roundId))
  moment : round.intakeClosedAt ≠ none

theorem closeSearchRoundIntake_recorded {now : Timestamp} {roundId : Uuid} {reply : SearchRound}
    (ok : closeSearchRoundIntake env now roundId s = .ok (s', reply)) :
    s'.IntakeClosed env roundId reply := by
  simp only [closeSearchRoundIntake, Except.bind_eq_ok, require_eq_ok,
    Store.requireRound_eq_ok] at ok
  obtain ⟨round, found, _, count, _, accepted, ok⟩ := ok
  split at ok
  · rename_i closed
    simp only [Except.bind_eq_ok, require_eq_ok] at ok
    obtain ⟨_, ⟨family, moment⟩, ok⟩ := ok
    cases ok
    exact ⟨found, count, accepted, closed, family, moment⟩
  · cases ok
    exact {
      found := by simp [found]
      count := count
      accepted := accepted
      closed := by rintro ⟨⟩
      family := rfl
      moment := Option.some_ne_none _ }

theorem closeSearchRoundIntake_again {roundId : Uuid} {round : SearchRound}
    (closed : s.IntakeClosed env roundId round) (now : Timestamp) :
    closeSearchRoundIntake env now roundId s = .ok (s, round) := by
  simp only [closeSearchRoundIntake, Except.bind_eq_ok, require_eq_ok, Store.requireRound_eq_ok]
  refine ⟨round, closed.found, (), closed.count, (), closed.accepted, ?_⟩
  rw [if_pos closed.closed]
  simp only [Except.bind_eq_ok, require_eq_ok]
  exact ⟨(), ⟨closed.family, closed.moment⟩, rfl⟩

/-- The member has ended its build as the request says. -/
structure Store.BuildRecorded (s : Store) (request : RoundCandidateBuildTerminal)
    (member : RoundCandidate) : Prop where
  found : s.roundCandidates.find? request.roundCandidateId = some member
  bound : member.roundId = request.roundId ∧ member.candidateId = request.candidateId
  terminal : member.toBuildTerminal = request.terminal

theorem recordRoundCandidateBuild_recorded {request : RoundCandidateBuildTerminal}
    {reply : RoundCandidate} (ok : recordRoundCandidateBuild request s = .ok (s', reply)) :
    (∃ round, s'.searchRounds.find? request.roundId = some round) ∧
      s'.BuildRecorded request reply := by
  simp only [recordRoundCandidateBuild, Except.bind_eq_ok, require_eq_ok, requireSome_eq_ok,
    Store.requireRound_eq_ok] at ok
  obtain ⟨round, found, member, there, _, bound, ok⟩ := ok
  split at ok
  · simp only [Except.bind_eq_ok, require_eq_ok] at ok
    obtain ⟨_, terminal, ok⟩ := ok
    cases ok
    exact ⟨⟨round, found⟩, there, bound, terminal⟩
  · simp only [Except.bind_eq_ok, require_eq_ok] at ok
    obtain ⟨_, _, _, _, ok⟩ := ok
    cases ok
    refine ⟨⟨round.startBuilding, ?_⟩, ?_, bound, rfl⟩
    · simp [setCandidateState, found]
    · simp [setCandidateState, there]

theorem BuildTerminal.Ended.state_mem {terminal : BuildTerminal} (ended : terminal.Ended) :
    terminal.state ∈ buildTerminalStates := by
  rcases ended with ⟨built, _⟩ | ⟨failed, _⟩
  · rw [built]
    decide
  · rcases List.mem_pair.mp failed with here | here <;> rw [here] <;> decide

theorem recordRoundCandidateBuild_again {request : RoundCandidateBuildTerminal}
    {member : RoundCandidate} {round : SearchRound}
    (found : s.searchRounds.find? request.roundId = some round)
    (recorded : s.BuildRecorded request member) :
    recordRoundCandidateBuild request s = .ok (s, member) := by
  simp only [recordRoundCandidateBuild, Except.bind_eq_ok, require_eq_ok, requireSome_eq_ok,
    Store.requireRound_eq_ok]
  refine ⟨round, found, member, recorded.found, (), recorded.bound, ?_⟩
  have ended : member.state ∈ buildTerminalStates := by
    rw [congrArg BuildTerminal.state recorded.terminal]
    exact request.valid.state_mem
  rw [if_pos ended]
  simp only [Except.bind_eq_ok, require_eq_ok]
  exact ⟨(), recorded.terminal, rfl⟩

/-- The artifact family of the round is frozen as the request says. -/
structure Store.FamilyFrozen (env : RoundEnv) (s : Store) (request : ArtifactFamilyFreezeRequest)
    (round : SearchRound) : Prop where
  found : s.searchRounds.find? request.roundId = some round
  candidates : round.candidateFamilyHash = some request.candidateFamilyHash
  artifacts : round.artifactFamilyHash = some request.expectedArtifactFamilyHash
  hashed : artifactFamilyHash env round (s.membersOf request.roundId) =
    .ok request.expectedArtifactFamilyHash

theorem freezeSearchRoundArtifactFamily_recorded {request : ArtifactFamilyFreezeRequest}
    {reply : SearchRound} (ok : freezeSearchRoundArtifactFamily env request s = .ok (s', reply)) :
    s'.FamilyFrozen env request reply := by
  simp only [freezeSearchRoundArtifactFamily, Except.bind_eq_ok, require_eq_ok,
    Store.requireRound_eq_ok, familyOrConflict_eq_ok] at ok
  obtain ⟨round, found, _, candidates, computed, hashed, _, rfl, ok⟩ := ok
  split at ok
  · simp only [Except.bind_eq_ok, require_eq_ok] at ok
    obtain ⟨_, artifacts, ok⟩ := ok
    cases ok
    exact ⟨found, candidates, artifacts, hashed⟩
  · simp only [Except.bind_eq_ok, require_eq_ok] at ok
    obtain ⟨_, _, ok⟩ := ok
    cases ok
    exact {
      found := by simp [found]
      candidates := candidates
      artifacts := rfl
      hashed := (artifactFamilyHash_congr rfl rfl _).trans hashed }

theorem freezeSearchRoundArtifactFamily_again {request : ArtifactFamilyFreezeRequest}
    {round : SearchRound} (frozen : s.FamilyFrozen env request round) :
    freezeSearchRoundArtifactFamily env request s = .ok (s, round) := by
  simp only [freezeSearchRoundArtifactFamily, Except.bind_eq_ok, require_eq_ok,
    Store.requireRound_eq_ok, familyOrConflict_eq_ok]
  refine ⟨round, frozen.found, (), frozen.candidates, _, frozen.hashed, (), rfl, ?_⟩
  have written : round.artifactFamilyHash ≠ none := by
    rw [frozen.artifacts]
    exact Option.some_ne_none _
  rw [if_pos written]
  simp only [Except.bind_eq_ok, require_eq_ok]
  exact ⟨(), frozen.artifacts, rfl⟩

end Intake

section Barriers

variable {env : RoundEnv} {s s' : Store}

theorem closeScriptedSearchBarrier_recorded {decision : SearchBarrierDecision}
    {reply : SearchRound} (ok : closeScriptedSearchBarrier env decision s = .ok (s', reply)) :
    (decision.barrier.phase = .search ∧ decision.barrier.runMode = .scripted ∧
        decision.barrier.synthetic = true) ∧
      s'.searchRounds.find? decision.barrier.roundId = some reply ∧
      s'.searchDecision decision.barrier.roundId = some decision := by
  simp only [closeScriptedSearchBarrier, Except.bind_eq_ok, require_eq_ok,
    Store.requireRound_eq_ok] at ok
  obtain ⟨_, scripted, round, found, ok⟩ := ok
  refine ⟨scripted, ?_⟩
  split at ok
  · rename_i existing there
    simp only [Except.bind_eq_ok, require_eq_ok] at ok
    obtain ⟨_, ⟨rfl, _⟩, ok⟩ := ok
    cases ok
    exact ⟨found, there⟩
  · rename_i absent
    simp only [persistSearchBarrier, Except.bind_eq_ok, require_eq_ok] at ok
    obtain ⟨_, _, _, _, _, _, _, _, _, _, _, _, _, _, _, _, ok⟩ := ok
    have key : round.roundId = decision.barrier.roundId := Table.key_of_find? found
    rw [key] at ok
    cases ok
    refine ⟨by simp [found], ?_⟩
    have barriers := barriers_of_search (s := s)
      (t := { s with roundBarriers := s.roundBarriers.insertIfAbsent (.search decision) })
      rfl absent decision.barrier.roundId
    rw [if_pos rfl] at barriers
    exact barriers.1

theorem closeScriptedSearchBarrier_again {decision : SearchBarrierDecision} {round : SearchRound}
    (scripted : decision.barrier.phase = .search ∧ decision.barrier.runMode = .scripted ∧
      decision.barrier.synthetic = true)
    (found : s.searchRounds.find? decision.barrier.roundId = some round)
    (there : s.searchDecision decision.barrier.roundId = some decision)
    (reads : decision.ReadsBack) :
    closeScriptedSearchBarrier env decision s = .ok (s, round) := by
  simp only [closeScriptedSearchBarrier, Except.bind_eq_ok, require_eq_ok,
    Store.requireRound_eq_ok]
  refine ⟨(), scripted, round, found, ?_⟩
  rw [there]
  simp only [Except.bind_eq_ok, require_eq_ok]
  exact ⟨(), ⟨trivial, reads⟩, rfl⟩

theorem recordScriptedHoldoutReveal_recorded {reveal : HoldoutRevealResult} {reply : SearchRound}
    (ok : recordScriptedHoldoutReveal env reveal s = .ok (s', reply)) :
    s'.searchRounds.find? reveal.roundId = some reply ∧
      s'.holdoutReveals.find? reveal.roundId = some reveal := by
  simp only [recordScriptedHoldoutReveal, Except.bind_eq_ok, Store.requireRound_eq_ok] at ok
  obtain ⟨round, found, ok⟩ := ok
  split at ok
  · rename_i existing there
    simp only [Except.bind_eq_ok, require_eq_ok] at ok
    obtain ⟨_, rfl, ok⟩ := ok
    cases ok
    exact ⟨found, there⟩
  · rename_i absent
    simp only [persistHoldoutReveal, Except.bind_eq_ok, require_eq_ok, requireSome_eq_ok] at ok
    obtain ⟨_, _, _, _, _, _, _, _, ok⟩ := ok
    cases ok
    exact ⟨by simp [found], by simp [Table.find?_insertIfAbsent, absent]⟩

theorem recordScriptedHoldoutReveal_again {reveal : HoldoutRevealResult} {round : SearchRound}
    (found : s.searchRounds.find? reveal.roundId = some round)
    (there : s.holdoutReveals.find? reveal.roundId = some reveal) :
    recordScriptedHoldoutReveal env reveal s = .ok (s, round) := by
  simp only [recordScriptedHoldoutReveal, Except.bind_eq_ok, Store.requireRound_eq_ok]
  refine ⟨round, found, ?_⟩
  rw [there]
  simp only [Except.bind_eq_ok, require_eq_ok]
  exact ⟨(), trivial, rfl⟩

theorem closeScriptedHoldoutBarrier_recorded {barrier : RoundBarrierResult} {reply : SearchRound}
    (ok : closeScriptedHoldoutBarrier env barrier s = .ok (s', reply)) :
    (barrier.phase = .holdout ∧ barrier.runMode = .scripted ∧ barrier.synthetic = true) ∧
      s'.searchRounds.find? barrier.roundId = some reply ∧
      s'.holdoutBarrier barrier.roundId = some barrier := by
  simp only [closeScriptedHoldoutBarrier, Except.bind_eq_ok, require_eq_ok,
    Store.requireRound_eq_ok] at ok
  obtain ⟨_, scripted, round, found, ok⟩ := ok
  refine ⟨scripted, ?_⟩
  split at ok
  · rename_i existing there
    simp only [Except.bind_eq_ok, require_eq_ok] at ok
    obtain ⟨_, rfl, ok⟩ := ok
    cases ok
    exact ⟨found, there⟩
  · rename_i absent
    simp only [persistHoldoutBarrier, Except.bind_eq_ok, require_eq_ok, requireSome_eq_ok] at ok
    obtain ⟨_, _, _, _, _, _, _, _, _, _, _, _, _, _, _, _, _, _, ok⟩ := ok
    have key : round.roundId = barrier.roundId := Table.key_of_find? found
    rw [key] at ok
    cases ok
    refine ⟨by simp [found], ?_⟩
    have barriers := barriers_of_holdout (s := s)
      (t := { s with roundBarriers := s.roundBarriers.insertIfAbsent (.holdout barrier) })
      rfl absent barrier.roundId
    rw [if_pos rfl] at barriers
    exact barriers.1

theorem closeScriptedHoldoutBarrier_again {barrier : RoundBarrierResult} {round : SearchRound}
    (scripted : barrier.phase = .holdout ∧ barrier.runMode = .scripted ∧ barrier.synthetic = true)
    (found : s.searchRounds.find? barrier.roundId = some round)
    (there : s.holdoutBarrier barrier.roundId = some barrier) :
    closeScriptedHoldoutBarrier env barrier s = .ok (s, round) := by
  simp only [closeScriptedHoldoutBarrier, Except.bind_eq_ok, require_eq_ok,
    Store.requireRound_eq_ok]
  refine ⟨(), scripted, round, found, ?_⟩
  rw [there]
  simp only [Except.bind_eq_ok, require_eq_ok]
  exact ⟨(), trivial, rfl⟩

theorem recordScriptedMultipleComparison_recorded {result reply : MultipleComparisonResult}
    (ok : recordScriptedMultipleComparison env result s = .ok (s', reply)) :
    reply = result ∧ result.Scripted env ∧
      (∃ round, s'.searchRounds.find? result.roundId = some round) ∧
      s'.multipleComparisons.find? result.roundId = some result := by
  simp only [recordScriptedMultipleComparison, Except.bind_eq_ok, require_eq_ok,
    Store.requireRound_eq_ok] at ok
  obtain ⟨_, scripted, round, found, ok⟩ := ok
  split at ok
  · rename_i existing there
    simp only [Except.bind_eq_ok, require_eq_ok] at ok
    obtain ⟨_, ⟨rfl, _⟩, ok⟩ := ok
    cases ok
    exact ⟨rfl, scripted, ⟨round, found⟩, there⟩
  · rename_i absent
    simp only [Except.bind_eq_ok, require_eq_ok] at ok
    obtain ⟨_, _, _, _, ok⟩ := ok
    cases ok
    exact ⟨rfl, scripted, ⟨round.nextVersion, by simp [found]⟩,
      by simp [Table.find?_insertIfAbsent, absent]⟩

theorem recordScriptedMultipleComparison_again {result : MultipleComparisonResult}
    {round : SearchRound} (scripted : result.Scripted env)
    (found : s.searchRounds.find? result.roundId = some round)
    (there : s.multipleComparisons.find? result.roundId = some result)
    (reads : result.ReadsBack) :
    recordScriptedMultipleComparison env result s = .ok (s, result) := by
  simp only [recordScriptedMultipleComparison, Except.bind_eq_ok, require_eq_ok,
    Store.requireRound_eq_ok]
  refine ⟨(), scripted, round, found, ?_⟩
  rw [there]
  simp only [Except.bind_eq_ok, require_eq_ok]
  exact ⟨(), ⟨trivial, reads⟩, rfl⟩

theorem finalizeScriptedSearchRound_recorded {evidence : RoundEvidenceBundle}
    {reply : SearchRound} (ok : finalizeScriptedSearchRound env evidence s = .ok (s', reply)) :
    (evidence.runMode = .scripted ∧ evidence.synthetic = true ∧
        evidence.automaticReleaseAllowed = false) ∧
      s'.searchRounds.find? evidence.roundId = some reply ∧
      s'.roundEvidenceBundles.find? evidence.roundId = some evidence ∧
      reply.state = .scriptedCompleted := by
  simp only [finalizeScriptedSearchRound, Except.bind_eq_ok, require_eq_ok,
    Store.requireRound_eq_ok] at ok
  obtain ⟨_, scripted, round, found, ok⟩ := ok
  refine ⟨scripted, ?_⟩
  split at ok
  · rename_i existing there
    simp only [Except.bind_eq_ok, require_eq_ok] at ok
    obtain ⟨_, ⟨rfl, _⟩, _, completed, ok⟩ := ok
    cases ok
    exact ⟨found, there, completed⟩
  · rename_i absent
    simp only [persistEvidence, Except.bind_eq_ok, require_eq_ok, requireSome_eq_ok] at ok
    obtain ⟨_, _, _, _, _, _, _, _, _, _, _, _, _, _, _, _, _, _, ok⟩ := ok
    cases ok
    exact ⟨by simp [setTaskState, found],
      by simp [setTaskState, Table.find?_insertIfAbsent, absent], rfl⟩

theorem finalizeScriptedSearchRound_again {evidence : RoundEvidenceBundle} {round : SearchRound}
    (scripted : evidence.runMode = .scripted ∧ evidence.synthetic = true ∧
      evidence.automaticReleaseAllowed = false)
    (found : s.searchRounds.find? evidence.roundId = some round)
    (there : s.roundEvidenceBundles.find? evidence.roundId = some evidence)
    (completed : round.state = .scriptedCompleted) (reads : evidence.ReadsBack) :
    finalizeScriptedSearchRound env evidence s = .ok (s, round) := by
  simp only [finalizeScriptedSearchRound, Except.bind_eq_ok, require_eq_ok,
    Store.requireRound_eq_ok]
  refine ⟨(), scripted, round, found, ?_⟩
  rw [there]
  simp only [Except.bind_eq_ok, require_eq_ok]
  exact ⟨(), ⟨trivial, reads⟩, (), completed, rfl⟩

end Barriers

/-! ## Repetitions -/

theorem SearchRoundState.rank_le (state : SearchRoundState) : state.rank ≤ 9 := by
  cases state <;> decide

/-- The call `again` repeats a call accepted in the store: at any later store that left
undisturbed what the call looks at, it is accepted, changes nothing and answers with the
same record. -/
def Store.Repeats (env : RoundEnv) (s : Store) {α : Type} (first again : Transaction Store Error α)
    (undisturbed : Store → Store → Prop) (same : α → α → Prop) : Prop :=
  ∀ s₁ reply, first s = .ok (s₁, reply) → ∀ after s₂, Steps (RoundStep env) s₁ after s₂ →
    undisturbed s₁ s₂ → ∃ reply', again s₂ = .ok (s₂, reply') ∧ same reply reply'

/-- The members of the round are as they were. -/
def MembersUndisturbed (roundId : Uuid) (s t : Store) : Prop :=
  t.membersOf roundId = s.membersOf roundId

/-- The member is as it was. -/
def MemberUndisturbed (roundCandidateId : Uuid) (s t : Store) : Prop :=
  t.roundCandidates.find? roundCandidateId = s.roundCandidates.find? roundCandidateId

/-- Nothing needs to be undisturbed. -/
def Anything (_ _ : Store) : Prop := True

section Repetitions

variable {env : RoundEnv} {s : Store}

theorem RoundCall.roundsConsistent {s' : Store} (env : RoundEnv) (call : RoundCall)
    (consistent : s.RoundsConsistent) (ok : call.run env s = .ok (s', ())) :
    s'.RoundsConsistent := by
  have step : RoundStep env s _ _ := .call call s
  rw [commit_of_ok ok] at step
  exact step.roundsConsistent consistent

variable (consistent : s.RoundsConsistent)
include consistent

theorem repeats_closeSearchRoundIntake (now now' : Timestamp) (roundId : Uuid) :
    s.Repeats env (closeSearchRoundIntake env now roundId)
      (closeSearchRoundIntake env now' roundId) (MembersUndisturbed roundId)
      SearchRound.SameRecord := by
  intro s₁ reply ok after s₂ steps undisturbed
  have consistent₁ := RoundCall.roundsConsistent env (.closeSearchRoundIntake now roundId)
    consistent (Transaction.silent_eq_ok.mpr ⟨reply, ok⟩)
  have closed := closeSearchRoundIntake_recorded ok
  obtain ⟨later, found, same, task, task', kept⟩ := round_later steps consistent₁ closed.found
  obtain ⟨left, moment⟩ := kept.closed closed.closed
  have members : s₂.membersOf roundId = s₁.membersOf roundId := undisturbed
  have declared : later.declaredCandidateCount = reply.declaredCandidateCount :=
    congrArg RoundCreation.declaredCandidateCount same.creation
  refine ⟨later, closeSearchRoundIntake_again ?_ now', same⟩
  exact {
    found := found
    count := by rw [members, closed.count, declared]
    accepted := by
      rw [members]
      exact closed.accepted
    closed := left
    family := by
      rw [members, candidateFamilyHash_of_creation same.creation]
      exact same.forward.candidateFamily _ closed.family
    moment := by
      have moment : later.intakeClosedAt = reply.intakeClosedAt := moment
      rw [moment]
      exact closed.moment }

theorem repeats_recordRoundCandidateBuild (request : RoundCandidateBuildTerminal) :
    s.Repeats env (recordRoundCandidateBuild request) (recordRoundCandidateBuild request)
      (MemberUndisturbed request.roundCandidateId) Eq := by
  intro s₁ reply ok after s₂ steps undisturbed
  have consistent₁ := RoundCall.roundsConsistent env (.recordRoundCandidateBuild request)
    consistent (Transaction.silent_eq_ok.mpr ⟨reply, ok⟩)
  obtain ⟨⟨round, found⟩, recorded⟩ := recordRoundCandidateBuild_recorded ok
  obtain ⟨later, found', _⟩ := round_later steps consistent₁ found
  exact ⟨reply, recordRoundCandidateBuild_again found'
    ⟨undisturbed.trans recorded.found, recorded.bound, recorded.terminal⟩, rfl⟩

theorem repeats_freezeSearchRoundArtifactFamily (request : ArtifactFamilyFreezeRequest) :
    s.Repeats env (freezeSearchRoundArtifactFamily env request)
      (freezeSearchRoundArtifactFamily env request) (MembersUndisturbed request.roundId)
      SearchRound.SameRecord := by
  intro s₁ reply ok after s₂ steps undisturbed
  have consistent₁ := RoundCall.roundsConsistent env (.freezeSearchRoundArtifactFamily request)
    consistent (Transaction.silent_eq_ok.mpr ⟨reply, ok⟩)
  have frozen := freezeSearchRoundArtifactFamily_recorded ok
  obtain ⟨later, found, same, _⟩ := round_later steps consistent₁ frozen.found
  have members : s₂.membersOf request.roundId = s₁.membersOf request.roundId := undisturbed
  have candidates := same.forward.candidateFamily _ frozen.candidates
  refine ⟨later, freezeSearchRoundArtifactFamily_again ?_, same⟩
  exact {
    found := found
    candidates := candidates
    artifacts := same.forward.artifactFamily _ frozen.artifacts
    hashed := by
      rw [members, artifactFamilyHash_congr same.creation
        (candidates.trans frozen.candidates.symm)]
      exact frozen.hashed }

theorem repeats_closeScriptedSearchBarrier {decision : SearchBarrierDecision}
    (reads : decision.ReadsBack) :
    s.Repeats env (closeScriptedSearchBarrier env decision)
      (closeScriptedSearchBarrier env decision) Anything SearchRound.SameRecord := by
  intro s₁ reply ok after s₂ steps _
  have consistent₁ := RoundCall.roundsConsistent env (.closeScriptedSearchBarrier decision)
    consistent (Transaction.silent_eq_ok.mpr ⟨reply, ok⟩)
  obtain ⟨scripted, found, there⟩ := closeScriptedSearchBarrier_recorded ok
  obtain ⟨later, found', same, _, _, kept⟩ := round_later steps consistent₁ found
  exact ⟨later, closeScriptedSearchBarrier_again scripted found' (kept.search _ there) reads, same⟩

theorem repeats_recordScriptedHoldoutReveal (reveal : HoldoutRevealResult) :
    s.Repeats env (recordScriptedHoldoutReveal env reveal)
      (recordScriptedHoldoutReveal env reveal) Anything SearchRound.SameRecord := by
  intro s₁ reply ok after s₂ steps _
  have consistent₁ := RoundCall.roundsConsistent env (.recordScriptedHoldoutReveal reveal)
    consistent (Transaction.silent_eq_ok.mpr ⟨reply, ok⟩)
  obtain ⟨found, there⟩ := recordScriptedHoldoutReveal_recorded ok
  obtain ⟨later, found', same, _, _, kept⟩ := round_later steps consistent₁ found
  exact ⟨later, recordScriptedHoldoutReveal_again found' (kept.reveal _ there), same⟩

theorem repeats_closeScriptedHoldoutBarrier (barrier : RoundBarrierResult) :
    s.Repeats env (closeScriptedHoldoutBarrier env barrier)
      (closeScriptedHoldoutBarrier env barrier) Anything SearchRound.SameRecord := by
  intro s₁ reply ok after s₂ steps _
  have consistent₁ := RoundCall.roundsConsistent env (.closeScriptedHoldoutBarrier barrier)
    consistent (Transaction.silent_eq_ok.mpr ⟨reply, ok⟩)
  obtain ⟨scripted, found, there⟩ := closeScriptedHoldoutBarrier_recorded ok
  obtain ⟨later, found', same, _, _, kept⟩ := round_later steps consistent₁ found
  exact ⟨later, closeScriptedHoldoutBarrier_again scripted found' (kept.holdout _ there), same⟩

theorem repeats_recordScriptedMultipleComparison {result : MultipleComparisonResult}
    (reads : result.ReadsBack) :
    s.Repeats env (recordScriptedMultipleComparison env result)
      (recordScriptedMultipleComparison env result) Anything Eq := by
  intro s₁ reply ok after s₂ steps _
  have consistent₁ := RoundCall.roundsConsistent env
    (.recordScriptedMultipleComparison result) consistent
    (Transaction.silent_eq_ok.mpr ⟨reply, ok⟩)
  obtain ⟨rfl, scripted, ⟨round, found⟩, there⟩ := recordScriptedMultipleComparison_recorded ok
  obtain ⟨later, found', _, _, _, kept⟩ := round_later steps consistent₁ found
  exact ⟨reply, recordScriptedMultipleComparison_again scripted found' (kept.comparison _ there)
    reads, rfl⟩

theorem repeats_finalizeScriptedSearchRound {evidence : RoundEvidenceBundle}
    (reads : evidence.ReadsBack) :
    s.Repeats env (finalizeScriptedSearchRound env evidence)
      (finalizeScriptedSearchRound env evidence) Anything SearchRound.SameRecord := by
  intro s₁ reply ok after s₂ steps _
  have consistent₁ := RoundCall.roundsConsistent env (.finalizeScriptedSearchRound evidence)
    consistent (Transaction.silent_eq_ok.mpr ⟨reply, ok⟩)
  obtain ⟨scripted, found, there, completed⟩ := finalizeScriptedSearchRound_recorded ok
  obtain ⟨later, found', same, _, _, kept⟩ := round_later steps consistent₁ found
  have still : later.state = .scriptedCompleted := by
    rcases same.forward.state with same | climbed
    · rw [same, completed]
    · rw [completed] at climbed
      exact absurd (SearchRoundState.rank_le later.state) (Nat.not_le.mpr climbed)
  exact ⟨later, finalizeScriptedSearchRound_again scripted found' (kept.evidence _ there) still
    reads, same⟩

end Repetitions

/-- **Operations on a round are repeated at any later time.** A call accepted in a store of
a run is accepted again in any later store, changes nothing there and answers with the
same record. The close of an intake and the freeze of the artifact family ask for this
that the members of the round are as the call left them, the record of a build that its
member is; the search barrier, the comparison and the finalization ask that the numbers of
their argument equal the decimals they are stored as. -/
theorem round_operations_replay {env : RoundEnv} {s₀ s : Store}
    {before : List (Option RoundCall)} (start : s₀.NoRounds)
    (reached : Steps (RoundStep env) s₀ before s) :
    (∀ now now' roundId, s.Repeats env (closeSearchRoundIntake env now roundId)
      (closeSearchRoundIntake env now' roundId) (MembersUndisturbed roundId)
      SearchRound.SameRecord) ∧
    (∀ request, s.Repeats env (recordRoundCandidateBuild request)
      (recordRoundCandidateBuild request) (MemberUndisturbed request.roundCandidateId) Eq) ∧
    (∀ request, s.Repeats env (freezeSearchRoundArtifactFamily env request)
      (freezeSearchRoundArtifactFamily env request) (MembersUndisturbed request.roundId)
      SearchRound.SameRecord) ∧
    (∀ decision : SearchBarrierDecision, decision.ReadsBack →
      s.Repeats env (closeScriptedSearchBarrier env decision)
        (closeScriptedSearchBarrier env decision) Anything SearchRound.SameRecord) ∧
    (∀ reveal, s.Repeats env (recordScriptedHoldoutReveal env reveal)
      (recordScriptedHoldoutReveal env reveal) Anything SearchRound.SameRecord) ∧
    (∀ barrier, s.Repeats env (closeScriptedHoldoutBarrier env barrier)
      (closeScriptedHoldoutBarrier env barrier) Anything SearchRound.SameRecord) ∧
    (∀ result : MultipleComparisonResult, result.ReadsBack →
      s.Repeats env (recordScriptedMultipleComparison env result)
        (recordScriptedMultipleComparison env result) Anything Eq) ∧
    ∀ evidence : RoundEvidenceBundle, evidence.ReadsBack →
      s.Repeats env (finalizeScriptedSearchRound env evidence)
        (finalizeScriptedSearchRound env evidence) Anything SearchRound.SameRecord := by
  have consistent := roundsConsistent_of_steps reached start.roundsConsistent
  exact ⟨repeats_closeSearchRoundIntake consistent, repeats_recordRoundCandidateBuild consistent,
    repeats_freezeSearchRoundArtifactFamily consistent,
    fun _ => repeats_closeScriptedSearchBarrier consistent,
    repeats_recordScriptedHoldoutReveal consistent,
    repeats_closeScriptedHoldoutBarrier consistent,
    fun _ => repeats_recordScriptedMultipleComparison consistent,
    fun _ => repeats_finalizeScriptedSearchRound consistent⟩

/-! ## Repetitions that are refused -/

/-- A search barrier that finds the failed build of the first member invalid. -/
def sampleInvalidSummary : SearchBarrierInputSummary :=
  { sampleSummary with
    members := [{ sampleResult 0 with candidateState := .invalid }, sampleResult 1] }

@[inherit_doc sampleInvalidSummary]
def sampleInvalidDecision : SearchBarrierDecision where
  barrier := searchBarrierOf plainEnv sampleInvalidSummary "closer" 0 "search-barrier"
  inputSummary := sampleInvalidSummary
  holdoutFamilyHash := none

/-- From the first build of a closed round to its search barrier. -/
def sampleInvalidSearch : List RoundCall :=
  sampleSearch.take 3 ++ [.closeScriptedSearchBarrier sampleInvalidDecision]

/-- The close of an intake is accepted, and refused once a build has ended. -/
theorem intake_close_refused :
    (∃ reply, closeSearchRoundIntake plainEnv 1 11
        (runRoundCalls plainEnv authorityStore (sampleIntake.take 3)) =
          .ok (runRoundCalls plainEnv authorityStore sampleIntake, reply)) ∧
      closeSearchRoundIntake plainEnv 2 11 (runRoundCalls plainEnv
        (runRoundCalls plainEnv authorityStore sampleIntake) (sampleSearch.take 1)) =
          .error (.conflict "M2a Intake Close requires all Candidates intake_accepted") :=
  ⟨⟨_, rfl⟩, rfl⟩

/-- The record of a build is accepted, and refused once a barrier has moved its member. -/
theorem build_record_refused :
    (∃ reply, recordRoundCandidateBuild (sampleBuild 0)
        (runRoundCalls plainEnv authorityStore sampleIntake) =
          .ok (runRoundCalls plainEnv (runRoundCalls plainEnv authorityStore sampleIntake)
            (sampleSearch.take 1), reply)) ∧
      recordRoundCandidateBuild (sampleBuild 0) (runRoundCalls plainEnv
        (runRoundCalls plainEnv authorityStore sampleIntake) sampleInvalidSearch) =
          .error (.conflict "M2a Candidate already has another Build terminal") :=
  ⟨⟨_, rfl⟩, rfl⟩

/-- **A repetition is refused** after later operations on the round: the close of its
intake after a build, the record of a build after a barrier. -/
theorem round_operations_replay_refused :
    authorityStore.NoRounds ∧
      (Steps (RoundStep plainEnv) authorityStore ((sampleIntake.take 3).map some)
          (runRoundCalls plainEnv authorityStore (sampleIntake.take 3)) ∧
        ¬ (runRoundCalls plainEnv authorityStore (sampleIntake.take 3)).Repeats plainEnv
          (closeSearchRoundIntake plainEnv 1 11) (closeSearchRoundIntake plainEnv 2 11) Anything
          SearchRound.SameRecord) ∧
      Steps (RoundStep plainEnv) authorityStore (sampleIntake.map some)
          (runRoundCalls plainEnv authorityStore sampleIntake) ∧
        ¬ (runRoundCalls plainEnv authorityStore sampleIntake).Repeats plainEnv
          (recordRoundCandidateBuild (sampleBuild 0)) (recordRoundCandidateBuild (sampleBuild 0))
          Anything Eq := by
  refine ⟨noRounds_authorityStore, ⟨steps_runRoundCalls _ _ _, fun repeats => ?_⟩,
    steps_runRoundCalls _ _ _, fun repeats => ?_⟩
  · obtain ⟨⟨reply, accepted⟩, refused⟩ := intake_close_refused
    obtain ⟨reply', again, _⟩ := repeats _ _ accepted _ _
      (steps_runRoundCalls plainEnv _ (sampleSearch.take 1)) trivial
    rw [refused] at again
    cases again
  · obtain ⟨⟨reply, accepted⟩, refused⟩ := build_record_refused
    obtain ⟨reply', again, _⟩ := repeats _ _ accepted _ _
      (steps_runRoundCalls plainEnv _ (sampleInvalidSearch.drop 1)) trivial
    have same : runRoundCalls plainEnv (runRoundCalls plainEnv
        (runRoundCalls plainEnv authorityStore sampleIntake) (sampleSearch.take 1))
        (sampleInvalidSearch.drop 1) = runRoundCalls plainEnv
        (runRoundCalls plainEnv authorityStore sampleIntake) sampleInvalidSearch := rfl
    rw [same, refused] at again
    cases again

/-- Behind its search barrier a round still answers the close of its intake and the
freeze of its artifact family, when the members are as they were. -/
theorem round_operations_replay_behind_barrier :
    (∃ reply, freezeSearchRoundArtifactFamily plainEnv ⟨11, "sha256:0", "sha256:0"⟩
        (runRoundCalls plainEnv authorityStore (sampleIntake ++ sampleSearch)) =
          .ok (runRoundCalls plainEnv authorityStore (sampleIntake ++ sampleSearch), reply)) ∧
      ∃ reply, closeScriptedSearchBarrier plainEnv sampleDecision
        (runRoundCalls plainEnv authorityStore (sampleIntake ++ sampleSearch)) =
          .ok (runRoundCalls plainEnv authorityStore (sampleIntake ++ sampleSearch), reply) := by
  obtain ⟨_, _, freeze, search, _⟩ := round_operations_replay noRounds_authorityStore
    (steps_runRoundCalls plainEnv authorityStore (sampleIntake ++ sampleSearch.take 2))
  obtain ⟨frozen, accepted, _⟩ := freeze ⟨11, "sha256:0", "sha256:0"⟩ _ _ rfl _ _
    (steps_runRoundCalls plainEnv _ (sampleSearch.drop 3)) rfl
  obtain ⟨_, _, _, search, _⟩ := round_operations_replay noRounds_authorityStore
    (steps_runRoundCalls plainEnv authorityStore (sampleIntake ++ sampleSearch.take 3))
  obtain ⟨closed, accepted', _⟩ := search sampleDecision (by decide) _ _ rfl [] _ (.refl _) trivial
  exact ⟨⟨frozen, accepted⟩, closed, accepted'⟩

end HcuAutoOpt
