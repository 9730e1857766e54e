import HcuAutoOpt.Storage.RoundAuthority
import HcuAutoOpt.Storage.JobTermination

/-!
# The moves of a search round

A search round by itself: the round, its task and the rows about it (`RoundPicture`),
and what the operations do to this picture (`RoundMove`). A move is labelled with the
action of the recovery projection that it carries out; budget moves and the
cancellation carry out none.

The rows of a round are always those of one stage of its life (`RoundStage`). The
invariant of a picture is `RoundPicture.Consistent`; `RoundMove.consistent` keeps it and
`RoundMove.advances` says that a move only goes forward.
-/

set_option autoImplicit false

namespace HcuAutoOpt

open Foundation

/-! ## Pictures -/

/-- The rows about one round. -/
structure RoundRows where
  members : List RoundCandidate := []
  search : Option SearchBarrierDecision := none
  reveal : Option HoldoutRevealResult := none
  holdout : Option RoundBarrierResult := none
  comparison : Option MultipleComparisonResult := none
  evidence : Option RoundEvidenceBundle := none
  reservations : List RoundBudgetReservation := []
  ledger : List RoundBudgetLedgerEntry := []

/-- The rows about the round of an identifier. -/
def Store.rowsOf (s : Store) (roundId : Uuid) : RoundRows where
  members := s.membersOf roundId
  search := s.searchDecision roundId
  reveal := s.holdoutReveals.find? roundId
  holdout := s.holdoutBarrier roundId
  comparison := s.multipleComparisons.find? roundId
  evidence := s.roundEvidenceBundles.find? roundId
  reservations := s.reservationsOf roundId
  ledger := s.ledgerOf roundId

/-- A round with its task and its rows. -/
structure RoundPicture where
  round : SearchRound
  task : Task
  rows : RoundRows

/-- The picture of the round of an identifier. -/
def Store.picture (s : Store) (roundId : Uuid) : Option RoundPicture := do
  let round ← s.searchRounds.find? roundId
  let task ← s.tasks.find? round.taskId
  return { round, task, rows := s.rowsOf roundId }

theorem Store.picture_eq_some {s : Store} {roundId : Uuid} {p : RoundPicture} :
    s.picture roundId = some p ↔ s.searchRounds.find? roundId = some p.round ∧
      s.tasks.find? p.round.taskId = some p.task ∧ s.rowsOf roundId = p.rows := by
  obtain ⟨round, task, rows⟩ := p
  simp only [Store.picture, Option.bind_eq_bind, Option.bind_eq_some_iff, Option.pure_def,
    Option.some.injEq, RoundPicture.mk.injEq]
  constructor
  · rintro ⟨_, found, _, tasked, rfl, rfl, same⟩
    exact ⟨found, tasked, same⟩
  · rintro ⟨found, tasked, same⟩
    exact ⟨_, found, _, tasked, rfl, rfl, same⟩

/-- The durable rows that recovery looks at. -/
def RoundPicture.graph (p : RoundPicture) : RoundGraph where
  round := p.round
  members := p.rows.members
  search := p.rows.search
  reveal := p.rows.reveal
  holdout := p.rows.holdout
  comparison := p.rows.comparison
  evidence := p.rows.evidence

/-- The member states that a barrier stores, on the members of its round. -/
def memberStates (items : List BarrierMemberResult) (members : List RoundCandidate) :
    List RoundCandidate :=
  items.foldl
    (fun members item => members.map fun member =>
      if member.roundCandidateId = item.roundCandidateId then member.inState item.candidateState
      else member)
    members

/-- The usage of a round: its members, what is planned and what was settled. -/
def RoundRows.usage (rows : RoundRows) : BudgetUsage :=
  let counted : BudgetUsage := { candidates := rows.members.length }
  let planned := rows.reservations.filter fun row => decide (row.state = .reserved)
  let settled := rows.ledger.filter fun row => decide (row.entryType = .settle)
  settled.foldl (fun usage row => usage.plus row.actual)
    (planned.foldl (fun usage row => usage.plus row.planned) counted)

/-- The terminal of a member that waits for its build. -/
def BuildTerminal.accepted : BuildTerminal := { state := .intakeAccepted }

/-! ## Moves -/

/-- What an operation does to the picture of a round, and the action it carries out. -/
inductive RoundMove (env : RoundEnv) (p : RoundPicture) : Option RoundAction → RoundPicture → Prop
  | join (member : RoundCandidate) (opened : p.round.state = .intakeOpen)
      (accepted : member.toBuildTerminal = .accepted)
      (small : member.ordinal < p.round.declaredCandidateCount)
      (fresh : ∀ other ∈ p.rows.members, other.ordinal ≠ member.ordinal ∧
        other.candidateId ≠ member.candidateId ∧
        other.roundCandidateId ≠ member.roundCandidateId) :
      RoundMove env p (some .awaitCandidateIntake)
        { p with rows.members := p.rows.members ++ [member] }
  | closeIntake (now : Timestamp) (opened : p.round.state = .intakeOpen)
      (count : p.rows.members.length = p.round.declaredCandidateCount)
      (accepted : ∀ member ∈ p.rows.members, member.state = .intakeAccepted) :
      RoundMove env p (some .closeIntake)
        { p with round := p.round.closeIntake now
                            (candidateFamilyHash env p.round p.rows.members) }
  | build (member : RoundCandidate) (terminal : BuildTerminal) (present : member ∈ p.rows.members)
      (waiting : member.state ∉ buildTerminalStates) (ended : terminal.Ended)
      (accepting : p.round.artifactFamilyHash = none ∧
        p.round.state ∈ [SearchRoundState.intakeClosed, .building]) :
      RoundMove env p (some .awaitBuildTerminals)
        { p with round := p.round.startBuilding
                 rows.members := p.rows.members.map fun other =>
                   if other.roundCandidateId = member.roundCandidateId then
                     other.terminate terminal
                   else other }
  | freeze (familyHash : String) (building : p.round.state = .building)
      (hashed : artifactFamilyHash env p.round p.rows.members = .ok familyHash) :
      RoundMove env p (some .freezeArtifactFamily)
        { p with round := p.round.freezeArtifacts familyHash }
  | closeSearch (decision : SearchBarrierDecision) (candidateIds : List Uuid)
      (ready : p.round.state ∈ [SearchRoundState.correctness, .searchMeasuring])
      (decided : searchBarrierDecision env { p.round with state := .searchBarrier } candidateIds
        decision.barrier.members decision.inputSummary.statistics decision.barrier.closedBy
        decision.barrier.closedAt decision.barrier.idempotencyKey = .ok decision) :
      RoundMove env p (some .closeSearchBarrier)
        { p with round := p.round.closeSearch decision.holdoutFamilyHash
                 rows.members := memberStates decision.barrier.members p.rows.members
                 rows.search := some decision }
  | reveal (reveal : HoldoutRevealResult) (search : SearchBarrierDecision)
      (ready : p.round.state = .searchBarrier) (durable : p.rows.search = some search)
      (promoted : search.barrier.outcome = .membersPromoted)
      (bound : reveal.BoundTo p.round search) :
      RoundMove env p (some .recordHoldoutReveal)
        { p with round := p.round.revealHoldout reveal
                 rows.reveal := some reveal }
  | closeHoldout (barrier : RoundBarrierResult) (ready : p.round.state = .holdoutMeasuring) :
      RoundMove env p (some .closeHoldoutBarrier)
        { p with round := p.round.closeHoldout
                 rows.members := memberStates barrier.members p.rows.members
                 rows.holdout := some barrier }
  | compare (result : MultipleComparisonResult) (ready : p.round.state = .holdoutBarrier)
      (first : p.rows.comparison = none) :
      RoundMove env p (some .recordMultipleComparison)
        { p with round := p.round.nextVersion
                 rows.comparison := some result }
  | complete (evidence : RoundEvidenceBundle) (search : SearchBarrierDecision)
      (durable : p.rows.search = some search)
      (path : requireTerminalPath evidence p.round search p.rows.holdout p.rows.comparison = .ok ())
      (settled : ∀ row ∈ p.rows.reservations, row.state ≠ .reserved)
      (hashed : evidence.budgetLedgerHash =
        roundBudgetLedgerHash env p.round.roundId p.rows.reservations p.rows.ledger)
      (unreleasable : evidence.automaticReleaseAllowed = false) :
      RoundMove env p (some .finalizeScriptedRound)
        { round := p.round.complete
          task := p.task.inState .completed
          rows := { p.rows with evidence := some evidence } }
  | cancel (scripted : p.round.runMode = .scripted) (live : p.round.state.isTerminal = false)
      (settled : ∀ row ∈ p.rows.reservations, row.state ≠ .reserved) :
      RoundMove env p none
        { p with round := p.round.cancel
                 task := p.task.inState .cancelled }
  | reserve (request : RoundBudgetReservation) (entry : RoundBudgetLedgerEntry)
      (live : p.round.state.isTerminal = false)
      (fresh : ∀ row ∈ p.rows.reservations, row.reservationId ≠ request.reservationId)
      (reserved : request.state = .reserved)
      (books : entry.entryType = .reserve ∧ entry.reservationId = request.reservationId)
      (within : p.round.budget.violation (p.rows.usage.plus request.planned) = none) :
      RoundMove env p none
        { p with rows.reservations := p.rows.reservations ++ [request]
                 rows.ledger := p.rows.ledger ++ [entry] }
  | settle (reservation : RoundBudgetReservation) (entry : RoundBudgetLedgerEntry)
      (present : reservation ∈ p.rows.reservations) (reserved : reservation.state = .reserved)
      (terminal : entry.entryType ∈ [RoundBudgetEntryType.settle, .release])
      (owner : entry.reservationId = reservation.reservationId)
      (first : ∀ row ∈ p.rows.ledger, row.reservationId = reservation.reservationId →
        row.entryType ∉ [RoundBudgetEntryType.settle, .release]) :
      RoundMove env p none
        { p with
          rows.reservations := p.rows.reservations.map fun row =>
            if row.reservationId = reservation.reservationId then row.close entry.closes else row
          rows.ledger := p.rows.ledger ++ [entry] }

/-! ## Stages -/

/-- The hashes a round carries. -/
def SearchRound.Carries (round : SearchRound)
    (candidateFamily artifactFamily holdoutFamily holdoutPlan : Option String) : Prop :=
  round.candidateFamilyHash = candidateFamily ∧ round.artifactFamilyHash = artifactFamily ∧
  round.holdoutFamilyHash = holdoutFamily ∧ round.holdoutPlanHash = holdoutPlan

/-- The authority rows about a round. -/
def RoundRows.Hold (rows : RoundRows) (search : Option SearchBarrierDecision)
    (reveal : Option HoldoutRevealResult) (holdout : Option RoundBarrierResult)
    (comparison : Option MultipleComparisonResult) (evidence : Option RoundEvidenceBundle) : Prop :=
  rows.search = search ∧ rows.reveal = reveal ∧ rows.holdout = holdout ∧
  rows.comparison = comparison ∧ rows.evidence = evidence

/-- A decision names a holdout family exactly when it promotes somebody, and its outcome
says so. -/
structure SearchBarrierDecision.Decided (decision : SearchBarrierDecision) : Prop where
  family : decision.holdoutFamilyHash = none ↔ decision.barrier.promotedCandidateIds = []
  outcome : decision.barrier.outcome = if decision.barrier.promotedCandidateIds = [] then
    .noPromotableCandidate else .membersPromoted

/-- Every build of the round waits or has ended. -/
def RoundRows.BuildsUnderWay (rows : RoundRows) : Prop :=
  ∀ member ∈ rows.members,
    member.toBuildTerminal = .accepted ∨ member.toBuildTerminal.Ended

/-- The stages of the life of a round, by the rows about it. -/
inductive RoundStage (p : RoundPicture) : SearchRoundState → Prop
  | intakeOpen (hashes : p.round.Carries none none none none)
      (rows : p.rows.Hold none none none none none)
      (waiting : ∀ member ∈ p.rows.members, member.toBuildTerminal = .accepted) :
      RoundStage p .intakeOpen
  | intakeClosed {family : String} (hashes : p.round.Carries (some family) none none none)
      (rows : p.rows.Hold none none none none none)
      (count : p.rows.members.length = p.round.declaredCandidateCount)
      (waiting : ∀ member ∈ p.rows.members, member.toBuildTerminal = .accepted) :
      RoundStage p .intakeClosed
  | building {family : String} (hashes : p.round.Carries (some family) none none none)
      (rows : p.rows.Hold none none none none none)
      (count : p.rows.members.length = p.round.declaredCandidateCount)
      (builds : p.rows.BuildsUnderWay)
      (begun : ∃ member ∈ p.rows.members, member.toBuildTerminal.Ended) :
      RoundStage p .building
  | correctness {family artifacts : String}
      (hashes : p.round.Carries (some family) (some artifacts) none none)
      (rows : p.rows.Hold none none none none none)
      (count : p.rows.members.length = p.round.declaredCandidateCount) :
      RoundStage p .correctness
  | searchBarrier {family artifacts : String} {search : SearchBarrierDecision}
      (hashes : p.round.Carries (some family) (some artifacts) search.holdoutFamilyHash none)
      (rows : p.rows.Hold (some search) none none none none)
      (count : p.rows.members.length = p.round.declaredCandidateCount)
      (decided : search.Decided) :
      RoundStage p .searchBarrier
  | holdoutMeasuring {family artifacts holdoutFamily plan : String}
      {search : SearchBarrierDecision} {reveal : HoldoutRevealResult}
      (hashes : p.round.Carries (some family) (some artifacts) (some holdoutFamily) (some plan))
      (rows : p.rows.Hold (some search) (some reveal) none none none)
      (count : p.rows.members.length = p.round.declaredCandidateCount)
      (decided : search.Decided) (promoted : search.holdoutFamilyHash = some holdoutFamily) :
      RoundStage p .holdoutMeasuring
  | holdoutBarrier {family artifacts holdoutFamily plan : String}
      {search : SearchBarrierDecision} {reveal : HoldoutRevealResult}
      {holdout : RoundBarrierResult} {comparison : Option MultipleComparisonResult}
      (hashes : p.round.Carries (some family) (some artifacts) (some holdoutFamily) (some plan))
      (rows : p.rows.Hold (some search) (some reveal) (some holdout) comparison none)
      (count : p.rows.members.length = p.round.declaredCandidateCount)
      (decided : search.Decided) (promoted : search.holdoutFamilyHash = some holdoutFamily) :
      RoundStage p .holdoutBarrier
  | withoutWinner {family artifacts : String} {search : SearchBarrierDecision}
      {evidence : RoundEvidenceBundle}
      (hashes : p.round.Carries (some family) (some artifacts) none none)
      (rows : p.rows.Hold (some search) none none none (some evidence))
      (count : p.rows.members.length = p.round.declaredCandidateCount)
      (decided : search.Decided) (nobody : search.holdoutFamilyHash = none)
      (reason : evidence.terminalReason = .noPromotableCandidate) :
      RoundStage p .scriptedCompleted
  | completed {family artifacts holdoutFamily plan : String}
      {search : SearchBarrierDecision} {reveal : HoldoutRevealResult}
      {holdout : RoundBarrierResult} {comparison : MultipleComparisonResult}
      {evidence : RoundEvidenceBundle}
      (hashes : p.round.Carries (some family) (some artifacts) (some holdoutFamily) (some plan))
      (rows : p.rows.Hold (some search) (some reveal) (some holdout) (some comparison)
        (some evidence))
      (count : p.rows.members.length = p.round.declaredCandidateCount)
      (decided : search.Decided) (promoted : search.holdoutFamilyHash = some holdoutFamily)
      (reason : evidence.terminalReason = .holdoutCompleted) :
      RoundStage p .scriptedCompleted

/-- The state of the task of a round in the given state. -/
def SearchRoundState.ownTaskState (state : SearchRoundState) : TaskState :=
  if state = .cancelled then .cancelled else state.taskState

/-- The identities of a family are distinct and within the declared count. -/
structure FamilyDistinct (identities : List RoundCandidateIdentity) (declared : Nat) : Prop where
  ordinals : (identities.map RoundCandidateIdentity.ordinal).Nodup
  small : ∀ identity ∈ identities, identity.ordinal < declared
  candidates : (identities.map RoundCandidateIdentity.candidateId).Nodup
  identifiers : (identities.map RoundCandidateIdentity.roundCandidateId).Nodup

/-- The identities of the members of a round. -/
def RoundRows.identities (rows : RoundRows) : List RoundCandidateIdentity :=
  rows.members.map RoundCandidate.toRoundCandidateIdentity

/-- **The invariant of a round**: its rows are those of one stage, which its state names
unless the round was cancelled there. -/
structure RoundPicture.Consistent (p : RoundPicture) : Prop where
  scripted : p.round.runMode = .scripted
  valid : p.round.Valid
  stage : ∃ stage, RoundStage p stage ∧
    (p.round.state = stage ∨ p.round.state = .cancelled ∧ stage ≠ .scriptedCompleted)
  members : FamilyDistinct p.rows.identities p.round.declaredCandidateCount
  task : p.task.state = p.round.state.ownTaskState
  settled : p.round.state.isTerminal = true →
    ∀ row ∈ p.rows.reservations, row.state ≠ .reserved
  unreleasable : ∀ evidence ∈ p.rows.evidence, evidence.automaticReleaseAllowed = false

/-! ## What the moves compute -/

theorem identities_memberStates (items : List BarrierMemberResult)
    (members : List RoundCandidate) :
    (memberStates items members).map RoundCandidate.toRoundCandidateIdentity =
      members.map RoundCandidate.toRoundCandidateIdentity := by
  induction items generalizing members with
  | nil => rfl
  | cons item items ih =>
      rw [memberStates, List.foldl_cons, ← memberStates, ih, List.map_map]
      refine List.map_congr_left fun member _ => ?_
      by_cases same : member.roundCandidateId = item.roundCandidateId <;>
        simp [same, RoundCandidate.inState]

theorem identities_terminate (roundCandidateId : Uuid) (terminal : BuildTerminal)
    (members : List RoundCandidate) :
    (members.map fun other =>
        if other.roundCandidateId = roundCandidateId then other.terminate terminal
        else other).map RoundCandidate.toRoundCandidateIdentity =
      members.map RoundCandidate.toRoundCandidateIdentity := by
  rw [List.map_map]
  refine List.map_congr_left fun member _ => ?_
  by_cases same : member.roundCandidateId = roundCandidateId <;>
    simp [same, RoundCandidate.terminate]

theorem RoundRows.length_identities (rows : RoundRows) :
    rows.identities.length = rows.members.length := List.length_map _

theorem promotedFamilyHash_none {env : RoundEnv} {authority : SearchRound}
    {members : List BarrierMemberResult} {promoted : List Uuid} {family : Option String}
    (ok : promotedFamilyHash env authority members promoted = .ok family) :
    family = none ↔ promoted = [] := by
  unfold promotedFamilyHash at ok
  split at ok
  · rename_i nobody
    cases ok
    simp [nobody]
  · rename_i somebody
    generalize holdoutFamilyHash env authority _ = hashed at ok
    cases hashed with
    | error e => cases ok
    | ok hash =>
        cases ok
        simp [somebody]

/-- A search barrier decision promotes exactly when it freezes a holdout family. -/
theorem searchBarrierDecision_decided {env : RoundEnv} {authority : SearchRound}
    {candidateIds : List Uuid} {members : List BarrierMemberResult}
    {statistics : List CandidateStatistics} {closedBy : String} {closedAt : Int}
    {idempotencyKey : String} {decision : SearchBarrierDecision}
    (ok : searchBarrierDecision env authority candidateIds members statistics closedBy closedAt
      idempotencyKey = .ok decision) : decision.Decided := by
  unfold searchBarrierDecision at ok
  obtain ⟨_, _, ok⟩ := Except.bind_eq_ok.mp ok
  split at ok
  · simp only [Except.bind_eq_ok] at ok
    obtain ⟨_, _, _, _, _, _, _, _, _, _, _, _, _, _, _, _, family, promoted, ok⟩ := ok
    cases ok
    exact ⟨promotedFamilyHash_none promoted, rfl⟩
  · cases ok

/-- A hashed artifact family has only ended builds. -/
theorem artifactFamilyMembers_ended {seen members : List RoundCandidate}
    {family : List ArtifactFamilyMember} (ok : artifactFamilyMembers seen members = .ok family) :
    ∀ member ∈ members, member.state ∈ buildTerminalStates := by
  induction members generalizing seen family with
  | nil => simp
  | cons member members ih =>
      simp only [artifactFamilyMembers, Except.bind_eq_ok] at ok
      obtain ⟨_, _, _, checked, rest, hashed, _⟩ := ok
      simp only [BuildTerminal.checkFamily, Except.bind_eq_ok, require_eq_ok] at checked
      obtain ⟨_, _, _, ended, _⟩ := checked
      intro other present
      rcases List.mem_cons.mp present with rfl | later
      · exact ended.1
      · exact ih hashed other later

theorem artifactFamilyHash_ended {env : RoundEnv} {round : SearchRound}
    {members : List RoundCandidate} {familyHash : String}
    (ok : artifactFamilyHash env round members = .ok familyHash) :
    ∀ member ∈ members, member.state ∈ buildTerminalStates := by
  unfold artifactFamilyHash at ok
  split at ok
  · cases ok
  · simp only [Except.bind_eq_ok] at ok
    obtain ⟨_, _, _, hashed, _⟩ := ok
    intro member present
    exact artifactFamilyMembers_ended hashed member
      ((List.perm_insertionSort _ members).mem_iff.mpr present)

end HcuAutoOpt
