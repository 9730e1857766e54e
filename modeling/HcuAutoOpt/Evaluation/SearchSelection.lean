import HcuAutoOpt.Evaluation.RoundBarriers
import HcuAutoOpt.Foundation.CheckedFolds
import HcuAutoOpt.Foundation.Ranking

/-!
# What a search barrier promotes

The barrier function of the evaluation package ranks the measured members with valid
statistics and a positive mean by their means, and promotes the first of them
(`Selects`). Since the candidates of the statistics are distinct there is one such
ranking, and the decision does not depend on the order in which members and statistics
are passed.

The function checks its input before it builds anything (`SearchChecks`), and the models
of its result check the rest: that every member ended in a state of the search phase, and
that the closer, the time and the key fit their fields (`ClosingFields`).
-/

set_option autoImplicit false

namespace HcuAutoOpt

namespace M2Statistics

open Foundation

/-! ## The function -/

/-- What the fields of `RoundBarrierResult` ask of the closer, the time and the key. -/
def ClosingFields (closedBy : String) (closedAt : DateTime) (idempotencyKey : String) : Prop :=
  closedAt.offset ≠ none ∧ (1 ≤ closedBy.length ∧ closedBy.length ≤ 300) ∧
    8 ≤ idempotencyKey.length ∧ idempotencyKey.length ≤ 300

instance (closedBy : String) (closedAt : DateTime) (idempotencyKey : String) :
    Decidable (ClosingFields closedBy closedAt idempotencyKey) :=
  inferInstanceAs (Decidable (_ ∧ _))

/-- `close_scripted_search_barrier`: the decision, once the closer, the time and the key
fit the fields of its barrier. -/
def closeScriptedSearchBarrier (env : RoundEnv) (authority : SearchRound)
    (expectedCandidateIds : List Uuid) (members : List BarrierMemberResult)
    (statistics : List CandidateStatistics) (closedBy : String) (closedAt : DateTime)
    (idempotencyKey : String) : Except Error SearchBarrierDecision := do
  let decision ← searchBarrierDecision env authority expectedCandidateIds members statistics
    closedBy closedAt.micros idempotencyKey
  require (ClosingFields closedBy closedAt idempotencyKey) (.validationError "RoundBarrierResult")
  return decision

/-- The checks of the function before it builds its result. -/
structure SearchChecks (authority : SearchRound) (expectedCandidateIds : List Uuid)
    (members : List BarrierMemberResult) (statistics : List CandidateStatistics) : Prop where
  round : requireScriptedRound authority .searchBarrier = .ok ()
  families : authority.candidateFamilyHash ≠ none ∧ authority.artifactFamilyHash ≠ none
  expected : expectedCandidateFamily expectedCandidateIds authority.declaredCandidateCount
    "search_candidate_family_invalid" = .ok (expectedCandidateIds.insertionSort (· ≤ ·))
  declared : (expectedCandidateIds.insertionSort (· ≤ ·)).length = authority.declaredCandidateCount
  distinct : orderedMembers members = .ok (byCandidate members)
  covered : (byCandidate members).map BarrierMemberResult.candidateId =
    expectedCandidateIds.insertionSort (· ≤ ·)
  synthetic : ∀ member ∈ byCandidate members, member.synthetic = true
  bound : checkSearchStatistics (byCandidate members) statistics = .ok ()

/-! ## The checks on statistics -/

section Checks

variable {state : RoundCandidateState} {mismatch : String} {members : List BarrierMemberResult}
variable {statistics statistics' : List CandidateStatistics}

/-- The checks that both phases make of their statistics: unique, of exactly the members
measured in the phase, bound to them, and no identity used twice. -/
def checkStatistics (state : RoundCandidateState) (mismatch : String)
    (members : List BarrierMemberResult) (statistics : List CandidateStatistics) :
    Except Error Unit := do
  require ((statistics.map CandidateStatistics.candidateId).Nodup)
    (.evaluationError "statistics_candidate_duplicate")
  require ((∀ item ∈ statistics, ∃ member ∈ members, member.candidateId = item.candidateId ∧
        member.candidateState = state) ∧
      ∀ member ∈ members, member.candidateState = state →
        ∃ item ∈ statistics, item.candidateId = member.candidateId)
    (.evaluationError mismatch)
  require (∀ item ∈ statistics, item.BoundTo members)
    (.evaluationError "statistics_evidence_binding_mismatch")
  require ((statistics.map CandidateStatistics.scriptedPhaseReceiptId).Nodup ∧
      (statistics.map CandidateStatistics.rawEvidenceHash).Nodup ∧
      (statistics.map CandidateStatistics.baselineSampleSetHash).Nodup)
    (.evaluationError "statistics_identity_reused")

theorem checkSearchStatistics_eq (members : List BarrierMemberResult)
    (statistics : List CandidateStatistics) :
    checkSearchStatistics members statistics =
      checkStatistics .searchMeasured "search_statistics_family_mismatch" members statistics := rfl

/-- What the checks say of the statistics. -/
structure StatisticsBound (state : RoundCandidateState) (members : List BarrierMemberResult)
    (statistics : List CandidateStatistics) : Prop where
  distinct : (statistics.map CandidateStatistics.candidateId).Nodup
  measured : ∀ item ∈ statistics, ∃ member ∈ members,
    member.candidateId = item.candidateId ∧ member.candidateState = state
  covers : ∀ member ∈ members, member.candidateState = state →
    ∃ item ∈ statistics, item.candidateId = member.candidateId
  bound : ∀ item ∈ statistics, item.BoundTo members
  fresh : (statistics.map CandidateStatistics.scriptedPhaseReceiptId).Nodup ∧
    (statistics.map CandidateStatistics.rawEvidenceHash).Nodup ∧
    (statistics.map CandidateStatistics.baselineSampleSetHash).Nodup

theorem checkStatistics_eq_ok {u : Unit} :
    checkStatistics state mismatch members statistics = .ok u ↔
      StatisticsBound state members statistics := by
  simp only [checkStatistics, Except.bind_eq_ok, require_eq_ok]
  constructor
  · rintro ⟨_, distinct, _, ⟨measured, covers⟩, _, bound, fresh⟩
    exact ⟨distinct, measured, covers, bound, fresh⟩
  · rintro ⟨distinct, measured, covers, bound, fresh⟩
    exact ⟨(), distinct, (), ⟨measured, covers⟩, (), bound, fresh⟩

theorem checkStatistics_eq_error {e : Error}
    (refused : checkStatistics state mismatch members statistics = .error e) :
    ∃ code, e = .evaluationError code := by
  rcases Except.bind_eq_error.mp refused with refused | ⟨_, -, refused⟩
  · exact ⟨_, (require_eq_error.mp refused).2.symm⟩
  rcases Except.bind_eq_error.mp refused with refused | ⟨_, -, refused⟩
  · exact ⟨_, (require_eq_error.mp refused).2.symm⟩
  rcases Except.bind_eq_error.mp refused with refused | ⟨_, -, refused⟩
  · exact ⟨_, (require_eq_error.mp refused).2.symm⟩
  · exact ⟨_, (require_eq_error.mp refused).2.symm⟩

/-- The order of the statistics does not matter to the checks. -/
theorem checkStatistics_perm (state : RoundCandidateState) (mismatch : String)
    (members : List BarrierMemberResult) (perm : statistics.Perm statistics') :
    checkStatistics state mismatch members statistics =
      checkStatistics state mismatch members statistics' := by
  unfold checkStatistics
  rw [require_congr (perm.map CandidateStatistics.candidateId).nodup_iff,
    require_congr (p := _ ∧ _) (and_congr
      (forall_congr' fun item => imp_congr perm.mem_iff Iff.rfl)
      (forall₃_congr fun member _ _ => exists_congr fun item => and_congr perm.mem_iff Iff.rfl)),
    require_congr (forall_congr' fun item => imp_congr perm.mem_iff Iff.rfl),
    require_congr (and_congr (perm.map CandidateStatistics.scriptedPhaseReceiptId).nodup_iff
      (and_congr (perm.map CandidateStatistics.rawEvidenceHash).nodup_iff
        (perm.map CandidateStatistics.baselineSampleSetHash).nodup_iff))]

end Checks

/-! ## The selection -/

section Selection

variable (members : List BarrierMemberResult)
  (statistics : List CandidateStatistics)

/-- The member was measured, with valid statistics and a positive mean improvement. -/
def Eligible (member : BarrierMemberResult) : Prop :=
  member ∈ members ∧ member.candidateState = .searchMeasured ∧
    ∃ item ∈ statistics, item.candidateId = member.candidateId ∧ item.valid = true ∧
      0 < item.mean

/-- The mean relative improvement of a candidate. -/
def meanOf (candidateId : Uuid) : Rat :=
  ((statistics.find? fun item => item.candidateId = candidateId).map fun item =>
    item.mean).getD 0

/-- The eligible members by their means, the greatest first, the smaller identifier first
among equals. -/
structure IsRanking (ranking : List BarrierMemberResult) : Prop where
  eligible : ∀ member, member ∈ ranking ↔ Eligible members statistics member
  ordered : ranking.Pairwise (Beats (fun member => meanOf statistics member.candidateId)
    BarrierMemberResult.candidateId)

/-- The promoted candidates are those of the first members of the one ranking. -/
def Selects (maxPromoted : Nat) (promoted : List Uuid) : Prop :=
  ∃ ranking, IsRanking members statistics ranking ∧
    (∀ other, IsRanking members statistics other → other = ranking) ∧
    promoted.Perm ((ranking.take (min maxPromoted ranking.length)).map
      BarrierMemberResult.candidateId)

variable {members statistics}

theorem meanOf_of_mem (distinct : (statistics.map CandidateStatistics.candidateId).Nodup)
    {item : CandidateStatistics} (present : item ∈ statistics) :
    meanOf statistics item.candidateId = item.mean := by
  rw [meanOf, (find?_eq_some_iff_of_nodup distinct).mpr ⟨present, rfl⟩]
  rfl

/-- The relation of the function on statistics. -/
abbrev ByMean : CandidateStatistics → CandidateStatistics → Prop :=
  Outranks CandidateStatistics.mean CandidateStatistics.candidateId

/-- The statistics the function ranks. -/
def eligibleStatistics (statistics : List CandidateStatistics) : List CandidateStatistics :=
  statistics.filter fun item => item.valid && decide (0 < item.mean)

theorem selectPromoted_eq (maxPromoted : Nat) (statistics : List CandidateStatistics) :
    selectPromoted maxPromoted statistics =
      ((((eligibleStatistics statistics).insertionSort ByMean).take maxPromoted).map
        CandidateStatistics.candidateId).insertionSort (· ≤ ·) := rfl

variable (checked : StatisticsBound .searchMeasured members statistics)
include checked

/-- The statistics that are ranked are those of the eligible members. -/
theorem mem_eligibleStatistics {candidateId : Uuid} :
    candidateId ∈ (eligibleStatistics statistics).map CandidateStatistics.candidateId ↔
      ∃ member, Eligible members statistics member ∧ member.candidateId = candidateId := by
  simp only [eligibleStatistics, List.mem_map, List.mem_filter, Bool.and_eq_true,
    decide_eq_true_eq]
  constructor
  · rintro ⟨item, ⟨present, valid, positive⟩, rfl⟩
    obtain ⟨member, there, same, measured⟩ := checked.measured item present
    exact ⟨member, ⟨there, measured, item, present, same.symm, valid, positive⟩, same⟩
  · rintro ⟨member, ⟨-, -, item, present, same, valid, positive⟩, rfl⟩
    exact ⟨item, ⟨present, valid, positive⟩, same⟩

/-- The sorted statistics are ranked by the means of their candidates. -/
theorem pairwise_sorted :
    ((((eligibleStatistics statistics).insertionSort ByMean).map
      CandidateStatistics.candidateId)).Pairwise (Beats (meanOf statistics) id) := by
  have perm := List.perm_insertionSort ByMean (eligibleStatistics statistics)
  have sorted := List.pairwise_insertionSort ByMean (eligibleStatistics statistics)
  have apart : ((eligibleStatistics statistics).insertionSort ByMean).Pairwise
      fun a b => a.candidateId ≠ b.candidateId := by
    have distinct : ((eligibleStatistics statistics).map
        CandidateStatistics.candidateId).Nodup :=
      checked.distinct.sublist (List.filter_sublist.map _)
    exact List.pairwise_map.mp ((perm.map CandidateStatistics.candidateId).nodup_iff.mpr distinct)
  rw [List.pairwise_map]
  refine (sorted.and apart).imp_of_mem fun {a b} here there both => ?_
  have mean : ∀ item ∈ (eligibleStatistics statistics).insertionSort ByMean,
      meanOf statistics item.candidateId = item.mean := fun item present =>
    meanOf_of_mem checked.distinct (List.mem_of_mem_filter (perm.mem_iff.mp present))
  have beats := both.1.beats both.2
  simp only [Beats, mean a here, mean b there]
  exact beats

variable (unique : (members.map BarrierMemberResult.candidateId).Nodup)
include unique

/-- The eligible members have a ranking: the order of their statistics. -/
theorem exists_ranking : ∃ ranking, IsRanking members statistics ranking ∧
    ranking.map BarrierMemberResult.candidateId =
      ((eligibleStatistics statistics).insertionSort ByMean).map
        CandidateStatistics.candidateId := by
  classical
  let score := fun member : BarrierMemberResult => meanOf statistics member.candidateId
  let chosen := members.filter fun member => decide (Eligible members statistics member)
  let ranking := chosen.insertionSort (Outranks score BarrierMemberResult.candidateId)
  have perm : ranking.Perm chosen := List.perm_insertionSort _ _
  have eligible : ∀ member, member ∈ ranking ↔ Eligible members statistics member := by
    intro member
    rw [perm.mem_iff, List.mem_filter, decide_eq_true_eq]
    exact ⟨And.right, fun eligible => ⟨eligible.1, eligible⟩⟩
  have apart : ranking.Pairwise fun a b => a.candidateId ≠ b.candidateId :=
    List.pairwise_map.mp ((perm.map BarrierMemberResult.candidateId).nodup_iff.mpr
      (unique.sublist (List.filter_sublist.map _)))
  have ordered : ranking.Pairwise (Beats score BarrierMemberResult.candidateId) :=
    ((List.pairwise_insertionSort _ chosen).and apart).imp fun both => both.1.beats both.2
  refine ⟨ranking, ⟨eligible, ordered⟩, ?_⟩
  have ordered' : (ranking.map BarrierMemberResult.candidateId).Pairwise
      (Beats (meanOf statistics) id) := List.pairwise_map.mpr ordered
  refine eq_of_pairwise_beats ordered' (pairwise_sorted checked) fun candidateId => ?_
  have same := ((List.perm_insertionSort ByMean (eligibleStatistics statistics)).map
    CandidateStatistics.candidateId).mem_iff (a := candidateId)
  rw [same, mem_eligibleStatistics checked, List.mem_map]
  simp only [eligible]

/-- **The function promotes the first members of the ranking.** -/
theorem selects_selectPromoted (maxPromoted : Nat) :
    Selects members statistics maxPromoted (selectPromoted maxPromoted statistics) := by
  obtain ⟨ranking, isRanking, same⟩ := exists_ranking checked unique
  refine ⟨ranking, isRanking, fun other isOther => ?_, ?_⟩
  · exact eq_of_pairwise_beats isOther.ordered isRanking.ordered fun member =>
      (isOther.eligible member).trans (isRanking.eligible member).symm
  · rw [selectPromoted_eq]
    refine (List.perm_insertionSort _ _).trans ?_
    rw [List.map_take, List.map_take, ← same, ← List.length_map BarrierMemberResult.candidateId,
      ← List.take_eq_take_min]

end Selection

/-! ## The order of the input -/

theorem expectedCandidateFamily_eq_ok {candidateIds family : List Uuid} {maximum : Nat}
    {errorCode : String} :
    expectedCandidateFamily candidateIds maximum errorCode = .ok family ↔
      ((1 ≤ candidateIds.length ∧ candidateIds.length ≤ maximum) ∧ candidateIds.Nodup) ∧
        family = candidateIds.insertionSort (· ≤ ·) := by
  simp only [expectedCandidateFamily, Except.bind_eq_ok, require_eq_ok, List.length_insertionSort,
    (List.perm_insertionSort _ candidateIds).nodup_iff]
  constructor
  · rintro ⟨_, fits, ok⟩
    cases ok
    exact ⟨fits, rfl⟩
  · rintro ⟨fits, rfl⟩
    exact ⟨(), fits, rfl⟩

theorem nodup_byCandidate {members : List BarrierMemberResult} :
    ((byCandidate members).map BarrierMemberResult.candidateId).Nodup ↔
      (members.map BarrierMemberResult.candidateId).Nodup :=
  ((List.perm_insertionSort _ members).map BarrierMemberResult.candidateId).nodup_iff

theorem orderedMembers_eq_ok {members items : List BarrierMemberResult} :
    orderedMembers members = .ok items ↔
      (members ≠ [] ∧ (members.map BarrierMemberResult.candidateId).Nodup) ∧
        items = byCandidate members := by
  have filled : byCandidate members ≠ [] ↔ members ≠ [] :=
    not_congr ⟨fun empty => List.nil_perm.mp (empty ▸ List.perm_insertionSort _ members),
      fun empty => by rw [empty]; rfl⟩
  simp only [orderedMembers, Except.bind_eq_ok, require_eq_ok, filled, nodup_byCandidate]
  constructor
  · rintro ⟨_, fits, ok⟩
    cases ok
    exact ⟨fits, rfl⟩
  · rintro ⟨fits, rfl⟩
    exact ⟨(), fits, rfl⟩

theorem orderedMembers_perm {members members' : List BarrierMemberResult}
    (perm : members.Perm members') : orderedMembers members = orderedMembers members' := by
  by_cases distinct : (members.map BarrierMemberResult.candidateId).Nodup
  · have same : byCandidate members = byCandidate members' :=
      insertionSort_tag_eq_of_perm BarrierMemberResult.candidateId perm distinct
    simp only [orderedMembers, same]
  · have distinct' : ¬(members'.map BarrierMemberResult.candidateId).Nodup := fun nodup =>
      distinct ((perm.map BarrierMemberResult.candidateId).nodup_iff.mpr nodup)
    rw [← nodup_byCandidate] at distinct distinct'
    simp only [orderedMembers, require, distinct, distinct', and_false, if_false]
    rfl

theorem selectPromoted_perm (maxPromoted : Nat)
    {statistics statistics' : List CandidateStatistics} (perm : statistics.Perm statistics')
    (distinct : (statistics.map CandidateStatistics.candidateId).Nodup) :
    selectPromoted maxPromoted statistics = selectPromoted maxPromoted statistics' := by
  have same : (eligibleStatistics statistics).insertionSort ByMean =
      (eligibleStatistics statistics').insertionSort ByMean := by
    refine insertionSort_eq_of_perm (perm.filter _) fun a here b there ranks ranks' => ?_
    exact List.inj_on_of_nodup_map distinct (List.mem_of_mem_filter here)
      (List.mem_of_mem_filter there) (ranks.tag_eq ranks')
  rw [selectPromoted_eq, selectPromoted_eq, same]

theorem meansExist_perm {statistics statistics' : List CandidateStatistics}
    (perm : statistics.Perm statistics') : MeansExist statistics ↔ MeansExist statistics' :=
  forall_congr' fun _ => imp_congr perm.mem_iff Iff.rfl

/-- **The decision does not depend on the order of members and statistics.** -/
theorem searchBarrierDecision_perm (env : RoundEnv) (authority : SearchRound)
    (expectedCandidateIds : List Uuid) {members members' : List BarrierMemberResult}
    {statistics statistics' : List CandidateStatistics} (closedBy : String) (closedAt : Int)
    (idempotencyKey : String) (sameMembers : members.Perm members')
    (sameStatistics : statistics.Perm statistics') :
    searchBarrierDecision env authority expectedCandidateIds members' statistics' closedBy
        closedAt idempotencyKey =
      searchBarrierDecision env authority expectedCandidateIds members statistics closedBy
        closedAt idempotencyKey := by
  unfold searchBarrierDecision
  rw [orderedMembers_perm sameMembers]
  refine Except.bind_congr_ok fun _ _ => ?_
  split
  · refine Except.bind_congr_ok fun expected _ => Except.bind_congr_ok fun _ _ => ?_
    refine Except.bind_congr_ok fun items _ => Except.bind_congr_ok fun _ _ => ?_
    refine Except.bind_congr_ok fun _ _ => ?_
    rw [checkSearchStatistics_eq, checkSearchStatistics_eq,
      checkStatistics_perm .searchMeasured _ items sameStatistics]
    refine Except.bind_congr_ok fun _ checked => ?_
    have distinct := (checkStatistics_eq_ok.mp checked).distinct
    have distinct' := (sameStatistics.map CandidateStatistics.candidateId).nodup_iff.mpr distinct
    rw [require_congr (meansExist_perm sameStatistics),
      selectPromoted_perm _ sameStatistics distinct',
      insertionSort_tag_eq_of_perm CandidateStatistics.candidateId sameStatistics distinct']
  · rfl

/-! ## The models of the result -/

section Result

variable {env : RoundEnv} {authority : SearchRound} {expectedCandidateIds : List Uuid}
variable {members : List BarrierMemberResult} {statistics : List CandidateStatistics}
variable {artifactFamily : String} {closedBy : String} {closedAt : Int} {idempotencyKey : String}

/-- The input summary the function builds. -/
def searchSummary (authority : SearchRound) (artifactFamily : String)
    (items : List BarrierMemberResult) (statistics : List CandidateStatistics) :
    SearchBarrierInputSummary where
  roundId := authority.roundId
  artifactFamilyHash := artifactFamily
  selectionRuleHash := authority.selectionRuleHash
  members := items
  statistics := statistics.insertionSort fun a b => a.candidateId ≤ b.candidateId
  promotedCandidateIds := selectPromoted authority.maxPromoted statistics

/-- The function accepts an input that passes its checks, when its barrier passes the
validator and the holdout family can be hashed. -/
theorem searchBarrierDecision_eq_ok {decision : SearchBarrierDecision} :
    searchBarrierDecision env authority expectedCandidateIds members statistics closedBy closedAt
        idempotencyKey = .ok decision ↔
      SearchChecks authority expectedCandidateIds members statistics ∧ MeansExist statistics ∧
      ∃ artifactFamily family, authority.artifactFamilyHash = some artifactFamily ∧
        (searchBarrierOf env (searchSummary authority artifactFamily (byCandidate members)
          statistics) closedBy closedAt idempotencyKey).Valid ∧
        promotedFamilyHash env authority (byCandidate members)
          (selectPromoted authority.maxPromoted statistics) = .ok family ∧
        decision = ⟨searchBarrierOf env (searchSummary authority artifactFamily
          (byCandidate members) statistics) closedBy closedAt idempotencyKey,
          searchSummary authority artifactFamily (byCandidate members) statistics, family⟩ := by
  unfold searchBarrierDecision
  rw [Except.bind_eq_ok]
  constructor
  · rintro ⟨_, round, ok⟩
    split at ok
    · rename_i candidateFamily artifactFamily candidates artifacts
      simp only [Except.bind_eq_ok, require_eq_ok] at ok
      obtain ⟨expected, family, _, declared, items, ordered, _, covered, _, synthetic, _, bound,
        _, means, _, valid, promoted, hashed, ok⟩ := ok
      cases ok
      obtain ⟨-, rfl⟩ := expectedCandidateFamily_eq_ok.mp family
      obtain ⟨-, rfl⟩ := orderedMembers_eq_ok.mp ordered
      exact ⟨⟨round, ⟨by simp [candidates], by simp [artifacts]⟩, family, declared, ordered, covered,
        synthetic, bound⟩, means, artifactFamily, promoted, artifacts, valid, hashed, rfl⟩
    · cases ok
  · rintro ⟨checks, means, artifactFamily, family, artifacts, valid, hashed, rfl⟩
    obtain ⟨candidateFamily, candidates⟩ := Option.ne_none_iff_exists'.mp checks.families.1
    refine ⟨(), checks.round, ?_⟩
    simp only [candidates, artifacts, Except.bind_eq_ok, require_eq_ok]
    exact ⟨_, checks.expected, (), checks.declared, _, checks.distinct, (), checks.covered, (),
      checks.synthetic, (), checks.bound, (), means, (), valid, family, hashed, rfl⟩

/-- An input that passes the checks is refused for its means, or else by the validator. -/
theorem searchBarrierDecision_refused
    (checks : SearchChecks authority expectedCandidateIds members statistics)
    (artifacts : authority.artifactFamilyHash = some artifactFamily)
    (refused : MeansExist statistics →
      ¬(searchBarrierOf env (searchSummary authority artifactFamily
        (byCandidate members) statistics) closedBy closedAt idempotencyKey).Valid) :
    searchBarrierDecision env authority expectedCandidateIds members statistics closedBy closedAt
        idempotencyKey =
      .error (if MeansExist statistics then .validationError "RoundBarrierResult"
        else .overflowError "intermediate overflow in fsum") := by
  obtain ⟨candidateFamily, candidates⟩ := Option.ne_none_iff_exists'.mp checks.families.1
  unfold searchBarrierDecision
  refine Except.bind_eq_error.mpr (.inr ⟨(), checks.round, ?_⟩)
  simp only [candidates, artifacts]
  refine Except.bind_eq_error.mpr (.inr ⟨_, checks.expected, ?_⟩)
  refine Except.bind_eq_error.mpr (.inr ⟨(), require_eq_ok.mpr checks.declared, ?_⟩)
  refine Except.bind_eq_error.mpr (.inr ⟨_, checks.distinct, ?_⟩)
  refine Except.bind_eq_error.mpr (.inr ⟨(), require_eq_ok.mpr checks.covered, ?_⟩)
  refine Except.bind_eq_error.mpr (.inr ⟨(), require_eq_ok.mpr checks.synthetic, ?_⟩)
  refine Except.bind_eq_error.mpr (.inr ⟨(), checks.bound, ?_⟩)
  by_cases means : MeansExist statistics
  · rw [if_pos means]
    refine Except.bind_eq_error.mpr (.inr ⟨(), require_eq_ok.mpr means, ?_⟩)
    exact Except.bind_eq_error.mpr (.inl (require_eq_error.mpr ⟨refused means, rfl⟩))
  · rw [if_neg means]
    exact Except.bind_eq_error.mpr (.inl (require_eq_error.mpr ⟨means, rfl⟩))

variable (checks : SearchChecks authority expectedCandidateIds members statistics)
include checks

theorem SearchChecks.statisticsBound :
    StatisticsBound .searchMeasured (byCandidate members) statistics :=
  checkStatistics_eq_ok.mp checks.bound

theorem SearchChecks.unique :
    ((byCandidate members).map BarrierMemberResult.candidateId).Nodup :=
  nodup_byCandidate.mpr (orderedMembers_eq_ok.mp checks.distinct).1.2

theorem SearchChecks.length : (byCandidate members).length = authority.declaredCandidateCount := by
  rw [← List.length_map BarrierMemberResult.candidateId, checks.covered, checks.declared]

/-- A promoted candidate is that of a measured member. -/
theorem SearchChecks.promoted_measured {member : BarrierMemberResult}
    (present : member ∈ byCandidate members)
    (promoted : member.candidateId ∈ selectPromoted authority.maxPromoted statistics) :
    member.candidateState = .searchMeasured := by
  obtain ⟨ranking, isRanking, -, perm⟩ :=
    selects_selectPromoted checks.statisticsBound checks.unique authority.maxPromoted
  obtain ⟨other, ranked, same⟩ := List.mem_map.mp (perm.mem_iff.mp promoted)
  obtain ⟨there, measured, -⟩ := (isRanking.eligible other).mp (List.mem_of_mem_take ranked)
  rw [← List.inj_on_of_nodup_map checks.unique there present same]
  exact measured

theorem SearchChecks.promoted_subset :
    selectPromoted authority.maxPromoted statistics ⊆
      (byCandidate members).map BarrierMemberResult.candidateId := by
  obtain ⟨ranking, isRanking, -, perm⟩ :=
    selects_selectPromoted checks.statisticsBound checks.unique authority.maxPromoted
  intro candidateId promoted
  obtain ⟨other, ranked, rfl⟩ := List.mem_map.mp (perm.mem_iff.mp promoted)
  exact List.mem_map_of_mem ((isRanking.eligible other).mp (List.mem_of_mem_take ranked)).1

/-- The promoted identifiers are in increasing order. -/
theorem SearchChecks.promoted_pairwise :
    (selectPromoted authority.maxPromoted statistics).Pairwise (· < ·) := by
  have sorted : ((((eligibleStatistics statistics).insertionSort ByMean).take
      authority.maxPromoted).map CandidateStatistics.candidateId).Nodup := by
    have perm := List.perm_insertionSort ByMean (eligibleStatistics statistics)
    refine List.Nodup.sublist ((List.take_sublist _ _).map _) ?_
    refine (perm.map CandidateStatistics.candidateId).nodup_iff.mpr ?_
    exact checks.statisticsBound.distinct.sublist (List.filter_sublist.map _)
  rw [selectPromoted_eq]
  have ordered := pairwise_lt_insertionSort_tag (id : Uuid → Uuid) (by rwa [List.map_id])
  rwa [List.map_id] at ordered

omit checks in
theorem length_selectPromoted_le (maxPromoted : Nat) :
    (selectPromoted maxPromoted statistics).length ≤ maxPromoted := by
  rw [selectPromoted_eq, List.length_insertionSort, List.length_map]
  exact List.length_take_le _ _

omit checks in
theorem mem_byCandidate {member : BarrierMemberResult} :
    member ∈ byCandidate members ↔ member ∈ members :=
  (List.perm_insertionSort _ members).mem_iff

variable (round : authority.Valid) (valid : ∀ member ∈ members, member.Valid)
include round valid

variable (env artifactFamily closedBy closedAt idempotencyKey) in
/-- **Of the validators of the result only the states of the members can refuse** an input
that passes the checks. -/
theorem SearchChecks.barrier_valid_iff :
    (searchBarrierOf env (searchSummary authority artifactFamily (byCandidate members)
      statistics) closedBy closedAt idempotencyKey).Valid ↔
      ∀ member ∈ members,
        member.candidateState ∈ RoundBarrierResult.terminalStates .search := by
  constructor
  · rintro ⟨-, -, -, -, -, -, -, -, -, states, -⟩ member present
    exact states member (mem_byCandidate.mpr present)
  · intro states
    have length := checks.length
    obtain ⟨atLeast, atMost⟩ := round.candidateCount
    have ordered := pairwise_lt_insertionSort_tag BarrierMemberResult.candidateId
      (nodup_byCandidate.mp checks.unique)
    refine ⟨⟨?_, ?_⟩, fun member present => valid member (mem_byCandidate.mp present),
      iff_of_true rfl rfl, checks.synthetic, rfl, ordered, ?_, checks.promoted_pairwise,
      checks.promoted_subset, fun member present => states member (mem_byCandidate.mp present),
      rfl, fun member present promoted => checks.promoted_measured present promoted⟩
    · exact le_trans (by decide) (length ▸ atLeast)
    · exact length ▸ atMost
    · exact (length_selectPromoted_le authority.maxPromoted).trans round.promotedCount.2

omit round in
variable (env) in
/-- The holdout family of the promoted members can be hashed. -/
theorem SearchChecks.promotedFamilyHash_ok :
    ∃ family, promotedFamilyHash env authority (byCandidate members)
      (selectPromoted authority.maxPromoted statistics) = .ok family := by
  unfold promotedFamilyHash
  split
  · exact ⟨none, rfl⟩
  · rename_i promotes
    obtain ⟨candidateFamily, candidates⟩ := Option.ne_none_iff_exists'.mp checks.families.1
    obtain ⟨artifactFamily, artifacts⟩ := Option.ne_none_iff_exists'.mp checks.families.2
    set promoted := selectPromoted authority.maxPromoted statistics
    set chosen := (byCandidate members).filter fun member =>
      decide (member.candidateId ∈ promoted) with chosenIs
    have filled : chosen ≠ [] := by
      obtain ⟨candidateId, there⟩ := List.exists_mem_of_ne_nil promoted promotes
      obtain ⟨member, present, same⟩ := List.mem_map.mp (checks.promoted_subset there)
      refine List.ne_nil_of_mem (a := member) (List.mem_filter.mpr ⟨present, ?_⟩)
      exact decide_eq_true (same ▸ there)
    have ordered : orderedMembers chosen = .ok (byCandidate chosen) :=
      orderedMembers_eq_ok.mpr
        ⟨⟨filled, checks.unique.sublist (List.filter_sublist.map _)⟩, rfl⟩
    have frozen : ∀ member ∈ byCandidate chosen, ∃ entry, member.holdoutMember = some entry := by
      intro member present
      obtain ⟨there, promotes⟩ := List.mem_filter.mp (mem_byCandidate.mp present)
      have measured := checks.promoted_measured there (of_decide_eq_true promotes)
      obtain ⟨paired, -, complete, -⟩ := valid member (mem_byCandidate.mp there)
      have isMeasured : member.Measured := by simp [BarrierMemberResult.Measured, measured]
      obtain ⟨artifactId, identified⟩ :=
        Option.ne_none_iff_exists'.mp (complete isMeasured).1
      obtain ⟨artifactHash, hashed⟩ := Option.ne_none_iff_exists'.mp
        (fun absent => (complete isMeasured).1 (paired.mpr absent))
      exact ⟨⟨member.candidateId, artifactId, artifactHash⟩, by
        simp only [BarrierMemberResult.holdoutMember, identified, hashed]⟩
    obtain ⟨family, entries, -⟩ := mapM_eq_some_of_forall frozen
    refine ⟨some (env.digest (.holdoutFamily authority.roundId candidateFamily artifactFamily
      authority.selectionRuleHash family)), ?_⟩
    have hashed : holdoutFamilyHash env authority chosen = .ok (env.digest (.holdoutFamily
        authority.roundId candidateFamily artifactFamily authority.selectionRuleHash family)) := by
      simp only [holdoutFamilyHash, ordered, candidates, artifacts, entries, bind, Except.bind, pure,
        Except.pure]
    rw [hashed]
    rfl

end Result

/-! ## The result -/

/-- **What a search barrier promotes.** An accepted barrier promotes the candidates of the
first `maxPromoted` members of the one ranking of the eligible members. The answer does not
depend on the order of members and statistics. An input that passes the checks raises the
overflow of a mean that has no value. Else it is accepted exactly when every member ended in a
state of the search phase and the closer, the time and the key fit their fields; otherwise the
validator of the barrier refuses it. -/
theorem search_selection (env : RoundEnv) (authority : SearchRound)
    (expectedCandidateIds : List Uuid) (members : List BarrierMemberResult)
    (statistics : List CandidateStatistics) (closedBy : String) (closedAt : DateTime)
    (idempotencyKey : String) :
    (∀ decision, closeScriptedSearchBarrier env authority expectedCandidateIds members statistics
        closedBy closedAt idempotencyKey = .ok decision →
      Selects members statistics authority.maxPromoted
          decision.barrier.promotedCandidateIds ∧
        ∀ candidateId ∈ decision.barrier.promotedCandidateIds, ∃ member ∈ members,
          member.candidateId = candidateId ∧ member.candidateState = .searchMeasured) ∧
    (∀ members' statistics', members.Perm members' → statistics.Perm statistics' →
      closeScriptedSearchBarrier env authority expectedCandidateIds members' statistics' closedBy
          closedAt idempotencyKey =
        closeScriptedSearchBarrier env authority expectedCandidateIds members statistics closedBy
          closedAt idempotencyKey) ∧
    (authority.Valid → (∀ member ∈ members, member.Valid) →
      SearchChecks authority expectedCandidateIds members statistics →
      if ¬MeansExist statistics then
        closeScriptedSearchBarrier env authority expectedCandidateIds members statistics closedBy
          closedAt idempotencyKey = .error (.overflowError "intermediate overflow in fsum")
      else if (∀ member ∈ members,
            member.candidateState ∈ RoundBarrierResult.terminalStates .search) ∧
          ClosingFields closedBy closedAt idempotencyKey then
        ∃ decision, closeScriptedSearchBarrier env authority expectedCandidateIds members
          statistics closedBy closedAt idempotencyKey = .ok decision
      else closeScriptedSearchBarrier env authority expectedCandidateIds members statistics
        closedBy closedAt idempotencyKey = .error (.validationError "RoundBarrierResult")) := by
  refine ⟨fun decision ok => ?_, fun members' statistics' sameMembers sameStatistics => ?_,
    fun round valid checks => ?_⟩
  · obtain ⟨_, decided, ok⟩ := Except.bind_eq_ok.mp ok
    obtain ⟨_, -, ok⟩ := Except.bind_eq_ok.mp ok
    cases ok
    obtain ⟨checks, -, artifactFamily, family, -, -, -, rfl⟩ :=
      searchBarrierDecision_eq_ok.mp decided
    obtain ⟨ranking, ⟨eligible, ordered⟩, only, perm⟩ :=
      selects_selectPromoted checks.statisticsBound checks.unique
        authority.maxPromoted
    have same : ∀ member, Eligible (byCandidate members) statistics member ↔
        Eligible members statistics member := fun member =>
      and_congr_left fun _ => mem_byCandidate
    refine ⟨⟨ranking, ⟨fun member => (eligible member).trans (same member), ordered⟩,
      fun other isOther => only other ⟨fun member => (isOther.eligible member).trans
        (same member).symm, isOther.ordered⟩, perm⟩, fun candidateId promoted => ?_⟩
    obtain ⟨member, ranked, rfl⟩ := List.mem_map.mp (perm.mem_iff.mp promoted)
    obtain ⟨present, measured, -⟩ :=
      (same member).mp ((eligible member).mp (List.mem_of_mem_take ranked))
    exact ⟨member, present, rfl, measured⟩
  · unfold closeScriptedSearchBarrier
    rw [searchBarrierDecision_perm env authority expectedCandidateIds closedBy closedAt.micros
      idempotencyKey sameMembers sameStatistics]
  · obtain ⟨artifactFamily, artifacts⟩ := Option.ne_none_iff_exists'.mp checks.families.2
    have accepts := checks.barrier_valid_iff env artifactFamily closedBy closedAt.micros
      idempotencyKey round valid
    obtain ⟨family, hashed⟩ := checks.promotedFamilyHash_ok env valid
    by_cases means : MeansExist statistics
    swap
    · rw [if_pos means]
      refine Except.bind_eq_error.mpr (.inl ?_)
      rw [searchBarrierDecision_refused checks artifacts fun exist => absurd exist means,
        if_neg means]
    rw [if_neg (not_not.mpr means)]
    by_cases states : ∀ member ∈ members,
        member.candidateState ∈ RoundBarrierResult.terminalStates .search
    · have decided := searchBarrierDecision_eq_ok.mpr
        ⟨checks, means, artifactFamily, family, artifacts, accepts.mpr states, hashed, rfl⟩
      split
      · rename_i holds
        exact ⟨_, Except.bind_eq_ok.mpr ⟨_, decided, Except.bind_eq_ok.mpr
          ⟨(), require_eq_ok.mpr holds.2, rfl⟩⟩⟩
      · rename_i misfits
        refine Except.bind_eq_error.mpr (.inr ⟨_, decided, Except.bind_eq_error.mpr (.inl ?_)⟩)
        exact require_eq_error.mpr ⟨fun fits => misfits ⟨states, fits⟩, rfl⟩
    · rw [if_neg fun both => states both.1]
      refine Except.bind_eq_error.mpr (.inl ?_)
      rw [searchBarrierDecision_refused checks artifacts fun _ valid => states (accepts.mp valid),
        if_pos means]

/-! ### A round of two members -/

/-- One digest for all documents. -/
def sameDigestEnv : RoundEnv where
  digest _ := "sha256:0"
  uuid5 _ := 900
  revealAccepted _ := true
  scriptedFinalizer := none

/-- A round that waits for its search barrier. -/
def barrierRound : SearchRound where
  roundId := 11
  taskId := 10
  idempotencyKey := "round"
  runMode := .scripted
  targetSnapshotId := 3
  stage0RunId := 2
  stage0ProtocolHash := "protocol"
  baselineEpochId := 5
  hotspotId := 6
  replacementPoint := "point"
  workloadId := "workload"
  workloadHash := "workload"
  configurationHash := "configuration"
  imageDigest := "image"
  adapterProfile := "adapter"
  declaredCandidateCount := 2
  maxPromoted := 1
  familyAlpha := ⟨3, 50, by decide, by decide⟩
  searchPlanHash := "search-plan"
  holdoutPlanCommitment := "commitment"
  holdoutPlanAuthorityId := "authority"
  holdoutPlanAuthorityHash := "authority"
  selectionRuleHash := "rule"
  budget := {
    maxCandidates := 2, maxBuildAttempts := 4, maxCorrectnessAttempts := 4, maxSearchSamples := 4
    maxHoldoutSamples := 4, maxWallSeconds := 100, maxExclusiveLeaseSeconds := 100 }
  createdAt := 0
  state := .searchBarrier
  candidateFamilyHash := some "candidates"
  artifactFamilyHash := some "artifacts"

/-- A measured member. -/
def measuredMember (candidateId : Uuid) : BarrierMemberResult where
  roundCandidateId := candidateId
  candidateId := candidateId
  candidateState := .searchMeasured
  artifactId := some candidateId
  artifactHash := some "artifact"
  correctnessEvidenceHash := some "correct"
  scriptedPhaseReceiptId := some candidateId
  budgetUsageEvidenceHash := "usage"
  cleanupEvidenceHash := some "cleanup"

/-- The statistics of a measured member with one effect. -/
def steadyStatistics (candidateId : Uuid) (name : String) (effect : Rat) : CandidateStatistics where
  candidateId := candidateId
  scriptedPhaseReceiptId := candidateId
  correctnessEvidenceHash := "correct"
  rawEvidenceHash := name
  baselineSampleSetHash := name
  restartEffects := List.replicate 4 effect
  baselineRestartMeansNs := List.replicate 4 100
  stage0MdeRatio := 1 / 100

/-- A failed member. -/
def failedMember (candidateId : Uuid) (state : RoundCandidateState) : BarrierMemberResult where
  roundCandidateId := candidateId
  candidateId := candidateId
  candidateState := state
  artifactId := some candidateId
  artifactHash := some "artifact"
  correctnessEvidenceHash := some "correct"
  failureEvidenceHash := some "log"
  budgetUsageEvidenceHash := "usage"

/-- Two failed members, one of them in a state of the holdout phase. -/
def strayMembers : List BarrierMemberResult :=
  [failedMember 30 .buildFailed, failedMember 31 .holdoutFailed]

/-- Two measured members, of which the better one is promoted. -/
theorem search_selection_best : ∃ decision,
    closeScriptedSearchBarrier sameDigestEnv barrierRound [31, 30]
        [measuredMember 31, measuredMember 30]
        [steadyStatistics 30 "a" (1 / 16), steadyStatistics 31 "b" (1 / 8)] "closer" ⟨0, some 0⟩
        "search-barrier" = .ok decision ∧
      Selects [measuredMember 31, measuredMember 30]
        [steadyStatistics 30 "a" (1 / 16), steadyStatistics 31 "b" (1 / 8)] 1
        decision.barrier.promotedCandidateIds ∧
      decision.barrier.promotedCandidateIds = [31] := by
  have result := search_selection sameDigestEnv barrierRound [31, 30]
    [measuredMember 31, measuredMember 30]
    [steadyStatistics 30 "a" (1 / 16), steadyStatistics 31 "b" (1 / 8)] "closer" ⟨0, some 0⟩
    "search-barrier"
  have accepted := result.2.2 (by decide) (by decide) ⟨rfl, by decide, rfl, rfl, rfl, rfl,
    by decide, checkStatistics_eq_ok.mpr ⟨by decide, by decide, by decide, by decide,
      by decide⟩⟩
  rw [if_neg (by decide +kernel), if_pos (by decide)] at accepted
  obtain ⟨decision, ok⟩ := accepted
  refine ⟨decision, ok, (result.1 decision ok).1, ?_⟩
  obtain ⟨_, decided, ok⟩ := Except.bind_eq_ok.mp ok
  obtain ⟨_, -, ok⟩ := Except.bind_eq_ok.mp ok
  cases ok
  obtain ⟨-, -, _, _, -, -, -, rfl⟩ := searchBarrierDecision_eq_ok.mp decided
  change selectPromoted 1 _ = [31]
  decide +kernel

/-- A member in a state of the holdout phase passes the checks of the function and is
refused by the validator of its result. -/
theorem stray_member_refused :
    barrierRound.Valid ∧ (∀ member ∈ strayMembers, member.Valid) ∧
      ClosingFields "closer" ⟨0, some 0⟩ "search-barrier" ∧
      SearchChecks barrierRound [30, 31] strayMembers [] ∧
      closeScriptedSearchBarrier sameDigestEnv barrierRound [30, 31] strayMembers [] "closer"
        ⟨0, some 0⟩ "search-barrier" = .error (.validationError "RoundBarrierResult") := by
  have checks : SearchChecks barrierRound [30, 31] strayMembers [] :=
    ⟨rfl, by decide, rfl, rfl, rfl, rfl, by decide, rfl⟩
  refine ⟨by decide, by decide, by decide, checks, ?_⟩
  refine Except.bind_eq_error.mpr (.inl
    ((searchBarrierDecision_refused checks rfl fun _ => ?_).trans (by rw [if_pos (by decide)])))
  decide

end M2Statistics

end HcuAutoOpt
