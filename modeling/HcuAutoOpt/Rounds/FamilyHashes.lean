import HcuAutoOpt.Rounds.Projection
import HcuAutoOpt.Rounds.Lifecycle
import HcuAutoOpt.Evaluation.SearchSelection
import HcuAutoOpt.Foundation.CanonicalReading

/-!
# What the hash of a family binds

The documents whose canonical JSON is hashed for a candidate family, an artifact family and a
holdout family, as the source writes them. Identifiers become texts, and a terminal field that
does not count for a member becomes `null`.

The artifact family of a round has a hash exactly when the family is accepted
(`AcceptedFamily`). No hash depends on the order of the members, and accepted families with
the same hash agree member by member (`family_hashes_bind`). The hash of a candidate family sorts
by the ordinal and does not check it, so members that share an ordinal can change places
(`shared_ordinal_matters`); the unique index of the members' table keeps ordinals apart.
-/

set_option autoImplicit false

namespace HcuAutoOpt

open Foundation M2Statistics

/-! ## Documents -/

/-- The text of a member's state. -/
def RoundCandidateState.value : RoundCandidateState → String
  | .intakeAccepted => "intake_accepted"
  | .building => "building"
  | .buildFailed => "build_failed"
  | .built => "built"
  | .correctnessFailed => "correctness_failed"
  | .correctnessPassed => "correctness_passed"
  | .searchFailed => "search_failed"
  | .searchMeasured => "search_measured"
  | .notPromoted => "not_promoted"
  | .holdoutFailed => "holdout_failed"
  | .holdoutMeasured => "holdout_measured"
  | .invalid => "invalid"

/-- The text of a kind of candidate. -/
def ManualCandidateKind.value : ManualCandidateKind → String
  | .fixture => "fixture"
  | .business => "business"

/-- A text, or `null`. -/
def textOrNull : Option String → Json
  | some text => .str text
  | none => .null

/-- A member as `candidate_family_hash` writes it. -/
def CandidateFamilyMember.json (member : CandidateFamilyMember) : Json := .obj
  [("ordinal", .int member.ordinal),
    ("candidate_id", .str member.candidateId.text),
    ("round_candidate_id", .str member.roundCandidateId.text),
    ("source_package_store_id", .str member.sourcePackageStoreId),
    ("source_package_store_hash", .str member.sourcePackageStoreHash),
    ("source_package_hash", .str member.sourcePackageHash),
    ("source_manifest_version", .str "m1-candidate-source-v1"),
    ("source_manifest_hash", .str member.sourceManifestHash),
    ("baseline_source_hash", .str member.baselineSourceHash),
    ("candidate_source_hash", .str member.candidateSourceHash),
    ("hotspot_id", .str member.hotspotId.text),
    ("replacement_point", .str member.replacementPoint),
    ("candidate_kind", .str member.candidateKind.value),
    ("optimization_intent", .str member.optimizationIntent)]

/-- A member as `artifact_family_hash` writes it: an artifact or a failure that does not count
is `null`. -/
def ArtifactFamilyMember.json (member : ArtifactFamilyMember) : Json := .obj
  [("ordinal", .int member.ordinal),
    ("candidate_id", .str member.candidateId.text),
    ("round_candidate_id", .str member.roundCandidateId.text),
    ("state", .str member.state.value),
    ("artifact_id", if member.hasArtifact then textOrNull (member.artifactId.map Uuid.text)
      else .null),
    ("artifact_hash", if member.hasArtifact then textOrNull member.artifactHash else .null),
    ("terminal_failure_code", if member.hasFailure then textOrNull member.terminalFailureCode
      else .null),
    ("failure_evidence_hash", if member.hasFailure then textOrNull member.failureEvidenceHash
      else .null)]

/-- A member as `_holdout_family_hash` writes it. -/
def HoldoutFamilyMember.json (member : HoldoutFamilyMember) : Json := .obj
  [("candidate_id", .str member.candidateId.text),
    ("artifact_id", .str member.artifactId.text),
    ("artifact_hash", .str member.artifactHash)]

/-- The document of a candidate family. -/
def candidateFamilyJson (members : List CandidateFamilyMember) : Json :=
  .arr (members.map CandidateFamilyMember.json)

/-- The document of an artifact family. -/
def artifactFamilyJson (candidateFamilyHash : String) (members : List ArtifactFamilyMember) :
    Json := .obj
  [("candidate_family_hash", .str candidateFamilyHash),
    ("members", .arr (members.map ArtifactFamilyMember.json))]

/-- The document of a holdout family. -/
def holdoutFamilyJson (roundId : Uuid) (candidateFamilyHash artifactFamilyHash : String)
    (selectionRuleHash : String) (members : List HoldoutFamilyMember) : Json := .obj
  [("schema_version", .str "m2a-holdout-family-v1"),
    ("round_id", .str roundId.text),
    ("candidate_family_hash", .str candidateFamilyHash),
    ("artifact_family_hash", .str artifactFamilyHash),
    ("selection_rule_hash", .str selectionRuleHash),
    ("m", .int members.length),
    ("members", .arr (members.map HoldoutFamilyMember.json))]

/-- The hash of a family is the SHA-256 of the canonical bytes of its document. -/
structure RoundEnv.HashesFamilies (env : RoundEnv) (sha256 : ByteArray → String) : Prop where
  candidateFamily : ∀ members, env.digest (.candidateFamily members) =
    "sha256:" ++ sha256 (candidateFamilyJson members).canonicalBytes
  artifactFamily : ∀ candidateFamilyHash members,
    env.digest (.artifactFamily candidateFamilyHash members) =
      "sha256:" ++ sha256 (artifactFamilyJson candidateFamilyHash members).canonicalBytes
  holdoutFamily : ∀ roundId candidateFamilyHash artifactFamilyHash selectionRuleHash members,
    env.digest (.holdoutFamily roundId candidateFamilyHash artifactFamilyHash selectionRuleHash
        members) =
      "sha256:" ++ sha256 (holdoutFamilyJson roundId candidateFamilyHash artifactFamilyHash
        selectionRuleHash members).canonicalBytes

/-! ## The documents lose nothing -/

theorem RoundCandidateState.value_inj {state state' : RoundCandidateState}
    (same : state.value = state'.value) : state = state' := by
  cases state <;> cases state' <;> first | rfl | exact absurd same (by decide)

theorem ManualCandidateKind.value_inj {kind kind' : ManualCandidateKind}
    (same : kind.value = kind'.value) : kind = kind' := by
  cases kind <;> cases kind' <;> first | rfl | exact absurd same (by decide)

theorem uuidText_inj {id id' : Uuid} : id.text = id'.text ↔ id = id' :=
  ⟨Uuid.text_injective, fun same => by rw [same]⟩

theorem CandidateFamilyMember.integral_json (member : CandidateFamilyMember) :
    member.json.integral = true := rfl

theorem HoldoutFamilyMember.integral_json (member : HoldoutFamilyMember) :
    member.json.integral = true := rfl

theorem integral_textOrNull (text : Option String) : (textOrNull text).integral = true := by
  cases text <;> rfl

theorem ArtifactFamilyMember.integral_json (member : ArtifactFamilyMember) :
    member.json.integral = true := by
  have folded : ∀ (counts : Bool) (text : Option String),
      (if counts then textOrNull text else Json.null).integral = true := by
    intro counts text
    cases counts
    · rfl
    · exact integral_textOrNull text
  simp [ArtifactFamilyMember.json, Json.integral, Json.integralFields, folded]

/-- The document of a member of a candidate family determines the member. -/
theorem CandidateFamilyMember.json_inj {member member' : CandidateFamilyMember}
    (same : member.json.sorted = member'.json.sorted) : member = member' := by
  have values := Json.fields_inj ["ordinal", "candidate_id", "round_candidate_id",
    "source_package_store_id", "source_package_store_hash", "source_package_hash",
    "source_manifest_version", "source_manifest_hash", "baseline_source_hash",
    "candidate_source_hash", "hotspot_id", "replacement_point", "candidate_kind",
    "optimization_intent"] (by decide) rfl rfl same
  simp only [List.map_cons, List.map_nil, Json.sorted, List.cons.injEq, Json.int.injEq,
    Json.str.injEq, Int.natCast_inj, uuidText_inj, and_true, true_and] at values
  obtain ⟨ordinal, candidate, identifier, store, storeHash, package, manifest, baseline, source,
    hotspot, point, kind, intent⟩ := values
  replace kind := ManualCandidateKind.value_inj kind
  cases member
  cases member'
  simp_all

/-- The document of a member of a holdout family determines the member. -/
theorem HoldoutFamilyMember.json_inj {member member' : HoldoutFamilyMember}
    (same : member.json.sorted = member'.json.sorted) : member = member' := by
  have values := Json.fields_inj ["candidate_id", "artifact_id", "artifact_hash"] (by decide)
    rfl rfl same
  simp only [List.map_cons, List.map_nil, Json.sorted, List.cons.injEq, Json.str.injEq,
    uuidText_inj, and_true] at values
  obtain ⟨candidate, artifact, artifactHash⟩ := values
  cases member
  cases member'
  simp_all

/-- What does not count for an ended build is absent. -/
theorem BuildTerminal.Ended.folded {terminal : BuildTerminal} (ended : terminal.Ended) :
    (terminal.hasArtifact = false → terminal.artifactId = none ∧ terminal.artifactHash = none) ∧
      (terminal.hasFailure = false →
        terminal.terminalFailureCode = none ∧ terminal.failureEvidenceHash = none) := by
  rcases ended with ⟨-, artifact, hash, code, evidence⟩ | ⟨-, artifact, hash, code, evidence⟩
  · refine ⟨fun missing => ?_, fun _ => ⟨code, evidence⟩⟩
    rw [BuildTerminal.hasArtifact, artifact, hash] at missing
    cases missing
  · refine ⟨fun _ => ⟨artifact, hash⟩, fun missing => ?_⟩
    rw [BuildTerminal.hasFailure, code, evidence] at missing
    cases missing

theorem textOrNull_inj {text text' : Option String}
    (same : (textOrNull text).sorted = (textOrNull text').sorted) : text = text' := by
  cases text <;> cases text' <;> simp_all [textOrNull, Json.sorted]

/-- A text that is absent when it does not count is not lost. -/
theorem folded_eq {counts : Bool} {text : Option String} (absent : counts = false → text = none) :
    (if counts then textOrNull text else Json.null) = textOrNull text := by
  cases counts with
  | true => rfl
  | false =>
      rw [absent rfl]
      rfl

/-- **The document of an ended member of an artifact family determines the member.** -/
theorem ArtifactFamilyMember.json_inj {member member' : ArtifactFamilyMember}
    (ended : member.toBuildTerminal.Ended) (ended' : member'.toBuildTerminal.Ended)
    (same : member.json.sorted = member'.json.sorted) : member = member' := by
  have plain : ∀ member : ArtifactFamilyMember, member.toBuildTerminal.Ended →
      member.json = .obj
        [("ordinal", .int member.ordinal), ("candidate_id", .str member.candidateId.text),
          ("round_candidate_id", .str member.roundCandidateId.text),
          ("state", .str member.state.value),
          ("artifact_id", textOrNull (member.artifactId.map Uuid.text)),
          ("artifact_hash", textOrNull member.artifactHash),
          ("terminal_failure_code", textOrNull member.terminalFailureCode),
          ("failure_evidence_hash", textOrNull member.failureEvidenceHash)] := by
    intro member ended
    obtain ⟨artifact, failure⟩ := ended.folded
    rw [ArtifactFamilyMember.json,
      folded_eq fun missing => by rw [(artifact missing).1, Option.map_none],
      folded_eq fun missing => (artifact missing).2, folded_eq fun missing => (failure missing).1,
      folded_eq fun missing => (failure missing).2]
  rw [plain member ended, plain member' ended'] at same
  have values := Json.fields_inj ["ordinal", "candidate_id", "round_candidate_id", "state",
    "artifact_id", "artifact_hash", "terminal_failure_code", "failure_evidence_hash"] (by decide)
    rfl rfl same
  simp only [List.map_cons, List.map_nil, List.cons.injEq, and_true] at values
  obtain ⟨ordinal, candidate, identifier, state, artifact, hash, code, evidence⟩ := values
  rw [Json.sorted_int, Json.sorted_int, Json.int.injEq, Int.natCast_inj] at ordinal
  rw [Json.sorted_str, Json.sorted_str, Json.str.injEq, uuidText_inj] at candidate identifier
  rw [Json.sorted_str, Json.sorted_str, Json.str.injEq] at state
  replace state := RoundCandidateState.value_inj state
  replace artifact := Option.map_injective (fun _ _ same => Uuid.text_injective same)
    (textOrNull_inj artifact)
  replace hash := textOrNull_inj hash
  replace code := textOrNull_inj code
  replace evidence := textOrNull_inj evidence
  obtain ⟨⟨_, _, _, _, _⟩, _, _, _⟩ := member
  obtain ⟨⟨_, _, _, _, _⟩, _, _, _⟩ := member'
  simp_all

/-- Lists with the same documents are equal when the document of a member determines it. -/
theorem members_inj {M : Type} {json : M → Json} {members members' : List M}
    (determines : ∀ a ∈ members, ∀ b ∈ members', (json a).sorted = (json b).sorted → a = b)
    (same : (Json.arr (members.map json)).sorted = (Json.arr (members'.map json)).sorted) :
    members = members' := by
  rw [Json.sorted_arr, Json.sorted_arr, Json.arr.injEq, List.map_map, List.map_map] at same
  induction members generalizing members' with
  | nil => exact (List.map_eq_nil_iff.mp same.symm).symm
  | cons member members ih =>
      cases members' with
      | nil => cases same
      | cons member' members' =>
          obtain ⟨first, others⟩ := List.cons.inj same
          rw [determines member List.mem_cons_self member' List.mem_cons_self first,
            ih (fun a here b there => determines a (List.mem_cons_of_mem _ here) b
              (List.mem_cons_of_mem _ there)) others]

theorem integral_members {M : Type} {json : M → Json} (plain : ∀ a, (json a).integral = true)
    (members : List M) : (Json.arr (members.map json)).integral = true := by
  rw [Json.integral, Json.integralItems_iff]
  intro item member
  obtain ⟨a, -, rfl⟩ := List.mem_map.mp member
  exact plain a

section Hashes

variable {env : RoundEnv} {sha256 : ByteArray → String}

/-- **The digest of a candidate family determines the family.** -/
theorem RoundEnv.HashesFamilies.candidateFamily_inj (hashes : env.HashesFamilies sha256)
    (collisionFree : Function.Injective sha256) {members members' : List CandidateFamilyMember}
    (same : env.digest (.candidateFamily members) = env.digest (.candidateFamily members')) :
    members = members' := by
  rw [hashes.candidateFamily, hashes.candidateFamily] at same
  have bytes := collisionFree (String.append_right_inj _ |>.mp same)
  have texts := Json.canonicalBytes_inj
    (integral_members CandidateFamilyMember.integral_json members)
    (integral_members CandidateFamilyMember.integral_json members') bytes
  exact members_inj (fun _ _ _ _ => CandidateFamilyMember.json_inj) texts

/-- **The digest of an artifact family determines the family**, when all builds have ended. -/
theorem RoundEnv.HashesFamilies.artifactFamily_inj (hashes : env.HashesFamilies sha256)
    (collisionFree : Function.Injective sha256) {candidateFamily candidateFamily' : String}
    {members members' : List ArtifactFamilyMember}
    (ended : ∀ member ∈ members, member.toBuildTerminal.Ended)
    (ended' : ∀ member ∈ members', member.toBuildTerminal.Ended)
    (same : env.digest (.artifactFamily candidateFamily members) =
      env.digest (.artifactFamily candidateFamily' members')) :
    candidateFamily = candidateFamily' ∧ members = members' := by
  rw [hashes.artifactFamily, hashes.artifactFamily] at same
  have bytes := collisionFree (String.append_right_inj _ |>.mp same)
  have plain : ∀ family members, (artifactFamilyJson family members).integral = true := by
    intro family members
    rw [artifactFamilyJson, Json.integral, Json.integralFields_iff, List.forall_mem_cons,
      List.forall_mem_singleton]
    exact ⟨rfl, integral_members ArtifactFamilyMember.integral_json members⟩
  have texts := Json.canonicalBytes_inj (plain _ _) (plain _ _) bytes
  have values := Json.fields_inj ["candidate_family_hash", "members"] (by decide) rfl rfl texts
  simp only [List.map_cons, List.map_nil, List.cons.injEq, and_true] at values
  obtain ⟨families, lists⟩ := values
  rw [Json.sorted_str, Json.sorted_str, Json.str.injEq] at families
  exact ⟨families, members_inj (fun a here b there =>
    ArtifactFamilyMember.json_inj (ended a here) (ended' b there)) lists⟩

/-- **The digest of a holdout family determines the family**, its round and what it stands
on. -/
theorem RoundEnv.HashesFamilies.holdoutFamily_inj (hashes : env.HashesFamilies sha256)
    (collisionFree : Function.Injective sha256) {roundId roundId' : Uuid}
    {candidates candidates' artifacts artifacts' rule rule' : String}
    {members members' : List HoldoutFamilyMember}
    (same : env.digest (.holdoutFamily roundId candidates artifacts rule members) =
      env.digest (.holdoutFamily roundId' candidates' artifacts' rule' members')) :
    roundId = roundId' ∧ candidates = candidates' ∧ artifacts = artifacts' ∧ rule = rule' ∧
      members = members' := by
  rw [hashes.holdoutFamily, hashes.holdoutFamily] at same
  have bytes := collisionFree (String.append_right_inj _ |>.mp same)
  have plain : ∀ roundId candidates artifacts rule members,
      (holdoutFamilyJson roundId candidates artifacts rule members).integral = true := by
    intro roundId candidates artifacts rule members
    rw [holdoutFamilyJson, Json.integral, Json.integralFields_iff]
    simp only [List.forall_mem_cons, List.not_mem_nil, false_implies, implies_true, and_true]
    exact ⟨rfl, rfl, rfl, rfl, rfl, rfl, integral_members HoldoutFamilyMember.integral_json members⟩
  have texts := Json.canonicalBytes_inj (plain _ _ _ _ _) (plain _ _ _ _ _) bytes
  have values := Json.fields_inj ["schema_version", "round_id", "candidate_family_hash",
    "artifact_family_hash", "selection_rule_hash", "m", "members"] (by decide) rfl rfl texts
  simp only [List.map_cons, List.map_nil, List.cons.injEq, and_true, Json.sorted_str,
    Json.str.injEq, uuidText_inj, true_and] at values
  obtain ⟨round, candidate, artifact, rules, -, lists⟩ := values
  exact ⟨round, candidate, artifact, rules,
    members_inj (fun _ _ _ _ => HoldoutFamilyMember.json_inj) lists⟩

end Hashes

/-! ## Accepted families -/

/-- An artifact family that is accepted: its candidate family is frozen, it has the declared
count, its members have nothing in common that identifies them, and every build has ended. -/
structure AcceptedFamily (round : SearchRound) (members : List RoundCandidate) : Prop where
  frozen : round.candidateFamilyHash ≠ none
  count : members.length = round.declaredCandidateCount
  ordinals : (members.map fun member => member.ordinal).Nodup
  candidates : (members.map fun member => member.candidateId).Nodup
  identifiers : (members.map fun member => member.roundCandidateId).Nodup
  ended : ∀ member ∈ members, member.toBuildTerminal.Ended

/-- The member in the document of its artifact family. -/
def RoundCandidate.artifactMember (member : RoundCandidate) : ArtifactFamilyMember where
  toBuildTerminal := member.toBuildTerminal
  ordinal := member.ordinal
  candidateId := member.candidateId
  roundCandidateId := member.roundCandidateId

theorem pairwise_apart_iff {members : List RoundCandidate} :
    members.Pairwise RoundCandidate.Apart ↔
      (members.map fun member => member.ordinal).Nodup ∧
        (members.map fun member => member.candidateId).Nodup ∧
        (members.map fun member => member.roundCandidateId).Nodup := by
  simp only [List.Nodup, List.pairwise_map]
  rw [← List.pairwise_and_iff, ← List.pairwise_and_iff]
  rfl

theorem byOrdinal_perm (members : List RoundCandidate) : (byOrdinal members).Perm members :=
  List.perm_insertionSort _ members

theorem byOrdinal_eq_of_perm {members members' : List RoundCandidate}
    (perm : members.Perm members')
    (ordinals : (members.map fun member => member.ordinal).Nodup) :
    byOrdinal members = byOrdinal members' :=
  insertionSort_tag_eq_of_perm (fun member : RoundCandidate => member.ordinal) perm ordinals

/-- The checks on a build terminal accept the ended ones. -/
theorem BuildTerminal.checkFamily_eq_ok {terminal : BuildTerminal} :
    terminal.checkFamily = .ok () ↔ terminal.Ended := by
  refine ⟨fun ok => ?_, fun ended => ended.checkFamily⟩
  simp only [BuildTerminal.checkFamily, Except.bind_eq_ok, require_eq_ok, exists_const] at ok
  obtain ⟨⟨artifact, failure⟩, ⟨listed, one⟩, built, failed⟩ := ok
  simp only [BuildTerminal.hasArtifact, BuildTerminal.hasFailure] at one built failed
  obtain ⟨state, artifactId, artifactHash, code, evidence⟩ := terminal
  cases artifactId <;> cases artifactHash <;> cases code <;> cases evidence <;>
    simp_all [BuildTerminal.Ended]

theorem artifactFamilyMembers_eq_ok {seen members : List RoundCandidate}
    {family : List ArtifactFamilyMember} :
    artifactFamilyMembers seen members = .ok family ↔
      (∀ other ∈ seen, ∀ member ∈ members, other.Apart member) ∧
        (members.Pairwise fun member other => member.Apart other) ∧
        (∀ member ∈ members, member.toBuildTerminal.Ended) ∧
        family = members.map RoundCandidate.artifactMember := by
  induction members generalizing seen family with
  | nil =>
      rw [artifactFamilyMembers]
      constructor
      · rintro ⟨⟩
        exact ⟨fun _ _ _ there => absurd there List.not_mem_nil, .nil,
          fun _ there => absurd there List.not_mem_nil, rfl⟩
      · rintro ⟨-, -, -, rfl⟩
        rfl
  | cons member members ih =>
      simp only [artifactFamilyMembers, Except.bind_eq_ok, require_eq_ok, exists_const, ih]
      constructor
      · rintro ⟨fresh, _, checked, _, ⟨apart, pairwise, others, rfl⟩, ok⟩
        cases ok
        have ended := BuildTerminal.checkFamily_eq_ok.mp checked
        refine ⟨?_, ?_, ?_, rfl⟩
        · intro other here later there
          rcases List.mem_cons.mp there with rfl | after
          · exact fresh other here
          · exact apart other (List.mem_cons_of_mem _ here) later after
        · exact List.pairwise_cons.mpr ⟨fun later there =>
            apart member List.mem_cons_self later there, pairwise⟩
        · intro later there
          rcases List.mem_cons.mp there with rfl | after
          · exact ended
          · exact others later after
      · rintro ⟨apart, pairwise, ended, rfl⟩
        obtain ⟨first, rest⟩ := List.pairwise_cons.mp pairwise
        refine ⟨fun other here => apart other here member List.mem_cons_self, (),
          (ended member List.mem_cons_self).checkFamily, _, ⟨?_, rest,
            fun later there => ended later (List.mem_cons_of_mem _ there), rfl⟩, rfl⟩
        intro other here later there
        rcases List.mem_cons.mp here with rfl | old
        · exact first later there
        · exact apart other old later (List.mem_cons_of_mem _ there)

/-- **What an artifact family is hashed from.** -/
theorem artifactFamilyHash_eq_ok {env : RoundEnv} {round : SearchRound}
    {members : List RoundCandidate} {familyHash : String} :
    artifactFamilyHash env round members = .ok familyHash ↔
      AcceptedFamily round members ∧ ∃ candidateFamily ∈ round.candidateFamilyHash,
        familyHash = env.digest (.artifactFamily candidateFamily
          ((byOrdinal members).map RoundCandidate.artifactMember)) := by
  have inOrder : ∀ member, member ∈ byOrdinal members ↔ member ∈ members := fun member =>
    (byOrdinal_perm members).mem_iff
  have apart : (byOrdinal members).Pairwise RoundCandidate.Apart ↔
      members.Pairwise RoundCandidate.Apart :=
    (byOrdinal_perm members).pairwise_iff fun apart =>
      ⟨apart.1.symm, apart.2.1.symm, apart.2.2.symm⟩
  unfold artifactFamilyHash
  cases frozen : round.candidateFamilyHash with
  | none =>
      refine iff_of_false (fun ok => by cases ok) ?_
      rintro ⟨accepted, -⟩
      exact accepted.frozen frozen
  | some candidateFamily =>
      simp only [Except.bind_eq_ok, require_eq_ok, exists_const, artifactFamilyMembers_eq_ok,
        apart, inOrder, pairwise_apart_iff, List.not_mem_nil, false_implies, implies_true,
        true_and]
      constructor
      · rintro ⟨count, _, ⟨⟨ordinals, candidates, identifiers⟩, ended, rfl⟩, ok⟩
        cases ok
        exact ⟨⟨by rw [frozen]; exact Option.some_ne_none _, count, ordinals, candidates,
          identifiers, ended⟩, candidateFamily, rfl, rfl⟩
      · rintro ⟨accepted, _, ⟨⟩, rfl⟩
        exact ⟨accepted.count, _, ⟨⟨accepted.ordinals, accepted.candidates,
          accepted.identifiers⟩, accepted.ended, rfl⟩, rfl⟩

theorem AcceptedFamily.perm {round : SearchRound} {members members' : List RoundCandidate}
    (perm : members.Perm members') (accepted : AcceptedFamily round members) :
    AcceptedFamily round members' where
  frozen := accepted.frozen
  count := perm.length_eq ▸ accepted.count
  ordinals := (perm.map _).nodup_iff.mp accepted.ordinals
  candidates := (perm.map _).nodup_iff.mp accepted.candidates
  identifiers := (perm.map _).nodup_iff.mp accepted.identifiers
  ended member there := accepted.ended member (perm.mem_iff.mpr there)

theorem artifactFamilyHash_perm {env : RoundEnv} {round : SearchRound}
    {members members' : List RoundCandidate} (perm : members.Perm members') {familyHash : String}
    (ok : artifactFamilyHash env round members = .ok familyHash) :
    artifactFamilyHash env round members' = .ok familyHash := by
  obtain ⟨accepted, candidateFamily, frozen, rfl⟩ := artifactFamilyHash_eq_ok.mp ok
  refine artifactFamilyHash_eq_ok.mpr ⟨accepted.perm perm, candidateFamily, frozen, ?_⟩
  rw [byOrdinal_eq_of_perm perm accepted.ordinals]

/-- **What a holdout family is hashed from.** -/
theorem holdoutFamilyHash_eq_ok {env : RoundEnv} {authority : SearchRound}
    {members : List BarrierMemberResult} {familyHash : String} :
    holdoutFamilyHash env authority members = .ok familyHash ↔
      (members ≠ [] ∧ (members.map BarrierMemberResult.candidateId).Nodup) ∧
        ∃ candidates ∈ authority.candidateFamilyHash, ∃ artifacts ∈ authority.artifactFamilyHash,
          ∃ family, (byCandidate members).mapM BarrierMemberResult.holdoutMember = some family ∧
            familyHash = env.digest (.holdoutFamily authority.roundId candidates artifacts
              authority.selectionRuleHash family) := by
  simp only [holdoutFamilyHash, Except.bind_eq_ok, orderedMembers_eq_ok]
  constructor
  · rintro ⟨_, ⟨fits, rfl⟩, ok⟩
    refine ⟨fits, ?_⟩
    split at ok
    · rename_i candidates artifacts frozen frozen'
      split at ok
      · rename_i family entries
        cases ok
        exact ⟨candidates, frozen, artifacts, frozen', family, entries, rfl⟩
      · cases ok
    · cases ok
  · rintro ⟨fits, candidates, frozen, artifacts, frozen', family, entries, rfl⟩
    refine ⟨_, ⟨fits, rfl⟩, ?_⟩
    rw [Option.mem_def.mp frozen, Option.mem_def.mp frozen']
    simp only [entries]
    rfl

theorem holdoutFamilyHash_perm (env : RoundEnv) (authority : SearchRound)
    {members members' : List BarrierMemberResult} (perm : members.Perm members') :
    holdoutFamilyHash env authority members = holdoutFamilyHash env authority members' := by
  rw [holdoutFamilyHash, orderedMembers_perm perm, holdoutFamilyHash]

/-- What a holdout family lists of a member. -/
def BarrierMemberResult.frozenArtifact (member : BarrierMemberResult) :
    Uuid × Option Uuid × Option String :=
  (member.candidateId, member.artifactId, member.artifactHash)

/-- The members of a holdout family as they are listed. -/
theorem frozenArtifacts_of_holdoutMembers {members : List BarrierMemberResult}
    {family : List HoldoutFamilyMember}
    (entries : members.mapM BarrierMemberResult.holdoutMember = some family) :
    members.map BarrierMemberResult.frozenArtifact = family.map fun member =>
      (member.candidateId, some member.artifactId, some member.artifactHash) := by
  induction members generalizing family with
  | nil =>
      rw [List.mapM_nil, Option.pure_def, Option.some_inj] at entries
      rw [← entries]
      rfl
  | cons member members ih =>
      simp only [List.mapM_cons, Option.bind_eq_bind, Option.bind_eq_some_iff,
        Option.pure_def, Option.some_inj] at entries
      obtain ⟨entry, first, rest, others, rfl⟩ := entries
      rw [List.map_cons, List.map_cons, ih others]
      unfold BarrierMemberResult.holdoutMember at first
      split at first
      · rename_i artifactId artifactHash identified hashed
        cases first
        rw [BarrierMemberResult.frozenArtifact, identified, hashed]
      · cases first

/-! ## What the hashes bind -/

/-- **The hashes of families bind whole families.** An artifact family has a hash exactly when it
is accepted; the order of the members does not matter; families with the same hash agree member
by member; and a change of a member's terminal or of the candidate family changes the hash. -/
structure FamilyHashesBind (env : RoundEnv) : Prop where
  defined : ∀ round members, (∃ familyHash, artifactFamilyHash env round members =
    .ok familyHash) ↔ AcceptedFamily round members
  candidateOrder : ∀ round members members', members.Perm members' →
    (members.map fun member => member.ordinal).Nodup →
      candidateFamilyHash env round members' = candidateFamilyHash env round members
  artifactOrder : ∀ round members members' familyHash, members.Perm members' →
    (artifactFamilyHash env round members' = .ok familyHash ↔
      artifactFamilyHash env round members = .ok familyHash)
  holdoutOrder : ∀ authority members members', members.Perm members' →
    holdoutFamilyHash env authority members' = holdoutFamilyHash env authority members
  candidateBinds : ∀ round round' members members',
    candidateFamilyHash env round members = candidateFamilyHash env round' members' →
      (byOrdinal members).map (RoundCandidate.familyMember round) =
        (byOrdinal members').map (RoundCandidate.familyMember round')
  artifactBinds : ∀ round round' members members' familyHash,
    artifactFamilyHash env round members = .ok familyHash →
      artifactFamilyHash env round' members' = .ok familyHash →
        round.candidateFamilyHash = round'.candidateFamilyHash ∧
          (byOrdinal members).map RoundCandidate.artifactMember =
            (byOrdinal members').map RoundCandidate.artifactMember
  artifactChanges : ∀ round round' members members' familyHash familyHash',
    artifactFamilyHash env round members = .ok familyHash →
      artifactFamilyHash env round' members' = .ok familyHash' →
        (round.candidateFamilyHash ≠ round'.candidateFamilyHash ∨
          ∃ member ∈ members, ∃ member' ∈ members', ¬member.Apart member' ∧
            member.toBuildTerminal ≠ member'.toBuildTerminal) →
          familyHash ≠ familyHash'
  holdoutBinds : ∀ authority authority' members members' familyHash,
    holdoutFamilyHash env authority members = .ok familyHash →
      holdoutFamilyHash env authority' members' = .ok familyHash →
        authority.roundId = authority'.roundId ∧
          authority.candidateFamilyHash = authority'.candidateFamilyHash ∧
          authority.artifactFamilyHash = authority'.artifactFamilyHash ∧
          authority.selectionRuleHash = authority'.selectionRuleHash ∧
          (byCandidate members).map BarrierMemberResult.frozenArtifact =
            (byCandidate members').map BarrierMemberResult.frozenArtifact

section Binding

variable {env : RoundEnv} {sha256 : ByteArray → String}

theorem artifactFamily_binds (hashes : env.HashesFamilies sha256)
    (collisionFree : Function.Injective sha256) {round round' : SearchRound}
    {members members' : List RoundCandidate} {familyHash : String}
    (ok : artifactFamilyHash env round members = .ok familyHash)
    (ok' : artifactFamilyHash env round' members' = .ok familyHash) :
    round.candidateFamilyHash = round'.candidateFamilyHash ∧
      (byOrdinal members).map RoundCandidate.artifactMember =
        (byOrdinal members').map RoundCandidate.artifactMember := by
  obtain ⟨accepted, candidateFamily, frozen, rfl⟩ := artifactFamilyHash_eq_ok.mp ok
  obtain ⟨accepted', candidateFamily', frozen', same⟩ := artifactFamilyHash_eq_ok.mp ok'
  have ended : ∀ {round : SearchRound} {members : List RoundCandidate},
      AcceptedFamily round members →
        ∀ member ∈ (byOrdinal members).map RoundCandidate.artifactMember,
          member.toBuildTerminal.Ended := by
    intro round members accepted member there
    obtain ⟨row, here, rfl⟩ := List.mem_map.mp there
    exact accepted.ended row ((byOrdinal_perm members).mem_iff.mp here)
  obtain ⟨families, lists⟩ :=
    hashes.artifactFamily_inj collisionFree (ended accepted) (ended accepted') same
  exact ⟨by rw [Option.mem_def.mp frozen, Option.mem_def.mp frozen', families], lists⟩

/-- In families that agree member by member, members that share an identity ended alike. -/
theorem terminal_eq_of_agree {round : SearchRound} {members members' : List RoundCandidate}
    (accepted : AcceptedFamily round members')
    (agree : (byOrdinal members).map RoundCandidate.artifactMember =
      (byOrdinal members').map RoundCandidate.artifactMember)
    {member member' : RoundCandidate} (here : member ∈ members) (here' : member' ∈ members')
    (shared : ¬member.Apart member') : member.toBuildTerminal = member'.toBuildTerminal := by
  have listed : member.artifactMember ∈
      (byOrdinal members').map RoundCandidate.artifactMember := by
    rw [← agree]
    exact List.mem_map_of_mem ((byOrdinal_perm members).mem_iff.mpr here)
  obtain ⟨twin, there, same⟩ := List.mem_map.mp listed
  have inFamily := (byOrdinal_perm members').mem_iff.mp there
  simp only [RoundCandidate.artifactMember, ArtifactFamilyMember.mk.injEq] at same
  obtain ⟨terminal, ordinal, candidate, identifier⟩ := same
  have twins : twin = member' := by
    by_contra different
    refine shared ⟨?_, ?_, ?_⟩
    · rw [← ordinal]
      exact fun equal => different (List.inj_on_of_nodup_map accepted.ordinals inFamily here' equal)
    · rw [← candidate]
      exact fun equal =>
        different (List.inj_on_of_nodup_map accepted.candidates inFamily here' equal)
    · rw [← identifier]
      exact fun equal =>
        different (List.inj_on_of_nodup_map accepted.identifiers inFamily here' equal)
  rw [← twins]
  exact terminal.symm

/-- **Family hashes bind families**, for every hash without collisions. -/
theorem family_hashes_bind (hashes : env.HashesFamilies sha256)
    (collisionFree : Function.Injective sha256) : FamilyHashesBind env where
  defined round members := by
    constructor
    · rintro ⟨familyHash, ok⟩
      exact (artifactFamilyHash_eq_ok.mp ok).1
    · intro accepted
      obtain ⟨candidateFamily, frozen⟩ := Option.ne_none_iff_exists'.mp accepted.frozen
      exact ⟨_, artifactFamilyHash_eq_ok.mpr ⟨accepted, candidateFamily, frozen, rfl⟩⟩
  candidateOrder round members members' perm ordinals := by
    rw [candidateFamilyHash, ← byOrdinal_eq_of_perm perm ordinals, candidateFamilyHash]
  artifactOrder round members members' familyHash perm :=
    ⟨artifactFamilyHash_perm perm.symm, artifactFamilyHash_perm perm⟩
  holdoutOrder authority members members' perm := holdoutFamilyHash_perm env authority perm.symm
  candidateBinds round round' members members' same :=
    hashes.candidateFamily_inj collisionFree same
  artifactBinds round round' members members' familyHash ok ok' :=
    artifactFamily_binds hashes collisionFree ok ok'
  artifactChanges round round' members members' familyHash familyHash' ok ok' changed same := by
    subst same
    obtain ⟨families, agree⟩ := artifactFamily_binds hashes collisionFree ok ok'
    rcases changed with other | ⟨member, here, member', here', shared, other⟩
    · exact other families
    · exact other (terminal_eq_of_agree (artifactFamilyHash_eq_ok.mp ok').1 agree here here' shared)
  holdoutBinds authority authority' members members' familyHash ok ok' := by
    obtain ⟨-, candidates, frozen, artifacts, frozen', family, entries, rfl⟩ :=
      holdoutFamilyHash_eq_ok.mp ok
    obtain ⟨-, candidates', other, artifacts', other', family', entries', same⟩ :=
      holdoutFamilyHash_eq_ok.mp ok'
    obtain ⟨rounds, families, builds, rules, lists⟩ := hashes.holdoutFamily_inj collisionFree same
    refine ⟨rounds, ?_, ?_, rules, ?_⟩
    · rw [Option.mem_def.mp frozen, Option.mem_def.mp other, families]
    · rw [Option.mem_def.mp frozen', Option.mem_def.mp other', builds]
    · rw [frozenArtifacts_of_holdoutMembers entries, frozenArtifacts_of_holdoutMembers entries',
        lists]

end Binding

/-! ## A hash that spells the document out -/

theorem hexOfBytes_injective : Function.Injective hexOfBytes :=
  Function.LeftInverse.injective bytesOfHex_hexOfBytes

/-- Surroundings in which the hash of a family spells its document out. -/
def spelledFamilies : RoundEnv where
  digest
    | .candidateFamily members => "sha256:" ++ hexOfBytes (candidateFamilyJson members).canonicalBytes
    | .artifactFamily family members =>
        "sha256:" ++ hexOfBytes (artifactFamilyJson family members).canonicalBytes
    | .holdoutFamily roundId candidates artifacts rule members =>
        "sha256:" ++ hexOfBytes
          (holdoutFamilyJson roundId candidates artifacts rule members).canonicalBytes
    | _ => "sha256:"
  uuid5 _ := 0
  revealAccepted _ := true
  scriptedFinalizer := none

theorem spelledFamilies_hashes : spelledFamilies.HashesFamilies hexOfBytes :=
  ⟨fun _ => rfl, fun _ _ => rfl, fun _ _ _ _ _ => rfl⟩

theorem family_hashes_bind_spelled : FamilyHashesBind spelledFamilies :=
  family_hashes_bind spelledFamilies_hashes hexOfBytes_injective

/-- A member with an ordinal and sources of its own. -/
def listedMember (ordinal : Nat) (name : String) : RoundCandidate where
  roundCandidateId := 20 + name.length
  roundId := 11
  candidateId := 30 + name.length
  ordinal := ordinal
  sourcePackageStoreId := "store"
  sourcePackageStoreHash := "store"
  sourcePackageHash := name
  sourceManifestHash := name
  baselineSourceHash := "baseline"
  candidateSourceHash := name
  optimizationIntent := "intent"
  replacementPoint := "point"
  candidateKind := .fixture
  idempotencyKey := name
  state := .invalid
  terminalFailureCode := some "refused"
  failureEvidenceHash := some "log"

/-- **A shared ordinal makes the order matter**, and a family whose candidate family is not
frozen has no hash, although its members are distinct and have ended. -/
theorem shared_ordinal_matters :
    ∃ (env : RoundEnv) (sha256 : ByteArray → String), env.HashesFamilies sha256 ∧
      Function.Injective sha256 ∧
      (∃ round members members', members.Perm members' ∧
        candidateFamilyHash env round members' ≠ candidateFamilyHash env round members) ∧
      ∃ round members, members.length = round.declaredCandidateCount ∧
        (members.map fun member => member.ordinal).Nodup ∧
        (members.map fun member => member.candidateId).Nodup ∧
        (members.map fun member => member.roundCandidateId).Nodup ∧
        (∀ member ∈ members, member.toBuildTerminal.Ended) ∧
        ∀ familyHash, artifactFamilyHash env round members ≠ .ok familyHash := by
  refine ⟨spelledFamilies, hexOfBytes, spelledFamilies_hashes, hexOfBytes_injective,
    ⟨sampleRound, [listedMember 0 "a", listedMember 0 "bb"],
      [listedMember 0 "bb", listedMember 0 "a"], List.Perm.swap _ _ _, fun same => ?_⟩,
    sampleRound, [listedMember 0 "a", listedMember 1 "bb"], rfl, by decide, by decide, by decide,
    by decide, fun familyHash ok => ?_⟩
  · have lists := spelledFamilies_hashes.candidateFamily_inj hexOfBytes_injective same
    have names := congrArg (List.map CandidateFamilyMember.sourcePackageHash) lists
    exact absurd names (by decide)
  · exact (artifactFamilyHash_eq_ok.mp ok).1.frozen rfl

end HcuAutoOpt
