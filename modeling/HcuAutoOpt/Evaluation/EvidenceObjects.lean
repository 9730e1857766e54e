import HcuAutoOpt.Evaluation.EvidenceRoundTrip
import HcuAutoOpt.Evaluation.ProductionEvidence
import HcuAutoOpt.Foundation.Ranking
import Mathlib.Data.Finset.Card

/-!
# The objects of verified evidence

When `verify` returns, each reference lists the object at the path that its SHA-256 prescribes,
for the class that the object serves alone and from the identity of that class, and the order of
the references does not matter. Two references may still list one object: a URI counts as another
one when it is spelled in another way (`trusted_iff`).
-/

set_option autoImplicit false

namespace HcuAutoOpt

namespace ProductionEvidence

open Foundation EvidenceReading M2Runner

variable {env : ReaderEnv} {disk : Disk} {service : ProductionEvidenceVerifier env.rules disk}
variable {context : FormalAuthorityContextDescriptor}
variable {authorities : FormalEvidenceAuthoritySet env.rules}
variable {references references' : List (ProductionFormalEvidenceRef env.rules)}

/-! ## One object -/

/-- **The prescribed path determines the hash.** -/
theorem objectPath_inj {root : Names} {sha256 sha256' : String} (digest : IsSha256 sha256)
    (digest' : IsSha256 sha256') (same : objectPath root sha256 = objectPath root sha256') :
    sha256 = sha256' := by
  have parts := List.append_cancel_left same
  simp only [List.cons.injEq, true_and, and_true] at parts
  have text : sha256.toList.drop 7 = sha256'.toList.drop 7 := by
    rw [← List.take_append_drop 2 (sha256.toList.drop 7), parts.1, parts.2,
      List.take_append_drop]
  refine String.ext ?_
  rw [← List.take_append_drop 7 sha256.toList, digest.1, text, ← digest'.1,
    List.take_append_drop]

/-- What is resolved is the path of the URI. -/
theorem resolveFileUri_parts {reader : Reader disk} {uri : String} {names : Names}
    {path : PurePath} (parsed : pathFromFileUri env uri = .ok path)
    (resolved : resolveFileUri env reader uri.toList = .ok names) : names = path.parts := by
  obtain ⟨split, taken, _⟩ := Except.bind_eq_ok.mp resolved
  obtain ⟨split', taken', checks'⟩ := Except.bind_eq_ok.mp parsed
  obtain ⟨_, _, read⟩ := Except.bind_eq_ok.mp checks'
  obtain rfl : split = split' := Option.some.inj
    ((requireSome_eq_ok.mp taken).symm.trans (requireSome_eq_ok.mp taken'))
  obtain ⟨_, taken, checks⟩ := Except.bind_eq_ok.mp resolved
  obtain rfl := Option.some.inj
    ((requireSome_eq_ok.mp taken).symm.trans (requireSome_eq_ok.mp taken'))
  obtain ⟨_, _, absolute⟩ := Except.bind_eq_ok.mp checks
  obtain ⟨_, _, traversal⟩ := Except.bind_eq_ok.mp absolute
  obtain ⟨_, _, below⟩ := Except.bind_eq_ok.mp traversal
  obtain ⟨_, _, links⟩ := Except.bind_eq_ok.mp below
  obtain ⟨_, _, present⟩ := Except.bind_eq_ok.mp links
  obtain ⟨_, _, same⟩ := Except.bind_eq_ok.mp present
  cases same
  cases read
  rfl

theorem mapError_eq_ok {ε ε' α : Type} {x : Except ε α} {f : ε → ε'} {value : α} :
    x.mapError f = .ok value ↔ x = .ok value := by
  cases x <;> simp [Except.mapError]

theorem readContentAddressed_eq_ok {reader : Reader disk} {uri sha256 : String}
    {encoded : List UInt8} :
    readContentAddressed env reader uri sha256 = .ok encoded ↔
      pathFromFileUri env uri = .ok ⟨['/'], objectPath reader.allowedRoot sha256⟩ ∧
        readRawBytes env reader uri.toList sha256 = .ok encoded := by
  constructor
  · intro returned
    obtain ⟨path, parsed, checks⟩ := Except.bind_eq_ok.mp returned
    obtain ⟨_, same, read⟩ := Except.bind_eq_ok.mp checks
    rw [require_eq_ok] at same
    exact ⟨same ▸ parsed, mapError_eq_ok.mp read⟩
  · rintro ⟨parsed, read⟩
    exact Except.bind_eq_ok.mpr ⟨_, parsed, Except.bind_eq_ok.mpr
      ⟨(), require_eq_ok.mpr rfl, mapError_eq_ok.mpr read⟩⟩

/-- **What is read lies at the prescribed path** and has the hash. -/
theorem stored_of_read {reader : Reader disk} {uri sha256 : String} {encoded : List UInt8}
    (returned : readContentAddressed env reader uri sha256 = .ok encoded) :
    disk.nodes (objectPath reader.allowedRoot sha256) = some (.regular encoded) ∧
      hashOf env encoded = sha256 := by
  obtain ⟨parsed, read⟩ := readContentAddressed_eq_ok.mp returned
  obtain ⟨names, resolved, onward⟩ := Except.bind_eq_ok.mp read
  obtain ⟨content, opened, hashed⟩ := Except.bind_eq_ok.mp onward
  obtain ⟨_, hash, same⟩ := Except.bind_eq_ok.mp hashed
  cases same
  obtain rfl : names = objectPath reader.allowedRoot sha256 := resolveFileUri_parts parsed resolved
  exact ⟨(secureReadPosix_eq_ok rfl opened).2, require_eq_ok.mp hash⟩

/-! ## The checks of a list -/

variable (service context authorities) in
/-- The checks that a reference has to pass alone. -/
structure Bound (reference : ProductionFormalEvidenceRef env.rules) : Prop where
  role : reference.producerRole = expectedRole reference.evidenceClass
  producer : (reference.producerId, reference.producerHash) =
    expectedIdentity env service context authorities (expectedRole reference.evidenceClass)
  read : ∃ encoded, readContentAddressed env service.reader reference.uri reference.sha256 =
    .ok encoded ∧ encoded.length = reference.byteCount

/-- One hash is listed for one class. -/
def OneClass (references : List (ProductionFormalEvidenceRef env.rules)) : Prop :=
  ∀ a ∈ references, ∀ b ∈ references, a.sha256 = b.sha256 → a.evidenceClass = b.evidenceClass

theorem verifyRole_eq_ok {reference : ProductionFormalEvidenceRef env.rules} :
    verifyRole env service context authorities reference = .ok () ↔
      reference.producerRole = expectedRole reference.evidenceClass ∧
        (reference.producerId, reference.producerHash) =
          expectedIdentity env service context authorities
            (expectedRole reference.evidenceClass) := by
  constructor
  · intro passed
    obtain ⟨_, role, producer⟩ := Except.bind_eq_ok.mp passed
    exact ⟨require_eq_ok.mp role, require_eq_ok.mp producer⟩
  · rintro ⟨role, producer⟩
    exact Except.bind_eq_ok.mpr ⟨(), require_eq_ok.mpr role, require_eq_ok.mpr producer⟩

/-- **What the loop accepts**, from any URIs seen and hashes with classes. -/
theorem verifyReferences_eq_ok {ordered : List (ProductionFormalEvidenceRef env.rules)}
    {seenUris : List String} {hashClasses : List (String × FormalEvidenceClass)} :
    verifyReferences env service context authorities ordered seenUris hashClasses = .ok () ↔
      (∀ reference ∈ ordered, Bound service context authorities reference) ∧
      (ordered.map (·.uri)).Nodup ∧ (∀ reference ∈ ordered, reference.uri ∉ seenUris) ∧
      OneClass ordered ∧
      ∀ reference ∈ ordered, ∀ previous ∈ hashClasses.lookup reference.sha256,
        previous = reference.evidenceClass := by
  induction ordered generalizing seenUris hashClasses with
  | nil => simp [verifyReferences, OneClass, pure, Except.pure]
  | cons first ordered ih =>
      constructor
      · intro passed
        obtain ⟨_, reuse, rest⟩ := Except.bind_eq_ok.mp passed
        obtain ⟨_, fresh, rest⟩ := Except.bind_eq_ok.mp rest
        obtain ⟨_, roles, rest⟩ := Except.bind_eq_ok.mp rest
        obtain ⟨encoded, read, rest⟩ := Except.bind_eq_ok.mp rest
        obtain ⟨_, size, rest⟩ := Except.bind_eq_ok.mp rest
        obtain ⟨bound, distinct, unseen, oneClass, classes⟩ := ih.mp rest
        rw [require_eq_ok] at reuse fresh size
        obtain ⟨role, producer⟩ := verifyRole_eq_ok.mp roles
        have firstClass : ∀ other ∈ ordered, other.sha256 = first.sha256 →
            first.evidenceClass = other.evidenceClass := by
          intro other member same
          refine classes other member _ ?_
          rw [List.lookup_cons, same, beq_self_eq_true]
          rfl
        refine ⟨List.forall_mem_cons.mpr ⟨⟨role, producer, encoded, read, size⟩, bound⟩, ?_,
          List.forall_mem_cons.mpr ⟨fresh, fun other member inside =>
            unseen other member (List.mem_cons_of_mem _ inside)⟩, ?_, ?_⟩
        · rw [List.map_cons, List.nodup_cons]
          refine ⟨fun repeated => ?_, distinct⟩
          obtain ⟨other, member, same⟩ := List.mem_map.mp repeated
          exact unseen other member (same ▸ List.mem_cons_self)
        · intro a inA b inB same
          rcases List.mem_cons.mp inA with rfl | laterA
          · rcases List.mem_cons.mp inB with rfl | laterB
            · rfl
            · exact firstClass b laterB same.symm
          · rcases List.mem_cons.mp inB with rfl | laterB
            · exact (firstClass a laterA same).symm
            · exact oneClass a laterA b laterB same
        · refine List.forall_mem_cons.mpr ⟨reuse, fun other member previous found => ?_⟩
          by_cases same : other.sha256 = first.sha256
          · rw [same] at found
            exact (reuse previous found).trans (firstClass other member same)
          · refine classes other member previous ?_
            rw [List.lookup_cons, beq_false_of_ne same]
            exact found
      · rintro ⟨bound, distinct, unseen, oneClass, classes⟩
        obtain ⟨⟨role, producer, encoded, read, size⟩, boundRest⟩ := List.forall_mem_cons.mp bound
        rw [List.map_cons, List.nodup_cons] at distinct
        refine Except.bind_eq_ok.mpr ⟨(), require_eq_ok.mpr (classes first List.mem_cons_self), ?_⟩
        refine Except.bind_eq_ok.mpr ⟨(), require_eq_ok.mpr (unseen first List.mem_cons_self), ?_⟩
        refine Except.bind_eq_ok.mpr ⟨(), verifyRole_eq_ok.mpr ⟨role, producer⟩, ?_⟩
        refine Except.bind_eq_ok.mpr ⟨encoded, read, ?_⟩
        refine Except.bind_eq_ok.mpr ⟨(), require_eq_ok.mpr size, ?_⟩
        refine ih.mpr ⟨boundRest, distinct.2, ?_, ?_, ?_⟩
        · intro other member inside
          rcases List.mem_cons.mp inside with same | before
          · exact distinct.1 (List.mem_map.mpr ⟨other, member, same⟩)
          · exact unseen other (List.mem_cons_of_mem _ member) before
        · exact fun a inA b inB => oneClass a (List.mem_cons_of_mem _ inA) b
            (List.mem_cons_of_mem _ inB)
        · intro other member previous found
          rw [List.lookup_cons] at found
          split at found
          next same =>
            cases found
            exact oneClass first List.mem_cons_self other (List.mem_cons_of_mem _ member)
              (beq_iff_eq.mp same).symm
          next => exact classes other (List.mem_cons_of_mem _ member) previous found

/-! ## What is accepted -/

variable (service context authorities) in
/-- The conditions under which a list of references is accepted. -/
structure Admitted (references : List (ProductionFormalEvidenceRef env.rules)) : Prop where
  store : context.evidenceStore = expectedStore env service
  verifier : context.verifier = expectedVerifier env service
  frozen : authorities.independentVerifier = service.verifier
  separated : context.holdoutPlanAuthorityId ∉ otherIds env service authorities ∧
    context.holdoutPlanAuthorityHash ∉ otherHashes env service authorities
  identity : ∃ encoded, readContentAddressed env service.reader service.verifier.identityEvidenceUri
    service.verifier.identityEvidenceHash = .ok encoded
  filled : references ≠ []
  bound : ∀ reference ∈ references, Bound service context authorities reference
  uris : (references.map (·.uri)).Nodup
  classes : OneClass references

theorem inOrder_perm (references : List (ProductionFormalEvidenceRef env.rules)) :
    (inOrder env references).Perm references := List.perm_insertionSort _ references

theorem Admitted.perm (admitted : Admitted service context authorities references)
    (perm : references.Perm references') : Admitted service context authorities references' where
  store := admitted.store
  verifier := admitted.verifier
  frozen := admitted.frozen
  separated := admitted.separated
  identity := admitted.identity
  filled empty := admitted.filled (empty ▸ perm).eq_nil
  bound reference member := admitted.bound reference (perm.mem_iff.mpr member)
  uris := (perm.map _).nodup_iff.mp admitted.uris
  classes a inA b inB := admitted.classes a (perm.mem_iff.mpr inA) b (perm.mem_iff.mpr inB)

theorem verifyReferences_inOrder :
    verifyReferences env service context authorities (inOrder env references) [] [] = .ok () ↔
      (∀ reference ∈ references, Bound service context authorities reference) ∧
        (references.map (·.uri)).Nodup ∧ OneClass references := by
  have perm := inOrder_perm references
  have inside : ∀ reference, reference ∈ inOrder env references ↔ reference ∈ references :=
    fun reference => perm.mem_iff
  rw [verifyReferences_eq_ok, (perm.map _).nodup_iff]
  simp only [OneClass, inside]
  constructor
  · rintro ⟨bound, uris, -, classes, -⟩
    exact ⟨bound, uris, classes⟩
  · rintro ⟨bound, uris, classes⟩
    refine ⟨bound, uris, fun _ _ => List.not_mem_nil, classes, ?_⟩
    intro reference _ previous found
    cases found

/-- **What `verify` accepts, and what it returns then.** -/
theorem verify_eq_ok_iff {result : VerifiedProductionEvidence env.rules} :
    verify env service context authorities references = .ok result ↔
      Admitted service context authorities references ∧
        result = verified env service context authorities (inOrder env references) := by
  constructor
  · intro returned
    obtain ⟨_, binds, rest⟩ := Except.bind_eq_ok.mp returned
    obtain ⟨_, store, verifier⟩ := Except.bind_eq_ok.mp binds
    obtain ⟨_, frozen, rest⟩ := Except.bind_eq_ok.mp rest
    obtain ⟨_, separated, rest⟩ := Except.bind_eq_ok.mp rest
    obtain ⟨encoded, identity, rest⟩ := Except.bind_eq_ok.mp rest
    obtain ⟨_, filled, rest⟩ := Except.bind_eq_ok.mp rest
    obtain ⟨_, loop, same⟩ := Except.bind_eq_ok.mp rest
    obtain ⟨bound, uris, classes⟩ := verifyReferences_inOrder.mp loop
    cases same
    exact ⟨⟨require_eq_ok.mp store, require_eq_ok.mp verifier, require_eq_ok.mp frozen,
      require_eq_ok.mp separated, ⟨encoded, identity⟩, require_eq_ok.mp filled, bound, uris,
      classes⟩, rfl⟩
  · rintro ⟨admitted, rfl⟩
    obtain ⟨encoded, identity⟩ := admitted.identity
    have loop := verifyReferences_inOrder.mpr ⟨admitted.bound, admitted.uris, admitted.classes⟩
    refine Except.bind_eq_ok.mpr ⟨(), Except.bind_eq_ok.mpr
      ⟨(), require_eq_ok.mpr admitted.store, require_eq_ok.mpr admitted.verifier⟩, ?_⟩
    refine Except.bind_eq_ok.mpr ⟨(), require_eq_ok.mpr admitted.frozen, ?_⟩
    refine Except.bind_eq_ok.mpr ⟨(), require_eq_ok.mpr admitted.separated, ?_⟩
    refine Except.bind_eq_ok.mpr ⟨encoded, identity, ?_⟩
    refine Except.bind_eq_ok.mpr ⟨(), require_eq_ok.mpr admitted.filled, ?_⟩
    exact Except.bind_eq_ok.mpr ⟨(), loop, rfl⟩

theorem sortKey_uri {a b : ProductionFormalEvidenceRef env.rules}
    (same : sortKey env a = sortKey env b) : a.uri = b.uri :=
  congrArg (fun key => (ofLex (ofLex key).2).2) same

/-- **The order of the references does not matter.** -/
theorem verify_perm {result : VerifiedProductionEvidence env.rules}
    (returned : verify env service context authorities references = .ok result)
    (perm : references.Perm references') :
    verify env service context authorities references' = .ok result := by
  obtain ⟨admitted, rfl⟩ := verify_eq_ok_iff.mp returned
  have keys : (references.map (sortKey env)).Nodup := by
    have members := List.Nodup.of_map _ admitted.uris
    exact members.map_on fun a inA b inB same =>
      List.inj_on_of_nodup_map admitted.uris inA inB (sortKey_uri same)
  have ordered : inOrder env references = inOrder env references' :=
    insertionSort_tag_eq_of_perm (sortKey env) perm keys
  exact verify_eq_ok_iff.mpr ⟨admitted.perm perm, by rw [ordered]⟩

/-! ## Distinct objects -/

variable (service) in
/-- The path of the object that a reference lists. -/
def objectOf (reference : ProductionFormalEvidenceRef env.rules) : Names :=
  objectPath service.reader.allowedRoot reference.sha256

variable (service context authorities) in
/-- Each reference lists an object at its place, of one class and from the identity of the class. -/
structure RoleBound (references : List (ProductionFormalEvidenceRef env.rules))
    (result : VerifiedProductionEvidence env.rules) : Prop where
  listed : result.verifiedObjects.Perm references
  stored : ∀ reference ∈ references, ∃ encoded,
    pathFromFileUri env reference.uri = .ok ⟨['/'], objectOf service reference⟩ ∧
      disk.nodes (objectOf service reference) = some (.regular encoded) ∧
      hashOf env encoded = reference.sha256 ∧ encoded.length = reference.byteCount
  oneClass : ∀ a ∈ references, ∀ b ∈ references, objectOf service a = objectOf service b →
    a.evidenceClass = b.evidenceClass
  prescribed : ∀ reference ∈ references,
    reference.producerRole = expectedRole reference.evidenceClass ∧
      (reference.producerId, reference.producerHash) =
        expectedIdentity env service context authorities (expectedRole reference.evidenceClass)
  separated : context.holdoutPlanAuthorityId ∉ otherIds env service authorities ∧
    context.holdoutPlanAuthorityHash ∉ otherHashes env service authorities
  orderless : ∀ references', references.Perm references' →
    verify env service context authorities references' = .ok result

variable (service context authorities) in
/-- The references list distinct objects, as many as there are references, and are bound to their
roles. -/
structure Trusted (references : List (ProductionFormalEvidenceRef env.rules))
    (result : VerifiedProductionEvidence env.rules) : Prop
    extends RoleBound service context authorities references result where
  distinct : (references.map (objectOf service)).Nodup
  counted : result.verifiedObjects.length = (references.map (objectOf service)).toFinset.card

/-- Two references of one class list one hash under two URIs. -/
def Respelled (references : List (ProductionFormalEvidenceRef env.rules)) : Prop :=
  ∃ a ∈ references, ∃ b ∈ references,
    a.evidenceClass = b.evidenceClass ∧ a.sha256 = b.sha256 ∧ a.uri ≠ b.uri

theorem objectOf_inj {a b : ProductionFormalEvidenceRef env.rules} :
    objectOf service a = objectOf service b ↔ a.sha256 = b.sha256 :=
  ⟨objectPath_inj a.digest b.digest, fun same => by rw [objectOf, objectOf, same]⟩

/-- Verified references are bound to their roles. -/
theorem roleBound_of_verify {result : VerifiedProductionEvidence env.rules}
    (returned : verify env service context authorities references = .ok result) :
    RoleBound service context authorities references result := by
  obtain ⟨admitted, rfl⟩ := verify_eq_ok_iff.mp returned
  refine ⟨inOrder_perm references, ?_, ?_, ?_, admitted.separated, fun _ => verify_perm returned⟩
  · intro reference member
    obtain ⟨encoded, read, size⟩ := (admitted.bound reference member).read
    obtain ⟨there, hash⟩ := stored_of_read read
    exact ⟨encoded, (readContentAddressed_eq_ok.mp read).1, there, hash, size⟩
  · exact fun a inA b inB same => admitted.classes a inA b inB (objectOf_inj.mp same)
  · exact fun reference member =>
      ⟨(admitted.bound reference member).role, (admitted.bound reference member).producer⟩

/-- Admitted references list distinct objects exactly when none is spelled in two ways. -/
theorem Admitted.distinct_iff (admitted : Admitted service context authorities references) :
    (references.map (objectOf service)).Nodup ↔ ¬ Respelled references := by
  constructor
  · rintro distinct ⟨a, inA, b, inB, -, hash, uri⟩
    exact uri (congrArg _ (List.inj_on_of_nodup_map distinct inA inB (objectOf_inj.mpr hash)))
  · intro plain
    refine (List.Nodup.of_map _ admitted.uris).map_on fun a inA b inB same => ?_
    have hash := objectOf_inj.mp same
    refine List.inj_on_of_nodup_map admitted.uris inA inB ?_
    by_contra uri
    exact plain ⟨a, inA, b, inB, admitted.classes a inA b inB hash, hash, uri⟩

/-- **Verified evidence is distinct** unless all checks pass for an object of one class that is
listed under two spellings of its URI. -/
theorem trusted_iff (service : ProductionEvidenceVerifier env.rules disk)
    (context : FormalAuthorityContextDescriptor)
    (authorities : FormalEvidenceAuthoritySet env.rules)
    (references : List (ProductionFormalEvidenceRef env.rules)) :
    (∀ result, verify env service context authorities references = .ok result →
      RoleBound service context authorities references result) ∧
    ((∀ result, verify env service context authorities references = .ok result →
      Trusted service context authorities references result) ↔
      ¬ (Admitted service context authorities references ∧ Respelled references)) := by
  refine ⟨fun result => roleBound_of_verify, ?_, ?_⟩
  · rintro trusted ⟨admitted, respelled⟩
    have returned := verify_eq_ok_iff.mpr ⟨admitted, rfl⟩
    exact admitted.distinct_iff.mp (trusted _ returned).distinct respelled
  · intro plain result returned
    have admitted := (verify_eq_ok_iff.mp returned).1
    have bound := roleBound_of_verify returned
    have distinct := admitted.distinct_iff.mpr fun respelled => plain ⟨admitted, respelled⟩
    refine ⟨bound, distinct, ?_⟩
    rw [List.toFinset_card_of_nodup distinct, List.length_map]
    exact bound.listed.length_eq

/-! ### An object that is listed twice -/

/-- What a file system of some files has at a path. -/
def treeNodes (files : List (Names × List UInt8)) (names : Names) : Option Node :=
  match files.lookup names with
  | some content => some (.regular content)
  | none => if ∃ file ∈ files, names <+: file.1 then some .directory else none

theorem treeNodes_ne_none {files : List (Names × List UInt8)} {names : Names} :
    treeNodes files names ≠ none ↔ ∃ file ∈ files, names <+: file.1 := by
  unfold treeNodes
  split
  next content found =>
    refine iff_of_true (Option.some_ne_none _) ?_
    obtain ⟨before, after, split, -⟩ := List.lookup_eq_some_iff.mp found
    exact ⟨(names, content), by simp [split], List.prefix_refl _⟩
  next =>
    by_cases prefixed : ∃ file ∈ files, names <+: file.1
    · simp [prefixed]
    · simp only [prefixed, if_false, ne_eq, not_true_eq_false]

/-- A file system of some files, of which none is on the way to another. -/
def diskOf (files : List (Names × List UInt8)) (filled : files ≠ [])
    (apart : ∀ a ∈ files, ∀ b ∈ files, a.1 <+: b.1 → a.1 = b.1)
    (named : ∀ file ∈ files, file.1 ≠ [] ∧ ∀ name ∈ file.1, Named name ∧ name ≠ ['.', '.']) :
    Disk where
  nodes := treeNodes files
  root := by
    have missing : files.lookup [] = none := by
      refine List.lookup_eq_none_iff.mpr fun file member => ?_
      exact bne_iff_ne.mpr fun same => (named file member).1 same.symm
    obtain ⟨first, rest, rfl⟩ := List.exists_cons_of_ne_nil filled
    rw [treeNodes, missing]
    exact if_pos ⟨first, List.mem_cons_self, List.nil_prefix⟩
  parent names name there := by
    obtain ⟨file, member, below⟩ := treeNodes_ne_none.mp there
    have above : names <+: file.1 := (List.prefix_append names [name]).trans below
    have missing : files.lookup names = none := by
      refine List.lookup_eq_none_iff.mpr fun other listed => bne_iff_ne.mpr fun same => ?_
      have whole := apart other listed file member (same ▸ above)
      have shorter := below.length_le
      rw [← whole, ← same, List.length_append, List.length_singleton] at shorter
      omega
    rw [treeNodes, missing]
    exact if_pos ⟨file, member, above⟩
  named names there name inside := by
    obtain ⟨file, member, above⟩ := treeNodes_ne_none.mp there
    exact (named file member).2 name (above.subset inside)
  lstatFails _ := false
  openFails _ := false
  readFails _ := false

/-- The digest of the byte 1. -/
def objectDigest : Nat := 0x4bf5122f344554c53bde2ebb8cd2b7e3d1600ad631c385a5d7cce23c7785459a

/-- The digest of the byte 2. -/
def identityDigest : Nat := 0xdbc1b4c900ffe48d575b5da5c638040125f65db0fe3e24494b76ea986457d986

/-- The text of a digest. -/
def digestText (digest : Nat) : String := String.ofList (hexText 64 digest)

/-- A digest as the models have it. -/
def fileHash (digest : Nat) : String := "sha256:" ++ digestText digest

theorem fileHash_digits (digest : Nat) : (fileHash digest).toList.drop 7 = hexText 64 digest := by
  have head : "sha256:".toList = ['s', 'h', 'a', '2', '5', '6', ':'] := by decide
  rw [fileHash, String.toList_append, head, digestText, String.toList_ofList]
  exact List.drop_left' rfl

/-- Digests of at most 64 digits are told apart by their hashes. -/
theorem fileHash_inj {digest digest' : Nat} (small : digest < 16 ^ 64) (small' : digest' < 16 ^ 64)
    (same : fileHash digest = fileHash digest') : digest = digest' := by
  have digits : hexText 64 digest = hexText 64 digest' := by
    rw [← fileHash_digits, ← fileHash_digits, same]
  have read := readDigits_hexText 63 digest 0 [] false
  rw [digits, readDigits_hexText 63 digest' 0 [] false, Nat.mod_eq_of_lt small,
    Nat.mod_eq_of_lt small'] at read
  simpa [readDigits] using read.symm

theorem nodup_fileHash {digests : List Nat} (small : ∀ digest ∈ digests, digest < 16 ^ 64)
    (apart : digests.Nodup) : (digests.map fileHash).Nodup :=
  apart.map_on fun a inA b inB => fileHash_inj (small a inA) (small b inB)

/-- The environment of the files, with the digests of both. -/
def fileEnv : ReaderEnv :=
  { probeEnv with
    sha256 := fun encoded =>
      if encoded = [1] then digestText objectDigest
      else if encoded = [2] then digestText identityDigest
      else hexOfBytes ⟨encoded.toArray⟩ }

/-- The path of a file below the root. -/
def storedPath (digest : Nat) : Names :=
  [['e'], "objects".toList, "sha256".toList, (hexText 64 digest).take 2,
    (hexText 64 digest).drop 2]

theorem objectPath_fileHash (digest : Nat) :
    objectPath [['e']] (fileHash digest) = storedPath digest := by
  simp only [objectPath, fileHash_digits]
  rfl

/-- The files, each at its path. -/
def storedFiles : List (Names × List UInt8) :=
  [(storedPath objectDigest, [1]), (storedPath identityDigest, [2])]

/-- The file system of the files. -/
def fileDisk : Disk :=
  diskOf storedFiles (List.cons_ne_nil _ _) (by decide +kernel) (by
    have whole : ∀ file ∈ storedFiles, file.1 ≠ [] ∧ ∀ name ∈ file.1,
        isPart name = true ∧ '/' ∉ name ∧ name ≠ ['.', '.'] := by decide +kernel
    exact fun file member => ⟨(whole file member).1, fun name inside =>
      have part := (whole file member).2 name inside
      ⟨⟨part.1, part.2.1⟩, part.2.2⟩⟩)

/-- The reader of the files. -/
def fileReader : Reader fileDisk where
  allowedRoot := [['e']]
  maxBytes := 4096
  resolved := by decide +kernel
  positive := by decide

/-- The text of the URI of a file, with a host or without one. -/
def uriText (host : List Char) (digest : Nat) : List Char :=
  ['f', 'i', 'l', 'e', ':', '/', '/'] ++ host ++ PurePath.text ⟨['/'], storedPath digest⟩

@[inherit_doc uriText]
def fileUri (host : List Char) (digest : Nat) : String := String.ofList (uriText host digest)

theorem isLocalUri_ofList {rules : UriRules} {text : List Char}
    (short : 1 ≤ text.length ∧ text.length ≤ 4000)
    (passes : (urlSplit rules text).any (isAbsoluteLocal rules) = true)
    (unended : text.rdropWhile (· = '/') = text) : IsLocalUri rules (String.ofList text) := by
  obtain ⟨parsed, taken, isLocal⟩ := (Option.any_eq_true _ _).mp passes
  refine ⟨String.ofList text, ?_, ?_, ?_⟩
  · rw [String.length_ofList]
    exact short.1
  · rw [String.length_ofList]
    exact short.2
  · simp [requireAbsoluteLocalUri, taken, isLocal, unended]

/-- The identity of the verifier. -/
def fileVerifier : FormalEvidenceVerifierIdentity fileEnv.rules where
  verifierId := "verifier"
  verifierVersion := "1"
  executableHash := fileHash identityDigest
  configurationHash := fileHash identityDigest
  sourceCommit := "0123456789abcdef0123456789abcdef01234567"
  attestationScheme := "ed25519"
  attestationKeyId := "key"
  identityEvidenceUri := fileUri [] identityDigest
  identityEvidenceHash := fileHash identityDigest
  identityHash := fileHash identityDigest
  localUri := isLocalUri_ofList (by decide +kernel) (by decide +kernel) (by decide +kernel)
  digest := isSha256_hexText identityDigest

/-- A producer that is named after its role. -/
def producerOf (role : FormalEvidenceProducerRole) (digest : Nat) : FormalProducerIdentity where
  producerRole := role
  producerId := role.value
  producerHash := fileHash digest
  capability := "formal"

/-- The authorities. -/
def fileAuthorities : FormalEvidenceAuthoritySet fileEnv.rules where
  controlPlane := producerOf .controlPlane 1
  measurementProducer := producerOf .measurementProducer 2
  sourceArtifactProducer := producerOf .sourceArtifactProducer 3
  projectOwner := producerOf .projectOwner 4
  independentVerifier := fileVerifier
  expectedRoles := ⟨rfl, rfl, rfl, rfl⟩
  identityIds := by decide +kernel
  identityHashes := @nodup_fileHash [1, 2, 3, 4, identityDigest] (by decide) (by decide)

/-- A verifier of the files. -/
def fileService : ProductionEvidenceVerifier fileEnv.rules fileDisk where
  root :=
    { rootId := "root"
      rootVersion := 1
      maxObjectBytes := 4096
      accessPolicyHash := fileHash identityDigest
      rootHash := fileHash identityDigest }
  verifier := fileVerifier
  reader := fileReader
  bounded := rfl

/-- The authority context of the files. -/
def fileContext : FormalAuthorityContextDescriptor where
  contextHash := fileHash identityDigest
  holdoutPlanAuthorityId := "holdout"
  holdoutPlanAuthorityHash := fileHash objectDigest
  evidenceStore := expectedStore fileEnv fileService
  verifier := expectedVerifier fileEnv fileService

/-- A reference to the first file. -/
def fileReference (host : List Char)
    (localUri : IsLocalUri fileEnv.rules (fileUri host objectDigest)) :
    ProductionFormalEvidenceRef fileEnv.rules where
  evidenceClass := .searchMeasurement
  uri := fileUri host objectDigest
  sha256 := fileHash objectDigest
  byteCount := 1
  producerRole := .measurementProducer
  producerId := "measurement_producer"
  producerHash := fileHash 2
  createdAt := "2026-01-01T00:00:00Z"
  localUri := localUri
  digest := isSha256_hexText objectDigest
  counted := by decide
  producerDigest := isSha256_hexText 2

theorem objectOf_fileReference (host : List Char)
    (localUri : IsLocalUri fileEnv.rules (fileUri host objectDigest)) :
    objectOf fileService (fileReference host localUri) =
      objectPath [['e']] (fileHash objectDigest) := rfl

theorem bound_fileReference {host : List Char}
    {localUri : IsLocalUri fileEnv.rules (fileUri host objectDigest)}
    (read : readContentAddressed fileEnv fileReader (fileUri host objectDigest)
      (fileHash objectDigest) = .ok [1]) :
    Bound fileService fileContext fileAuthorities (fileReference host localUri) :=
  ⟨rfl, rfl, [1], read, rfl⟩

/-- The object without a host in its URI. -/
def plainReference : ProductionFormalEvidenceRef fileEnv.rules :=
  fileReference []
    (isLocalUri_ofList (by decide +kernel) (by decide +kernel) (by decide +kernel))

/-- The object with the local host in its URI. -/
def hostReference : ProductionFormalEvidenceRef fileEnv.rules :=
  fileReference "localhost".toList
    (isLocalUri_ofList (by decide +kernel) (by decide +kernel) (by decide +kernel))

theorem readContentAddressed_file (parsed : SplitUri) {uri sha256 : String} {content : List UInt8}
    (taken : urlSplit fileEnv.rules uri.toList = some parsed)
    (isLocal : parsed.scheme = ['f', 'i', 'l', 'e'] ∧
      (parsed.netloc = [] ∨ parsed.netloc = "localhost".toList))
    (candidate : readPath (unquote fileEnv.rules parsed.path) =
      ⟨['/'], objectPath fileReader.allowedRoot sha256⟩)
    (there : fileDisk.nodes (objectPath fileReader.allowedRoot sha256) = some (.regular content))
    (small : content.length ≤ 4096) (hash : hashOf fileEnv content = sha256) :
    readContentAddressed fileEnv fileReader uri sha256 = .ok content := by
  have served : Served fileDisk (objectPath fileReader.allowedRoot sha256) :=
    ⟨fun _ _ => rfl, fun _ _ => rfl, rfl⟩
  refine readContentAddressed_eq_ok.mpr ⟨?_, ?_⟩
  · refine Except.bind_eq_ok.mpr ⟨parsed, requireSome_eq_ok.mpr taken, ?_⟩
    exact Except.bind_eq_ok.mpr ⟨(), require_eq_ok.mpr isLocal, congrArg Except.ok candidate⟩
  · refine Except.bind_eq_ok.mpr ⟨_, resolveFileUri_eq taken isLocal candidate there served, ?_⟩
    refine Except.bind_eq_ok.mpr ⟨content,
      secureReadPosix_ok (List.cons_ne_nil _ _) there served small, ?_⟩
    exact Except.bind_eq_ok.mpr ⟨(), require_eq_ok.mpr hash, rfl⟩

/-- A file is read by its URI, with a host or without one. -/
theorem readContentAddressed_stored {host : List Char} {digest : Nat} {content : List UInt8}
    (isLocal : host = [] ∨ host = "localhost".toList)
    (taken : urlSplit fileEnv.rules (uriText host digest) =
      some ⟨['f', 'i', 'l', 'e'], host, PurePath.text ⟨['/'], storedPath digest⟩, [], []⟩)
    (candidate : readPath (unquote fileEnv.rules (PurePath.text ⟨['/'], storedPath digest⟩)) =
      ⟨['/'], storedPath digest⟩)
    (there : fileDisk.nodes (storedPath digest) = some (.regular content))
    (small : content.length ≤ 4096) (hash : hashOf fileEnv content = fileHash digest) :
    readContentAddressed fileEnv fileReader (fileUri host digest) (fileHash digest) =
      .ok content := by
  refine readContentAddressed_file (⟨['f', 'i', 'l', 'e'], host,
    PurePath.text ⟨['/'], storedPath digest⟩, [], []⟩ : SplitUri) ?_ ⟨rfl, isLocal⟩ ?_ ?_ small hash
  · rw [fileUri, String.toList_ofList]
    exact taken
  · rw [candidate]
    exact congrArg _ (objectPath_fileHash digest).symm
  · exact (congrArg _ (objectPath_fileHash digest)).trans there

/-- One object passes under two spellings of its URI and is counted twice. -/
theorem respelled_object_verified :
    ∃ result, verify fileEnv fileService fileContext fileAuthorities
        [plainReference, hostReference] = .ok result ∧
      result.verifiedObjects.length = 2 ∧
      (([plainReference, hostReference].map (objectOf fileService)).toFinset.card = 1) ∧
      ¬ Trusted fileService fileContext fileAuthorities [plainReference, hostReference] result := by
  have plainRead : readContentAddressed fileEnv fileReader plainReference.uri
      plainReference.sha256 = .ok [1] :=
    readContentAddressed_stored (.inl rfl) (by decide +kernel) (by decide +kernel)
      (by decide +kernel) (by decide) rfl
  have hostRead : readContentAddressed fileEnv fileReader hostReference.uri
      hostReference.sha256 = .ok [1] :=
    readContentAddressed_stored (.inr rfl) (by decide +kernel) (by decide +kernel)
      (by decide +kernel) (by decide) rfl
  have identityRead : readContentAddressed fileEnv fileReader fileVerifier.identityEvidenceUri
      fileVerifier.identityEvidenceHash = .ok [2] :=
    readContentAddressed_stored (.inl rfl) (by decide +kernel) (by decide +kernel)
      (by decide +kernel) (by decide) rfl
  have bound : ∀ reference ∈ [plainReference, hostReference],
      Bound fileService fileContext fileAuthorities reference :=
    List.forall_mem_cons.mpr ⟨bound_fileReference plainRead,
      List.forall_mem_singleton.mpr (bound_fileReference hostRead)⟩
  have hashes : fileContext.holdoutPlanAuthorityHash ∉
      otherHashes fileEnv fileService fileAuthorities :=
    (List.nodup_cons.mp (@nodup_fileHash [objectDigest, 1, 2, 3, 4, identityDigest]
      (by decide) (by decide))).1
  have uris : ([plainReference, hostReference].map (·.uri)).Nodup := by
    refine List.Nodup.of_map String.toList ?_
    simp only [List.map_cons, List.map_nil, plainReference, hostReference, fileReference, fileUri,
      String.toList_ofList]
    decide +kernel
  have admitted : Admitted fileService fileContext fileAuthorities
      [plainReference, hostReference] := by
    refine ⟨rfl, rfl, rfl, ⟨by decide +kernel, hashes⟩, ⟨[2], identityRead⟩,
      List.cons_ne_nil _ _, bound, uris, fun a inA b inB _ => ?_⟩
    have search : ∀ reference ∈ [plainReference, hostReference],
        reference.evidenceClass = .searchMeasurement :=
      List.forall_mem_cons.mpr ⟨rfl, List.forall_mem_singleton.mpr rfl⟩
    rw [search a inA, search b inB]
  have same : objectOf fileService plainReference = objectOf fileService hostReference :=
    (objectOf_fileReference _ _).trans (objectOf_fileReference _ _).symm
  have returned := verify_eq_ok_iff.mpr ⟨admitted, rfl⟩
  refine ⟨_, returned, ?_, ?_, fun trusted => ?_⟩
  · exact (roleBound_of_verify returned).listed.length_eq
  · simp [same]
  · exact (List.nodup_cons.mp trusted.distinct).1 (List.mem_singleton.mpr same)

end ProductionEvidence

end HcuAutoOpt
