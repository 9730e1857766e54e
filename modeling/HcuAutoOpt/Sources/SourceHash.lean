import HcuAutoOpt.Foundation.CommittedCalls
import HcuAutoOpt.Foundation.Framing
import HcuAutoOpt.Foundation.NamedForests

/-!
# The hash of a source tree

`canonical_source_hash` of `source_hash.py` feeds a source tree into one hash: in the order of
their names, every entry with its kind, its relative path and what it holds, each behind its
length. The Git entry at the root is left out.

A file system lists the entries of a directory in any order (`SourceTree`, whose listings are
lists). Names are bytes, so the tree is a forest of files, links and directories with such names.
-/

set_option autoImplicit false

namespace HcuAutoOpt

namespace SourceHash

open Foundation

/-! ## Source trees -/

/-- A slash. -/
def slash : Byte := 0x2F

/-- A name of a directory entry: not empty, without slash and NUL, and none of the two dots. -/
def IsName (bytes : Bytes) : Prop :=
  bytes ≠ [] ∧ slash ∉ bytes ∧ 0 ∉ bytes ∧ bytes ≠ [0x2E] ∧ bytes ≠ [0x2E, 0x2E]

instance (bytes : Bytes) : Decidable (IsName bytes) :=
  inferInstanceAs (Decidable (_ ∧ _ ∧ _ ∧ _ ∧ _))

/-- A name of a directory entry. -/
abbrev FileName := { bytes : Bytes // IsName bytes }

/-- `.git`. -/
def gitName : FileName := ⟨[0x2E, 0x67, 0x69, 0x74], by decide⟩

/-- An entry that is no directory: a link with its target, a regular file with the execute
permission of its owner and its contents, or anything else. -/
inductive SourceLeaf where
  | symlink (target : Bytes)
  | file (executable : Bool) (contents : Bytes)
  | special
  deriving DecidableEq, Repr

/-- The entries of a directory, in the order in which the file system lists them. -/
abbrev Listing := Forest FileName SourceLeaf

/-- `Path.as_posix` of a relative path. -/
def asPosix (path : List FileName) : Bytes := [slash].intercalate (path.map Subtype.val)

/-- Lengths below 2^64: no file system has larger ones. -/
structure Fits (path : List FileName) (item : ForestItem SourceLeaf) : Prop where
  path : Framable (asPosix path)
  target : ∀ target, item = .leaf (.symlink target) → Framable target
  contents : ∀ executable contents, item = .leaf (.file executable contents) → Framable contents

/-- A source tree: the names of a directory are distinct, and all lengths fit. -/
structure SourceTree where
  listing : Listing
  distinct : listing.Distinct
  fits : ∀ path item, listing.lookup path = some item → Fits path item

/-- A tree of regular files, directories and links. -/
def SourceTree.Plain (tree : SourceTree) : Prop :=
  ∀ path, tree.listing.lookup path ≠ some (.leaf .special)

/-- Two trees have the same entries outside `.git` at their roots: the same names, kinds, execute
permissions, targets, contents and directories. -/
def SourceTree.SameSource (tree other : SourceTree) : Prop :=
  ∀ path, path.head? ≠ some gitName → tree.listing.lookup path = other.listing.lookup path

/-! ## The stream -/

/-- The exceptions of a hash. -/
inductive SourceError where
  | unsupportedSpecialFile (path : List FileName)
  | overflow
  deriving DecidableEq, Repr

/-- `n.to_bytes(8, "big")`. -/
def toBytes8 (n : Nat) : Except SourceError Bytes := do
  require (n < 256 ^ 8) .overflow
  return bigEndian 8 n

/-- `_frame`. -/
def frame (value : Bytes) : Except SourceError Bytes := do
  let length ← toBytes8 value.length
  return length ++ value

/-- The bytes of an ASCII text. -/
def ascii (text : String) : Bytes := text.toList.map fun c => Fin.ofNat 256 c.toNat

/-- What is hashed of an entry that is no directory. -/
def leafBytes (path : List FileName) : SourceLeaf → Except SourceError Bytes
  | .symlink target => do
      let kind ← frame (ascii "symlink")
      let relative ← frame (asPosix path)
      let content ← frame target
      return kind ++ relative ++ content
  | .file executable contents => do
      let kind ← frame (ascii (if executable then "executable" else "file"))
      let relative ← frame (asPosix path)
      let size ← toBytes8 contents.length
      let sizeFrame ← frame size
      return kind ++ relative ++ sizeFrame ++ contents
  | .special => .error (.unsupportedSpecialFile path)

/-- What is hashed of a directory before its entries. -/
def directoryBytes (path : List FileName) : Except SourceError Bytes := do
  let kind ← frame (ascii "directory")
  let relative ← frame (asPosix path)
  return kind ++ relative

/-- One stream after another. -/
def joined : List (Except SourceError Bytes) → Except SourceError Bytes
  | [] => return []
  | first :: others => do
      let bytes ← first
      let rest ← joined others
      return bytes ++ rest

/-- The streams of entries in the order of their names. -/
def inNameOrder (streams : List (FileName × Except SourceError Bytes)) : Except SourceError Bytes :=
  joined ((streams.insertionSort Forest.byName).map Prod.snd)

/-- The stream of each entry below a path. -/
def visitEach (relative : List FileName) :
    Listing → List (FileName × Except SourceError Bytes)
  | .nil => []
  | .leaf name leaf rest =>
      (name, leafBytes (relative ++ [name]) leaf) :: visitEach relative rest
  | .branch name entries rest =>
      (name, do
        let directory ← directoryBytes (relative ++ [name])
        let inside ← inNameOrder (visitEach (relative ++ [name]) entries)
        return directory ++ inside) :: visitEach relative rest

/-- `visit` of the root: everything that is hashed, without `.git`. -/
def sourceStream (tree : SourceTree) : Except SourceError Bytes :=
  inNameOrder (visitEach [] (tree.listing.without gitName))

/-- `canonical_source_hash`. The hash function is a parameter. -/
def canonicalSourceHash (sha256 : Bytes → String) (tree : SourceTree) :
    Except SourceError String := do
  let stream ← sourceStream tree
  return "sha256:" ++ sha256 stream

/-! ## The stream is that of a traversal -/

/-- What is hashed of one entry. -/
def recordBytes (record : List FileName × ForestItem SourceLeaf) : Except SourceError Bytes :=
  match record.2 with
  | .leaf leaf => leafBytes record.1 leaf
  | .branch => directoryBytes record.1

/-- What is hashed of a traversal. -/
def recordsBytes (records : List (List FileName × ForestItem SourceLeaf)) :
    Except SourceError Bytes :=
  joined (records.map recordBytes)

theorem joined_append (streams others : List (Except SourceError Bytes)) :
    joined (streams ++ others) = (do
      let bytes ← joined streams
      let rest ← joined others
      return bytes ++ rest) := by
  induction streams with
  | nil => cases h : joined others <;> simp [joined, h, bind, Except.bind, pure, Except.pure]
  | cons first streams ih =>
      rw [List.cons_append, joined, ih, joined]
      cases first <;> cases joined streams <;> cases joined others <;>
        simp [bind, Except.bind, pure, Except.pure]

theorem joined_flatMap {β : Type} (items : List β) (f : β → List (Except SourceError Bytes)) :
    joined (items.flatMap f) = joined (items.map fun item => joined (f item)) := by
  induction items with
  | nil => rfl
  | cons item items ih => rw [List.flatMap_cons, joined_append, ih, List.map_cons, joined]

/-- Streams in the order of names are the stream of a traversal. -/
theorem inNameOrder_eq {visits : List (FileName × List (List FileName × ForestItem SourceLeaf))} :
    inNameOrder (visits.map fun visit => (visit.1, recordsBytes visit.2)) =
      recordsBytes ((visits.insertionSort Forest.byName).flatMap Prod.snd) := by
  have sorted : (visits.map fun visit => (visit.1, recordsBytes visit.2)).insertionSort
      Forest.byName = (visits.insertionSort Forest.byName).map fun visit =>
        (visit.1, recordsBytes visit.2) :=
    (List.map_insertionSort Forest.byName Forest.byName
      (fun visit => (visit.1, recordsBytes visit.2)) visits fun _ _ _ _ => Iff.rfl).symm
  rw [inNameOrder, sorted, List.map_map, recordsBytes, List.map_flatMap, joined_flatMap]
  rfl

theorem visitEach_eq (listing : Listing) : ∀ relative, visitEach relative listing =
    (listing.visits relative).map fun visit => (visit.1, recordsBytes visit.2) := by
  induction listing with
  | nil => exact fun _ => rfl
  | leaf name leaf rest ih =>
      intro relative
      rw [visitEach, ih, Forest.visits, List.map_cons]
      congr 2
      rw [recordsBytes, List.map_cons, List.map_nil, joined, joined]
      change leafBytes (relative ++ [name]) leaf = (do
        let bytes ← leafBytes (relative ++ [name]) leaf
        let rest ← Except.ok []
        return bytes ++ rest)
      cases leafBytes (relative ++ [name]) leaf <;> simp [bind, Except.bind, pure, Except.pure]
  | branch name entries rest inside ih =>
      intro relative
      rw [visitEach, ih, Forest.visits_branch, List.map_cons, inside, inNameOrder_eq]
      rfl

/-- **The stream of a tree** is that of its traversal. -/
theorem sourceStream_eq (tree : SourceTree) :
    sourceStream tree = recordsBytes ((tree.listing.without gitName).records []) := by
  rw [sourceStream, visitEach_eq, inNameOrder_eq]
  rfl

/-! ## The stream determines the traversal -/

/-- Paths are determined by their texts. -/
theorem asPosix_inj {path other : List FileName} (some_ : path ≠ []) (some_' : other ≠ [])
    (same : asPosix path = asPosix other) : path = other := by
  have split : ∀ {path : List FileName}, path ≠ [] →
      (asPosix path).splitOn slash = path.map Subtype.val := by
    intro path some_
    refine List.splitOn_intercalate slash ?_ (mt List.map_eq_nil_iff.mp some_)
    intro bytes member
    obtain ⟨name, -, rfl⟩ := List.mem_map.mp member
    exact name.2.2.1
  have names := congrArg (List.splitOn slash) same
  rw [split some_, split some_'] at names
  exact List.map_injective_iff.mpr Subtype.val_injective names

theorem toBytes8_eq_ok {n : Nat} {bytes : Bytes} :
    toBytes8 n = .ok bytes ↔ n < 256 ^ 8 ∧ bytes = bigEndian 8 n := by
  simp only [toBytes8, Except.bind_eq_ok, require_eq_ok, exists_const]
  constructor
  · rintro ⟨fits, same⟩
    cases same
    exact ⟨fits, rfl⟩
  · rintro ⟨fits, rfl⟩
    exact ⟨fits, rfl⟩

theorem frame_eq_ok {value bytes : Bytes} :
    frame value = .ok bytes ↔ Framable value ∧ bytes = framed value := by
  simp only [frame, Except.bind_eq_ok, toBytes8_eq_ok]
  constructor
  · rintro ⟨_, ⟨fits, rfl⟩, same⟩
    cases same
    exact ⟨fits, rfl⟩
  · rintro ⟨fits, rfl⟩
    exact ⟨_, ⟨fits, rfl⟩, rfl⟩

/-- The kinds of entries. -/
inductive EntryKind where
  | symlink | executable | file | special | directory
  deriving DecidableEq, Repr

/-- The text of a kind. -/
def EntryKind.text : EntryKind → String
  | .symlink => "symlink"
  | .executable => "executable"
  | .file => "file"
  | .special => "special"
  | .directory => "directory"

/-- The kind of an entry. -/
def kindOf : ForestItem SourceLeaf → EntryKind
  | .leaf (.symlink _) => .symlink
  | .leaf (.file executable _) => if executable then .executable else .file
  | .leaf .special => .special
  | .branch => .directory

theorem framable_kind (kind : EntryKind) : Framable (ascii kind.text) := by
  cases kind <;> decide

theorem kind_inj {kind kind' : EntryKind} (same : ascii kind.text = ascii kind'.text) :
    kind = kind' := by
  cases kind <;> cases kind' <;> first | rfl | exact absurd same (by decide)

/-- What follows the path of an entry. -/
def contentBytes : ForestItem SourceLeaf → Bytes
  | .leaf (.symlink target) => framed target
  | .leaf (.file _ contents) => framed (bigEndian 8 contents.length) ++ contents
  | .leaf .special | .branch => []

/-- **What is hashed of an entry**: its kind, its path and its content. -/
theorem recordBytes_eq_ok {path : List FileName} {item : ForestItem SourceLeaf} {bytes : Bytes} :
    recordBytes (path, item) = .ok bytes ↔ (item ≠ .leaf .special ∧ Framable (asPosix path) ∧
      (∀ target, item = .leaf (.symlink target) → Framable target) ∧
      ∀ executable contents, item = .leaf (.file executable contents) → Framable contents) ∧
        bytes = framed (ascii (kindOf item).text) ++ (framed (asPosix path) ++ contentBytes item) := by
  cases item with
  | branch =>
      have kind : Framable (ascii "directory") := framable_kind .directory
      simp only [recordBytes, directoryBytes, Except.bind_eq_ok, frame_eq_ok]
      constructor
      · rintro ⟨_, ⟨-, rfl⟩, _, ⟨fits, rfl⟩, same⟩
        cases same
        exact ⟨⟨by simp, fits, by simp, by simp⟩, by simp [kindOf, EntryKind.text, contentBytes]⟩
      · rintro ⟨⟨-, fits, -⟩, rfl⟩
        exact ⟨_, ⟨kind, rfl⟩, _, ⟨fits, rfl⟩, by
          simp [kindOf, EntryKind.text, contentBytes, pure, Except.pure]⟩
  | leaf leaf =>
      cases leaf with
      | special => simp [recordBytes, leafBytes]
      | symlink target =>
          have kind : Framable (ascii "symlink") := framable_kind .symlink
          simp only [recordBytes, leafBytes, Except.bind_eq_ok, frame_eq_ok]
          constructor
          · rintro ⟨_, ⟨-, rfl⟩, _, ⟨fits, rfl⟩, _, ⟨content, rfl⟩, same⟩
            cases same
            exact ⟨⟨by simp, fits, by simpa using content, by simp⟩,
              by simp [kindOf, EntryKind.text, contentBytes]⟩
          · rintro ⟨⟨-, fits, content, -⟩, rfl⟩
            exact ⟨_, ⟨kind, rfl⟩, _, ⟨fits, rfl⟩, _, ⟨content target rfl, rfl⟩, by
              simp [kindOf, EntryKind.text, contentBytes, pure, Except.pure]⟩
      | file executable contents =>
          have kind : Framable (ascii (if executable then "executable" else "file")) := by
            cases executable
            · exact framable_kind .file
            · exact framable_kind .executable
          have size : Framable (bigEndian 8 contents.length) := by
            rw [Framable, length_bigEndian]
            decide
          simp only [recordBytes, leafBytes, Except.bind_eq_ok, frame_eq_ok, toBytes8_eq_ok]
          constructor
          · rintro ⟨_, ⟨-, rfl⟩, _, ⟨fits, rfl⟩, _, ⟨content, rfl⟩, _, ⟨-, rfl⟩, same⟩
            cases same
            refine ⟨⟨by simp, fits, by simp, ?_⟩, by
              cases executable <;> simp [kindOf, EntryKind.text, contentBytes]⟩
            intro executable contents same
            cases same
            exact content
          · rintro ⟨⟨-, fits, -, content⟩, rfl⟩
            exact ⟨_, ⟨kind, rfl⟩, _, ⟨fits, rfl⟩, _, ⟨content executable contents rfl, rfl⟩, _,
              ⟨size, rfl⟩, by
                cases executable <;>
                  simp [kindOf, EntryKind.text, contentBytes, pure, Except.pure]⟩

/-- The encoding of an entry below the root. -/
def Encodes (record : List FileName × ForestItem SourceLeaf) (bytes : Bytes) : Prop :=
  record.1 ≠ [] ∧ recordBytes record = .ok bytes

/-- **Contents can be told apart** once the kind is known. -/
theorem contentBytes_append_inj {item item' : ForestItem SourceLeaf} {rest rest' : Bytes}
    (plain : item ≠ .leaf .special) (plain' : item' ≠ .leaf .special)
    (target : ∀ target, item = .leaf (.symlink target) → Framable target)
    (target' : ∀ target, item' = .leaf (.symlink target) → Framable target)
    (content : ∀ executable contents, item = .leaf (.file executable contents) →
      Framable contents)
    (content' : ∀ executable contents, item' = .leaf (.file executable contents) →
      Framable contents)
    (kinds : kindOf item = kindOf item')
    (same : contentBytes item ++ rest = contentBytes item' ++ rest') :
    item = item' ∧ rest = rest' := by
  have size : ∀ contents : Bytes, Framable (bigEndian 8 contents.length) := by
    intro contents
    rw [Framable, length_bigEndian]
    decide
  cases item with
  | branch =>
      cases item' with
      | branch => exact ⟨rfl, same⟩
      | leaf leaf' =>
          cases leaf' with
          | symlink _ => cases kinds
          | special => exact absurd rfl plain'
          | file executable _ => cases executable <;> cases kinds
  | leaf leaf =>
      cases leaf with
      | special => exact absurd rfl plain
      | symlink text =>
          cases item' with
          | branch => cases kinds
          | leaf leaf' =>
              cases leaf' with
              | special => exact absurd rfl plain'
              | file executable _ => cases executable <;> cases kinds
              | symlink text' =>
                  obtain ⟨rfl, rest⟩ := framed_append_inj (target text rfl) (target' text' rfl) same
                  exact ⟨rfl, rest⟩
      | file executable contents =>
          cases item' with
          | branch => cases executable <;> cases kinds
          | leaf leaf' =>
              cases leaf' with
              | special => exact absurd rfl plain'
              | symlink _ => cases executable <;> cases kinds
              | file executable' contents' =>
                  have executables : executable = executable' := by
                    cases executable <;> cases executable' <;> first | rfl | cases kinds
                  subst executables
                  simp only [contentBytes, List.append_assoc] at same
                  obtain ⟨sizes, tails⟩ := framed_append_inj (size contents) (size contents') same
                  have lengths := bigEndian_inj (content executable contents rfl)
                    (content' executable contents' rfl) sizes
                  obtain ⟨rfl, rest⟩ := List.append_inj tails lengths
                  exact ⟨rfl, rest⟩

/-- **Entries can be told apart** in front of anything. -/
theorem encodes_prefixFree : PrefixFree Encodes := by
  rintro ⟨path, item⟩ ⟨path', item'⟩ bytes bytes' rest rest' ⟨some_, encoded⟩ ⟨some_', encoded'⟩ same
  obtain ⟨⟨plain, fits, target, content⟩, rfl⟩ := recordBytes_eq_ok.mp encoded
  obtain ⟨⟨plain', fits', target', content'⟩, rfl⟩ := recordBytes_eq_ok.mp encoded'
  simp only [List.append_assoc] at same
  obtain ⟨kinds, same⟩ := framed_append_inj (framable_kind _) (framable_kind _) same
  obtain ⟨paths, same⟩ := framed_append_inj fits fits' same
  obtain ⟨items, rests⟩ := contentBytes_append_inj plain plain' target target' content content'
    (kind_inj kinds) same
  exact ⟨Prod.ext (asPosix_inj some_ some_' paths) items, rests⟩

theorem not_encodes_nil (record : List FileName × ForestItem SourceLeaf) : ¬Encodes record [] := by
  rintro ⟨-, encoded⟩
  obtain ⟨-, empty⟩ := recordBytes_eq_ok.mp encoded
  have lengths := congrArg List.length empty
  simp only [framed, List.length_append, length_bigEndian, List.length_nil] at lengths
  omega

/-- The stream of records is made of their encodings. -/
theorem recordsBytes_eq_ok {records : List (List FileName × ForestItem SourceLeaf)} :
    ∀ {bytes : Bytes}, (∀ record ∈ records, record.1 ≠ []) →
      recordsBytes records = .ok bytes → EncodesAll Encodes records bytes := by
  induction records with
  | nil =>
      intro bytes _ encoded
      cases encoded
      exact .nil
  | cons record records ih =>
      intro bytes below encoded
      simp only [recordsBytes, List.map_cons, joined, Except.bind_eq_ok] at encoded
      obtain ⟨first, encodes, rest, others, same⟩ := encoded
      cases same
      obtain ⟨some_, below⟩ := List.forall_mem_cons.mp below
      exact .cons ⟨some_, encodes⟩ (ih below others)

/-- Records that can be encoded have a stream. -/
theorem exists_recordsBytes {records : List (List FileName × ForestItem SourceLeaf)}
    (encodable : ∀ record ∈ records, ∃ bytes, recordBytes record = .ok bytes) :
    ∃ bytes, recordsBytes records = .ok bytes := by
  induction records with
  | nil => exact ⟨[], rfl⟩
  | cons record records ih =>
      obtain ⟨⟨bytes, first⟩, others⟩ := List.forall_mem_cons.mp encodable
      obtain ⟨rest, later⟩ := ih others
      refine ⟨bytes ++ rest, ?_⟩
      simp only [recordsBytes, List.map_cons, joined, Except.bind_eq_ok]
      exact ⟨bytes, first, rest, later, rfl⟩

/-! ## The hash -/

/-- Trees with the same source have the same lookups without `.git`. -/
theorem sameSource_iff {tree other : SourceTree} : tree.SameSource other ↔ ∀ path,
    (tree.listing.without gitName).lookup path = (other.listing.without gitName).lookup path := by
  constructor
  · intro same path
    cases path with
    | nil => simp
    | cons first path =>
        rw [Forest.lookup_without, Forest.lookup_without]
        split
        · rfl
        · rename_i different
          exact same (first :: path) (by simpa using different)
  · intro same path outside
    cases path with
    | nil => simp
    | cons first path =>
        have here := same (first :: path)
        have different : first ≠ gitName := by simpa using outside
        rwa [Forest.lookup_without, Forest.lookup_without, if_neg different,
          if_neg different] at here

/-- The records of a tree are those of its entries outside `.git`. -/
theorem mem_records_source {tree : SourceTree} {path : List FileName}
    {item : ForestItem SourceLeaf}
    (member : (path, item) ∈ (tree.listing.without gitName).records []) :
    path ≠ [] ∧ tree.listing.lookup path = some item := by
  obtain ⟨inner, here, found⟩ :=
    (Forest.mem_records_iff (tree.distinct.without gitName)).mp member
  rw [List.nil_append] at here
  obtain rfl : path = inner := here
  cases path with
  | nil => simp at found
  | cons first path =>
      rw [Forest.lookup_without] at found
      split at found
      · cases found
      · exact ⟨List.cons_ne_nil _ _, found⟩

/-- **A plain tree has a stream.** -/
theorem exists_sourceStream {tree : SourceTree} (plain : tree.Plain) :
    ∃ stream, sourceStream tree = .ok stream := by
  rw [sourceStream_eq]
  refine exists_recordsBytes fun ⟨path, item⟩ member => ?_
  obtain ⟨-, found⟩ := mem_records_source member
  have fits := tree.fits path item found
  refine ⟨_, recordBytes_eq_ok.mpr ⟨⟨?_, fits.path, fits.target, fits.contents⟩, rfl⟩⟩
  rintro rfl
  exact plain path found

/-- **The stream determines the source.** -/
theorem sourceStream_inj {tree other : SourceTree} {stream : Bytes}
    (streams : sourceStream tree = .ok stream) (streams' : sourceStream other = .ok stream) :
    tree.SameSource other := by
  rw [sourceStream_eq] at streams streams'
  have same := encodes_prefixFree.list not_encodes_nil
    (recordsBytes_eq_ok (fun _ member => (mem_records_source member).1) streams)
    (recordsBytes_eq_ok (fun _ member => (mem_records_source member).1) streams')
  exact sameSource_iff.mpr ((Forest.records_eq_iff (tree.distinct.without gitName)
    (other.distinct.without gitName)).mp same)

/-- **The source determines the stream**, whatever the order of the listings. -/
theorem sourceStream_eq_of_sameSource {tree other : SourceTree} (same : tree.SameSource other) :
    sourceStream tree = sourceStream other := by
  rw [sourceStream_eq, sourceStream_eq, (Forest.records_eq_iff (tree.distinct.without gitName)
    (other.distinct.without gitName)).mpr (sameSource_iff.mp same)]

theorem canonicalSourceHash_eq_ok {sha256 : Bytes → String} {tree : SourceTree} {stream : Bytes}
    (streams : sourceStream tree = .ok stream) :
    canonicalSourceHash sha256 tree = .ok ("sha256:" ++ sha256 stream) := by
  rw [canonicalSourceHash, streams]
  rfl

/-- **The hash is that of the source.** Two trees of regular files, directories and links have a
hash each, and the hashes agree exactly when the trees have the same source outside `.git`, as
long as the hash function does not collide on their streams. A file system that lists the entries
in another order does not change the hash. -/
theorem canonicalSourceHash_framing (sha256 : Bytes → String) (tree other : SourceTree)
    (plain : tree.Plain) (plain' : other.Plain)
    (collisionFree : ∀ stream stream', sourceStream tree = .ok stream →
      sourceStream other = .ok stream' → sha256 stream = sha256 stream' → stream = stream') :
    (∃ digest digest', canonicalSourceHash sha256 tree = .ok digest ∧
      canonicalSourceHash sha256 other = .ok digest' ∧
        (digest = digest' ↔ tree.SameSource other)) ∧
      (tree.listing.Relisted other.listing →
        canonicalSourceHash sha256 tree = canonicalSourceHash sha256 other) := by
  obtain ⟨stream, streams⟩ := exists_sourceStream plain
  obtain ⟨stream', streams'⟩ := exists_sourceStream plain'
  refine ⟨⟨_, _, canonicalSourceHash_eq_ok streams, canonicalSourceHash_eq_ok streams', ?_⟩, ?_⟩
  · constructor
    · intro digests
      have hashes : sha256 stream = sha256 stream' := by simpa using digests
      obtain rfl := collisionFree stream stream' streams streams' hashes
      exact sourceStream_inj streams streams'
    · intro same
      have equal := sourceStream_eq_of_sameSource same
      rw [streams, streams'] at equal
      rw [Except.ok.inj equal]
  · intro relisted
    have same : tree.SameSource other := fun path _ =>
      relisted.lookup_eq tree.distinct path
    rw [canonicalSourceHash, canonicalSourceHash, sourceStream_eq_of_sameSource same]

/-! ### Two small trees -/

/-- The name `a`. -/
def nameA : FileName := ⟨[0x61], by decide⟩

/-- The name `b`. -/
def nameB : FileName := ⟨[0x62], by decide⟩

/-- An empty directory `a` and a file `b`. -/
def smallListing (executable : Bool) : Listing :=
  .branch nameA .nil (.leaf nameB (.file executable [0x78]) .nil)

theorem smallListing_lookup {executable : Bool} {path : List FileName}
    {item : ForestItem SourceLeaf} (found : (smallListing executable).lookup path = some item) :
    (path = [nameA] ∧ item = .branch) ∨
      (path = [nameB] ∧ item = .leaf (.file executable [0x78])) := by
  cases path with
  | nil => cases found
  | cons first path =>
      simp only [smallListing, Forest.lookup] at found
      split at found
      · rename_i here
        split at found
        · rename_i single
          cases found
          exact .inl ⟨by rw [here, single], rfl⟩
        · cases path <;> cases found
      · split at found
        · rename_i here
          split at found
          · rename_i single
            cases found
            exact .inr ⟨by rw [here, single], rfl⟩
          · cases found
        · cases found

/-- The tree of `smallListing`. -/
def smallTree (executable : Bool) : SourceTree where
  listing := smallListing executable
  distinct := ⟨(by decide : nameA ∉ [nameB]), trivial, List.not_mem_nil, trivial⟩
  fits path item found := by
    rcases smallListing_lookup found with ⟨rfl, rfl⟩ | ⟨rfl, rfl⟩
    · exact ⟨by decide, by simp, by simp⟩
    · refine ⟨by decide, by simp, ?_⟩
      intro executable contents same
      cases same
      decide

theorem smallTree_plain (executable : Bool) : (smallTree executable).Plain := by
  intro path found
  rcases smallListing_lookup found with ⟨-, same⟩ | ⟨-, same⟩ <;> cases same

/-- SHA-256 of the streams of the two small trees. -/
def smallDigest (stream : Bytes) : String :=
  if sourceStream (smallTree false) = .ok stream then
    "d49d97b766ef9c735545dc76ea322fe99d667aa8e08e30a3d613a5fe12281806"
  else "7f96981773db335c83092acee46b411df8cf4c7906b34f4c3f1f19f49907057a"

/-- The execute permission changes the hash. -/
theorem canonicalSourceHash_executable :
    ∃ digest digest', canonicalSourceHash smallDigest (smallTree false) = .ok digest ∧
      canonicalSourceHash smallDigest (smallTree true) = .ok digest' ∧ digest ≠ digest' := by
  have collisionFree : ∀ stream stream', sourceStream (smallTree false) = .ok stream →
      sourceStream (smallTree true) = .ok stream' → smallDigest stream = smallDigest stream' →
        stream = stream' := by
    intro stream stream' streams streams' same
    rw [smallDigest, if_pos streams, smallDigest] at same
    split at same
    · rename_i streams''
      rw [streams] at streams''
      exact Except.ok.inj streams''
    · exact absurd same (by decide)
  obtain ⟨⟨digest, digest', hashes, hashes', equal⟩, -⟩ := canonicalSourceHash_framing smallDigest
    (smallTree false) (smallTree true) (smallTree_plain false) (smallTree_plain true) collisionFree
  refine ⟨digest, digest', hashes, hashes', fun same => ?_⟩
  have here := equal.mp same [nameB] (by decide)
  exact absurd here (by decide)

end SourceHash

end HcuAutoOpt
