import HcuAutoOpt.Evaluation.EvidenceReader
import HcuAutoOpt.Foundation.CheckedFolds
import HcuAutoOpt.Measurement.LoneCall
import Mathlib.Data.List.Infix

/-!
# Written evidence is read back, and nothing else is

What the reader returns is a regular file below its root with the expected hash, and, for
documents, the canonical encoding of an object that repeats no name. What it raises has a code,
unless the URI cannot be taken apart: `urlparse` then raises `ValueError` before any check
(`failsClosed_iff`).
-/

set_option autoImplicit false

namespace HcuAutoOpt

namespace EvidenceReading

open Foundation

/-! ## Errors with a code -/

/-- `EvidenceReadError`. -/
def ReadError.IsCoded : ReadError → Prop
  | .evidence _ _ => True
  | .valueError => False

/-- A result that is no error, or an error with a code. -/
def Coded {α : Type} (result : Except ReadError α) : Prop :=
  ∀ error, result = .error error → error.IsCoded

section Coded

variable {α β : Type}

theorem coded_ok (value : α) : Coded (.ok value : Except ReadError α) := by
  intro error failed
  cases failed

theorem coded_error (code message : String) :
    Coded (.error (.evidence code message) : Except ReadError α) := by
  intro error failed
  cases failed
  trivial

theorem Coded.bind {x : Except ReadError α} {f : α → Except ReadError β} (first : Coded x)
    (rest : ∀ value, x = .ok value → Coded (f value)) : Coded (x >>= f) := by
  intro error failed
  cases x with
  | error early =>
      cases failed
      exact first _ rfl
  | ok value => exact rest value rfl error failed

theorem coded_require {condition : Prop} [Decidable condition] (code message : String) :
    Coded (require condition (.evidence code message)) := by
  unfold require
  split
  · exact coded_ok ()
  · exact coded_error code message

theorem coded_requireSome (found : Option α) (code message : String) :
    Coded (requireSome found (.evidence code message)) := by
  cases found with
  | none => exact coded_error code message
  | some value => exact coded_ok value

theorem Coded.map {x : Except ReadError α} (first : Coded x) (f : α → β) : Coded (x.map f) := by
  intro error failed
  cases x with
  | error early =>
      cases failed
      exact first _ rfl
  | ok value => cases failed

end Coded

variable {disk : Disk} {env : ReaderEnv} {reader : Reader disk}

theorem rejectSymlinks_coded (cursor relative : Names) :
    Coded (rejectSymlinks disk cursor relative) := by
  induction relative generalizing cursor with
  | nil => exact coded_ok ()
  | cons part relative ih =>
      exact (coded_require _ _).bind fun _ _ => (coded_require _ _).bind fun _ _ => ih _

theorem openDirectories_coded (code message : String) (cursor parts : Names) :
    Coded (openDirectories (.evidence code message) disk cursor parts) := by
  induction parts generalizing cursor with
  | nil => exact coded_require _ _
  | cons part parts ih => exact (coded_require _ _).bind fun _ _ => ih _

theorem secureReadPosix_coded (names : Names) : Coded (secureReadPosix reader names) := by
  refine (coded_require _ _).bind fun _ _ => (openDirectories_coded _ _ _ _).bind fun _ _ =>
    (coded_require _ _).bind fun _ _ => (coded_require _ _).bind fun _ _ => ?_
  split
  · exact (coded_require _ _).bind fun _ _ => (coded_require _ _).bind fun _ _ =>
      (coded_require _ _).bind fun _ _ => coded_ok _
  · exact coded_error _ _

/-- A URI that can be taken apart is resolved, or an error with a code is raised. -/
theorem resolveFileUri_coded {uri : List Char} (accepted : urlSplit env.rules uri ≠ none) :
    Coded (resolveFileUri env reader uri) := by
  obtain ⟨parsed, taken⟩ := Option.ne_none_iff_exists'.mp accepted
  unfold resolveFileUri
  rw [taken]
  exact (coded_ok _).bind fun _ _ => (coded_require _ _).bind fun _ _ =>
    (coded_require _ _).bind fun _ _ => (coded_require _ _).bind fun _ _ =>
    (coded_require _ _).bind fun _ _ => (rejectSymlinks_coded _ _).bind fun _ _ =>
    (coded_require _ _).bind fun _ _ => coded_ok _

theorem readRawBytes_coded {uri : List Char} {expectedHash : String}
    (accepted : urlSplit env.rules uri ≠ none) : Coded (readRawBytes env reader uri expectedHash) :=
  (resolveFileUri_coded accepted).bind fun path _ => (secureReadPosix_coded path).bind fun _ _ =>
    (coded_require _ _).bind fun _ _ => coded_ok _

theorem readDocument_coded {uri : List Char} {expectedHash : String}
    (accepted : urlSplit env.rules uri ≠ none) :
    Coded (readDocument env reader uri expectedHash) := by
  refine (resolveFileUri_coded accepted).bind fun path _ =>
    (secureReadPosix_coded path).bind fun _ _ => (coded_require _ _).bind fun _ _ =>
    (coded_requireSome _ _ _).bind fun value _ => ?_
  split
  · exact (coded_require _ _).bind fun _ _ => (coded_requireSome _ _ _).bind fun _ _ =>
      (coded_require _ _).bind fun _ _ => coded_ok _
  · exact coded_error _ _

/-- A URI that cannot be taken apart makes `urlparse` raise. -/
theorem resolveFileUri_valueError {uri : List Char} (refused : urlSplit env.rules uri = none) :
    resolveFileUri env reader uri = .error .valueError := by
  unfold resolveFileUri
  rw [refused]
  rfl

/-! ## What is returned -/

/-- What is on the way to something is a directory. -/
theorem Disk.directory_of_below (disk : Disk) (names : Names) :
    ∀ after : Names, after ≠ [] → disk.nodes (names ++ after) ≠ none →
      disk.nodes names = some .directory := by
  intro after
  induction after using List.reverseRecOn with
  | nil => exact fun empty => absurd rfl empty
  | append_singleton after name ih =>
      intro _ there
      rw [← List.append_assoc] at there
      have above := disk.parent _ _ there
      rcases List.eq_nil_or_concat after with rfl | ⟨before, last, rfl⟩
      · rwa [List.append_nil] at above
      · refine ih (by simp) ?_
        rw [above]
        exact Option.some_ne_none _

/-- A regular file below the root, with a directory at each step of the way. -/
def Reached (reader : Reader disk) (encoded : List UInt8) : Prop :=
  ∃ relative : Names, relative ≠ [] ∧
    disk.nodes (reader.allowedRoot ++ relative) = some (.regular encoded) ∧
    ∀ before after, relative = before ++ after → after ≠ [] →
      disk.nodes (reader.allowedRoot ++ before) = some .directory

/-- The bytes are the canonical encoding of the object that they are read as, and no object in
them has a name twice. -/
def Canonical (env : ReaderEnv) (encoded : List UInt8) (fields : Json.Object) : Prop :=
  encoded = (Json.canonicalBytes (.obj fields)).data.toList ∧
    ∃ text tree, decodeUtf8 encoded = some text ∧
      Json.parse env.numbers env.deepest text = some tree ∧
      tree.dicts.encode = some (.obj fields) ∧ Json.Distinct tree

/-- **The loop reads up to a bound.** -/
theorem readChunks_eq (remaining : Nat) (content : List UInt8) :
    readChunks remaining content = content.take remaining := by
  induction remaining, content using readChunks.induct with
  | case1 remaining content chunk empty =>
      rw [readChunks]
      simp only [chunk] at empty
      rw [if_pos empty]
      rcases List.take_eq_nil_iff.mp empty with zero | rfl
      · have none : remaining = 0 := by omega
        rw [none, List.take_zero]
      · rw [List.take_nil]
  | case2 remaining content chunk filled ih =>
      rw [readChunks]
      simp only [chunk] at filled ih
      rw [if_neg filled, ih, List.length_take]
      have within : min (min (1024 * 1024) remaining) content.length ≤ remaining := by omega
      have whole : content.take (min (1024 * 1024) remaining) =
          content.take (min (min (1024 * 1024) remaining) content.length) := by
        rw [List.take_eq_take_iff]
        omega
      rw [whole, ← List.take_add, Nat.add_sub_cancel' within]

theorem secureReadPosix_eq_ok {names relative : Names} {encoded : List UInt8}
    (below : names = reader.allowedRoot ++ relative)
    (opened : secureReadPosix reader names = .ok encoded) :
    relative ≠ [] ∧ disk.nodes names = some (.regular encoded) := by
  obtain ⟨_, filled, walk⟩ := Except.bind_eq_ok.mp opened
  obtain ⟨_, _, final⟩ := Except.bind_eq_ok.mp walk
  obtain ⟨_, _, bounded⟩ := Except.bind_eq_ok.mp final
  obtain ⟨_, _, looked⟩ := Except.bind_eq_ok.mp bounded
  rw [require_eq_ok, below, List.drop_left] at filled
  refine ⟨filled, ?_⟩
  split at looked
  next content there =>
    obtain ⟨_, small, loop⟩ := Except.bind_eq_ok.mp looked
    obtain ⟨_, _, compared⟩ := Except.bind_eq_ok.mp loop
    obtain ⟨_, _, same⟩ := Except.bind_eq_ok.mp compared
    rw [require_eq_ok] at small
    rw [readChunks_eq, List.take_of_length_le (by omega)] at same
    cases same
    exact there
  next => cases looked

theorem resolveFileUri_eq_ok {uri : List Char} {names : Names}
    (resolved : resolveFileUri env reader uri = .ok names) :
    ∃ relative, names = reader.allowedRoot ++ relative := by
  obtain ⟨parsed, _, checks⟩ := Except.bind_eq_ok.mp resolved
  obtain ⟨_, _, absolute⟩ := Except.bind_eq_ok.mp checks
  obtain ⟨_, _, traversal⟩ := Except.bind_eq_ok.mp absolute
  obtain ⟨_, _, below⟩ := Except.bind_eq_ok.mp traversal
  obtain ⟨_, inside, links⟩ := Except.bind_eq_ok.mp below
  obtain ⟨_, _, exists_⟩ := Except.bind_eq_ok.mp links
  obtain ⟨_, _, same⟩ := Except.bind_eq_ok.mp exists_
  cases same
  obtain ⟨relative, parts⟩ := (require_eq_ok.mp inside).2
  exact ⟨relative, parts.symm⟩

/-- The file behind a URI is below the root. -/
theorem reached_of_read {uri : List Char} {names : Names} {encoded : List UInt8}
    (resolved : resolveFileUri env reader uri = .ok names)
    (opened : secureReadPosix reader names = .ok encoded) : Reached reader encoded := by
  obtain ⟨relative, below⟩ := resolveFileUri_eq_ok resolved
  obtain ⟨filled, there⟩ := secureReadPosix_eq_ok below opened
  rw [below] at there
  refine ⟨relative, filled, there, ?_⟩
  rintro before after rfl rest
  refine disk.directory_of_below _ after rest ?_
  rw [List.append_assoc, there]
  exact Option.some_ne_none _

/-- **What `read_raw_bytes` returns.** -/
theorem readRawBytes_eq_ok {uri : List Char} {expectedHash : String} {encoded : List UInt8}
    (returned : readRawBytes env reader uri expectedHash = .ok encoded) :
    hashOf env encoded = expectedHash ∧ Reached reader encoded := by
  obtain ⟨path, resolved, onward⟩ := Except.bind_eq_ok.mp returned
  obtain ⟨content, opened, hashed⟩ := Except.bind_eq_ok.mp onward
  obtain ⟨_, hash, same⟩ := Except.bind_eq_ok.mp hashed
  cases same
  exact ⟨require_eq_ok.mp hash, reached_of_read resolved opened⟩

theorem decodeUtf8_canonicalBytes (value : Json) :
    decodeUtf8 value.canonicalBytes.data.toList = some value.canonicalText.toList := by
  rw [Json.canonicalBytes, ← textBytes_toList, decodeUtf8_textBytes]

/-- **What `read` and `read_bytes` return.** -/
theorem readDocument_eq_ok (lawful : env.numbers.Lawful) (room : maxRawJsonDepth ≤ env.deepest)
    {uri : List Char} {expectedHash : String} {encoded : List UInt8} {fields : Json.Object}
    (returned : readDocument env reader uri expectedHash = .ok (encoded, fields)) :
    hashOf env encoded = expectedHash ∧ Reached reader encoded ∧
      Canonical env encoded fields := by
  obtain ⟨path, resolved, onward⟩ := Except.bind_eq_ok.mp returned
  obtain ⟨content, opened, hashed⟩ := Except.bind_eq_ok.mp onward
  obtain ⟨_, hash, parsing⟩ := Except.bind_eq_ok.mp hashed
  obtain ⟨value, loaded, judged⟩ := Except.bind_eq_ok.mp parsing
  split at judged
  next pairs =>
    obtain ⟨_, within, printing⟩ := Except.bind_eq_ok.mp judged
    obtain ⟨found, printed, comparing⟩ := Except.bind_eq_ok.mp printing
    obtain ⟨_, compared, same⟩ := Except.bind_eq_ok.mp comparing
    cases same
    have bytes := require_eq_ok.mp compared
    have encodes : (Json.Loaded.obj pairs).encode = some (.obj fields) := by
      rw [Json.Loaded.encode, requireSome_eq_ok.mp printed, Option.map_some]
    obtain ⟨text, decoded, loads⟩ := Option.bind_eq_some_iff.mp (requireSome_eq_ok.mp loaded)
    obtain ⟨tree, parsed, dicts⟩ := Option.map_eq_some_iff.mp loads
    have whole : (Json.canonicalText (.obj fields)).toList = text := by
      have again := decodeUtf8_canonicalBytes (.obj fields)
      rw [bytes, decoded] at again
      exact (Option.some.inj again).symm
    rw [← dicts] at encodes within
    exact ⟨require_eq_ok.mp hash, reached_of_read resolved opened, bytes.symm, text, tree, decoded,
      parsed, encodes, Json.distinct_of_canonical lawful room parsed (require_eq_ok.mp within)
        encodes whole⟩
  next => cases judged

/-! ## Written evidence is read back -/

/-- The names of the path of evidence. -/
def namesOf (path : Evidence.Path) : Names :=
  (readPath path.parent.toList).parts ++ [path.name.toList]

/-- `Path.as_uri` of the path of evidence. -/
def evidenceUri (path : Evidence.Path) : String := String.ofList (asUri ⟨['/'], namesOf path⟩)

/-- No call on the way to a file fails. -/
structure Served (disk : Disk) (names : Names) : Prop where
  lstat : ∀ before ∈ names.inits, disk.lstatFails before = false
  opens : ∀ before ∈ names.inits, disk.openFails before = false
  reads : disk.readFails names = false

theorem rejectSymlinks_ok {names : Names} (served : Served disk names)
    (there : ∃ content, disk.nodes names = some (.regular content)) :
    ∀ cursor relative, cursor ++ relative = names →
      rejectSymlinks disk cursor relative = .ok () := by
  obtain ⟨content, there⟩ := there
  intro cursor relative
  induction relative generalizing cursor with
  | nil => exact fun _ => rfl
  | cons part relative ih =>
      intro whole
      have onward : cursor ++ [part] ++ relative = names := by
        rw [List.append_assoc]
        exact whole
      have step : disk.nodes (cursor ++ [part]) ≠ some .symlink := by
        rcases List.eq_nil_or_concat relative with rfl | ⟨before, last, more⟩
        · rw [List.append_nil] at onward
          rw [onward, there]
          exact fun same => by cases same
        · have below := disk.directory_of_below (cursor ++ [part]) relative
            (by rw [more]; simp) (by rw [onward, there]; exact Option.some_ne_none _)
          rw [below]
          exact fun same => by cases same
      have looks : disk.lstatFails (cursor ++ [part]) = false :=
        served.lstat _ ((List.mem_inits _ _).mpr ⟨relative, onward⟩)
      exact Except.bind_eq_ok.mpr ⟨(), require_eq_ok.mpr looks, Except.bind_eq_ok.mpr
        ⟨(), require_eq_ok.mpr step, ih _ onward⟩⟩

theorem openDirectories_ok {names : Names} {content : List UInt8} {unreadable : ReadError}
    (served : Served disk names) (there : disk.nodes names = some (.regular content)) :
    ∀ cursor parts last, cursor ++ parts ++ [last] = names →
      openDirectories unreadable disk cursor parts = .ok () := by
  intro cursor parts
  induction parts generalizing cursor with
  | nil =>
      intro last whole
      rw [List.append_nil] at whole
      refine require_eq_ok.mpr ⟨served.opens _ ((List.mem_inits _ _).mpr ⟨[last], whole⟩), ?_⟩
      refine disk.parent cursor last ?_
      rw [whole, there]
      exact Option.some_ne_none _
  | cons part parts ih =>
      intro last whole
      have onward : cursor ++ [part] ++ parts ++ [last] = names := by
        simpa using whole
      have opened : disk.openFails cursor = false :=
        served.opens _ ((List.mem_inits _ _).mpr ⟨part :: parts ++ [last], by simpa using whole⟩)
      have directory := disk.directory_of_below cursor (part :: parts ++ [last]) (by simp)
        (by rw [← List.append_assoc, whole, there]; exact Option.some_ne_none _)
      exact Except.bind_eq_ok.mpr ⟨(), require_eq_ok.mpr ⟨opened, directory⟩, ih _ last onward⟩

/-- **A file below the root is found** by a local URI whose path is the one of the file. -/
theorem resolveFileUri_eq {uri : List Char} {parsed : SplitUri} {relative : Names}
    {content : List UInt8} (taken : urlSplit env.rules uri = some parsed)
    (isLocal : parsed.scheme = ['f', 'i', 'l', 'e'] ∧
      (parsed.netloc = [] ∨ parsed.netloc = "localhost".toList))
    (candidate : readPath (unquote env.rules parsed.path) =
      ⟨['/'], reader.allowedRoot ++ relative⟩)
    (there : disk.nodes (reader.allowedRoot ++ relative) = some (.regular content))
    (served : Served disk (reader.allowedRoot ++ relative)) :
    resolveFileUri env reader uri = .ok (reader.allowedRoot ++ relative) := by
  have present : disk.nodes (reader.allowedRoot ++ relative) ≠ none := by
    rw [there]
    exact Option.some_ne_none _
  have traversal : (reader.allowedRoot ++ relative).contains ['.', '.'] = false := by
    rw [← Bool.not_eq_true, List.contains_iff_mem]
    exact fun member => (disk.named _ present _ member).2 rfl
  have links := rejectSymlinks_ok served ⟨content, there⟩ reader.allowedRoot relative rfl
  unfold resolveFileUri
  rw [taken]
  refine Except.bind_eq_ok.mpr ⟨_, rfl, ?_⟩
  dsimp only
  rw [candidate]
  refine Except.bind_eq_ok.mpr ⟨(), require_eq_ok.mpr isLocal, ?_⟩
  refine Except.bind_eq_ok.mpr ⟨(), require_eq_ok.mpr (List.cons_ne_nil _ _), ?_⟩
  refine Except.bind_eq_ok.mpr ⟨(), require_eq_ok.mpr traversal, ?_⟩
  refine Except.bind_eq_ok.mpr ⟨(), require_eq_ok.mpr ⟨rfl, List.prefix_append _ _⟩, ?_⟩
  refine Except.bind_eq_ok.mpr ⟨(), by rw [List.drop_left]; exact links, ?_⟩
  exact Except.bind_eq_ok.mpr ⟨(), require_eq_ok.mpr ⟨present, served.lstat⟩, rfl⟩

/-- **A file below the root is found by the URI of its path.** -/
theorem resolveFileUri_asUri {relative : Names} {content : List UInt8}
    (there : disk.nodes (reader.allowedRoot ++ relative) = some (.regular content))
    (served : Served disk (reader.allowedRoot ++ relative)) :
    resolveFileUri env reader (asUri ⟨['/'], reader.allowedRoot ++ relative⟩) =
      .ok (reader.allowedRoot ++ relative) := by
  have present : disk.nodes (reader.allowedRoot ++ relative) ≠ none := by
    rw [there]
    exact Option.some_ne_none _
  have plain : PurePath.Plain ⟨['/'], reader.allowedRoot ++ relative⟩ :=
    ⟨rfl, fun part member => (disk.named _ present part member).1⟩
  refine resolveFileUri_eq (urlSplit_asUri env.rules plain.root) ⟨rfl, .inl rfl⟩ ?_ there served
  rw [unquote_quote, readPath_text plain]

theorem secureReadPosix_ok {relative : Names} {content : List UInt8}
    (filled : relative ≠ [])
    (there : disk.nodes (reader.allowedRoot ++ relative) = some (.regular content))
    (served : Served disk (reader.allowedRoot ++ relative))
    (small : content.length ≤ reader.maxBytes) :
    secureReadPosix reader (reader.allowedRoot ++ relative) = .ok content := by
  have last : reader.allowedRoot ++ relative.dropLast ++ [relative.getLast filled] =
      reader.allowedRoot ++ relative := by
    rw [List.append_assoc, List.dropLast_append_getLast]
  have whole : readChunks (reader.maxBytes + 1) content = content := by
    rw [readChunks_eq, List.take_of_length_le (by omega)]
  have final : disk.openFails (reader.allowedRoot ++ relative) = false ∧
      disk.nodes (reader.allowedRoot ++ relative) ≠ none ∧
      disk.nodes (reader.allowedRoot ++ relative) ≠ some .symlink := by
    refine ⟨served.opens _ ((List.mem_inits _ _).mpr (List.prefix_refl _)), ?_, ?_⟩
    · rw [there]
      exact Option.some_ne_none _
    · rw [there]
      exact fun same => by cases same
  unfold secureReadPosix
  dsimp only
  rw [List.drop_left]
  refine Except.bind_eq_ok.mpr ⟨(), require_eq_ok.mpr filled, ?_⟩
  refine Except.bind_eq_ok.mpr ⟨(), openDirectories_ok served there _ _ _ last, ?_⟩
  refine Except.bind_eq_ok.mpr ⟨(), require_eq_ok.mpr final, ?_⟩
  refine Except.bind_eq_ok.mpr ⟨(), require_eq_ok.mpr served.reads, ?_⟩
  rw [there]
  dsimp only
  rw [whole]
  refine Except.bind_eq_ok.mpr ⟨(), require_eq_ok.mpr small, ?_⟩
  refine Except.bind_eq_ok.mpr ⟨(), require_eq_ok.mpr small, ?_⟩
  exact Except.bind_eq_ok.mpr ⟨(), require_eq_ok.mpr rfl, rfl⟩

/-- The fields of an object in the order of their names. -/
def sortedObject (value : Json.Object) : Json.Object :=
  (Json.sortedFields value).insertionSort fun a b => a.1 ≤ b.1

/-- The order of distinct names does not matter to a lookup. -/
theorem get?_sortedObject {value : Json.Object} (distinct : (value.map Prod.fst).Nodup)
    (name : String) : (sortedObject value).get? name = (value.get? name).map Json.sorted := by
  have names : (Json.sortedFields value).map Prod.fst = value.map Prod.fst := by
    rw [Json.sortedFields_eq, List.map_map]
    rfl
  rw [sortedObject, Json.Object.get?, find?_perm (names ▸ distinct)
    (List.perm_insertionSort _ _).symm, Json.sortedFields_eq, List.find?_map, Json.Object.get?,
    Option.map_map, Option.map_map]
  rfl

/-- **A canonical file is read as its object.** -/
theorem readDocument_canonical (lawful : env.numbers.Lawful)
    (room : maxRawJsonDepth ≤ env.deepest) {relative : Names} {value : Json.Object}
    (filled : relative ≠ [])
    (there : disk.nodes (reader.allowedRoot ++ relative) =
      some (.regular (Json.canonicalBytes (.obj value)).data.toList))
    (served : Served disk (reader.allowedRoot ++ relative))
    (small : (Json.canonicalBytes (.obj value)).data.toList.length ≤ reader.maxBytes)
    (fits : Json.Fits env.numbers maxRawJsonDepth (.obj value)) :
    readDocument env reader (asUri ⟨['/'], reader.allowedRoot ++ relative⟩)
        (hashOf env (Json.canonicalBytes (.obj value)).data.toList) =
      .ok ((Json.canonicalBytes (.obj value)).data.toList, sortedObject value) := by
  have ordered : Json.sorted (.obj value) = .obj (sortedObject value) := rfl
  have sortedFits : Json.Fits env.numbers maxRawJsonDepth (.obj (sortedObject value)) :=
    ordered ▸ fits.sorted
  have loaded : loadBytes env (Json.canonicalBytes (.obj value)).data.toList =
      some (.obj (Json.treeFields (sortedObject value))) := by
    rw [loadBytes, decodeUtf8_canonicalBytes, Option.bind_eq_bind, Option.bind_some,
      Json.loads_canonicalText lawful fits room, ordered, Json.treeOf]
  have within : Json.withinDepth maxRawJsonDepth (.obj (Json.treeFields (sortedObject value))) =
      true := Json.withinDepth_treeOf sortedFits
  have printed : Json.encodePairs (Json.treeFields (sortedObject value)) =
      some (sortedObject value) := by
    have encodes := Json.encode_treeOf (.obj (sortedObject value))
    rw [Json.treeOf, Json.Loaded.encode] at encodes
    obtain ⟨fields, found, same⟩ := Option.map_eq_some_iff.mp encodes
    cases same
    exact found
  have compared : (Json.canonicalBytes (.obj (sortedObject value))).data.toList =
      (Json.canonicalBytes (.obj value)).data.toList := by
    rw [← ordered, Json.canonicalBytes, Json.canonicalText_sorted, Json.canonicalBytes]
  unfold readDocument
  refine Except.bind_eq_ok.mpr ⟨_, resolveFileUri_asUri there served, ?_⟩
  refine Except.bind_eq_ok.mpr ⟨_, secureReadPosix_ok filled there served small, ?_⟩
  refine Except.bind_eq_ok.mpr ⟨(), require_eq_ok.mpr rfl, ?_⟩
  refine Except.bind_eq_ok.mpr ⟨_, requireSome_eq_ok.mpr loaded, ?_⟩
  refine Except.bind_eq_ok.mpr ⟨(), require_eq_ok.mpr within, ?_⟩
  refine Except.bind_eq_ok.mpr ⟨_, requireSome_eq_ok.mpr printed, ?_⟩
  exact Except.bind_eq_ok.mpr ⟨(), require_eq_ok.mpr compared, rfl⟩

/-- A call of `write_evidence` that returned, and a file system that has what it left. -/
structure Wrote (env : ReaderEnv) (disk : Disk) (value : Json.Object) (path : Evidence.Path)
    (artifact : Evidence.EvidenceArtifact) : Prop where
  run : ∃ (host : Evidence.Host) (start : Evidence.FileSystem)
    (trace : List (Evidence.Event Unit)) (s : Evidence.World Unit),
    host.sha256 = env.sha256 ∧ host.asUri path = evidenceUri path ∧
    Steps (Evidence.Step host fun _ : Unit =>
      ⟨path, (Json.canonicalBytes (.obj value)).data.toList⟩) (Evidence.World.start start) trace s ∧
    s.phase () = .ended (.returned artifact) ∧
    ∀ inode, s.fs.entries path = some (.file inode) →
      disk.nodes (namesOf path) = some (.regular (s.fs.files inode).content)

/-- What was written is there, and the artifact names it. -/
theorem Wrote.there {value : Json.Object} {path : Evidence.Path}
    {artifact : Evidence.EvidenceArtifact} (wrote : Wrote env disk value path artifact) :
    disk.nodes (namesOf path) =
        some (.regular (Json.canonicalBytes (.obj value)).data.toList) ∧
      artifact.uri.toList = asUri ⟨['/'], namesOf path⟩ ∧
      artifact.sha256 = hashOf env (Json.canonicalBytes (.obj value)).data.toList := by
  obtain ⟨host, start, trace, s, hash, uri, run, returned, shows⟩ := wrote.run
  obtain ⟨⟨inode, entry, content⟩, rfl⟩ := Evidence.returned_alone run returned
  refine ⟨(shows inode entry).trans (by rw [content]), ?_, ?_⟩
  · simp only [Evidence.Call.artifact, uri, evidenceUri, String.toList_ofList]
  · simp only [Evidence.Call.artifact, hash, hashOf]

/-! ## The result -/

/-- Reading a URI with a hash returns what was asked for or raises an error with a code. -/
structure FailsClosed (env : ReaderEnv) (reader : Reader disk) (uri : List Char)
    (expectedHash : String) : Prop where
  raw : ∀ encoded, readRawBytes env reader uri expectedHash = .ok encoded →
    hashOf env encoded = expectedHash ∧ Reached reader encoded
  rawCoded : Coded (readRawBytes env reader uri expectedHash)
  bytes : ∀ encoded, readBytes env reader uri expectedHash = .ok encoded →
    hashOf env encoded = expectedHash ∧ Reached reader encoded ∧
      ∃ fields, Canonical env encoded fields
  bytesCoded : Coded (readBytes env reader uri expectedHash)
  value : ∀ fields, read env reader uri expectedHash = .ok fields →
    ∃ encoded, hashOf env encoded = expectedHash ∧ Reached reader encoded ∧
      Canonical env encoded fields
  valueCoded : Coded (read env reader uri expectedHash)

theorem Except.map_eq_ok {ε α β : Type} {x : Except ε α} {f : α → β} {b : β} :
    x.map f = .ok b ↔ ∃ a, x = .ok a ∧ f a = b := by
  cases x <;> simp [Except.map]

/-- **Evidence is read back, and reading fails closed** exactly for the URIs that can be taken
apart. -/
theorem failsClosed_iff (lawful : env.numbers.Lawful) (room : maxRawJsonDepth ≤ env.deepest)
    (reader : Reader disk) :
    (∀ uri expectedHash, FailsClosed env reader uri expectedHash ↔
      netlocRefused env.rules (netlocOf uri) = false) ∧
    (∀ value path artifact relative, Wrote env disk value path artifact →
      namesOf path = reader.allowedRoot ++ relative → relative ≠ [] →
      Served disk (namesOf path) →
      (Json.canonicalBytes (.obj value)).data.toList.length ≤ reader.maxBytes →
      Json.Fits env.numbers maxRawJsonDepth (.obj value) →
      read env reader artifact.uri.toList artifact.sha256 = .ok (sortedObject value) ∧
        Json.obj (sortedObject value) = Json.sorted (.obj value)) ∧
    (∀ uri expectedHash uri' expectedHash' encoded encoded' fields,
      readDocument env reader uri expectedHash = .ok (encoded, fields) →
      readDocument env reader uri' expectedHash' = .ok (encoded', fields) →
      encoded = encoded') := by
  refine ⟨fun uri expectedHash => ⟨fun closed => ?_, fun accepted => ?_⟩, ?_, ?_⟩
  · rw [Bool.eq_false_iff]
    intro refused
    have raises : readRawBytes env reader uri expectedHash = .error .valueError := by
      unfold readRawBytes
      rw [resolveFileUri_valueError (urlSplit_eq_none_iff.mpr refused)]
      rfl
    exact closed.rawCoded _ raises
  · have parts : urlSplit env.rules uri ≠ none := by
      rw [Ne, urlSplit_eq_none_iff, accepted]
      exact Bool.false_ne_true
    have documents : Coded (readDocument env reader uri expectedHash) := readDocument_coded parts
    refine ⟨fun encoded => readRawBytes_eq_ok, readRawBytes_coded parts, ?_,
      documents.map Prod.fst, ?_, documents.map Prod.snd⟩
    · intro encoded returned
      obtain ⟨⟨bytes, fields⟩, found, rfl⟩ := Except.map_eq_ok.mp returned
      obtain ⟨hash, reached, canonical⟩ := readDocument_eq_ok lawful room found
      exact ⟨hash, reached, fields, canonical⟩
    · intro fields returned
      obtain ⟨⟨bytes, found⟩, read, rfl⟩ := Except.map_eq_ok.mp returned
      exact ⟨bytes, readDocument_eq_ok lawful room read⟩
  · intro value path artifact relative wrote below filled served small fits
    obtain ⟨there, uri, hash⟩ := wrote.there
    rw [below] at there served uri
    rw [read, uri, hash, readDocument_canonical lawful room filled there served small fits]
    exact ⟨rfl, rfl⟩
  · intro uri expectedHash uri' expectedHash' encoded encoded' fields first second
    obtain ⟨-, -, bytes, -⟩ := readDocument_eq_ok lawful room first
    obtain ⟨-, -, bytes', -⟩ := readDocument_eq_ok lawful room second
    exact bytes.trans bytes'.symm

/-! ### A root with one file -/

/-- A small object. -/
def probeObject : Json.Object := [("ok", .bool true)]

/-- A call that publishes the object. -/
def probeCall : Evidence.Call :=
  ⟨⟨"/e", "a"⟩, (Json.canonicalBytes (.obj probeObject)).data.toList⟩

/-- A directory with one file. -/
def probeNodes (names : Names) : Option Node :=
  if names = [] then some .directory
  else if names = [['e']] then some .directory
  else if names = [['e'], ['a']] then some (.regular probeCall.encoded)
  else none

/-- The file system of the directory. -/
def probeDisk : Disk where
  nodes := probeNodes
  root := rfl
  parent names name there := by
    rcases names with _ | ⟨first, _ | ⟨second, rest⟩⟩
    · rfl
    · by_cases same : first = ['e']
      · subst same
        decide
      · exact absurd (by simp [probeNodes, same]) there
    · exact absurd (by simp [probeNodes]) there
  named names there := by
    have cases : names = [] ∨ names = [['e']] ∨ names = [['e'], ['a']] := by
      by_contra other
      simp only [not_or] at other
      exact there (by simp [probeNodes, other])
    rcases cases with rfl | rfl | rfl
    · exact fun name member => absurd member List.not_mem_nil
    · exact List.forall_mem_singleton.mpr ⟨⟨by decide, by decide⟩, by decide⟩
    · exact List.forall_mem_cons.mpr ⟨⟨⟨by decide, by decide⟩, by decide⟩,
        List.forall_mem_singleton.mpr ⟨⟨by decide, by decide⟩, by decide⟩⟩
  lstatFails _ := false
  openFails _ := false
  readFails _ := false

/-- A reader of the directory. -/
def probeReader : Reader probeDisk where
  allowedRoot := [['e']]
  maxBytes := 1024
  resolved := rfl
  positive := by decide

/-- A library without numbers, in which a digest is the text of the bytes. -/
def probeEnv : ReaderEnv where
  rules := { replaced := fun bytes => bytes.map fun _ => Char.ofNat 0xfffd
             bracketsRefused := fun _ => true
             normalized := id }
  numbers := { scan := fun _ => none, Printable := fun _ => False }
  deepest := 1000
  sha256 bytes := hexOfBytes ⟨bytes.toArray⟩

theorem probeEnv_lawful : probeEnv.numbers.Lawful where
  scan_dumps _ printable := printable.elim
  opens _ printable := printable.elim
  printable _ _ _ scanned := by cases scanned

/-- The system that the object is published on. -/
def probeHost : Evidence.Host := ⟨false, probeEnv.sha256, evidenceUri⟩

/-- The call finds nothing at its path, and nothing fails. -/
def probeTrace : List (Evidence.Event Unit) :=
  [.done, .done, .done, .named "k2", .done, .done, .done, .done, .done, .done].map fun answer =>
    ⟨(), some answer⟩

/-- The directory has what the call left. -/
theorem probe_wrote :
    Wrote probeEnv probeDisk probeObject probeCall.path (probeCall.artifact probeHost) := by
  have published : (probeTrace.foldlM (Evidence.perform probeHost fun _ => probeCall)
      (Evidence.World.start .empty)).map (fun s => (s.phase (), s.fs.entries probeCall.path,
        (s.fs.files 0).content)) =
      some (.ended (.returned (probeCall.artifact probeHost)), some (.file 0),
        probeCall.encoded) := by
    decide +kernel
  obtain ⟨s, performed, same⟩ := Option.map_eq_some_iff.mp published
  simp only [Prod.mk.injEq] at same
  obtain ⟨returned, entry, content⟩ := same
  have shows : ∀ inode, s.fs.entries probeCall.path = some (.file inode) →
      probeDisk.nodes (namesOf probeCall.path) = some (.regular (s.fs.files inode).content) := by
    intro inode there
    rw [entry] at there
    cases there
    rw [content]
    decide +kernel
  exact ⟨probeHost, .empty, probeTrace, s, rfl, rfl, Steps.of_foldlM performed, returned, shows⟩

theorem probe_served (names : Names) : Served probeDisk names :=
  ⟨fun _ _ => rfl, fun _ _ => rfl, rfl⟩

theorem probe_fits : Json.Fits probeEnv.numbers maxRawJsonDepth (.obj probeObject) :=
  .obj 63 probeObject (by decide) (List.forall_mem_singleton.mpr (.bool 62 true))

/-- The object is read back from where it was published, and only a URI with a bracket is not
closed. -/
theorem failsClosed_probe :
    FailsClosed probeEnv probeReader "file:///e/a".toList "sha256:01" ∧
      ¬ FailsClosed probeEnv probeReader "file://[/e/a".toList "sha256:01" ∧
      read probeEnv probeReader (probeCall.artifact probeHost).uri.toList
        (probeCall.artifact probeHost).sha256 = .ok probeObject := by
  obtain ⟨closed, readBack, -⟩ := failsClosed_iff probeEnv_lawful (by decide) probeReader
  refine ⟨(closed _ _).mpr (by decide), fun bracket => ?_, ?_⟩
  · exact absurd ((closed _ _).mp bracket) (by decide)
  · exact (readBack probeObject probeCall.path _ [['a']] probe_wrote (by decide +kernel)
      (List.cons_ne_nil _ _) (probe_served _) (by decide +kernel) probe_fits).1

/-- A bracket in the network location makes every method raise an error without a code. -/
theorem bracket_uri_raises :
    readRawBytes probeEnv probeReader "file://[/e/a".toList "sha256:01" = .error .valueError ∧
      readBytes probeEnv probeReader "file://[/e/a".toList "sha256:01" = .error .valueError ∧
      read probeEnv probeReader "file://[/e/a".toList "sha256:01" = .error .valueError ∧
      ¬ ReadError.valueError.IsCoded := by
  have refused : urlSplit probeEnv.rules "file://[/e/a".toList = none :=
    urlSplit_eq_none_iff.mpr (by decide)
  have raises : resolveFileUri probeEnv probeReader "file://[/e/a".toList = .error .valueError :=
    resolveFileUri_valueError refused
  have documents : readDocument probeEnv probeReader "file://[/e/a".toList "sha256:01" =
      .error .valueError := by
    rw [readDocument, raises]
    rfl
  refine ⟨?_, ?_, ?_, id⟩
  · rw [readRawBytes, raises]
    rfl
  · rw [readBytes, documents]
    rfl
  · rw [read, documents]
    rfl

end EvidenceReading

end HcuAutoOpt
