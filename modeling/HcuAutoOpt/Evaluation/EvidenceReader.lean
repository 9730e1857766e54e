import HcuAutoOpt.Foundation.CommittedCalls
import HcuAutoOpt.Foundation.FileUri
import HcuAutoOpt.Foundation.JsonSound

/-!
# Reading evidence by URI and hash

`HashedEvidenceReader` reads a file below its root that a `file` URI names and whose SHA-256 is
given. It follows no symbolic link, bounds the size and compares the bytes with the canonical
encoding of the object that they are read as.

The file system does not change while it is read, so that a file has the same identity when it is
looked at twice. It may fail any call.
-/

set_option autoImplicit false

namespace HcuAutoOpt

namespace EvidenceReading

open Foundation

/-! ## The file system -/

/-- The names of a path, from the root directory on. -/
abbrev Names := List (List Char)

/-- What is at a path. -/
inductive Node where
  | regular (content : List UInt8)
  | directory
  | symlink
  | special
  deriving DecidableEq, Repr

/-- A file system that does not change, and the calls that it fails. What is there is in a
directory and has a name. -/
structure Disk where
  nodes : Names → Option Node
  root : nodes [] = some .directory
  parent : ∀ names name, nodes (names ++ [name]) ≠ none → nodes names = some .directory
  named : ∀ names, nodes names ≠ none → ∀ name ∈ names, Named name ∧ name ≠ ['.', '.']
  lstatFails : Names → Bool
  openFails : Names → Bool
  readFails : Names → Bool

/-- `HashedEvidenceReader`, whose root was resolved. -/
structure Reader (disk : Disk) where
  allowedRoot : Names
  maxBytes : Nat
  resolved : disk.nodes allowedRoot = some .directory
  positive : 1 ≤ maxBytes

/-- What the reader uses of the language's library. -/
structure ReaderEnv where
  rules : UriRules
  numbers : Json.NumberSyntax
  /-- The recursion limit. -/
  deepest : Nat
  /-- The hexadecimal SHA-256 of some bytes. -/
  sha256 : List UInt8 → String

/-- `EvidenceReadError` with its code, and the exception that `urlparse` raises. -/
inductive ReadError where
  | evidence (code message : String)
  | valueError
  deriving DecidableEq, Repr

/-- The text of a path. -/
def pathText (names : Names) : String := String.ofList (PurePath.text ⟨['/'], names⟩)

/-! ## Paths -/

section Reading

variable {disk : Disk} (env : ReaderEnv) (reader : Reader disk)

/-- A path that is not below the root. -/
def pathEscape : ReadError :=
  .evidence "evidence_path_escape" "evidence path escapes allowed root"

/-- `_reject_symlinks`, from a directory on. -/
def rejectSymlinks (disk : Disk) : (cursor relative : Names) → Except ReadError Unit
  | _, [] => return ()
  | cursor, part :: relative => do
      require (disk.lstatFails (cursor ++ [part]) = false) pathEscape
      require (disk.nodes (cursor ++ [part]) ≠ some .symlink) (.evidence "evidence_symlink"
        s!"symbolic link is not allowed: {pathText (cursor ++ [part])}")
      rejectSymlinks disk (cursor ++ [part]) relative

/-- `_resolve_file_uri`. Without a link on the way, `resolve` leaves the path as it is. -/
def resolveFileUri (uri : List Char) : Except ReadError Names := do
  let parsed ← requireSome (urlSplit env.rules uri) .valueError
  require (parsed.scheme = ['f', 'i', 'l', 'e'] ∧
      (parsed.netloc = [] ∨ parsed.netloc = "localhost".toList))
    (.evidence "evidence_uri_invalid" "only local file: evidence URIs are allowed")
  let candidate := readPath (unquote env.rules parsed.path)
  require (candidate.root ≠ [])
    (.evidence "evidence_uri_invalid" "evidence URI path must be absolute")
  require (candidate.parts.contains ['.', '.'] = false)
    (.evidence "evidence_path_escape" "evidence path contains traversal")
  require (candidate.root = ['/'] ∧ reader.allowedRoot <+: candidate.parts) pathEscape
  rejectSymlinks disk reader.allowedRoot (candidate.parts.drop reader.allowedRoot.length)
  require (disk.nodes candidate.parts ≠ none ∧
    ∀ names ∈ candidate.parts.inits, disk.lstatFails names = false) pathEscape
  return candidate.parts

/-! ## Bytes -/

/-- The loop of `_read_bounded_descriptor`. -/
def readChunks (remaining : Nat) (content : List UInt8) : List UInt8 :=
  let chunk := content.take (min (1024 * 1024) remaining)
  if chunk = [] then []
  else chunk ++ readChunks (remaining - chunk.length) (content.drop chunk.length)
termination_by remaining
decreasing_by
  have filled : content.take (min (1024 * 1024) remaining) ≠ [] := ‹_›
  have positive := List.length_pos_of_ne_nil filled
  rw [List.length_take] at positive ⊢
  omega

/-- `os.open` of each directory on the way, and of the root. -/
def openDirectories (unreadable : ReadError) (disk : Disk) :
    (cursor : Names) → (parts : Names) → Except ReadError Unit
  | cursor, [] =>
      require (disk.openFails cursor = false ∧ disk.nodes cursor = some .directory) unreadable
  | cursor, part :: parts => do
      require (disk.openFails cursor = false ∧ disk.nodes cursor = some .directory) unreadable
      openDirectories unreadable disk (cursor ++ [part]) parts

/-- `_read_bounded_descriptor`, of what was opened at a path. -/
def readBoundedDescriptor (unreadable : ReadError) (names : Names) :
    Except ReadError (List UInt8) := do
  require (disk.readFails names = false) unreadable
  match disk.nodes names with
  | some (.regular content) =>
      require (content.length ≤ reader.maxBytes)
        (.evidence "evidence_too_large" s!"evidence exceeds size limit: {pathText names}")
      let encoded := readChunks (reader.maxBytes + 1) content
      require (encoded.length ≤ reader.maxBytes)
        (.evidence "evidence_too_large" s!"evidence exceeds size limit: {pathText names}")
      require (content.length = encoded.length)
        (.evidence "evidence_changed_during_read" "evidence changed while it was being read")
      return encoded
  | _ => .error (.evidence "evidence_not_regular" s!"not a regular file: {pathText names}")

/-- `_secure_read_posix`. -/
def secureReadPosix (names : Names) : Except ReadError (List UInt8) := do
  let relative := names.drop reader.allowedRoot.length
  let unreadable := ReadError.evidence "evidence_unreadable"
    s!"cannot securely open evidence: {pathText names}"
  require (relative ≠ [])
    (.evidence "evidence_not_regular" s!"not a regular file: {pathText names}")
  openDirectories unreadable disk reader.allowedRoot relative.dropLast
  require (disk.openFails names = false ∧ disk.nodes names ≠ none ∧
    disk.nodes names ≠ some .symlink) unreadable
  readBoundedDescriptor reader unreadable names

/-! ## Documents -/

/-- The hash of some bytes. -/
def hashOf (encoded : List UInt8) : String := "sha256:" ++ env.sha256 encoded

/-- `read_raw_bytes`. -/
def readRawBytes (uri : List Char) (expectedHash : String) : Except ReadError (List UInt8) := do
  let path ← resolveFileUri env reader uri
  let encoded ← secureReadPosix reader path
  require (hashOf env encoded = expectedHash)
    (.evidence "evidence_hash_mismatch" s!"SHA-256 mismatch: {pathText path}")
  return encoded

/-- `MAX_RAW_JSON_DEPTH`. -/
def maxRawJsonDepth : Nat := 64

/-- `json.loads(encoded.decode("utf-8"))`. -/
def loadBytes (encoded : List UInt8) : Option Json.Loaded := do
  let text ← decodeUtf8 encoded
  Json.loads env.numbers env.deepest text

/-- `_read_document`. -/
def readDocument (uri : List Char) (expectedHash : String) :
    Except ReadError (List UInt8 × Json.Object) := do
  let path ← resolveFileUri env reader uri
  let encoded ← secureReadPosix reader path
  require (hashOf env encoded = expectedHash)
    (.evidence "evidence_hash_mismatch" s!"SHA-256 mismatch: {pathText path}")
  let value ← requireSome (loadBytes env encoded)
    (.evidence "evidence_invalid_json" s!"invalid JSON: {pathText path}")
  match value with
  | .obj pairs =>
      require (Json.withinDepth maxRawJsonDepth (.obj pairs) = true)
        (.evidence "evidence_invalid_json"
          s!"raw evidence exceeds maximum JSON depth {maxRawJsonDepth}")
      let fields ← requireSome (Json.encodePairs pairs)
        (.evidence "evidence_noncanonical" "raw evidence is not canonical")
      require ((Json.canonicalBytes (.obj fields)).data.toList = encoded)
        (.evidence "evidence_noncanonical"
          "raw evidence bytes do not match canonical JSON representation")
      return (encoded, fields)
  | _ => .error (.evidence "evidence_invalid_json" "raw evidence root must be an object")

/-- `read`. -/
def read (uri : List Char) (expectedHash : String) : Except ReadError Json.Object :=
  (readDocument env reader uri expectedHash).map Prod.snd

/-- `read_bytes`. -/
def readBytes (uri : List Char) (expectedHash : String) : Except ReadError (List UInt8) :=
  (readDocument env reader uri expectedHash).map Prod.fst

end Reading

end EvidenceReading

end HcuAutoOpt
