import HcuAutoOpt.Foundation.Inodes
import HcuAutoOpt.Foundation.Runs

/-!
# Publishing evidence bytes

`write_evidence_bytes` publishes bytes at a path once. It looks whether the path is there,
writes a temporary file beside it, links the temporary file to the path and removes the
temporary name; when the path is already there it compares the bytes instead.

Each call of the file system is one step, and it may fail. Calls of the function run side by
side: a step belongs to one of them, and a call may stop for ever after any of its steps. A
call that fails leaves the file system alone, apart from a write, which may have written a
part of the bytes.
-/

set_option autoImplicit false

namespace HcuAutoOpt

namespace Evidence

open Foundation

/-! ## Calls -/

/-- A path below a resolved parent. -/
structure Path where
  parent : String
  name : String
  deriving DecidableEq, Repr

/-- The name `mkstemp` gives a temporary file beside a path. -/
def Path.temporary (path : Path) (random : String) : Path :=
  ⟨path.parent, "." ++ path.name ++ "." ++ random ++ ".tmp"⟩

/-- The arguments of `write_evidence_bytes`. -/
structure Call where
  path : Path
  encoded : List UInt8
  deriving DecidableEq, Repr

/-- `EvidenceArtifact`. -/
structure EvidenceArtifact where
  uri : String
  sha256 : String
  byteCount : Nat
  deriving DecidableEq, Repr

/-- The system a call runs on. -/
structure Host where
  /-- `os.name == "nt"`. -/
  nt : Bool
  /-- The hexadecimal SHA-256 of some bytes. -/
  sha256 : List UInt8 → String
  /-- `Path.as_uri`. -/
  asUri : Path → String

/-- The artifact a call returns. -/
def Call.artifact (host : Host) (call : Call) : EvidenceArtifact where
  uri := host.asUri call.path
  sha256 := "sha256:" ++ host.sha256 call.encoded
  byteCount := call.encoded.length

/-- A file system over the paths of evidence. -/
abbrev FileSystem := Inodes Path

/-- The mode `0o444`. -/
def readOnly : Nat := 0o444

/-- The mode `0o600`. -/
def ownerOnly : Nat := 0o600

/-! ## The steps of a call -/

/-- How a call ends: it returns, or raises because the path is not a regular file, because
its bytes are different, or because a call of the file system failed. -/
inductive Ending
  | returned (artifact : EvidenceArtifact)
  | notRegular
  | different
  | failed
  deriving DecidableEq, Repr

/-- A temporary file: its path and the inode of its descriptor. -/
structure Temporary where
  path : Path
  inode : Nat
  deriving DecidableEq, Repr

/-- The call of the file system that is next. The three steps of `_verify_existing_evidence`
run before a temporary file is there, or after the link found the path in place. -/
inductive Phase
  | mkdir
  | checkExists
  | checkSymlink
  | verifySymlink (held : Option Temporary)
  | verifyFile (held : Option Temporary)
  | verifyBytes (held : Option Temporary)
  | chmodExisting
  | mkstemp
  | write (held : Temporary)
  | fsync (held : Temporary)
  | chmodTemporary (held : Temporary)
  | link (held : Temporary)
  | unlinkTemporary (held : Temporary)
  | chmodFinal
  | chmodCleanup (held : Temporary) (ending : Ending)
  | unlinkCleanup (held : Temporary) (ending : Ending)
  | ended (ending : Ending)
  | crashed
  deriving DecidableEq, Repr

/-- What the system answers: the call is done, with a random part for the name of a temporary
file, or it fails, having written some of the bytes. -/
inductive Answer
  | done
  | named (random : String)
  | torn (count : Nat)
  | failed
  deriving DecidableEq, Repr

/-- The `finally` clause: a temporary file that is still held is cleaned up. -/
def cleanup (held : Option Temporary) (ending : Ending) : Phase :=
  match held with
  | none => .ended ending
  | some temporary => .chmodCleanup temporary ending

section Steps

variable (host : Host) (call : Call) (fs : FileSystem)

/-- `path.read_bytes() != expected`, and where the call goes on from there. -/
def compareBytes (held : Option Temporary) : Phase :=
  match fs.file? call.path with
  | none => cleanup held .failed
  | some file =>
      if file.content ≠ call.encoded then cleanup held .different
      else match held with
        | none => .chmodExisting
        | some temporary => .chmodCleanup temporary (.returned (call.artifact host))

/-- `os.link`, which raises `FileExistsError` where the path is there. -/
def linkTemporary (held : Temporary) : FileSystem × Phase :=
  if fs.entries call.path ≠ none then (fs, .verifySymlink (some held))
  else match entry : fs.entries held.path with
    | some (.file inode) =>
        (fs.link inode (fs.inUse held.path inode entry) call.path, .unlinkTemporary held)
    | _ => (fs, .chmodCleanup held .failed)

/-- `Path.chmod`, and where the call goes on from there. -/
def chmodTo (path : Path) (mode : Nat) (next missing : Phase) : FileSystem × Phase :=
  match fs.chmod path mode with
  | some fs' => (fs', next)
  | none => (fs, missing)

variable {fs} in
theorem chmodTo_of_entry {path : Path} {mode inode : Nat} {next missing : Phase}
    (entry : fs.entries path = some (.file inode)) :
    chmodTo fs path mode next missing =
      (fs.setFile inode { fs.files inode with mode := mode }, next) := by
  rw [chmodTo, Inodes.chmod_of_entry entry]

/-- One step of `write_evidence_bytes`. -/
def advance : Phase → Answer → Option (FileSystem × Phase)
  | .mkdir, .done => some (fs, .checkExists)
  | .mkdir, .failed => some (fs, .ended .failed)
  | .checkExists, .done =>
      some (fs, if fs.exists? call.path then .verifySymlink none else .checkSymlink)
  | .checkExists, .failed => some (fs, .ended .failed)
  | .checkSymlink, .done =>
      some (fs, if fs.isSymlink call.path then .verifySymlink none else .mkstemp)
  | .checkSymlink, .failed => some (fs, .ended .failed)
  | .verifySymlink held, .done =>
      some (fs, if fs.isSymlink call.path then cleanup held .notRegular else .verifyFile held)
  | .verifySymlink held, .failed => some (fs, cleanup held .failed)
  | .verifyFile held, .done =>
      some (fs, if fs.isFile call.path then .verifyBytes held else cleanup held .notRegular)
  | .verifyFile held, .failed => some (fs, cleanup held .failed)
  | .verifyBytes held, .done => some (fs, compareBytes host call fs held)
  | .verifyBytes held, .failed => some (fs, cleanup held .failed)
  | .chmodExisting, .done =>
      some (chmodTo fs call.path readOnly (.ended (.returned (call.artifact host)))
        (.ended .failed))
  | .chmodExisting, .failed => some (fs, .ended .failed)
  | .mkstemp, .named random =>
      if fs.entries (call.path.temporary random) = none then
        some (fs.create (call.path.temporary random) ownerOnly,
          .write ⟨call.path.temporary random, fs.size⟩)
      else none
  | .mkstemp, .failed => some (fs, .ended .failed)
  | .write held, .done =>
      some (fs.setFile held.inode { fs.files held.inode with content := call.encoded }, .fsync held)
  | .write held, .torn count =>
      some (fs.setFile held.inode { fs.files held.inode with content := call.encoded.take count },
        .chmodCleanup held .failed)
  | .fsync held, .done => some (fs, if host.nt then .link held else .chmodTemporary held)
  | .fsync held, .failed => some (fs, .chmodCleanup held .failed)
  | .chmodTemporary held, .done =>
      some (chmodTo fs held.path readOnly (.link held) (.chmodCleanup held .failed))
  | .chmodTemporary held, .failed => some (fs, .chmodCleanup held .failed)
  | .link held, .done => some (linkTemporary call fs held)
  | .link held, .failed => some (fs, .chmodCleanup held .failed)
  | .unlinkTemporary held, .done =>
      some (if fs.entries held.path ≠ none then (fs.unlink held.path, .chmodFinal)
        else (fs, .chmodCleanup held .failed))
  | .unlinkTemporary held, .failed => some (fs, .chmodCleanup held .failed)
  | .chmodFinal, .done =>
      some (chmodTo fs call.path readOnly (.ended (.returned (call.artifact host)))
        (.ended .failed))
  | .chmodFinal, .failed => some (fs, .ended .failed)
  | .chmodCleanup held ending, .done =>
      some (chmodTo fs held.path ownerOnly (.unlinkCleanup held ending) (.ended .failed))
  | .chmodCleanup _ _, .failed => some (fs, .ended .failed)
  | .unlinkCleanup held ending, .done => some (fs.unlink held.path, .ended ending)
  | .unlinkCleanup _ _, .failed => some (fs, .ended .failed)
  | _, _ => none

end Steps

/-! ## Calls side by side -/

section World

variable {W : Type} [DecidableEq W]

/-- The file system and what each call does next. -/
structure World (W : Type) where
  fs : FileSystem
  phase : W → Phase

/-- A step of a call with the answer of the system, or the end of its process. -/
structure Event (W : Type) where
  call : W
  answer : Option Answer

/-- The call of an event failed in the system. -/
def Event.Faulty (event : Event W) : Prop :=
  event.answer = some .failed ∨ ∃ count, event.answer = some (.torn count)

/-- Before any call has begun. -/
def World.start (fs : FileSystem) : World W := ⟨fs, fun _ => .mkdir⟩

/-- The call has ended, or its process has. -/
def Phase.isOver : Phase → Bool
  | .ended _ | .crashed => true
  | _ => false

/-- A step of one of the calls that run side by side. -/
def perform (host : Host) (calls : W → Call) (s : World W) (event : Event W) : Option (World W) :=
  match event.answer with
  | none =>
      if (s.phase event.call).isOver then none
      else some ⟨s.fs, Function.update s.phase event.call .crashed⟩
  | some answer =>
      (advance host (calls event.call) s.fs (s.phase event.call) answer).map fun moved =>
        ⟨moved.1, Function.update s.phase event.call moved.2⟩

/-- The steps of all calls. -/
def Step (host : Host) (calls : W → Call) (s : World W) (event : Event W) (s' : World W) : Prop :=
  perform host calls s event = some s'

end World

end Evidence

end HcuAutoOpt
