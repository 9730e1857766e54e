import Mathlib.Logic.Function.Basic

/-!
# Directory entries and shared files

A file system maps paths to entries, and entries of regular files to inodes. Two paths with
one inode share one file: its content and its mode change under both names at once. An inode
in use is below the bound `size`, so the inode of a new file is not in use
(`Inodes.ne_size_of_entry`).

Each operation is described by what the entries and the files are afterwards.
-/

set_option autoImplicit false

namespace Foundation

/-- A file: its bytes and its mode. -/
@[ext] structure File where
  content : List UInt8
  mode : Nat
  deriving DecidableEq, Repr

/-- What a path names: a regular file, a symbolic link that may or may not resolve, or a
directory. -/
inductive Entry
  | file (inode : Nat)
  | symlink (resolves : Bool)
  | directory
  deriving DecidableEq, Repr

/-- A file system over paths of type `P`. -/
structure Inodes (P : Type) where
  entries : P → Option Entry
  files : Nat → File
  size : Nat
  inUse : ∀ path inode, entries path = some (.file inode) → inode < size

namespace Inodes

variable {P : Type} (fs : Inodes P) {path other : P} {inode : Nat}

/-- The file system without entries. -/
def empty : Inodes P where
  entries _ := none
  files _ := ⟨[], 0⟩
  size := 0
  inUse _ _ absent := by cases absent

/-! ## Questions -/

/-- The path names something; a link that does not resolve does not. -/
def exists? (path : P) : Bool :=
  match fs.entries path with
  | none | some (.symlink false) => false
  | some _ => true

/-- The path names a symbolic link. -/
def isSymlink (path : P) : Bool :=
  match fs.entries path with
  | some (.symlink _) => true
  | _ => false

/-- The path names a regular file; a link is followed. -/
def isFile (path : P) : Bool :=
  match fs.entries path with
  | some (.file _) | some (.symlink true) => true
  | _ => false

/-- The file a path names. -/
def file? (path : P) : Option File :=
  match fs.entries path with
  | some (.file inode) => some (fs.files inode)
  | _ => none

/-! ## Operations -/

/-- A file is replaced, under all its names. -/
def setFile (inode : Nat) (file : File) : Inodes P :=
  { fs with files := Function.update fs.files inode file }

/-- The mode of the file of a path is changed. -/
def chmod (path : P) (mode : Nat) : Option (Inodes P) :=
  match fs.entries path with
  | some (.file inode) => some (fs.setFile inode { fs.files inode with mode := mode })
  | _ => none

section Files

variable {fs}

theorem chmod_of_entry {mode : Nat} (entry : fs.entries path = some (.file inode)) :
    fs.chmod path mode = some (fs.setFile inode { fs.files inode with mode := mode }) := by
  rw [chmod, entry]

theorem file?_of_entry (entry : fs.entries path = some (.file inode)) :
    fs.file? path = some (fs.files inode) := by
  rw [file?, entry]

@[simp] theorem entries_setFile (inode : Nat) (file : File) :
    (fs.setFile inode file).entries = fs.entries := rfl

@[simp] theorem size_setFile (inode : Nat) (file : File) :
    (fs.setFile inode file).size = fs.size := rfl

@[simp] theorem files_setFile (inode : Nat) (file : File) :
    (fs.setFile inode file).files inode = file := Function.update_self ..

theorem files_setFile_of_ne {used : Nat} (apart : used ≠ inode) (file : File) :
    (fs.setFile inode file).files used = fs.files used := Function.update_of_ne apart ..

/-- The inode of a new file is not in use. -/
theorem ne_size_of_entry (entry : fs.entries path = some (.file inode)) : inode ≠ fs.size :=
  Nat.ne_of_lt (fs.inUse path inode entry)

end Files

section Names

variable [DecidableEq P]

/-- A new empty file at a path. -/
def create (path : P) (mode : Nat) : Inodes P where
  entries := Function.update fs.entries path (some (.file fs.size))
  files := Function.update fs.files fs.size ⟨[], mode⟩
  size := fs.size + 1
  inUse other inode entry := by
    by_cases same : other = path
    · rw [same, Function.update_self] at entry
      cases entry
      exact Nat.lt_succ_self _
    · rw [Function.update_of_ne same] at entry
      exact Nat.lt_succ_of_lt (fs.inUse other inode entry)

/-- A second name for a file. -/
def link (inode : Nat) (inUse : inode < fs.size) (target : P) : Inodes P where
  entries := Function.update fs.entries target (some (.file inode))
  files := fs.files
  size := fs.size
  inUse other used entry := by
    by_cases same : other = target
    · rw [same, Function.update_self] at entry
      cases entry
      exact inUse
    · rw [Function.update_of_ne same] at entry
      exact fs.inUse other used entry

/-- A name is removed. -/
def unlink (path : P) : Inodes P where
  entries := Function.update fs.entries path none
  files := fs.files
  size := fs.size
  inUse other inode entry := by
    by_cases same : other = path
    · rw [same, Function.update_self] at entry
      cases entry
    · rw [Function.update_of_ne same] at entry
      exact fs.inUse other inode entry

variable {fs}

@[simp] theorem entries_create (path : P) (mode : Nat) :
    (fs.create path mode).entries path = some (.file fs.size) := Function.update_self ..

theorem entries_create_of_ne (apart : other ≠ path) (mode : Nat) :
    (fs.create path mode).entries other = fs.entries other := Function.update_of_ne apart ..

theorem files_create_of_ne {used : Nat} (apart : used ≠ fs.size) (path : P) (mode : Nat) :
    (fs.create path mode).files used = fs.files used := Function.update_of_ne apart ..

@[simp] theorem entries_link (inUse : inode < fs.size) (target : P) :
    (fs.link inode inUse target).entries target = some (.file inode) := Function.update_self ..

theorem entries_link_of_ne (inUse : inode < fs.size) {target : P} (apart : other ≠ target) :
    (fs.link inode inUse target).entries other = fs.entries other :=
  Function.update_of_ne apart ..

@[simp] theorem files_link (inUse : inode < fs.size) (target : P) :
    (fs.link inode inUse target).files = fs.files := rfl

@[simp] theorem entries_unlink (path : P) : (fs.unlink path).entries path = none :=
  Function.update_self ..

theorem entries_unlink_of_ne (apart : other ≠ path) :
    (fs.unlink path).entries other = fs.entries other := Function.update_of_ne apart ..

@[simp] theorem files_unlink (path : P) : (fs.unlink path).files = fs.files := rfl

end Names

end Inodes

end Foundation
