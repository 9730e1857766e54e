import HcuAutoOpt.Measurement.Evidence

/-!
# What a call that publishes evidence knows

A call holds a temporary file from `mkstemp` until it removes the temporary name. Until the
link the file has no other name (`Private`), so what the call does to it nobody sees. After
the link it has the final path as its second name (`Shared`); it is complete and read-only by
then.

What a call knows at each step (`Knows`) stays true while its files are left alone
(`Knows.frame`). A step is described by what it does to the file system and by what the call
knows after it (`Move`); `advance_move` describes every step this way.
-/

set_option autoImplicit false

namespace HcuAutoOpt

namespace Evidence

open Foundation

/-! ## What a call knows -/

/-- The temporary file a call holds. -/
def Phase.held : Phase → Option Temporary
  | .verifySymlink held | .verifyFile held | .verifyBytes held => held
  | .write held | .fsync held | .chmodTemporary held | .link held | .unlinkTemporary held => some held
  | .chmodCleanup held _ | .unlinkCleanup held _ => some held
  | .mkdir | .checkExists | .checkSymlink | .chmodExisting | .mkstemp | .chmodFinal => none
  | .ended _ | .crashed => none

/-- A temporary file is there under its name, and is not one of the files of the start. -/
structure Holds (initial fs : FileSystem) (call : Call) (held : Temporary) : Prop where
  named : ∃ random, held.path = call.path.temporary random
  entry : fs.entries held.path = some (.file held.inode)
  new : initial.size ≤ held.inode

/-- A temporary file with no other name. -/
def Private (fs : FileSystem) (held : Temporary) : Prop :=
  ∀ path, fs.entries path = some (.file held.inode) → path = held.path

/-- A temporary file that is published: complete, read-only, with the final path as its
second name. -/
structure Shared (fs : FileSystem) (call : Call) (held : Temporary) : Prop where
  final : fs.entries call.path = some (.file held.inode)
  file : fs.files held.inode = ⟨call.encoded, readOnly⟩
  names : ∀ path, fs.entries path = some (.file held.inode) → path = held.path ∨ path = call.path

/-- What a call knows of its temporary file. -/
def TempClaim (fs : FileSystem) (call : Call) : Phase → Prop
  | .verifySymlink held | .verifyFile held | .verifyBytes held => ∀ temporary ∈ held, Private fs temporary
  | .write held | .unlinkCleanup held _ => Private fs held
  | .fsync held | .chmodTemporary held =>
      Private fs held ∧ (fs.files held.inode).content = call.encoded
  | .link held => Private fs held ∧ fs.files held.inode = ⟨call.encoded, readOnly⟩
  | .unlinkTemporary held => Shared fs call held
  | .chmodCleanup held _ => Private fs held ∨ Shared fs call held
  | _ => True

/-- What a call that ended, or is about to, knows of its path. -/
def EndingClaim (host : Host) (call : Call) (fs : FileSystem) : Ending → Prop
  | .returned artifact => artifact = call.artifact host ∧
      ∃ inode, fs.entries call.path = some (.file inode) ∧
        (fs.files inode).content = call.encoded
  | .different => ∃ inode, fs.entries call.path = some (.file inode) ∧
      (fs.files inode).content ≠ call.encoded
  | .notRegular => ∃ entry, fs.entries call.path = some entry ∧ ∀ inode, entry ≠ .file inode
  | .failed => True

/-- What a call knows of its path. -/
def PathClaim (host : Host) (call : Call) (fs : FileSystem) : Phase → Prop
  | .verifySymlink _ => ∃ entry, fs.entries call.path = some entry
  | .verifyFile _ => ∃ entry, fs.entries call.path = some entry ∧
      ∀ resolves, entry ≠ .symlink resolves
  | .verifyBytes _ => ∃ inode, fs.entries call.path = some (.file inode)
  | .chmodExisting => ∃ inode, fs.entries call.path = some (.file inode) ∧
      (fs.files inode).content = call.encoded
  | .chmodFinal => ∃ inode, fs.entries call.path = some (.file inode) ∧
      fs.files inode = ⟨call.encoded, readOnly⟩
  | .chmodCleanup _ ending | .unlinkCleanup _ ending | .ended ending =>
      EndingClaim host call fs ending
  | _ => True

/-- A call knows where it stands. -/
structure Knows (host : Host) (initial fs : FileSystem) (call : Call) (phase : Phase) : Prop where
  holds : ∀ held ∈ phase.held, Holds initial fs call held
  temp : TempClaim fs call phase
  path : PathClaim host call fs phase

/-- A held temporary file is private or published. -/
theorem TempClaim.separate {fs : FileSystem} {call : Call} {phase : Phase}
    (claim : TempClaim fs call phase) {held : Temporary} (there : held ∈ phase.held) :
    Private fs held ∨ Shared fs call held := by
  cases phase <;> simp only [Phase.held, Option.mem_def, Option.some.injEq, reduceCtorEq] at there
  case verifySymlink | verifyFile | verifyBytes => exact .inl (claim held there)
  case write | unlinkCleanup => exact .inl (there ▸ claim)
  case fsync | chmodTemporary | link => exact .inl (there ▸ claim.1)
  case unlinkTemporary => exact .inr (there ▸ claim)
  case chmodCleanup => exact there ▸ claim

/-! ## What others leave alone -/

/-- What is at a path stays: its entry, its bytes, and its mode once it is read-only. -/
def Stable (fs fs' : FileSystem) (path : Path) : Prop :=
  ∀ entry, fs.entries path = some entry → fs'.entries path = some entry ∧
    ∀ inode, entry = .file inode → (fs'.files inode).content = (fs.files inode).content ∧
      ((fs.files inode).mode = readOnly → (fs'.files inode).mode = readOnly)

/-- A temporary file is as it was. -/
structure Untouched (fs fs' : FileSystem) (held : Temporary) : Prop where
  entry : fs'.entries held.path = fs.entries held.path
  file : fs'.files held.inode = fs.files held.inode
  names : ∀ path, fs'.entries path = some (.file held.inode) →
    fs.entries path = some (.file held.inode)

section Frame

variable {host : Host} {call : Call} {initial fs fs' fs'' : FileSystem} {path : Path}
variable {phase : Phase} {held : Temporary}

theorem Stable.refl (fs : FileSystem) (path : Path) : Stable fs fs path :=
  fun _ there => ⟨there, fun _ _ => ⟨rfl, id⟩⟩

theorem Stable.trans (first : Stable fs fs' path) (second : Stable fs' fs'' path) :
    Stable fs fs'' path := by
  intro entry there
  obtain ⟨there', same⟩ := first entry there
  obtain ⟨there'', same'⟩ := second entry there'
  refine ⟨there'', fun inode names => ?_⟩
  obtain ⟨content, mode⟩ := same inode names
  obtain ⟨content', mode'⟩ := same' inode names
  exact ⟨content'.trans content, fun sealed => mode' (mode sealed)⟩

/-- A file at a stable path keeps its bytes. -/
theorem Stable.content (stable : Stable fs fs' path) {inode : Nat}
    (there : fs.entries path = some (.file inode)) :
    fs'.entries path = some (.file inode) ∧
      (fs'.files inode).content = (fs.files inode).content := by
  obtain ⟨there', same⟩ := stable _ there
  exact ⟨there', (same inode rfl).1⟩

/-- A read-only file at a stable path stays as it is. -/
theorem Stable.file (stable : Stable fs fs' path) {inode : Nat} {content : List UInt8}
    (there : fs.entries path = some (.file inode))
    (file : fs.files inode = ⟨content, readOnly⟩) :
    fs'.entries path = some (.file inode) ∧ fs'.files inode = ⟨content, readOnly⟩ := by
  obtain ⟨there', same⟩ := stable _ there
  obtain ⟨content', mode'⟩ := same inode rfl
  rw [file] at content' mode'
  exact ⟨there', File.ext content' (mode' rfl)⟩

theorem Private.frame (isPrivate : Private fs held) (untouched : Untouched fs fs' held) :
    Private fs' held :=
  fun path there => isPrivate path (untouched.names path there)

theorem Shared.frame (shared : Shared fs call held) (untouched : Untouched fs fs' held)
    (stable : Stable fs fs' call.path) : Shared fs' call held where
  final := (stable.content shared.final).1
  file := untouched.file.trans shared.file
  names path there := shared.names path (untouched.names path there)

theorem Holds.frame (holds : Holds initial fs call held) (untouched : Untouched fs fs' held) :
    Holds initial fs' call held :=
  ⟨holds.named, untouched.entry.trans holds.entry, holds.new⟩

theorem TempClaim.frame (claim : TempClaim fs call phase)
    (untouched : ∀ held ∈ phase.held, Untouched fs fs' held)
    (stable : Stable fs fs' call.path) : TempClaim fs' call phase := by
  cases phase <;> simp only [TempClaim] at claim ⊢
  case verifySymlink | verifyFile | verifyBytes =>
    exact fun held there => (claim held there).frame (untouched held there)
  case write held | unlinkCleanup held _ => exact claim.frame (untouched held rfl)
  case fsync held | chmodTemporary held =>
    exact ⟨claim.1.frame (untouched held rfl), by rw [(untouched held rfl).file]; exact claim.2⟩
  case link held =>
    exact ⟨claim.1.frame (untouched held rfl), (untouched held rfl).file.trans claim.2⟩
  case unlinkTemporary held => exact claim.frame (untouched held rfl) stable
  case chmodCleanup held _ =>
    exact claim.imp (fun claim => claim.frame (untouched held rfl))
      (fun claim => claim.frame (untouched held rfl) stable)

theorem EndingClaim.frame {ending : Ending} (claim : EndingClaim host call fs ending)
    (stable : Stable fs fs' call.path) : EndingClaim host call fs' ending := by
  cases ending with
  | returned artifact =>
      obtain ⟨same, inode, there, content⟩ := claim
      obtain ⟨there', content'⟩ := stable.content there
      exact ⟨same, inode, there', content'.trans content⟩
  | notRegular =>
      obtain ⟨entry, there, notFile⟩ := claim
      exact ⟨entry, (stable entry there).1, notFile⟩
  | different =>
      obtain ⟨inode, there, content⟩ := claim
      obtain ⟨there', content'⟩ := stable.content there
      exact ⟨inode, there', content' ▸ content⟩
  | failed => trivial

theorem PathClaim.frame (claim : PathClaim host call fs phase)
    (stable : Stable fs fs' call.path) : PathClaim host call fs' phase := by
  cases phase <;> simp only [PathClaim] at claim ⊢
  case verifySymlink =>
    obtain ⟨entry, there⟩ := claim
    exact ⟨entry, (stable entry there).1⟩
  case verifyFile =>
    obtain ⟨entry, there, notLink⟩ := claim
    exact ⟨entry, (stable entry there).1, notLink⟩
  case verifyBytes =>
    obtain ⟨inode, there⟩ := claim
    exact ⟨inode, (stable.content there).1⟩
  case chmodExisting =>
    obtain ⟨inode, there, content⟩ := claim
    obtain ⟨there', content'⟩ := stable.content there
    exact ⟨inode, there', content'.trans content⟩
  case chmodFinal =>
    obtain ⟨inode, there, file⟩ := claim
    exact ⟨inode, stable.file there file⟩
  case chmodCleanup | unlinkCleanup | ended => exact EndingClaim.frame claim stable

/-- What a call knows stays true while its files are left alone. -/
theorem Knows.frame (knows : Knows host initial fs call phase)
    (untouched : ∀ held ∈ phase.held, Untouched fs fs' held)
    (stable : Stable fs fs' call.path) : Knows host initial fs' call phase where
  holds held there := (knows.holds held there).frame (untouched held there)
  temp := knows.temp.frame untouched stable
  path := knows.path.frame stable

end Frame

/-! ## What a step does -/

/-- What a step of a call does to the file system. -/
inductive Effect (call : Call) (fs : FileSystem) (phase : Phase) : FileSystem → Prop
  | same : Effect call fs phase fs
  | created (random : String) (absent : fs.entries (call.path.temporary random) = none) :
      Effect call fs phase (fs.create (call.path.temporary random) ownerOnly)
  | rewritten (held : Temporary) (there : held ∈ phase.held) (isPrivate : Private fs held)
      (file : File) : Effect call fs phase (fs.setFile held.inode file)
  | sealed (inode : Nat) (there : fs.entries call.path = some (.file inode))
      (last : phase = .chmodExisting ∨ phase = .chmodFinal) :
      Effect call fs phase (fs.setFile inode { fs.files inode with mode := readOnly })
  | linked (held : Temporary) (there : held ∈ phase.held) (absent : fs.entries call.path = none)
      (complete : fs.files held.inode = ⟨call.encoded, readOnly⟩) (inUse : held.inode < fs.size) :
      Effect call fs phase (fs.link held.inode inUse call.path)
  | unlinked (held : Temporary) (there : held ∈ phase.held) :
      Effect call fs phase (fs.unlink held.path)

/-- A step of a call, as the others see it and as the call goes on from it. -/
structure Move (host : Host) (initial fs : FileSystem) (call : Call) (phase : Phase)
    (moved : FileSystem × Phase) : Prop where
  effect : Effect call fs phase moved.1
  knows : Knows host initial moved.1 call moved.2
  origin : ∀ held ∈ moved.2.held, held ∈ phase.held ∨ held.inode = fs.size

section Moves

variable {host : Host} {call : Call} {initial fs : FileSystem} {phase next : Phase}
variable {held : Temporary}

/-- A step that leaves the file system alone. -/
theorem Move.stay (holds : ∀ held ∈ next.held, held ∈ phase.held ∧ Holds initial fs call held)
    (temp : TempClaim fs call next) (path : PathClaim host call fs next) :
    Move host initial fs call phase (fs, next) where
  effect := .same
  knows := ⟨fun held there => (holds held there).2, temp, path⟩
  origin held there := .inl (holds held there).1

/-- A step of a call without a temporary file. -/
theorem Move.idle (none : next.held = none) (temp : TempClaim fs call next)
    (path : PathClaim host call fs next) : Move host initial fs call phase (fs, next) :=
  .stay (fun held there => by rw [none] at there; cases there) temp path

/-- A step that gives up without a temporary file. -/
theorem Move.fail (host : Host) (initial fs : FileSystem) (call : Call) (phase : Phase) :
    Move host initial fs call phase (fs, .ended .failed) :=
  .stay (fun _ there => by cases there) trivial trivial

/-- A step that begins to clean up. -/
theorem Move.clean {ending : Ending} (same : phase.held = some held)
    (holds : Holds initial fs call held) (temp : Private fs held ∨ Shared fs call held)
    (path : EndingClaim host call fs ending) :
    Move host initial fs call phase (fs, .chmodCleanup held ending) := by
  refine .stay (fun other there => ?_) temp path
  cases there
  exact ⟨same, holds⟩

/-- A step of the verification that ends it. -/
theorem Move.cleanup {held : Option Temporary} {ending : Ending} (same : phase.held = held)
    (knows : ∀ temporary ∈ held, Holds initial fs call temporary ∧ Private fs temporary)
    (path : EndingClaim host call fs ending) :
    Move host initial fs call phase (fs, cleanup held ending) := by
  cases held with
  | none => exact .stay (fun _ there => by cases there) trivial path
  | some temporary =>
      obtain ⟨holds, isPrivate⟩ := knows temporary rfl
      exact .clean same holds (.inl isPrivate) path

/-- A step of the verification that goes on with it. -/
theorem Move.verify {held : Option Temporary} (same : phase.held = held) (sameNext : next.held = held)
    (knows : ∀ temporary ∈ held, Holds initial fs call temporary ∧ Private fs temporary)
    (temp : TempClaim fs call next) (path : PathClaim host call fs next) :
    Move host initial fs call phase (fs, next) := by
  refine .stay (fun other there => ?_) temp path
  rw [sameNext] at there
  exact ⟨same.symm ▸ there, (knows other there).1⟩

/-! ### The steps that change something -/

theorem temporary_ne (path : Path) (random : String) : path.temporary random ≠ path := by
  intro same
  have length := congrArg (String.length ∘ Path.name) same
  simp only [Function.comp_apply, Path.temporary, String.length_append] at length
  have dot : ".".length = 1 := by decide
  omega

/-- A private file is not the file of the final path. -/
theorem Holds.ne_of_private (holds : Holds initial fs call held) (isPrivate : Private fs held)
    {inode : Nat} (there : fs.entries call.path = some (.file inode)) : inode ≠ held.inode := by
  rintro rfl
  obtain ⟨random, named⟩ := holds.named
  exact temporary_ne call.path random (named.symm.trans (isPrivate _ there).symm)

section Phases

variable (initial) in
theorem mkstemp_move (host : Host) (grown : initial.size ≤ fs.size) {random : String}
    (absent : fs.entries (call.path.temporary random) = none) :
    Move host initial fs call .mkstemp
      (fs.create (call.path.temporary random) ownerOnly,
        .write ⟨call.path.temporary random, fs.size⟩) where
  effect := .created random absent
  knows := by
    refine ⟨fun held there => ?_, fun path there => ?_, trivial⟩
    · cases there
      exact ⟨⟨random, rfl⟩, Inodes.entries_create _ _, grown⟩
    · by_contra other
      rw [Inodes.entries_create_of_ne other] at there
      exact Inodes.ne_size_of_entry there rfl
  origin held there := by
    cases there
    exact .inr rfl

/-- A private file is rewritten. -/
theorem rewrite_move (there : held ∈ phase.held) (holds : Holds initial fs call held)
    (isPrivate : Private fs held) {file : File} (same : next.held = some held)
    (temp : Private (fs.setFile held.inode file) held →
      (fs.setFile held.inode file).files held.inode = file →
        TempClaim (fs.setFile held.inode file) call next)
    (path : PathClaim host call (fs.setFile held.inode file) next) :
    Move host initial fs call phase (fs.setFile held.inode file, next) where
  effect := .rewritten held there isPrivate file
  knows := by
    refine ⟨fun other there => ?_, temp isPrivate (Inodes.files_setFile _ _), path⟩
    rw [same] at there
    cases there
    exact ⟨holds.named, holds.entry, holds.new⟩
  origin other there' := by
    rw [same] at there'
    cases there'
    exact .inl there

/-- A claim on the end of a call survives the rewriting of its private file. -/
theorem EndingClaim.rewrite {ending : Ending} (claim : EndingClaim host call fs ending)
    (holds : Holds initial fs call held) (isPrivate : Private fs held) (file : File) :
    EndingClaim host call (fs.setFile held.inode file) ending := by
  refine claim.frame fun entry there => ⟨there, fun inode names => ?_⟩
  rw [Inodes.files_setFile_of_ne (holds.ne_of_private isPrivate (names ▸ there))]
  exact ⟨rfl, id⟩

theorem link_move (knows : Knows host initial fs call (.link held)) :
    Move host initial fs call (.link held) (linkTemporary call fs held) := by
  have holds := knows.holds held rfl
  obtain ⟨isPrivate, complete⟩ := knows.temp
  unfold linkTemporary
  by_cases absent : fs.entries call.path = none
  · rw [if_neg (not_not.mpr absent)]
    split
    · rename_i inode entry
      have same : inode = held.inode := by
        rw [holds.entry] at entry
        cases entry
        rfl
      subst same
      have inUse := fs.inUse _ _ entry
      refine ⟨.linked held rfl absent complete inUse,
        ⟨fun other there => ?_, ?_, trivial⟩, fun other there => .inl there⟩
      · cases there
        obtain ⟨random, named⟩ := holds.named
        exact ⟨holds.named, by
          rw [Inodes.entries_link_of_ne inUse (named ▸ temporary_ne call.path random)]
          exact holds.entry, holds.new⟩
      · refine ⟨Inodes.entries_link inUse _, complete, fun path there => ?_⟩
        by_cases final : path = call.path
        · exact .inr final
        · rw [Inodes.entries_link_of_ne inUse final] at there
          exact .inl (isPrivate path there)
    · rename_i missing
      exact absurd holds.entry (missing held.inode)
  · rw [if_pos absent]
    refine .stay (fun other there => ⟨there, ?_⟩) (fun other there => ?_)
      (Option.ne_none_iff_exists'.mp absent)
    · cases there
      exact holds
    · cases there
      exact isPrivate

theorem unlinkTemporary_move (knows : Knows host initial fs call (.unlinkTemporary held)) :
    Move host initial fs call (.unlinkTemporary held) (fs.unlink held.path, .chmodFinal) := by
  obtain ⟨final, file, -⟩ := knows.temp
  obtain ⟨random, named⟩ := (knows.holds held rfl).named
  refine ⟨.unlinked held rfl, ⟨fun _ none => (Option.not_mem_none _ none).elim, trivial, held.inode, ?_, file⟩,
    fun _ none => (Option.not_mem_none _ none).elim⟩
  rw [Inodes.entries_unlink_of_ne (named ▸ (temporary_ne call.path random).symm)]
  exact final

theorem unlinkCleanup_move {ending : Ending}
    (knows : Knows host initial fs call (.unlinkCleanup held ending)) :
    Move host initial fs call (.unlinkCleanup held ending)
      (fs.unlink held.path, .ended ending) := by
  obtain ⟨random, named⟩ := (knows.holds held rfl).named
  refine ⟨.unlinked held rfl, ⟨fun _ none => (Option.not_mem_none _ none).elim, trivial, ?_⟩,
    fun _ none => (Option.not_mem_none _ none).elim⟩
  refine EndingClaim.frame knows.path fun entry there => ⟨?_, fun _ _ => ⟨rfl, id⟩⟩
  rw [Inodes.entries_unlink_of_ne (named ▸ (temporary_ne call.path random).symm)]
  exact there

/-- The file of the final path is made read-only, and the call returns. -/
theorem chmod_move (last : phase = .chmodExisting ∨ phase = .chmodFinal) {inode : Nat}
    (there : fs.entries call.path = some (.file inode))
    (content : (fs.files inode).content = call.encoded) :
    Move host initial fs call phase (chmodTo fs call.path readOnly
      (.ended (.returned (call.artifact host))) (.ended .failed)) := by
  rw [chmodTo_of_entry there]
  refine ⟨.sealed inode there last, ⟨fun _ none => (Option.not_mem_none _ none).elim, trivial, rfl, inode, there, ?_⟩,
    fun _ none => (Option.not_mem_none _ none).elim⟩
  rw [Inodes.files_setFile]
  exact content

theorem chmodTemporary_move (knows : Knows host initial fs call (.chmodTemporary held)) :
    Move host initial fs call (.chmodTemporary held)
      (chmodTo fs held.path readOnly (.link held) (.chmodCleanup held .failed)) := by
  have holds := knows.holds held rfl
  obtain ⟨isPrivate, content⟩ := knows.temp
  rw [chmodTo_of_entry holds.entry]
  refine rewrite_move rfl holds isPrivate rfl (fun isPrivate' file => ⟨isPrivate', ?_⟩) trivial
  rw [file]
  exact File.ext content rfl

theorem chmodCleanup_move {ending : Ending}
    (knows : Knows host initial fs call (.chmodCleanup held ending))
    (careful : fs.entries call.path ≠ fs.entries held.path) :
    Move host initial fs call (.chmodCleanup held ending)
      (chmodTo fs held.path ownerOnly (.unlinkCleanup held ending) (.ended .failed)) := by
  have holds := knows.holds held rfl
  have isPrivate : Private fs held := by
    rcases knows.temp with isPrivate | shared
    · exact isPrivate
    · exact absurd (shared.final.trans holds.entry.symm) careful
  rw [chmodTo_of_entry holds.entry]
  exact rewrite_move rfl holds isPrivate rfl (fun isPrivate' _ => isPrivate')
    (EndingClaim.rewrite knows.path holds isPrivate _)

end Phases

/-! ### The verification -/

section Verification

variable {held : Option Temporary}

theorem compareBytes_move (knows : Knows host initial fs call (.verifyBytes held)) :
    Move host initial fs call (.verifyBytes held) (fs, compareBytes host call fs held) := by
  obtain ⟨inode, there⟩ := knows.path
  have both : ∀ temporary ∈ held, Holds initial fs call temporary ∧ Private fs temporary :=
    fun temporary there => ⟨knows.holds temporary there, knows.temp temporary there⟩
  unfold compareBytes
  rw [Inodes.file?_of_entry there]
  by_cases same : (fs.files inode).content = call.encoded
  · simp only [same, ne_eq, not_true, if_false]
    cases held with
    | none => exact .stay (fun _ there => by cases there) trivial ⟨inode, there, same⟩
    | some temporary =>
        obtain ⟨holds, isPrivate⟩ := both temporary rfl
        exact .clean rfl holds (.inl isPrivate) ⟨rfl, inode, there, same⟩
  · simp only [ne_eq, same, not_false_eq_true, if_true]
    exact .cleanup rfl both ⟨inode, there, same⟩

theorem verifySymlink_move (knows : Knows host initial fs call (.verifySymlink held)) :
    Move host initial fs call (.verifySymlink held)
      (fs, if fs.isSymlink call.path then cleanup held .notRegular else .verifyFile held) := by
  obtain ⟨entry, there⟩ := knows.path
  have both : ∀ temporary ∈ held, Holds initial fs call temporary ∧ Private fs temporary :=
    fun temporary there => ⟨knows.holds temporary there, knows.temp temporary there⟩
  split
  · rename_i isLink
    refine .cleanup rfl both ⟨entry, there, fun inode isFile => ?_⟩
    simp [Inodes.isSymlink, there, isFile] at isLink
  · rename_i notLink
    refine .verify rfl rfl both knows.temp ⟨entry, there, fun resolves isLink => notLink ?_⟩
    simp [Inodes.isSymlink, there, isLink]

theorem verifyFile_move (knows : Knows host initial fs call (.verifyFile held)) :
    Move host initial fs call (.verifyFile held)
      (fs, if fs.isFile call.path then .verifyBytes held else cleanup held .notRegular) := by
  obtain ⟨entry, there, notLink⟩ := knows.path
  have both : ∀ temporary ∈ held, Holds initial fs call temporary ∧ Private fs temporary :=
    fun temporary there => ⟨knows.holds temporary there, knows.temp temporary there⟩
  split
  · rename_i isFile
    refine .verify rfl rfl both knows.temp ?_
    cases entry with
    | file inode => exact ⟨inode, there⟩
    | symlink resolves => exact absurd rfl (notLink resolves)
    | directory => simp [Inodes.isFile, there] at isFile
  · rename_i notFile
    refine .cleanup rfl both ⟨entry, there, fun inode isFile => notFile ?_⟩
    simp [Inodes.isFile, there, isFile]

end Verification

theorem checkExists_move : Move host initial fs call .checkExists
    (fs, if fs.exists? call.path then .verifySymlink none else .checkSymlink) := by
  split
  · rename_i isThere
    refine .idle rfl (fun _ there => by cases there) ?_
    cases there : fs.entries call.path with
    | none => simp [Inodes.exists?, there] at isThere
    | some entry => exact ⟨entry, there⟩
  · exact .idle rfl trivial trivial

theorem checkSymlink_move : Move host initial fs call .checkSymlink
    (fs, if fs.isSymlink call.path then .verifySymlink none else .mkstemp) := by
  split
  · rename_i isLink
    refine .idle rfl (fun _ there => by cases there) ?_
    cases there : fs.entries call.path with
    | none => simp [Inodes.isSymlink, there] at isLink
    | some entry => exact ⟨entry, there⟩
  · exact .idle rfl trivial trivial

/-- **What a step of a call does**, in a run whose clean-ups are careful. -/
theorem advance_move (posix : host.nt = false) (grown : initial.size ≤ fs.size)
    (knows : Knows host initial fs call phase) {answer : Answer}
    (careful : ∀ held ending, phase = .chmodCleanup held ending → answer = .done →
      fs.entries call.path ≠ fs.entries held.path)
    {moved : FileSystem × Phase} (taken : moved ∈ advance host call fs phase answer) :
    Move host initial fs call phase moved := by
  cases phase with
  | mkdir =>
      cases answer with
      | done =>
          obtain rfl := Option.some.inj taken
          exact .idle rfl trivial trivial
      | failed =>
          obtain rfl := Option.some.inj taken
          exact .fail ..
      | named | torn => exact (Option.not_mem_none _ taken).elim
  | checkExists =>
      cases answer with
      | done =>
          obtain rfl := Option.some.inj taken
          exact checkExists_move
      | failed =>
          obtain rfl := Option.some.inj taken
          exact .fail ..
      | named | torn => exact (Option.not_mem_none _ taken).elim
  | checkSymlink =>
      cases answer with
      | done =>
          obtain rfl := Option.some.inj taken
          exact checkSymlink_move
      | failed =>
          obtain rfl := Option.some.inj taken
          exact .fail ..
      | named | torn => exact (Option.not_mem_none _ taken).elim
  | verifySymlink held =>
      cases answer with
      | done =>
          obtain rfl := Option.some.inj taken
          exact verifySymlink_move knows
      | failed =>
          obtain rfl := Option.some.inj taken
          exact .cleanup rfl (fun temporary there => ⟨knows.holds temporary there, knows.temp temporary there⟩) trivial
      | named | torn => exact (Option.not_mem_none _ taken).elim
  | verifyFile held =>
      cases answer with
      | done =>
          obtain rfl := Option.some.inj taken
          exact verifyFile_move knows
      | failed =>
          obtain rfl := Option.some.inj taken
          exact .cleanup rfl (fun temporary there => ⟨knows.holds temporary there, knows.temp temporary there⟩) trivial
      | named | torn => exact (Option.not_mem_none _ taken).elim
  | verifyBytes held =>
      cases answer with
      | done =>
          obtain rfl := Option.some.inj taken
          exact compareBytes_move knows
      | failed =>
          obtain rfl := Option.some.inj taken
          exact .cleanup rfl (fun temporary there => ⟨knows.holds temporary there, knows.temp temporary there⟩) trivial
      | named | torn => exact (Option.not_mem_none _ taken).elim
  | chmodExisting =>
      cases answer with
      | done =>
          obtain rfl := Option.some.inj taken
          obtain ⟨inode, there, content⟩ := knows.path
          exact chmod_move (.inl rfl) there content
      | failed =>
          obtain rfl := Option.some.inj taken
          exact .fail ..
      | named | torn => exact (Option.not_mem_none _ taken).elim
  | mkstemp =>
      cases answer with
      | named random =>
          change moved ∈ ite _ _ _ at taken
          split at taken
          · rename_i absent
            obtain rfl := Option.some.inj taken
            exact mkstemp_move initial host grown absent
          · cases taken
      | failed =>
          obtain rfl := Option.some.inj taken
          exact .fail ..
      | done | torn => exact (Option.not_mem_none _ taken).elim
  | write held =>
      cases answer with
      | done =>
          obtain rfl := Option.some.inj taken
          exact rewrite_move rfl (knows.holds held rfl) knows.temp rfl
            (fun isPrivate file => ⟨isPrivate, congrArg File.content file⟩) trivial
      | torn count =>
          obtain rfl := Option.some.inj taken
          exact rewrite_move rfl (knows.holds held rfl) knows.temp rfl (fun isPrivate _ => .inl isPrivate)
            trivial
      | named | failed => exact (Option.not_mem_none _ taken).elim
  | fsync held =>
      cases answer with
      | done =>
          obtain rfl := Option.some.inj taken
          simp only [posix, Bool.false_eq_true, if_false]
          exact .stay (fun _ there => ⟨there, knows.holds _ there⟩) knows.temp trivial
      | failed =>
          obtain rfl := Option.some.inj taken
          exact .clean rfl (knows.holds held rfl) (.inl knows.temp.1) trivial
      | named | torn => exact (Option.not_mem_none _ taken).elim
  | chmodTemporary held =>
      cases answer with
      | done =>
          obtain rfl := Option.some.inj taken
          exact chmodTemporary_move knows
      | failed =>
          obtain rfl := Option.some.inj taken
          exact .clean rfl (knows.holds held rfl) (.inl knows.temp.1) trivial
      | named | torn => exact (Option.not_mem_none _ taken).elim
  | link held =>
      cases answer with
      | done =>
          obtain rfl := Option.some.inj taken
          exact link_move knows
      | failed =>
          obtain rfl := Option.some.inj taken
          exact .clean rfl (knows.holds held rfl) (.inl knows.temp.1) trivial
      | named | torn => exact (Option.not_mem_none _ taken).elim
  | unlinkTemporary held =>
      cases answer with
      | done =>
          obtain rfl := Option.some.inj taken
          rw [if_pos (by rw [(knows.holds held rfl).entry]; simp)]
          exact unlinkTemporary_move knows
      | failed =>
          obtain rfl := Option.some.inj taken
          exact .clean rfl (knows.holds held rfl) (.inr knows.temp) trivial
      | named | torn => exact (Option.not_mem_none _ taken).elim
  | chmodFinal =>
      cases answer with
      | done =>
          obtain rfl := Option.some.inj taken
          obtain ⟨inode, there, file⟩ := knows.path
          exact chmod_move (.inr rfl) there (congrArg File.content file)
      | failed =>
          obtain rfl := Option.some.inj taken
          exact .fail ..
      | named | torn => exact (Option.not_mem_none _ taken).elim
  | chmodCleanup held ending =>
      cases answer with
      | done =>
          obtain rfl := Option.some.inj taken
          exact chmodCleanup_move knows (careful held ending rfl rfl)
      | failed =>
          obtain rfl := Option.some.inj taken
          exact .fail ..
      | named | torn => exact (Option.not_mem_none _ taken).elim
  | unlinkCleanup held ending =>
      cases answer with
      | done =>
          obtain rfl := Option.some.inj taken
          exact unlinkCleanup_move knows
      | failed =>
          obtain rfl := Option.some.inj taken
          exact .fail ..
      | named | torn => exact (Option.not_mem_none _ taken).elim
  | ended | crashed => cases answer <;> exact (Option.not_mem_none _ taken).elim

/-! ### Failures -/

/-- The ending a call has, or is about to have. -/
def Phase.ending? : Phase → Option Ending
  | .chmodCleanup _ ending | .unlinkCleanup _ ending | .ended ending => some ending
  | _ => none

theorem cleanup_ending (held : Option Temporary) (ending : Ending) :
    (cleanup held ending).ending? = some ending := by
  cases held <;> rfl

theorem compareBytes_ending {held : Option Temporary} {inode : Nat}
    (there : fs.entries call.path = some (.file inode)) :
    (compareBytes host call fs held).ending? ≠ some .failed := by
  unfold compareBytes
  rw [Inodes.file?_of_entry there]
  by_cases same : (fs.files inode).content = call.encoded
  · simp only [same, ne_eq, not_true, if_false]
    cases held <;> simp [Phase.ending?]
  · simp [same, cleanup_ending]

theorem linkTemporary_ending (holds : Holds initial fs call held) :
    (linkTemporary call fs held).2.ending? ≠ some .failed := by
  unfold linkTemporary
  split
  · simp [Phase.ending?]
  · split
    · simp [Phase.ending?]
    · rename_i missing
      exact absurd holds.entry (missing held.inode)

/-- **A call fails only where the system fails it.** -/
theorem advance_failing (knows : Knows host initial fs call phase) {answer : Answer}
    {moved : FileSystem × Phase} (taken : moved ∈ advance host call fs phase answer)
    (failing : moved.2.ending? = some .failed) :
    phase.ending? = some .failed ∨ answer = .failed ∨ ∃ count, answer = .torn count := by
  cases phase with
  | mkdir =>
      cases answer with
      | done =>
          obtain rfl := Option.some.inj taken
          cases failing
      | failed => exact .inr (.inl rfl)
      | named | torn => exact (Option.not_mem_none _ taken).elim
  | checkExists | checkSymlink =>
      cases answer with
      | done =>
          obtain rfl := Option.some.inj taken
          split at failing <;> cases failing
      | failed => exact .inr (.inl rfl)
      | named | torn => exact (Option.not_mem_none _ taken).elim
  | verifySymlink held =>
      cases answer with
      | done =>
          obtain rfl := Option.some.inj taken
          split at failing
          · rw [cleanup_ending] at failing
            cases failing
          · cases failing
      | failed => exact .inr (.inl rfl)
      | named | torn => exact (Option.not_mem_none _ taken).elim
  | verifyFile held =>
      cases answer with
      | done =>
          obtain rfl := Option.some.inj taken
          split at failing
          · cases failing
          · rw [cleanup_ending] at failing
            cases failing
      | failed => exact .inr (.inl rfl)
      | named | torn => exact (Option.not_mem_none _ taken).elim
  | verifyBytes held =>
      cases answer with
      | done =>
          obtain rfl := Option.some.inj taken
          obtain ⟨inode, there⟩ := knows.path
          exact absurd failing (compareBytes_ending there)
      | failed => exact .inr (.inl rfl)
      | named | torn => exact (Option.not_mem_none _ taken).elim
  | chmodExisting =>
      cases answer with
      | done =>
          obtain rfl := Option.some.inj taken
          obtain ⟨inode, there, -⟩ := knows.path
          rw [chmodTo_of_entry there] at failing
          cases failing
      | failed => exact .inr (.inl rfl)
      | named | torn => exact (Option.not_mem_none _ taken).elim
  | mkstemp =>
      cases answer with
      | named random =>
          change moved ∈ ite _ _ _ at taken
          split at taken
          · obtain rfl := Option.some.inj taken
            cases failing
          · cases taken
      | failed => exact .inr (.inl rfl)
      | done | torn => exact (Option.not_mem_none _ taken).elim
  | write held =>
      cases answer with
      | done =>
          obtain rfl := Option.some.inj taken
          cases failing
      | torn count => exact .inr (.inr ⟨count, rfl⟩)
      | named | failed => exact (Option.not_mem_none _ taken).elim
  | fsync held =>
      cases answer with
      | done =>
          obtain rfl := Option.some.inj taken
          split at failing <;> cases failing
      | failed => exact .inr (.inl rfl)
      | named | torn => exact (Option.not_mem_none _ taken).elim
  | chmodTemporary held =>
      cases answer with
      | done =>
          obtain rfl := Option.some.inj taken
          rw [chmodTo_of_entry (knows.holds held rfl).entry] at failing
          cases failing
      | failed => exact .inr (.inl rfl)
      | named | torn => exact (Option.not_mem_none _ taken).elim
  | link held =>
      cases answer with
      | done =>
          obtain rfl := Option.some.inj taken
          exact absurd failing (linkTemporary_ending (knows.holds held rfl))
      | failed => exact .inr (.inl rfl)
      | named | torn => exact (Option.not_mem_none _ taken).elim
  | unlinkTemporary held =>
      cases answer with
      | done =>
          obtain rfl := Option.some.inj taken
          rw [if_pos (by rw [(knows.holds held rfl).entry]; simp)] at failing
          cases failing
      | failed => exact .inr (.inl rfl)
      | named | torn => exact (Option.not_mem_none _ taken).elim
  | chmodFinal =>
      cases answer with
      | done =>
          obtain rfl := Option.some.inj taken
          obtain ⟨inode, there, -⟩ := knows.path
          rw [chmodTo_of_entry there] at failing
          cases failing
      | failed => exact .inr (.inl rfl)
      | named | torn => exact (Option.not_mem_none _ taken).elim
  | chmodCleanup held ending =>
      cases answer with
      | done =>
          obtain rfl := Option.some.inj taken
          rw [chmodTo_of_entry (knows.holds held rfl).entry] at failing
          exact .inl failing
      | failed => exact .inr (.inl rfl)
      | named | torn => exact (Option.not_mem_none _ taken).elim
  | unlinkCleanup held ending =>
      cases answer with
      | done =>
          obtain rfl := Option.some.inj taken
          exact .inl failing
      | failed => exact .inr (.inl rfl)
      | named | torn => exact (Option.not_mem_none _ taken).elim
  | ended | crashed => cases answer <;> exact (Option.not_mem_none _ taken).elim

end Moves

end Evidence

end HcuAutoOpt
