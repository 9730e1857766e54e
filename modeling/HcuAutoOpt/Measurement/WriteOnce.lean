import HcuAutoOpt.Measurement.EvidenceSteps

/-!
# Evidence is published once

Any number of calls publish evidence side by side. No step takes away what is at a final path
or changes its bytes (`Inv.stable`), and no step touches the temporary file of another call
(`Inv.untouched`), so everything a call knows stays true until its next step.

The mode of a published file is another matter. When the temporary name cannot be removed
after the link, the clean-up of the call makes the file writable, under its final path too
(`cleanup_makes_writable`). In runs in which no clean-up reaches a published file
(`CarefulStep`), evidence is written once.
-/

set_option autoImplicit false

namespace HcuAutoOpt

namespace Evidence

open Foundation

/-! ## What all calls keep -/

section World

variable {W : Type} {host : Host} {calls : W → Call}
variable {initial fs fs' : FileSystem} {s s' : World W} {event : Event W} {w v : W}

/-- No path is the temporary name of a path. -/
def Apart (calls : W → Call) : Prop :=
  ∀ w v random, (calls w).path.temporary random ≠ (calls v).path

/-- The file of a path is the complete and read-only evidence of a call. -/
def Published (calls : W → Call) (fs : FileSystem) (path : Path) : Prop :=
  ∃ w inode, (calls w).path = path ∧ fs.entries path = some (.file inode) ∧
    fs.files inode = ⟨(calls w).encoded, readOnly⟩

/-- What holds at every moment. -/
structure Inv (host : Host) (calls : W → Call) (initial : FileSystem) (s : World W) : Prop where
  knows : ∀ w, Knows host initial s.fs (calls w) (s.phase w)
  distinct : ∀ w v, w ≠ v → ∀ held ∈ (s.phase w).held, ∀ other ∈ (s.phase v).held,
    held.inode ≠ other.inode
  grown : initial.size ≤ s.fs.size
  published : ∀ w, initial.entries (calls w).path = none →
    s.fs.entries (calls w).path = none ∨ Published calls s.fs (calls w).path

/-- The clean-up step does not reach the file of the final path. -/
def Careful (calls : W → Call) (s : World W) (event : Event W) : Prop :=
  ∀ held ending, s.phase event.call = .chmodCleanup held ending → event.answer = some .done →
    s.fs.entries (calls event.call).path ≠ s.fs.entries held.path

/-- What is at a path is as it was. -/
def Unchanged (fs fs' : FileSystem) (path : Path) : Prop :=
  ∀ entry, fs.entries path = some entry → fs'.entries path = some entry ∧
    ∀ inode, entry = .file inode → fs'.files inode = fs.files inode

theorem Unchanged.stable {path : Path} (unchanged : Unchanged fs fs' path) :
    Stable fs fs' path := by
  intro entry there
  obtain ⟨there', same⟩ := unchanged entry there
  refine ⟨there', fun inode isFile => ?_⟩
  rw [same inode isFile]
  exact ⟨rfl, id⟩

/-- The steps that clean up are careful, the others have nothing to be careful about. -/
instance [DecidableEq W] (calls : W → Call) (s : World W) (event : Event W) :
    Decidable (Careful calls s event) :=
  match phase : s.phase event.call with
  | .chmodCleanup held ending =>
      decidable_of_iff (event.answer = some .done →
        s.fs.entries (calls event.call).path ≠ s.fs.entries held.path)
        ⟨fun careful other _ same done => by
          rw [phase] at same
          cases same
          exact careful done, fun careful => careful held ending phase⟩
  | .mkdir | .checkExists | .checkSymlink | .chmodExisting | .mkstemp | .chmodFinal | .crashed
  | .verifySymlink _ | .verifyFile _ | .verifyBytes _ | .write _ | .fsync _ | .chmodTemporary _
  | .link _ | .unlinkTemporary _ | .unlinkCleanup _ _ | .ended _ =>
      .isTrue fun _ _ same => by rw [phase] at same; cases same

section Effects

variable (apart : Apart calls) (inv : Inv host calls initial s)
include apart inv

theorem Inv.held_ne_path {held : Temporary} (there : held ∈ (s.phase w).held) (v : W) :
    held.path ≠ (calls v).path := by
  obtain ⟨random, named⟩ := ((inv.knows w).holds held there).named
  exact named ▸ apart w v random

/-- A step leaves what is at a final path as it is, unless it makes the file of its own path
read-only before the call returns. -/
theorem Inv.unchanged (effect : Effect (calls w) s.fs (s.phase w) fs') :
    (∀ v, Unchanged s.fs fs' (calls v).path) ∨
      (s.phase w = .chmodExisting ∨ s.phase w = .chmodFinal) ∧ ∃ inode,
        s.fs.entries (calls w).path = some (.file inode) ∧
          fs' = s.fs.setFile inode { s.fs.files inode with mode := readOnly } := by
  cases effect with
  | same => exact .inl fun _ _ there => ⟨there, fun _ _ => rfl⟩
  | created random absent =>
      refine .inl fun v entry there => ⟨?_, fun inode isFile => ?_⟩
      · rw [Inodes.entries_create_of_ne (apart w v random).symm]
        exact there
      · exact Inodes.files_create_of_ne (Inodes.ne_size_of_entry (isFile ▸ there)) _ _
  | rewritten held holds isPrivate file =>
      refine .inl fun v entry there => ⟨there, fun inode isFile => ?_⟩
      have other : inode ≠ held.inode := by
        rintro rfl
        exact inv.held_ne_path apart holds v (isPrivate _ (isFile ▸ there)).symm
      exact Inodes.files_setFile_of_ne other _
  | sealed inode final last => exact .inr ⟨last, inode, final, rfl⟩
  | linked held holds absent complete inUse =>
      refine .inl fun v entry there => ⟨?_, fun _ _ => rfl⟩
      rw [Inodes.entries_link_of_ne inUse]
      · exact there
      · intro same
        rw [same, absent] at there
        cases there
  | unlinked held holds =>
      refine .inl fun v entry there => ⟨?_, fun _ _ => rfl⟩
      rw [Inodes.entries_unlink_of_ne (inv.held_ne_path apart holds v).symm]
      exact there

/-- **No step takes away what is at a final path.** -/
theorem Inv.stable (effect : Effect (calls w) s.fs (s.phase w) fs') (v : W) :
    Stable s.fs fs' (calls v).path := by
  rcases inv.unchanged apart effect with unchanged | ⟨-, sealed, final, rfl⟩
  · exact (unchanged v).stable
  · intro entry there
    refine ⟨there, fun inode isFile => ?_⟩
    by_cases same : inode = sealed
    · subst same
      rw [Inodes.files_setFile]
      exact ⟨rfl, fun _ => rfl⟩
    · rw [Inodes.files_setFile_of_ne same]
      exact ⟨rfl, id⟩

/-- **No step touches the temporary file of another call.** -/
theorem Inv.untouched (effect : Effect (calls w) s.fs (s.phase w) fs') (others : v ≠ w)
    {held : Temporary} (there : held ∈ (s.phase v).held) : Untouched s.fs fs' held := by
  have holds := (inv.knows v).holds held there
  have unused := Inodes.ne_size_of_entry holds.entry
  cases effect with
  | same => exact ⟨rfl, rfl, fun _ there => there⟩
  | created random absent =>
      have other : held.path ≠ (calls w).path.temporary random := by
        intro same
        rw [← same, holds.entry] at absent
        cases absent
      refine ⟨Inodes.entries_create_of_ne other _, Inodes.files_create_of_ne unused _ _,
        fun path named => ?_⟩
      by_cases same : path = (calls w).path.temporary random
      · rw [same, Inodes.entries_create] at named
        exact absurd (Entry.file.inj (Option.some.inj named)).symm unused
      · rwa [Inodes.entries_create_of_ne same] at named
  | rewritten own owns isPrivate file =>
      have other := inv.distinct v w others held there own owns
      exact ⟨rfl, Inodes.files_setFile_of_ne other _, fun _ named => named⟩
  | sealed inode final =>
      refine ⟨rfl, ?_, fun _ named => named⟩
      by_cases same : held.inode = inode
      · subst same
        rcases (inv.knows v).temp.separate there with isPrivate | shared
        · exact absurd (isPrivate _ final).symm (inv.held_ne_path apart there w)
        · rw [Inodes.files_setFile, shared.file]
      · exact Inodes.files_setFile_of_ne same _
  | linked own owns absent complete inUse =>
      refine ⟨Inodes.entries_link_of_ne inUse (inv.held_ne_path apart there w), rfl,
        fun path named => ?_⟩
      by_cases same : path = (calls w).path
      · rw [same, Inodes.entries_link] at named
        have inodes : own.inode = held.inode := Entry.file.inj (Option.some.inj named)
        exact absurd inodes.symm (inv.distinct v w others held there own owns)
      · rwa [Inodes.entries_link_of_ne inUse same] at named
  | unlinked own owns =>
      have other : held.path ≠ own.path := by
        intro same
        have entry := ((inv.knows w).holds own owns).entry
        rw [← same, holds.entry] at entry
        exact inv.distinct v w others held there own owns (Entry.file.inj (Option.some.inj entry))
      refine ⟨Inodes.entries_unlink_of_ne other, rfl, fun path named => ?_⟩
      by_cases same : path = own.path
      · rw [same, Inodes.entries_unlink] at named
        cases named
      · rwa [Inodes.entries_unlink_of_ne same] at named

/-- A path is only filled by publishing. -/
theorem Inv.fills (effect : Effect (calls w) s.fs (s.phase w) fs')
    (absent : s.fs.entries (calls v).path = none) :
    fs'.entries (calls v).path = none ∨ Published calls fs' (calls v).path := by
  cases effect with
  | same => exact .inl absent
  | created random =>
      rw [Inodes.entries_create_of_ne (apart w v random).symm]
      exact .inl absent
  | rewritten => exact .inl absent
  | sealed => exact .inl absent
  | linked held owns _ complete inUse =>
      by_cases same : (calls v).path = (calls w).path
      · exact .inr ⟨w, held.inode, same.symm, by rw [same, Inodes.entries_link], complete⟩
      · rw [Inodes.entries_link_of_ne inUse same]
        exact .inl absent
  | unlinked held owns =>
      rw [Inodes.entries_unlink_of_ne (inv.held_ne_path apart owns v).symm]
      exact .inl absent

end Effects

theorem Effect.grows {call : Call} {phase : Phase} (effect : Effect call fs phase fs') :
    fs.size ≤ fs'.size := by
  cases effect with
  | created => exact Nat.le_succ _
  | _ => exact Nat.le_refl _

theorem Published.frame {path : Path} (published : Published calls fs path)
    (stable : Stable fs fs' path) : Published calls fs' path := by
  obtain ⟨w, inode, same, there, file⟩ := published
  obtain ⟨there', file'⟩ := stable.file there file
  exact ⟨w, inode, same, there', file'⟩

theorem Inv.start (host : Host) (calls : W → Call) (initial : FileSystem) :
    Inv host calls initial (World.start initial) where
  knows _ := ⟨fun _ none => (Option.not_mem_none _ none).elim, trivial, trivial⟩
  distinct _ _ _ _ none := (Option.not_mem_none _ none).elim
  grown := Nat.le_refl _
  published _ absent := .inl absent

variable [DecidableEq W]

/-- A move of one call in the world. -/
theorem Inv.move (apart : Apart calls) (inv : Inv host calls initial s)
    {moved : FileSystem × Phase}
    (move : Move host initial s.fs (calls w) (s.phase w) moved) :
    Inv host calls initial ⟨moved.1, Function.update s.phase w moved.2⟩ := by
  have stable := inv.stable apart move.effect
  refine ⟨fun v => ?_, fun v u others held there other there' => ?_,
    Nat.le_trans inv.grown move.effect.grows, fun v absent => ?_⟩
  · by_cases same : v = w
    · subst same
      simp only [Function.update_self]
      exact move.knows
    · simp only [Function.update_of_ne same]
      exact (inv.knows v).frame (fun held there => inv.untouched apart move.effect same there)
        (stable v)
  · -- the inode of a new temporary file is not in use
    have unused : ∀ v, ∀ held ∈ (s.phase v).held, held.inode ≠ s.fs.size := fun v held there =>
      Inodes.ne_size_of_entry ((inv.knows v).holds held there).entry
    by_cases first : v = w
    · subst first
      simp only [Function.update_self, Function.update_of_ne others.symm] at there there'
      rcases move.origin held there with before | new
      · exact inv.distinct v u others held before other there'
      · exact new ▸ (unused u other there').symm
    · simp only [Function.update_of_ne first] at there
      by_cases second : u = w
      · subst second
        simp only [Function.update_self] at there'
        rcases move.origin other there' with before | new
        · exact inv.distinct v u others held there other before
        · exact new ▸ unused v held there
      · simp only [Function.update_of_ne second] at there'
        exact inv.distinct v u others held there other there'
  · rcases inv.published v absent with absent' | published
    · exact inv.fills apart move.effect absent'
    · exact .inr (published.frame (stable v))

/-! ## Runs -/

/-- A step that is careful if it cleans up. -/
def CarefulStep (host : Host) (calls : W → Call) (s : World W) (event : Event W) (s' : World W) :
    Prop :=
  Step host calls s event s' ∧ Careful calls s event

omit [DecidableEq W] in
theorem advance_of_isOver {call : Call} {phase : Phase} {answer : Answer}
    (isOver : phase.isOver = true) : advance host call fs phase answer = none := by
  cases phase with
  | ended | crashed => cases answer <;> rfl
  | _ => cases isOver

/-- What a step does: the process of a call ends, or the call moves. -/
theorem CarefulStep.cases (posix : host.nt = false) (inv : Inv host calls initial s)
    (step : CarefulStep host calls s event s') :
    ∃ moved, Move host initial s.fs (calls event.call) (s.phase event.call) moved ∧
      s' = ⟨moved.1, Function.update s.phase event.call moved.2⟩ ∧
      (s.phase event.call).isOver = false ∧
      (event.answer = none ∧ moved = (s.fs, .crashed) ∨ ∃ answer, event.answer = some answer ∧
        moved ∈ advance host (calls event.call) s.fs (s.phase event.call) answer) := by
  obtain ⟨taken, careful⟩ := step
  rw [Step, perform] at taken
  cases answered : event.answer with
  | none =>
      rw [answered] at taken
      simp only [Option.ite_none_left_eq_some, Option.some.injEq, Bool.not_eq_true] at taken
      obtain ⟨running, rfl⟩ := taken
      exact ⟨(s.fs, .crashed), .idle rfl trivial trivial, rfl, running, .inl ⟨rfl, rfl⟩⟩
  | some answer =>
      rw [answered] at taken
      obtain ⟨moved, advanced, rfl⟩ := Option.map_eq_some_iff.mp taken
      refine ⟨moved, advance_move posix inv.grown (inv.knows _) (fun held ending isCleanup done =>
        careful held ending isCleanup (done ▸ answered)) advanced, rfl, ?_,
        .inr ⟨answer, rfl, advanced⟩⟩
      cases isOver : (s.phase event.call).isOver with
      | false => rfl
      | true => exact absurd advanced (by rw [advance_of_isOver isOver]; simp)

theorem CarefulStep.inv (posix : host.nt = false) (apart : Apart calls)
    (inv : Inv host calls initial s) (step : CarefulStep host calls s event s') :
    Inv host calls initial s' := by
  obtain ⟨moved, move, rfl, -⟩ := step.cases posix inv
  exact inv.move apart move

theorem CarefulStep.stable (posix : host.nt = false) (apart : Apart calls)
    (inv : Inv host calls initial s) (step : CarefulStep host calls s event s') (v : W) :
    Stable s.fs s'.fs (calls v).path := by
  obtain ⟨moved, move, rfl, -⟩ := step.cases posix inv
  exact inv.stable apart move.effect v

/-- A call that ended takes no step. -/
theorem CarefulStep.isOver (posix : host.nt = false) (inv : Inv host calls initial s)
    (step : CarefulStep host calls s event s') (isOver : (s.phase w).isOver = true) :
    s'.phase w = s.phase w := by
  obtain ⟨moved, -, rfl, running, -⟩ := step.cases posix inv
  have other : w ≠ event.call := by
    rintro rfl
    rw [running] at isOver
    cases isOver
  exact Function.update_of_ne other ..

/-- **A step of a call that does not return leaves every final path as it is.** -/
theorem CarefulStep.unchanged (posix : host.nt = false) (apart : Apart calls)
    (inv : Inv host calls initial s) (step : CarefulStep host calls s event s') :
    (∀ v, Unchanged s.fs s'.fs (calls v).path) ∨
      ∃ artifact, s'.phase event.call = .ended (.returned artifact) := by
  obtain ⟨moved, move, rfl, -, answered⟩ := step.cases posix inv
  rcases inv.unchanged apart move.effect with unchanged | ⟨last, inode, final, -⟩
  · exact .inl unchanged
  · have same : ∀ v, Unchanged s.fs s.fs (calls v).path := fun v _ there => ⟨there, fun _ _ => rfl⟩
    rcases answered with ⟨-, rfl⟩ | ⟨answer, -, taken⟩
    · exact .inl same
    · simp only [Function.update_self]
      rcases last with phase | phase <;> rw [phase] at taken <;> cases answer
      case inl.done | inr.done =>
        obtain rfl := Option.some.inj taken
        exact .inr ⟨_, by rw [chmodTo_of_entry final]⟩
      case inl.failed | inr.failed =>
        obtain rfl := Option.some.inj taken
        exact .inl same
      all_goals exact (Option.not_mem_none _ taken).elim

section Runs

variable {trace more : List (Event W)}
variable (posix : host.nt = false) (apart : Apart calls)
include posix apart

/-- The invariant of a run. -/
theorem inv_of_run (run : Steps (CarefulStep host calls) s trace s')
    (inv : Inv host calls initial s) : Inv host calls initial s' :=
  run.invariant (fun _ _ _ inv step => step.inv posix apart inv) inv

/-- **A run takes away nothing that is at a final path.** -/
theorem stable_of_run (run : Steps (CarefulStep host calls) s trace s')
    (inv : Inv host calls initial s) (v : W) : Stable s.fs s'.fs (calls v).path :=
  run.relate (fun _ _ _ inv step => step.inv posix apart inv)
    (fun s => Stable.refl s.fs (calls v).path) (fun _ _ _ first second => first.trans second)
    (fun _ _ _ inv step => step.stable posix apart inv v) inv

/-- A call that ended stays as it ended. -/
theorem isOver_of_run (run : Steps (CarefulStep host calls) s trace s')
    (inv : Inv host calls initial s) (isOver : (s.phase w).isOver = true) :
    s'.phase w = s.phase w := by
  induction run with
  | refl => rfl
  | tail before step ih =>
      have inv' := inv_of_run posix apart before inv
      exact (step.isOver posix inv' (ih.symm ▸ isOver)).trans ih

/-- **A call that failed was failed by the system.** -/
theorem faulty_of_run (run : Steps (CarefulStep host calls) (World.start initial) trace s')
    (failing : (s'.phase w).ending? = some .failed) :
    ∃ event ∈ trace, event.call = w ∧ event.Faulty := by
  induction run with
  | refl => cases failing
  | @tail t u trace event before step ih =>
      have inv := inv_of_run posix apart before (Inv.start host calls initial)
      obtain ⟨moved, -, rfl, -, answered⟩ := step.cases posix inv
      have earlier : (t.phase w).ending? = some .failed →
          ∃ found ∈ trace ++ [event], found.call = w ∧ found.Faulty := fun failed => by
        obtain ⟨found, there, own, faulty⟩ := ih failed
        exact ⟨found, List.mem_append_left _ there, own, faulty⟩
      by_cases own : w = event.call
      · subst own
        simp only [Function.update_self] at failing
        rcases answered with ⟨-, rfl⟩ | ⟨answer, answered, taken⟩
        · cases failing
        · rcases advance_failing (inv.knows _) taken failing with failed | failed | ⟨count, torn⟩
          · exact earlier failed
          · exact ⟨event, by simp, rfl, .inl (failed ▸ answered)⟩
          · exact ⟨event, by simp, rfl, .inr ⟨count, torn ▸ answered⟩⟩
      · simp only [Function.update_of_ne own] at failing
        exact earlier failing

end Runs

/-! ## The result -/

/-- What a run of any number of calls keeps. -/
structure WriteOnce (host : Host) (calls : W → Call) (initial : FileSystem)
    (trace : List (Event W)) (s : World W) : Prop where
  /-- A path is absent or has the complete, read-only bytes of a call. -/
  complete : ∀ w, initial.entries (calls w).path = none →
    s.fs.entries (calls w).path = none ∨ Published calls s.fs (calls w).path
  /-- What is at a path stays there, with its bytes and its read-only mode. -/
  kept : ∀ more s', Steps (CarefulStep host calls) s more s' → ∀ w,
    Stable s.fs s'.fs (calls w).path
  /-- A call returns the hash and the length of what its path holds, which are its bytes. -/
  returns : ∀ w artifact, s.phase w = .ended (.returned artifact) → ∃ inode,
    s.fs.entries (calls w).path = some (.file inode) ∧
      (s.fs.files inode).content = (calls w).encoded ∧
      artifact = ⟨host.asUri (calls w).path, "sha256:" ++ host.sha256 (s.fs.files inode).content,
        (s.fs.files inode).content.length⟩
  /-- A call raises because the system failed one of its own calls, or because other bytes
  are at its path. -/
  refuses : ∀ w ending, s.phase w = .ended ending →
    (∃ artifact, ending = .returned artifact) ∨ (∃ event ∈ trace, event.call = w ∧ event.Faulty) ∨
      ∃ entry, s.fs.entries (calls w).path = some entry ∧
        ∀ inode, entry = .file inode → (s.fs.files inode).content ≠ (calls w).encoded
  /-- Calls with equal bytes do not make each other raise. -/
  agrees : ∀ w ending, initial.entries (calls w).path = none →
    (∀ v, (calls v).path = (calls w).path → (calls v).encoded = (calls w).encoded) →
      s.phase w = .ended ending →
        (∃ artifact, ending = .returned artifact) ∨ ∃ event ∈ trace, event.call = w ∧ event.Faulty
  /-- Calls that return for one path have the same bytes. -/
  exclusive : ∀ w v first second, (calls w).path = (calls v).path →
    s.phase w = .ended (.returned first) → s.phase v = .ended (.returned second) →
      (calls w).encoded = (calls v).encoded
  /-- No step of a call that raised changed what was at a path before the step. -/
  raises : ∀ before event after t t', trace = before ++ event :: after →
    Steps (CarefulStep host calls) (World.start initial) before t →
    CarefulStep host calls t event t' → Steps (CarefulStep host calls) t' after s →
      (∃ ending, s.phase event.call = .ended ending ∧ ∀ artifact, ending ≠ .returned artifact) →
        ∀ v, Unchanged t.fs t'.fs (calls v).path

/-- **Evidence is written once**, on a POSIX system, when no path is the temporary name of a
path, in every run in which no clean-up reaches a published file. -/
theorem write_once (host : Host) (calls : W → Call) (initial : FileSystem)
    (posix : host.nt = false) (apart : Apart calls) {trace : List (Event W)} {s : World W}
    (run : Steps (CarefulStep host calls) (World.start initial) trace s) :
    WriteOnce host calls initial trace s := by
  have start := Inv.start host calls initial
  have inv := inv_of_run posix apart run start
  have returns : ∀ w artifact, s.phase w = .ended (.returned artifact) →
      artifact = (calls w).artifact host ∧ ∃ inode,
        s.fs.entries (calls w).path = some (.file inode) ∧
          (s.fs.files inode).content = (calls w).encoded := by
    intro w artifact ended
    have claim := (inv.knows w).path
    rw [ended] at claim
    exact claim
  have refuses : ∀ w ending, s.phase w = .ended ending →
      (∃ artifact, ending = .returned artifact) ∨ (∃ event ∈ trace, event.call = w ∧ event.Faulty) ∨
        ∃ entry, s.fs.entries (calls w).path = some entry ∧
          ∀ inode, entry = .file inode → (s.fs.files inode).content ≠ (calls w).encoded := by
    intro w ending ended
    have claim := (inv.knows w).path
    rw [ended] at claim
    cases ending with
    | returned artifact => exact .inl ⟨artifact, rfl⟩
    | failed => exact .inr (.inl (faulty_of_run posix apart run (by rw [ended]; rfl)))
    | notRegular =>
        obtain ⟨entry, there, notFile⟩ := claim
        exact .inr (.inr ⟨entry, there, fun inode isFile => absurd isFile (notFile inode)⟩)
    | different =>
        obtain ⟨inode, there, content⟩ := claim
        refine .inr (.inr ⟨_, there, fun other isFile => ?_⟩)
        cases isFile
        exact content
  refine ⟨inv.published, fun more s' run' => stable_of_run posix apart run' inv, ?_, refuses, ?_,
    ?_, ?_⟩
  · intro w artifact ended
    obtain ⟨same, inode, there, content⟩ := returns w artifact ended
    exact ⟨inode, there, content, by rw [same, content]; rfl⟩
  · intro w ending absent equal ended
    rcases refuses w ending ended with returned | faulty | ⟨entry, there, differs⟩
    · exact .inl returned
    · exact .inr faulty
    · rcases inv.published w absent with absent' | ⟨v, inode, same, final, file⟩
      · rw [there] at absent'
        cases absent'
      · rw [there] at final
        cases final
        exact absurd (by rw [file]; exact equal v same) (differs inode rfl)
  · intro w v first second same ended ended'
    obtain ⟨-, inode, there, content⟩ := returns w first ended
    obtain ⟨-, inode', there', content'⟩ := returns v second ended'
    rw [same, there'] at there
    cases there
    exact content.symm.trans content'
  · intro before event after t t' _ earlier step later raised
    have invBefore := inv_of_run posix apart earlier start
    rcases step.unchanged posix apart invBefore with unchanged | ⟨artifact, returned⟩
    · exact unchanged
    · obtain ⟨ending, ended, notReturned⟩ := raised
      have stays := isOver_of_run posix apart later (step.inv posix apart invBefore)
        (w := event.call) (by rw [returned]; rfl)
      rw [returned, ended] at stays
      cases stays
      exact absurd rfl (notReturned artifact)

/-- A clean-up that reaches a published file makes it writable. -/
theorem cleanup_makes_writable (inv : Inv host calls initial s) {held : Temporary} {ending : Ending}
    (phase : s.phase w = .chmodCleanup held ending)
    (reaches : s.fs.entries (calls w).path = s.fs.entries held.path) :
    s.fs.file? (calls w).path = some ⟨(calls w).encoded, readOnly⟩ ∧
      ∃ s', Step host calls s ⟨w, some .done⟩ s' ∧
        s'.fs.file? (calls w).path = some ⟨(calls w).encoded, ownerOnly⟩ := by
  have holds := (inv.knows w).holds held (by rw [phase]; rfl)
  have temp := (inv.knows w).temp
  rw [phase] at temp
  have shared : Shared s.fs (calls w) held := by
    rcases temp with isPrivate | shared
    · exact absurd rfl (holds.ne_of_private isPrivate (reaches.trans holds.entry))
    · exact shared
  refine ⟨by rw [Inodes.file?_of_entry shared.final, shared.file],
    ⟨s.fs.setFile held.inode { s.fs.files held.inode with mode := ownerOnly },
      Function.update s.phase w (.unlinkCleanup held ending)⟩, ?_, ?_⟩
  · rw [Step, perform]
    simp only [phase, advance, chmodTo_of_entry holds.entry, Option.map_some]
  · have final : (s.fs.setFile held.inode { s.fs.files held.inode with
        mode := ownerOnly }).entries (calls w).path = some (.file held.inode) := shared.final
    exact (Inodes.file?_of_entry final).trans (by rw [Inodes.files_setFile, shared.file])

end World

/-! ### Runs of one and of two calls -/

/-- A POSIX system. -/
def posixHost : Host where
  nt := false
  sha256 _ := "0"
  asUri path := "file://" ++ path.parent ++ "/" ++ path.name

/-- A call that publishes one byte. -/
def probeCall : Call := ⟨⟨"/evidence", "probe.json"⟩, [1]⟩

/-- Two calls race to publish one byte at one path. -/
def raceTrace : List (Event Bool) :=
  [(true, .done), (true, .done), (true, .done), (true, .named "k2"), (false, .done),
    (false, .done), (false, .done), (false, .named "k3"), (true, .done), (true, .done),
    (true, .done), (false, .done), (false, .done), (false, .done), (true, .done),
    (false, .done), (true, .done), (false, .done), (false, .done), (false, .done),
    (true, .done), (false, .done), (false, .done)].map fun (call, answer) => ⟨call, some answer⟩

/-- Both calls of a race return, and the path has their byte. -/
theorem write_once_race : ∃ s : World Bool,
    WriteOnce posixHost (fun _ : Bool => probeCall) .empty raceTrace s ∧
      (∀ w, s.phase w = .ended (.returned (probeCall.artifact posixHost))) ∧
      s.fs.file? probeCall.path = some ⟨[1], readOnly⟩ := by
  have raced : (raceTrace.foldlM (fun s event =>
      if Careful (fun _ : Bool => probeCall) s event then
        perform posixHost (fun _ => probeCall) s event
      else none) (World.start .empty)).map (fun s => (s.phase true, s.phase false,
        s.fs.file? probeCall.path)) =
      some (.ended (.returned (probeCall.artifact posixHost)),
        .ended (.returned (probeCall.artifact posixHost)), some ⟨[1], readOnly⟩) := by
    decide +kernel
  obtain ⟨s, performed, same⟩ := Option.map_eq_some_iff.mp raced
  simp only [Prod.mk.injEq] at same
  obtain ⟨first, second, file⟩ := same
  have run : Steps (CarefulStep posixHost fun _ : Bool => probeCall) (World.start .empty) raceTrace
      s := (Steps.of_foldlM performed).mono fun _ _ _ taken => by
    split at taken
    · exact ⟨taken, ‹_›⟩
    · cases taken
  refine ⟨s, write_once posixHost (fun _ => probeCall) .empty rfl
    (fun _ _ random => temporary_ne probeCall.path random) run, ?_, file⟩
  rintro (_ | _)
  · exact second
  · exact first

/-- The temporary name cannot be removed after the link. -/
def stuckTrace : List (Event Unit) :=
  [.done, .done, .done, .named "k2", .done, .done, .done, .done, .failed].map fun answer =>
    ⟨(), some answer⟩

/-- The run after which the name cannot be removed, and the clean-up that follows. -/
def stuckRun : Option (World Unit) :=
  stuckTrace.foldlM (perform posixHost fun _ => probeCall) (World.start .empty)

theorem stuck_makes_writable :
    posixHost.nt = false ∧ Apart (fun _ : Unit => probeCall) ∧
      ∃ s s' : World Unit,
        Steps (Step posixHost fun _ => probeCall) (World.start .empty) stuckTrace s ∧
        Step posixHost (fun _ => probeCall) s ⟨(), some .done⟩ s' ∧
        s.fs.file? probeCall.path = some ⟨[1], readOnly⟩ ∧
        s'.fs.file? probeCall.path = some ⟨[1], ownerOnly⟩ := by
  refine ⟨rfl, fun _ _ random => temporary_ne probeCall.path random, ?_⟩
  have before : stuckRun.map (fun s => s.fs.file? probeCall.path) =
      some (some ⟨[1], readOnly⟩) := by decide +kernel
  have after : (stuckRun.bind fun s => (perform posixHost (fun _ => probeCall) s
      ⟨(), some .done⟩).map fun s' => s'.fs.file? probeCall.path) =
      some (some ⟨[1], ownerOnly⟩) := by decide +kernel
  obtain ⟨s, run, sealed⟩ := Option.map_eq_some_iff.mp before
  rw [run, Option.bind_some] at after
  obtain ⟨s', step, writable⟩ := Option.map_eq_some_iff.mp after
  exact ⟨s, s', Steps.of_foldlM run, step, sealed, writable⟩

/-- A call for a path, and one for the temporary name of that path. -/
def borrowedCalls : Bool → Call
  | false => probeCall
  | true => ⟨probeCall.path.temporary "k2", [1]⟩

/-- The second call finds the temporary file of the first in its place, with its own bytes. -/
def borrowedTrace : List (Event Bool) :=
  [(false, .done), (false, .done), (false, .done), (false, .named "k2"), (false, .done),
    (true, .done), (true, .done), (true, .done), (true, .done), (true, .done), (true, .done),
    (false, .done), (false, .done), (false, .done),
    (false, .done)].map fun (call, answer) => ⟨call, some answer⟩

/-- A call for a temporary name returns, and its path is removed afterwards. -/
theorem borrowed_name_removed : ∃ s : World Bool,
    Steps (Step posixHost borrowedCalls) (World.start .empty) borrowedTrace s ∧
      s.phase true = .ended (.returned ((borrowedCalls true).artifact posixHost)) ∧
      s.fs.entries (borrowedCalls true).path = none := by
  have after : (borrowedTrace.foldlM (perform posixHost borrowedCalls) (World.start .empty)).map
      (fun s => (s.phase true, s.fs.entries (borrowedCalls true).path)) =
      some (.ended (.returned ((borrowedCalls true).artifact posixHost)), none) := by
    decide +kernel
  obtain ⟨s, run, same⟩ := Option.map_eq_some_iff.mp after
  simp only [Prod.mk.injEq] at same
  exact ⟨s, Steps.of_foldlM run, same⟩

end Evidence

end HcuAutoOpt
