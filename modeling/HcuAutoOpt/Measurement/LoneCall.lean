import HcuAutoOpt.Measurement.EvidenceSteps

/-!
# A call that publishes evidence alone

When no other call runs beside it, a call that found nothing at its path still finds nothing there
when it links its temporary file. So whatever the system answers, a call that returns has left its
bytes at its path (`returned_alone`).
-/

set_option autoImplicit false

namespace HcuAutoOpt

namespace Evidence

open Foundation

variable {host : Host} {call : Call} {fs fs' : FileSystem} {phase phase' : Phase}

/-- The bytes of a call are at its path. -/
def Present (call : Call) (fs : FileSystem) : Prop :=
  ∃ inode, fs.entries call.path = some (.file inode) ∧ (fs.files inode).content = call.encoded

/-- A temporary file is there, and nothing is at the path. -/
structure Awaits (call : Call) (fs : FileSystem) (held : Temporary) : Prop where
  absent : fs.entries call.path = none
  entry : fs.entries held.path = some (.file held.inode)

/-- What holds before each step of a call that runs alone. -/
def Lone (host : Host) (call : Call) (fs : FileSystem) : Phase → Prop
  | .checkSymlink => fs.exists? call.path = false
  | .mkstemp => fs.entries call.path = none
  | .write held => Awaits call fs held
  | .fsync held | .chmodTemporary held | .link held =>
      Awaits call fs held ∧ (fs.files held.inode).content = call.encoded
  | .unlinkTemporary held => Present call fs ∧ held.path ≠ call.path
  | .chmodExisting | .chmodFinal => Present call fs
  | .verifySymlink held | .verifyFile held | .verifyBytes held => held = none
  | .chmodCleanup _ ending | .unlinkCleanup _ ending => ∀ artifact, ending ≠ .returned artifact
  | .ended ending => ∀ artifact, ending = .returned artifact →
      Present call fs ∧ artifact = call.artifact host
  | _ => True

theorem Awaits.apart {held : Temporary} (awaits : Awaits call fs held) :
    held.path ≠ call.path := by
  intro same
  have there := awaits.entry
  rw [same, awaits.absent] at there
  cases there

theorem Present.setFile {inode : Nat} {mode : Nat} (present : Present call fs) :
    Present call (fs.setFile inode { fs.files inode with mode := mode }) := by
  obtain ⟨final, there, content⟩ := present
  refine ⟨final, there, ?_⟩
  by_cases same : final = inode
  · subst same
    rw [Inodes.files_setFile]
    exact content
  · rw [Inodes.files_setFile_of_ne same]
    exact content

/-- A change of mode leaves the bytes where they are. -/
theorem Present.chmodTo {path : Path} {mode : Nat} {next missing : Phase}
    (present : Present call fs) (moved : chmodTo fs path mode next missing = (fs', phase')) :
    Present call fs' ∧ (phase' = next ∨ phase' = missing) := by
  unfold Evidence.chmodTo at moved
  split at moved
  next changed =>
    cases moved
    unfold Inodes.chmod at changed
    split at changed
    · cases changed
      exact ⟨present.setFile, .inl rfl⟩
    · cases changed
  next =>
    cases moved
    exact ⟨present, .inr rfl⟩

theorem lone_failed : Lone host call fs (.ended .failed) := by
  intro artifact returned
  cases returned

theorem lone_cleanup (held : Temporary) : Lone host call fs (.chmodCleanup held .failed) := by
  intro artifact returned
  cases returned

theorem lone_link {held : Temporary} (awaits : Awaits call fs held)
    (content : (fs.files held.inode).content = call.encoded) :
    Lone host call (linkTemporary call fs held).1 (linkTemporary call fs held).2 := by
  unfold linkTemporary
  rw [if_neg (by simp [awaits.absent])]
  split
  next inode entry =>
    have same : inode = held.inode := by
      have there := entry.symm.trans awaits.entry
      cases there
      rfl
    exact ⟨⟨inode, Inodes.entries_link (fs.inUse _ _ entry) _, by rw [Inodes.files_link, same, content]⟩, awaits.apart⟩
  next missing => exact absurd awaits.entry (missing held.inode)

/-- **A step of a call that runs alone.** -/
theorem advance_lone {answer : Answer} (lone : Lone host call fs phase)
    (moved : advance host call fs phase answer = some (fs', phase')) : Lone host call fs' phase' := by
  cases phase with
  | mkdir =>
      cases answer with
      | done =>
          cases moved
          trivial
      | failed =>
          cases moved
          exact lone_failed
      | _ => cases moved
  | checkExists =>
      cases answer with
      | done =>
          cases moved
          cases found : fs.exists? call.path with
          | true => exact rfl
          | false => exact found
      | failed =>
          cases moved
          exact lone_failed
      | _ => cases moved
  | checkSymlink =>
      cases answer with
      | done =>
          cases moved
          cases link : fs.isSymlink call.path with
          | true => exact rfl
          | false =>
              -- a path that names nothing and is no link has no entry
              change fs.entries call.path = none
              have unresolved : fs.exists? call.path = false := lone
              unfold Inodes.exists? at unresolved
              unfold Inodes.isSymlink at link
              split at unresolved
              · assumption
              · rename_i entry
                rw [entry] at link
                cases link
              · cases unresolved
      | failed =>
          cases moved
          exact lone_failed
      | _ => cases moved
  | verifySymlink held =>
      cases lone
      cases answer with
      | done =>
          cases moved
          split
          · intro artifact returned
            cases returned
          · rfl
      | failed =>
          cases moved
          exact lone_failed
      | _ => cases moved
  | verifyFile held =>
      cases lone
      cases answer with
      | done =>
          cases moved
          split
          · rfl
          · intro artifact returned
            cases returned
      | failed =>
          cases moved
          exact lone_failed
      | _ => cases moved
  | verifyBytes held =>
      cases lone
      cases answer with
      | done =>
          cases moved
          unfold compareBytes
          split
          · exact lone_failed
          · rename_i file found
            split
            · intro artifact returned
              cases returned
            · rename_i same
              unfold Inodes.file? at found
              split at found
              · cases found
                exact ⟨_, ‹_›, not_not.mp same⟩
              · cases found
      | failed =>
          cases moved
          exact lone_failed
      | _ => cases moved
  | chmodExisting =>
      cases answer with
      | done =>
          obtain ⟨present, ends⟩ := Present.chmodTo lone (Option.some.inj moved)
          rcases ends with rfl | rfl
          · intro artifact returned
            cases returned
            exact ⟨present, rfl⟩
          · exact lone_failed
      | failed =>
          cases moved
          exact lone_failed
      | _ => cases moved
  | mkstemp =>
      cases answer with
      | named random =>
          rw [advance] at moved
          split at moved
          · cases moved
            exact ⟨(Inodes.entries_create_of_ne (temporary_ne call.path random).symm _).trans lone,
              Inodes.entries_create _ _⟩
          · cases moved
      | failed =>
          cases moved
          exact lone_failed
      | _ => cases moved
  | write held =>
      cases answer with
      | done =>
          cases moved
          exact ⟨⟨lone.absent, lone.entry⟩, by rw [Inodes.files_setFile]⟩
      | torn count =>
          cases moved
          exact lone_cleanup held
      | _ => cases moved
  | fsync held =>
      cases answer with
      | done =>
          cases moved
          split <;> exact lone
      | failed =>
          cases moved
          exact lone_cleanup held
      | _ => cases moved
  | chmodTemporary held =>
      cases answer with
      | done =>
          obtain ⟨awaits, content⟩ := lone
          have same := Option.some.inj moved
          rw [chmodTo_of_entry awaits.entry] at same
          cases same
          exact ⟨⟨awaits.absent, awaits.entry⟩, by rw [Inodes.files_setFile]; exact content⟩
      | failed =>
          cases moved
          exact lone_cleanup held
      | _ => cases moved
  | link held =>
      cases answer with
      | done =>
          have same := Option.some.inj moved
          have after : Lone host call _ _ := lone_link lone.1 lone.2
          rw [same] at after
          exact after
      | failed =>
          cases moved
          exact lone_cleanup held
      | _ => cases moved
  | unlinkTemporary held =>
      cases answer with
      | done =>
          rw [advance] at moved
          split at moved
          · cases moved
            obtain ⟨⟨inode, there, content⟩, apart⟩ := lone
            exact ⟨inode, (Inodes.entries_unlink_of_ne apart.symm).trans there, content⟩
          · cases moved
            exact lone_cleanup held
      | failed =>
          cases moved
          exact lone_cleanup held
      | _ => cases moved
  | chmodFinal =>
      cases answer with
      | done =>
          obtain ⟨present, ends⟩ := Present.chmodTo lone (Option.some.inj moved)
          rcases ends with rfl | rfl
          · intro artifact returned
            cases returned
            exact ⟨present, rfl⟩
          · exact lone_failed
      | failed =>
          cases moved
          exact lone_failed
      | _ => cases moved
  | chmodCleanup held ending =>
      cases answer with
      | done =>
          have same := Option.some.inj moved
          unfold Evidence.chmodTo at same
          split at same
          · cases same
            exact lone
          · cases same
            exact lone_failed
      | failed =>
          cases moved
          exact lone_failed
      | _ => cases moved
  | unlinkCleanup held ending =>
      cases answer with
      | done =>
          cases moved
          exact fun artifact returned => absurd returned (lone artifact)
      | failed =>
          cases moved
          exact lone_failed
      | _ => cases moved
  | ended ending => cases answer <;> cases moved
  | crashed => cases answer <;> cases moved

/-- **A call that ran alone and returned has left its bytes at its path**, and returns their
hash. -/
theorem returned_alone {start : FileSystem} {trace : List (Event Unit)} {s : World Unit}
    {artifact : EvidenceArtifact}
    (run : Steps (Step host fun _ : Unit => call) (World.start start) trace s)
    (returned : s.phase () = .ended (.returned artifact)) :
    Present call s.fs ∧ artifact = call.artifact host := by
  have keeps : ∀ (s : World Unit) (event : Event Unit) (s' : World Unit),
      Lone host call s.fs (s.phase ()) → Step host (fun _ => call) s event s' →
        Lone host call s'.fs (s'.phase ()) := by
    intro s event s' lone step
    rw [Step, perform] at step
    cases answered : event.answer with
    | none =>
        rw [answered] at step
        dsimp only at step
        split at step
        · cases step
        · cases step
          simp only [Function.update_self]
          trivial
    | some answer =>
        rw [answered] at step
        obtain ⟨moved, advanced, rfl⟩ := Option.map_eq_some_iff.mp step
        simp only [Function.update_self]
        exact advance_lone lone advanced
  have lone := run.invariant keeps (trivial : Lone host call start .mkdir)
  rw [returned] at lone
  exact lone artifact rfl

end Evidence

end HcuAutoOpt
