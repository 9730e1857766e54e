import HcuAutoOpt.Foundation.CommittedCalls
import HcuAutoOpt.Foundation.Runs

/-!
# Stores with one writer

Many connections share a store, and one of them at a time may write. A transaction is a list of
statements: it starts when no other one is open, works on a copy of what is committed, and its
copy is committed when the last statement is through. A statement that raises, a failure and a
crash drop the copy. The steps of the connections come in any order.

**One after another.** What is committed is always what the committed transactions make of the
start when each is run as a whole after the one before it (`SharedStore.serial_of_steps`).
-/

set_option autoImplicit false

namespace Foundation

/-- A statement of a transaction. -/
abbrev Statement (σ ε : Type) : Type := σ → Except ε σ

/-- An open transaction. -/
structure Writer (σ ε ρ : Type) where
  connection : Nat
  request : ρ
  working : σ
  remaining : List (Statement σ ε)

/-- A store: what is committed, the open transaction, and the requests committed so far, the
last one first. -/
structure SharedStore (σ ε ρ : Type) where
  committed : σ
  writer : Option (Writer σ ε ρ) := none
  log : List ρ := []

/-- What can happen next. -/
inductive StoreEvent (ρ : Type) where
  | start (connection : Nat) (request : ρ)
  | advance (connection : Nat)
  | abort (connection : Nat)

/-- What a step tells its connection. -/
inductive StoreReply (ε : Type) where
  | running
  | locked
  | committed
  | raised (error : ε)
  | aborted
  deriving DecidableEq, Repr

section Stores

variable {σ ε ρ : Type}

/-- The statements of a transaction as a whole. -/
def runStatements (statements : List (Statement σ ε)) (s : σ) : Except ε σ :=
  statements.foldlM (fun s statement => statement s) s

variable (program : ρ → List (Statement σ ε))

/-- One step of a connection. A connection advances and aborts its own transaction only. -/
def SharedStore.step (s : SharedStore σ ε ρ) : StoreEvent ρ → Option (SharedStore σ ε ρ × StoreReply ε)
  | .start connection request =>
      match s.writer with
      | some _ => some (s, .locked)
      | none =>
          some ({ s with writer := some ⟨connection, request, s.committed, program request⟩ },
            .running)
  | .advance connection =>
      match s.writer with
      | none => none
      | some w =>
          if w.connection = connection then
            match w.remaining with
            | [] => some (⟨w.working, none, w.request :: s.log⟩, .committed)
            | statement :: rest =>
                match statement w.working with
                | .ok working =>
                    some ({ s with writer := some { w with working, remaining := rest } },
                      .running)
                | .error error => some ({ s with writer := none }, .raised error)
          else none
  | .abort connection =>
      match s.writer with
      | none => none
      | some w =>
          if w.connection = connection then some ({ s with writer := none }, .aborted) else none

/-- Requests that were run one after another, each as a whole, the last one first. -/
inductive Serial (start : σ) : List ρ → σ → Prop
  | nil : Serial start [] start
  | cons {log : List ρ} {s t : σ} {request : ρ} (before : Serial start log s)
      (run : runStatements (program request) s = .ok t) : Serial start (request :: log) t

/-- The steps of a store. -/
abbrev SharedStore.Steps (s : SharedStore σ ε ρ) (events : List (StoreEvent ρ)) (t : SharedStore σ ε ρ) : Prop :=
  Foundation.Steps (fun s event t => ∃ reply, s.step program event = some (t, reply)) s events t

/-- What holds of a store at every time: the committed state is serial, and the rest of the open
transaction makes of its copy what the whole transaction makes of the committed state. -/
structure SharedStore.Sound (start : σ) (s : SharedStore σ ε ρ) : Prop where
  serial : Serial program start s.log s.committed
  ahead : ∀ w, s.writer = some w →
    runStatements w.remaining w.working = runStatements (program w.request) s.committed

variable {program}

theorem runStatements_cons (statement : Statement σ ε) (rest : List (Statement σ ε)) (s : σ) :
    runStatements (statement :: rest) s = (statement s).bind (runStatements rest) := rfl

/-- **A step keeps a store sound.** -/
theorem SharedStore.Sound.step {start : σ} {s t : SharedStore σ ε ρ} {event : StoreEvent ρ}
    {reply : StoreReply ε} (sound : s.Sound program start)
    (taken : s.step program event = some (t, reply)) : t.Sound program start := by
  cases event with
  | start connection request =>
      simp only [SharedStore.step] at taken
      split at taken
      · cases taken
        exact sound
      · cases taken
        refine ⟨sound.serial, fun w open_ => ?_⟩
        cases open_
        rfl
  | advance connection =>
      simp only [SharedStore.step] at taken
      split at taken
      · cases taken
      · rename_i w open_
        split at taken
        · split at taken
          · rename_i finished
            cases taken
            have whole := sound.ahead w open_
            rw [finished] at whole
            exact ⟨.cons sound.serial whole.symm, by simp⟩
          · rename_i statement rest more
            have ahead := sound.ahead w open_
            rw [more, runStatements_cons] at ahead
            split at taken
            · rename_i working done
              cases taken
              refine ⟨sound.serial, fun w' open' => ?_⟩
              cases open'
              rw [done] at ahead
              exact ahead
            · cases taken
              exact ⟨sound.serial, by simp⟩
        · cases taken
  | abort connection =>
      simp only [SharedStore.step] at taken
      split at taken
      · cases taken
      · split at taken
        · cases taken
          exact ⟨sound.serial, by simp⟩
        · cases taken

/-- **Committed transactions ran one after another.** -/
theorem SharedStore.serial_of_steps {start : σ} {events : List (StoreEvent ρ)} {s : SharedStore σ ε ρ}
    (steps : SharedStore.Steps program ⟨start, none, []⟩ events s) :
    Serial program start s.log s.committed :=
  (Steps.invariant (I := SharedStore.Sound program start)
    (fun _ _ _ sound ⟨_, taken⟩ => sound.step taken) steps ⟨.nil, by simp⟩).serial

/-- **A step that does not commit** leaves what is committed. -/
theorem SharedStore.step_uncommitted {s t : SharedStore σ ε ρ} {event : StoreEvent ρ} {reply : StoreReply ε}
    (taken : s.step program event = some (t, reply)) (other : reply ≠ .committed) :
    t.committed = s.committed ∧ t.log = s.log := by
  cases event with
  | start connection request =>
      simp only [SharedStore.step] at taken
      split at taken <;> cases taken <;> exact ⟨rfl, rfl⟩
  | advance connection =>
      simp only [SharedStore.step] at taken
      split at taken
      · cases taken
      · split at taken
        · split at taken
          · cases taken
            exact absurd rfl other
          · split at taken <;> cases taken <;> exact ⟨rfl, rfl⟩
        · cases taken
  | abort connection =>
      simp only [SharedStore.step] at taken
      split at taken
      · cases taken
      · split at taken
        · cases taken
          exact ⟨rfl, rfl⟩
        · cases taken

end Stores

end Foundation
