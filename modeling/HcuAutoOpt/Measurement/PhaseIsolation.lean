import HcuAutoOpt.Measurement.PhaseRunner
import Mathlib.Data.List.Induction

/-!
# Isolation of the measurement phases

A measurement of one phase must not turn up in another one: the receipts that an authority
accepts have pairwise distinct measurements, evidence, sample sets, processes and caches, and no
plan serves both phases of a round (`Isolation.Isolated`).

`M2PhaseIsolationRegistry` of `measurement/m2_runner.py` keeps what it has seen in memory. It
keeps every identity, and of the plans the last one of each phase of a round.
-/

set_option autoImplicit false

namespace HcuAutoOpt

namespace M2Runner

open Foundation

/-! ## Isolated receipts -/

/-- How receipts are read: their identities, one for each field, and the plan they carry out. -/
structure Isolation (Receipt Field Value : Type) where
  identity : Field → Receipt → Value
  roundId : Receipt → Uuid
  phase : Receipt → RoundPhase
  plan : Receipt → String

namespace Isolation

variable {Receipt Field Value : Type} (reading : Isolation Receipt Field Value)

/-- No identity of the receipt was accepted before. -/
def Fresh (accepted : List Receipt) (receipt : Receipt) : Prop :=
  ∀ field, ∀ earlier ∈ accepted, reading.identity field earlier ≠ reading.identity field receipt

/-- The plan of the receipt was not accepted for the other phase of its round. -/
def PlanFree (accepted : List Receipt) (receipt : Receipt) : Prop :=
  ∀ earlier ∈ accepted, reading.roundId earlier = reading.roundId receipt →
    reading.phase earlier ≠ reading.phase receipt →
      reading.plan earlier ≠ reading.plan receipt

/-- No identity occurs twice, and no plan serves both phases of a round. -/
structure Isolated (accepted : List Receipt) : Prop where
  identities : ∀ field, (accepted.map (reading.identity field)).Nodup
  plans : accepted.Pairwise fun receipt earlier =>
    reading.roundId earlier = reading.roundId receipt →
      reading.phase earlier ≠ reading.phase receipt →
        reading.plan earlier ≠ reading.plan receipt

variable {reading}

theorem isolated_nil : reading.Isolated [] := ⟨fun _ => List.nodup_nil, .nil⟩

/-- **One more receipt** stays isolated when it is fresh and its plan is free. -/
theorem isolated_cons {accepted : List Receipt} {receipt : Receipt} :
    reading.Isolated (receipt :: accepted) ↔
      reading.Fresh accepted receipt ∧ reading.PlanFree accepted receipt ∧
        reading.Isolated accepted := by
  constructor
  · rintro ⟨identities, plans⟩
    obtain ⟨free, plans⟩ := List.pairwise_cons.mp plans
    refine ⟨fun field earlier member same => ?_, free,
      fun field => (List.nodup_cons.mp (identities field)).2, plans⟩
    exact (List.nodup_cons.mp (identities field)).1 (List.mem_map.mpr ⟨earlier, member, same⟩)
  · rintro ⟨fresh, free, identities, plans⟩
    refine ⟨fun field => List.nodup_cons.mpr ⟨fun again => ?_, identities field⟩,
      List.pairwise_cons.mpr ⟨free, plans⟩⟩
    obtain ⟨earlier, member, same⟩ := List.mem_map.mp again
    exact fresh field earlier member same

end Isolation

/-! ## Identities of a receipt -/

/-- `_UNIQUE_FIELDS`. -/
inductive UniqueField where
  | measurementId | rawEvidenceUri | rawEvidenceHash | baselineSampleSetHash
  | processIdentitySetHash | cacheNamespaceSetHash
  deriving DecidableEq, Repr

/-- The fields in the order in which they are checked. -/
def UniqueField.all : List UniqueField :=
  [.measurementId, .rawEvidenceUri, .rawEvidenceHash, .baselineSampleSetHash,
    .processIdentitySetHash, .cacheNamespaceSetHash]

theorem UniqueField.mem_all (field : UniqueField) : field ∈ UniqueField.all := by
  cases field <;> decide

/-- The name of a field. -/
def UniqueField.name : UniqueField → String
  | .measurementId => "measurement_id"
  | .rawEvidenceUri => "raw_evidence_uri"
  | .rawEvidenceHash => "raw_evidence_hash"
  | .baselineSampleSetHash => "baseline_sample_set_hash"
  | .processIdentitySetHash => "process_identity_set_hash"
  | .cacheNamespaceSetHash => "cache_namespace_set_hash"

/-- A value of a unique field. -/
inductive Identity where
  | uuid (id : Uuid)
  | text (text : String)
  deriving DecidableEq, Repr

/-- `getattr(receipt, field)`. -/
def M2ScriptedPhaseReceipt.identity (receipt : M2ScriptedPhaseReceipt) : UniqueField → Identity
  | .measurementId => .uuid receipt.measurementId
  | .rawEvidenceUri => .text receipt.rawEvidenceUri
  | .rawEvidenceHash => .text receipt.rawEvidenceHash
  | .baselineSampleSetHash => .text receipt.baselineSampleSetHash
  | .processIdentitySetHash => .text receipt.processIdentitySetHash
  | .cacheNamespaceSetHash => .text receipt.cacheNamespaceSetHash

/-- The other phase of a round. -/
def otherPhase : RoundPhase → RoundPhase
  | .search => .holdout
  | .holdout => .search

theorem eq_otherPhase {phase other : RoundPhase} : other = otherPhase phase ↔ other ≠ phase := by
  cases phase <;> cases other <;> decide

/-! ## The registry -/

/-- `M2PhaseIsolationRegistry`. -/
structure M2PhaseIsolationRegistry where
  seen : UniqueField → List Identity := fun _ => []
  phasePlans : Uuid × RoundPhase → Option String := fun _ => none

/-- `M2PhaseIsolationRegistry.validate`. -/
def M2PhaseIsolationRegistry.validate (registry : M2PhaseIsolationRegistry)
    (receipt : M2ScriptedPhaseReceipt) : Except Raised Unit :=
  match UniqueField.all.find? fun field =>
      decide (receipt.identity field ∈ registry.seen field) with
  | some field => .error (safety s!"M2 phase isolation rejected reused {field.name}")
  | none =>
      require
        (registry.phasePlans (receipt.roundId, otherPhase receipt.phase) ≠
          some receipt.phasePlanHash)
        (safety "Search and Holdout cannot reuse one Phase Plan")

/-- `M2PhaseIsolationRegistry.commit`: the identities join the seen ones, and the plan takes the
place of the one before it. -/
def M2PhaseIsolationRegistry.commit (registry : M2PhaseIsolationRegistry)
    (receipt : M2ScriptedPhaseReceipt) : Except Raised M2PhaseIsolationRegistry := do
  registry.validate receipt
  return { seen := fun field => receipt.identity field :: registry.seen field
           phasePlans := fun key =>
             if key = (receipt.roundId, receipt.phase) then some receipt.phasePlanHash
             else registry.phasePlans key }

/-- A call of the registry. -/
inductive RegistryCall where
  | validate (receipt : M2ScriptedPhaseReceipt)
  | commit (receipt : M2ScriptedPhaseReceipt)
  deriving DecidableEq

/-- A registry and the receipts that it has accepted, the last one first. -/
structure RegistryRun where
  registry : M2PhaseIsolationRegistry := {}
  accepted : List M2ScriptedPhaseReceipt := []

/-- One call, with what its caller sees. -/
def RegistryRun.call (run : RegistryRun) : RegistryCall → RegistryRun × Except Raised Unit
  | .validate receipt => (run, run.registry.validate receipt)
  | .commit receipt =>
      match run.registry.commit receipt with
      | .ok registry => (⟨registry, receipt :: run.accepted⟩, .ok ())
      | .error raised => (run, .error raised)

/-- Calls one after another on a new registry. -/
def runRegistry (calls : List RegistryCall) : RegistryRun :=
  calls.foldl (fun run call => (run.call call).1) {}

theorem runRegistry_concat (calls : List RegistryCall) (call : RegistryCall) :
    runRegistry (calls ++ [call]) = ((runRegistry calls).call call).1 := by
  simp [runRegistry]

/-- How receipts of the registry are read. -/
def scriptedIsolation : Isolation M2ScriptedPhaseReceipt UniqueField Identity where
  identity field receipt := receipt.identity field
  roundId := M2ScriptedPhaseReceipt.roundId
  phase := M2ScriptedPhaseReceipt.phase
  plan := M2ScriptedPhaseReceipt.phasePlanHash

/-! ## What the registry remembers -/

/-- The last plan that was accepted for a phase of a round. -/
def lastPlan (accepted : List M2ScriptedPhaseReceipt) (key : Uuid × RoundPhase) : Option String :=
  (accepted.find? fun receipt => decide (receipt.roundId = key.1 ∧ receipt.phase = key.2)).map
    M2ScriptedPhaseReceipt.phasePlanHash

/-- The registry holds the identities of what it accepted and the last plans. -/
structure RegistryRun.Faithful (run : RegistryRun) : Prop where
  seen : ∀ field,
    run.registry.seen field = run.accepted.map fun receipt => receipt.identity field
  phasePlans : ∀ key, run.registry.phasePlans key = lastPlan run.accepted key

/-- **What the registry accepts**: fresh identities, and a plan that is not the last one of the
other phase. -/
theorem validate_eq_ok {run : RegistryRun} (faithful : run.Faithful)
    (receipt : M2ScriptedPhaseReceipt) :
    run.registry.validate receipt = .ok () ↔ scriptedIsolation.Fresh run.accepted receipt ∧
      run.registry.phasePlans (receipt.roundId, otherPhase receipt.phase) ≠
        some receipt.phasePlanHash := by
  have fresh : (UniqueField.all.find? fun field =>
      decide (receipt.identity field ∈ run.registry.seen field)) = none ↔
        scriptedIsolation.Fresh run.accepted receipt := by
    rw [List.find?_eq_none]
    constructor
    · intro unseen field earlier member same
      refine unseen field (UniqueField.mem_all field) (decide_eq_true ?_)
      rw [faithful.seen]
      exact List.mem_map.mpr ⟨earlier, member, same⟩
    · intro fresh field _ seen
      rw [faithful.seen] at seen
      obtain ⟨earlier, member, same⟩ := List.mem_map.mp (of_decide_eq_true seen)
      exact fresh field earlier member same
  unfold M2PhaseIsolationRegistry.validate
  split
  · rename_i field found
    rw [← fresh, found]
    simp
  · rename_i unseen
    rw [require_eq_ok]
    exact ⟨fun planned => ⟨fresh.mp unseen, planned⟩, And.right⟩

/-- A committed receipt was valid, and a registry refuses the others. -/
theorem call_commit (run : RegistryRun) (receipt : M2ScriptedPhaseReceipt) :
    (run.registry.validate receipt = .ok () ∧
      (run.call (.commit receipt)).1.accepted = receipt :: run.accepted) ∨
    (run.registry.validate receipt ≠ .ok () ∧ (run.call (.commit receipt)).1 = run) := by
  cases valid : run.registry.validate receipt with
  | ok _ => exact .inl ⟨rfl, by simp [RegistryRun.call, M2PhaseIsolationRegistry.commit, valid,
      bind, Except.bind, pure, Except.pure]⟩
  | error raised => exact .inr ⟨by simp, by simp [RegistryRun.call,
      M2PhaseIsolationRegistry.commit, valid, bind, Except.bind]⟩

/-- **A call keeps the registry faithful.** -/
theorem RegistryRun.Faithful.call {run : RegistryRun} (faithful : run.Faithful)
    (call : RegistryCall) : (run.call call).1.Faithful := by
  cases call with
  | validate receipt => exact faithful
  | commit receipt =>
      cases valid : run.registry.validate receipt with
      | error raised =>
          have same : (run.call (.commit receipt)).1 = run := by
            simp [RegistryRun.call, M2PhaseIsolationRegistry.commit, valid, bind, Except.bind]
          rw [same]
          exact faithful
      | ok _ =>
          simp only [RegistryRun.call, M2PhaseIsolationRegistry.commit, valid, bind, Except.bind,
            pure, Except.pure]
          refine ⟨fun field => ?_, fun key => ?_⟩
          · simp only [List.map_cons, faithful.seen]
          · simp only [lastPlan, List.find?_cons]
            by_cases here : key = (receipt.roundId, receipt.phase)
            · subst here
              simp
            · have other : ¬(receipt.roundId = key.1 ∧ receipt.phase = key.2) := by
                rintro ⟨round, phase⟩
                exact here (Prod.ext round.symm phase.symm)
              rw [if_neg here, faithful.phasePlans, decide_eq_false other]
              rfl

theorem runRegistry_faithful (calls : List RegistryCall) : (runRegistry calls).Faithful := by
  induction calls using List.reverseRecOn with
  | nil => exact ⟨fun _ => rfl, fun _ => rfl⟩
  | append_singleton calls call ih =>
      rw [runRegistry_concat]
      exact ih.call call

/-- The registry agrees with the check of its receipts in `PhaseRunner`. -/
theorem validate_eq_isolationValidate {run : RegistryRun} (faithful : run.Faithful)
    (receipt : M2ScriptedPhaseReceipt) :
    run.registry.validate receipt = isolationValidate run.accepted receipt := by
  have seen : ∀ field, decide (receipt.identity field ∈ run.registry.seen field) =
      run.accepted.any fun other => decide (other.identity field = receipt.identity field) := by
    intro field
    rw [faithful.seen, Bool.eq_iff_iff]
    simp
  have phase : (if receipt.phase = .search then RoundPhase.holdout else .search) =
      otherPhase receipt.phase := by
    cases receipt.phase <;> rfl
  have reused : (UniqueField.all.find? fun field =>
      decide (receipt.identity field ∈ run.registry.seen field)).map UniqueField.name =
        reusedField? run.accepted receipt := by
    have table : reusedField? run.accepted receipt = ((UniqueField.all.map fun field =>
        (field.name, run.accepted.any fun other =>
          decide (other.identity field = receipt.identity field))).find? Prod.snd).map
            Prod.fst := by
      simp only [reusedField?, UniqueField.all, List.map_cons, List.map_nil, UniqueField.name,
        M2ScriptedPhaseReceipt.identity, Identity.uuid.injEq, Identity.text.injEq, beq_eq_decide]
    rw [table, List.find?_map, Option.map_map]
    simp only [seen]
    rfl
  unfold M2PhaseIsolationRegistry.validate isolationValidate
  rw [← reused, phase]
  cases UniqueField.all.find? fun field =>
      decide (receipt.identity field ∈ run.registry.seen field) with
  | some field => rfl
  | none =>
      rw [faithful.phasePlans]
      rfl

/-! ## When the registry isolates -/

/-- A receipt whose identities are fresh and whose plan the other phase of its round has used
finds that plan remembered. -/
def RegistryRun.Recalls (run : RegistryRun) (receipt : M2ScriptedPhaseReceipt) : Prop :=
  scriptedIsolation.Fresh run.accepted receipt →
    ∀ earlier ∈ run.accepted, earlier.roundId = receipt.roundId →
      earlier.phase ≠ receipt.phase → earlier.phasePlanHash = receipt.phasePlanHash →
        run.registry.phasePlans (receipt.roundId, otherPhase receipt.phase) =
          some receipt.phasePlanHash

/-- **One commit** stays isolated exactly when its plan is remembered. -/
theorem isolated_commit {run : RegistryRun} (faithful : run.Faithful)
    (isolated : scriptedIsolation.Isolated run.accepted) (receipt : M2ScriptedPhaseReceipt) :
    scriptedIsolation.Isolated (run.call (.commit receipt)).1.accepted ↔ run.Recalls receipt := by
  rcases call_commit run receipt with ⟨valid, accepted⟩ | ⟨refused, same⟩
  · obtain ⟨fresh, planned⟩ := (validate_eq_ok faithful receipt).mp valid
    rw [accepted, Isolation.isolated_cons]
    constructor
    · rintro ⟨-, free, -⟩ _ earlier member round phase plan
      exact absurd plan (free earlier member round phase)
    · intro recalls
      refine ⟨fresh, fun earlier member round phase plan => ?_, isolated⟩
      exact planned (recalls fresh earlier member round phase plan)
  · rw [same]
    refine ⟨fun _ fresh _ _ _ _ _ => ?_, fun _ => isolated⟩
    by_contra forgotten
    exact refused ((validate_eq_ok faithful receipt).mpr ⟨fresh, forgotten⟩)

/-- **The registry isolates a run** exactly when every commit finds its plan remembered. -/
theorem registry_isolates_iff (calls : List RegistryCall) :
    (∀ before, before <+: calls → scriptedIsolation.Isolated (runRegistry before).accepted) ↔
      ∀ before receipt, before ++ [.commit receipt] <+: calls →
        (runRegistry before).Recalls receipt := by
  induction calls using List.reverseRecOn with
  | nil =>
      constructor
      · intro _ before receipt within
        simp at within
      · intro _ before within
        obtain rfl := List.prefix_nil.mp within
        exact Isolation.isolated_nil
  | append_singleton calls call ih =>
      simp only [List.prefix_concat_iff]
      have last : scriptedIsolation.Isolated (runRegistry calls).accepted →
          (scriptedIsolation.Isolated (runRegistry (calls ++ [call])).accepted ↔
            ∀ receipt, call = .commit receipt → (runRegistry calls).Recalls receipt) := by
        intro isolated
        rw [runRegistry_concat]
        cases call with
        | validate receipt => simpa [RegistryRun.call] using isolated
        | commit receipt =>
            rw [isolated_commit (runRegistry_faithful calls) isolated]
            constructor
            · intro recalls other same
              cases same
              exact recalls
            · exact fun recalls => recalls receipt rfl
      constructor
      · rintro isolated before receipt (whole | within)
        · obtain ⟨rfl, same⟩ := List.append_inj' whole rfl
          cases same
          exact (last (isolated _ (.inr (List.prefix_refl _)))).mp (isolated _ (.inl rfl))
            receipt rfl
        · exact ih.mp (fun before within => isolated before (.inr within)) before receipt within
      · intro recalls
        have earlier := ih.mpr fun before receipt within => recalls before receipt (.inr within)
        rintro before (rfl | within)
        · refine (last (earlier _ (List.prefix_refl _))).mpr fun receipt same => ?_
          subst same
          exact recalls _ receipt (.inl rfl)
        · exact earlier before within

/-- A refused call leaves the registry as it is. -/
theorem call_refused (run : RegistryRun) (call : RegistryCall) (raised : Raised)
    (refused : (run.call call).2 = .error raised) : (run.call call).1 = run := by
  cases call with
  | validate receipt => rfl
  | commit receipt =>
      simp only [RegistryRun.call] at refused ⊢
      split at refused
      · cases refused
      · rfl

end M2Runner

end HcuAutoOpt
