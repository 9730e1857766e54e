import HcuAutoOpt.Evaluation.EvidenceObjects
import HcuAutoOpt.Evaluation.HotpatchEvidence
import HcuAutoOpt.Foundation.JsonIntegers
import Mathlib.Algebra.Order.BigOperators.Group.List

/-!
# What a hot-patch capability rests on

A capability other than `none` rests on files that were read and hashed (`PhaseRead`). The
recovery phase is the baseline again (`Restored`), the candidate loaded the artifact of the
manifest (`LoadsArtifact`), all phases wrote the same output (`SameOutput`) and the candidate had
a cache of its own (`SeparateCache`). A hot patch was observed in one process under one request id
(`OneProcess`), an overlay in three processes of which only the candidate mounted the artifact
(`ThreeProcesses`, `MountedByCandidate`): `classification_sound`.

The request id of a hot patch does not stand for one execution request. The cache directory of a
phase is part of its request, and the candidate has a directory of its own, so that the requests
of a hot patch are never all the same.
-/

set_option autoImplicit false

namespace HcuAutoOpt

namespace Hotpatch

open Foundation EvidenceReading M2Runner

/-! ## Sets of three -/

section Distinct

variable {α : Type} [DecidableEq α] {part : HotpatchPhaseManifestV2 → α}
variable {baseline candidate recovery : HotpatchPhaseManifestV2}

theorem distinct_eq_one : distinct part baseline candidate recovery = 1 ↔
    part baseline = part candidate ∧ part candidate = part recovery := by
  unfold distinct
  by_cases first : part baseline = part candidate <;>
    by_cases second : part candidate = part recovery <;>
    by_cases third : part baseline = part recovery <;>
    simp_all [List.dedup_cons_of_mem, List.dedup_cons_of_notMem]

theorem distinct_eq_three : distinct part baseline candidate recovery = 3 ↔
    part baseline ≠ part candidate ∧ part baseline ≠ part recovery ∧
      part candidate ≠ part recovery := by
  unfold distinct
  by_cases first : part baseline = part candidate <;>
    by_cases second : part candidate = part recovery <;>
    by_cases third : part baseline = part recovery <;>
    simp_all [List.dedup_cons_of_mem, List.dedup_cons_of_notMem]

end Distinct

/-! ## What was read -/

section Sound

variable {disk : Disk} {env : ReaderEnv} {reader : Reader disk} {documents : HotpatchDocuments}
variable {evidence : HotpatchEvidenceV2} {target : TargetSpec}

theorem readFile_eq_ok {reference : RawEvidenceFileV2} {encoded : List UInt8}
    (read : readFile env reader reference = .ok encoded) :
    hashOf env encoded = reference.sha256 ∧ Reached reader encoded :=
  readRawBytes_eq_ok read

variable (env reader documents) in
/-- What was read of a phase: every file was found with its hash. -/
structure PhaseRead (reference : RawEvidenceFileV2) (phase : PhaseReading) : Prop where
  manifest : readHotpatchPhase env reader documents reference = .ok phase.manifest
  entries : phase.entries = phase.manifest.entries.map fun entry =>
    (entry.path, entry.content.sha256)
  contents : ∀ entry ∈ phase.manifest.entries, ∃ content,
    readFile env reader entry.content = .ok content
  observation : readHotpatchObservation env reader documents phase.manifest =
    .ok phase.observation
  normalizedOutput : readFile env reader phase.manifest.normalizedOutput =
    .ok phase.normalizedOutput
  cache : readFile env reader phase.manifest.cacheNamespace = .ok phase.cache

theorem verifiedStateEntries_eq_ok {entries : List HotpatchStateEntryV2}
    {verified : List (List Char × String)}
    (read : verifiedStateEntries env reader entries = .ok verified) :
    (verified = entries.map fun entry => (entry.path, entry.content.sha256)) ∧
      ∀ entry ∈ entries, ∃ content, readFile env reader entry.content = .ok content := by
  induction entries generalizing verified with
  | nil =>
      cases read
      exact ⟨rfl, fun _ member => absurd member List.not_mem_nil⟩
  | cons entry entries ih =>
      rw [verifiedStateEntries, List.mapM_cons] at read
      obtain ⟨first, readFirst, read⟩ := Except.bind_eq_ok.mp read
      obtain ⟨others, readOthers, read⟩ := Except.bind_eq_ok.mp read
      obtain ⟨content, found, readFirst⟩ := Except.bind_eq_ok.mp readFirst
      cases readFirst
      cases read
      obtain ⟨rfl, more⟩ := ih readOthers
      exact ⟨rfl, List.forall_mem_cons.mpr ⟨⟨content, found⟩, more⟩⟩

/-- The output hash of an observation is the one of the output. -/
theorem PhaseRead.outputHash {reference : RawEvidenceFileV2} {phase : PhaseReading}
    (read : PhaseRead env reader documents reference phase) :
    phase.observation.outputHash = hashOf env phase.normalizedOutput := by
  obtain ⟨encoded, -, returned⟩ := Except.bind_eq_ok.mp read.observation
  obtain ⟨observation, -, returned⟩ := Except.bind_eq_ok.mp returned
  obtain ⟨output, -, returned⟩ := Except.bind_eq_ok.mp returned
  obtain ⟨_, bound, returned⟩ := Except.bind_eq_ok.mp returned
  have same : observation = phase.observation := Except.ok.inj returned
  rw [← same, require_eq_ok.mp bound, (readFile_eq_ok read.normalizedOutput).1]

/-! ## Relations of the phases -/

/-- The recovery phase is the baseline again. -/
structure Restored (baseline recovery : PhaseReading) : Prop where
  entries : recovery.entries = baseline.entries
  implementation : recovery.observation.implementationHash = baseline.observation.implementationHash
  cache : recovery.cache = baseline.cache
  cacheDirectory : recovery.manifest.cacheDirectory = baseline.manifest.cacheDirectory

variable (env) in
/-- The candidate phase loaded the bytes that the manifest names, and no other phase did. -/
structure LoadsArtifact (files : ActivationFiles) (artifactManifest : ArtifactManifest)
    (artifact : List UInt8) (baseline candidate recovery : PhaseReading) : Prop where
  named : artifactManifest.uri = files.artifact.uri
  hashed : artifactManifest.contentHash = hashOf env artifact
  filled : artifact ≠ []
  loaded : candidate.observation.loadedArtifactHash = some artifactManifest.contentHash
  implementation : candidate.observation.implementationHash = artifactManifest.contentHash
  others : baseline.observation.loadedArtifactHash = none ∧
    recovery.observation.loadedArtifactHash = none

variable (env) in
/-- The three phases wrote the same output. -/
structure SameOutput (baseline candidate recovery : PhaseReading) : Prop where
  bytes : baseline.normalizedOutput = candidate.normalizedOutput ∧
    recovery.normalizedOutput = candidate.normalizedOutput
  hashes : ∀ phase ∈ [baseline, candidate, recovery],
    phase.observation.outputHash = hashOf env candidate.normalizedOutput

/-- The candidate has a cache of its own. -/
structure SeparateCache (baseline candidate recovery : PhaseReading) : Prop where
  bytes : candidate.cache ≠ baseline.cache ∧ candidate.cache ≠ recovery.cache
  named : ∃ directory, candidate.manifest.cacheDirectory = some directory ∧ directory ≠ ""
  directory : candidate.manifest.cacheDirectory ≠ baseline.manifest.cacheDirectory ∧
    candidate.manifest.cacheDirectory ≠ recovery.manifest.cacheDirectory

variable (env reader documents) in
/-- The records of the start and the end of the process of a phase give its identity. -/
def ObservedProcess (phase : HotpatchPhaseManifestV2) : Prop :=
  ∃ started reaped, readProcessLifecycle env reader documents phase.processStartRecord =
      .ok started ∧
    readProcessLifecycle env reader documents phase.processExitRecord = .ok reaped ∧
    started.event = .started ∧ reaped.event = .reaped ∧
    terminalWaitStatus reaped.waitStatus = true ∧
    ∀ record ∈ [started, reaped], record.processId = phase.processId ∧
      ProcStat.Stage0Verifier.procStartToken record.procStatLine record.processId =
        .ok phase.processStartToken

/-- The phases are of one process with one start record and one end record, under one request id. -/
structure OneProcess (baseline candidate recovery : HotpatchPhaseManifestV2) : Prop where
  identity : baseline.identity = candidate.identity ∧ candidate.identity = recovery.identity
  startRecord : baseline.processStartRecord = candidate.processStartRecord ∧
    candidate.processStartRecord = recovery.processStartRecord
  exitRecord : baseline.processExitRecord = candidate.processExitRecord ∧
    candidate.processExitRecord = recovery.processExitRecord
  requestId : baseline.requestId = candidate.requestId ∧ candidate.requestId = recovery.requestId

/-- The phases are of three processes under three request ids. -/
structure ThreeProcesses (baseline candidate recovery : HotpatchPhaseManifestV2) : Prop where
  identity : [baseline.identity, candidate.identity, recovery.identity].Nodup
  requestId : [baseline.requestId, candidate.requestId, recovery.requestId].Nodup

variable (env) in
/-- Of the three phases only the candidate mounts the artifact: once at the replacement point, and
read-only. -/
structure MountedByCandidate (artifactManifest : ArtifactManifest)
    (baseline candidate recovery : PhaseReading) : Prop where
  mounted : ∃ source mount, uriPath env artifactManifest.uri = .ok source ∧
    (candidate.manifest.executionRequest.mounts.filter fun item =>
      item.source = source ∧ item.target = candidate.observation.replacementPoint) = [mount] ∧
    mount.readOnly = true ∧
    ∀ phase ∈ [baseline, recovery], ∀ item ∈ phase.manifest.executionRequest.mounts,
      item.source ≠ source

variable (env reader documents) in
/-- What a capability other than `none` rests on. -/
structure Supported (evidence : HotpatchEvidenceV2) (capability : HotPatchCapability)
    (files : ActivationFiles) (artifactManifest : ArtifactManifest) (artifact : List UInt8)
    (baseline candidate recovery : PhaseReading) : Prop where
  activated : evidence.activation.files? = some files
  manifestRead : readContract env reader documents.artifactManifest
    "hotpatch_artifact_manifest_invalid" files.artifactManifest = .ok artifactManifest
  artifactRead : readFile env reader files.artifact = .ok artifact
  baselineRead : PhaseRead env reader documents files.baselineState baseline
  candidateRead : PhaseRead env reader documents files.candidateState candidate
  recoveryRead : PhaseRead env reader documents files.recoveryState recovery
  observed : ∀ phase ∈ [baseline, candidate, recovery],
    ObservedProcess env reader documents phase.manifest
  restored : Restored baseline recovery
  loads : LoadsArtifact env files artifactManifest artifact baseline candidate recovery
  output : SameOutput env baseline candidate recovery
  cache : SeparateCache baseline candidate recovery
  hotPatch : capability = .hotPatch →
    OneProcess baseline.manifest candidate.manifest recovery.manifest
  overlayOnly : capability = .overlayOnly →
    ThreeProcesses baseline.manifest candidate.manifest recovery.manifest ∧
      MountedByCandidate env artifactManifest baseline candidate recovery

/-! ## Inversion -/

theorem tokenOf_eq_some {found : Except ProcStat.StatError (List Char)} {token : List Char}
    (same : tokenOf found = .ok (some token)) : found = .ok token := by
  unfold tokenOf at same
  split at same
  · cases same
    rfl
  · cases same
  · cases same

theorem observed_of_verify {phase : HotpatchPhaseManifestV2} {ordinal : Nat}
    (verified : verifyHotpatchProcess env reader documents phase ordinal = .ok true) :
    ObservedProcess env reader documents phase := by
  obtain ⟨started, readStarted, verified⟩ := Except.bind_eq_ok.mp verified
  obtain ⟨reaped, readReaped, verified⟩ := Except.bind_eq_ok.mp verified
  obtain ⟨startToken, gotStart, verified⟩ := Except.bind_eq_ok.mp verified
  cases startToken with
  | none => cases verified
  | some startToken =>
      obtain ⟨exitToken, gotExit, verified⟩ := Except.bind_eq_ok.mp verified
      cases exitToken with
      | none => cases verified
      | some exitToken =>
          obtain ⟨first, last, -, -, -, startIdentity, exitIdentity, -, terminal⟩ :=
            of_decide_eq_true (Except.ok.inj verified)
          obtain ⟨startPid, rfl⟩ := Prod.mk.inj startIdentity
          obtain ⟨exitPid, rfl⟩ := Prod.mk.inj exitIdentity
          refine ⟨started, reaped, readStarted, readReaped, first, last, terminal, ?_⟩
          exact List.forall_mem_cons.mpr ⟨⟨startPid, tokenOf_eq_some gotStart⟩,
            List.forall_mem_singleton.mpr ⟨exitPid, tokenOf_eq_some gotExit⟩⟩

/-- **Every phase is checked.** -/
theorem validPhases_eq_ok {phases : List HotpatchPhaseManifestV2} {ordinal : Nat}
    (valid : validPhases env reader documents evidence target phases ordinal = .ok true) :
    ∀ phase ∈ phases, validHotpatchExecution evidence phase target = true ∧
      ObservedProcess env reader documents phase := by
  induction phases generalizing ordinal with
  | nil => exact fun _ member => absurd member List.not_mem_nil
  | cons phase phases ih =>
      rw [validPhases] at valid
      split at valid
      · cases valid
      · next executed =>
          obtain ⟨verified, process, valid⟩ := Except.bind_eq_ok.mp valid
          cases verified with
          | false => cases valid
          | true =>
              refine List.forall_mem_cons.mpr ⟨⟨?_, observed_of_verify process⟩, ih valid⟩
              simpa using executed

theorem runtimeCapability_eq {baseline candidate recovery : HotpatchPhaseManifestV2}
    (accepted : runtimeCapability baseline candidate recovery ≠ .none) :
    runtimeCapability baseline candidate recovery = .hotPatch ∧
      OneProcess baseline candidate recovery := by
  unfold runtimeCapability at accepted ⊢
  split at accepted
  · exact absurd rfl accepted
  · next ids =>
      rw [if_neg ids]
      split at accepted
      · exact absurd rfl accepted
      · next records =>
          rw [if_neg records]
          simp only [not_or, not_not, distinct_eq_one] at ids records
          have referenceOf : ∀ a b : RawEvidenceFileV2, (a.uri, a.sha256) = (b.uri, b.sha256) →
              a = b := by
            rintro ⟨uri, sha256, _, _⟩ ⟨uri', sha256', _, _⟩ same
            obtain ⟨rfl, rfl⟩ := Prod.mk.inj same
            rfl
          exact ⟨rfl, ids.1, ⟨referenceOf _ _ records.1.1, referenceOf _ _ records.1.2⟩,
            ⟨referenceOf _ _ records.2.1, referenceOf _ _ records.2.2⟩, ids.2⟩

theorem validStartupOverlayMount_eq_ok {mount : OverlayMountEvidenceV2}
    {artifactManifest : ArtifactManifest} {baseline candidate recovery : PhaseReading}
    (valid : validStartupOverlayMount env mount artifactManifest candidate.observation
      baseline.manifest candidate.manifest recovery.manifest = .ok true) :
    MountedByCandidate env artifactManifest baseline candidate recovery := by
  unfold validStartupOverlayMount at valid
  split at valid
  · cases valid
  · next bound =>
      obtain ⟨source, path, valid⟩ := Except.bind_eq_ok.mp valid
      split at valid
      · cases valid
      · next once =>
          simp only [not_or, not_not, Bool.not_eq_true] at bound once
          obtain ⟨item, single⟩ := List.length_eq_one_iff.mp once.1
          have readOnly : item.readOnly = true := by
            have writable := once.2
            rw [single] at writable
            simpa using writable
          have others := List.all_eq_true.mp (Except.ok.inj valid)
          refine ⟨source, item, path, ?_, readOnly, ?_⟩
          · rw [← bound.2.2.1]
            exact single
          · refine List.forall_mem_cons.mpr ⟨fun item member => ?_,
              List.forall_mem_singleton.mpr fun item member => ?_⟩
            · exact of_decide_eq_true (others item (List.mem_append_left _ member))
            · exact of_decide_eq_true (others item (List.mem_append_right _ member))

theorem overlayCapability_eq_ok {mount : OverlayMountEvidenceV2}
    {artifactManifest : ArtifactManifest} (baseline candidate recovery : PhaseReading)
    {capability : HotPatchCapability}
    (returned : overlayCapability env mount artifactManifest candidate.observation
      baseline.manifest candidate.manifest recovery.manifest = .ok capability)
    (accepted : capability ≠ .none) :
    capability = .overlayOnly ∧
      ThreeProcesses baseline.manifest candidate.manifest recovery.manifest ∧
      MountedByCandidate env artifactManifest baseline candidate recovery := by
  unfold overlayCapability at returned
  split at returned
  · cases returned
    exact absurd rfl accepted
  · next apart =>
      obtain ⟨valid, mounts, returned⟩ := Except.bind_eq_ok.mp returned
      cases valid with
      | false =>
          cases returned
          exact absurd rfl accepted
      | true =>
          cases returned
          simp only [not_or, not_not, distinct_eq_three] at apart
          obtain ⟨⟨first, second, third⟩, first', second', third'⟩ := apart
          exact ⟨rfl, ⟨by simp [first, second, third], by simp [first', second', third']⟩,
            validStartupOverlayMount_eq_ok mounts⟩

/-- **What the end of the classification reads and compares.** -/
theorem classifyPhases_eq_ok {activation : Activation} {artifact : List UInt8}
    {artifactManifest : ArtifactManifest} {baselineSource candidateSource : SourceSnapshot}
    {baseline candidate recovery : HotpatchPhaseManifestV2} {files : ActivationFiles}
    {capability : HotPatchCapability}
    (readBaseline : readHotpatchPhase env reader documents files.baselineState = .ok baseline)
    (readCandidate : readHotpatchPhase env reader documents files.candidateState = .ok candidate)
    (readRecovery : readHotpatchPhase env reader documents files.recoveryState = .ok recovery)
    (returned : classifyPhases env reader documents activation artifact artifactManifest
      baselineSource candidateSource baseline candidate recovery = .ok capability)
    (accepted : capability ≠ .none) :
    ∃ first second third : PhaseReading,
      (first.manifest = baseline ∧ second.manifest = candidate ∧ third.manifest = recovery) ∧
      PhaseRead env reader documents files.baselineState first ∧
      PhaseRead env reader documents files.candidateState second ∧
      PhaseRead env reader documents files.recoveryState third ∧
      PhaseRelationsAreSafe artifact artifactManifest.contentHash baselineSource candidateSource
        first second third ∧
      (capability = .hotPatch → OneProcess baseline candidate recovery) ∧
      (capability = .overlayOnly → ThreeProcesses baseline candidate recovery ∧
        MountedByCandidate env artifactManifest first second third) := by
  obtain ⟨entries, readEntries, returned⟩ := Except.bind_eq_ok.mp returned
  obtain ⟨entries', readEntries', returned⟩ := Except.bind_eq_ok.mp returned
  obtain ⟨entries'', readEntries'', returned⟩ := Except.bind_eq_ok.mp returned
  obtain ⟨observation, observed, returned⟩ := Except.bind_eq_ok.mp returned
  obtain ⟨observation', observed', returned⟩ := Except.bind_eq_ok.mp returned
  obtain ⟨observation'', observed'', returned⟩ := Except.bind_eq_ok.mp returned
  obtain ⟨output, readOutput, returned⟩ := Except.bind_eq_ok.mp returned
  obtain ⟨output', readOutput', returned⟩ := Except.bind_eq_ok.mp returned
  obtain ⟨output'', readOutput'', returned⟩ := Except.bind_eq_ok.mp returned
  obtain ⟨cache, readCache, returned⟩ := Except.bind_eq_ok.mp returned
  obtain ⟨cache', readCache', returned⟩ := Except.bind_eq_ok.mp returned
  obtain ⟨cache'', readCache'', returned⟩ := Except.bind_eq_ok.mp returned
  obtain ⟨verified, contents⟩ := verifiedStateEntries_eq_ok readEntries
  obtain ⟨verified', contents'⟩ := verifiedStateEntries_eq_ok readEntries'
  obtain ⟨verified'', contents''⟩ := verifiedStateEntries_eq_ok readEntries''
  split at returned
  · cases returned
    exact absurd rfl accepted
  · next safe =>
      refine ⟨⟨baseline, entries, observation, output, cache⟩,
        ⟨candidate, entries', observation', output', cache'⟩,
        ⟨recovery, entries'', observation'', output'', cache''⟩, ⟨rfl, rfl, rfl⟩,
        ⟨readBaseline, verified, contents, observed, readOutput, readCache⟩,
        ⟨readCandidate, verified', contents', observed', readOutput', readCache'⟩,
        ⟨readRecovery, verified'', contents'', observed'', readOutput'', readCache''⟩,
        not_not.mp safe, ?_⟩
      cases activation with
      | none =>
          cases returned
          exact absurd rfl accepted
      | runtimeHotPatch files =>
          cases returned
          obtain ⟨hotPatch, process⟩ := runtimeCapability_eq accepted
          exact ⟨fun _ => process, fun overlay => by rw [hotPatch] at overlay; cases overlay⟩
      | startupOverlay files mount =>
          obtain ⟨rfl, processes, mounted⟩ := overlayCapability_eq_ok
            ⟨baseline, entries, observation, output, cache⟩
            ⟨candidate, entries', observation', output', cache'⟩
            ⟨recovery, entries'', observation'', output'', cache''⟩ returned accepted
          exact ⟨fun hotPatch => (by cases hotPatch), fun _ => ⟨processes, mounted⟩⟩

/-- The requests of a hot patch are never all the same: the candidate names another cache. -/
theorem SeparateCache.requests_differ {baseline candidate recovery : PhaseReading}
    (separate : SeparateCache baseline candidate recovery) :
    candidate.manifest.executionRequest ≠ baseline.manifest.executionRequest ∧
      candidate.manifest.executionRequest ≠ recovery.manifest.executionRequest := by
  refine ⟨fun same => separate.directory.1 ?_, fun same => separate.directory.2 ?_⟩
  · rw [HotpatchPhaseManifestV2.cacheDirectory, same, HotpatchPhaseManifestV2.cacheDirectory]
  · rw [HotpatchPhaseManifestV2.cacheDirectory, same, HotpatchPhaseManifestV2.cacheDirectory]

/-- **What the hot-patch classification rests on.** The requests of the phases are never the same,
also where they share their id. -/
theorem classification_sound {capability : HotPatchCapability}
    (returned : classifyHotpatch env reader documents evidence target = .ok capability)
    (accepted : capability ≠ .none) :
    ∃ files artifactManifest artifact baseline candidate recovery,
      Supported env reader documents evidence capability files artifactManifest artifact
        baseline candidate recovery ∧
      candidate.manifest.executionRequest ≠ baseline.manifest.executionRequest ∧
      candidate.manifest.executionRequest ≠ recovery.manifest.executionRequest := by
  unfold classifyHotpatch at returned
  cases activated : evidence.activation.files? with
  | none =>
      rw [activated] at returned
      cases returned
      exact absurd rfl accepted
  | some files =>
      rw [activated] at returned
      obtain ⟨baselineSource, -, returned⟩ := Except.bind_eq_ok.mp returned
      obtain ⟨candidateSource, -, returned⟩ := Except.bind_eq_ok.mp returned
      obtain ⟨artifactManifest, readManifest, returned⟩ := Except.bind_eq_ok.mp returned
      obtain ⟨artifact, readArtifact, returned⟩ := Except.bind_eq_ok.mp returned
      obtain ⟨baseline, readBaseline, returned⟩ := Except.bind_eq_ok.mp returned
      obtain ⟨candidate, readCandidate, returned⟩ := Except.bind_eq_ok.mp returned
      obtain ⟨recovery, readRecovery, returned⟩ := Except.bind_eq_ok.mp returned
      split at returned
      · cases returned
        exact absurd rfl accepted
      obtain ⟨chained, chain, returned⟩ := Except.bind_eq_ok.mp returned
      split at returned
      · cases returned
        exact absurd rfl accepted
      next linked =>
      obtain ⟨valid, checked, returned⟩ := Except.bind_eq_ok.mp returned
      split at returned
      · cases returned
        exact absurd rfl accepted
      next phases =>
      rw [Bool.not_eq_false] at linked phases
      subst linked phases
      obtain ⟨path, -, chain⟩ := Except.bind_eq_ok.mp chain
      obtain ⟨-, -, -, -, -, -, -, -, -, -, -, -, -, -, -, -, -, uri, digest, -⟩ :=
        of_decide_eq_true (Except.ok.inj chain)
      have processes := fun phase member => (validPhases_eq_ok checked phase member).2
      obtain ⟨first, second, third, ⟨rfl, rfl, rfl⟩, readFirst, readSecond, readThird, safe,
        hotPatch, overlay⟩ := classifyPhases_eq_ok readBaseline readCandidate readRecovery
          returned accepted
      obtain ⟨filled, -, -, -, -, -, -, unloaded, -, loaded, implementation, -, unloaded', -,
        restoredHash, -, -, -, -, -, entries, -, -, -, output, output', cache, separate,
        directory, named, unempty, apart⟩ := safe
      have cacheSeparate : SeparateCache first second third := by
        refine ⟨⟨separate, cache ▸ separate⟩, ?_, apart, directory ▸ apart⟩
        obtain ⟨name, same⟩ := Option.ne_none_iff_exists'.mp named
        exact ⟨name, same, fun blank => unempty (by rw [same, blank])⟩
      refine ⟨files, artifactManifest, artifact, first, second, third,
        ⟨activated, readManifest, readArtifact, readFirst, readSecond, readThird, ?_,
          ⟨entries.symm, restoredHash.symm, cache.symm, directory.symm⟩,
          ⟨uri, ?_, filled, loaded, implementation, unloaded, unloaded'⟩,
          ⟨⟨output, output'.symm⟩, ?_⟩, cacheSeparate, hotPatch, overlay⟩,
        cacheSeparate.requests_differ⟩
      · exact List.forall_mem_cons.mpr ⟨processes _ (by simp), List.forall_mem_cons.mpr
          ⟨processes _ (by simp), List.forall_mem_singleton.mpr (processes _ (by simp))⟩⟩
      · rw [digest, (readFile_eq_ok readArtifact).1]
      · refine List.forall_mem_cons.mpr ⟨?_, List.forall_mem_cons.mpr ⟨readSecond.outputHash,
          List.forall_mem_singleton.mpr ?_⟩⟩
        · rw [readFirst.outputHash, output]
        · rw [readThird.outputHash, output']

end Sound

/-! ### A probe that shows a hot patch -/

/-- A file of a probe: a document in the root directory, with its digest. -/
structure ProbeFile where
  name : List Char
  value : Json.Object
  digest : Nat
  named : (isPart name = true ∧ '/' ∉ name) ∧ name ≠ ['.', '.']
  bounded : 1 ≤ (asUri ⟨['/'], [name]⟩).length ∧ (asUri ⟨['/'], [name]⟩).length ≤ 4000
  fits : Json.fitsWithin maxRawJsonDepth (.obj value) = true

namespace ProbeFile

/-- The content of a file. -/
def bytes (file : ProbeFile) : List UInt8 := (Json.canonicalBytes (.obj file.value)).data.toList

/-- The text of the digest of a file. -/
def sha256 (file : ProbeFile) : String := String.ofList (hexText 64 file.digest)

/-- The reference to a file. -/
def ref (file : ProbeFile) : RawEvidenceFileV2 :=
  ⟨asUri ⟨['/'], [file.name]⟩, "sha256:" ++ file.sha256, file.bounded, isSha256_hexText file.digest⟩

/-- The reference as a document. -/
def refJson (file : ProbeFile) : Json :=
  .obj [("sha256", .str file.ref.sha256), ("uri", .str (String.ofList file.ref.uri))]

end ProbeFile

/-- What tells the documents of a probe apart: how many fields they have, and what some hold. -/
def ProbeFile.tag (file : ProbeFile) : Nat × List (Option Json) :=
  (file.value.length,
    ["phase", "event", "kind", "VALUE", "namespace", "text", "activation_marker"].map fun name =>
      (file.value.get? name).map Json.sorted)

/-- The documents of a table are told apart. -/
def Separate {α : Type} (table : List (ProbeFile × α)) : Prop :=
  (table.map fun entry => entry.1.tag).Nodup

instance {α : Type} (table : List (ProbeFile × α)) : Decidable (Separate table) :=
  inferInstanceAs (Decidable (List.Nodup _))

/-- Equal files have equal documents. -/
theorem ProbeFile.tag_eq {a b : ProbeFile} (same : a.bytes = b.bytes) : a.tag = b.tag := by
  have sorted : Json.sorted (.obj a.value) = Json.sorted (.obj b.value) :=
    Json.canonicalBytes_inj (Json.integral_of_fitsWithin a.fits)
      (Json.integral_of_fitsWithin b.fits) (ByteArray.ext (Array.toList_inj.mp same))
  have fields : sortedObject a.value = sortedObject b.value := Json.obj.inj sorted
  have size : ∀ value : Json.Object, (sortedObject value).length = value.length := by
    intro value
    rw [sortedObject, List.length_insertionSort, Json.sortedFields_eq, List.length_map]
  have lookup : ∀ (file : ProbeFile) (name : String),
      (file.value.get? name).map Json.sorted = (sortedObject file.value).get? name := by
    intro file name
    cases Json.fits_of_fitsWithin file.fits with
    | obj _ _ distinct _ => exact (get?_sortedObject distinct name).symm
  simp only [ProbeFile.tag, lookup, fields, ← size a.value, ← size b.value]

/-- A table of documents by the files that hold them. -/
structure ProbeTable (α : Type) where
  entries : List (ProbeFile × α)
  separate : Separate entries

/-- What a table holds for the content of a file. -/
def ProbeTable.entry {α : Type} (table : ProbeTable α) (encoded : List UInt8) : Option α :=
  (table.entries.find? fun entry => entry.1.bytes = encoded).map Prod.snd

theorem ProbeTable.entry_of_mem {α : Type} {table : ProbeTable α} {entry : ProbeFile × α}
    (member : entry ∈ table.entries) : table.entry entry.1.bytes = some entry.2 := by
  obtain ⟨entries, separate⟩ := table
  unfold ProbeTable.entry
  dsimp only at member ⊢
  induction entries with
  | nil => exact absurd member List.not_mem_nil
  | cons first table ih =>
      obtain ⟨fresh, separate⟩ := List.nodup_cons.mp separate
      rcases List.mem_cons.mp member with rfl | inside
      · simp
      · have apart : ¬first.1.bytes = entry.1.bytes := fun same =>
          fresh (List.mem_map.mpr ⟨entry, inside, (ProbeFile.tag_eq same).symm⟩)
        rw [List.find?_cons_of_neg (by simpa using apart)]
        exact ih separate inside

/-- Files that are told apart by their names and by their contents. -/
structure ProbeStore where
  files : List ProbeFile
  filled : files ≠ []
  names : (files.map ProbeFile.name).Nodup
  separate : Separate (files.map fun file => (file, file.sha256))

namespace ProbeStore

variable (store : ProbeStore) {file : ProbeFile}

/-- The files by their paths. -/
def placed : List (Names × List UInt8) := store.files.map fun file => ([file.name], file.bytes)

/-- The file system of the files. -/
def disk : Disk :=
  ProductionEvidence.diskOf store.placed
    (fun none => store.filled (List.map_eq_nil_iff.mp none))
    (by
      intro a first b second below
      obtain ⟨a, -, rfl⟩ := List.mem_map.mp first
      obtain ⟨b, -, rfl⟩ := List.mem_map.mp second
      exact below.eq_of_length rfl)
    (by
      intro entry member
      obtain ⟨file, -, rfl⟩ := List.mem_map.mp member
      exact ⟨List.cons_ne_nil _ _, List.forall_mem_singleton.mpr
        ⟨⟨file.named.1.1, file.named.1.2⟩, file.named.2⟩⟩)

/-- The digests of the files. -/
def digests : ProbeTable String :=
  ⟨store.files.map fun file => (file, file.sha256), store.separate⟩

/-- The library, with the digests of the files. -/
def env : ReaderEnv where
  rules := probeEnv.rules
  numbers := Json.integerNumbers
  deepest := 1000
  sha256 encoded := (store.digests.entry encoded).getD "unknown"

/-- A reader of the root directory. -/
def reader : Reader store.disk where
  allowedRoot := []
  maxBytes := (store.files.map fun file => file.bytes.length).sum + 1
  resolved := store.disk.root
  positive := Nat.le_add_left 1 _

variable {store}

theorem nodes_of_mem (member : file ∈ store.files) :
    store.disk.nodes [file.name] = some (.regular file.bytes) := by
  have found : store.placed.lookup [file.name] = some file.bytes := by
    have names := store.names
    unfold placed
    generalize store.files = files at member names
    induction files with
    | nil => exact absurd member List.not_mem_nil
    | cons first files ih =>
        rw [List.map_cons, List.nodup_cons] at names
        rw [List.map_cons, List.lookup_cons]
        rcases List.mem_cons.mp member with rfl | inside
        · rw [beq_self_eq_true]
        · have apart : ([file.name] == [first.name]) = false := by
            refine beq_eq_false_iff_ne.mpr fun same => names.1 ?_
            exact List.mem_map.mpr ⟨file, inside, (List.cons.inj same).1⟩
          rw [apart]
          exact ih inside names.2
  change ProductionEvidence.treeNodes store.placed [file.name] = _
  rw [ProductionEvidence.treeNodes, found]

theorem hashOf_of_mem (member : file ∈ store.files) :
    hashOf store.env file.bytes = file.ref.sha256 := by
  have listed : (file, file.sha256) ∈ store.digests.entries :=
    List.mem_map.mpr ⟨file, member, rfl⟩
  have found := ProbeTable.entry_of_mem listed
  change "sha256:" ++ (store.digests.entry file.bytes).getD "unknown" = _
  rw [found]
  rfl

theorem served (names : Names) : Served store.disk names :=
  ⟨fun _ _ => rfl, fun _ _ => rfl, rfl⟩

theorem small_of_mem (member : file ∈ store.files) :
    file.bytes.length ≤ store.reader.maxBytes := by
  have bound : file.bytes.length ≤ (store.files.map fun file => file.bytes.length).sum :=
    List.single_le_sum (fun _ _ => Nat.zero_le _) _ (List.mem_map.mpr ⟨file, member, rfl⟩)
  exact Nat.le_succ_of_le bound

/-- **Each file is read by its reference.** -/
theorem readFile_of_mem (member : file ∈ store.files) :
    readFile store.env store.reader file.ref = .ok file.bytes := by
  have there := nodes_of_mem member
  refine Except.bind_eq_ok.mpr ⟨[file.name], resolveFileUri_asUri there (served _), ?_⟩
  refine Except.bind_eq_ok.mpr ⟨file.bytes, secureReadPosix_ok (List.cons_ne_nil _ _) there
    (served _) (small_of_mem member), ?_⟩
  exact Except.bind_eq_ok.mpr ⟨(), require_eq_ok.mpr (hashOf_of_mem member), rfl⟩

/-- **So is each document.** -/
theorem readContract_of_mem {α : Type} {parse : List UInt8 → Except String α} {document : α}
    {errorCode : String} (member : file ∈ store.files) (parsed : parse file.bytes = .ok document) :
    readContract store.env store.reader parse errorCode file.ref = .ok document := by
  have room : maxRawJsonDepth ≤ 1000 := by decide
  have read : readDocument store.env store.reader (asUri ⟨['/'], [file.name]⟩)
      (hashOf store.env file.bytes) = .ok (file.bytes, sortedObject file.value) :=
    readDocument_canonical Json.integerNumbers_lawful room (List.cons_ne_nil file.name [])
      (nodes_of_mem member) (served _) (small_of_mem member) (Json.fits_of_fitsWithin file.fits)
  rw [hashOf_of_mem member] at read
  refine Except.bind_eq_ok.mpr ⟨file.bytes, ?_, ?_⟩
  · exact Except.map_eq_ok.mpr ⟨_, read, rfl⟩
  · rw [validated, parsed]
    rfl

end ProbeStore

/-- The image of the runs. -/
def probeImage : String :=
  "registry/sglang@sha256:0000000000000000000000000000000000000000000000000000000000000000"

/-- The text of a UUID of the probe. -/
def probeUuid (last : String) : String := "00000000-0000-0000-0000-0000000001" ++ last

/-- A document of the files of a source. -/
def snapshotJson (snapshotId kind commit sourceHash worktree : String) (parent : Json) :
    Json.Object :=
  [("clean", .bool true), ("commit", .str commit), ("created_at", .str "2026-08-20T00:00:00Z"),
    ("kind", .str kind), ("parent_snapshot_id", parent), ("repository", .str "sglang"),
    ("snapshot_id", .str snapshotId), ("source_hash", .str sourceHash),
    ("tree_hash", .str commit), ("worktree_uri", .str worktree)]

/-- The commit and the tree of the baseline. -/
def baselineCommit : String := "aaaaaaaaaaaaaaaaaaaaaaaaaaaaaaaaaaaaaaaa"

/-- The commit and the tree of the candidate. -/
def candidateCommit : String := "bbbbbbbbbbbbbbbbbbbbbbbbbbbbbbbbbbbbbbbb"

/-- The source hash of the baseline. -/
def baselineHash : String :=
  "sha256:aaaaaaaaaaaaaaaaaaaaaaaaaaaaaaaaaaaaaaaaaaaaaaaaaaaaaaaaaaaaaaaa"

/-- The source hash of the candidate. -/
def candidateHash : String :=
  "sha256:bbbbbbbbbbbbbbbbbbbbbbbbbbbbbbbbbbbbbbbbbbbbbbbbbbbbbbbbbbbbbbbb"

/-- The baseline source. -/
def baselineSourceFile : ProbeFile where
  name := "baseline_source".toList
  value := snapshotJson (probeUuid "f5") "baseline" baselineCommit baselineHash
    "file:///sglang" .null
  digest := 0x43718374fbb8997b55894f0df988f38052c623791615d6bf8061d2e7b5f5c706
  named := by decide
  bounded := by decide +kernel
  fits := by decide +kernel

/-- The candidate source. -/
def candidateSourceFile : ProbeFile where
  name := "candidate_source".toList
  value := snapshotJson (probeUuid "f6") "candidate" candidateCommit candidateHash
    "file:///candidate" (.str (probeUuid "f5"))
  digest := 0xb4bcf91110c76b2d95b0fa5ccd2fbe8091bbcb19846d7b81a974c710f9721038
  named := by decide
  bounded := by decide +kernel
  fits := by decide +kernel

/-- The artifact, which is also the implementation of the candidate. -/
def artifactFile : ProbeFile where
  name := "artifact".toList
  value := [("VALUE", .str "candidate")]
  digest := 0xc9f77215481da776dbfa3c101cfc67e2192af17aa077196adf687e8d6cb732ea
  named := by decide
  bounded := by decide +kernel
  fits := by decide +kernel

/-- The manifest of the artifact. -/
def manifestFile : ProbeFile where
  name := "artifact_manifest".toList
  value := [("artifact_id", .str (probeUuid "f7")), ("build_recipe", .obj []),
    ("candidate_id", .str (probeUuid "f8")), ("content_hash", .str artifactFile.ref.sha256),
    ("created_at", .str "2026-08-20T00:00:00Z"), ("kind", .str "python_overlay"),
    ("metadata", .obj []), ("sbom_uri", .null), ("signature_uri", .null),
    ("source_snapshot_id", .str (probeUuid "f6")), ("synthetic", .bool false),
    ("uri", .str "file:///artifact")]
  digest := 0xbc6f1d97a3200e8018a10b52e1804bba4ad437724c234895feb7d627f1b45d80
  named := by decide
  bounded := by decide +kernel
  fits := by decide +kernel

/-- The implementation of the baseline. -/
def baselineEntryFile : ProbeFile where
  name := "baseline_entry".toList
  value := [("VALUE", .str "baseline")]
  digest := 0xe4583b7e8ccdd5529283ab4d06ab87388c4f701f9d220b117b049b733b98a9f9
  named := by decide
  bounded := by decide +kernel
  fits := by decide +kernel

/-- The output of every phase. -/
def normalizedFile : ProbeFile where
  name := "normalized_output".toList
  value := [("text", .str "fixture")]
  digest := 0xf8c0d4c918cd438d5b38f065dbd6d6b05b8316c8569f44db204623f71fb5d44a
  named := by decide
  bounded := by decide +kernel
  fits := by decide +kernel

/-- The cache of the baseline. -/
def baselineCacheFile : ProbeFile where
  name := "baseline_cache".toList
  value := [("namespace", .str "baseline")]
  digest := 0x9fb0df79feaba31f2a640fe127115e531b75b1ebe345d33550371b601a0d3a0d
  named := by decide
  bounded := by decide +kernel
  fits := by decide +kernel

/-- The cache of the candidate. -/
def candidateCacheFile : ProbeFile where
  name := "candidate_cache".toList
  value := [("namespace", .str "candidate")]
  digest := 0x0af6327c942b66388d790fae8e7a8623a2a4701f09969856316a5f84585bd4e4
  named := by decide
  bounded := by decide +kernel
  fits := by decide +kernel

/-- The record of the process. -/
def probeStatLine : String :=
  "11 (a) S 4 5 6 7 8 9 10 11 12 13 14 15 16 17 18 19 20 21 70000"

/-- A record of the life of the process. -/
def lifecycleJson (event : String) (captured : Int) (pid status : Json) : Json.Object :=
  [("captured_monotonic_ns", .int captured), ("event", .str event),
    ("observer_process_id", .int 4242), ("proc_stat_line", .str probeStatLine),
    ("process_id", .int 11), ("restart_ordinal", .int 0),
    ("schema_version", .str "process-lifecycle-v1"), ("wait_status", status),
    ("waitpid_result_pid", pid)]

/-- The start of the process. -/
def startFile : ProbeFile where
  name := "start_record".toList
  value := lifecycleJson "started" 1000 .null .null
  digest := 0x91a0f6b1ea412cc23f10d88a2422eb9a5827d37c7e2a3f20e8f3ff252a7d39e4
  named := by decide
  bounded := by decide +kernel
  fits := by decide +kernel

/-- The end of the process. -/
def exitFile : ProbeFile where
  name := "exit_record".toList
  value := lifecycleJson "reaped" 1350 (.int 11) (.int 0)
  digest := 0x28297ad79fd6c8b1b542c68e280151be61d27abe130f7b18ca4b915fba950c1a
  named := by decide
  bounded := by decide +kernel
  fits := by decide +kernel

/-- What a phase writes. -/
def observationJson (marker implementation : String) (loaded : Json) : Json.Object :=
  [("activation_marker", .str marker), ("implementation_hash", .str implementation),
    ("loaded_artifact_hash", loaded), ("output_hash", .str normalizedFile.ref.sha256),
    ("process_id", .int 11), ("protocol_version", .str "hcuopt-overlay-result-v2"),
    ("replacement_point", .str "/opt/kernel.py"), ("workload_kind", .str "sglang_python_triton")]

/-- What the baseline writes. -/
def baselineOutputFile : ProbeFile where
  name := "baseline_observation".toList
  value := observationJson "baseline" baselineEntryFile.ref.sha256 .null
  digest := 0x39c690953b2dad000161be34a4a803d7c07446665cd837c3aba3037f633a46f3
  named := by decide
  bounded := by decide +kernel
  fits := by decide +kernel

/-- What the candidate writes. -/
def candidateOutputFile : ProbeFile where
  name := "candidate_observation".toList
  value := observationJson "candidate-v1" artifactFile.ref.sha256 (.str artifactFile.ref.sha256)
  digest := 0xfe3ff016e2fddcf71cb2f13bc96c5e8cb9eb2748e51fe46184262943f5a311b2
  named := by decide
  bounded := by decide +kernel
  fits := by decide +kernel

/-- The environment of a phase, whose cache has a directory. -/
def environmentJson (directory : String) : Json :=
  .obj [("HCUOPT_CANDIDATE_CACHE_DIR", .str directory)]

/-- The execution request of a phase. -/
def requestJson (directory : String) : Json :=
  .obj [("argv", .arr [.str "python"]), ("container_image", .str probeImage),
    ("environment", environmentJson directory), ("fencing_token", .int 1),
    ("lease_scope", .str "exclusive"), ("mounts", .arr []), ("request_id", .str (probeUuid "f9")),
    ("resource_id", .str "hcu-0"), ("target_id", .str "bw20"), ("timeout_seconds", .int 600),
    ("working_directory", .str "/workspace")]

/-- The metadata of an execution result. -/
def probeMetadata : Json.Object :=
  [("container_image", .str probeImage), ("container_name", .str "probe"),
    ("fencing_token", .int 1), ("resource_id", .str "hcu-0"), ("target_id", .str "bw20")]

/-- The execution result of a phase. -/
def resultJson (output : ProbeFile) : Json :=
  .obj [("adapter_provenance", .obj [("adapter_name", .str "a"), ("adapter_version", .str "1"),
      ("capability", .str "c"), ("implementation_kind", .str "real"), ("profile", .str "p"),
      ("source_commit", .null)]), ("exit_code", .int 0),
    ("finished_at", .str "2026-08-20T00:00:00Z"), ("metadata", .obj probeMetadata),
    ("request_id", .str (probeUuid "f9")), ("started_at", .str "2026-08-20T00:00:00Z"),
    ("status", .str "succeeded"), ("stderr_uri", .null),
    ("stdout_uri", .str (String.ofList output.ref.uri)), ("synthetic", .bool false)]

/-- The manifest of a phase. -/
def phaseJson (phase snapshot directory : String) (entry output cache : ProbeFile) : Json.Object :=
  [("cache_namespace", cache.refJson), ("container_id", .str "probe"),
    ("entries", .arr [.obj [("content", entry.refJson), ("path", .str "kernel.py")]]),
    ("execution_request", requestJson directory), ("execution_result", resultJson output),
    ("normalized_output", normalizedFile.refJson), ("output", output.refJson),
    ("phase", .str phase), ("process_exit_record", exitFile.refJson), ("process_id", .int 11),
    ("process_start_record", startFile.refJson),
    ("process_start_token", .str "linux-proc-startticks:70000"),
    ("schema_version", .str "hotpatch-phase-v2"), ("source_snapshot_id", .str snapshot)]

/-- The manifest of the baseline phase. -/
def baselineStateFile : ProbeFile where
  name := "baseline_state".toList
  value := phaseJson "baseline" (probeUuid "f5") "/cache/baseline" baselineEntryFile
    baselineOutputFile baselineCacheFile
  digest := 0x333643431ce3df600351ed03aa00e516241c718dd5e8940d42c886367964efc6
  named := by decide
  bounded := by decide +kernel
  fits := by decide +kernel

/-- The manifest of the candidate phase. -/
def candidateStateFile : ProbeFile where
  name := "candidate_state".toList
  value := phaseJson "candidate" (probeUuid "f6") "/cache/candidate" artifactFile
    candidateOutputFile candidateCacheFile
  digest := 0xc5a9336480a52e5ae6f652d9f97c749ffc67e57c148384cf37968d404bdbd5c4
  named := by decide
  bounded := by decide +kernel
  fits := by decide +kernel

/-- The manifest of the recovery phase. -/
def recoveryStateFile : ProbeFile where
  name := "recovery_state".toList
  value := phaseJson "recovery" (probeUuid "f5") "/cache/baseline" baselineEntryFile
    baselineOutputFile baselineCacheFile
  digest := 0x6fe5ce09bd935b5f4509d0a3af8cb1e781579102ad6925722121d4264cecf361
  named := by decide
  bounded := by decide +kernel
  fits := by decide +kernel

/-- The files of the probe. -/
def probeStore : ProbeStore where
  files := [baselineSourceFile, candidateSourceFile, artifactFile, manifestFile, baselineEntryFile,
    normalizedFile, baselineCacheFile, candidateCacheFile, startFile, exitFile, baselineOutputFile,
    candidateOutputFile, baselineStateFile, candidateStateFile, recoveryStateFile]
  filled := List.cons_ne_nil _ _
  names := by decide +kernel
  separate := by decide +kernel

/-- A source of the probe. -/
def probeSource (snapshotId : Uuid) (kind : SnapshotKind) (commit sourceHash worktree : String)
    (parent : Option Uuid) (parented : kind = .candidate ↔ parent ≠ none) : SourceSnapshot where
  snapshotId := snapshotId
  kind := kind
  repository := "sglang"
  commit := commit
  treeHash := commit
  sourceHash := sourceHash
  worktreeUri := worktree.toList
  clean := true
  parentSnapshotId := parent
  parented := parented

/-- The baseline source. -/
def baselineSource : SourceSnapshot :=
  probeSource 0x1f5 .baseline baselineCommit baselineHash "file:///sglang" none (by decide)

/-- The candidate source. -/
def candidateSource : SourceSnapshot :=
  probeSource 0x1f6 .candidate candidateCommit candidateHash "file:///candidate" (some 0x1f5)
    (by decide)

/-- The manifest of the artifact. -/
def probeManifest : ArtifactManifest where
  candidateId := some 0x1f8
  kind := "python_overlay"
  uri := artifactFile.ref.uri
  contentHash := artifactFile.ref.sha256
  sourceSnapshotId := some 0x1f6
  synthetic := false
  digest := isSha256_hexText artifactFile.digest

/-- The request of a phase. -/
def probeRequest (directory : String) : ExecutionRequest where
  requestId := 0x1f9
  targetId := "bw20"
  argv := ["python"]
  workingDirectory := "/workspace".toList
  environment := [("HCUOPT_CANDIDATE_CACHE_DIR", directory)]
  timeoutSeconds := 600
  leaseScope := .exclusive
  resourceId := some "hcu-0"
  fencingToken := some 1
  containerImage := some probeImage
  mounts := []
  named := by decide
  distinct := List.nodup_singleton _
  timed := by decide
  leased := fun _ => ⟨Option.some_ne_none _, Option.some_ne_none _⟩

/-- The manifest of a phase. -/
def probePhase (phase : HotpatchPhase) (snapshotId : Uuid) (directory : String)
    (entry output cache : ProbeFile) : HotpatchPhaseManifestV2 where
  phase := phase
  sourceSnapshotId := snapshotId
  executionRequest := probeRequest directory
  executionResult := ⟨0x1f9, .succeeded, some 0, some output.ref.uri, probeMetadata, .real, false⟩
  processId := 11
  processStartToken := "linux-proc-startticks:70000".toList
  processStartRecord := startFile.ref
  processExitRecord := exitFile.ref
  containerId := "probe"
  entries := [⟨"kernel.py".toList, entry.ref, by decide⟩]
  output := output.ref
  normalizedOutput := normalizedFile.ref
  cacheNamespace := cache.ref
  positive := by decide
  sameRequest := rfl
  successful := ⟨rfl, rfl, rfl, rfl⟩
  container := (by decide : probeMetadata.get? "container_name" = some (.str "probe"))
  stdout := rfl
  filled := List.cons_ne_nil _ _
  uniquePaths := List.nodup_singleton _

/-- The baseline phase. -/
def baselinePhase : HotpatchPhaseManifestV2 :=
  probePhase .baseline 0x1f5 "/cache/baseline" baselineEntryFile baselineOutputFile
    baselineCacheFile

/-- The candidate phase. -/
def candidatePhase : HotpatchPhaseManifestV2 :=
  probePhase .candidate 0x1f6 "/cache/candidate" artifactFile candidateOutputFile
    candidateCacheFile

/-- The recovery phase. -/
def recoveryPhase : HotpatchPhaseManifestV2 :=
  probePhase .recovery 0x1f5 "/cache/baseline" baselineEntryFile baselineOutputFile
    baselineCacheFile

/-- An observation of a phase. -/
def probeObservation (marker implementation : String) (loaded : Option String) :
    HotpatchExecutionObservationV2 :=
  ⟨marker, normalizedFile.ref.sha256, "/opt/kernel.py".toList, implementation, 11, loaded,
    by decide⟩

/-- The observation of the baseline. -/
def baselineObservation : HotpatchExecutionObservationV2 :=
  probeObservation "baseline" baselineEntryFile.ref.sha256 none

/-- The observation of the candidate. -/
def candidateObservation : HotpatchExecutionObservationV2 :=
  probeObservation "candidate-v1" artifactFile.ref.sha256 (some artifactFile.ref.sha256)

/-- The start record of the process. -/
def startRecord : ProcessLifecycleRecordV2 where
  event := .started
  restartOrdinal := 0
  observerProcessId := 4242
  processId := 11
  procStatLine := probeStatLine.toList
  capturedMonotonicNs := 1000
  waitpidResultPid := none
  waitStatus := none
  running := fun _ => ⟨rfl, rfl⟩
  waited := fun event => by cases event

/-- The end record of the process. -/
def exitRecord : ProcessLifecycleRecordV2 where
  event := .reaped
  restartOrdinal := 0
  observerProcessId := 4242
  processId := 11
  procStatLine := probeStatLine.toList
  capturedMonotonicNs := 1350
  waitpidResultPid := some 11
  waitStatus := some 0
  running := fun event => by cases event
  waited := fun _ => ⟨rfl, Option.some_ne_none _⟩

/-- What the validation library makes of the content of a file that a table holds. -/
def parsed {α : Type} (table : ProbeTable α) (encoded : List UInt8) : Except String α :=
  requireSome (table.entry encoded) "validation error"

theorem parsed_of_mem {α : Type} {table : ProbeTable α} {file : ProbeFile} {document : α}
    (member : (file, document) ∈ table.entries) : parsed table file.bytes = .ok document := by
  have found := ProbeTable.entry_of_mem member
  dsimp only at found
  rw [parsed, found]
  rfl

/-- The sources. -/
def probeSources : ProbeTable SourceSnapshot where
  entries := [(baselineSourceFile, baselineSource), (candidateSourceFile, candidateSource)]
  separate := by decide +kernel

/-- The manifest of the artifact, by its file. -/
def probeManifests : ProbeTable ArtifactManifest :=
  ⟨[(manifestFile, probeManifest)], List.nodup_singleton _⟩

/-- The phases. -/
def probePhases : ProbeTable HotpatchPhaseManifestV2 where
  entries := [(baselineStateFile, baselinePhase), (candidateStateFile, candidatePhase),
    (recoveryStateFile, recoveryPhase)]
  separate := by decide +kernel

/-- The observations. -/
def probeObservations : ProbeTable HotpatchExecutionObservationV2 where
  entries := [(baselineOutputFile, baselineObservation),
    (candidateOutputFile, candidateObservation)]
  separate := by decide +kernel

/-- The records of the process. -/
def probeRecords : ProbeTable ProcessLifecycleRecordV2 where
  entries := [(startFile, startRecord), (exitFile, exitRecord)]
  separate := by decide +kernel

/-- The documents of the probe. -/
def probeDocuments : HotpatchDocuments where
  sourceSnapshot := parsed probeSources
  artifactManifest := parsed probeManifests
  phaseManifest := parsed probePhases
  observation := parsed probeObservations
  processLifecycle := parsed probeRecords

/-- The files of the activation. -/
def probeFiles : ActivationFiles where
  baselineSource := baselineSourceFile.ref
  candidateSource := candidateSourceFile.ref
  artifactManifest := manifestFile.ref
  artifact := artifactFile.ref
  baselineState := baselineStateFile.ref
  candidateState := candidateStateFile.ref
  recoveryState := recoveryStateFile.ref

/-- The evidence of the probe. -/
def probeEvidence : HotpatchEvidenceV2 := ⟨⟨"bw20", "hcu-0", 1⟩, .runtimeHotPatch probeFiles⟩

/-- The target of the probe. -/
def probeTarget : TargetSpec :=
  ⟨"bw20", probeImage, "sglang", baselineCommit, "/sglang".toList⟩

theorem readSource_probe (file : ProbeFile) (snapshot : SourceSnapshot) (errorCode : String)
    (stored : file ∈ probeStore.files) (listed : (file, snapshot) ∈ probeSources.entries) :
    readContract probeStore.env probeStore.reader probeDocuments.sourceSnapshot errorCode file.ref =
      .ok snapshot :=
  ProbeStore.readContract_of_mem stored (parsed_of_mem listed)

theorem readManifest_probe (file : ProbeFile) (manifest : ArtifactManifest) (errorCode : String)
    (stored : file ∈ probeStore.files) (listed : (file, manifest) ∈ probeManifests.entries) :
    readContract probeStore.env probeStore.reader probeDocuments.artifactManifest errorCode
      file.ref = .ok manifest :=
  ProbeStore.readContract_of_mem stored (parsed_of_mem listed)

theorem readPhase_probe (file : ProbeFile) (phase : HotpatchPhaseManifestV2)
    (stored : file ∈ probeStore.files) (listed : (file, phase) ∈ probePhases.entries) :
    readHotpatchPhase probeStore.env probeStore.reader probeDocuments file.ref = .ok phase :=
  ProbeStore.readContract_of_mem stored (parsed_of_mem listed)

theorem readRecord_probe (file : ProbeFile) (record : ProcessLifecycleRecordV2)
    (stored : file ∈ probeStore.files) (listed : (file, record) ∈ probeRecords.entries) :
    readProcessLifecycle probeStore.env probeStore.reader probeDocuments file.ref = .ok record :=
  ProbeStore.readContract_of_mem stored (parsed_of_mem listed)

/-- The start token of the process. -/
theorem startToken_probe :
    ProcStat.Stage0Verifier.procStartToken probeStatLine.toList ((11 : Nat) : Int) =
      .ok "linux-proc-startticks:70000".toList := by
  decide +kernel

/-- The process of a phase of the probe is verified. -/
theorem verifyHotpatchProcess_probe {phase : HotpatchPhaseManifestV2}
    (started : phase.processStartRecord = startFile.ref)
    (ended : phase.processExitRecord = exitFile.ref)
    (identity : (11, "linux-proc-startticks:70000".toList) = phase.identity) :
    verifyHotpatchProcess probeStore.env probeStore.reader probeDocuments phase 0 = .ok true := by
  have readStart : readProcessLifecycle probeStore.env probeStore.reader probeDocuments
      phase.processStartRecord = .ok startRecord := by
    rw [started]
    exact readRecord_probe startFile startRecord (by simp [probeStore]) (by simp [probeRecords])
  have readExit : readProcessLifecycle probeStore.env probeStore.reader probeDocuments
      phase.processExitRecord = .ok exitRecord := by
    rw [ended]
    exact readRecord_probe exitFile exitRecord (by simp [probeStore]) (by simp [probeRecords])
  have token : tokenOf (ProcStat.Stage0Verifier.procStartToken probeStatLine.toList
      ((11 : Nat) : Int)) = .ok (some "linux-proc-startticks:70000".toList) := by
    rw [startToken_probe]
    rfl
  refine Except.bind_eq_ok.mpr ⟨startRecord, readStart, ?_⟩
  refine Except.bind_eq_ok.mpr ⟨exitRecord, readExit, ?_⟩
  refine Except.bind_eq_ok.mpr ⟨_, token, ?_⟩
  refine Except.bind_eq_ok.mpr ⟨_, token, ?_⟩
  exact congrArg Except.ok (decide_eq_true ⟨rfl, rfl, rfl, rfl, rfl, identity, identity,
    by decide, rfl⟩)

/-- The execution of a phase of the probe is valid. -/
theorem validHotpatchExecution_probe {phase : HotpatchPhaseManifestV2} {directory : String}
    (request : phase.executionRequest = probeRequest directory)
    (metadata : phase.executionResult.metadata = probeMetadata) :
    validHotpatchExecution probeEvidence phase probeTarget = true := by
  refine decide_eq_true ?_
  rw [request, metadata]
  exact ⟨rfl, rfl, rfl, rfl, rfl, rfl, by decide, by decide, by decide, by decide⟩

/-- One file is verified by its hash. -/
theorem verifiedStateEntries_probe {file : ProbeFile} (stored : file ∈ probeStore.files)
    {path : List Char} (normalized : IsRelativePath path) :
    verifiedStateEntries probeStore.env probeStore.reader [⟨path, file.ref, normalized⟩] =
      .ok [(path, file.ref.sha256)] := by
  have read := ProbeStore.readFile_of_mem stored
  simp only [verifiedStateEntries, List.mapM_cons, List.mapM_nil, read]
  rfl

theorem readObservation_probe {phase : HotpatchPhaseManifestV2} (file : ProbeFile)
    (observation : HotpatchExecutionObservationV2) (output : phase.output = file.ref)
    (normalized : phase.normalizedOutput = normalizedFile.ref)
    (stored : file ∈ probeStore.files) (listed : (file, observation) ∈ probeObservations.entries)
    (hashed : observation.outputHash = normalizedFile.ref.sha256) :
    readHotpatchObservation probeStore.env probeStore.reader probeDocuments phase =
      .ok observation := by
  have read := ProbeStore.readFile_of_mem stored
  have readNormalized : readFile probeStore.env probeStore.reader normalizedFile.ref =
      .ok normalizedFile.bytes := ProbeStore.readFile_of_mem (by simp [probeStore])
  have known : parsed probeObservations file.bytes = .ok observation :=
    parsed_of_mem listed
  have accepted : validated probeDocuments.observation "hotpatch_output_invalid" file.bytes =
      .ok observation := by
    change validated (parsed probeObservations) _ _ = _
    rw [validated, known]
    rfl
  unfold readHotpatchObservation
  rw [output, normalized]
  refine Except.bind_eq_ok.mpr ⟨_, read, Except.bind_eq_ok.mpr ⟨_, accepted, ?_⟩⟩
  refine Except.bind_eq_ok.mpr ⟨_, readNormalized, ?_⟩
  exact Except.bind_eq_ok.mpr ⟨(), require_eq_ok.mpr hashed, rfl⟩

/-- The phases of the probe show a hot patch. -/
theorem classifyPhases_probe :
    classifyPhases probeStore.env probeStore.reader probeDocuments (.runtimeHotPatch probeFiles)
      artifactFile.bytes probeManifest baselineSource candidateSource baselinePhase candidatePhase
      recoveryPhase = .ok .hotPatch := by
  have entry : verifiedStateEntries probeStore.env probeStore.reader baselinePhase.entries =
      .ok [("kernel.py".toList, baselineEntryFile.ref.sha256)] :=
    verifiedStateEntries_probe (by simp [probeStore]) _
  have entry' : verifiedStateEntries probeStore.env probeStore.reader candidatePhase.entries =
      .ok [("kernel.py".toList, artifactFile.ref.sha256)] :=
    verifiedStateEntries_probe (by simp [probeStore]) _
  have observed : ∀ phase ∈ [baselinePhase, recoveryPhase], readHotpatchObservation
      probeStore.env probeStore.reader probeDocuments phase = .ok baselineObservation := by
    refine List.forall_mem_cons.mpr ⟨?_, List.forall_mem_singleton.mpr ?_⟩
    · exact readObservation_probe baselineOutputFile baselineObservation rfl rfl
        (by simp [probeStore]) (by simp [probeObservations]) rfl
    · exact readObservation_probe baselineOutputFile baselineObservation rfl rfl
        (by simp [probeStore]) (by simp [probeObservations]) rfl
  have observed' : readHotpatchObservation probeStore.env probeStore.reader probeDocuments
      candidatePhase = .ok candidateObservation :=
    readObservation_probe candidateOutputFile candidateObservation rfl rfl
      (by simp [probeStore]) (by simp [probeObservations]) rfl
  have output : readFile probeStore.env probeStore.reader normalizedFile.ref =
      .ok normalizedFile.bytes := ProbeStore.readFile_of_mem (by simp [probeStore])
  have cache : readFile probeStore.env probeStore.reader baselineCacheFile.ref =
      .ok baselineCacheFile.bytes := ProbeStore.readFile_of_mem (by simp [probeStore])
  have cache' : readFile probeStore.env probeStore.reader candidateCacheFile.ref =
      .ok candidateCacheFile.bytes := ProbeStore.readFile_of_mem (by simp [probeStore])
  have ownCache : candidateCacheFile.bytes ≠ baselineCacheFile.bytes := fun same =>
    absurd (ProbeFile.tag_eq same) (by decide +kernel)
  refine Except.bind_eq_ok.mpr ⟨_, entry, Except.bind_eq_ok.mpr ⟨_, entry', ?_⟩⟩
  refine Except.bind_eq_ok.mpr ⟨_, entry, Except.bind_eq_ok.mpr ⟨_, observed _ (by simp), ?_⟩⟩
  refine Except.bind_eq_ok.mpr ⟨_, observed', Except.bind_eq_ok.mpr ⟨_, observed _ (by simp), ?_⟩⟩
  refine Except.bind_eq_ok.mpr ⟨_, output, Except.bind_eq_ok.mpr ⟨_, output, ?_⟩⟩
  refine Except.bind_eq_ok.mpr ⟨_, output, Except.bind_eq_ok.mpr ⟨_, cache, ?_⟩⟩
  refine Except.bind_eq_ok.mpr ⟨_, cache', Except.bind_eq_ok.mpr ⟨_, cache, ?_⟩⟩
  rw [if_neg ?_]
  · exact congrArg Except.ok (by decide +kernel)
  · rw [not_not]
    exact ⟨by decide +kernel, rfl, rfl, rfl, rfl, rfl, rfl, rfl, rfl, rfl, rfl, by decide, rfl, rfl,
      rfl, List.mem_singleton_self _, List.mem_singleton_self _, List.mem_singleton_self _, rfl,
      rfl, rfl, by decide +kernel, rfl, rfl, rfl, rfl, rfl, ownCache, rfl, by decide, by decide,
      by decide⟩

/-- **The probe is a hot patch.** -/
theorem classifyHotpatch_probe :
    classifyHotpatch probeStore.env probeStore.reader probeDocuments probeEvidence probeTarget =
      .ok .hotPatch := by
  have baselineRead := readSource_probe baselineSourceFile baselineSource
    "hotpatch_baseline_source_invalid" (by simp [probeStore]) (by simp [probeSources])
  have candidateRead := readSource_probe candidateSourceFile candidateSource
    "hotpatch_candidate_source_invalid" (by simp [probeStore]) (by simp [probeSources])
  have manifest := readManifest_probe manifestFile probeManifest
    "hotpatch_artifact_manifest_invalid" (by simp [probeStore]) (by simp [probeManifests])
  have artifact : readFile probeStore.env probeStore.reader artifactFile.ref =
      .ok artifactFile.bytes := ProbeStore.readFile_of_mem (by simp [probeStore])
  have baseline := readPhase_probe baselineStateFile baselinePhase
    (by simp [probeStore]) (by simp [probePhases])
  have candidate := readPhase_probe candidateStateFile candidatePhase
    (by simp [probeStore]) (by simp [probePhases])
  have recovery := readPhase_probe recoveryStateFile recoveryPhase
    (by simp [probeStore]) (by simp [probePhases])
  have chain : validSourceAndArtifactChain probeStore.env baselineSource candidateSource
      probeManifest artifactFile.ref artifactFile.bytes probeTarget = .ok true := by
    have path : uriPath probeStore.env "file:///sglang".toList = .ok "/sglang".toList := by
      decide +kernel
    refine Except.bind_eq_ok.mpr ⟨_, path, congrArg Except.ok (decide_eq_true ?_)⟩
    exact ⟨rfl, rfl, rfl, rfl, rfl, rfl, rfl, rfl, rfl, rfl, by decide, by decide, by decide, rfl,
      Option.some_ne_none _, by decide, rfl, rfl, rfl, by decide +kernel⟩
  have phases : validPhases probeStore.env probeStore.reader probeDocuments probeEvidence
      probeTarget [baselinePhase, candidatePhase, recoveryPhase] 0 = .ok true := by
    have executed : ∀ (phase : HotpatchPhase) (snapshot : Uuid) (directory : String)
        (entry output cache : ProbeFile), ¬validHotpatchExecution probeEvidence
          (probePhase phase snapshot directory entry output cache) probeTarget = false := by
      intro phase snapshot directory entry output cache
      rw [Bool.not_eq_false]
      exact validHotpatchExecution_probe rfl rfl
    have verified : ∀ (phase : HotpatchPhase) (snapshot : Uuid) (directory : String)
        (entry output cache : ProbeFile), verifyHotpatchProcess probeStore.env probeStore.reader
          probeDocuments (probePhase phase snapshot directory entry output cache) 0 = .ok true :=
      fun _ _ _ _ _ _ => verifyHotpatchProcess_probe rfl rfl rfl
    rw [validPhases, baselinePhase, if_neg (executed _ _ _ _ _ _)]
    refine Except.bind_eq_ok.mpr ⟨true, verified .., ?_⟩
    rw [if_neg Bool.noConfusion, validPhases, candidatePhase, if_neg (executed _ _ _ _ _ _)]
    refine Except.bind_eq_ok.mpr ⟨true, verified .., ?_⟩
    rw [if_neg Bool.noConfusion, validPhases, recoveryPhase, if_neg (executed _ _ _ _ _ _)]
    refine Except.bind_eq_ok.mpr ⟨true, verified .., ?_⟩
    rfl
  unfold classifyHotpatch
  dsimp only [probeEvidence, Activation.files?, probeFiles]
  rw [baselineRead, candidateRead, manifest, artifact, baseline, candidate, recovery]
  refine Except.bind_eq_ok.mpr ⟨_, rfl, Except.bind_eq_ok.mpr ⟨_, rfl, ?_⟩⟩
  refine Except.bind_eq_ok.mpr ⟨_, rfl, Except.bind_eq_ok.mpr ⟨_, rfl, ?_⟩⟩
  refine Except.bind_eq_ok.mpr ⟨_, rfl, Except.bind_eq_ok.mpr ⟨_, rfl, ?_⟩⟩
  refine Except.bind_eq_ok.mpr ⟨_, rfl, ?_⟩
  rw [if_neg (by decide)]
  refine Except.bind_eq_ok.mpr ⟨true, chain, ?_⟩
  rw [if_neg Bool.noConfusion]
  refine Except.bind_eq_ok.mpr ⟨true, phases, ?_⟩
  rw [if_neg Bool.noConfusion]
  exact classifyPhases_probe

theorem classification_sound_probe :
    ∃ files artifactManifest artifact baseline candidate recovery,
      Supported probeStore.env probeStore.reader probeDocuments probeEvidence .hotPatch files
        artifactManifest artifact baseline candidate recovery ∧
      candidate.manifest.executionRequest ≠ baseline.manifest.executionRequest ∧
      candidate.manifest.executionRequest ≠ recovery.manifest.executionRequest :=
  classification_sound classifyHotpatch_probe (by decide)

end Hotpatch

end HcuAutoOpt
