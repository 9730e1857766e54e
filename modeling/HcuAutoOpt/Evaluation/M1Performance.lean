import HcuAutoOpt.Domain.Enums
import HcuAutoOpt.Foundation.CheckedFolds
import HcuAutoOpt.Foundation.SampleQuantiles

/-!
# The performance verdict of one candidate

`M1PerformanceVerifier` reads the device events of a measurement again, turns ticks into
nanoseconds and groups the acquisitions into restarts of the order baseline, candidate, candidate,
baseline. Each restart has an effect, the share of the baseline time that the candidate saves. The
verdict compares a bootstrap interval of the mean effect with what can be detected: the bound of
Stage 0 and one that is computed from the baselines of this measurement.

Numbers are of an ordered field with exact arithmetic. What the checks of documents and bindings
find is part of the surroundings; they only raise.
-/

set_option autoImplicit false

namespace HcuAutoOpt

namespace M1

open Foundation

/-! ## Evidence -/

/-- `M1Arm`. -/
inductive Arm where
  | baseline | candidate
  deriving DecidableEq, Repr

/-- `M1DeviceEventRecord`: the fields that the verdict reads, the identity of the timer, and the
other fields. -/
structure DeviceEvent where
  startedDeviceTicks : Nat
  finishedDeviceTicks : Nat
  batchIterations : Nat
  timerIdentity : List String
  others : List String
  deriving DecidableEq, Repr

/-- `M1RawSample`: an event and the reference of its record. -/
structure RawSample where
  event : DeviceEvent
  uri : String
  sha256 : String
  deriving DecidableEq, Repr

/-- `M1AcquisitionEvidence`: what the verdict reads. -/
structure Acquisition where
  acquisitionOrdinal : Nat
  arm : Arm
  processId : Nat
  processStartToken : String
  samples : List RawSample
  deriving DecidableEq, Repr

/-- `M1MeasurementEvidence`: what the verdict reads, and the fields that it passes on. -/
structure MeasurementEvidence (A : Type) where
  acquisitions : List Acquisition
  producerIdentities : List (List String)
  evidenceHash : String
  processRestartCount : Nat
  audit : A

/-- `M1EvidenceError` with its code, and the other exceptions. -/
inductive VerifierError where
  | evidence (code message : String)
  | validation
  | valueError (message : String)
  | statisticsError
  | indexError
  deriving DecidableEq, Repr

variable {K : Type} [Field K] [LinearOrder K] {A : Type}

/-- `M1RestartSamples`, with its constraints. -/
structure RestartSamples (K : Type) [Field K] [LinearOrder K] where
  restartOrdinal : Nat
  baselineNs : List K
  candidateNs : List K
  baselineCount : 1 ≤ baselineNs.length ∧ baselineNs.length ≤ 1000000
  sameCount : baselineNs.length = candidateNs.length
  positive : ∀ value ∈ baselineNs ++ candidateNs, 0 < value

/-- `M1Stage0Authority`: the numbers of the Stage 0 report. -/
structure Stage0Authority (K : Type) where
  mdeRatio : K
  alpha : K
  power : K
  bootstrapResamples : Nat

/-- The constraints of `_VerifiedPerformanceInput` and its validator. -/
structure InputValid (authority : Stage0Authority K) (restarts : List (RestartSamples K))
    (processRestartCount : Nat) (processIdentities cacheNamespaces : List String) : Prop where
  mdeRatio : 0 < authority.mdeRatio ∧ authority.mdeRatio < 1
  alpha : 0 < authority.alpha ∧ authority.alpha < 1
  power : 1 / 2 < authority.power ∧ authority.power < 1
  resamples : 1000 ≤ authority.bootstrapResamples
  restartCount : 2 ≤ restarts.length ∧ restarts.length ≤ 1000
  processCount : 4 ≤ processRestartCount
  ordinals : restarts.map RestartSamples.restartOrdinal = List.range restarts.length
  identities : processIdentities.length = processRestartCount ∧ processIdentities.Nodup
  namespaces : cacheNamespaces.length = processRestartCount ∧ cacheNamespaces.Nodup

instance instDecidableInputValid (authority : Stage0Authority K)
    (restarts : List (RestartSamples K)) (processRestartCount : Nat)
    (processIdentities cacheNamespaces : List String) : Decidable (InputValid authority restarts
      processRestartCount processIdentities cacheNamespaces) :=
  decidable_of_iff
    ((0 < authority.mdeRatio ∧ authority.mdeRatio < 1) ∧
      (0 < authority.alpha ∧ authority.alpha < 1) ∧
      (1 / 2 < authority.power ∧ authority.power < 1) ∧ 1000 ≤ authority.bootstrapResamples ∧
      (2 ≤ restarts.length ∧ restarts.length ≤ 1000) ∧ 4 ≤ processRestartCount ∧
      restarts.map RestartSamples.restartOrdinal = List.range restarts.length ∧
      (processIdentities.length = processRestartCount ∧ processIdentities.Nodup) ∧
      (cacheNamespaces.length = processRestartCount ∧ cacheNamespaces.Nodup))
    ⟨fun ⟨a, b, c, d, e, f, g, h, i⟩ => ⟨a, b, c, d, e, f, g, h, i⟩,
      fun ⟨a, b, c, d, e, f, g, h, i⟩ => ⟨a, b, c, d, e, f, g, h, i⟩⟩

/-- `_VerifiedPerformanceInput`, with its constraints. -/
structure VerifiedInput (K A : Type) [Field K] [LinearOrder K] where
  evidenceHash : String
  authority : Stage0Authority K
  restarts : List (RestartSamples K)
  processRestartCount : Nat
  processIdentities : List String
  cacheNamespaces : List String
  cleanupHealthy : Bool
  bindingsValid : Bool
  audit : A
  valid : InputValid authority restarts processRestartCount processIdentities cacheNamespaces

/-- The surroundings of the verifier. -/
structure VerifierEnv (K A : Type) where
  /-- The checks before the acquisitions are read: the bindings, the lease, the Stage 0 report,
  the calibration and the cleanup. They find the Stage 0 authority and the slope of the timer. -/
  authority : MeasurementEvidence A → Except VerifierError (Stage0Authority K × K)
  /-- The checks of the process, the cache, the import and the device of an acquisition, with the
  hash of the cache namespace. -/
  acquisition : MeasurementEvidence A → Acquisition → Except VerifierError String
  /-- The event record behind a reference. -/
  readEvent : (uri sha256 : String) → Except VerifierError DeviceEvent
  /-- `NormalDist().inv_cdf`. -/
  invCdf : K → K
  /-- `math.sqrt`. -/
  sqrt : K → K
  /-- The index lists of the bootstrap. -/
  draws : (evidenceHash : String) → (count iterations : Nat) → List (List Nat)

/-! ## Reading the evidence -/

/-- The time of an event for each iteration. -/
def elapsedNs (nsPerTick : K) (event : DeviceEvent) : K :=
  ((event.finishedDeviceTicks : K) - event.startedDeviceTicks) * nsPerTick / event.batchIterations

/-- One turn of the loop over the samples of an acquisition. -/
def readSample (env : VerifierEnv K A) (evidence : MeasurementEvidence A) (nsPerTick : K)
    (sample : RawSample) : Except VerifierError K := do
  let rawEvent ← env.readEvent sample.uri sample.sha256
  require (rawEvent = sample.event) (.evidence "performance_event_binding_mismatch"
    "raw device Event differs from the main evidence reference")
  require (rawEvent.timerIdentity ∈ evidence.producerIdentities)
    (.evidence "performance_event_provenance_mismatch"
      "raw device Event was produced by another Adapter")
  require (0 < elapsedNs nsPerTick rawEvent) (.evidence "performance_event_invalid"
    "raw device Event produced a non-positive elapsed interval")
  return elapsedNs nsPerTick rawEvent

/-- What is read of an acquisition. -/
structure ReadAcquisition (K : Type) where
  arm : Arm
  samplesNs : List K
  processIdentity : String
  cacheNamespace : String

/-- One turn of the loop over the acquisitions. -/
def readAcquisition (env : VerifierEnv K A) (evidence : MeasurementEvidence A) (nsPerTick : K)
    (item : Acquisition) : Except VerifierError (ReadAcquisition K) := do
  let cacheNamespace ← env.acquisition evidence item
  let samplesNs ← item.samples.mapM (readSample env evidence nsPerTick)
  return ⟨item.arm, samplesNs, s!"{item.processId}:{item.processStartToken}", cacheNamespace⟩

/-- The construction of a `M1RestartSamples`. -/
def restartSamples (restartOrdinal : Nat) (baselineNs candidateNs : List K) :
    Except VerifierError (RestartSamples K) :=
  if valid : (1 ≤ baselineNs.length ∧ baselineNs.length ≤ 1000000) ∧
      baselineNs.length = candidateNs.length ∧ ∀ value ∈ baselineNs ++ candidateNs, 0 < value then
    .ok ⟨restartOrdinal, baselineNs, candidateNs, valid.1, valid.2.1, valid.2.2⟩
  else .error .validation

/-- The loop over the groups of four acquisitions, from a restart on. -/
def groupRestarts : Nat → List (ReadAcquisition K) → Except VerifierError (List (RestartSamples K))
  | _, [] => return []
  | restartOrdinal, a :: b :: c :: d :: rest => do
      require ([a.arm, b.arm, c.arm, d.arm] = [.baseline, .candidate, .candidate, .baseline])
        (.evidence "performance_abba_order_mismatch"
          "performance acquisitions do not form complete ABBA groups")
      let restart ← restartSamples restartOrdinal (a.samplesNs ++ d.samplesNs)
        (b.samplesNs ++ c.samplesNs)
      let restarts ← groupRestarts (restartOrdinal + 1) rest
      return restart :: restarts
  | _, _ => .error (.evidence "performance_abba_order_mismatch"
      "performance acquisitions do not form complete ABBA groups")

/-- `M1PerformanceVerifier._verify_evidence`. -/
def verifyEvidence (env : VerifierEnv K A) (evidence : MeasurementEvidence A) :
    Except VerifierError (VerifiedInput K A) := do
  let (authority, nsPerTick) ← env.authority evidence
  let read ← evidence.acquisitions.mapM (readAcquisition env evidence nsPerTick)
  let restarts ← groupRestarts 0 read
  let processIdentities := read.map ReadAcquisition.processIdentity
  let cacheNamespaces := read.map ReadAcquisition.cacheNamespace
  if valid : InputValid authority restarts evidence.processRestartCount processIdentities
      cacheNamespaces then
    return ⟨evidence.evidenceHash, authority, restarts, evidence.processRestartCount,
      processIdentities, cacheNamespaces, true, true, evidence.audit, valid⟩
  else .error .validation

/-! ## The verdict -/

section Verdict

variable [FloorRing K]

/-- The effect of a restart. -/
def restartEffect (restart : RestartSamples K) : K :=
  (sampleMean restart.baselineNs - sampleMean restart.candidateNs) / sampleMean restart.baselineNs

/-- `_percentile`. -/
def percentileOf (values : List K) (probability : K) : Option K :=
  quantileAt values (probability * (values.length - 1))

/-- The sorted means of the resamples. -/
def bootstrapEstimates (env : VerifierEnv K A) (values : List K) (evidenceHash : String)
    (iterations : Nat) : Option (List K) :=
  ((env.draws evidenceHash values.length iterations).mapM fun (draw : List Nat) =>
    (draw.mapM fun index => values[index]?).map sampleMean).map fun means =>
      means.insertionSort (· ≤ ·)

/-- `_bootstrap_mean_ci`. -/
def bootstrapMeanCi (env : VerifierEnv K A) (values : List K) (evidenceHash : String)
    (iterations : Nat) (confidence : K) : Except VerifierError (K × K) := do
  require (2 ≤ values.length) (.valueError "bootstrap requires at least two restart effects")
  let estimates ← requireSome (bootstrapEstimates env values evidenceHash iterations) .indexError
  let tail := (1 - confidence) / 2
  let lower ← requireSome (percentileOf estimates tail) .indexError
  let upper ← requireSome (percentileOf estimates (1 - tail)) .indexError
  return (lower, upper)

/-- `statistics.stdev`. -/
def stdev (env : VerifierEnv K A) (values : List K) : Except VerifierError K := do
  require (2 ≤ values.length) .statisticsError
  return env.sqrt ((values.map fun value => (value - sampleMean values) ^ 2).sum /
    ((values.length : K) - 1))

/-- `_workload_baseline_mde`. -/
def workloadBaselineMde (env : VerifierEnv K A) (restarts : List (RestartSamples K))
    (alpha power : K) : Except VerifierError K := do
  let baselineMeans := restarts.map fun restart => sampleMean restart.baselineNs
  let overallMean := sampleMean baselineMeans
  let sigma ← stdev env baselineMeans
  let mde := (env.invCdf (1 - alpha / 2) + env.invCdf power) * sigma *
    env.sqrt (2 / (baselineMeans.length : K)) / overallMean
  require (0 ≤ mde) (.evidence "performance_workload_mde_invalid"
    "current workload Baseline restarts produced an invalid MDE")
  return mde

/-- `M1PerformanceVerificationResult`, with the fields that are passed on. -/
structure VerificationResult (K A : Type) where
  verdict : ManualCandidateVerdict
  effectRatio : Option K
  confidenceInterval : Option (K × K)
  stage0MdeRatio : K
  workloadMdeRatio : K
  credibleThreshold : K
  restartEffects : List K
  failureCodes : List String
  reasons : List String
  rawEvidenceHash : String
  processIdentities : List String
  cacheNamespaces : List String
  audit : A

/-- `_invalid_performance`. -/
def invalidPerformance (env : VerifierEnv K A) (evidence : VerifiedInput K A)
    (code reason : String) : Except VerifierError (VerificationResult K A) := do
  let workloadMde ← workloadBaselineMde env evidence.restarts evidence.authority.alpha
    evidence.authority.power
  return ⟨.invalid, none, none, evidence.authority.mdeRatio, workloadMde,
    max evidence.authority.mdeRatio workloadMde, [], [code], [reason], evidence.evidenceHash,
    evidence.processIdentities, evidence.cacheNamespaces, evidence.audit⟩

/-- The verdict of an interval at a threshold. -/
def verdictAt (lower upper threshold : K) : ManualCandidateVerdict :=
  if threshold < lower then .faster
  else if upper < -threshold then .slower
  else .inconclusive

/-- The reason of a verdict. -/
def reasonOf (verdict : ManualCandidateVerdict) : String :=
  if verdict = .faster ∨ verdict = .slower then
    "effect confidence interval exceeds the conservative detectability threshold"
  else "effect is not distinguishable from the conservative detectability threshold"

/-- `_adjudicate_verified_performance`, with the verdict on the correctness. -/
def adjudicateVerifiedPerformance (env : VerifierEnv K A) (correctness : String)
    (evidence : VerifiedInput K A) : Except VerifierError (VerificationResult K A) :=
  if correctness ≠ "correct" then
    invalidPerformance env evidence "correctness_not_established"
      "performance cannot be judged unless correctness is correct"
  else if !evidence.cleanupHealthy || !evidence.bindingsValid then
    invalidPerformance env evidence "performance_evidence_invalid"
      "performance bindings and cleanup must be valid"
  else do
    let effects := evidence.restarts.map restartEffect
    let (lower, upper) ← bootstrapMeanCi env effects evidence.evidenceHash
      evidence.authority.bootstrapResamples (1 - evidence.authority.alpha)
    let workloadMde ← workloadBaselineMde env evidence.restarts evidence.authority.alpha
      evidence.authority.power
    let threshold := max evidence.authority.mdeRatio workloadMde
    let verdict := verdictAt lower upper threshold
    return ⟨verdict, some (sampleMean effects), some (lower, upper), evidence.authority.mdeRatio,
      workloadMde, threshold, effects, [], [reasonOf verdict], evidence.evidenceHash,
      evidence.processIdentities, evidence.cacheNamespaces, evidence.audit⟩

end Verdict

/-! ## Groups of acquisitions -/

section Groups

/-- The durations of an acquisition. -/
def durations (nsPerTick : K) (item : Acquisition) : List K :=
  item.samples.map fun sample => elapsedNs nsPerTick sample.event

/-- Four acquisitions, one after the other. -/
structure AbbaGroup where
  first : Acquisition
  second : Acquisition
  third : Acquisition
  fourth : Acquisition

/-- The acquisitions of a group in order. -/
def AbbaGroup.acquisitions (group : AbbaGroup) : List Acquisition :=
  [group.first, group.second, group.third, group.fourth]

/-- A restart has the samples of a group: of its outer acquisitions as baseline, of its inner ones
as candidate. -/
structure AbbaGroup.Makes (nsPerTick : K) (group : AbbaGroup) (restart : RestartSamples K) :
    Prop where
  arms : group.acquisitions.map Acquisition.arm = [.baseline, .candidate, .candidate, .baseline]
  baseline : restart.baselineNs =
    durations nsPerTick group.first ++ durations nsPerTick group.fourth
  candidate : restart.candidateNs =
    durations nsPerTick group.second ++ durations nsPerTick group.third

/-- The restarts are the acquisitions in order, in groups. -/
def Grouped (nsPerTick : K) (acquisitions : List Acquisition)
    (restarts : List (RestartSamples K)) : Prop :=
  ∃ groups : List AbbaGroup, acquisitions = groups.flatMap AbbaGroup.acquisitions ∧
    List.Forall₂ (AbbaGroup.Makes nsPerTick) groups restarts

variable {env : VerifierEnv K A} {evidence : MeasurementEvidence A} {nsPerTick : K}

theorem readSample_eq_ok {sample : RawSample} {value : K}
    (read : readSample env evidence nsPerTick sample = .ok value) :
    value = elapsedNs nsPerTick sample.event := by
  simp only [readSample, Except.bind_eq_ok, require_eq_ok] at read
  obtain ⟨rawEvent, -, -, rfl, -, -, -, -, same⟩ := read
  cases same
  rfl

theorem readAcquisition_eq_ok {item : Acquisition} {read : ReadAcquisition K}
    (ok : readAcquisition env evidence nsPerTick item = .ok read) :
    read.arm = item.arm ∧ read.samplesNs = durations nsPerTick item := by
  obtain ⟨cacheNamespace, -, ok⟩ := Except.bind_eq_ok.mp ok
  obtain ⟨samplesNs, samples, same⟩ := Except.bind_eq_ok.mp ok
  cases same
  refine ⟨rfl, ?_⟩
  have values : List.Forall₂ (fun value sample => value = elapsedNs nsPerTick sample.event)
      samplesNs item.samples := ((mapM_ok_iff.mp samples).imp fun _ _ => readSample_eq_ok).flip
  have same := List.forall₂_map_right_iff.mpr values
  rw [List.forall₂_eq_eq_eq] at same
  exact same

theorem restartSamples_eq_ok {restartOrdinal : Nat} {baselineNs candidateNs : List K}
    {restart : RestartSamples K}
    (made : restartSamples restartOrdinal baselineNs candidateNs = .ok restart) :
    restart.baselineNs = baselineNs ∧ restart.candidateNs = candidateNs := by
  unfold restartSamples at made
  split at made
  · cases made
    exact ⟨rfl, rfl⟩
  · cases made

/-- **The loop over the groups.** -/
theorem groupRestarts_eq_ok {read : List (ReadAcquisition K)} {acquisitions : List Acquisition}
    {restarts : List (RestartSamples K)} {restartOrdinal : Nat}
    (related : List.Forall₂ (fun item read => read.arm = item.arm ∧
      read.samplesNs = durations nsPerTick item) acquisitions read)
    (grouped : groupRestarts restartOrdinal read = .ok restarts) :
    Grouped nsPerTick acquisitions restarts := by
  induction restartOrdinal, read using groupRestarts.induct generalizing acquisitions restarts with
  | case1 =>
      rw [groupRestarts] at grouped
      cases grouped
      cases related
      exact ⟨[], rfl, .nil⟩
  | case2 restartOrdinal a b c d rest ih =>
      obtain ⟨first, rest₁, ⟨armA, samplesA⟩, related₁, rfl⟩ :=
        List.forall₂_cons_right_iff.mp related
      obtain ⟨second, rest₂, ⟨armB, samplesB⟩, related₂, rfl⟩ :=
        List.forall₂_cons_right_iff.mp related₁
      obtain ⟨third, rest₃, ⟨armC, samplesC⟩, related₃, rfl⟩ :=
        List.forall₂_cons_right_iff.mp related₂
      obtain ⟨fourth, items, ⟨armD, samplesD⟩, onRest, rfl⟩ :=
        List.forall₂_cons_right_iff.mp related₃
      rw [groupRestarts] at grouped
      obtain ⟨_, arms, inGroup⟩ := Except.bind_eq_ok.mp grouped
      obtain ⟨restart, made, toRest⟩ := Except.bind_eq_ok.mp inGroup
      obtain ⟨others, onward, same⟩ := Except.bind_eq_ok.mp toRest
      cases same
      obtain ⟨groups, rfl, makes⟩ := ih onRest onward
      obtain ⟨baseline, candidate⟩ := restartSamples_eq_ok made
      rw [require_eq_ok, armA, armB, armC, armD] at arms
      rw [samplesA, samplesD] at baseline
      rw [samplesB, samplesC] at candidate
      exact ⟨⟨first, second, third, fourth⟩ :: groups, rfl,
        .cons ⟨arms, baseline, candidate⟩ makes⟩
  | case3 restartOrdinal read notNil notFour =>
      rw [groupRestarts] at grouped
      · cases grouped
      · exact notNil
      · exact notFour

end Groups

/-! ## Its parts in exact arithmetic -/

section Exactly

variable [FloorRing K]

/-- The sorted means of the resamples. -/
def estimatesOf (env : VerifierEnv K A) (values : List K) (evidenceHash : String)
    (iterations : Nat) : List K :=
  ((env.draws evidenceHash values.length iterations).map fun draw =>
    sampleMean (resample values draw)).insertionSort (· ≤ ·)

/-- The interval between two percentiles of the estimates. -/
def intervalOf (env : VerifierEnv K A) (values : List K) (evidenceHash : String)
    (iterations : Nat) (confidence : K) : K × K :=
  let estimates := estimatesOf env values evidenceHash iterations
  let tail := (1 - confidence) / 2
  (lineValue estimates (tail * (estimates.length - 1)),
    lineValue estimates ((1 - tail) * (estimates.length - 1)))

/-- The means of the baselines. -/
def baselineMeans (restarts : List (RestartSamples K)) : List K :=
  restarts.map fun restart => sampleMean restart.baselineNs

/-- What can be detected with the baselines. -/
def mdeOf (env : VerifierEnv K A) (restarts : List (RestartSamples K)) (alpha power : K) : K :=
  (env.invCdf (1 - alpha / 2) + env.invCdf power) *
      env.sqrt (sampleVariance (baselineMeans restarts)) *
      env.sqrt (2 / ((baselineMeans restarts).length : K)) /
    sampleMean (baselineMeans restarts)

end Exactly

end M1

end HcuAutoOpt
