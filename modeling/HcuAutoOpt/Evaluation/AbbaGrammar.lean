import HcuAutoOpt.Evaluation.AbbaEffect

/-!
# The grammar of ABBA files

A file of raw samples is acquired along a plan when each sample stands at its position, for its
restart and segment (`AcquiredFile`). `normalize_device_samples` followed by
`compute_abba_effect` accepts exactly these files (`abba_grammar`). The effect they have is the
mean over the restarts of the relative difference of the arms; it does not depend on the unit of
the durations nor on their order within a segment, and no sample is left out.
-/

set_option autoImplicit false

namespace HcuAutoOpt

namespace Stage0

open Foundation

open M2Statistics (fmean)

/-! ## Files along a plan -/

/-- A raw sample that is acquired at a position, for a segment of a restart. -/
structure AcquiredAs (source : Json.Object) (position : Nat) (restart : Int)
    (segment : Segment) : Prop where
  restartAt : source.get? "restart_ordinal" = some (.int restart)
  restartBound : 0 ≤ restart ∧ restart ≤ maxOrdinal
  acquisition : source.get? "acquisition_ordinal" = some (.int position)
  acquisitionBound : (position : Int) ≤ maxOrdinal
  interval : ∃ started finished iterations : Int,
    source.get? "started_device_ticks" = some (.int started) ∧
    source.get? "finished_device_ticks" = some (.int finished) ∧
    source.get? "batch_iterations" = some (.int iterations) ∧
    (0 ≤ started ∧ started < finished ∧ finished ≤ uint64Max) ∧
    (1 ≤ iterations ∧ iterations ≤ maxOrdinal)
  labels : LabelledAs source (some (segment.arm, segment))

/-- A file that is acquired along a plan: restarts `0, …, count - 1`, each with the segments A1,
B1, B2 and A2 of one positive size. -/
structure AcquiredFile (count : Nat) (size : Nat → Nat) (samples : List Json) : Prop where
  restarts : 2 ≤ count
  filled : ∀ restart < count, 1 ≤ size restart
  acquired : List.Forall₂ (fun entry label => ∃ source, entry.1 = .obj source ∧
    AcquiredAs source entry.2 label.1 label.2) samples.zipIdx (abbaPlan count size)

/-- The raw samples and the normalized samples they stand for, item by item. -/
def MeasuredAs (scale : Rat) (samples : List Json) (normalized : List NormalizedSample) : Prop :=
  List.Forall₂ (fun entry result => ∃ source, entry.1 = .obj source ∧
    Measures scale source entry.2 result) samples.zipIdx normalized

theorem AcquiredAs.measures (scale : Rat) {source : Json.Object} {position : Nat} {restart : Int}
    {segment : Segment} (acquired : AcquiredAs source position restart segment) :
    ∃ normalized, Measures scale source position normalized ∧
      label normalized = planned (restart, segment) := by
  obtain ⟨started, finished, iterations, startedAt, finishedAt, iterationsAt, ticks, some_⟩ :=
    acquired.interval
  exact ⟨{ restartOrdinal := restart
           acquisitionOrdinal := position
           sampleNs := (finished - started : Int) * scale / iterations
           arm := some segment.arm
           segment := some segment },
    ⟨acquired.restartAt, acquired.restartBound, acquired.acquisition, acquired.acquisitionBound,
      rfl, ⟨started, finished, iterations, startedAt, finishedAt, iterationsAt, ticks, some_, rfl⟩,
      ⟨_, acquired.labels, rfl, rfl⟩, rfl⟩, rfl⟩

theorem Measures.acquiredAs {scale : Rat} {source : Json.Object} {position : Nat}
    {normalized : NormalizedSample} (measures : Measures scale source position normalized)
    {entry : Int × Segment} (same : label normalized = planned entry) :
    AcquiredAs source position entry.1 entry.2 := by
  have restart : normalized.restartOrdinal = entry.1 := congrArg Prod.fst same
  have segment : normalized.segment = some entry.2 := congrArg (fun l => l.2.2) same
  have arm : normalized.arm = some entry.2.arm := congrArg (fun l => l.2.1) same
  obtain ⟨started, finished, iterations, startedAt, finishedAt, iterationsAt, ticks, some_, -⟩ :=
    measures.interval
  obtain ⟨labels, labelled, arm', segment'⟩ := measures.labels
  have known : labels = some (entry.2.arm, entry.2) := by
    cases labels with
    | none =>
        rw [segment] at segment'
        cases segment'
    | some labels =>
        rw [segment] at segment'
        rw [arm] at arm'
        exact congrArg some (Prod.ext (Option.some.inj arm').symm (Option.some.inj segment').symm)
  rw [known] at labelled
  exact ⟨restart ▸ measures.restart, restart ▸ measures.restartBound, measures.acquisition,
    measures.acquisitionBound, ⟨started, finished, iterations, startedAt, finishedAt,
      iterationsAt, ticks, some_⟩, labelled⟩

section Files

variable {scale : Rat} {samples : List Json} {normalized : List NormalizedSample}
  {count : Nat} {size : Nat → Nat}

/-- Measured samples stand in the order of their ordinals. -/
theorem MeasuredAs.order (measured : MeasuredAs scale samples normalized) :
    normalized.map NormalizedSample.acquisitionOrdinal =
      (List.range normalized.length).map Int.ofNat := by
  have lengths := measured.length_eq
  refine List.ext_getElem (by simp) fun index inside _ => ?_
  have inside : index < normalized.length := by simpa using inside
  have here := measured.get (i := index) (by omega) inside
  obtain ⟨source, -, measures⟩ := here
  simpa using measures.ordinal

/-- Measured samples are not marked. -/
theorem MeasuredAs.unmarked (measured : MeasuredAs scale samples normalized) :
    normalized.map (fun sample => { sample with outlier := false }) = normalized := by
  conv_rhs => rw [← List.map_id normalized]
  refine List.map_congr_left fun sample present => ?_
  obtain ⟨_, _, _, -, measures⟩ := exists_of_forall₂ measured present
  cases sample
  simp [← measures.unmarked]

theorem MeasuredAs.pos (positive : 0 < scale) (measured : MeasuredAs scale samples normalized) :
    ∀ sample ∈ normalized, 0 < sample.sampleNs := by
  intro sample present
  obtain ⟨_, _, _, -, measures⟩ := exists_of_forall₂ measured present
  exact measures.pos positive

/-- A file is along a plan when the samples it stands for are. -/
theorem acquiredFile_iff (positive : 0 < scale) :
    AcquiredFile count size samples ↔
      ∃ normalized, MeasuredAs scale samples normalized ∧ AlongPlan count size normalized := by
  constructor
  · intro file
    obtain ⟨normalized, measured, labels⟩ := forall₂_split (R := fun entry result =>
        ∃ source, entry.1 = .obj source ∧ Measures scale source entry.2 result)
      (g := label) (h := planned) (fun entry plan ⟨source, object, acquired⟩ => by
        obtain ⟨result, measures, same⟩ := acquired.measures scale
        exact ⟨result, ⟨source, object, measures⟩, same⟩) file.acquired
    have measured : MeasuredAs scale samples normalized := measured
    exact ⟨normalized, measured, file.restarts, file.filled, measured.order, labels,
      measured.pos positive⟩
  · rintro ⟨normalized, measured, along⟩
    refine ⟨along.restarts, along.filled, ?_⟩
    exact forall₂_join (fun entry result plan ⟨source, object, measures⟩ same =>
      ⟨source, object, measures.acquiredAs same⟩) measured along.labels

/-- The samples that a file along a plan is normalized to. -/
theorem normalize_of_alongPlan (positive : 0 < scale)
    (measured : MeasuredAs scale samples normalized) (along : AlongPlan count size normalized) :
    normalizeDeviceSamples scale samples = .ok normalized := by
  refine normalizeDeviceSamples_eq_ok.mpr ⟨positive, ?_, measured, ?_, count, along.restartsUpTo⟩
  · rintro rfl
    exact along.ne_nil (List.forall₂_nil_left_iff.mp measured)
  · rw [along.ordinals]
    exact abbaPlan_sorted count size

end Files

/-! ## What the effect does not depend on -/

/-- A sample with its duration in another unit. -/
def scaled (factor : Rat) (sample : NormalizedSample) : NormalizedSample :=
  { sample with sampleNs := factor * sample.sampleNs }

/-- A sample without its duration. -/
def frame (sample : NormalizedSample) : NormalizedSample := { sample with sampleNs := 0 }

/-- The durations of each segment are permuted; everything else stays. -/
structure Rearranged (samples samples' : List NormalizedSample) : Prop where
  frames : samples'.map frame = samples.map frame
  durations : ∀ restart segment,
    (segmentDurations samples' restart segment).Perm (segmentDurations samples restart segment)

section Invariance

variable {count : Nat} {size : Nat → Nat} {samples samples' : List NormalizedSample}

/-- Samples with the frames of samples along a plan are along the plan, too. -/
theorem AlongPlan.of_frames (along : AlongPlan count size samples)
    (frames : samples'.map frame = samples.map frame)
    (positive : ∀ sample ∈ samples', 0 < sample.sampleNs) : AlongPlan count size samples' := by
  have length : samples'.length = samples.length := by simpa using congrArg List.length frames
  refine ⟨along.restarts, along.filled, ?_, ?_, positive⟩
  · have ordinals := congrArg (List.map NormalizedSample.acquisitionOrdinal) frames
    rw [List.map_map, List.map_map] at ordinals
    rw [length, ← along.order]
    exact ordinals
  · have labels := congrArg (List.map label) frames
    rw [List.map_map, List.map_map] at labels
    rw [← along.labels]
    exact labels

theorem AlongPlan.scaled (along : AlongPlan count size samples) {factor : Rat}
    (positive : 0 < factor) : AlongPlan count size (samples.map (scaled factor)) := by
  refine along.of_frames ?_ ?_
  · rw [List.map_map]
    rfl
  · intro sample present
    obtain ⟨original, inside, rfl⟩ := List.mem_map.mp present
    exact mul_pos positive (along.positive original inside)

/-- The durations of an arm are scaled. -/
theorem armDurations_scaled (factor : Rat) (samples : List NormalizedSample) (restart : Nat)
    (arm : Arm) : armDurations (samples.map (Stage0.scaled factor)) restart arm =
      (armDurations samples restart arm).map (factor * ·) := by
  simp only [armDurations, group, List.filter_map, List.map_map]
  rfl

theorem restartEffect_scaled {factor : Rat} (positive : 0 < factor)
    (samples : List NormalizedSample) (restart : Nat) :
    restartEffect (samples.map (Stage0.scaled factor)) restart = restartEffect samples restart := by
  simp only [restartEffect, armDurations_scaled, fmean_scaled, ← mul_sub]
  exact mul_div_mul_left _ _ positive.ne'

/-- The durations of an arm are those of its two segments. -/
theorem AlongPlan.armDurations_perm (along : AlongPlan count size samples) (restart : Nat)
    {arm : Arm} {first second : Segment} (distinct : first ≠ second)
    (belongs : ∀ segment ∈ abbaSegments, segment.arm = arm ↔ segment = first ∨ segment = second) :
    (armDurations samples restart arm).Perm
      (segmentDurations samples restart first ++ segmentDurations samples restart second) := by
  have labelled : Labelled (group NormalizedSample.restartOrdinal samples (restart : Int)) :=
    fun sample there => along.labelled sample (mem_group.mp there).1
  have durations := (armSamples_perm labelled distinct belongs).map NormalizedSample.sampleNs
  rwa [List.map_append] at durations

theorem Rearranged.alongPlan (rearranged : Rearranged samples samples')
    (along : AlongPlan count size samples) : AlongPlan count size samples' := by
  refine along.of_frames rearranged.frames fun sample present => ?_
  -- the duration of a sample is one of its segment in the other list
  obtain ⟨other, present', same⟩ := List.mem_map.mp
    (rearranged.frames ▸ List.mem_map_of_mem (f := frame) present)
  obtain ⟨segment, -, named, -⟩ := along.labelled other present'
  have segments : sample.segment = other.segment :=
    (congrArg NormalizedSample.segment same).symm
  have restarts : sample.restartOrdinal = other.restartOrdinal :=
    (congrArg NormalizedSample.restartOrdinal same).symm
  obtain ⟨nonneg, -⟩ := (along.restartsUpTo _).mp (List.mem_map_of_mem present')
  obtain ⟨restart, ordinal⟩ := Int.eq_ofNat_of_zero_le nonneg
  have there : sample.sampleNs ∈ segmentDurations samples' restart segment := by
    refine List.mem_map_of_mem (List.mem_filter.mpr ⟨mem_group.mpr ⟨present, ?_⟩, ?_⟩)
    · rw [restarts, ordinal]
    · simp [segments, named]
  obtain ⟨source, inside, same⟩ := List.mem_map.mp
    ((rearranged.durations restart segment).mem_iff.mp there)
  rw [← same]
  exact along.positive source (mem_group.mp (List.mem_filter.mp inside).1).1

theorem Rearranged.restartEffect (rearranged : Rearranged samples samples')
    (along : AlongPlan count size samples) (restart : Nat) :
    restartEffect samples' restart = Stage0.restartEffect samples restart := by
  have along' := rearranged.alongPlan along
  have baseline : fmean (armDurations samples' restart .a) =
      fmean (armDurations samples restart .a) := by
    refine fmean_perm ?_
    refine (along'.armDurations_perm restart (by decide) baseline_segments).trans ?_
    refine .trans ?_ (along.armDurations_perm restart (by decide) baseline_segments).symm
    exact (rearranged.durations restart .a1).append (rearranged.durations restart .a2)
  have comparison : fmean (armDurations samples' restart .b) =
      fmean (armDurations samples restart .b) := by
    refine fmean_perm ?_
    refine (along'.armDurations_perm restart (by decide) comparison_segments).trans ?_
    refine .trans ?_ (along.armDurations_perm restart (by decide) comparison_segments).symm
    exact (rearranged.durations restart .b1).append (rearranged.durations restart .b2)
  rw [Stage0.restartEffect, Stage0.restartEffect, baseline, comparison]

end Invariance

/-! ## The grammar -/

theorem MeasuredAs.scaled {scale factor : Rat} {samples : List Json}
    {normalized : List NormalizedSample} (measured : MeasuredAs scale samples normalized) :
    MeasuredAs (factor * scale) samples (normalized.map (scaled factor)) := by
  refine List.forall₂_map_right_iff.mpr (measured.imp ?_)
  rintro entry result ⟨source, object, measures⟩
  obtain ⟨started, finished, iterations, startedAt, finishedAt, iterationsAt, ticks, some_,
    duration⟩ := measures.interval
  refine ⟨source, object, measures.restart, measures.restartBound, measures.acquisition,
    measures.acquisitionBound, measures.ordinal, ⟨started, finished, iterations, startedAt,
      finishedAt, iterationsAt, ticks, some_, ?_⟩, measures.labels, measures.unmarked⟩
  change factor * result.sampleNs = _
  rw [duration]
  ring

/-- Flags are set and nothing else is changed. -/
theorem withHampelFlags_unmarked {threshold : Rat} {samples flagged : List NormalizedSample}
    (ok : withHampelFlags threshold samples = .ok flagged) :
    flagged.map (fun sample => { sample with outlier := false }) =
      samples.map fun sample => { sample with outlier := false } := by
  simp only [withHampelFlags, Except.bind_eq_ok] at ok
  obtain ⟨checked, validated, flags, marked, same⟩ := ok
  cases same
  obtain ⟨rfl, -⟩ := validateNormalizedSamples_eq_ok.mp validated
  have length := markHampelOutliers_length marked
  rw [List.length_map] at length
  refine List.ext_getElem (by simp [length]) fun index _ _ => ?_
  simp

/-- What holds of the effect of a file. -/
structure AbbaLaws (env : SignalEnv) (options : AbbaOptions) (scale : Rat) (samples : List Json)
    (normalized : List NormalizedSample) (result : SignalStatistics) : Prop where
  /-- Every raw sample has its exact duration, at its position. -/
  measured : MeasuredAs scale samples normalized
  /-- The effect is the mean over the restarts of `(mean B - mean A) / mean A`. -/
  mean : ∃ count size, AcquiredFile count size samples ∧
    result.effectFraction = fmean ((List.range count).map (restartEffect normalized))
  /-- No sample is left out. -/
  counted : result.sampleCount = samples.length
  /-- Outlier flags only mark. -/
  marks : ∀ threshold flagged, withHampelFlags threshold normalized = .ok flagged →
    flagged.map (fun sample => { sample with outlier := false }) = normalized
  /-- A common factor of all durations does not change the effect. -/
  scaled : ∀ factor, 0 < factor →
    normalizeDeviceSamples (factor * scale) samples = .ok (normalized.map (scaled factor)) ∧
      ∃ result', computeAbbaEffect env options (normalized.map (Stage0.scaled factor)) =
        .ok result' ∧ result'.effectFraction = result.effectFraction
  /-- A permutation of the durations of the segments does not change the effect. -/
  rearranged : ∀ normalized', Rearranged normalized normalized' →
    ∃ result', computeAbbaEffect env options normalized' = .ok result' ∧
      result'.effectFraction = result.effectFraction

/-- **The grammar of ABBA files.** Raw samples are normalized and have an effect exactly when
the scale is positive, the options are valid and the samples are acquired along a plan of at
least two restarts `A1 B1 B2 A2`; and then the effect is the mean over the restarts of the
relative difference of the arms, counts every sample, and depends neither on a common factor of
the durations nor on their order within the segments. -/
theorem abba_grammar (env : SignalEnv) (options : AbbaOptions) (scale : Rat)
    (samples : List Json) :
    ((∃ normalized result, normalizeDeviceSamples scale samples = .ok normalized ∧
        computeAbbaEffect env options normalized = .ok result) ↔
      0 < scale ∧ options.Valid ∧ ∃ count size, AcquiredFile count size samples) ∧
    ∀ normalized result, normalizeDeviceSamples scale samples = .ok normalized →
      computeAbbaEffect env options normalized = .ok result →
        AbbaLaws env options scale samples normalized result := by
  have runs : ∀ {count : Nat} {size : Nat → Nat} {samples : List NormalizedSample},
      AlongPlan count size samples → options.Valid →
      ∃ result, computeAbbaEffect env options samples = .ok result ∧
        result.effectFraction = fmean ((List.range count).map (restartEffect samples)) :=
    fun along valid => along.computeAbbaEffect valid
  refine ⟨⟨?_, ?_⟩, ?_⟩
  · rintro ⟨normalized, result, read, computed⟩
    obtain ⟨positive, -, measured, -⟩ := normalizeDeviceSamples_eq_ok.mp read
    obtain ⟨valid, -, count, size, along, -⟩ := computeAbbaEffect_of_ok computed
    exact ⟨positive, valid, count, size, (acquiredFile_iff positive).mpr
      ⟨normalized, measured, along⟩⟩
  · rintro ⟨positive, valid, count, size, file⟩
    obtain ⟨normalized, measured, along⟩ := (acquiredFile_iff positive).mp file
    obtain ⟨result, computed, -⟩ := runs along valid
    exact ⟨normalized, result, normalize_of_alongPlan positive measured along, computed⟩
  · intro normalized result read computed
    obtain ⟨positive, -, measured, -⟩ := normalizeDeviceSamples_eq_ok.mp read
    have measured : MeasuredAs scale samples normalized := measured
    obtain ⟨valid, counted, count, size, along, effect⟩ := computeAbbaEffect_of_ok computed
    refine ⟨measured, ⟨count, size, (acquiredFile_iff positive).mpr ⟨normalized, measured,
      along⟩, effect⟩, ?_, ?_, ?_, ?_⟩
    · rw [counted, ← measured.length_eq, List.length_zipIdx]
    · intro threshold flagged flags
      rw [withHampelFlags_unmarked flags]
      exact measured.unmarked
    · intro factor positiveFactor
      have along' := along.scaled positiveFactor
      obtain ⟨result', computed', effect'⟩ := runs along' valid
      refine ⟨normalize_of_alongPlan (mul_pos positiveFactor positive) measured.scaled along',
        result', computed', ?_⟩
      rw [effect', effect]
      exact congrArg fmean (List.map_congr_left fun restart _ =>
        restartEffect_scaled positiveFactor normalized restart)
    · intro normalized' rearranged
      have along' := rearranged.alongPlan along
      obtain ⟨result', computed', effect'⟩ := runs along' valid
      refine ⟨result', computed', ?_⟩
      rw [effect', effect]
      exact congrArg fmean (List.map_congr_left fun restart _ =>
        rearranged.restartEffect along restart)

/-! ## Files of two restarts -/

/-- A raw sample of a plan that starts at tick zero. -/
def rawSource (position : Nat) (entry : Int × Segment) (ticks : Int) : Json.Object :=
  [("restart_ordinal", .int entry.1), ("acquisition_ordinal", .int position),
    ("started_device_ticks", .int 0), ("finished_device_ticks", .int ticks),
    ("batch_iterations", .int 1), ("arm", .str entry.2.arm.name),
    ("segment", .str entry.2.name)]

/-- A file of two restarts with one sample in each segment, which lasts as long as its segment
says. -/
def rawFile (ticks : Segment → Int) : List Json :=
  (abbaPlan 2 fun _ => 1).zipIdx.map fun entry =>
    .obj (rawSource entry.2 entry.1 (ticks entry.1.2))

/-- A file along a plan whose ticks are positive intervals of any length. -/
def FollowsPlan (count : Nat) (size : Nat → Nat) (samples : List Json) : Prop :=
  2 ≤ count ∧ (∀ restart < count, 1 ≤ size restart) ∧
    List.Forall₂ (fun entry label => ∃ source, entry.1 = .obj source ∧
      source.get? "restart_ordinal" = some (.int label.1) ∧
      source.get? "acquisition_ordinal" = some (.int entry.2) ∧
      (∃ started finished : Int, source.get? "started_device_ticks" = some (.int started) ∧
        source.get? "finished_device_ticks" = some (.int finished) ∧
        0 ≤ started ∧ started < finished) ∧
      source.get? "batch_iterations" = some (.int 1) ∧
      LabelledAs source (some (label.2.arm, label.2))) samples.zipIdx (abbaPlan count size)

theorem Arm.name_spelled (arm : Arm) : upper (strip arm.name) ∈ arm.spellings := by
  cases arm <;> decide

theorem Segment.upper_name (segment : Segment) : upper (strip segment.name) = segment.name := by
  cases segment <;> decide

theorem rawSource_labels (position : Nat) (entry : Int × Segment) (ticks : Int) :
    LabelledAs (rawSource position entry ticks) (some (entry.2.arm, entry.2)) :=
  ⟨rfl, ⟨_, ⟨_, rfl, rfl⟩, entry.2.arm.name_spelled⟩, _, ⟨_, rfl, rfl⟩, entry.2.upper_name⟩

/-- The samples of the file and the entries of its plan. -/
theorem rawFile_forall₂ {ticks : Segment → Int} {R : Json × Nat → Int × Segment → Prop}
    (each : ∀ entry ∈ (abbaPlan 2 fun _ => 1), ∀ position ≤ 7,
      R (.obj (rawSource position entry (ticks entry.2)), position) entry) :
    List.Forall₂ R (rawFile ticks).zipIdx (abbaPlan 2 fun _ => 1) := by
  refine List.forall₂_iff_get.mpr ⟨by simp [rawFile], fun index inside inside' => ?_⟩
  have small : index ≤ 7 := by
    have length : (abbaPlan 2 fun _ => 1).length = 8 := by decide
    omega
  simpa [rawFile] using each _ (List.getElem_mem inside') index small

theorem rawFile_acquired {ticks : Segment → Int}
    (proper : ∀ segment, 0 < ticks segment ∧ ticks segment ≤ uint64Max) :
    AcquiredFile 2 (fun _ => 1) (rawFile ticks) := by
  refine ⟨le_refl 2, fun _ _ => le_refl 1, rawFile_forall₂ fun entry present position small => ?_⟩
  obtain ⟨restart, inside, same, -⟩ := mem_abbaPlan.mp present
  have bound : entry.1 ≤ maxOrdinal := by
    rw [same, maxOrdinal]
    omega
  have place : (position : Int) ≤ maxOrdinal := by
    rw [maxOrdinal]
    omega
  refine ⟨_, rfl, rfl, ⟨?_, bound⟩, rfl, place, ⟨0, _, 1, rfl, rfl, rfl, ⟨le_refl 0, ?_⟩, ?_⟩,
    rawSource_labels position entry _⟩
  · rw [same]
    exact Int.natCast_nonneg restart
  · exact proper entry.2
  · exact ⟨le_refl 1, by decide⟩

/-- The comparison takes twice as long as the baseline. -/
def doubled (segment : Segment) : Int := if segment.arm = .b then 20 else 10

/-- Options with a digest of 64 digits. -/
def abbaOptions : AbbaOptions where
  evidenceHash := "sha256:" ++
    "0123456789abcdef0123456789abcdef0123456789abcdef0123456789abcdef"
  bootstrapIterations := 1

/-- The bootstrap goes round the sample. -/
def steadySignals : SignalEnv :=
  { M2Statistics.steadyEnv with deriveSeed := fun _ _ => 0 }

/-- Eight samples of two restarts have an effect, and all of them count. -/
theorem abba_grammar_doubled : ∃ normalized result,
    normalizeDeviceSamples 1 (rawFile doubled) = .ok normalized ∧
      computeAbbaEffect steadySignals abbaOptions normalized = .ok result ∧
        result.sampleCount = 8 := by
  have alpha : 0 < abbaOptions.alpha ∧ abbaOptions.alpha < 1 := by
    norm_num [abbaOptions]
  have valid : abbaOptions.Valid := ⟨alpha, by decide, by decide +kernel, by norm_num [abbaOptions]⟩
  have acquired : AcquiredFile 2 (fun _ => 1) (rawFile doubled) :=
    rawFile_acquired fun segment => by cases segment <;> decide
  obtain ⟨accepted, laws⟩ := abba_grammar steadySignals abbaOptions 1 (rawFile doubled)
  obtain ⟨normalized, result, read, computed⟩ :=
    accepted.mpr ⟨one_pos, valid, 2, fun _ => 1, acquired⟩
  exact ⟨normalized, result, read, computed, (laws normalized result read computed).counted⟩

/-- The effect of a comparison that takes twice as long is one. -/
example : ((normalizeDeviceSamples 1 (rawFile doubled)).bind fun normalized =>
    (computeAbbaEffect steadySignals abbaOptions normalized).map
      SignalStatistics.effectFraction) = .ok 1 := by
  decide +kernel

/-- Every segment lasts `2 ^ 64` ticks. -/
def overlong (_ : Segment) : Int := 18446744073709551616

/-- A file along a plan is refused when its ticks do not fit 64 bits. -/
theorem overlong_file_refused :
    (∃ count size, FollowsPlan count size (rawFile overlong)) ∧
      ∀ normalized, normalizeDeviceSamples 1 (rawFile overlong) ≠ .ok normalized := by
  constructor
  · refine ⟨2, fun _ => 1, le_refl 2, fun _ _ => le_refl 1, rawFile_forall₂ ?_⟩
    intro entry _ position _
    have positive : 0 < overlong entry.2 := show (0 : Int) < 18446744073709551616 by decide
    exact ⟨_, rfl, rfl, rfl, ⟨0, _, rfl, rfl, le_refl 0, positive⟩, rfl,
      rawSource_labels position entry _⟩
  · intro normalized read
    obtain ⟨-, -, measured, -⟩ := normalizeDeviceSamples_eq_ok.mp read
    obtain ⟨result, -, ⟨source, object, measures⟩, -⟩ := List.forall₂_cons_left_iff.mp measured
    obtain ⟨_, finished, _, -, finishedAt, -, ⟨-, -, bound⟩, -⟩ := measures.interval
    cases object
    cases finishedAt
    exact absurd bound (by decide)

end Stage0

end HcuAutoOpt
