import HcuAutoOpt.Foundation.CheckedFolds
import HcuAutoOpt.Foundation.Json
import HcuAutoOpt.Foundation.TextFields
import Mathlib.Data.List.Dedup
import Mathlib.Data.List.Sort
import Mathlib.Data.Rat.Cast.Order

/-!
# Device samples

A Stage 0 measurement is a file of device samples, one mapping of integers and labels for each
acquisition. `normalize_device_samples` reads it: every sample stands at the position of its
acquisition ordinal, restarts follow one another, ticks are a positive interval, and the labels,
where there are any, name an arm and one of its segments. A sample becomes its duration per
iteration in nanoseconds.

The arithmetic is exact. What is accepted is a statement about each sample at its position
(`Measures`) and about the sequence of the restarts (`normalizeDeviceSamples_eq_ok`).
-/

set_option autoImplicit false

namespace HcuAutoOpt

namespace Stage0

open Foundation

/-! ## Samples -/

/-- `Stage0StatisticsError`, with its message. -/
structure StatisticsError where
  message : String
  deriving DecidableEq, Repr

/-- The arms of a measurement. -/
inductive Arm where
  | single | a | b
  deriving DecidableEq, Repr

/-- The canonical name of an arm. -/
def Arm.name : Arm → String
  | .single => "SINGLE"
  | .a => "A"
  | .b => "B"

/-- The capitals of the texts that stand for an arm. -/
def Arm.spellings : Arm → List String
  | .single => ["SINGLE"]
  | .a => ["A", "BASELINE"]
  | .b => ["B", "COMPARISON"]

/-- The segments of a measurement. -/
inductive Segment where
  | noise | timer | a1 | b1 | b2 | a2
  deriving DecidableEq, Repr

/-- The name of a segment. -/
def Segment.name : Segment → String
  | .noise => "NOISE"
  | .timer => "TIMER"
  | .a1 => "A1"
  | .b1 => "B1"
  | .b2 => "B2"
  | .a2 => "A2"

/-- `_SEGMENT_ARM`, and the arm that noise and timer samples ask for. -/
def Segment.arm : Segment → Arm
  | .noise | .timer => .single
  | .a1 | .a2 => .a
  | .b1 | .b2 => .b

/-- The segment of a name. -/
def Segment.ofName (name : String) : Option Segment :=
  if name = "NOISE" then some .noise
  else if name = "TIMER" then some .timer
  else if name = "A1" then some .a1
  else if name = "B1" then some .b1
  else if name = "B2" then some .b2
  else if name = "A2" then some .a2
  else none

@[simp] theorem Segment.ofName_eq_some {name : String} {segment : Segment} :
    Segment.ofName name = some segment ↔ name = segment.name := by
  constructor
  · intro named
    unfold ofName at named
    split_ifs at named with noise timer a1 b1 b2 a2 <;> cases named <;> assumption
  · rintro rfl
    cases segment <;> rfl

/-- `NormalizedSample`. -/
structure NormalizedSample where
  restartOrdinal : Int
  acquisitionOrdinal : Int
  sampleNs : Rat
  arm : Option Arm := none
  segment : Option Segment := none
  outlier : Bool := false
  deriving DecidableEq, Repr

/-! ## The fields of a raw sample -/

/-- `_MAX_ORDINAL`. -/
def maxOrdinal : Int := 1000000

/-- `_UINT64_MAX`. -/
def uint64Max : Int := 18446744073709551615

/-- `_strict_int`. -/
def strictInt (source : Json.Object) (key : String) (position : Nat) (minimum maximum : Int) :
    Except StatisticsError Int :=
  match source.get? key with
  | none => .error ⟨s!"sample {position} is missing {key}"⟩
  | some (.int value) => do
      require (minimum ≤ value) ⟨s!"sample {position} {key} must be at least {minimum}"⟩
      require (value ≤ maximum) ⟨s!"sample {position} {key} must be at most {maximum}"⟩
      return value
  | some _ => .error ⟨s!"sample {position} {key} must be an integer"⟩

/-- `_optional_text`. -/
def optionalText (source : Json.Object) (key : String) (position : Nat) :
    Except StatisticsError (Option String) :=
  match source.get? key with
  | none | some .null => return none
  | some (.str value) => do
      require (strip value ≠ "") ⟨s!"sample {position} {key} must be non-empty text"⟩
      return some (strip value)
  | some _ => .error ⟨s!"sample {position} {key} must be non-empty text"⟩

/-- `_canonical_arm`. -/
def canonicalArm (value : String) (position : Nat) : Except StatisticsError Arm :=
  let normalized := upper value
  if normalized = "SINGLE" then return .single
  else if normalized = "A" ∨ normalized = "BASELINE" then return .a
  else if normalized = "B" ∨ normalized = "COMPARISON" then return .b
  else .error ⟨s!"sample {position} has unknown ABBA arm {Json.quoted value}"⟩

/-- The arm and the segment of a sample, both or neither. -/
def readLabels (source : Json.Object) (position : Nat) :
    Except StatisticsError (Option (Arm × Segment)) := do
  let arm ← optionalText source "arm" position
  let segment ← optionalText source "segment" position
  match arm, segment with
  | none, none => return none
  | some arm, some segment =>
      let arm ← canonicalArm arm position
      match Segment.ofName (upper segment) with
      | none =>
          .error ⟨s!"sample {position} has unknown ABBA segment {Json.quoted (upper segment)}"⟩
      | some known =>
          let message :=
            if known.arm = .single then
              s!"sample {position} segment {Json.quoted known.name} requires arm='single'"
            else
              s!"sample {position} arm {Json.quoted arm.name} does not match segment "
                ++ Json.quoted known.name
          require (arm = known.arm) ⟨message⟩
          return some (arm, known)
  | _, _ => .error ⟨s!"sample {position} must provide both arm and segment"⟩

/-! ## The loop over the samples -/

/-- The checks of the order of the samples: `seen` are the acquisition ordinals so far and
`previous` is the last restart. -/
def checkOrder (position : Nat) (seen : List Int) (previous acquisition restart : Int) :
    Except StatisticsError Unit := do
  require (acquisition ∉ seen) ⟨s!"duplicate acquisition_ordinal {acquisition}"⟩
  require (acquisition = position)
    ⟨"acquisition_ordinal must be contiguous, start at zero, and match file order"⟩
  require (previous ≤ restart) ⟨"restart_ordinal groups must not be interleaved"⟩

/-- A loop over samples in file order, each turn with the position, the acquisition ordinals so
far and the last restart. -/
def loopSamples {α : Type}
    (turn : Nat → List Int → Int → α → Except StatisticsError NormalizedSample) :
    Nat → List Int → Int → List α → Except StatisticsError (List NormalizedSample)
  | _, _, _, [] => return []
  | position, seen, previous, sample :: rest => do
      let normalized ← turn position seen previous sample
      let others ← loopSamples turn (position + 1) (normalized.acquisitionOrdinal :: seen)
        normalized.restartOrdinal rest
      return normalized :: others

/-- One turn of `normalize_device_samples`. -/
def normalizeSample (scale : Rat) (position : Nat) (seen : List Int) (previous : Int)
    (sample : Json) : Except StatisticsError NormalizedSample :=
  match sample with
  | .obj source => do
      let restart ← strictInt source "restart_ordinal" position 0 maxOrdinal
      let acquisition ← strictInt source "acquisition_ordinal" position 0 maxOrdinal
      let started ← strictInt source "started_device_ticks" position 0 uint64Max
      let finished ← strictInt source "finished_device_ticks" position 0 uint64Max
      let batchIterations ← strictInt source "batch_iterations" position 1 maxOrdinal
      checkOrder position seen previous acquisition restart
      require (started < finished)
        ⟨s!"sample {position} finished_device_ticks must exceed started_device_ticks"⟩
      let sampleNs : Rat := (finished - started : Int) * scale / batchIterations
      require (0 < sampleNs) ⟨s!"sample {position} has an invalid normalized duration"⟩
      let labels ← readLabels source position
      return { restartOrdinal := restart
               acquisitionOrdinal := acquisition
               sampleNs := sampleNs
               arm := labels.map Prod.fst
               segment := labels.map Prod.snd }
  | _ => .error ⟨s!"sample {position} must be a mapping"⟩

/-- The distinct restart ordinals in order. -/
def restartOrdinals (samples : List NormalizedSample) : List Int :=
  (samples.map NormalizedSample.restartOrdinal).dedup.insertionSort (· ≤ ·)

/-- `_validate_restart_ordinals`. -/
def validateRestartOrdinals (samples : List NormalizedSample) : Except StatisticsError Unit :=
  let ordinals := restartOrdinals samples
  require (ordinals = (List.range ordinals.length).map Int.ofNat)
    ⟨"restart_ordinal must be contiguous and start at zero"⟩

/-- `normalize_device_samples`. -/
def normalizeDeviceSamples (nsPerTick : Rat) (samples : List Json) :
    Except StatisticsError (List NormalizedSample) := do
  require (0 < nsPerTick) ⟨"ns_per_tick must be greater than zero"⟩
  require (samples ≠ []) ⟨"at least one raw sample is required"⟩
  let normalized ← loopSamples (normalizeSample nsPerTick) 0 [] (-1) samples
  validateRestartOrdinals normalized
  return normalized

/-! ## What is accepted -/

theorem strictInt_eq_ok {source : Json.Object} {key : String} {position : Nat}
    {minimum maximum value : Int} :
    strictInt source key position minimum maximum = .ok value ↔
      source.get? key = some (.int value) ∧ minimum ≤ value ∧ value ≤ maximum := by
  unfold strictInt
  split
  · rename_i absent
    simp [absent]
  · rename_i found present
    simp only [Except.bind_eq_ok, require_eq_ok, present, Option.some.injEq, Json.int.injEq]
    constructor
    · rintro ⟨-, atLeast, -, atMost, same⟩
      cases same
      exact ⟨rfl, atLeast, atMost⟩
    · rintro ⟨rfl, atLeast, atMost⟩
      exact ⟨(), atLeast, (), atMost, rfl⟩
  · rename_i other notInt present
    simp only [present, reduceCtorEq, false_iff, not_and]
    rintro ⟨⟩
    exact absurd rfl (notInt value)

theorem optionalText_eq_some {source : Json.Object} {key : String} {position : Nat}
    {text : String} : optionalText source key position = .ok (some text) ↔
      ∃ value, source.get? key = some (.str value) ∧ strip value = text ∧ text ≠ "" := by
  unfold optionalText
  split
  · rename_i absent
    simp [absent, pure, Except.pure]
  · rename_i absent
    simp [absent, pure, Except.pure]
  · rename_i found present
    simp only [Except.bind_eq_ok, require_eq_ok, present, Option.some.injEq, Json.str.injEq]
    constructor
    · rintro ⟨-, some_, same⟩
      cases same
      exact ⟨found, rfl, rfl, some_⟩
    · rintro ⟨value, rfl, rfl, some_⟩
      exact ⟨(), some_, rfl⟩
  · rename_i other _ notText present
    simp only [present, reduceCtorEq, Option.some.injEq, false_iff, not_exists, not_and]
    rintro value rfl
    exact absurd rfl (notText value)

theorem optionalText_eq_none {source : Json.Object} {key : String} {position : Nat} :
    optionalText source key position = .ok none ↔ source.value? key = none := by
  unfold optionalText Json.Object.value?
  split
  · rename_i absent
    simp [absent, pure, Except.pure]
  · rename_i absent
    simp [absent, pure, Except.pure]
  · rename_i found present
    simp [present, Except.bind_eq_ok, pure, Except.pure]
  · rename_i other notNull notText present
    simp only [present, reduceCtorEq, false_iff]
    cases other with
    | null => exact absurd rfl notNull
    | _ => simp

theorem canonicalArm_eq_ok {value : String} {position : Nat} {arm : Arm} :
    canonicalArm value position = .ok arm ↔ upper value ∈ arm.spellings := by
  simp only [canonicalArm]
  split_ifs with single baseline comparison
  · cases arm <;> simp [Arm.spellings, single, pure, Except.pure]
  · cases arm <;> rcases baseline with same | same <;>
      simp [Arm.spellings, same, pure, Except.pure]
  · cases arm <;> rcases comparison with same | same <;>
      simp [Arm.spellings, same, pure, Except.pure]
  · cases arm <;> simp_all [Arm.spellings]

/-- The text of a field, without the blanks around it. -/
def TextIs (source : Json.Object) (key text : String) : Prop :=
  ∃ value, source.get? key = some (.str value) ∧ strip value = text

/-- The labels that a sample carries: none, or an arm and one of its segments. -/
def LabelledAs (source : Json.Object) : Option (Arm × Segment) → Prop
  | none => source.value? "arm" = none ∧ source.value? "segment" = none
  | some (arm, segment) =>
      arm = segment.arm ∧
        (∃ text, TextIs source "arm" text ∧ upper text ∈ arm.spellings) ∧
        ∃ text, TextIs source "segment" text ∧ upper text = segment.name

/-- A text with known capitals is not empty. -/
theorem ne_empty_of_upper {text : String} (filled : upper text ≠ "") : text ≠ "" := by
  rintro rfl
  exact filled rfl

theorem readLabels_eq_ok {source : Json.Object} {position : Nat}
    {labels : Option (Arm × Segment)} :
    readLabels source position = .ok labels ↔ LabelledAs source labels := by
  simp only [readLabels, Except.bind_eq_ok]
  constructor
  · rintro ⟨arm, armRead, segment, segmentRead, rest⟩
    cases arm with
    | none =>
        cases segment with
        | none =>
            cases rest
            exact ⟨optionalText_eq_none.mp armRead, optionalText_eq_none.mp segmentRead⟩
        | some segment => cases rest
    | some armText =>
        cases segment with
        | none => cases rest
        | some segmentText =>
            obtain ⟨arm, canonical, rest⟩ := Except.bind_eq_ok.mp rest
            cases known : Segment.ofName (upper segmentText) with
            | none =>
                rw [known] at rest
                cases rest
            | some segment =>
                rw [known] at rest
                obtain ⟨_, matching, same⟩ := Except.bind_eq_ok.mp rest
                cases same
                obtain ⟨armValue, armPresent, armStripped, -⟩ := optionalText_eq_some.mp armRead
                obtain ⟨value, present, stripped, -⟩ := optionalText_eq_some.mp segmentRead
                refine ⟨require_eq_ok.mp matching, ⟨armText, ⟨armValue, armPresent, armStripped⟩,
                  canonicalArm_eq_ok.mp canonical⟩, segmentText, ⟨value, present, stripped⟩, ?_⟩
                exact Segment.ofName_eq_some.mp known
  · intro labelled
    cases labels with
    | none =>
        exact ⟨none, optionalText_eq_none.mpr labelled.1, none,
          optionalText_eq_none.mpr labelled.2, rfl⟩
    | some labels =>
        obtain ⟨arm, segment⟩ := labels
        obtain ⟨matching, ⟨armText, ⟨armValue, armPresent, armStripped⟩, spelled⟩, segmentText,
          ⟨value, present, stripped⟩, named⟩ := labelled
        have armFilled : armText ≠ "" := by
          refine ne_empty_of_upper fun empty => ?_
          rw [empty] at spelled
          cases arm <;> simp [Arm.spellings] at spelled
        have segmentFilled : segmentText ≠ "" := by
          refine ne_empty_of_upper fun empty => ?_
          rw [empty] at named
          cases segment <;> simp [Segment.name] at named
        refine ⟨some armText, optionalText_eq_some.mpr ⟨_, armPresent, armStripped, armFilled⟩,
          some segmentText, optionalText_eq_some.mpr ⟨_, present, stripped, segmentFilled⟩, ?_⟩
        refine Except.bind_eq_ok.mpr ⟨arm, canonicalArm_eq_ok.mpr spelled, ?_⟩
        rw [Segment.ofName_eq_some.mpr named]
        exact Except.bind_eq_ok.mpr ⟨(), require_eq_ok.mpr matching, rfl⟩

/-- A raw sample at a position of the file and the normalized sample it stands for. -/
structure Measures (scale : Rat) (source : Json.Object) (position : Nat)
    (normalized : NormalizedSample) : Prop where
  restart : source.get? "restart_ordinal" = some (.int normalized.restartOrdinal)
  restartBound : 0 ≤ normalized.restartOrdinal ∧ normalized.restartOrdinal ≤ maxOrdinal
  acquisition : source.get? "acquisition_ordinal" = some (.int position)
  acquisitionBound : (position : Int) ≤ maxOrdinal
  ordinal : normalized.acquisitionOrdinal = position
  interval : ∃ started finished iterations : Int,
    source.get? "started_device_ticks" = some (.int started) ∧
    source.get? "finished_device_ticks" = some (.int finished) ∧
    source.get? "batch_iterations" = some (.int iterations) ∧
    (0 ≤ started ∧ started < finished ∧ finished ≤ uint64Max) ∧
    (1 ≤ iterations ∧ iterations ≤ maxOrdinal) ∧
    normalized.sampleNs = (finished - started : Int) * scale / iterations
  labels : ∃ labels, LabelledAs source labels ∧
    normalized.arm = labels.map Prod.fst ∧ normalized.segment = labels.map Prod.snd
  unmarked : normalized.outlier = false

/-- The duration of a positive interval is positive. -/
theorem duration_pos {scale : Rat} (positive : 0 < scale) {started finished iterations : Int}
    (later : started < finished) (some_ : 1 ≤ iterations) :
    0 < ((finished - started : Int) : Rat) * scale / iterations := by
  have ticks : (0 : Rat) < ((finished - started : Int) : Rat) := by
    exact_mod_cast sub_pos.mpr later
  have count : (0 : Rat) < (iterations : Rat) := by
    exact_mod_cast lt_of_lt_of_le one_pos some_
  exact div_pos (mul_pos ticks positive) count

theorem Measures.pos {scale : Rat} (positive : 0 < scale) {source : Json.Object} {position : Nat}
    {normalized : NormalizedSample} (measures : Measures scale source position normalized) :
    0 < normalized.sampleNs := by
  obtain ⟨started, finished, iterations, -, -, -, ticks, count, same⟩ := measures.interval
  rw [same]
  exact duration_pos positive ticks.2.1 count.1

theorem checkOrder_eq_ok {position : Nat} {seen : List Int} {previous acquisition restart : Int}
    {u : Unit} : checkOrder position seen previous acquisition restart = .ok u ↔
      acquisition = position ∧ (position : Int) ∉ seen ∧ previous ≤ restart := by
  simp only [checkOrder, Except.bind_eq_ok, require_eq_ok, exists_const]
  constructor
  · rintro ⟨new, rfl, order⟩
    exact ⟨rfl, new, order⟩
  · rintro ⟨rfl, new, order⟩
    exact ⟨new, rfl, order⟩

theorem normalizeSample_eq_ok {scale : Rat} (positive : 0 < scale) {position : Nat}
    {seen : List Int} {previous : Int} {sample : Json} {normalized : NormalizedSample} :
    normalizeSample scale position seen previous sample = .ok normalized ↔
      (∃ source, sample = .obj source ∧ Measures scale source position normalized) ∧
        (position : Int) ∉ seen ∧ previous ≤ normalized.restartOrdinal := by
  constructor
  · intro ok
    unfold normalizeSample at ok
    split at ok
    · rename_i source
      simp only [Except.bind_eq_ok, strictInt_eq_ok, checkOrder_eq_ok, require_eq_ok] at ok
      obtain ⟨restart, ⟨restartAt, restartLow, restartHigh⟩, acquisition,
        ⟨acquisitionAt, -, acquisitionHigh⟩, started, ⟨startedAt, startedLow, -⟩, finished,
        ⟨finishedAt, -, finishedHigh⟩, iterations, ⟨iterationsAt, iterationsLow, iterationsHigh⟩,
        -, ⟨rfl, new, order⟩, -, later, -, -, labels, labelled, same⟩ := ok
      cases same
      refine ⟨⟨source, rfl, ?_⟩, new, order⟩
      exact ⟨restartAt, ⟨restartLow, restartHigh⟩, acquisitionAt, acquisitionHigh, rfl,
        ⟨started, finished, iterations, startedAt, finishedAt, iterationsAt,
          ⟨startedLow, later, finishedHigh⟩, ⟨iterationsLow, iterationsHigh⟩, rfl⟩,
        ⟨labels, readLabels_eq_ok.mp labelled, rfl, rfl⟩, rfl⟩
    · cases ok
  · rintro ⟨⟨source, rfl, measures⟩, new, order⟩
    obtain ⟨started, finished, iterations, startedAt, finishedAt, iterationsAt, ticks, count,
      duration⟩ := measures.interval
    obtain ⟨labels, labelled, arm, segment⟩ := measures.labels
    simp only [normalizeSample, Except.bind_eq_ok, strictInt_eq_ok, checkOrder_eq_ok,
      require_eq_ok]
    refine ⟨_, ⟨measures.restart, measures.restartBound⟩, _,
      ⟨measures.acquisition, Int.natCast_nonneg position, measures.acquisitionBound⟩, started,
      ⟨startedAt, ticks.1, (ticks.2.1.trans_le ticks.2.2).le⟩, finished,
      ⟨finishedAt, (ticks.1.trans_lt ticks.2.1).le, ticks.2.2⟩, iterations,
      ⟨iterationsAt, count⟩, (), ⟨rfl, new, order⟩, (), ticks.2.1, (),
      duration_pos positive ticks.2.1 count.1, labels, readLabels_eq_ok.mpr labelled, ?_⟩
    cases normalized
    simp only at arm segment duration
    simp [arm, segment, duration, measures.ordinal.symm, measures.unmarked.symm, pure,
      Except.pure]

/-- **What a loop in file order accepts.** When a turn accepts a sample that is fine at its
position, has a new ordinal and does not go back to an earlier restart, the loop accepts the
samples that are fine at their positions and whose restarts follow one another. -/
theorem loopSamples_eq_ok {α : Type}
    {turn : Nat → List Int → Int → α → Except StatisticsError NormalizedSample}
    {P : Nat → α → NormalizedSample → Prop}
    (accepts : ∀ position seen previous sample normalized,
      turn position seen previous sample = .ok normalized ↔
        P position sample normalized ∧ (position : Int) ∉ seen ∧
          previous ≤ normalized.restartOrdinal)
    (ordinal : ∀ position sample normalized, P position sample normalized →
      normalized.acquisitionOrdinal = position)
    (samples : List α) :
    ∀ (position : Nat) (seen : List Int) (previous : Int) (normalized : List NormalizedSample),
      (∀ earlier ∈ seen, earlier < position) →
        (loopSamples turn position seen previous samples = .ok normalized ↔
          List.Forall₂ (fun entry result => P entry.2 entry.1 result) (samples.zipIdx position)
            normalized ∧
          (previous :: normalized.map NormalizedSample.restartOrdinal).IsChain (· ≤ ·)) := by
  induction samples with
  | nil =>
      intro position seen previous normalized _
      simp only [loopSamples, pure, Except.pure, Except.ok.injEq, List.zipIdx_nil,
        List.forall₂_nil_left_iff]
      constructor
      · rintro rfl
        exact ⟨rfl, .singleton _⟩
      · rintro ⟨rfl, -⟩
        rfl
  | cons sample samples ih =>
      intro position seen previous normalized before
      have new : (position : Int) ∉ seen := fun present => lt_irrefl _ (before _ present)
      have next : ∀ result, P position sample result →
          ∀ earlier ∈ result.acquisitionOrdinal :: seen, earlier < ((position + 1 : Nat) : Int) := by
        intro result fine earlier present
        rw [ordinal position sample result fine] at present
        rcases List.mem_cons.mp present with rfl | present
        · omega
        · have := before earlier present
          omega
      simp only [loopSamples, Except.bind_eq_ok, List.zipIdx_cons, List.forall₂_cons_left_iff]
      constructor
      · rintro ⟨result, first, others, rest, same⟩
        cases same
        obtain ⟨fine, -, order⟩ := (accepts ..).mp first
        obtain ⟨all, chain⟩ := (ih _ _ _ _ (next result fine)).mp rest
        exact ⟨⟨result, others, fine, all, rfl⟩, List.isChain_cons_cons.mpr ⟨order, chain⟩⟩
      · rintro ⟨⟨result, others, fine, all, rfl⟩, chain⟩
        obtain ⟨order, chain⟩ := List.isChain_cons_cons.mp chain
        exact ⟨result, (accepts ..).mpr ⟨fine, new, order⟩, others,
          (ih _ _ _ _ (next result fine)).mpr ⟨all, chain⟩, rfl⟩

/-- The restarts of some samples are the first `count` ordinals. -/
def RestartsUpTo (count : Nat) (samples : List NormalizedSample) : Prop :=
  ∀ restart : Int,
    restart ∈ samples.map NormalizedSample.restartOrdinal ↔ 0 ≤ restart ∧ restart < count

theorem mem_range_map_ofNat {count : Nat} {restart : Int} :
    restart ∈ (List.range count).map Int.ofNat ↔ 0 ≤ restart ∧ restart < count := by
  simp only [List.mem_map, List.mem_range]
  constructor
  · rintro ⟨n, inside, rfl⟩
    exact ⟨Int.natCast_nonneg n, Int.ofNat_lt.mpr inside⟩
  · rintro ⟨nonneg, inside⟩
    obtain ⟨n, rfl⟩ := Int.eq_ofNat_of_zero_le nonneg
    exact ⟨n, by exact_mod_cast inside, rfl⟩

/-- The ordinals of the restarts are counted when they are the first ones. -/
theorem RestartsUpTo.length {count : Nat} {samples : List NormalizedSample}
    (upTo : RestartsUpTo count samples) :
    (samples.map NormalizedSample.restartOrdinal).dedup.Perm
      ((List.range count).map Int.ofNat) := by
  refine (List.perm_ext_iff_of_nodup (List.nodup_dedup _) ?_).mpr fun restart => ?_
  · exact List.nodup_range.map Int.ofNat_injective
  · rw [List.mem_dedup, upTo restart, mem_range_map_ofNat]

theorem validateRestartOrdinals_eq_ok {samples : List NormalizedSample} {u : Unit} :
    validateRestartOrdinals samples = .ok u ↔ ∃ count, RestartsUpTo count samples := by
  simp only [validateRestartOrdinals, require_eq_ok]
  have sorts : (restartOrdinals samples).Perm
      (samples.map NormalizedSample.restartOrdinal).dedup := List.perm_insertionSort _ _
  constructor
  · intro same
    refine ⟨(restartOrdinals samples).length, fun restart => ?_⟩
    rw [← List.mem_dedup, ← sorts.mem_iff, same, mem_range_map_ofNat, ← same]
  · rintro ⟨count, upTo⟩
    have perm := sorts.trans upTo.length
    have length : (restartOrdinals samples).length = count := by simpa using perm.length_eq
    rw [length]
    refine perm.eq_of_pairwise (fun a b _ _ => le_antisymm) (List.pairwise_insertionSort _ _) ?_
    refine List.pairwise_map.mpr (List.pairwise_lt_range.imp fun less => ?_)
    exact Int.ofNat_le.mpr less.le

/-- **The samples that are accepted.** -/
theorem normalizeDeviceSamples_eq_ok {scale : Rat} {samples : List Json}
    {normalized : List NormalizedSample} :
    normalizeDeviceSamples scale samples = .ok normalized ↔
      0 < scale ∧ samples ≠ [] ∧
        List.Forall₂ (fun entry result => ∃ source, entry.1 = .obj source ∧
          Measures scale source entry.2 result) samples.zipIdx normalized ∧
        (normalized.map NormalizedSample.restartOrdinal).Pairwise (· ≤ ·) ∧
        ∃ count, RestartsUpTo count normalized := by
  simp only [normalizeDeviceSamples, Except.bind_eq_ok, require_eq_ok, exists_const]
  refine and_congr_right fun positive => and_congr_right fun some_ => ?_
  have loop := loopSamples_eq_ok (P := fun position sample result =>
      ∃ source, sample = .obj source ∧ Measures scale source position result)
    (fun _ _ _ _ _ => normalizeSample_eq_ok positive)
    (fun _ _ _ fine => by obtain ⟨_, -, measures⟩ := fine; exact measures.ordinal)
    samples 0 [] (-1)
  have first : ∀ results : List NormalizedSample,
      List.Forall₂ (fun entry result => ∃ source, entry.1 = .obj source ∧
          Measures scale source entry.2 result) samples.zipIdx results →
        ((-1 :: results.map NormalizedSample.restartOrdinal).IsChain (· ≤ ·) ↔
          (results.map NormalizedSample.restartOrdinal).Pairwise (· ≤ ·)) := by
    intro results all
    rw [List.isChain_iff_pairwise, List.pairwise_cons, and_iff_right]
    intro restart present
    obtain ⟨result, member, rfl⟩ := List.mem_map.mp present
    obtain ⟨_, _, _, -, measures⟩ := exists_of_forall₂ all member
    exact le_trans (by decide) measures.restartBound.1
  constructor
  · rintro ⟨results, looped, _, valid, same⟩
    cases same
    obtain ⟨all, chain⟩ := (loop _ (by simp)).mp looped
    exact ⟨all, (first _ all).mp chain, validateRestartOrdinals_eq_ok.mp valid⟩
  · rintro ⟨all, sorted, upTo⟩
    exact ⟨normalized, (loop _ (by simp)).mpr ⟨all, (first _ all).mpr sorted⟩, (),
      validateRestartOrdinals_eq_ok.mpr upTo, rfl⟩

end Stage0

end HcuAutoOpt
