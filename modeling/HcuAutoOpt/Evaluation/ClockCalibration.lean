import HcuAutoOpt.Evaluation.DeviceSamples
import HcuAutoOpt.Evaluation.MultipleComparison

/-!
# The calibration of a device timer

`calibrate_device_timer_v2` takes pairs of a device time and a host interval, fits a line through
the middles of the intervals, and returns the points with the fit. The points are read one by one
from a host clock and a device timer, or delivered at once by the measurement process. Later
`recompute_clock_calibration` checks the points again and fits the line again.

The arithmetic is exact.

**When the verifier agrees.** The producer reads no point of an empty host interval, but takes one
that is delivered; the verifier takes none. For the points of a calibration without such a point
the verifier finds the same fit, and with one it raises (`calibration_agrees_iff`).
-/

set_option autoImplicit false

namespace HcuAutoOpt

namespace Stage0

open Foundation
open M2Statistics (fmean)

/-! ## Models -/

/-- `INT64_MAX`. -/
def int64Max : Int := 9223372036854775807

/-- `MAX_PLAN_COUNT`. -/
def maxPlanCount : Int := 1000000

/-- `ClockCalibrationPointV2`, with its constraints. -/
structure ClockCalibrationPointV2 where
  pointOrdinal : Int
  deviceTicks : Int
  hostStartedMonotonicNs : Int
  hostFinishedMonotonicNs : Int
  ordinal : 0 ≤ pointOrdinal ∧ pointOrdinal ≤ maxPlanCount
  ticks : 0 ≤ deviceTicks ∧ deviceTicks ≤ uint64Max
  started : 0 ≤ hostStartedMonotonicNs ∧ hostStartedMonotonicNs ≤ int64Max
  finished : 0 ≤ hostFinishedMonotonicNs ∧ hostFinishedMonotonicNs ≤ int64Max
  ordered : hostStartedMonotonicNs ≤ hostFinishedMonotonicNs

/-- `host_midpoint_ns`, rounded down. -/
def ClockCalibrationPointV2.hostMidpointNs (point : ClockCalibrationPointV2) : Int :=
  point.hostStartedMonotonicNs +
    (point.hostFinishedMonotonicNs - point.hostStartedMonotonicNs) / 2

/-- A point of values of any type. -/
def calibrationPoint : (ordinal ticks started finished : Option Json) →
    Option ClockCalibrationPointV2
  | some (.int ordinal), some (.int ticks), some (.int started), some (.int finished) =>
      if valid : (0 ≤ ordinal ∧ ordinal ≤ maxPlanCount) ∧ (0 ≤ ticks ∧ ticks ≤ uint64Max) ∧
          (0 ≤ started ∧ started ≤ int64Max) ∧ (0 ≤ finished ∧ finished ≤ int64Max) ∧
          started ≤ finished then
        some ⟨ordinal, ticks, started, finished, valid.1, valid.2.1, valid.2.2.1, valid.2.2.2.1,
          valid.2.2.2.2⟩
      else none
  | _, _, _, _ => none

/-- The fields of a point. -/
def pointOfFields (source : Json.Object) : Option ClockCalibrationPointV2 :=
  calibrationPoint (source.get? "point_ordinal") (source.get? "device_ticks")
    (source.get? "host_started_monotonic_ns") (source.get? "host_finished_monotonic_ns")

/-- `ClockCalibrationPointV2.model_validate`, without extra fields. -/
def ClockCalibrationPointV2.modelValidate : Json → Option ClockCalibrationPointV2
  | .obj source =>
      if ∀ field ∈ source, field.1 ∈ ["point_ordinal", "device_ticks",
          "host_started_monotonic_ns", "host_finished_monotonic_ns"] then
        pointOfFields source
      else none
  | _ => none

/-- `point.model_dump()`. -/
def ClockCalibrationPointV2.dump (point : ClockCalibrationPointV2) : Json :=
  .obj [("point_ordinal", .int point.pointOrdinal), ("device_ticks", .int point.deviceTicks),
    ("host_started_monotonic_ns", .int point.hostStartedMonotonicNs),
    ("host_finished_monotonic_ns", .int point.hostFinishedMonotonicNs)]

/-- The constraints of `ClockCalibrationV2` and its validator. -/
structure CalibrationValid (deviceName : String) (deviceIndex : Int)
    (timerResolutionNs nsPerTick maxResidualNs : Rat) (points : List ClockCalibrationPointV2)
    (resolutionTickDeltas : List Int) : Prop where
  name : 1 ≤ deviceName.length ∧ deviceName.length ≤ 200
  index : 0 ≤ deviceIndex ∧ deviceIndex ≤ maxPlanCount
  resolution : 0 < timerResolutionNs
  slope : 0 < nsPerTick
  residual : 0 ≤ maxResidualNs
  pointCount : 3 ≤ points.length
  deltaCount : 3 ≤ resolutionTickDeltas.length
  deltas : ∀ delta ∈ resolutionTickDeltas, 0 < delta ∧ delta ≤ uint64Max
  ordinals : points.map ClockCalibrationPointV2.pointOrdinal =
    (List.range points.length).map Int.ofNat
  increasing : points.IsChain fun previous current =>
    previous.deviceTicks < current.deviceTicks ∧
      previous.hostMidpointNs < current.hostMidpointNs

/-- `ClockCalibrationV2`, with its constraints. -/
structure ClockCalibrationV2 where
  deviceName : String
  deviceIndex : Int
  timerResolutionNs : Rat
  nsPerTick : Rat
  maxResidualNs : Rat
  points : List ClockCalibrationPointV2
  resolutionTickDeltas : List Int
  valid : CalibrationValid deviceName deviceIndex timerResolutionNs nsPerTick maxResidualNs points
    resolutionTickDeltas

instance instDecidableCalibrationValid (deviceName : String) (deviceIndex : Int)
    (timerResolutionNs nsPerTick maxResidualNs : Rat) (points : List ClockCalibrationPointV2)
    (resolutionTickDeltas : List Int) : Decidable (CalibrationValid deviceName deviceIndex
      timerResolutionNs nsPerTick maxResidualNs points resolutionTickDeltas) :=
  decidable_of_iff
    ((1 ≤ deviceName.length ∧ deviceName.length ≤ 200) ∧
      (0 ≤ deviceIndex ∧ deviceIndex ≤ maxPlanCount) ∧ 0 < timerResolutionNs ∧ 0 < nsPerTick ∧
      0 ≤ maxResidualNs ∧ 3 ≤ points.length ∧ 3 ≤ resolutionTickDeltas.length ∧
      (∀ delta ∈ resolutionTickDeltas, 0 < delta ∧ delta ≤ uint64Max) ∧
      points.map ClockCalibrationPointV2.pointOrdinal =
        (List.range points.length).map Int.ofNat ∧
      points.IsChain fun previous current => previous.deviceTicks < current.deviceTicks ∧
        previous.hostMidpointNs < current.hostMidpointNs)
    ⟨fun ⟨a, b, c, d, e, f, g, h, i, j⟩ => ⟨a, b, c, d, e, f, g, h, i, j⟩,
      fun ⟨a, b, c, d, e, f, g, h, i, j⟩ => ⟨a, b, c, d, e, f, g, h, i, j⟩⟩

/-! ## The producer -/

/-- The exceptions of a calibration. -/
inductive CalibrationFailure where
  | calibration (message : String)
  | unavailable (message : String)
  | validation
  deriving DecidableEq, Repr

/-- The value of a number. -/
def numberOf (value : Json) : Option Rat :=
  value.numeral.map fun decimal => decimal.1 * (10 : Rat) ^ decimal.2

/-- `_fit_v2_calibration`: the resolution, the slope and the largest residual. -/
def fitV2Calibration (points : List ClockCalibrationPointV2) (resolutionTickDeltas : List Json) :
    Except CalibrationFailure (Rat × Rat × Rat) := do
  let deviceTicks : List Rat := points.map fun point => point.deviceTicks
  let hostMidpoints : List Rat := points.map fun point => point.hostStartedMonotonicNs +
    ((point.hostFinishedMonotonicNs : Rat) - point.hostStartedMonotonicNs) / 2
  let meanTicks := fmean deviceTicks
  let meanHost := fmean hostMidpoints
  let sumSquares := (deviceTicks.map fun value => (value - meanTicks) ^ 2).sum
  require (0 < sumSquares) (.calibration "Formal device timer calibration has no tick variance")
  let slope := ((deviceTicks.zip hostMidpoints).map fun pair =>
    (pair.1 - meanTicks) * (pair.2 - meanHost)).sum / sumSquares
  require (0 < slope)
    (.calibration "Formal device timer ns_per_tick must be finite and positive")
  let intercept := meanHost - slope * meanTicks
  let residuals := (points.zip (deviceTicks.zip hostMidpoints)).map fun entry =>
    |entry.2.2 - (intercept + slope * entry.2.1)| +
      ((entry.1.hostFinishedMonotonicNs : Rat) - entry.1.hostStartedMonotonicNs) / 2
  let deltas ← requireSome (resolutionTickDeltas.mapM numberOf)
    (.calibration "Formal device timer resolution samples are invalid")
  let resolution := deltas.min?.getD 0 * slope
  require (0 < resolution)
    (.calibration "Formal device timer resolution must be finite and positive")
  return (resolution, slope, residuals.max?.getD 0)

/-- A host clock, with its successive readings, and a device timer with its methods. -/
structure TimingDevices where
  nowNs : Nat → Int
  readTicks : Nat → Json
  sampleResolutionTicks : Option (Int → List Json)
  captureCalibrationInputs : Option (Int → Int → Json)
  captureSpacedCalibrationInputs : Option (Int → Int → Json)

/-- The method that delivers the inputs in a capture mode. -/
def TimingDevices.capture (devices : TimingDevices) (captureMode : String) :
    Option (Int → Int → Json) :=
  if captureMode = "measurement_process_spaced_v2" then devices.captureSpacedCalibrationInputs
  else devices.captureCalibrationInputs

/-- The capture modes of the measurement process. -/
def captureModes : List String :=
  ["measurement_process_atomic_v1", "measurement_process_spaced_v2"]

/-- The items of an iterable value. -/
def itemsOf : Json → Option (List Json)
  | .arr items => some items
  | .obj fields => some (fields.map fun field => .str field.1)
  | .str text => some (text.toList.map fun c => .str (String.singleton c))
  | _ => none

/-- The points of the host: the clock is read before and after the timer. -/
def hostPoints (devices : TimingDevices) (sampleCount : Int) :
    Except CalibrationFailure (List ClockCalibrationPointV2) :=
  (List.range sampleCount.toNat).mapM fun pointOrdinal => do
    let started := devices.nowNs (2 * pointOrdinal)
    let finished := devices.nowNs (2 * pointOrdinal + 1)
    require (started < finished)
      (.calibration "Formal clock calibration requires positive host intervals")
    requireSome (calibrationPoint (some (.int pointOrdinal))
      (some (devices.readTicks pointOrdinal)) (some (.int started)) (some (.int finished)))
      .validation

/-- The items of a field. -/
def fieldItems (source : Json.Object) (name : String) : Option (List Json) :=
  (source.get? name).bind itemsOf

/-- The inputs that the measurement process delivers. -/
def deliveredInputs (sampleCount : Int) (raw : Json) :
    Except CalibrationFailure (List ClockCalibrationPointV2 × List Json) :=
  match raw with
  | .obj source => do
      let invalid := CalibrationFailure.calibration
        "atomic calibration returned invalid raw inputs"
      let items ← requireSome (fieldItems source "points") invalid
      let points ← requireSome (items.mapM ClockCalibrationPointV2.modelValidate) invalid
      let deltas ← requireSome (fieldItems source "resolution_tick_deltas") invalid
      require ((points.length : Int) = sampleCount)
        (.calibration "atomic calibration returned the wrong point count")
      return (points, deltas)
  | _ => .error (.calibration "atomic calibration returned an invalid envelope")

/-- The points and the resolution samples of a capture mode. -/
def captureInputs (devices : TimingDevices) (sampleCount resolutionSampleCount : Int)
    (captureMode : Option String) :
    Except CalibrationFailure (List ClockCalibrationPointV2 × List Json) :=
  match captureMode with
  | some mode =>
      if mode ∈ captureModes then do
        let capture ← requireSome (devices.capture mode)
          (.unavailable (mode ++ " requires measurement-process capture support"))
        deliveredInputs sampleCount (capture sampleCount resolutionSampleCount)
      else .error (.calibration
        ("unsupported calibration capture mode: " ++ Json.quoted mode))
  | none => do
      let points ← hostPoints devices sampleCount
      let sampler ← requireSome devices.sampleResolutionTicks
        (.unavailable "Formal Stage 0 requires raw device timer resolution tick samples")
      return (points, sampler resolutionSampleCount)

/-- An integer that is no truth value. -/
def intOf : Json → Option Int
  | .int value => some value
  | _ => none

/-- `calibrate_device_timer_v2`. -/
def calibrateDeviceTimerV2 (devices : TimingDevices) (deviceIndex : Int)
    (sampleCount resolutionSampleCount : Int) (deviceName : String)
    (captureMode : Option String) : Except CalibrationFailure ClockCalibrationV2 := do
  require (3 ≤ sampleCount)
    (.calibration "Formal device timer calibration requires at least three points")
  let (points, deltas) ← captureInputs devices sampleCount resolutionSampleCount captureMode
  require (3 ≤ deltas.length)
    (.calibration "Formal device timer calibration requires at least three resolution samples")
  let (resolution, slope, residual) ← fitV2Calibration points deltas
  let resolutionTickDeltas ← requireSome (deltas.mapM intOf) .validation
  if valid : CalibrationValid deviceName deviceIndex resolution slope residual points
      resolutionTickDeltas then
    return ⟨deviceName, deviceIndex, resolution, slope, residual, points, resolutionTickDeltas,
      valid⟩
  else .error .validation

/-! ## The verifier -/

/-- `ClockCalibrationStatistics`. -/
structure ClockCalibrationStatistics where
  timerResolutionNs : Rat
  nsPerTick : Rat
  maxResidualNs : Rat
  pointCount : Nat
  deriving DecidableEq, Repr

/-- The timer-resolution observations from a position on. -/
def checkDeltas : Nat → List Json → Except StatisticsError (List Int)
  | _, [] => return []
  | position, value :: rest => do
      let delta ← requireSome ((intOf value).filter fun delta => 0 < delta ∧ delta ≤ uint64Max)
        ⟨s!"timer-resolution observation {position} must be a positive uint64 integer"⟩
      let others ← checkDeltas (position + 1) rest
      return delta :: others

/-- What the verifier takes from a point: the device time, the middle of the host interval and
half of it. -/
structure CalibrationReading where
  deviceTicks : Rat
  hostMidpoint : Rat
  hostHalfInterval : Rat
  deriving DecidableEq, Repr

/-- One turn of the loop over the points, after the last reading. -/
def readCalibrationPoint (position : Nat) (last : Option CalibrationReading) (point : Json) :
    Except StatisticsError CalibrationReading :=
  match point with
  | .obj source => do
      let ordinal ← strictInt source "point_ordinal" position 0 maxOrdinal
      require (ordinal = position)
        ⟨"calibration point ordinals must be contiguous and ordered"⟩
      let device ← strictInt source "device_ticks" position 0 uint64Max
      let started ← strictInt source "host_started_monotonic_ns" position 0 int64Max
      let finished ← strictInt source "host_finished_monotonic_ns" position 0 int64Max
      require (started < finished)
        ⟨s!"calibration point {position} requires a positive host interval"⟩
      require (∀ before ∈ last, before.deviceTicks < device)
        ⟨"calibration device ticks must strictly increase"⟩
      let midpoint : Rat := started + ((finished : Rat) - started) / 2
      require (∀ before ∈ last, before.hostMidpoint < midpoint)
        ⟨"calibration host midpoints must strictly increase"⟩
      return ⟨device, midpoint, ((finished : Rat) - started) / 2⟩
  | _ => .error ⟨s!"calibration point {position} must be a mapping"⟩

/-- The loop over the points from a position on. -/
def readCalibrationPoints :
    Nat → Option CalibrationReading → List Json → Except StatisticsError (List CalibrationReading)
  | _, _, [] => return []
  | position, last, point :: rest => do
      let reading ← readCalibrationPoint position last point
      let others ← readCalibrationPoints (position + 1) (some reading) rest
      return reading :: others

/-- The fit of the verifier. -/
def recomputeFit (deltas : List Int) (readings : List CalibrationReading) :
    Except StatisticsError ClockCalibrationStatistics := do
  let deviceTicks := readings.map CalibrationReading.deviceTicks
  let hostMidpoints := readings.map CalibrationReading.hostMidpoint
  let meanTicks := fmean deviceTicks
  let meanHost := fmean hostMidpoints
  let sumSquares := (deviceTicks.map fun value => (value - meanTicks) ^ 2).sum
  require (0 < sumSquares) ⟨"calibration device ticks have no variance"⟩
  let slope := ((deviceTicks.zip hostMidpoints).map fun pair =>
    (pair.1 - meanTicks) * (pair.2 - meanHost)).sum / sumSquares
  require (0 < slope) ⟨"calibration ns_per_tick must be finite and positive"⟩
  let intercept := meanHost - slope * meanTicks
  let residuals := readings.map fun reading =>
    |reading.hostMidpoint - (intercept + slope * reading.deviceTicks)| + reading.hostHalfInterval
  let resolution := ((deltas.min?.getD 0 : Int) : Rat) * slope
  require (0 < resolution) ⟨"timer resolution must be finite and positive"⟩
  return ⟨resolution, slope, residuals.max?.getD 0, readings.length⟩

/-- `recompute_clock_calibration`. -/
def recomputeClockCalibration (points : List Json) (resolutionTickDeltas : List Json) :
    Except StatisticsError ClockCalibrationStatistics := do
  require (3 ≤ points.length) ⟨"at least three clock calibration points are required"⟩
  require (3 ≤ resolutionTickDeltas.length)
    ⟨"at least three timer-resolution observations are required"⟩
  let deltas ← checkDeltas 0 resolutionTickDeltas
  let readings ← readCalibrationPoints 0 none points
  recomputeFit deltas readings

/-! ## The same points -/

section Points

variable {point : ClockCalibrationPointV2} {points : List ClockCalibrationPointV2}

/-- What the verifier takes from a point of a calibration. -/
def ClockCalibrationPointV2.reading (point : ClockCalibrationPointV2) : CalibrationReading where
  deviceTicks := point.deviceTicks
  hostMidpoint := point.hostStartedMonotonicNs +
    ((point.hostFinishedMonotonicNs : Rat) - point.hostStartedMonotonicNs) / 2
  hostHalfInterval := ((point.hostFinishedMonotonicNs : Rat) - point.hostStartedMonotonicNs) / 2

/-- The host interval of a point is not empty. -/
def ClockCalibrationPointV2.Positive (point : ClockCalibrationPointV2) : Prop :=
  point.hostStartedMonotonicNs < point.hostFinishedMonotonicNs

/-- Device and host time go on from one point to the next. -/
def GoesOn (previous current : ClockCalibrationPointV2) : Prop :=
  previous.deviceTicks < current.deviceTicks ∧ previous.hostMidpointNs < current.hostMidpointNs

/-- **Middles that are rounded down** only increase when the middles do. -/
theorem hostMidpoint_lt {previous current : ClockCalibrationPointV2}
    (increasing : previous.hostMidpointNs < current.hostMidpointNs) :
    previous.reading.hostMidpoint < current.reading.hostMidpoint := by
  have doubled : previous.hostStartedMonotonicNs + previous.hostFinishedMonotonicNs <
      current.hostStartedMonotonicNs + current.hostFinishedMonotonicNs := by
    unfold ClockCalibrationPointV2.hostMidpointNs at increasing
    omega
  have doubled' : (previous.hostStartedMonotonicNs : Rat) + previous.hostFinishedMonotonicNs <
      current.hostStartedMonotonicNs + current.hostFinishedMonotonicNs := by
    exact_mod_cast doubled
  simp only [ClockCalibrationPointV2.reading]
  linarith

/-- **One turn of the verifier** over a point of a calibration. -/
theorem readCalibrationPoint_eq_ok {position : Nat} {last : Option CalibrationReading}
    {reading : CalibrationReading} :
    readCalibrationPoint position last point.dump = .ok reading ↔
      point.pointOrdinal = position ∧ point.Positive ∧
        (∀ before ∈ last, before.deviceTicks < point.reading.deviceTicks ∧
          before.hostMidpoint < point.reading.hostMidpoint) ∧ reading = point.reading := by
  have ordinalAt : Json.Object.get? [("point_ordinal", .int point.pointOrdinal),
      ("device_ticks", .int point.deviceTicks),
      ("host_started_monotonic_ns", .int point.hostStartedMonotonicNs),
      ("host_finished_monotonic_ns", .int point.hostFinishedMonotonicNs)] "point_ordinal" =
        some (.int point.pointOrdinal) := rfl
  have ticksAt : Json.Object.get? [("point_ordinal", .int point.pointOrdinal),
      ("device_ticks", .int point.deviceTicks),
      ("host_started_monotonic_ns", .int point.hostStartedMonotonicNs),
      ("host_finished_monotonic_ns", .int point.hostFinishedMonotonicNs)] "device_ticks" =
        some (.int point.deviceTicks) := rfl
  have startedAt : Json.Object.get? [("point_ordinal", .int point.pointOrdinal),
      ("device_ticks", .int point.deviceTicks),
      ("host_started_monotonic_ns", .int point.hostStartedMonotonicNs),
      ("host_finished_monotonic_ns", .int point.hostFinishedMonotonicNs)]
        "host_started_monotonic_ns" = some (.int point.hostStartedMonotonicNs) := rfl
  have finishedAt : Json.Object.get? [("point_ordinal", .int point.pointOrdinal),
      ("device_ticks", .int point.deviceTicks),
      ("host_started_monotonic_ns", .int point.hostStartedMonotonicNs),
      ("host_finished_monotonic_ns", .int point.hostFinishedMonotonicNs)]
        "host_finished_monotonic_ns" = some (.int point.hostFinishedMonotonicNs) := rfl
  simp only [readCalibrationPoint, ClockCalibrationPointV2.dump, Except.bind_eq_ok,
    strictInt_eq_ok, require_eq_ok, ordinalAt, ticksAt, startedAt, finishedAt, Option.some.injEq,
    Json.int.injEq]
  constructor
  · rintro ⟨_, ⟨rfl, -⟩, -, ordinal, _, ⟨rfl, -⟩, _, ⟨rfl, -⟩, _, ⟨rfl, -⟩, -, positive, -, ticks,
      -, middle, same⟩
    cases same
    exact ⟨ordinal, positive, fun before known => ⟨ticks before known, middle before known⟩, rfl⟩
  · rintro ⟨ordinal, positive, later, rfl⟩
    exact ⟨_, ⟨rfl, point.ordinal⟩, (), ordinal, _, ⟨rfl, point.ticks⟩, _, ⟨rfl, point.started⟩, _,
      ⟨rfl, point.finished⟩, (), positive, (), fun before known => (later before known).1, (),
      fun before known => (later before known).2, rfl⟩

/-- **The loop of the verifier** over the points of a calibration. -/
theorem readCalibrationPoints_eq_ok {readings : List CalibrationReading} :
    ∀ {position : Nat} {last : Option ClockCalibrationPointV2},
      (last.toList ++ points).IsChain GoesOn →
      points.map ClockCalibrationPointV2.pointOrdinal =
        (List.range' position points.length).map Int.ofNat →
      (readCalibrationPoints position (last.map ClockCalibrationPointV2.reading)
          (points.map ClockCalibrationPointV2.dump) = .ok readings ↔
        (∀ point ∈ points, point.Positive) ∧
          readings = points.map ClockCalibrationPointV2.reading) := by
  induction points generalizing readings with
  | nil =>
      intro position last _ _
      simp [readCalibrationPoints, pure, Except.pure, eq_comm]
  | cons point points ih =>
      intro position last chain ordinals
      rw [List.map_cons, List.length_cons, List.range'_succ, List.map_cons] at ordinals
      obtain ⟨ordinal, others⟩ := List.cons.inj ordinals
      have onward : ((some point).toList ++ points).IsChain GoesOn := by
        cases last with
        | none => exact chain
        | some before => exact (List.isChain_cons_cons.mp chain).2
      have later : ∀ before ∈ last.map ClockCalibrationPointV2.reading,
          before.deviceTicks < point.reading.deviceTicks ∧
            before.hostMidpoint < point.reading.hostMidpoint := by
        cases last with
        | none => simp
        | some before =>
            obtain ⟨ticks, middle⟩ := (List.isChain_cons_cons.mp chain).1
            rintro _ ⟨⟩
            exact ⟨Int.cast_lt.mpr ticks, hostMidpoint_lt middle⟩
      rw [List.map_cons, readCalibrationPoints]
      simp only [Except.bind_eq_ok, readCalibrationPoint_eq_ok]
      constructor
      · rintro ⟨_, ⟨-, positive, -, rfl⟩, others', rest, same⟩
        cases same
        obtain ⟨all, rfl⟩ := (ih onward others).mp rest
        exact ⟨List.forall_mem_cons.mpr ⟨positive, all⟩, rfl⟩
      · rintro ⟨positive, rfl⟩
        obtain ⟨here, all⟩ := List.forall_mem_cons.mp positive
        exact ⟨_, ⟨ordinal, here, later, rfl⟩, _, (ih onward others).mpr ⟨all, rfl⟩, rfl⟩

end Points

/-! ## The same fit -/

/-- The smallest of integers is the smallest of their values. -/
theorem min?_map_cast (values : List Int) :
    (values.map (Int.cast (R := Rat))).min? = values.min?.map Int.cast := by
  induction values with
  | nil => rfl
  | cons value values ih =>
      rw [List.map_cons, List.min?_cons, ih, List.min?_cons]
      cases values.min? with
      | none => rfl
      | some least => simp [Int.cast_min]

theorem eq_map_int {values : List Json} {numbers : List Int}
    (all : values.mapM intOf = some numbers) : values = numbers.map Json.int := by
  induction values generalizing numbers with
  | nil =>
      cases all
      rfl
  | cons value values ih =>
      rw [List.mapM_cons] at all
      obtain ⟨number, here, all⟩ := Option.bind_eq_some_iff.mp all
      obtain ⟨numbers', later, same⟩ := Option.bind_eq_some_iff.mp all
      cases same
      rw [List.map_cons, ih later]
      cases value with
      | int value =>
          cases here
          rfl
      | _ => cases here

theorem mapM_numberOf (numbers : List Int) :
    (numbers.map Json.int).mapM numberOf = some (numbers.map Int.cast) := by
  induction numbers with
  | nil => rfl
  | cons number numbers ih =>
      have here : numberOf (.int number) = some (number : Rat) := by
        simp [numberOf, Json.numeral]
      rw [List.map_cons, List.mapM_cons, ih, here]
      rfl

/-- Values of the same items stand side by side. -/
theorem map_zip_zip {α : Type} (items : List α) (f g : α → Rat) (h : α × Rat × Rat → Rat) :
    (items.zip ((items.map f).zip (items.map g))).map h =
      items.map fun item => h (item, f item, g item) := by
  induction items with
  | nil => rfl
  | cons item items ih => simp [ih]

/-- **The two fits are one.** What the producer finds, the verifier finds. -/
theorem recomputeFit_of_fitV2Calibration {points : List ClockCalibrationPointV2}
    {deltas : List Int} {resolution slope residual : Rat}
    (fitted : fitV2Calibration points (deltas.map .int) = .ok (resolution, slope, residual)) :
    recomputeFit deltas (points.map ClockCalibrationPointV2.reading) =
      .ok ⟨resolution, slope, residual, points.length⟩ := by
  simp only [fitV2Calibration, Except.bind_eq_ok, require_eq_ok, requireSome_eq_ok,
    mapM_numberOf, Option.some.injEq] at fitted
  obtain ⟨-, variance, -, positive, _, rfl, -, resolved, same⟩ := fitted
  have least : (((deltas.min?.getD 0 : Int)) : Rat) =
      (deltas.map (Int.cast (R := Rat))).min?.getD 0 := by
    rw [min?_map_cast]
    cases deltas.min? <;> simp
  have ticks : (points.map ClockCalibrationPointV2.reading).map CalibrationReading.deviceTicks =
      points.map fun point => (point.deviceTicks : Rat) := by
    rw [List.map_map]
    rfl
  have middles : (points.map ClockCalibrationPointV2.reading).map
      CalibrationReading.hostMidpoint = points.map fun point => point.hostStartedMonotonicNs +
        ((point.hostFinishedMonotonicNs : Rat) - point.hostStartedMonotonicNs) / 2 := by
    rw [List.map_map]
    rfl
  simp only [recomputeFit, Except.bind_eq_ok, require_eq_ok, ticks, middles, least]
  refine ⟨(), variance, (), positive, (), resolved, ?_⟩
  cases same
  have residuals : ∀ f : CalibrationReading → Rat,
      (points.map ClockCalibrationPointV2.reading).map f =
        points.map fun point => f point.reading := fun f => List.map_map
  rw [map_zip_zip, residuals, List.length_map]
  rfl

/-- Observations that the model takes, the verifier takes. -/
theorem checkDeltas_eq_ok {deltas : List Int} : ∀ {position : Nat},
    (∀ delta ∈ deltas, 0 < delta ∧ delta ≤ uint64Max) →
      checkDeltas position (deltas.map .int) = .ok deltas := by
  induction deltas with
  | nil => exact fun _ => rfl
  | cons delta deltas ih =>
      intro position within
      obtain ⟨here, later⟩ := List.forall_mem_cons.mp within
      rw [List.map_cons, checkDeltas]
      simp only [Except.bind_eq_ok, requireSome_eq_ok]
      exact ⟨delta, by simp [intOf, here], deltas, ih later, rfl⟩

/-! ## Agreement -/

/-- **The verifier on the points of a calibration**: it finds the fit of the producer when no
host interval is empty, and raises otherwise. -/
theorem recompute_calibration_iff {calibration : ClockCalibrationV2}
    (fitted : fitV2Calibration calibration.points (calibration.resolutionTickDeltas.map .int) =
      .ok (calibration.timerResolutionNs, calibration.nsPerTick, calibration.maxResidualNs)) :
    recomputeClockCalibration (calibration.points.map ClockCalibrationPointV2.dump)
        (calibration.resolutionTickDeltas.map .int) =
      .ok ⟨calibration.timerResolutionNs, calibration.nsPerTick, calibration.maxResidualNs,
        calibration.points.length⟩ ↔
      ∀ point ∈ calibration.points, point.Positive := by
  have valid := calibration.valid
  have ordinals : calibration.points.map ClockCalibrationPointV2.pointOrdinal =
      (List.range' 0 calibration.points.length).map Int.ofNat := by
    rw [valid.ordinals, List.range_eq_range']
  have read : ∀ readings, readCalibrationPoints 0 none
      (calibration.points.map ClockCalibrationPointV2.dump) = .ok readings ↔
        (∀ point ∈ calibration.points, point.Positive) ∧
          readings = calibration.points.map ClockCalibrationPointV2.reading := fun readings =>
    @readCalibrationPoints_eq_ok calibration.points readings 0 none valid.increasing ordinals
  simp only [recomputeClockCalibration, Except.bind_eq_ok, require_eq_ok,
    checkDeltas_eq_ok valid.deltas, List.length_map]
  constructor
  · rintro ⟨-, -, -, -, _, -, readings, found, -⟩
    exact ((read readings).mp found).1
  · intro positive
    exact ⟨(), valid.pointCount, (), valid.deltaCount, _, rfl, _,
      (read _).mpr ⟨positive, rfl⟩, recomputeFit_of_fitV2Calibration fitted⟩

/-- The host interval of a delivered point is not empty. -/
def PositiveInterval (point : Json) : Prop :=
  ∀ (source : Json.Object) (started finished : Int), point = .obj source →
    source.get? "host_started_monotonic_ns" = some (.int started) →
      source.get? "host_finished_monotonic_ns" = some (.int finished) → started < finished

/-- In a capture mode of the measurement process, no delivered point has an empty host
interval. -/
def PositiveIntervals (devices : TimingDevices) (sampleCount resolutionSampleCount : Int)
    (captureMode : Option String) : Prop :=
  ∀ mode ∈ captureMode, ∀ capture ∈ devices.capture mode, ∀ (source : Json.Object) (items),
    capture sampleCount resolutionSampleCount = .obj source →
      fieldItems source "points" = some items → ∀ item ∈ items, PositiveInterval item

/-- A point has the fields it was made of. -/
theorem calibrationPoint_eq_some {ordinal ticks started finished : Option Json}
    {point : ClockCalibrationPointV2}
    (made : calibrationPoint ordinal ticks started finished = some point) :
    started = some (.int point.hostStartedMonotonicNs) ∧
      finished = some (.int point.hostFinishedMonotonicNs) := by
  unfold calibrationPoint at made
  split at made
  · split at made
    · cases made
      exact ⟨rfl, rfl⟩
    · cases made
  · cases made

theorem modelValidate_positive {item : Json} {point : ClockCalibrationPointV2}
    (made : ClockCalibrationPointV2.modelValidate item = some point) :
    PositiveInterval item ↔ point.Positive := by
  unfold ClockCalibrationPointV2.modelValidate at made
  split at made
  · rename_i source
    split at made
    · obtain ⟨startedAt, finishedAt⟩ := calibrationPoint_eq_some made
      constructor
      · exact fun positive => positive source _ _ rfl startedAt finishedAt
      · rintro positive _ started finished ⟨⟩ startedAt' finishedAt'
        rw [startedAt] at startedAt'
        rw [finishedAt] at finishedAt'
        cases startedAt'
        cases finishedAt'
        exact positive
    · cases made
  · cases made

/-- Points of items, in order. -/
theorem mapM_modelValidate_positive {items : List Json} {points : List ClockCalibrationPointV2}
    (made : items.mapM ClockCalibrationPointV2.modelValidate = some points) :
    (∀ item ∈ items, PositiveInterval item) ↔ ∀ point ∈ points, point.Positive := by
  induction items generalizing points with
  | nil =>
      cases made
      simp
  | cons item items ih =>
      rw [List.mapM_cons] at made
      obtain ⟨point, here, made⟩ := Option.bind_eq_some_iff.mp made
      obtain ⟨points', later, same⟩ := Option.bind_eq_some_iff.mp made
      cases same
      rw [List.forall_mem_cons, List.forall_mem_cons, modelValidate_positive here, ih later]

/-- A point of the host has its interval. -/
theorem hostPoints_positive {devices : TimingDevices} {sampleCount : Int}
    {points : List ClockCalibrationPointV2} (read : hostPoints devices sampleCount = .ok points) :
    ∀ point ∈ points, point.Positive := by
  intro point member
  obtain ⟨index, -, here⟩ := exists_of_forall₂ (mapM_ok_iff.mp read) member
  obtain ⟨_, positive, made⟩ := Except.bind_eq_ok.mp here
  obtain ⟨started, finished⟩ := calibrationPoint_eq_some (requireSome_eq_ok.mp made)
  rw [Option.some.injEq, Json.int.injEq] at started finished
  rw [ClockCalibrationPointV2.Positive, ← started, ← finished]
  exact require_eq_ok.mp positive

/-- The captured points have no empty host interval when the delivered ones have none. -/
theorem captureInputs_positive {devices : TimingDevices} {sampleCount resolutionSampleCount : Int}
    {captureMode : Option String} {points : List ClockCalibrationPointV2} {deltas : List Json}
    (captured : captureInputs devices sampleCount resolutionSampleCount captureMode =
      .ok (points, deltas)) :
    (∀ point ∈ points, point.Positive) ↔
      PositiveIntervals devices sampleCount resolutionSampleCount captureMode := by
  unfold captureInputs at captured
  split at captured
  · rename_i mode
    split at captured
    · obtain ⟨capture, known, delivered⟩ := Except.bind_eq_ok.mp captured
      have known := requireSome_eq_ok.mp known
      unfold deliveredInputs at delivered
      split at delivered
      · rename_i source envelope
        simp only [Except.bind_eq_ok, requireSome_eq_ok, require_eq_ok] at delivered
        obtain ⟨items, listed, points', made, _, -, -, -, same⟩ := delivered
        cases same
        rw [← mapM_modelValidate_positive made]
        constructor
        · rintro positive _ ⟨⟩ capture' known' source' items' envelope' listed'
          cases known.symm.trans known'
          cases envelope.symm.trans envelope'
          cases listed.symm.trans listed'
          exact positive
        · exact fun positive => positive mode rfl capture known source items envelope listed
      · cases delivered
    · cases captured
  · obtain ⟨points', read, captured⟩ := Except.bind_eq_ok.mp captured
    obtain ⟨_, -, same⟩ := Except.bind_eq_ok.mp captured
    cases same
    refine iff_of_true (hostPoints_positive read) ?_
    rintro _ ⟨⟩

/-- **When producer and verifier agree.** The verifier finds the fit of a calibration exactly when
no delivered point has an empty host interval. -/
theorem calibration_agrees_iff {devices : TimingDevices}
    {deviceIndex sampleCount resolutionSampleCount : Int} {deviceName : String}
    {captureMode : Option String} {calibration : ClockCalibrationV2}
    (produced : calibrateDeviceTimerV2 devices deviceIndex sampleCount resolutionSampleCount
      deviceName captureMode = .ok calibration) :
    recomputeClockCalibration (calibration.points.map ClockCalibrationPointV2.dump)
        (calibration.resolutionTickDeltas.map .int) =
      .ok ⟨calibration.timerResolutionNs, calibration.nsPerTick, calibration.maxResidualNs,
        calibration.points.length⟩ ↔
      PositiveIntervals devices sampleCount resolutionSampleCount captureMode := by
  obtain ⟨_, -, afterCount⟩ := Except.bind_eq_ok.mp produced
  obtain ⟨⟨points, deltas⟩, captured, afterCapture⟩ := Except.bind_eq_ok.mp afterCount
  obtain ⟨_, -, afterDeltas⟩ := Except.bind_eq_ok.mp afterCapture
  obtain ⟨⟨resolution, slope, residual⟩, fitted, afterFit⟩ := Except.bind_eq_ok.mp afterDeltas
  obtain ⟨integers, all, made⟩ := Except.bind_eq_ok.mp afterFit
  split at made
  · clear produced afterCount afterCapture afterDeltas afterFit
    obtain rfl := eq_map_int (requireSome_eq_ok.mp all)
    have same := Except.ok.inj made
    subst same
    refine (recompute_calibration_iff ?_).trans (captureInputs_positive captured)
    exact fitted
  · cases made

/-! ## A delivered point without an interval -/

/-- A delivered point. -/
def deliveredPoint (ordinal ticks started finished : Int) : Json :=
  .obj [("point_ordinal", .int ordinal), ("device_ticks", .int ticks),
    ("host_started_monotonic_ns", .int started), ("host_finished_monotonic_ns", .int finished)]

/-- A measurement process that delivers three points, the last one with a host interval of some
nanoseconds. -/
def deliveringDevices (width : Int) : TimingDevices where
  nowNs _ := 0
  readTicks _ := .int 0
  sampleResolutionTicks := none
  captureCalibrationInputs := some fun _ _ => .obj
    [("points", .arr [deliveredPoint 0 10 100 102, deliveredPoint 1 20 200 202,
      deliveredPoint 2 30 300 (300 + width)]),
      ("resolution_tick_deltas", .arr [.int 1, .int 1, .int 2])]
  captureSpacedCalibrationInputs := none

/-- A calibration of three delivered points. -/
def deliveredCalibration (width : Int) : Except CalibrationFailure ClockCalibrationV2 :=
  calibrateDeviceTimerV2 (deliveringDevices width) 0 3 64 "device-timer"
    (some "measurement_process_atomic_v1")

theorem eq_ok_of_mem_toOption {calibration : ClockCalibrationV2}
    {result : Except CalibrationFailure ClockCalibrationV2}
    (made : calibration ∈ result.toOption) : result = .ok calibration := by
  cases result with
  | error failure => cases made
  | ok found =>
      cases made
      rfl

/-- Delivered points with intervals are calibrated, and the verifier agrees. -/
theorem calibration_agrees_delivered : (∃ calibration, deliveredCalibration 2 = .ok calibration) ∧
    PositiveIntervals (deliveringDevices 2) 3 64 (some "measurement_process_atomic_v1") := by
  have agrees : ∃ calibration ∈ (deliveredCalibration 2).toOption,
      recomputeClockCalibration (calibration.points.map ClockCalibrationPointV2.dump)
          (calibration.resolutionTickDeltas.map .int) =
        .ok ⟨calibration.timerResolutionNs, calibration.nsPerTick, calibration.maxResidualNs,
          calibration.points.length⟩ := by decide +kernel
  obtain ⟨calibration, made, agrees⟩ := agrees
  have produced := eq_ok_of_mem_toOption made
  exact ⟨⟨calibration, produced⟩, (calibration_agrees_iff produced).mp agrees⟩

/-- **A point of an empty interval.** The producer returns a calibration and the verifier refuses
its points. -/
theorem empty_interval_refused : ∃ calibration, deliveredCalibration 0 = .ok calibration ∧
    recomputeClockCalibration (calibration.points.map ClockCalibrationPointV2.dump)
        (calibration.resolutionTickDeltas.map .int) =
      .error ⟨"calibration point 2 requires a positive host interval"⟩ := by
  have refused : ∃ calibration ∈ (deliveredCalibration 0).toOption,
      recomputeClockCalibration (calibration.points.map ClockCalibrationPointV2.dump)
          (calibration.resolutionTickDeltas.map .int) =
        .error ⟨"calibration point 2 requires a positive host interval"⟩ := by decide +kernel
  obtain ⟨calibration, made, refused⟩ := refused
  exact ⟨calibration, eq_ok_of_mem_toOption made, refused⟩

end Stage0

end HcuAutoOpt
