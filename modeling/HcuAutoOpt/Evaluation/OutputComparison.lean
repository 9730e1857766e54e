import HcuAutoOpt.Foundation.CommittedCalls
import HcuAutoOpt.Foundation.Json
import Mathlib.Data.List.Sort
import Mathlib.Data.Rat.Defs
import Mathlib.Algebra.Order.Ring.Unbundled.Rat
import Mathlib.Algebra.Order.Ring.Abs
import Mathlib.Order.WithBot

/-!
# The comparison of kernel outputs

`_compare_outputs` of `evaluation/m1_verifier.py`, with the specification of a hotspot
from `evaluation/m1_protocol.py`: the records of a reference and of a candidate execution
are indexed by case, seed, special value and repeat, their inputs are checked against the
frozen expectation, and every output element is compared within its specification.

A finite double is a rational number, a negative zero apart, and a computation with
doubles is the exact one followed by a rounding (`ComparisonEnvironment.round`), which
gives nothing when the result leaves the range. The hash of the inputs and the text of a
double are parameters as well.
-/

set_option autoImplicit false

namespace HcuAutoOpt

namespace M1Verifier

open Foundation

/-! ## The specification of a hotspot -/

/-- The `dtype` of a tensor specification. -/
inductive TensorDtype where
  | bool | int8 | int16 | int32 | int64 | float16 | bfloat16 | float32 | float64
  deriving DecidableEq, Repr

namespace TensorDtype

def text : TensorDtype → String
  | bool => "bool"
  | int8 => "int8"
  | int16 => "int16"
  | int32 => "int32"
  | int64 => "int64"
  | float16 => "float16"
  | bfloat16 => "bfloat16"
  | float32 => "float32"
  | float64 => "float64"

/-- `dtype.startswith("int")`. -/
def isInt : TensorDtype → Bool
  | int8 | int16 | int32 | int64 => true
  | _ => false

end TensorDtype

/-- `M1TensorSpec`. -/
structure M1TensorSpec where
  name : String
  shape : List Nat
  dtype : TensorDtype
  positive : ∀ dimension ∈ shape, 1 ≤ dimension

/-- `M1TensorSpec.element_count`. -/
def M1TensorSpec.elementCount (spec : M1TensorSpec) : Nat :=
  spec.shape.foldl (fun result dimension => result * dimension) 1

/-- `M1OutputSpec`. -/
structure M1OutputSpec extends M1TensorSpec where
  atol : Rat
  rtol : Rat
  equalNan : Bool
  tolerances : 0 ≤ atol ∧ 0 ≤ rtol
  exact : dtype.isInt ∨ dtype = .bool → atol = 0 ∧ rtol = 0 ∧ equalNan = false

/-- `M1CorrectnessCase`. -/
structure M1CorrectnessCase where
  caseId : String
  inputs : List M1TensorSpec
  outputs : List M1OutputSpec
  seeds : List Int
  specialValues : List String
  repeats : Nat
  seedsUnique : seeds.Nodup
  specialValuesUnique : specialValues.Nodup
  inputNamesUnique : (inputs.map M1TensorSpec.name).Nodup
  outputNamesUnique : (outputs.map fun spec => spec.name).Nodup

/-- `M1InputExpectation`. -/
structure M1InputExpectation where
  caseId : String
  seed : Int
  specialValue : String
  inputHash : String

/-- `M1HotspotCorrectnessSpec`. -/
structure M1HotspotCorrectnessSpec where
  hotspotId : String
  cases : List M1CorrectnessCase
  inputExpectations : List M1InputExpectation
  casesUnique : (cases.map M1CorrectnessCase.caseId).Nodup
  expectationsUnique :
    (inputExpectations.map fun item => (item.caseId, item.seed, item.specialValue)).Nodup
  expectationsCover : ∀ caseId seed special,
    (caseId, seed, special) ∈
        inputExpectations.map (fun item => (item.caseId, item.seed, item.specialValue)) ↔
      ∃ case ∈ cases, case.caseId = caseId ∧ seed ∈ case.seeds ∧ special ∈ case.specialValues

/-! ## Normalized outputs -/

/-- A finite double. -/
inductive FiniteDouble where
  | negativeZero
  | number (value : Rat)
  deriving DecidableEq, Repr

/-- The number that a finite double is. -/
def FiniteDouble.value : FiniteDouble → Rat
  | .negativeZero => 0
  | .number value => value

/-- The registered special tokens. -/
inductive SpecialToken where
  | nan | positiveInf | negativeInf
  deriving DecidableEq, Repr

/-- `ScalarValue`. -/
inductive ScalarValue where
  | bool (value : Bool)
  | int (value : Int)
  | float (value : FiniteDouble)
  | token (value : SpecialToken)
  deriving DecidableEq, Repr

/-- `M1TensorOutput`. -/
structure M1TensorOutput where
  name : String
  shape : List Int
  dtype : String
  values : List ScalarValue
  deriving DecidableEq, Repr

/-- The key of a record. -/
structure RecordKey where
  caseId : String
  seed : Int
  specialValue : String
  repeatOrdinal : Nat
  deriving DecidableEq, Repr

/-- `M1OutputRecord`. -/
structure M1OutputRecord where
  key : RecordKey
  inputs : List M1TensorOutput
  outputs : List M1TensorOutput
  deriving DecidableEq, Repr

/-- `M1NormalizedOutputV1`. -/
structure M1NormalizedOutputV1 where
  hotspotId : String
  records : List M1OutputRecord
  deriving DecidableEq, Repr

/-- An error of a comparison: infinite when it leaves the range of a double. -/
abbrev Magnitude : Type := WithTop Rat

/-- `M1Mismatch`. -/
structure M1Mismatch where
  key : RecordKey
  outputName : String
  elementIndex : Nat
  reference : String
  candidate : String
  absoluteError : Option Magnitude
  relativeError : Option Magnitude
  deriving DecidableEq

/-- What the comparison raises. -/
inductive ComparisonError where
  /-- `M1EvidenceError`. -/
  | evidence (code message : String)
  /-- `OverflowError`: an integer that no double is near. -/
  | overflow
  /-- A `ValidationError`: a model holds no infinite number. -/
  | validation (model field : String)
  /-- `KeyError`. -/
  | key
  deriving DecidableEq, Repr

/-- The parameters of a comparison. -/
structure ComparisonEnvironment where
  /-- The double nearest to a number, if it is in the range of a double. -/
  round : Rat → Option Rat
  /-- `_input_tensor_hash`. -/
  inputHash : List M1TensorOutput → String
  /-- `repr` of a double. -/
  floatText : FiniteDouble → String

/-! ## Scalars -/

/-- `isinstance(value, bool)`, of the decoded value. -/
def ScalarValue.isBool : ScalarValue → Bool
  | .bool _ => true
  | _ => false

/-- The number that a scalar is to `==`: a boolean is 0 or 1. -/
def ScalarValue.number : ScalarValue → Option Rat
  | .bool value => some (if value then 1 else 0)
  | .int value => some value
  | .float value => some value.value
  | .token _ => none

/-- `left == right`. -/
def ScalarValue.eq (left right : ScalarValue) : Bool :=
  match left, right with
  | .token a, .token b => a == b
  | left, right => left.number.isSome && left.number == right.number

/-- `left == right` of two tensors. -/
def M1TensorOutput.eq (left right : M1TensorOutput) : Bool :=
  left.name == right.name && left.shape == right.shape && left.dtype == right.dtype &&
    left.values.length == right.values.length &&
    (left.values.zip right.values).all fun pair => pair.1.eq pair.2

/-- A double. -/
inductive Double where
  | nan
  | positiveInf
  | negativeInf
  | finite (value : Rat)
  deriving DecidableEq, Repr

namespace Double

def isNan : Double → Bool
  | nan => true
  | _ => false

def isInf : Double → Bool
  | positiveInf | negativeInf => true
  | _ => false

end Double

section

variable (env : ComparisonEnvironment)

/-- `float(_decode_scalar(value))`. -/
def toDouble : ScalarValue → Except ComparisonError Double
  | .bool value => .ok (.finite (if value then 1 else 0))
  | .int value => do return .finite (← requireSome (env.round value) .overflow)
  | .float value => .ok (.finite value.value)
  | .token .nan => .ok .nan
  | .token .positiveInf => .ok .positiveInf
  | .token .negativeInf => .ok .negativeInf

/-- A rounded magnitude; infinity when it leaves the range of a double. -/
def rounded (value : Rat) : Magnitude :=
  match env.round value with
  | some near => ((|near| : Rat) : Magnitude)
  | none => ⊤

/-- `absolute / abs(left)`. -/
def relativeTo (absolute : Magnitude) (left : Rat) : Magnitude :=
  match absolute with
  | none => ⊤
  | some error => rounded env (error / |left|)

/-- `spec.atol + spec.rtol * abs(left)`. -/
def tolerance (spec : M1OutputSpec) (left : Rat) : Magnitude :=
  match rounded env (spec.rtol * |left|) with
  | none => ⊤
  | some slack => rounded env (spec.atol + slack)

/-- What `_compare_scalar` returns. -/
structure ScalarComparison where
  matched : Bool
  absolute : Option Magnitude := none
  relative : Option Magnitude := none
  deriving DecidableEq

/-- The comparison of two doubles of which neither is infinite nor a nan. -/
def compareFinite (spec : M1OutputSpec) (left right : Rat) : ScalarComparison :=
  let absolute := rounded env (right - left)
  { matched := decide (absolute ≤ tolerance env spec left)
    absolute := some absolute
    relative := if left ≠ 0 then some (relativeTo env absolute left) else none }

/-- The comparison of two doubles. -/
def compareDoubles (spec : M1OutputSpec) (left right : Double) : ScalarComparison :=
  if left.isNan || right.isNan then
    { matched := spec.equalNan && left.isNan && right.isNan }
  else
    match left, right with
    | .finite left, .finite right => compareFinite env spec left right
    | left, right => { matched := left == right }

/-- `_compare_scalar`. -/
def compareScalar (reference candidate : ScalarValue) (spec : M1OutputSpec) :
    Except ComparisonError ScalarComparison :=
  if reference.isBool || candidate.isBool then
    .ok { matched := reference.isBool && candidate.isBool && reference.eq candidate }
  else if spec.dtype.isInt then
    match reference, candidate with
    | .int left, .int right => .ok { matched := left == right }
    | _, _ => .ok { matched := false }
  else do
    let left ← toDouble env reference
    let right ← toDouble env candidate
    return compareDoubles env spec left right

/-! ## Records -/

/-- `_index_records`: the records of a dictionary, each under its own key. -/
def indexRecords (records : List M1OutputRecord) : Except ComparisonError (List M1OutputRecord) :=
  records.foldlM (fun indexed item => do
    require (item.key ∉ indexed.map M1OutputRecord.key)
      (.evidence "output_record_duplicate"
        ("duplicate output record: (" ++ Json.quoted item.key.caseId ++ ", " ++
          toString item.key.seed ++ ", " ++ Json.quoted item.key.specialValue ++ ", " ++
          toString item.key.repeatOrdinal ++ ")"))
    return indexed ++ [item]) []

/-- `_index_tensors`: the tensors of a dictionary, each under its own name. -/
def indexTensors (outputs : List M1TensorOutput) : Except ComparisonError (List M1TensorOutput) := do
  require (outputs.map M1TensorOutput.name).Nodup
    (.evidence "output_name_duplicate" "normalized output names repeat")
  return outputs

/-- `indexed[name]`. -/
def tensorNamed (indexed : List M1TensorOutput) (name : String) :
    Except ComparisonError M1TensorOutput :=
  requireSome (indexed.find? fun tensor => decide (tensor.name = name)) .key

/-- `set(indexed) == set(expected)`. -/
def SameNames (indexed : List M1TensorOutput) (expected : List M1TensorSpec) : Prop :=
  (∀ tensor ∈ indexed, tensor.name ∈ expected.map M1TensorSpec.name) ∧
    ∀ spec ∈ expected, spec.name ∈ indexed.map M1TensorOutput.name

instance (indexed : List M1TensorOutput) (expected : List M1TensorSpec) :
    Decidable (SameNames indexed expected) := by
  unfold SameNames
  infer_instance

/-- The key set of a specification, without its repetitions. -/
def M1HotspotCorrectnessSpec.expectedKeys (hotspot : M1HotspotCorrectnessSpec) :
    List RecordKey :=
  hotspot.cases.flatMap fun case => case.seeds.flatMap fun seed =>
    case.specialValues.flatMap fun special => (List.range case.repeats).map fun repeatOrdinal =>
      { caseId := case.caseId, seed, specialValue := special, repeatOrdinal }

/-- The order of keys as tuples. -/
def RecordKey.le (a b : RecordKey) : Prop :=
  a.caseId < b.caseId ∨ a.caseId = b.caseId ∧ (a.seed < b.seed ∨ a.seed = b.seed ∧
    (a.specialValue < b.specialValue ∨ a.specialValue = b.specialValue ∧
      a.repeatOrdinal ≤ b.repeatOrdinal))

instance : DecidableRel RecordKey.le := fun a b => by
  unfold RecordKey.le
  infer_instance

/-- `sorted(expected_keys)`. -/
def M1HotspotCorrectnessSpec.sortedKeys (hotspot : M1HotspotCorrectnessSpec) : List RecordKey :=
  hotspot.expectedKeys.insertionSort RecordKey.le

/-- `expected_input_hashes[(case_id, seed, special_value)]`. -/
def M1HotspotCorrectnessSpec.expectedInputHash (hotspot : M1HotspotCorrectnessSpec)
    (key : RecordKey) : Except ComparisonError String := do
  let item ← requireSome (hotspot.inputExpectations.find? fun item =>
    decide ((item.caseId, item.seed, item.specialValue) =
      (key.caseId, key.seed, key.specialValue))) .key
  return item.inputHash

/-- One turn of the loop that compares the inputs. -/
def checkInput (referenceInputs candidateInputs : List M1TensorOutput) (spec : M1TensorSpec) :
    Except ComparisonError Unit := do
  let left ← tensorNamed referenceInputs spec.name
  let right ← tensorNamed candidateInputs spec.name
  require (left.shape = spec.shape.map Int.ofNat ∧ right.shape = spec.shape.map Int.ofNat)
    (.evidence "input_shape_mismatch" ("input " ++ spec.name ++ " shape differs"))
  require (left.dtype = spec.dtype.text ∧ right.dtype = spec.dtype.text)
    (.evidence "input_dtype_mismatch" ("input " ++ spec.name ++ " dtype differs"))
  require (left.values.length = spec.elementCount)
    (.evidence "input_element_count_mismatch" ("input " ++ spec.name ++ " size differs"))
  require (left.eq right)
    (.evidence "input_value_mismatch"
      ("reference and Candidate received different input " ++ spec.name))

/-! ## Special values -/

/-- The tokens among the values of the inputs. -/
def tokens (inputs : List M1TensorOutput) : List SpecialToken :=
  (inputs.flatMap M1TensorOutput.values).filterMap fun value =>
    match value with
    | .token token => some token
    | _ => none

/-- The numbers among the values of the inputs that are not booleans. -/
def numeric (inputs : List M1TensorOutput) : Except ComparisonError (List Rat) :=
  (inputs.flatMap M1TensorOutput.values).foldlM (fun numbers value =>
    match value with
    | .int value => do return numbers ++ [← requireSome (env.round value) .overflow]
    | .float value => .ok (numbers ++ [value.value])
    | _ => .ok numbers) []

/-- The table of `_validate_special_value`. -/
def specialValueHolds (specialValue : String) (tokens : List SpecialToken) (numeric : List Rat)
    (largeValueMinAbs : Rat) : Bool :=
  match specialValue with
  | "ordinary" => tokens.isEmpty
  | "nan" => decide (.nan ∈ tokens)
  | "positive_inf" => decide (.positiveInf ∈ tokens)
  | "negative_inf" => decide (.negativeInf ∈ tokens)
  | "zero" => numeric.any fun value => decide (value = 0)
  | "negative" => numeric.any fun value => decide (value < 0)
  | "large" => numeric.any fun value => decide (largeValueMinAbs ≤ |value|)
  | _ => false

/-- `_validate_special_value`. -/
def validateSpecialValue (specialValue : String) (inputs : List M1TensorOutput)
    (largeValueMinAbs : Rat) : Except ComparisonError Unit := do
  let numbers ← numeric env inputs
  require (specialValueHolds specialValue (tokens inputs) numbers largeValueMinAbs)
    (.evidence "special_value_semantics_mismatch"
      ("input does not satisfy declared special value " ++ specialValue))

/-! ## Outputs -/

/-- The running results of a comparison. -/
structure Tally where
  mismatches : List M1Mismatch := []
  checkedElements : Nat := 0
  maxAbs : Option Magnitude := none
  maxRel : Option Magnitude := none
  deriving DecidableEq

/-- A running maximum, `None` until there is an error. -/
def larger (current error : Option Magnitude) : Option Magnitude :=
  match error, current with
  | none, current => current
  | some error, none => some error
  | some error, some current => some (max current error)

/-- `str(value)`. -/
def scalarText : ScalarValue → String
  | .bool value => if value then "True" else "False"
  | .int value => toString value
  | .float value => env.floatText value
  | .token .nan => "nan"
  | .token .positiveInf => "positive_inf"
  | .token .negativeInf => "negative_inf"

/-- The construction of an `M1Mismatch`, whose errors are finite. -/
def mismatch (key : RecordKey) (spec : M1OutputSpec) (index : Nat)
    (reference candidate : ScalarValue) (result : ScalarComparison) :
    Except ComparisonError M1Mismatch := do
  require (result.absolute ≠ some ⊤) (.validation "M1Mismatch" "absolute_error")
  require (result.relative ≠ some ⊤) (.validation "M1Mismatch" "relative_error")
  return { key, outputName := spec.name, elementIndex := index
           reference := scalarText env reference, candidate := scalarText env candidate
           absoluteError := result.absolute, relativeError := result.relative }

/-- One turn of the loop over the elements of an output. -/
def compareElement (key : RecordKey) (spec : M1OutputSpec) (tally : Tally)
    (element : (ScalarValue × ScalarValue) × Nat) : Except ComparisonError Tally := do
  let result ← compareScalar env element.1.1 element.1.2 spec
  let tally := { tally with
    maxAbs := larger tally.maxAbs result.absolute
    maxRel := larger tally.maxRel result.relative }
  if result.matched then
    return tally
  let found ← mismatch env key spec element.2 element.1.1 element.1.2 result
  return { tally with mismatches := tally.mismatches ++ [found] }

/-- One turn of the loop over the outputs of a record. -/
def compareOutput (key : RecordKey) (referenceOutputs candidateOutputs : List M1TensorOutput)
    (maxElements : Nat) (tally : Tally) (spec : M1OutputSpec) : Except ComparisonError Tally := do
  let left ← tensorNamed referenceOutputs spec.name
  let right ← tensorNamed candidateOutputs spec.name
  require (left.shape = spec.shape.map Int.ofNat ∧ right.shape = spec.shape.map Int.ofNat)
    (.evidence "output_shape_mismatch" ("output " ++ spec.name ++ " shape differs"))
  require (left.dtype = spec.dtype.text ∧ right.dtype = spec.dtype.text)
    (.evidence "output_dtype_mismatch" ("output " ++ spec.name ++ " dtype differs"))
  require (left.values.length = spec.elementCount ∧ right.values.length = spec.elementCount)
    (.evidence "output_element_count_mismatch" ("output " ++ spec.name ++ " size differs"))
  let tally := { tally with checkedElements := tally.checkedElements + spec.elementCount }
  require (tally.checkedElements ≤ maxElements)
    (.evidence "output_budget_exceeded" "normalized output is too large")
  (left.values.zip right.values).zipIdx.foldlM (compareElement env key spec) tally

/-! ## The comparison -/

/-- `by_key[key]`. -/
def recordOf (indexed : List M1OutputRecord) (key : RecordKey) :
    Except ComparisonError M1OutputRecord :=
  requireSome (indexed.find? fun record => decide (record.key = key)) .key

/-- `set(by_key) == expected_keys`. -/
def SameKeys (indexed : List M1OutputRecord) (expected : List RecordKey) : Prop :=
  (∀ record ∈ indexed, record.key ∈ expected) ∧
    ∀ key ∈ expected, key ∈ indexed.map M1OutputRecord.key

instance (indexed : List M1OutputRecord) (expected : List RecordKey) :
    Decidable (SameKeys indexed expected) := by
  unfold SameKeys
  infer_instance

/-- One turn of the loop over the keys. -/
def compareRecord (hotspot : M1HotspotCorrectnessSpec)
    (referenceByKey candidateByKey : List M1OutputRecord) (maxElements : Nat)
    (largeValueMinAbs : Rat) (tally : Tally) (key : RecordKey) : Except ComparisonError Tally := do
  let case ← requireSome (hotspot.cases.find? fun case => decide (case.caseId = key.caseId)) .key
  let reference ← recordOf referenceByKey key
  let candidate ← recordOf candidateByKey key
  let referenceInputs ← indexTensors reference.inputs
  let candidateInputs ← indexTensors candidate.inputs
  let referenceOutputs ← indexTensors reference.outputs
  let candidateOutputs ← indexTensors candidate.outputs
  require (SameNames referenceInputs case.inputs ∧ SameNames candidateInputs case.inputs)
    (.evidence "input_schema_mismatch" "normalized input names differ")
  case.inputs.forM (checkInput referenceInputs candidateInputs)
  let expectedInputHash ← hotspot.expectedInputHash key
  require (env.inputHash reference.inputs = expectedInputHash)
    (.evidence "input_generation_mismatch"
      "input values do not match the frozen case/seed/special-value expectation")
  validateSpecialValue env key.specialValue reference.inputs largeValueMinAbs
  let specs := case.outputs.map M1OutputSpec.toM1TensorSpec
  require (SameNames referenceOutputs specs ∧ SameNames candidateOutputs specs)
    (.evidence "output_schema_mismatch" "normalized output names differ")
  case.outputs.foldlM (compareOutput env key referenceOutputs candidateOutputs maxElements) tally

/-- What `_compare_outputs` returns. -/
structure ComparisonReport where
  mismatches : List M1Mismatch
  checkedRecords : Nat
  checkedElements : Nat
  maxAbs : Option Magnitude
  maxRel : Option Magnitude
  deriving DecidableEq

/-- `_compare_outputs`. -/
def compareOutputs (hotspot : M1HotspotCorrectnessSpec)
    (reference candidate : M1NormalizedOutputV1) (maxElements : Nat) (largeValueMinAbs : Rat) :
    Except ComparisonError ComparisonReport := do
  require (reference.hotspotId = hotspot.hotspotId ∧ candidate.hotspotId = hotspot.hotspotId)
    (.evidence "hotspot_binding_mismatch" "normalized output Hotspot is wrong")
  let referenceByKey ← indexRecords reference.records
  let candidateByKey ← indexRecords candidate.records
  require (SameKeys referenceByKey hotspot.expectedKeys ∧
      SameKeys candidateByKey hotspot.expectedKeys)
    (.evidence "output_budget_mismatch"
      "normalized records do not match case/seed/repeat budget")
  let tally ← hotspot.sortedKeys.foldlM
    (compareRecord env hotspot referenceByKey candidateByKey maxElements largeValueMinAbs) {}
  return { mismatches := tally.mismatches
           checkedRecords := hotspot.expectedKeys.length
           checkedElements := tally.checkedElements
           maxAbs := tally.maxAbs
           maxRel := tally.maxRel }

end

end M1Verifier

end HcuAutoOpt
