import HcuAutoOpt.Evaluation.OutputComparison
import HcuAutoOpt.Foundation.CheckedFolds

/-!
# When the outputs of two executions agree

The verdict of `compareOutputs` against what it is meant to say. Every loop of the
comparison is a check of each of its items and a closed form of its result, so a
comparison that returns is one condition on the records and one summary of the list of
compared elements (`compareOutputs_ok_iff`).

Two scalars may be equal for `==` without being the same: `True`, `1` and `1.0`, or the
two zeros. The inputs of the reference are hashed, those of the candidate are only compared
with `==`; and a boolean output that holds numbers is compared as numbers are. The
statement is about executions without such values.
-/

set_option autoImplicit false

namespace HcuAutoOpt

namespace M1Verifier

open Foundation

variable {env : ComparisonEnvironment}

/-! ## Compared elements -/

/-- An element of an output, as both executions give it. -/
structure Compared where
  key : RecordKey
  spec : M1OutputSpec
  index : Nat
  reference : ScalarValue
  candidate : ScalarValue

namespace Compared

/-- The comparison of an element that can be compared. -/
def result (env : ComparisonEnvironment) (element : Compared) : ScalarComparison :=
  match compareScalar env element.reference element.candidate element.spec with
  | .ok result => result
  | .error _ => { matched := false }

/-- The element can be compared, and reported when it does not match. -/
def Reportable (env : ComparisonEnvironment) (element : Compared) : Prop :=
  ∃ result, compareScalar env element.reference element.candidate element.spec = .ok result ∧
    (result.matched = true ∨ result.absolute ≠ some ⊤ ∧ result.relative ≠ some ⊤)

/-- The mismatch that is reported. -/
def mismatch? (env : ComparisonEnvironment) (element : Compared) : Option M1Mismatch :=
  if (element.result env).matched then none
  else some
    { key := element.key, outputName := element.spec.name, elementIndex := element.index
      reference := scalarText env element.reference
      candidate := scalarText env element.candidate
      absoluteError := (element.result env).absolute
      relativeError := (element.result env).relative }

end Compared

/-- The results after more elements. -/
def Tally.extend (env : ComparisonEnvironment) (tally : Tally) (elements : List Compared) :
    Tally where
  mismatches := tally.mismatches ++ elements.filterMap (Compared.mismatch? env)
  checkedElements := tally.checkedElements + elements.length
  maxAbs := elements.foldl (fun current element =>
    larger current (element.result env).absolute) tally.maxAbs
  maxRel := elements.foldl (fun current element =>
    larger current (element.result env).relative) tally.maxRel

@[simp] theorem Tally.extend_nil (tally : Tally) : tally.extend env [] = tally := by
  simp [Tally.extend]

theorem Tally.extend_append (tally : Tally) (first second : List Compared) :
    tally.extend env (first ++ second) = (tally.extend env first).extend env second := by
  simp [Tally.extend, List.foldl_append, Nat.add_assoc]

/-- Extending part by part. -/
theorem Tally.extend_flatMap {α : Type} (elements : α → List Compared) (xs : List α) :
    ∀ tally : Tally, xs.foldl (fun tally x => tally.extend env (elements x)) tally =
      tally.extend env (xs.flatMap elements) := by
  induction xs with
  | nil => simp
  | cons x xs ih =>
      intro tally
      rw [List.foldl_cons, ih, List.flatMap_cons, Tally.extend_append]

/-! ## The loop over the elements -/

/-- The tally without the count, which is taken before the elements. -/
def Tally.extendUncounted (env : ComparisonEnvironment) (tally : Tally)
    (elements : List Compared) : Tally :=
  { tally.extend env elements with checkedElements := tally.checkedElements }

/-- The element that a turn of the loop compares. -/
def comparedElement (key : RecordKey) (spec : M1OutputSpec)
    (element : (ScalarValue × ScalarValue) × Nat) : Compared :=
  { key, spec, index := element.2, reference := element.1.1, candidate := element.1.2 }

theorem mismatch_eq_ok {key : RecordKey} {spec : M1OutputSpec} {index : Nat}
    {reference candidate : ScalarValue} {result : ScalarComparison} {found : M1Mismatch} :
    mismatch env key spec index reference candidate result = .ok found ↔
      (result.absolute ≠ some ⊤ ∧ result.relative ≠ some ⊤) ∧
        { key, outputName := spec.name, elementIndex := index
          reference := scalarText env reference, candidate := scalarText env candidate
          absoluteError := result.absolute, relativeError := result.relative } = found := by
  simp only [mismatch, Except.bind_eq_ok, require_eq_ok, exists_const, and_assoc]
  exact and_congr_right fun _ => and_congr_right fun _ => ⟨Except.ok.inj, congrArg _⟩

theorem compareElement_ok_iff {key : RecordKey} {spec : M1OutputSpec} {tally after : Tally}
    {element : (ScalarValue × ScalarValue) × Nat} :
    compareElement env key spec tally element = .ok after ↔
      (comparedElement key spec element).Reportable env ∧
        after = tally.extendUncounted env [comparedElement key spec element] := by
  unfold compareElement Compared.Reportable Tally.extendUncounted Tally.extend
  cases compared : compareScalar env element.1.1 element.1.2 spec with
  | error e =>
      simp only [comparedElement, compared, reduceCtorEq, false_and, exists_false, iff_false]
      rintro ⟨⟩
  | ok result =>
      have same : (comparedElement key spec element).result env = result := by
        simp [Compared.result, comparedElement, compared]
      rw [Except.bind_eq_ok]
      simp only [Except.ok.injEq, exists_eq_left']
      cases matched : result.matched with
      | true =>
          have none : (comparedElement key spec element).mismatch? env = none := by
            simp [Compared.mismatch?, same, matched]
          simp only [if_true, List.filterMap_cons, none, List.filterMap_nil, List.append_nil,
            List.foldl_cons, List.foldl_nil, same]
          constructor
          · rintro ⟨⟩
            exact ⟨⟨result, compared, .inl matched⟩, rfl⟩
          · rintro ⟨-, rfl⟩
            rfl
      | false =>
          have some : (comparedElement key spec element).mismatch? env = some _ :=
            if_neg (by simp [same, matched])
          simp only [Bool.false_eq_true, if_false, List.filterMap_cons, some, List.filterMap_nil,
            List.foldl_cons, List.foldl_nil, same, Except.bind_eq_ok, mismatch_eq_ok]
          constructor
          · rintro ⟨found, ⟨finite, rfl⟩, ⟨⟩⟩
            exact ⟨⟨result, compared, .inr finite⟩, rfl⟩
          · rintro ⟨⟨result', compared', finite⟩, rfl⟩
            obtain rfl : result = result' := Except.ok.inj (compared.symm.trans compared')
            exact ⟨_, ⟨finite.resolve_left (by simp [matched]), rfl⟩, rfl⟩

theorem Tally.extendUncounted_foldl {α : Type} (element : α → Compared) (xs : List α) :
    ∀ tally : Tally,
      xs.foldl (fun tally x => tally.extendUncounted env [element x]) tally =
        tally.extendUncounted env (xs.map element) := by
  induction xs with
  | nil =>
      intro tally
      simp [Tally.extendUncounted]
  | cons x xs ih =>
      intro tally
      rw [List.foldl_cons, ih, List.map_cons]
      simp only [Tally.extendUncounted, Tally.extend, List.filterMap_cons, List.foldl_cons,
        List.filterMap_nil, List.foldl_nil]
      cases (element x).mismatch? env <;> simp

theorem compareElements_ok_iff {key : RecordKey} {spec : M1OutputSpec} {tally after : Tally}
    {elements : List ((ScalarValue × ScalarValue) × Nat)} :
    elements.foldlM (compareElement env key spec) tally = .ok after ↔
      (∀ element ∈ elements, (comparedElement key spec element).Reportable env) ∧
        after = tally.extendUncounted env (elements.map (comparedElement key spec)) := by
  have turn := foldlM_ok_iff (Q := fun _ => True)
    (P := fun element => (comparedElement key spec element).Reportable env)
    (f := fun tally x => Tally.extendUncounted env tally [comparedElement key spec x])
    (fun tally element after _ => by rw [compareElement_ok_iff, true_and])
    (fun _ _ _ => trivial) elements tally after trivial
  rw [turn, Tally.extendUncounted_foldl, true_and]

/-! ## The loop over the outputs -/

/-- A lookup by name. -/
def named? (tensors : List M1TensorOutput) (name : String) : Option M1TensorOutput :=
  tensors.find? fun tensor => decide (tensor.name = name)

/-- The elements of one output. -/
def comparedOutput (key : RecordKey) (reference candidate : List M1TensorOutput)
    (spec : M1OutputSpec) : List Compared :=
  match named? reference spec.name, named? candidate spec.name with
  | some left, some right =>
      (left.values.zip right.values).zipIdx.map (comparedElement key spec)
  | _, _ => []

/-- A tensor has the shape, the type and the number of elements of its specification. -/
structure Fits (spec : M1TensorSpec) (tensor : M1TensorOutput) : Prop where
  shape : tensor.shape = spec.shape.map Int.ofNat
  dtype : tensor.dtype = spec.dtype.text
  count : tensor.values.length = spec.elementCount

/-- An output of a record passes its turn of the loop. -/
def OutputReady (env : ComparisonEnvironment) (key : RecordKey)
    (reference candidate : List M1TensorOutput) (spec : M1OutputSpec) : Prop :=
  ∃ left right, named? reference spec.name = some left ∧
    named? candidate spec.name = some right ∧ Fits spec.toM1TensorSpec left ∧
    Fits spec.toM1TensorSpec right ∧
    ∀ element ∈ comparedOutput key reference candidate spec, element.Reportable env

theorem compareOutput_ok_iff {key : RecordKey} {reference candidate : List M1TensorOutput}
    {maxElements : Nat} (tally : Tally) (spec : M1OutputSpec) (after : Tally) :
    compareOutput env key reference candidate maxElements tally spec = .ok after ↔
      OutputReady env key reference candidate spec ∧
        (tally.extend env (comparedOutput key reference candidate spec)).checkedElements ≤
          maxElements ∧
        after = tally.extend env (comparedOutput key reference candidate spec) := by
  simp only [compareOutput, tensorNamed, Except.bind_eq_ok, requireSome_eq_ok, require_eq_ok,
    exists_const, compareElements_ok_iff, OutputReady, named?]
  constructor
  · rintro ⟨left, foundLeft, right, foundRight, shapes, dtypes, counts, within, all, rfl⟩
    have elements : comparedOutput key reference candidate spec =
        (left.values.zip right.values).zipIdx.map (comparedElement key spec) := by
      simp [comparedOutput, named?, foundLeft, foundRight]
    have count : (left.values.zip right.values).length = spec.elementCount := by
      rw [List.length_zip, counts.1, counts.2, Nat.min_self]
    refine ⟨⟨left, right, foundLeft, foundRight, ⟨shapes.1, dtypes.1, counts.1⟩,
      ⟨shapes.2, dtypes.2, counts.2⟩, ?_⟩, ?_, ?_⟩
    · rw [elements]
      exact List.forall_mem_map.mpr all
    · simpa [elements, Tally.extend, counts.1, counts.2] using within
    · simp [elements, Tally.extend, Tally.extendUncounted, counts.1, counts.2]
  · rintro ⟨⟨left, right, foundLeft, foundRight, fitsLeft, fitsRight, all⟩, within, rfl⟩
    have elements : comparedOutput key reference candidate spec =
        (left.values.zip right.values).zipIdx.map (comparedElement key spec) := by
      simp [comparedOutput, named?, foundLeft, foundRight]
    rw [elements] at all within
    refine ⟨left, foundLeft, right, foundRight, ⟨fitsLeft.shape, fitsRight.shape⟩,
      ⟨fitsLeft.dtype, fitsRight.dtype⟩, ⟨fitsLeft.count, fitsRight.count⟩, ?_,
      List.forall_mem_map.mp all, ?_⟩
    · simpa [Tally.extend, fitsLeft.count, fitsRight.count] using within
    · simp [elements, Tally.extend, Tally.extendUncounted, fitsLeft.count, fitsRight.count]

theorem compareOutputsOfRecord_ok_iff {key : RecordKey} {reference candidate : List M1TensorOutput}
    {maxElements : Nat} {specs : List M1OutputSpec} {tally after : Tally}
    (within : tally.checkedElements ≤ maxElements) :
    specs.foldlM (compareOutput env key reference candidate maxElements) tally = .ok after ↔
      (∀ spec ∈ specs, OutputReady env key reference candidate spec) ∧
        (tally.extend env (specs.flatMap (comparedOutput key reference candidate))).checkedElements ≤
          maxElements ∧
        after = tally.extend env (specs.flatMap (comparedOutput key reference candidate)) := by
  have turn := foldlM_ok_iff (Q := fun tally : Tally => tally.checkedElements ≤ maxElements)
    (f := fun tally spec => tally.extend env (comparedOutput key reference candidate spec))
    (fun tally spec after _ => compareOutput_ok_iff tally spec after)
    (fun tally spec fits => (Nat.le_add_right _ _).trans fits) specs tally after within
  rw [turn, Tally.extend_flatMap]

/-! ## The loop over the keys -/

/-- An input of a record passes its turn of the loop. -/
def InputReady (reference candidate : List M1TensorOutput) (spec : M1TensorSpec) : Prop :=
  ∃ left right, named? reference spec.name = some left ∧ named? candidate spec.name = some right ∧
    Fits spec left ∧ right.shape = spec.shape.map Int.ofNat ∧ right.dtype = spec.dtype.text ∧
    left.eq right = true

theorem checkInput_ok_iff {reference candidate : List M1TensorOutput} (spec : M1TensorSpec)
    (u : Unit) : checkInput reference candidate spec = .ok u ↔
      InputReady reference candidate spec := by
  simp only [checkInput, tensorNamed, Except.bind_eq_ok, requireSome_eq_ok, require_eq_ok,
    exists_const, InputReady, named?]
  constructor
  · rintro ⟨left, foundLeft, right, foundRight, shapes, dtypes, count, same⟩
    exact ⟨left, right, foundLeft, foundRight, ⟨shapes.1, dtypes.1, count⟩, shapes.2, dtypes.2,
      same⟩
  · rintro ⟨left, right, foundLeft, foundRight, fits, shape, dtype, same⟩
    exact ⟨left, foundLeft, right, foundRight, ⟨fits.shape, shape⟩, ⟨fits.dtype, dtype⟩,
      fits.count, same⟩

/-- The case of a key. -/
def caseOf (hotspot : M1HotspotCorrectnessSpec) (key : RecordKey) : Option M1CorrectnessCase :=
  hotspot.cases.find? fun case => decide (case.caseId = key.caseId)

/-- The record of a key. -/
def recordWith (records : List M1OutputRecord) (key : RecordKey) : Option M1OutputRecord :=
  records.find? fun record => decide (record.key = key)

/-- The expectation frozen for the inputs of a key. -/
def expectationOf (hotspot : M1HotspotCorrectnessSpec) (key : RecordKey) :
    Option M1InputExpectation :=
  hotspot.inputExpectations.find? fun item =>
    decide ((item.caseId, item.seed, item.specialValue) = (key.caseId, key.seed, key.specialValue))

/-- The inputs show the special value that their record declares. -/
def SpecialInputs (env : ComparisonEnvironment) (specialValue : String)
    (inputs : List M1TensorOutput) (largeValueMinAbs : Rat) : Prop :=
  ∃ numbers, numeric env inputs = .ok numbers ∧
    specialValueHolds specialValue (tokens inputs) numbers largeValueMinAbs = true

/-- The records of a key pass their turn of the loop. -/
structure PairReady (env : ComparisonEnvironment) (hotspot : M1HotspotCorrectnessSpec)
    (largeValueMinAbs : Rat) (key : RecordKey) (case : M1CorrectnessCase)
    (reference candidate : M1OutputRecord) : Prop where
  referenceInputs : (reference.inputs.map M1TensorOutput.name).Nodup
  candidateInputs : (candidate.inputs.map M1TensorOutput.name).Nodup
  referenceOutputs : (reference.outputs.map M1TensorOutput.name).Nodup
  candidateOutputs : (candidate.outputs.map M1TensorOutput.name).Nodup
  inputNames : SameNames reference.inputs case.inputs ∧ SameNames candidate.inputs case.inputs
  inputs : ∀ spec ∈ case.inputs, InputReady reference.inputs candidate.inputs spec
  frozen : ∃ item, expectationOf hotspot key = some item ∧
    env.inputHash reference.inputs = item.inputHash
  special : SpecialInputs env key.specialValue reference.inputs largeValueMinAbs
  outputNames : SameNames reference.outputs (case.outputs.map M1OutputSpec.toM1TensorSpec) ∧
    SameNames candidate.outputs (case.outputs.map M1OutputSpec.toM1TensorSpec)
  outputs : ∀ spec ∈ case.outputs, OutputReady env key reference.outputs candidate.outputs spec

/-- The key passes its turn of the loop. -/
def RecordReady (env : ComparisonEnvironment) (hotspot : M1HotspotCorrectnessSpec)
    (largeValueMinAbs : Rat) (references candidates : List M1OutputRecord) (key : RecordKey) :
    Prop :=
  ∃ case reference candidate, caseOf hotspot key = some case ∧
    recordWith references key = some reference ∧ recordWith candidates key = some candidate ∧
    PairReady env hotspot largeValueMinAbs key case reference candidate

/-- The elements of the records of a key. -/
def comparedRecord (hotspot : M1HotspotCorrectnessSpec)
    (references candidates : List M1OutputRecord) (key : RecordKey) : List Compared :=
  match caseOf hotspot key, recordWith references key, recordWith candidates key with
  | some case, some reference, some candidate =>
      case.outputs.flatMap (comparedOutput key reference.outputs candidate.outputs)
  | _, _, _ => []

theorem expectedInputHash_eq_ok {hotspot : M1HotspotCorrectnessSpec} {key : RecordKey}
    {hash : String} : hotspot.expectedInputHash key = .ok hash ↔
      ∃ item, expectationOf hotspot key = some item ∧ item.inputHash = hash := by
  simp only [M1HotspotCorrectnessSpec.expectedInputHash, Except.bind_eq_ok, requireSome_eq_ok,
    expectationOf]
  exact exists_congr fun item => and_congr_right fun _ => ⟨Except.ok.inj, congrArg _⟩

theorem indexTensors_eq_ok {outputs indexed : List M1TensorOutput} :
    indexTensors outputs = .ok indexed ↔
      (outputs.map M1TensorOutput.name).Nodup ∧ outputs = indexed := by
  simp only [indexTensors, Except.bind_eq_ok, require_eq_ok, exists_const]
  exact and_congr_right fun _ => ⟨Except.ok.inj, congrArg _⟩

theorem validateSpecialValue_eq_ok {specialValue : String} {inputs : List M1TensorOutput}
    {largeValueMinAbs : Rat} {u : Unit} :
    validateSpecialValue env specialValue inputs largeValueMinAbs = .ok u ↔
      SpecialInputs env specialValue inputs largeValueMinAbs := by
  simp only [validateSpecialValue, Except.bind_eq_ok, require_eq_ok, SpecialInputs]

theorem compareRecord_ok_iff {hotspot : M1HotspotCorrectnessSpec}
    {references candidates : List M1OutputRecord} {maxElements : Nat} {largeValueMinAbs : Rat}
    {tally : Tally} (key : RecordKey) (after : Tally) (within : tally.checkedElements ≤ maxElements) :
    compareRecord env hotspot references candidates maxElements largeValueMinAbs tally key =
        .ok after ↔
      RecordReady env hotspot largeValueMinAbs references candidates key ∧
        (tally.extend env (comparedRecord hotspot references candidates key)).checkedElements ≤
          maxElements ∧
        after = tally.extend env (comparedRecord hotspot references candidates key) := by
  simp only [compareRecord, recordOf, Except.bind_eq_ok, requireSome_eq_ok, require_eq_ok,
    exists_const, indexTensors_eq_ok, forM_ok_iff checkInput_ok_iff, expectedInputHash_eq_ok,
    validateSpecialValue_eq_ok, compareOutputsOfRecord_ok_iff within]
  constructor
  · rintro ⟨case, foundCase, reference, foundReference, candidate, foundCandidate, _,
      ⟨referenceInputs, rfl⟩, _, ⟨candidateInputs, rfl⟩, _, ⟨referenceOutputs, rfl⟩, _,
      ⟨candidateOutputs, rfl⟩, inputNames, inputs, _, ⟨item, expected, rfl⟩, frozen, special,
      outputNames, outputs, total, rfl⟩
    have elements : comparedRecord hotspot references candidates key =
        case.outputs.flatMap (comparedOutput key reference.outputs candidate.outputs) := by
      simp only [comparedRecord, caseOf, recordWith, foundCase, foundReference, foundCandidate]
    rw [elements]
    exact ⟨⟨case, reference, candidate, foundCase, foundReference, foundCandidate,
      { referenceInputs, candidateInputs, referenceOutputs, candidateOutputs, inputNames, inputs
        frozen := ⟨item, expected, frozen⟩
        special, outputNames, outputs }⟩, total, rfl⟩
  · rintro ⟨⟨case, reference, candidate, foundCase, foundReference, foundCandidate, ready⟩, total,
      rfl⟩
    have elements : comparedRecord hotspot references candidates key =
        case.outputs.flatMap (comparedOutput key reference.outputs candidate.outputs) := by
      simp only [comparedRecord, foundCase, foundReference, foundCandidate]
    rw [elements] at total ⊢
    obtain ⟨item, expected, frozen⟩ := ready.frozen
    exact ⟨case, foundCase, reference, foundReference, candidate, foundCandidate, _,
      ⟨ready.referenceInputs, rfl⟩, _, ⟨ready.candidateInputs, rfl⟩, _,
      ⟨ready.referenceOutputs, rfl⟩, _, ⟨ready.candidateOutputs, rfl⟩, ready.inputNames,
      ready.inputs, _, ⟨item, expected, rfl⟩, frozen, ready.special, ready.outputNames,
      ready.outputs, total, rfl⟩

/-! ## The comparison -/

/-- Indexing records succeeds when their keys are distinct, and keeps them all. -/
theorem indexRecords_eq_ok {records indexed : List M1OutputRecord} :
    indexRecords records = .ok indexed ↔
      (records.map M1OutputRecord.key).Nodup ∧ records = indexed := by
  have general : ∀ (xs before after : List M1OutputRecord),
      (before.map M1OutputRecord.key).Nodup →
      (xs.foldlM (fun indexed item => do
          require (item.key ∉ indexed.map M1OutputRecord.key)
            (.evidence "output_record_duplicate"
              ("duplicate output record: (" ++ Json.quoted item.key.caseId ++ ", " ++
                toString item.key.seed ++ ", " ++ Json.quoted item.key.specialValue ++ ", " ++
                toString item.key.repeatOrdinal ++ ")"))
          return indexed ++ [item]) before = (.ok after : Except ComparisonError _) ↔
        ((before ++ xs).map M1OutputRecord.key).Nodup ∧ before ++ xs = after) := by
    intro xs
    induction xs with
    | nil =>
        intro before after distinct
        simp only [List.foldlM_nil, List.append_nil, distinct, true_and]
        exact ⟨Except.ok.inj, congrArg _⟩
    | cons x xs ih =>
        intro before after distinct
        simp only [List.foldlM_cons, Except.bind_eq_ok, require_eq_ok, exists_const]
        constructor
        · rintro ⟨middle, ⟨fresh, ⟨⟩⟩, rest⟩
          have longer : ((before ++ [x]).map M1OutputRecord.key).Nodup := by
            rw [List.map_append, List.nodup_append]
            refine ⟨distinct, by simp, ?_⟩
            rintro key member _ last rfl
            simp only [List.map_cons, List.map_nil, List.mem_singleton] at last
            exact fresh (last ▸ member)
          simpa using (ih _ _ longer).mp rest
        · rintro ⟨all, same⟩
          have fresh : x.key ∉ before.map M1OutputRecord.key := by
            intro member
            rw [List.map_append, List.nodup_append] at all
            exact all.2.2 _ member _ (by simp) rfl
          have longer : ((before ++ [x]).map M1OutputRecord.key).Nodup := by
            refine all.sublist ?_
            exact ((List.Sublist.append_left (by simp) _).map _)
          exact ⟨before ++ [x], ⟨fresh, rfl⟩,
            (ih _ _ longer).mpr ⟨by simpa using all, by simpa using same⟩⟩
  simpa [indexRecords] using general records [] indexed (by simp)

/-- All compared elements, key by key. -/
def compared (hotspot : M1HotspotCorrectnessSpec) (reference candidate : M1NormalizedOutputV1) :
    List Compared :=
  hotspot.sortedKeys.flatMap (comparedRecord hotspot reference.records candidate.records)

/-- The report about a list of compared elements. -/
def summary (env : ComparisonEnvironment) (hotspot : M1HotspotCorrectnessSpec)
    (elements : List Compared) : ComparisonReport :=
  let tally := Tally.extend env {} elements
  { mismatches := tally.mismatches
    checkedRecords := hotspot.expectedKeys.length
    checkedElements := tally.checkedElements
    maxAbs := tally.maxAbs
    maxRel := tally.maxRel }

/-- The conditions under which a comparison returns. -/
structure Comparable (env : ComparisonEnvironment) (hotspot : M1HotspotCorrectnessSpec)
    (reference candidate : M1NormalizedOutputV1) (maxElements : Nat) (largeValueMinAbs : Rat) :
    Prop where
  hotspotId : reference.hotspotId = hotspot.hotspotId ∧ candidate.hotspotId = hotspot.hotspotId
  referenceKeys : (reference.records.map M1OutputRecord.key).Nodup
  candidateKeys : (candidate.records.map M1OutputRecord.key).Nodup
  budget : SameKeys reference.records hotspot.expectedKeys ∧
    SameKeys candidate.records hotspot.expectedKeys
  records : ∀ key ∈ hotspot.expectedKeys,
    RecordReady env hotspot largeValueMinAbs reference.records candidate.records key
  elements : (compared hotspot reference candidate).length ≤ maxElements

/-- **The comparison in closed form.** -/
theorem compareOutputs_ok_iff {hotspot : M1HotspotCorrectnessSpec}
    {reference candidate : M1NormalizedOutputV1} {maxElements : Nat} {largeValueMinAbs : Rat}
    {report : ComparisonReport} :
    compareOutputs env hotspot reference candidate maxElements largeValueMinAbs = .ok report ↔
      Comparable env hotspot reference candidate maxElements largeValueMinAbs ∧
        report = summary env hotspot (compared hotspot reference candidate) := by
  have loop : ∀ after, hotspot.sortedKeys.foldlM (compareRecord env hotspot reference.records
      candidate.records maxElements largeValueMinAbs) {} = .ok after ↔
      (∀ key ∈ hotspot.sortedKeys, RecordReady env hotspot largeValueMinAbs reference.records
        candidate.records key) ∧
      (Tally.extend env {} (compared hotspot reference candidate)).checkedElements ≤ maxElements ∧
      after = Tally.extend env {} (compared hotspot reference candidate) := by
    intro after
    have turn := foldlM_ok_iff (Q := fun tally : Tally => tally.checkedElements ≤ maxElements)
      (f := fun tally key => tally.extend env
        (comparedRecord hotspot reference.records candidate.records key))
      (fun tally key after within => @compareRecord_ok_iff env hotspot reference.records
        candidate.records maxElements largeValueMinAbs tally key after within)
      (fun tally key fits => (Nat.le_add_right _ _).trans fits) hotspot.sortedKeys {} after
      (Nat.zero_le _)
    rw [turn, Tally.extend_flatMap]
    rfl
  have keys : ∀ key, key ∈ hotspot.sortedKeys ↔ key ∈ hotspot.expectedKeys := fun key =>
    List.mem_insertionSort _
  simp only [compareOutputs, Except.bind_eq_ok, require_eq_ok, exists_const, indexRecords_eq_ok]
  constructor
  · rintro ⟨hotspotId, _, ⟨referenceKeys, rfl⟩, _, ⟨candidateKeys, rfl⟩, budget, tally, ran, ⟨⟩⟩
    obtain ⟨records, total, rfl⟩ := (loop tally).mp ran
    exact ⟨{ hotspotId, referenceKeys, candidateKeys, budget
             records := fun key member => records key ((keys key).mpr member)
             elements := by simpa [Tally.extend] using total }, rfl⟩
  · rintro ⟨ready, rfl⟩
    refine ⟨ready.hotspotId, _, ⟨ready.referenceKeys, rfl⟩, _, ⟨ready.candidateKeys, rfl⟩,
      ready.budget, _, (loop _).mpr ⟨?_, ?_, rfl⟩, rfl⟩
    · exact fun key member => ready.records key ((keys key).mp member)
    · simpa [Tally.extend] using ready.elements

/-! ## Agreement of elements -/

/-- The floating point types. -/
def TensorDtype.isFloat (dtype : TensorDtype) : Prop := dtype.isInt = false ∧ dtype ≠ .bool

/-- The finite number that a value of a floating point tensor is. -/
def finiteValue (env : ComparisonEnvironment) : ScalarValue → Option Rat
  | .int value => env.round value
  | .float value => some value.value
  | _ => none

/-- An element agrees within its specification: exactly for booleans and integers, within
the tolerance for finite numbers, an infinity with itself only, and a nan with a nan only
where the specification says so. -/
inductive Agrees (env : ComparisonEnvironment) (spec : M1OutputSpec) :
    ScalarValue → ScalarValue → Prop
  | bool (value : Bool) : Agrees env spec (.bool value) (.bool value)
  | int (value : Int) : spec.dtype.isInt = true → Agrees env spec (.int value) (.int value)
  | nan : spec.dtype.isFloat → spec.equalNan = true →
      Agrees env spec (.token .nan) (.token .nan)
  | positiveInf : spec.dtype.isFloat → Agrees env spec (.token .positiveInf) (.token .positiveInf)
  | negativeInf : spec.dtype.isFloat → Agrees env spec (.token .negativeInf) (.token .negativeInf)
  | close {left right : ScalarValue} {x y : Rat} : spec.dtype.isFloat →
      finiteValue env left = some x → finiteValue env right = some y →
      rounded env (y - x) ≤ tolerance env spec x → Agrees env spec left right

/-- The comparison of an element returns, and says that it matches. -/
def Matches (env : ComparisonEnvironment) (spec : M1OutputSpec) (left right : ScalarValue) : Prop :=
  ∃ result, compareScalar env left right spec = .ok result ∧ result.matched = true

theorem matches_of_bool {spec : M1OutputSpec} {left right : ScalarValue}
    (bools : (left.isBool || right.isBool) = true) :
    Matches env spec left right ↔ Agrees env spec left right := by
  simp only [Matches, compareScalar, bools, if_true, Except.ok.injEq, exists_eq_left']
  constructor
  · intro same
    cases left <;> cases right <;> simp_all [ScalarValue.isBool, ScalarValue.eq, ScalarValue.number]
    next a b =>
      cases a <;> cases b <;> simp_all
      all_goals exact .bool _
  · intro agrees
    cases agrees with
    | bool value => cases value <;> simp [ScalarValue.isBool, ScalarValue.eq, ScalarValue.number]
    | int value dtype => simp [ScalarValue.isBool] at bools
    | nan dtype equal => simp [ScalarValue.isBool] at bools
    | positiveInf dtype => simp [ScalarValue.isBool] at bools
    | negativeInf dtype => simp [ScalarValue.isBool] at bools
    | close dtype foundLeft foundRight near =>
        cases left <;> cases right <;> simp_all [ScalarValue.isBool, finiteValue]

theorem matches_of_int {spec : M1OutputSpec} {left right : ScalarValue}
    (numbers : (left.isBool || right.isBool) = false) (ints : spec.dtype.isInt = true) :
    Matches env spec left right ↔ Agrees env spec left right := by
  have exact : ¬spec.dtype.isFloat := fun float => by simp [float.1] at ints
  simp only [Matches, compareScalar, numbers, ints, if_true, Bool.false_eq_true, if_false]
  constructor
  · intro same
    cases left <;> cases right <;> simp_all [ScalarValue.isBool]
    exact .int _ ints
  · intro agrees
    cases agrees with
    | bool value => simp [ScalarValue.isBool] at numbers
    | int value dtype => simp
    | nan dtype equal => exact absurd dtype exact
    | positiveInf dtype => exact absurd dtype exact
    | negativeInf dtype => exact absurd dtype exact
    | close dtype foundLeft foundRight near => exact absurd dtype exact

/-- A value that is no boolean is a finite number, one of the tokens, or out of range. -/
theorem toDouble_eq_finite {value : ScalarValue} (number : value.isBool = false) {x : Rat} :
    toDouble env value = .ok (.finite x) ↔ finiteValue env value = some x := by
  cases value with
  | bool value => cases number
  | int value =>
      simp only [toDouble, finiteValue, Except.bind_eq_ok, requireSome_eq_ok]
      constructor
      · rintro ⟨y, found, ⟨⟩⟩
        exact found
      · exact fun found => ⟨x, found, rfl⟩
  | float value => simp [toDouble, finiteValue]
  | token value => cases value <;> simp [toDouble, finiteValue]

/-- Only a token is read as a nan or as an infinity. -/
theorem token_of_toDouble {value : ScalarValue} {a : Double} (ran : toDouble env value = .ok a)
    (special : a.isNan = true ∨ a.isInf = true) :
    (a = .nan ∧ value = .token .nan) ∨ (a = .positiveInf ∧ value = .token .positiveInf) ∨
      (a = .negativeInf ∧ value = .token .negativeInf) := by
  cases value with
  | bool value =>
      cases ran
      simp [Double.isNan, Double.isInf] at special
  | int value =>
      obtain ⟨x, -, ran⟩ := Except.bind_eq_ok.mp ran
      cases ran
      simp [Double.isNan, Double.isInf] at special
  | float value =>
      cases ran
      simp [Double.isNan, Double.isInf] at special
  | token value =>
      cases value <;> cases ran <;> simp

/-- Doubles match when they are close, the same infinity, or nans that may be equal. -/
theorem compareDoubles_matched_iff {spec : M1OutputSpec} {a b : Double} :
    (compareDoubles env spec a b).matched = true ↔
      (∃ x y, a = .finite x ∧ b = .finite y ∧ rounded env (y - x) ≤ tolerance env spec x) ∨
        (a = b ∧ a.isInf = true) ∨ (spec.equalNan = true ∧ a = .nan ∧ b = .nan) := by
  cases a <;> cases b <;>
    simp [compareDoubles, compareFinite, Double.isNan, Double.isInf]

theorem matches_of_float {spec : M1OutputSpec} {left right : ScalarValue}
    (leftNumber : left.isBool = false) (rightNumber : right.isBool = false)
    (float : spec.dtype.isFloat) :
    Matches env spec left right ↔ Agrees env spec left right := by
  have start : Matches env spec left right ↔ ∃ a b, toDouble env left = .ok a ∧
      toDouble env right = .ok b ∧ (compareDoubles env spec a b).matched = true := by
    simp only [Matches, compareScalar, leftNumber, rightNumber, float.1, Bool.or_self,
      Bool.false_eq_true, if_false, Except.bind_eq_ok]
    constructor
    · rintro ⟨result, ⟨a, first, b, second, ⟨⟩⟩, matched⟩
      exact ⟨a, b, first, second, matched⟩
    · rintro ⟨a, b, first, second, matched⟩
      exact ⟨_, ⟨a, first, b, second, rfl⟩, matched⟩
  rw [start]
  constructor
  · rintro ⟨a, b, first, second, matched⟩
    rcases compareDoubles_matched_iff.mp matched with
      ⟨x, y, rfl, rfl, near⟩ | ⟨rfl, infinite⟩ | ⟨equal, rfl, rfl⟩
    · exact .close float ((toDouble_eq_finite leftNumber).mp first)
        ((toDouble_eq_finite rightNumber).mp second) near
    · have left := token_of_toDouble first (.inr infinite)
      have right := token_of_toDouble second (.inr infinite)
      cases a with
      | nan => cases infinite
      | finite x => cases infinite
      | positiveInf =>
          simp only [reduceCtorEq, false_and, true_and, false_or, or_false] at left right
          rw [left, right]
          exact .positiveInf float
      | negativeInf =>
          simp only [reduceCtorEq, false_and, true_and, false_or] at left right
          rw [left, right]
          exact .negativeInf float
    · have left := token_of_toDouble first (.inl rfl)
      have right := token_of_toDouble second (.inl rfl)
      simp only [reduceCtorEq, false_and, true_and, or_false] at left right
      rw [left, right]
      exact .nan float equal
  · intro agrees
    cases agrees with
    | bool value => cases leftNumber
    | int value dtype => simp [float.1] at dtype
    | nan dtype equal => exact ⟨_, _, rfl, rfl, compareDoubles_matched_iff.mpr (by simp [equal])⟩
    | positiveInf dtype =>
        exact ⟨_, _, rfl, rfl, compareDoubles_matched_iff.mpr (.inr (.inl ⟨rfl, rfl⟩))⟩
    | negativeInf dtype =>
        exact ⟨_, _, rfl, rfl, compareDoubles_matched_iff.mpr (.inr (.inl ⟨rfl, rfl⟩))⟩
    | close dtype foundLeft foundRight near =>
        exact ⟨_, _, (toDouble_eq_finite leftNumber).mpr foundLeft,
          (toDouble_eq_finite rightNumber).mpr foundRight,
          compareDoubles_matched_iff.mpr (.inl ⟨_, _, rfl, rfl, near⟩)⟩

/-- **The comparison of an element decides its agreement**, numbers in a boolean output
apart. -/
theorem matches_iff_agrees {spec : M1OutputSpec} {left right : ScalarValue}
    (booleans : spec.dtype = .bool → left.isBool = true ∧ right.isBool = true) :
    Matches env spec left right ↔ Agrees env spec left right := by
  by_cases bools : (left.isBool || right.isBool) = true
  · exact matches_of_bool bools
  have numbers : left.isBool = false ∧ right.isBool = false := by simpa using bools
  by_cases ints : spec.dtype.isInt = true
  · exact matches_of_int (by simpa using bools) ints
  · refine matches_of_float numbers.1 numbers.2 ⟨by simpa using ints, fun bool => ?_⟩
    simp [numbers.1] at booleans
    exact booleans bool

end M1Verifier

end HcuAutoOpt
