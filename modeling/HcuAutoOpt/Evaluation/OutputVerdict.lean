import HcuAutoOpt.Evaluation.OutputAgreement

/-!
# The correctness verdict

What a comparison without mismatches means. `Agreement` says it in the terms of the
specification: every record is there once, both executions received the frozen inputs, and
every output element agrees within its specification. A comparison returns without
mismatches exactly when the executions agree (`verdict_correct`), and what it reports is
about all compared elements, in whatever order the records came.
-/

set_option autoImplicit false

namespace HcuAutoOpt

namespace M1Verifier

open Foundation

variable {env : ComparisonEnvironment} {hotspot : M1HotspotCorrectnessSpec}

/-! ## Agreement of executions -/

/-- The tensors are those of a specification, each once. -/
structure Conforms (specs : List M1TensorSpec) (tensors : List M1TensorOutput) : Prop where
  distinct : (tensors.map M1TensorOutput.name).Nodup
  names : SameNames tensors specs
  fits : ∀ spec ∈ specs, ∀ tensor ∈ tensors, tensor.name = spec.name → Fits spec tensor

/-- Two records of one key are of the same execution: both received the frozen inputs, and
every element of every output agrees. -/
structure SameExecution (env : ComparisonEnvironment) (hotspot : M1HotspotCorrectnessSpec)
    (case : M1CorrectnessCase) (reference candidate : M1OutputRecord) : Prop where
  inputs : Conforms case.inputs reference.inputs
  received : candidate.inputs.Perm reference.inputs
  frozen : ∃ item ∈ hotspot.inputExpectations,
    (item.caseId, item.seed, item.specialValue) =
        (reference.key.caseId, reference.key.seed, reference.key.specialValue) ∧
      env.inputHash reference.inputs = item.inputHash
  referenceOutputs : Conforms (case.outputs.map M1OutputSpec.toM1TensorSpec) reference.outputs
  candidateOutputs : Conforms (case.outputs.map M1OutputSpec.toM1TensorSpec) candidate.outputs
  agree : ∀ spec ∈ case.outputs, ∀ left ∈ reference.outputs, ∀ right ∈ candidate.outputs,
    left.name = spec.name → right.name = spec.name →
      List.Forall₂ (Agrees env spec) left.values right.values

/-- Two records of one key agree: they are of the same execution, and their inputs show the
special value that is declared. -/
structure RecordAgreement (env : ComparisonEnvironment) (hotspot : M1HotspotCorrectnessSpec)
    (largeValueMinAbs : Rat) (case : M1CorrectnessCase) (reference candidate : M1OutputRecord) :
    Prop extends SameExecution env hotspot case reference candidate where
  special : SpecialInputs env reference.key.specialValue reference.inputs largeValueMinAbs

/-- There is exactly one record of each expected key and no other. -/
def OncePerKey (records : List M1OutputRecord) (expected : List RecordKey) : Prop :=
  ∀ key, (records.map M1OutputRecord.key).count key = if key ∈ expected then 1 else 0

/-- The executions agree on a hotspot. -/
structure Agreement (env : ComparisonEnvironment) (hotspot : M1HotspotCorrectnessSpec)
    (reference candidate : M1NormalizedOutputV1) (maxElements : Nat) (largeValueMinAbs : Rat) :
    Prop where
  hotspotId : reference.hotspotId = hotspot.hotspotId ∧ candidate.hotspotId = hotspot.hotspotId
  referenceOnce : OncePerKey reference.records hotspot.expectedKeys
  candidateOnce : OncePerKey candidate.records hotspot.expectedKeys
  records : ∀ case ∈ hotspot.cases, ∀ left ∈ reference.records, ∀ right ∈ candidate.records,
    left.key = right.key → left.key.caseId = case.caseId →
      RecordAgreement env hotspot largeValueMinAbs case left right
  elements : (compared hotspot reference candidate).length ≤ maxElements

/-! ## Values for which `==` is not identity -/

/-- Where the inputs of two records of one key are equal for `==`, they are the same. -/
def SameInputValues (reference candidate : M1NormalizedOutputV1) : Prop :=
  ∀ left ∈ reference.records, ∀ right ∈ candidate.records, left.key = right.key →
    ∀ a ∈ left.inputs, ∀ b ∈ right.inputs, a.name = b.name →
      ∀ pair ∈ a.values.zip b.values, pair.1.eq pair.2 = true → pair.1 = pair.2

/-- The boolean outputs hold booleans. -/
def BooleanOutputs (hotspot : M1HotspotCorrectnessSpec) (output : M1NormalizedOutputV1) : Prop :=
  ∀ case ∈ hotspot.cases, ∀ spec ∈ case.outputs, spec.dtype = .bool →
    ∀ record ∈ output.records, record.key.caseId = case.caseId →
      ∀ tensor ∈ record.outputs, tensor.name = spec.name →
        ∀ value ∈ tensor.values, value.isBool = true

/-! ## Tensors by name -/

theorem named?_eq_some_iff {tensors : List M1TensorOutput}
    (distinct : (tensors.map M1TensorOutput.name).Nodup) {name : String} {tensor : M1TensorOutput} :
    named? tensors name = some tensor ↔ tensor ∈ tensors ∧ tensor.name = name :=
  find?_eq_some_iff_of_nodup distinct

@[simp] theorem ScalarValue.eq_self (value : ScalarValue) : value.eq value = true := by
  cases value <;> simp [ScalarValue.eq, ScalarValue.number]

@[simp] theorem M1TensorOutput.eq_self (tensor : M1TensorOutput) : tensor.eq tensor = true := by
  simp only [M1TensorOutput.eq, beq_self_eq_true, Bool.and_self, Bool.true_and, List.all_eq_true]
  intro pair member
  have same : pair.1 = pair.2 := by
    obtain ⟨i, bound, rfl⟩ := List.mem_iff_getElem.mp member
    simp
  simp [same]

/-- Tensors that are equal for `==` and hold no values that only `==` identifies are the
same. -/
theorem eq_of_eq {left right : M1TensorOutput} (same : left.eq right = true)
    (values : ∀ pair ∈ left.values.zip right.values, pair.1.eq pair.2 = true → pair.1 = pair.2) :
    left = right := by
  simp only [M1TensorOutput.eq, Bool.and_eq_true, beq_iff_eq, List.all_eq_true] at same
  obtain ⟨⟨⟨⟨name, shape⟩, dtype⟩, count⟩, all⟩ := same
  have equal : left.values = right.values := by
    refine List.forall₂_eq_eq_eq ▸ List.forall₂_iff_zip.mpr ⟨count, ?_⟩
    exact fun member => values _ member (all _ member)
  cases left
  cases right
  simp_all

/-! ## Inputs -/

/-- The checks of the inputs pass when the reference's are those of the specification and
the candidate's are the same tensors in some order. -/
theorem inputs_iff {specs : List M1TensorSpec} {left right : List M1TensorOutput}
    (values : ∀ a ∈ left, ∀ b ∈ right, a.name = b.name →
      ∀ pair ∈ a.values.zip b.values, pair.1.eq pair.2 = true → pair.1 = pair.2) :
    ((left.map M1TensorOutput.name).Nodup ∧ (right.map M1TensorOutput.name).Nodup ∧
        (SameNames left specs ∧ SameNames right specs) ∧
        ∀ spec ∈ specs, InputReady left right spec) ↔
      Conforms specs left ∧ right.Perm left := by
  constructor
  · rintro ⟨distinctLeft, distinctRight, ⟨namesLeft, namesRight⟩, ready⟩
    -- A tensor of either side is the one that its turn of the loop compared.
    have paired : ∀ spec ∈ specs, ∀ a ∈ left, ∀ b ∈ right, a.name = spec.name →
        b.name = spec.name → Fits spec a ∧ a = b := by
      intro spec member a memberA b memberB namedA namedB
      obtain ⟨a', b', foundA, foundB, fits, -, -, same⟩ := ready spec member
      rw [(named?_eq_some_iff distinctLeft).mpr ⟨memberA, namedA⟩] at foundA
      rw [(named?_eq_some_iff distinctRight).mpr ⟨memberB, namedB⟩] at foundB
      cases foundA
      cases foundB
      exact ⟨fits, eq_of_eq same (values a memberA b memberB (namedA.trans namedB.symm))⟩
    have other : ∀ spec ∈ specs, ∃ a ∈ left, ∃ b ∈ right, a.name = spec.name ∧
        b.name = spec.name := by
      intro spec member
      obtain ⟨a, memberA, namedA⟩ := List.mem_map.mp (namesLeft.2 spec member)
      obtain ⟨b, memberB, namedB⟩ := List.mem_map.mp (namesRight.2 spec member)
      exact ⟨a, memberA, b, memberB, namedA, namedB⟩
    refine ⟨⟨distinctLeft, namesLeft, ?_⟩, ?_⟩
    · intro spec member a memberA namedA
      obtain ⟨-, -, b, memberB, -, namedB⟩ := other spec member
      exact (paired spec member a memberA b memberB namedA namedB).1
    · rw [List.perm_ext_iff_of_nodup distinctRight.of_map distinctLeft.of_map]
      intro tensor
      constructor
      · intro memberB
        obtain ⟨spec, member, named⟩ := List.mem_map.mp (namesRight.1 tensor memberB)
        obtain ⟨a, memberA, -, -, namedA, -⟩ := other spec member
        exact (paired spec member a memberA tensor memberB namedA named.symm).2 ▸ memberA
      · intro memberA
        obtain ⟨spec, member, named⟩ := List.mem_map.mp (namesLeft.1 tensor memberA)
        obtain ⟨-, -, b, memberB, -, namedB⟩ := other spec member
        exact (paired spec member tensor memberA b memberB named.symm namedB).2 ▸ memberB
  · rintro ⟨conforms, perm⟩
    have distinct : (right.map M1TensorOutput.name).Nodup :=
      (perm.map _).nodup_iff.mpr conforms.distinct
    refine ⟨conforms.distinct, distinct, ⟨conforms.names, ?_, ?_⟩, ?_⟩
    · exact fun tensor member => conforms.names.1 tensor (perm.mem_iff.mp member)
    · intro spec member
      exact (perm.map _).mem_iff.mpr (conforms.names.2 spec member)
    · intro spec member
      obtain ⟨a, memberA, named⟩ := List.mem_map.mp (conforms.names.2 spec member)
      have fits := conforms.fits spec member a memberA named
      exact ⟨a, a, (named?_eq_some_iff conforms.distinct).mpr ⟨memberA, named⟩,
        (named?_eq_some_iff distinct).mpr ⟨perm.mem_iff.mpr memberA, named⟩, fits, fits.shape,
        fits.dtype, a.eq_self⟩

/-! ## Outputs -/

/-- The elements of an output are the pairs of values at the same place. -/
theorem forall_comparedOutput {key : RecordKey} {left right : List M1TensorOutput}
    {spec : M1OutputSpec} {a b : M1TensorOutput} (foundLeft : named? left spec.name = some a)
    (foundRight : named? right spec.name = some b) {P : Compared → Prop}
    {Q : ScalarValue → ScalarValue → Prop}
    (means : ∀ element : Compared, element.spec = spec →
      (P element ↔ Q element.reference element.candidate)) :
    (∀ element ∈ comparedOutput key left right spec, P element) ↔
      ∀ pair ∈ a.values.zip b.values, Q pair.1 pair.2 := by
  simp only [comparedOutput, foundLeft, foundRight, List.forall_mem_map]
  constructor
  · intro all pair member
    obtain ⟨i, bound, rfl⟩ := List.mem_iff_getElem.mp member
    have element := all ((a.values.zip b.values)[i], i)
      (List.mk_mem_zipIdx_iff_getElem?.mpr (List.getElem?_eq_getElem bound))
    exact (means _ rfl).mp element
  · rintro all ⟨pair, i⟩ member
    exact (means _ rfl).mpr (all pair (List.mem_of_getElem? (List.mk_mem_zipIdx_iff_getElem?.mp member)))

/-- An element is reportable and matches when its comparison says so. -/
theorem reportable_and_matched_iff {element : Compared} :
    (element.Reportable env ∧ (element.result env).matched = true) ↔
      Matches env element.spec element.reference element.candidate := by
  unfold Compared.Reportable Compared.result Matches
  cases ran : compareScalar env element.reference element.candidate element.spec with
  | error e => simp
  | ok result => simp +contextual

/-- The elements of one output are reportable and match when they agree. -/
theorem elements_iff {key : RecordKey} {left right : List M1TensorOutput} {spec : M1OutputSpec}
    {a b : M1TensorOutput} (foundLeft : named? left spec.name = some a)
    (foundRight : named? right spec.name = some b) (count : a.values.length = b.values.length)
    (booleans : spec.dtype = .bool →
      (∀ value ∈ a.values, value.isBool = true) ∧ ∀ value ∈ b.values, value.isBool = true) :
    ((∀ element ∈ comparedOutput key left right spec, element.Reportable env) ∧
        ∀ element ∈ comparedOutput key left right spec, (element.result env).matched = true) ↔
      List.Forall₂ (Agrees env spec) a.values b.values := by
  have matching : ∀ element : Compared, element.spec = spec →
      ((element.Reportable env ∧ (element.result env).matched = true) ↔
        Matches env spec element.reference element.candidate) := by
    rintro element rfl
    exact reportable_and_matched_iff
  rw [← forall₂_and, forall_comparedOutput foundLeft foundRight matching, List.forall₂_iff_zip]
  constructor
  · intro all
    refine ⟨count, fun {x y} member => ?_⟩
    exact (matches_iff_agrees fun bool => ⟨(booleans bool).1 x (List.of_mem_zip member).1,
      (booleans bool).2 y (List.of_mem_zip member).2⟩).mp (all _ member)
  · rintro ⟨-, all⟩ ⟨x, y⟩ member
    exact (matches_iff_agrees fun bool => ⟨(booleans bool).1 x (List.of_mem_zip member).1,
      (booleans bool).2 y (List.of_mem_zip member).2⟩).mpr (all member)

/-- The outputs of a pair of records pass and match when they agree. -/
theorem outputs_iff {key : RecordKey} {specs : List M1OutputSpec}
    {left right : List M1TensorOutput}
    (booleans : ∀ spec ∈ specs, spec.dtype = .bool → ∀ tensor, tensor ∈ left ∨ tensor ∈ right →
      tensor.name = spec.name → ∀ value ∈ tensor.values, value.isBool = true) :
    ((left.map M1TensorOutput.name).Nodup ∧ (right.map M1TensorOutput.name).Nodup ∧
        (SameNames left (specs.map M1OutputSpec.toM1TensorSpec) ∧
          SameNames right (specs.map M1OutputSpec.toM1TensorSpec)) ∧
        (∀ spec ∈ specs, OutputReady env key left right spec) ∧
        ∀ spec ∈ specs, ∀ element ∈ comparedOutput key left right spec,
          (element.result env).matched = true) ↔
      Conforms (specs.map M1OutputSpec.toM1TensorSpec) left ∧
        Conforms (specs.map M1OutputSpec.toM1TensorSpec) right ∧
        ∀ spec ∈ specs, ∀ a ∈ left, ∀ b ∈ right, a.name = spec.name → b.name = spec.name →
          List.Forall₂ (Agrees env spec) a.values b.values := by
  constructor
  · rintro ⟨distinctLeft, distinctRight, ⟨namesLeft, namesRight⟩, ready, matched⟩
    have paired : ∀ spec ∈ specs, ∀ a ∈ left, ∀ b ∈ right, a.name = spec.name →
        b.name = spec.name → Fits spec.toM1TensorSpec a ∧ Fits spec.toM1TensorSpec b ∧
          List.Forall₂ (Agrees env spec) a.values b.values := by
      intro spec member a memberA b memberB namedA namedB
      obtain ⟨a', b', foundA, foundB, fitsA, fitsB, reportable⟩ := ready spec member
      have foundA' := (named?_eq_some_iff distinctLeft).mpr ⟨memberA, namedA⟩
      have foundB' := (named?_eq_some_iff distinctRight).mpr ⟨memberB, namedB⟩
      obtain rfl : a' = a := Option.some.inj (foundA.symm.trans foundA')
      obtain rfl : b' = b := Option.some.inj (foundB.symm.trans foundB')
      exact ⟨fitsA, fitsB, (elements_iff foundA foundB (fitsA.count.trans fitsB.count.symm)
        fun bool => ⟨booleans spec member bool _ (.inl memberA) namedA,
          booleans spec member bool _ (.inr memberB) namedB⟩).mp ⟨reportable, matched spec member⟩⟩
    have other : ∀ spec ∈ specs, ∃ a ∈ left, ∃ b ∈ right, a.name = spec.name ∧
        b.name = spec.name := by
      intro spec member
      obtain ⟨a, memberA, namedA⟩ := List.mem_map.mp (namesLeft.2 _ (List.mem_map_of_mem member))
      obtain ⟨b, memberB, namedB⟩ := List.mem_map.mp (namesRight.2 _ (List.mem_map_of_mem member))
      exact ⟨a, memberA, b, memberB, namedA, namedB⟩
    refine ⟨⟨distinctLeft, namesLeft, ?_⟩, ⟨distinctRight, namesRight, ?_⟩,
      fun spec member a memberA b memberB namedA namedB =>
        (paired spec member a memberA b memberB namedA namedB).2.2⟩
    · simp only [List.forall_mem_map]
      intro spec member a memberA namedA
      obtain ⟨-, -, b, memberB, -, namedB⟩ := other spec member
      exact (paired spec member a memberA b memberB namedA namedB).1
    · simp only [List.forall_mem_map]
      intro spec member b memberB namedB
      obtain ⟨a, memberA, -, -, namedA, -⟩ := other spec member
      exact (paired spec member a memberA b memberB namedA namedB).2.1
  · rintro ⟨conformsLeft, conformsRight, agree⟩
    have ready : ∀ spec ∈ specs, ∃ a b, named? left spec.name = some a ∧
        named? right spec.name = some b ∧ Fits spec.toM1TensorSpec a ∧
        Fits spec.toM1TensorSpec b ∧
        (∀ element ∈ comparedOutput key left right spec, element.Reportable env) ∧
        ∀ element ∈ comparedOutput key left right spec, (element.result env).matched = true := by
      intro spec member
      obtain ⟨a, memberA, namedA⟩ :=
        List.mem_map.mp (conformsLeft.names.2 _ (List.mem_map_of_mem member))
      obtain ⟨b, memberB, namedB⟩ :=
        List.mem_map.mp (conformsRight.names.2 _ (List.mem_map_of_mem member))
      have fitsA := conformsLeft.fits _ (List.mem_map_of_mem member) a memberA namedA
      have fitsB := conformsRight.fits _ (List.mem_map_of_mem member) b memberB namedB
      have foundA := (named?_eq_some_iff conformsLeft.distinct).mpr ⟨memberA, namedA⟩
      have foundB := (named?_eq_some_iff conformsRight.distinct).mpr ⟨memberB, namedB⟩
      exact ⟨a, b, foundA, foundB, fitsA, fitsB,
        (elements_iff foundA foundB (fitsA.count.trans fitsB.count.symm)
          fun bool => ⟨booleans spec member bool _ (.inl memberA) namedA,
            booleans spec member bool _ (.inr memberB) namedB⟩).mpr
          (agree spec member a memberA b memberB namedA namedB)⟩
    refine ⟨conformsLeft.distinct, conformsRight.distinct,
      ⟨conformsLeft.names, conformsRight.names⟩, fun spec member => ?_, fun spec member => ?_⟩
    · obtain ⟨a, b, foundA, foundB, fitsA, fitsB, reportable, -⟩ := ready spec member
      exact ⟨a, b, foundA, foundB, fitsA, fitsB, reportable⟩
    · obtain ⟨-, -, -, -, -, -, -, matched⟩ := ready spec member
      exact matched

/-! ## Records -/

theorem expectationOf_eq_some_iff {key : RecordKey} {item : M1InputExpectation} :
    expectationOf hotspot key = some item ↔ item ∈ hotspot.inputExpectations ∧
      (item.caseId, item.seed, item.specialValue) = (key.caseId, key.seed, key.specialValue) :=
  find?_eq_some_iff_of_nodup hotspot.expectationsUnique

theorem caseOf_eq_some_iff {key : RecordKey} {case : M1CorrectnessCase} :
    caseOf hotspot key = some case ↔ case ∈ hotspot.cases ∧ case.caseId = key.caseId :=
  find?_eq_some_iff_of_nodup hotspot.casesUnique

theorem recordWith_eq_some_iff {records : List M1OutputRecord}
    (distinct : (records.map M1OutputRecord.key).Nodup) {key : RecordKey}
    {record : M1OutputRecord} :
    recordWith records key = some record ↔ record ∈ records ∧ record.key = key :=
  find?_eq_some_iff_of_nodup distinct

/-- A pair of records passes and matches when it agrees. -/
theorem pair_iff {largeValueMinAbs : Rat} {case : M1CorrectnessCase}
    {left right : M1OutputRecord}
    (values : ∀ a ∈ left.inputs, ∀ b ∈ right.inputs, a.name = b.name →
      ∀ pair ∈ a.values.zip b.values, pair.1.eq pair.2 = true → pair.1 = pair.2)
    (booleans : ∀ spec ∈ case.outputs, spec.dtype = .bool →
      ∀ tensor, tensor ∈ left.outputs ∨ tensor ∈ right.outputs → tensor.name = spec.name →
        ∀ value ∈ tensor.values, value.isBool = true) :
    (PairReady env hotspot largeValueMinAbs left.key case left right ∧
        ∀ spec ∈ case.outputs, ∀ element ∈ comparedOutput left.key left.outputs right.outputs spec,
          (element.result env).matched = true) ↔
      RecordAgreement env hotspot largeValueMinAbs case left right := by
  constructor
  · rintro ⟨ready, matched⟩
    obtain ⟨inputs, received⟩ := (inputs_iff values).mp
      ⟨ready.referenceInputs, ready.candidateInputs, ready.inputNames, ready.inputs⟩
    obtain ⟨referenceOutputs, candidateOutputs, agree⟩ := (outputs_iff booleans).mp
      ⟨ready.referenceOutputs, ready.candidateOutputs, ready.outputNames, ready.outputs, matched⟩
    obtain ⟨item, found, frozen⟩ := ready.frozen
    obtain ⟨member, named⟩ := expectationOf_eq_some_iff.mp found
    exact { inputs, received, referenceOutputs, candidateOutputs, agree
            frozen := ⟨item, member, named, frozen⟩
            special := ready.special }
  · intro agreement
    obtain ⟨referenceInputs, candidateInputs, inputNames, inputs⟩ := (inputs_iff values).mpr
      ⟨agreement.inputs, agreement.received⟩
    obtain ⟨referenceOutputs, candidateOutputs, outputNames, outputs, matched⟩ :=
      (outputs_iff booleans).mpr
        ⟨agreement.referenceOutputs, agreement.candidateOutputs, agreement.agree⟩
    obtain ⟨item, member, named, frozen⟩ := agreement.frozen
    exact ⟨{ referenceInputs, candidateInputs, referenceOutputs, candidateOutputs, inputNames
             inputs, outputNames, outputs
             frozen := ⟨item, expectationOf_eq_some_iff.mpr ⟨member, named⟩, frozen⟩
             special := agreement.special }, matched⟩

theorem oncePerKey_iff {records : List M1OutputRecord} {expected : List RecordKey} :
    OncePerKey records expected ↔
      (records.map M1OutputRecord.key).Nodup ∧ SameKeys records expected := by
  constructor
  · intro once
    refine ⟨List.nodup_iff_count_le_one.mpr fun key => ?_, ?_, ?_⟩
    · rw [once key]
      split <;> omega
    · intro record member
      by_contra missing
      have none := once record.key
      rw [if_neg missing] at none
      exact List.count_eq_zero.mp none (List.mem_map_of_mem member)
    · intro key member
      have one := once key
      rw [if_pos member] at one
      exact List.count_pos_iff.mp (by omega)
  · rintro ⟨distinct, known, covered⟩ key
    split
    · next member => exact List.count_eq_one_of_mem distinct (covered key member)
    · next missing =>
        refine List.count_eq_zero.mpr fun member => missing ?_
        obtain ⟨record, found, rfl⟩ := List.mem_map.mp member
        exact known record found

/-- An expected key names a case of the hotspot. -/
theorem case_of_mem_expectedKeys {key : RecordKey} (member : key ∈ hotspot.expectedKeys) :
    ∃ case ∈ hotspot.cases, case.caseId = key.caseId := by
  simp only [M1HotspotCorrectnessSpec.expectedKeys, List.mem_flatMap, List.mem_map] at member
  obtain ⟨case, inCases, seed, -, special, -, repeatOrdinal, -, rfl⟩ := member
  exact ⟨case, inCases, rfl⟩

section

variable {reference candidate : M1NormalizedOutputV1} {maxElements : Nat} {largeValueMinAbs : Rat}

/-- The records of a key pass and match when they agree. -/
theorem record_iff (values : SameInputValues reference candidate)
    (referenceBooleans : BooleanOutputs hotspot reference)
    (candidateBooleans : BooleanOutputs hotspot candidate)
    {key : RecordKey} {case : M1CorrectnessCase} {left right : M1OutputRecord}
    (foundCase : caseOf hotspot key = some case)
    (foundLeft : recordWith reference.records key = some left)
    (foundRight : recordWith candidate.records key = some right) :
    (RecordReady env hotspot largeValueMinAbs reference.records candidate.records key ∧
        ∀ element ∈ comparedRecord hotspot reference.records candidate.records key,
          (element.result env).matched = true) ↔
      RecordAgreement env hotspot largeValueMinAbs case left right := by
  obtain ⟨inCases, caseId⟩ := caseOf_eq_some_iff.mp foundCase
  have memberLeft := List.mem_of_find?_eq_some foundLeft
  have memberRight := List.mem_of_find?_eq_some foundRight
  have keyLeft : left.key = key := by simpa using List.find?_some foundLeft
  have keyRight : right.key = key := by simpa using List.find?_some foundRight
  have elements : comparedRecord hotspot reference.records candidate.records key =
      case.outputs.flatMap (comparedOutput key left.outputs right.outputs) := by
    simp only [comparedRecord, foundCase, foundLeft, foundRight]
  have booleans : ∀ spec ∈ case.outputs, spec.dtype = .bool →
      ∀ tensor, tensor ∈ left.outputs ∨ tensor ∈ right.outputs → tensor.name = spec.name →
        ∀ value ∈ tensor.values, value.isBool = true := by
    rintro spec member bool tensor (inLeft | inRight) named
    · exact referenceBooleans case inCases spec member bool left memberLeft
        (by rw [keyLeft, caseId]) tensor inLeft named
    · exact candidateBooleans case inCases spec member bool right memberRight
        (by rw [keyRight, caseId]) tensor inRight named
  subst keyLeft
  rw [← pair_iff (values left memberLeft right memberRight keyRight.symm) booleans, elements]
  simp only [List.forall_mem_flatMap]
  refine and_congr_left fun _ => ⟨?_, ?_⟩
  · rintro ⟨case', left', right', foundCase', foundLeft', foundRight', ready⟩
    obtain rfl := Option.some.inj (foundCase.symm.trans foundCase')
    obtain rfl := Option.some.inj (foundLeft.symm.trans foundLeft')
    obtain rfl := Option.some.inj (foundRight.symm.trans foundRight')
    exact ready
  · exact fun ready => ⟨case, left, right, foundCase, foundLeft, foundRight, ready⟩

/-- A comparison returns with all elements matching when the executions agree. -/
theorem comparable_iff_agreement (values : SameInputValues reference candidate)
    (referenceBooleans : BooleanOutputs hotspot reference)
    (candidateBooleans : BooleanOutputs hotspot candidate) :
    (Comparable env hotspot reference candidate maxElements largeValueMinAbs ∧
        ∀ element ∈ compared hotspot reference candidate, (element.result env).matched = true) ↔
      Agreement env hotspot reference candidate maxElements largeValueMinAbs := by
  have keys : ∀ key, key ∈ hotspot.sortedKeys ↔ key ∈ hotspot.expectedKeys := fun key =>
    List.mem_insertionSort _
  constructor
  · rintro ⟨comparable, matched⟩
    refine
      { hotspotId := comparable.hotspotId
        referenceOnce := oncePerKey_iff.mpr ⟨comparable.referenceKeys, comparable.budget.1⟩
        candidateOnce := oncePerKey_iff.mpr ⟨comparable.candidateKeys, comparable.budget.2⟩
        records := ?_
        elements := comparable.elements }
    intro case inCases left memberLeft right memberRight sameKey caseId
    have expected : left.key ∈ hotspot.expectedKeys := comparable.budget.1.1 left memberLeft
    refine (record_iff values referenceBooleans candidateBooleans
      (caseOf_eq_some_iff.mpr ⟨inCases, caseId.symm⟩)
      ((recordWith_eq_some_iff comparable.referenceKeys).mpr ⟨memberLeft, rfl⟩)
      ((recordWith_eq_some_iff comparable.candidateKeys).mpr ⟨memberRight, sameKey.symm⟩)).mp
      ⟨comparable.records _ expected, fun element member => matched element ?_⟩
    exact List.mem_flatMap.mpr ⟨left.key, (keys _).mpr expected, member⟩
  · intro agreement
    obtain ⟨distinctLeft, sameLeft⟩ := oncePerKey_iff.mp agreement.referenceOnce
    obtain ⟨distinctRight, sameRight⟩ := oncePerKey_iff.mp agreement.candidateOnce
    have ready : ∀ key ∈ hotspot.expectedKeys,
        RecordReady env hotspot largeValueMinAbs reference.records candidate.records key ∧
          ∀ element ∈ comparedRecord hotspot reference.records candidate.records key,
            (element.result env).matched = true := by
      intro key expected
      obtain ⟨case, inCases, caseId⟩ := case_of_mem_expectedKeys expected
      obtain ⟨left, memberLeft, rfl⟩ := List.mem_map.mp (sameLeft.2 key expected)
      obtain ⟨right, memberRight, sameKey⟩ := List.mem_map.mp (sameRight.2 left.key expected)
      exact (record_iff values referenceBooleans candidateBooleans
        (caseOf_eq_some_iff.mpr ⟨inCases, caseId⟩)
        ((recordWith_eq_some_iff distinctLeft).mpr ⟨memberLeft, rfl⟩)
        ((recordWith_eq_some_iff distinctRight).mpr ⟨memberRight, sameKey⟩)).mpr
        (agreement.records case inCases left memberLeft right memberRight sameKey.symm caseId.symm)
    refine
      ⟨{ hotspotId := agreement.hotspotId
         referenceKeys := distinctLeft
         candidateKeys := distinctRight
         budget := ⟨sameLeft, sameRight⟩
         records := fun key expected => (ready key expected).1
         elements := agreement.elements }, ?_⟩
    intro element member
    obtain ⟨key, inKeys, member⟩ := List.mem_flatMap.mp member
    exact (ready key ((keys key).mp inKeys)).2 element member

end

/-! ## The report -/

/-- The largest of some errors; nothing when there are none. -/
def IsLargest (errors : List Magnitude) : Option Magnitude → Prop
  | none => errors = []
  | some largest => largest ∈ errors ∧ ∀ error ∈ errors, error ≤ largest

/-- A running maximum is the largest error so far. -/
theorem isLargest_larger {errors : List Magnitude} {current : Option Magnitude}
    (largest : IsLargest errors current) (error : Option Magnitude) :
    IsLargest (errors ++ error.toList) (larger current error) := by
  cases error with
  | none => simpa [larger] using largest
  | some error =>
      cases current with
      | none =>
          have empty : errors = [] := largest
          simp [IsLargest, larger, empty]
      | some current =>
          obtain ⟨member, bound⟩ := largest
          refine ⟨?_, ?_⟩
          · rcases max_choice current error with same | same
            · rw [same]
              exact List.mem_append_left _ member
            · rw [same]
              simp
          · intro other found
            rcases List.mem_append.mp found with old | new
            · exact (bound other old).trans (le_max_left _ _)
            · simp only [Option.toList_some, List.mem_singleton] at new
              exact new ▸ le_max_right _ _

theorem isLargest_foldl {α : Type} (error : α → Option Magnitude) (xs : List α) :
    ∀ (errors : List Magnitude) (current : Option Magnitude), IsLargest errors current →
      IsLargest (errors ++ xs.filterMap error)
        (xs.foldl (fun current x => larger current (error x)) current) := by
  induction xs with
  | nil =>
      intro errors current largest
      simpa using largest
  | cons x xs ih =>
      intro errors current largest
      have step := ih _ _ (isLargest_larger largest (error x))
      rw [List.foldl_cons]
      cases found : error x with
      | none => simpa [found] using step
      | some value => simpa [found] using step

/-- Lists joined along a list of distinct items are distinct when no entry belongs to two of
them. -/
theorem nodup_flatMap_of_apart {α β : Type} {xs : List α} {f : α → List β} (distinct : xs.Nodup)
    (each : ∀ x ∈ xs, (f x).Nodup) (apart : ∀ x ∈ xs, ∀ y ∈ xs, ∀ z ∈ f x, z ∈ f y → x = y) :
    (xs.flatMap f).Nodup := by
  refine List.nodup_flatMap.mpr ⟨each, List.Pairwise.imp_of_mem ?_ distinct⟩
  intro x y memberX memberY different z inX inY
  exact different (apart x memberX y memberY z inX inY)

/-- The validator of a hotspot keeps its keys distinct. -/
theorem expectedKeys_nodup : hotspot.expectedKeys.Nodup := by
  refine nodup_flatMap_of_apart hotspot.casesUnique.of_map (fun case _ => ?_) ?_
  · refine nodup_flatMap_of_apart case.seedsUnique (fun seed _ => ?_) ?_
    · refine nodup_flatMap_of_apart case.specialValuesUnique (fun special _ => ?_) ?_
      · refine List.Nodup.map (fun i j same => ?_) List.nodup_range
        exact congrArg RecordKey.repeatOrdinal same
      · simp only [List.mem_map]
        rintro special - special' - _ ⟨i, -, rfl⟩ ⟨j, -, same⟩
        exact (congrArg RecordKey.specialValue same).symm
    · simp only [List.mem_flatMap, List.mem_map]
      rintro seed - seed' - _ ⟨special, -, i, -, rfl⟩ ⟨special', -, j, -, same⟩
      exact (congrArg RecordKey.seed same).symm
  · simp only [List.mem_flatMap, List.mem_map]
    rintro case member case' member' _ ⟨seed, -, special, -, i, -, rfl⟩
      ⟨seed', -, special', -, j, -, same⟩
    exact List.inj_on_of_nodup_map hotspot.casesUnique member member'
      (congrArg RecordKey.caseId same).symm

theorem length_flatMap_const {α β : Type} {xs : List α} {f : α → List β} {n : Nat}
    (each : ∀ x ∈ xs, (f x).length = n) : (xs.flatMap f).length = xs.length * n := by
  rw [List.length_flatMap, List.map_congr_left each, List.map_const', List.sum_replicate_nat]

/-- The number of output elements that a specification asks for. -/
def M1HotspotCorrectnessSpec.elementCount (hotspot : M1HotspotCorrectnessSpec) : Nat :=
  (hotspot.cases.map fun case => case.seeds.length * (case.specialValues.length * (case.repeats *
    (case.outputs.map fun spec => spec.elementCount).sum))).sum

section

variable {reference candidate : M1NormalizedOutputV1} {maxElements : Nat} {largeValueMinAbs : Rat}

/-- The records of a key give as many elements as the outputs of its case have. -/
theorem length_comparedRecord {key : RecordKey} {case : M1CorrectnessCase}
    (foundCase : caseOf hotspot key = some case)
    (ready : RecordReady env hotspot largeValueMinAbs reference.records candidate.records key) :
    (comparedRecord hotspot reference.records candidate.records key).length =
      (case.outputs.map fun spec => spec.elementCount).sum := by
  obtain ⟨case', left, right, foundCase', foundLeft, foundRight, ready⟩ := ready
  obtain rfl := Option.some.inj (foundCase.symm.trans foundCase')
  simp only [comparedRecord, foundCase, foundLeft, foundRight, List.length_flatMap]
  refine congrArg List.sum (List.map_congr_left fun spec member => ?_)
  obtain ⟨a, b, foundA, foundB, fitsA, fitsB, -⟩ := ready.outputs spec member
  simp [comparedOutput, foundA, foundB, fitsA.count, fitsB.count]

/-- Every output element that the specification asks for is compared. -/
theorem length_compared
    (comparable : Comparable env hotspot reference candidate maxElements largeValueMinAbs) :
    (compared hotspot reference candidate).length = hotspot.elementCount := by
  have perm : hotspot.sortedKeys.Perm hotspot.expectedKeys := List.perm_insertionSort _ _
  rw [compared, (perm.flatMap_right _).length_eq, M1HotspotCorrectnessSpec.elementCount,
    M1HotspotCorrectnessSpec.expectedKeys, List.flatMap_assoc, List.length_flatMap]
  refine congrArg List.sum (List.map_congr_left fun case inCases => ?_)
  rw [List.flatMap_assoc]
  refine length_flatMap_const fun seed inSeeds => ?_
  rw [List.flatMap_assoc]
  refine length_flatMap_const fun special inSpecials => ?_
  rw [List.flatMap_map]
  refine (length_flatMap_const fun i inRange => ?_).trans (by rw [List.length_range])
  refine length_comparedRecord (caseOf_eq_some_iff.mpr ⟨inCases, rfl⟩)
    (comparable.records _ ?_)
  simp only [M1HotspotCorrectnessSpec.expectedKeys, List.mem_flatMap, List.mem_map]
  exact ⟨case, inCases, seed, inSeeds, special, inSpecials, i, inRange, rfl⟩

/-- What a report says about the records and their elements. -/
structure Reports (env : ComparisonEnvironment) (hotspot : M1HotspotCorrectnessSpec)
    (reference candidate : M1NormalizedOutputV1) (report : ComparisonReport) : Prop where
  records : report.checkedRecords = reference.records.length ∧
    report.checkedRecords = candidate.records.length
  elements : report.checkedElements = (compared hotspot reference candidate).length ∧
    report.checkedElements = hotspot.elementCount
  mismatches : report.mismatches =
    (compared hotspot reference candidate).filterMap (Compared.mismatch? env)
  maxAbs : IsLargest ((compared hotspot reference candidate).filterMap fun element =>
    (element.result env).absolute) report.maxAbs
  maxRel : IsLargest ((compared hotspot reference candidate).filterMap fun element =>
    (element.result env).relative) report.maxRel

theorem length_eq_of_sameKeys {records : List M1OutputRecord}
    (distinct : (records.map M1OutputRecord.key).Nodup)
    (same : SameKeys records hotspot.expectedKeys) :
    hotspot.expectedKeys.length = records.length := by
  have perm : (records.map M1OutputRecord.key).Perm hotspot.expectedKeys := by
    refine (List.perm_ext_iff_of_nodup distinct expectedKeys_nodup).mpr fun key => ⟨?_, same.2 key⟩
    intro member
    obtain ⟨record, found, rfl⟩ := List.mem_map.mp member
    exact same.1 record found
  rw [← perm.length_eq, List.length_map]

theorem reports_summary
    (comparable : Comparable env hotspot reference candidate maxElements largeValueMinAbs) :
    Reports env hotspot reference candidate
      (summary env hotspot (compared hotspot reference candidate)) where
  records := ⟨length_eq_of_sameKeys comparable.referenceKeys comparable.budget.1,
    length_eq_of_sameKeys comparable.candidateKeys comparable.budget.2⟩
  elements := by
    have count := length_compared comparable
    simp [summary, Tally.extend, count]
  mismatches := by simp [summary, Tally.extend]
  maxAbs := by
    simpa [summary, Tally.extend] using
      isLargest_foldl (fun element : Compared => (element.result env).absolute)
        (compared hotspot reference candidate) [] none rfl
  maxRel := by
    simpa [summary, Tally.extend] using
      isLargest_foldl (fun element : Compared => (element.result env).relative)
        (compared hotspot reference candidate) [] none rfl

/-- No mismatch is reported when all elements match. -/
theorem summary_mismatches_eq_nil {elements : List Compared} :
    (summary env hotspot elements).mismatches = [] ↔
      ∀ element ∈ elements, (element.result env).matched = true := by
  simp only [summary, Tally.extend, List.nil_append, List.filterMap_eq_nil_iff,
    Compared.mismatch?]
  refine forall₂_congr fun element _ => ?_
  split <;> simp_all

/-- Two outputs with the same records in another order. -/
structure SameRecords (output output' : M1NormalizedOutputV1) : Prop where
  hotspotId : output'.hotspotId = output.hotspotId
  records : output.records.Perm output'.records

/-- The order of the records does not show in the report. -/
theorem compareOutputs_perm {reference' candidate' : M1NormalizedOutputV1}
    {report : ComparisonReport} (sameReference : SameRecords reference reference')
    (sameCandidate : SameRecords candidate candidate')
    (ran : compareOutputs env hotspot reference candidate maxElements largeValueMinAbs =
      .ok report) :
    compareOutputs env hotspot reference' candidate' maxElements largeValueMinAbs =
      .ok report := by
  obtain ⟨comparable, rfl⟩ := compareOutputs_ok_iff.mp ran
  have references : recordWith reference'.records = recordWith reference.records :=
    funext fun key => find?_perm comparable.referenceKeys sameReference.records
  have candidates : recordWith candidate'.records = recordWith candidate.records :=
    funext fun key => find?_perm comparable.candidateKeys sameCandidate.records
  have elements : compared hotspot reference' candidate' =
      compared hotspot reference candidate := by
    refine congrArg (fun elements => hotspot.sortedKeys.flatMap elements) (funext fun key => ?_)
    simp only [comparedRecord, references, candidates]
  have keysOf : ∀ {output output' : M1NormalizedOutputV1}, SameRecords output output' →
      SameKeys output.records hotspot.expectedKeys →
        SameKeys output'.records hotspot.expectedKeys := by
    intro output output' same known
    refine ⟨fun record member => known.1 record (same.records.mem_iff.mpr member), ?_⟩
    exact fun key member => (same.records.map _).mem_iff.mp (known.2 key member)
  refine compareOutputs_ok_iff.mpr ⟨?_, by rw [elements]⟩
  exact
    { hotspotId := ⟨sameReference.hotspotId.trans comparable.hotspotId.1,
        sameCandidate.hotspotId.trans comparable.hotspotId.2⟩
      referenceKeys := (sameReference.records.map _).nodup_iff.mp comparable.referenceKeys
      candidateKeys := (sameCandidate.records.map _).nodup_iff.mp comparable.candidateKeys
      budget := ⟨keysOf sameReference comparable.budget.1,
        keysOf sameCandidate comparable.budget.2⟩
      records := by
        simpa only [RecordReady, references, candidates] using comparable.records
      elements := elements ▸ comparable.elements }

end

/-- **The correctness verdict.** Where `==` on the inputs is identity and boolean outputs
hold booleans, a comparison returns without mismatches exactly when the executions agree.
Whatever a comparison reports is about all elements that the specification asks for, and
does not depend on the order of the records. -/
theorem verdict_correct (env : ComparisonEnvironment) (hotspot : M1HotspotCorrectnessSpec)
    (reference candidate : M1NormalizedOutputV1) (maxElements : Nat) (largeValueMinAbs : Rat) :
    (SameInputValues reference candidate → BooleanOutputs hotspot reference →
      BooleanOutputs hotspot candidate →
        ((∃ report, compareOutputs env hotspot reference candidate maxElements
              largeValueMinAbs = .ok report ∧ report.mismatches = []) ↔
          Agreement env hotspot reference candidate maxElements largeValueMinAbs)) ∧
      ∀ report, compareOutputs env hotspot reference candidate maxElements largeValueMinAbs =
          .ok report →
        Reports env hotspot reference candidate report ∧
          ∀ reference' candidate', SameRecords reference reference' →
            SameRecords candidate candidate' →
              compareOutputs env hotspot reference' candidate' maxElements largeValueMinAbs =
                .ok report := by
  refine ⟨?_, fun report ran => ⟨?_, fun _ _ sameReference sameCandidate =>
    compareOutputs_perm sameReference sameCandidate ran⟩⟩
  · intro values referenceBooleans candidateBooleans
    rw [← comparable_iff_agreement values referenceBooleans candidateBooleans]
    simp only [compareOutputs_ok_iff]
    constructor
    · rintro ⟨report, ⟨comparable, rfl⟩, none⟩
      exact ⟨comparable, summary_mismatches_eq_nil.mp none⟩
    · rintro ⟨comparable, matched⟩
      exact ⟨_, ⟨comparable, rfl⟩, summary_mismatches_eq_nil.mpr matched⟩
  · obtain ⟨comparable, rfl⟩ := compareOutputs_ok_iff.mp ran
    exact reports_summary comparable

/-! ## One record -/

namespace OneRecord

/-- Doubles that need no rounding. -/
def exact : ComparisonEnvironment where
  round := some
  inputHash := fun inputs =>
    if inputs = [⟨"x", [1], "float32", [.float (.number 1)]⟩] then "sha256:frozen"
    else "sha256:other"
  floatText := fun _ => "1.0"

/-- A case with one input and one output, run once. -/
def oneCase (specialValue : String) : M1CorrectnessCase where
  caseId := "add"
  inputs := [⟨"x", [1], .float32, by decide⟩]
  outputs := [{ name := "y", shape := [1], dtype := .float32, atol := 0, rtol := 0
                equalNan := false, positive := by decide, tolerances := by decide
                exact := by decide }]
  seeds := [7]
  specialValues := [specialValue]
  repeats := 1
  seedsUnique := List.nodup_singleton _
  specialValuesUnique := List.nodup_singleton _
  inputNamesUnique := List.nodup_singleton _
  outputNamesUnique := List.nodup_singleton _

def oneHotspot (specialValue : String) : M1HotspotCorrectnessSpec where
  hotspotId := "hotspot"
  cases := [oneCase specialValue]
  inputExpectations := [⟨"add", 7, specialValue, "sha256:frozen"⟩]
  casesUnique := List.nodup_singleton _
  expectationsUnique := List.nodup_singleton _
  expectationsCover := by
    intro caseId seed special
    simp only [List.map_cons, List.map_nil, List.mem_singleton, Prod.mk.injEq, exists_eq_left,
      oneCase, List.mem_singleton]
    exact and_congr_left fun _ => eq_comm

/-- An execution on the input 1 with the output 2. -/
def output (specialValue : String) : M1NormalizedOutputV1 where
  hotspotId := "hotspot"
  records := [{ key := ⟨"add", 7, specialValue, 0⟩
                inputs := [⟨"x", [1], "float32", [.float (.number 1)]⟩]
                outputs := [⟨"y", [1], "float32", [.float (.number 2)]⟩] }]

theorem sameInputValues (specialValue : String) :
    SameInputValues (output specialValue) (output specialValue) := by
  intro left inLeft right inRight _ a inA b inB _ pair member _
  simp only [output, List.mem_singleton] at inLeft inRight
  subst inLeft inRight
  simp only [List.mem_singleton] at inA inB
  subst inA inB
  simp only [List.zip_cons_cons, List.zip_nil_right, List.mem_singleton] at member
  rw [member]

theorem booleanOutputs (specialValue : String) :
    BooleanOutputs (oneHotspot specialValue) (output specialValue) := by
  intro found inCases spec inSpecs bool
  simp only [oneHotspot, List.mem_singleton] at inCases
  subst inCases
  simp only [oneCase, List.mem_singleton] at inSpecs
  subst inSpecs
  cases bool

theorem conforms_outputs {specialValue : String} :
    Conforms ((oneCase specialValue).outputs.map M1OutputSpec.toM1TensorSpec)
      [⟨"y", [1], "float32", [.float (.number 2)]⟩] where
  distinct := List.nodup_singleton _
  names := by simp [SameNames, oneCase]
  fits := by
    simp only [oneCase, List.map_cons, List.map_nil, List.mem_singleton, forall_eq]
    exact fun _ => ⟨rfl, rfl, rfl⟩

end OneRecord

open OneRecord in
/-- An ordinary input, the same output twice. -/
theorem verdict_correct_ordinary :
    Agreement exact (oneHotspot "ordinary") (output "ordinary") (output "ordinary") 10 1 :=
  ((verdict_correct exact (oneHotspot "ordinary") (output "ordinary") (output "ordinary") 10
    1).1 (sameInputValues _) (booleanOutputs _) (booleanOutputs _)).mp
    ⟨⟨[], 1, 1, some 0, some 0⟩, by decide +kernel, rfl⟩

open OneRecord in
/-- A record declared as the special value zero, whose frozen input holds no zero: there is
one record of each key, both executions received the frozen input and the outputs agree,
and the comparison raises. -/
theorem undeclared_special_value_raises :
    OncePerKey (output "zero").records (oneHotspot "zero").expectedKeys ∧
      (∀ record ∈ (output "zero").records,
        SameExecution exact (oneHotspot "zero") (oneCase "zero") record record) ∧
      compareOutputs exact (oneHotspot "zero") (output "zero") (output "zero") 10 1 =
        .error (.evidence "special_value_semantics_mismatch"
          "input does not satisfy declared special value zero") := by
  refine ⟨oncePerKey_iff.mpr (by decide +kernel), ?_, by decide +kernel⟩
  intro record member
  simp only [output, List.mem_singleton] at member
  subst member
  exact
    { inputs :=
        { distinct := by decide
          names := by decide
          fits := by
            simp only [oneCase, List.mem_singleton, forall_eq]
            exact fun _ => ⟨rfl, rfl, rfl⟩ }
      received := .refl _
      frozen := ⟨_, .head _, rfl, by decide⟩
      referenceOutputs := conforms_outputs
      candidateOutputs := conforms_outputs
      agree := by
        simp only [oneCase, List.mem_singleton, forall_eq]
        exact fun _ _ => .cons (.close ⟨rfl, by decide⟩ rfl rfl (by decide +kernel)) .nil }

end M1Verifier

end HcuAutoOpt
