import HcuAutoOpt.Foundation.CanonicalJson

/-!
# The canonical text determines the document

Two documents without fractions that have the same canonical text are the same document up to
the order of the fields of their objects (`canonicalText_inj`).

`chars` is the compact text of a document whose fields stand as they are; printing sorts them
first (`toList_dumps`). Every piece of the text can be told from any other one in front of a
text that does not go on with a digit (`ToldApart`): literals by their quotes, numbers by their
digits, arrays and objects by their brackets and commas (`separated_inj`). Documents of different
kinds differ in their first character (`opens_chars`).
-/

set_option autoImplicit false

namespace Foundation

namespace Json

/-! ## Induction over documents -/

/-- Induction over a document, whose items and fields are documents. -/
@[elab_as_elim]
theorem induction {motive : Json → Prop} (null : motive .null)
    (bool : ∀ value, motive (.bool value)) (int : ∀ value, motive (.int value))
    (float : ∀ significand exponent, motive (.float significand exponent))
    (str : ∀ value, motive (.str value))
    (arr : ∀ items, (∀ item ∈ items, motive item) → motive (.arr items))
    (obj : ∀ fields : Object, (∀ field ∈ fields, motive field.2) → motive (.obj fields))
    (value : Json) : motive value := by
  refine @Json.rec motive (fun items => ∀ item ∈ items, motive item)
    (fun fields => ∀ field ∈ fields, motive field.2) (fun field => motive field.2)
    null bool int float str arr obj ?_ ?_ ?_ ?_ ?_ value
  · exact fun item member => absurd member List.not_mem_nil
  · intro item items first rest other member
    rcases List.mem_cons.mp member with rfl | later
    · exact first
    · exact rest other later
  · exact fun field member => absurd member List.not_mem_nil
  · intro field fields first rest other member
    rcases List.mem_cons.mp member with rfl | later
    · exact first
    · exact rest other later
  · exact fun name value holds => holds

/-! ## Documents without fractions, and their order -/

mutual

/-- No number of the document has a fraction or an exponent. -/
def integral : Json → Bool
  | .float _ _ => false
  | .arr items => integralItems items
  | .obj fields => integralFields fields
  | _ => true

@[inherit_doc integral] def integralItems : List Json → Bool
  | [] => true
  | item :: items => integral item && integralItems items

@[inherit_doc integral] def integralFields : List (String × Json) → Bool
  | [] => true
  | (_, value) :: fields => integral value && integralFields fields

end

theorem integralItems_iff {items : List Json} :
    integralItems items = true ↔ ∀ item ∈ items, item.integral = true := by
  induction items with
  | nil => simp [integralItems]
  | cons item items ih => simp [integralItems, ih]

theorem integralFields_iff {fields : Object} :
    integralFields fields = true ↔ ∀ field ∈ fields, field.2.integral = true := by
  induction fields with
  | nil => simp [integralFields]
  | cons field fields ih => simp [integralFields, ih]

mutual

/-- The document with the fields of every object in the order of their names. -/
def sorted : Json → Json
  | .arr items => .arr (sortedItems items)
  | .obj fields => .obj ((sortedFields fields).insertionSort fun a b => a.1 ≤ b.1)
  | value => value

@[inherit_doc sorted] def sortedItems : List Json → List Json
  | [] => []
  | item :: items => sorted item :: sortedItems items

@[inherit_doc sorted] def sortedFields : List (String × Json) → List (String × Json)
  | [] => []
  | (name, value) :: fields => (name, sorted value) :: sortedFields fields

end

theorem sortedItems_eq (items : List Json) : sortedItems items = items.map sorted := by
  induction items with
  | nil => rfl
  | cons item items ih => rw [sortedItems, ih, List.map_cons]

theorem sortedFields_eq (fields : Object) :
    sortedFields fields = fields.map fun field => (field.1, field.2.sorted) := by
  induction fields with
  | nil => rfl
  | cons field fields ih => rw [sortedFields, ih, List.map_cons]

@[simp] theorem sorted_int (value : Int) : sorted (.int value) = .int value := rfl

@[simp] theorem sorted_str (value : String) : sorted (.str value) = .str value := rfl

theorem sorted_arr (items : List Json) : sorted (.arr items) = .arr (items.map sorted) := by
  rw [sorted, sortedItems_eq]

theorem integral_sorted {value : Json} (plain : value.integral = true) :
    value.sorted.integral = true := by
  induction value using Json.induction with
  | arr items ih =>
      rw [integral, integralItems_iff] at plain
      rw [sorted, integral, integralItems_iff, sortedItems_eq]
      intro item member
      obtain ⟨old, here, rfl⟩ := List.mem_map.mp member
      exact ih old here (plain old here)
  | obj fields ih =>
      rw [integral, integralFields_iff] at plain
      rw [sorted, integral, integralFields_iff, sortedFields_eq]
      intro field member
      rw [List.mem_insertionSort] at member
      obtain ⟨old, here, rfl⟩ := List.mem_map.mp member
      exact ih old here (plain old here)
  | float significand exponent => exact absurd plain (by simp [integral])
  | _ => exact plain

/-! ## The text of an ordered document -/

mutual

/-- The compact text of a document, with the fields of every object as they stand. -/
noncomputable def chars : Json → List Char
  | .null => "null".toList
  | .bool true => "true".toList
  | .bool false => "false".toList
  | .int value => (toString value).toList
  | .float significand exponent => (numberText significand exponent).toList
  | .str value => (quotedJson value).toList
  | .arr items => '[' :: ([','].intercalate (charsItems items) ++ [']'])
  | .obj fields => '\x7b' :: ([','].intercalate (charsFields fields) ++ ['\x7d'])

/-- The texts of the items of an array. -/
noncomputable def charsItems : List Json → List (List Char)
  | [] => []
  | item :: items => chars item :: charsItems items

/-- The texts of the fields of an object. -/
noncomputable def charsFields : List (String × Json) → List (List Char)
  | [] => []
  | (name, value) :: fields => ((quotedJson name).toList ++ ':' :: chars value) :: charsFields fields

end

/-- The text of a field. -/
noncomputable def charsField (field : String × Json) : List Char :=
  (quotedJson field.1).toList ++ ':' :: field.2.chars

theorem charsItems_eq (items : List Json) : charsItems items = items.map chars := by
  induction items with
  | nil => rfl
  | cons item items ih => rw [charsItems, ih, List.map_cons]

theorem charsFields_eq (fields : Object) : charsFields fields = fields.map charsField := by
  induction fields with
  | nil => rfl
  | cons field fields ih =>
      rw [charsFields, ih, List.map_cons]
      rfl

theorem dumpsItems_eq (items : List Json) : dumpsItems items = items.map dumps := by
  induction items with
  | nil => rfl
  | cons item items ih => rw [dumpsItems, ih, List.map_cons]

theorem dumpsFields_eq (fields : Object) :
    dumpsFields fields = fields.map fun field => (field.1, field.2.dumps) := by
  induction fields with
  | nil => rfl
  | cons field fields ih => rw [dumpsFields, ih, List.map_cons]

/-- **Printing a document prints its ordered form.** -/
theorem toList_dumps (value : Json) : value.dumps.toList = value.sorted.chars := by
  induction value using Json.induction with
  | bool value => cases value <;> rfl
  | arr items ih =>
      rw [dumps, sorted, chars, charsItems_eq, sortedItems_eq, dumpsItems_eq]
      simp only [String.toList_append, String.toList_intercalate, List.map_map]
      have texts : items.map (String.toList ∘ dumps) = items.map (chars ∘ sorted) :=
        List.map_congr_left fun item member => ih item member
      rw [texts]
      rfl
  | obj fields ih =>
      have texts : (dumpsFields fields).map (fun field => (field.1, field.2.toList)) =
          (sortedFields fields).map fun field => (field.1, field.2.chars) := by
        rw [dumpsFields_eq, sortedFields_eq, List.map_map, List.map_map]
        exact List.map_congr_left fun field member => Prod.ext rfl (ih field member)
      have ordered : ((dumpsFields fields).insertionSort fun a b => a.1 ≤ b.1).map
            (fun field => (field.1, field.2.toList)) =
          ((sortedFields fields).insertionSort fun a b => a.1 ≤ b.1).map
            fun field => (field.1, field.2.chars) := by
        rw [List.map_insertionSort _ (fun a b : String × List Char => a.1 ≤ b.1) _ _
            fun _ _ _ _ => Iff.rfl,
          List.map_insertionSort _ (fun a b : String × List Char => a.1 ≤ b.1) _ _
            fun _ _ _ _ => Iff.rfl, texts]
      rw [dumps, sorted, chars, charsFields_eq]
      simp only [String.toList_append, String.toList_intercalate, List.map_map]
      have fieldTexts : ((dumpsFields fields).insertionSort fun a b => a.1 ≤ b.1).map
            (String.toList ∘ fun field => quotedJson field.1 ++ ":" ++ field.2) =
          ((sortedFields fields).insertionSort fun a b => a.1 ≤ b.1).map charsField := by
        have after := congrArg (List.map fun field : String × List Char =>
          (quotedJson field.1).toList ++ ':' :: field.2) ordered
        rw [List.map_map, List.map_map] at after
        refine Eq.trans (List.map_congr_left fun field _ => ?_) after
        simp [String.toList_append]
      rw [fieldTexts]
      rfl
  | _ => rfl

/-! ## Texts that can be told apart -/

/-- The text does not go on with a digit. -/
def Ends (rest : List Char) : Prop := ∀ c ∈ rest.head?, c.isDigit = false

theorem ends_cons {c : Char} {rest : List Char} (other : c.isDigit = false) : Ends (c :: rest) := by
  intro d first
  cases first
  exact other

/-- The texts of two values can be told apart in front of texts that do not go on with a
digit. -/
def ToldApart {α : Type} (text : α → List Char) (a b : α) : Prop :=
  ∀ ⦃rest rest' : List Char⦄, Ends rest → Ends rest' → text a ++ rest = text b ++ rest' →
    a = b ∧ rest = rest'

section Separated

variable {α : Type} {text : α → List Char} {close : Char}

/-- Texts between separators: the first one, and each other one behind a separator. -/
theorem intercalate_cons {β : Type} (separator : β) (text : α → List β) (item : α)
    (items : List α) : [separator].intercalate ((item :: items).map text) =
      text item ++ items.flatMap fun item => separator :: text item := by
  induction items generalizing item with
  | nil => simp [List.intercalate]
  | cons next items ih =>
      have rest := ih next
      simp only [List.map_cons, List.intercalate, List.intersperse_cons_cons, List.flatten_cons,
        List.flatMap_cons] at rest ⊢
      rw [rest]
      simp

/-- Items behind commas, up to the closing bracket, are determined by their text. -/
theorem tails_inj (separates : close ≠ ',') (closes : close.isDigit = false)
    {items items' : List α} {rest rest' : List Char}
    (told : ∀ a ∈ items, ∀ b ∈ items', ToldApart text a b)
    (same : (items.flatMap fun item => ',' :: text item) ++ close :: rest =
      (items'.flatMap fun item => ',' :: text item) ++ close :: rest') :
    items = items' ∧ rest = rest' := by
  have ends : ∀ (items : List α) (rest : List Char),
      Ends ((items.flatMap fun item => ',' :: text item) ++ close :: rest) := by
    intro items rest
    cases items with
    | nil => exact ends_cons closes
    | cons item items => exact ends_cons (by decide)
  induction items generalizing items' with
  | nil =>
      cases items' with
      | nil => exact ⟨rfl, (List.cons.inj same).2⟩
      | cons item' items' => exact absurd (List.cons.inj same).1 separates
  | cons item items ih =>
      cases items' with
      | nil => exact absurd (List.cons.inj same).1.symm separates
      | cons item' items' =>
          simp only [List.flatMap_cons, List.cons_append, List.append_assoc, List.cons.injEq,
            true_and] at same
          obtain ⟨rfl, others⟩ := told item List.mem_cons_self item' List.mem_cons_self
            (ends items rest) (ends items' rest') same
          obtain ⟨rfl, after⟩ := ih (fun a here b there =>
            told a (List.mem_cons_of_mem _ here) b (List.mem_cons_of_mem _ there)) others
          exact ⟨rfl, after⟩

/-- **Items between commas are determined by their text**, when no item opens with the closing
bracket. -/
theorem separated_inj (separates : close ≠ ',') (closes : close.isDigit = false)
    {items items' : List α} {rest rest' : List Char}
    (told : ∀ a ∈ items, ∀ b ∈ items', ToldApart text a b)
    (opened : ∀ a, a ∈ items ∨ a ∈ items' → ∃ c more, text a = c :: more ∧ c ≠ close)
    (same : [','].intercalate (items.map text) ++ close :: rest =
      [','].intercalate (items'.map text) ++ close :: rest') :
    items = items' ∧ rest = rest' := by
  have bare : ∀ (a : α) (others rest rest' : List Char), (∃ c more, text a = c :: more ∧
      c ≠ close) → close :: rest ≠ text a ++ others ++ close :: rest' := by
    rintro a others rest rest' ⟨c, more, opens, other⟩ same
    rw [opens] at same
    exact other (List.cons.inj same).1.symm
  cases items with
  | nil =>
      cases items' with
      | nil => exact ⟨rfl, (List.cons.inj same).2⟩
      | cons item' items' =>
          rw [intercalate_cons] at same
          exact absurd same (bare item' _ rest rest' (opened item' (.inr List.mem_cons_self)))
  | cons item items =>
      cases items' with
      | nil =>
          rw [intercalate_cons] at same
          exact absurd same.symm (bare item _ rest' rest (opened item (.inl List.mem_cons_self)))
      | cons item' items' =>
          have whole : ((item :: items).flatMap fun item => ',' :: text item) ++ close :: rest =
              ((item' :: items').flatMap fun item => ',' :: text item) ++ close :: rest' := by
            rw [intercalate_cons, intercalate_cons] at same
            simpa using same
          exact tails_inj separates closes told whole

end Separated

/-! ## Literals -/

/-- Read the escape behind a backslash. -/
def readEscape : List Char → Option (Char × List Char)
  | [] => none
  | c :: rest =>
      if c = 'n' then some ('\n', rest)
      else if c = 'r' then some ('\r', rest)
      else if c = 't' then some ('\t', rest)
      else if c = 'b' then some (Char.ofNat 8, rest)
      else if c = 'f' then some (Char.ofNat 12, rest)
      else if c = 'u' then
        (readDigits 0 false (rest.take 4)).map fun code => (Char.ofNat code, rest.drop 4)
      else some (c, rest)

/-- Read one character of a string literal. -/
def readJsonChar : List Char → Option (Char × List Char)
  | [] => none
  | c :: rest => if c = backslash then readEscape rest else some (c, rest)

theorem readDigits_controlDigits :
    ∀ code < 32, readDigits 0 false (hexText 4 code) = some code := by
  decide

/-- An escaped character is read back. -/
theorem readJsonChar_escapeJson (c : Char) (rest : List Char) :
    readJsonChar (escapeJson c ++ rest) = some (c, rest) := by
  unfold escapeJson
  split
  · rename_i special
    rw [Bool.or_eq_true, decide_eq_true_eq, decide_eq_true_eq] at special
    rcases special with rfl | rfl <;> rfl
  split
  · rename_i special
    subst special
    rfl
  split
  · rename_i special
    subst special
    rfl
  split
  · rename_i special
    subst special
    rfl
  split
  · rename_i special
    subst special
    rfl
  split
  · rename_i special
    subst special
    rfl
  split
  · rename_i low
    have code := readDigits_controlDigits c.toNat low
    have taken : (controlDigits c ++ rest).take 4 = hexText 4 c.toNat := by
      rw [controlDigits, List.take_append_of_le_length (by simp), List.take_of_length_le (by simp)]
    have dropped : (controlDigits c ++ rest).drop 4 = rest := by
      rw [controlDigits, List.drop_append_of_le_length (by simp), List.drop_of_length_le (by simp)]
      rfl
    have opened : readEscape ('u' :: (controlDigits c ++ rest)) =
        (readDigits 0 false ((controlDigits c ++ rest).take 4)).map
          fun code => (Char.ofNat code, (controlDigits c ++ rest).drop 4) := rfl
    have escaped : readJsonChar (backslash :: 'u' :: controlDigits c ++ rest) =
        readEscape ('u' :: (controlDigits c ++ rest)) := rfl
    rw [escaped, opened, taken, dropped, code, Option.map_some, Char.ofNat_toNat]
  · rename_i special _ _ _ _ _ _
    rw [Bool.or_eq_true, decide_eq_true_eq, decide_eq_true_eq, not_or] at special
    exact if_neg special.2

/-- An escaped character does not open with a quote. -/
theorem escapeJson_opens (c : Char) : ∃ first more, escapeJson c = first :: more ∧
    first ≠ doubleQuote := by
  unfold escapeJson
  split
  · exact ⟨_, _, rfl, by decide⟩
  rename_i special
  rw [Bool.or_eq_true, decide_eq_true_eq, decide_eq_true_eq, not_or] at special
  repeat' split
  all_goals first
    | exact ⟨_, _, rfl, special.1⟩
    | exact ⟨_, _, rfl, by decide⟩

/-- The body of a literal is determined by its text up to the quote. -/
theorem body_inj {body body' : List Char} {rest rest' : List Char}
    (same : body.flatMap escapeJson ++ doubleQuote :: rest =
      body'.flatMap escapeJson ++ doubleQuote :: rest') :
    body = body' ∧ rest = rest' := by
  have bare : ∀ (c : Char) (others rest : List Char),
      doubleQuote :: rest ≠ escapeJson c ++ others := by
    intro c others rest same
    obtain ⟨first, more, opens, other⟩ := escapeJson_opens c
    rw [opens] at same
    exact other (List.cons.inj same).1.symm
  induction body generalizing body' with
  | nil =>
      cases body' with
      | nil => exact ⟨rfl, (List.cons.inj same).2⟩
      | cons c' body' =>
          rw [List.flatMap_cons, List.append_assoc] at same
          exact absurd same (bare c' _ rest)
  | cons c body ih =>
      cases body' with
      | nil =>
          rw [List.flatMap_cons, List.append_assoc] at same
          exact absurd same.symm (bare c _ rest')
      | cons c' body' =>
          rw [List.flatMap_cons, List.flatMap_cons, List.append_assoc, List.append_assoc] at same
          have read := congrArg readJsonChar same
          rw [readJsonChar_escapeJson, readJsonChar_escapeJson, Option.some_inj,
            Prod.mk.injEq] at read
          obtain ⟨rfl, others⟩ := read
          obtain ⟨rfl, after⟩ := ih others
          exact ⟨rfl, after⟩

/-- **A string literal is determined by its text.** -/
theorem quotedJson_inj {value value' : String} {rest rest' : List Char}
    (same : (quotedJson value).toList ++ rest = (quotedJson value').toList ++ rest') :
    value = value' ∧ rest = rest' := by
  simp only [quotedJson, String.toList_ofList, List.cons_append, List.append_assoc,
    List.cons.injEq, true_and, List.nil_append] at same
  obtain ⟨texts, after⟩ := body_inj same
  exact ⟨String.toList_inj.mp texts, after⟩

/-! ## Numbers -/

/-- Digits in front of a text that does not go on with one are determined. -/
theorem digits_inj {n n' : Nat} {rest rest' : List Char} (ends : Ends rest) (ends' : Ends rest')
    (same : Nat.toDigits 10 n ++ rest = Nat.toDigits 10 n' ++ rest') : n = n' ∧ rest = rest' := by
  have split : ∀ (n : Nat) (rest : List Char), Ends rest →
      (Nat.toDigits 10 n ++ rest).takeWhile Char.isDigit = Nat.toDigits 10 n := by
    intro n rest ends
    rw [List.takeWhile_append_of_pos fun c member =>
      Nat.isDigit_of_mem_toDigits (by decide) (by decide) member]
    cases rest with
    | nil => simp
    | cons c rest => rw [List.takeWhile_cons_of_neg (by rw [ends c rfl]; decide), List.append_nil]
  have digits := congrArg (List.takeWhile Char.isDigit) same
  rw [split n rest ends, split n' rest' ends'] at digits
  have values := congrArg (Nat.ofDigitChars 10 · 0) digits
  simp only [Nat.ofDigitChars_ten_toDigits] at values
  rw [values] at same
  exact ⟨values, List.append_cancel_left same⟩

theorem toList_toString_int (value : Int) : (toString value).toList =
    if 0 ≤ value then Nat.toDigits 10 value.toNat else '-' :: Nat.toDigits 10 value.natAbs := by
  cases value with
  | ofNat n =>
      rw [if_pos (show (0 : Int) ≤ Int.ofNat n from Int.natCast_nonneg n)]
      exact Nat.toList_repr
  | negSucc n =>
      rw [if_neg (Int.not_le.mpr (Int.negSucc_lt_zero n))]
      change ("-" ++ Nat.repr (n + 1)).toList = _
      rw [String.toList_append, Nat.toList_repr]
      rfl

/-- **An integer is determined by its text.** -/
theorem intText_inj {value value' : Int} {rest rest' : List Char} (ends : Ends rest)
    (ends' : Ends rest')
    (same : (toString value).toList ++ rest = (toString value').toList ++ rest') :
    value = value' ∧ rest = rest' := by
  have signed : ∀ (n : Nat) (rest rest' : List Char),
      Nat.toDigits 10 n ++ rest ≠ '-' :: rest' := by
    intro n rest rest' same
    cases digits : Nat.toDigits 10 n with
    | nil => exact Nat.toDigits_ne_nil digits
    | cons c others =>
        have digit : c.isDigit = true := Nat.isDigit_of_mem_toDigits (b := 10) (n := n) (by decide)
          (by decide) (by rw [digits]; exact List.mem_cons_self)
        rw [digits] at same
        rw [(List.cons.inj same).1] at digit
        exact absurd digit (by decide)
  rw [toList_toString_int, toList_toString_int] at same
  split at same
  · rename_i positive
    split at same
    · rename_i positive'
      obtain ⟨values, after⟩ := digits_inj ends ends' same
      exact ⟨by omega, after⟩
    · exact absurd same (signed _ _ _)
  · rename_i negative
    split at same
    · exact absurd same.symm (signed _ _ _)
    · rename_i negative'
      obtain ⟨values, after⟩ := digits_inj ends ends' (List.cons.inj same).2
      exact ⟨by omega, after⟩

/-! ## Documents -/

/-- The kinds of document. -/
inductive Kind where
  | null | bool | number | text | array | object
  deriving DecidableEq

/-- The kind of a document. -/
def kind : Json → Kind
  | .null => .null
  | .bool _ => .bool
  | .int _ | .float _ _ => .number
  | .str _ => .text
  | .arr _ => .array
  | .obj _ => .object

/-- The kind of document that a character opens. -/
def opens (c : Char) : Option Kind :=
  if c = 'n' then some .null
  else if c = 't' ∨ c = 'f' then some .bool
  else if c = doubleQuote then some .text
  else if c = '[' then some .array
  else if c = '\x7b' then some .object
  else if c = '-' ∨ c.isDigit = true then some .number
  else none

theorem opens_digit {c : Char} (digit : c.isDigit = true) : opens c = some .number := by
  have other : ∀ d : Char, d.isDigit = false → c ≠ d := by
    rintro d letter rfl
    rw [digit] at letter
    cases letter
  simp [opens, digit, other 'n' (by decide), other 't' (by decide), other 'f' (by decide),
    other doubleQuote (by decide), other '[' (by decide), other '\x7b' (by decide)]

/-- **The first character of a text tells the kind of the document.** -/
theorem opens_chars {value : Json} (plain : value.integral = true) :
    ∃ c rest, value.chars = c :: rest ∧ opens c = some value.kind := by
  cases value with
  | null => exact ⟨_, _, rfl, by decide⟩
  | bool value => cases value <;> exact ⟨_, _, rfl, by decide⟩
  | int value =>
      rw [chars, toList_toString_int]
      split
      · cases digits : Nat.toDigits 10 value.toNat with
        | nil => exact absurd digits Nat.toDigits_ne_nil
        | cons c others =>
            refine ⟨c, others, rfl, opens_digit ?_⟩
            exact Nat.isDigit_of_mem_toDigits (b := 10) (n := value.toNat) (by decide) (by decide)
              (by rw [digits]; exact List.mem_cons_self)
      · exact ⟨_, _, rfl, (by decide : opens '-' = some .number)⟩
  | float significand exponent => exact absurd plain (by simp [integral])
  | str value =>
      refine ⟨doubleQuote, value.toList.flatMap escapeJson ++ [doubleQuote], ?_,
        (by decide : opens doubleQuote = some .text)⟩
      rw [chars, quotedJson, String.toList_ofList]
  | arr items => exact ⟨_, _, rfl, (by decide : opens '[' = some .array)⟩
  | obj fields => exact ⟨_, _, rfl, (by decide : opens '\x7b' = some .object)⟩

/-- Documents whose texts begin alike are of one kind. -/
theorem kind_eq_of_chars {value value' : Json} (plain : value.integral = true)
    (plain' : value'.integral = true) {rest rest' : List Char}
    (same : value.chars ++ rest = value'.chars ++ rest') : value.kind = value'.kind := by
  obtain ⟨c, more, text, opened⟩ := opens_chars plain
  obtain ⟨c', more', text', opened'⟩ := opens_chars plain'
  rw [text, text', List.cons_append, List.cons_append, List.cons.injEq] at same
  rw [same.1, opened'] at opened
  exact (Option.some.inj opened).symm

/-- **The text of an ordered document can be told apart.** -/
theorem chars_toldApart (value value' : Json) (plain : value.integral = true)
    (plain' : value'.integral = true) : ToldApart chars value value' := by
  induction value using Json.induction generalizing value' with
  | null =>
      intro rest rest' ends ends' same
      have kinds := kind_eq_of_chars plain plain' same
      cases value' with
      | null => exact ⟨rfl, List.append_cancel_left same⟩
      | _ => cases kinds
  | bool value =>
      intro rest rest' ends ends' same
      have kinds := kind_eq_of_chars plain plain' same
      cases value' with
      | bool value' =>
          cases value <;> cases value'
          · exact ⟨rfl, List.append_cancel_left same⟩
          · exact absurd (List.cons.inj same).1 (by decide)
          · exact absurd (List.cons.inj same).1 (by decide)
          · exact ⟨rfl, List.append_cancel_left same⟩
      | _ => cases kinds
  | int value =>
      intro rest rest' ends ends' same
      have kinds := kind_eq_of_chars plain plain' same
      cases value' with
      | int value' =>
          obtain ⟨rfl, after⟩ := intText_inj ends ends' same
          exact ⟨rfl, after⟩
      | float significand exponent => exact absurd plain' (by simp [integral])
      | _ => cases kinds
  | float significand exponent => exact absurd plain (by simp [integral])
  | str value =>
      intro rest rest' ends ends' same
      have kinds := kind_eq_of_chars plain plain' same
      cases value' with
      | str value' =>
          obtain ⟨rfl, after⟩ := quotedJson_inj same
          exact ⟨rfl, after⟩
      | _ => cases kinds
  | arr items ih =>
      intro rest rest' ends ends' same
      have kinds := kind_eq_of_chars plain plain' same
      cases value' with
      | arr items' =>
          rw [integral, integralItems_iff] at plain plain'
          simp only [chars, charsItems_eq, List.cons_append, List.append_assoc, List.nil_append,
            List.cons.injEq, true_and] at same
          obtain ⟨rfl, after⟩ := separated_inj (by decide) (by decide)
            (fun a here b there => ih a here b (plain a here) (plain' b there))
            (fun a listed => by
              have plainItem : a.integral = true := listed.elim (plain a) (plain' a)
              obtain ⟨c, more, text, opened⟩ := opens_chars plainItem
              refine ⟨c, more, text, ?_⟩
              rintro rfl
              exact absurd opened.symm (by rw [show opens ']' = none by decide]; simp)) same
          exact ⟨rfl, after⟩
      | _ => cases kinds
  | obj fields ih =>
      intro rest rest' ends ends' same
      have kinds := kind_eq_of_chars plain plain' same
      cases value' with
      | obj fields' =>
          rw [integral, integralFields_iff] at plain plain'
          simp only [chars, charsFields_eq, List.cons_append, List.append_assoc, List.nil_append,
            List.cons.injEq, true_and] at same
          have told : ∀ a ∈ fields, ∀ b ∈ fields', ToldApart charsField a b := by
            intro a here b there rest rest' ends ends' same
            simp only [charsField, List.append_assoc, List.cons_append] at same
            obtain ⟨names, values⟩ := quotedJson_inj same
            obtain ⟨values, after⟩ := ih a here b.2 (plain a here) (plain' b there) ends ends'
              (List.cons.inj values).2
            exact ⟨Prod.ext names values, after⟩
          obtain ⟨rfl, after⟩ := separated_inj (by decide) (by decide) told
            (fun a _ => ⟨doubleQuote, a.1.toList.flatMap escapeJson ++ [doubleQuote] ++
              ':' :: a.2.chars, by simp [charsField, quotedJson], by decide⟩) same
          exact ⟨rfl, after⟩
      | _ => cases kinds

/-- **The canonical text determines the document**, up to the order of its fields, when its
numbers are integers. -/
theorem canonicalText_inj {value value' : Json} (plain : value.integral = true)
    (plain' : value'.integral = true) (same : value.canonicalText = value'.canonicalText) :
    value.sorted = value'.sorted := by
  have texts := congrArg String.toList same
  simp only [canonicalText, String.toList_append, toList_dumps] at texts
  have ends : Ends "\n".toList := ends_cons (by decide)
  exact (chars_toldApart _ _ (integral_sorted plain) (integral_sorted plain') ends ends texts).1

/-- So do the canonical bytes. -/
theorem canonicalBytes_inj {value value' : Json} (plain : value.integral = true)
    (plain' : value'.integral = true) (same : value.canonicalBytes = value'.canonicalBytes) :
    value.sorted = value'.sorted := by
  have decoded := congrArg String.fromUTF8? same
  rw [canonicalBytes, canonicalBytes, fromUTF8?_toUTF8, fromUTF8?_toUTF8, Option.some_inj]
    at decoded
  exact canonicalText_inj plain plain' decoded

/-! ## Records -/

/-- Two orders of the same items with the same distinct tags are one order. -/
theorem eq_of_perm_of_tags {α β : Type} (tag : α → β) {items items' : List α}
    (perm : items.Perm items') (tags : items.map tag = items'.map tag)
    (distinct : (items.map tag).Nodup) : items = items' := by
  induction items generalizing items' with
  | nil => exact (List.nil_perm.mp perm).symm
  | cons item items ih =>
      cases items' with
      | nil => cases tags
      | cons item' items' =>
          obtain ⟨first, others⟩ := List.cons.inj tags
          obtain ⟨fresh, rest⟩ := List.nodup_cons.mp distinct
          have same : item = item' := by
            rcases List.mem_cons.mp (perm.mem_iff.mp List.mem_cons_self) with same | later
            · exact same
            · refine absurd ?_ fresh
              rw [others]
              exact List.mem_map_of_mem later
          subst same
          rw [ih (List.perm_cons item |>.mp perm) others rest]

/-- **Records with the same names are equal when their ordered forms are.** -/
theorem fields_inj (names : List String) (distinct : names.Nodup) {fields fields' : Object}
    (named : fields.map Prod.fst = names) (named' : fields'.map Prod.fst = names)
    (same : sorted (.obj fields) = sorted (.obj fields')) :
    fields.map (fun field => field.2.sorted) = fields'.map fun field => field.2.sorted := by
  have sortedNames : ∀ fields : Object,
      (sortedFields fields).map Prod.fst = fields.map Prod.fst := by
    intro fields
    rw [sortedFields_eq, List.map_map]
    rfl
  have values : ∀ fields : Object,
      (sortedFields fields).map Prod.snd = fields.map fun field => field.2.sorted := by
    intro fields
    rw [sortedFields_eq, List.map_map]
    rfl
  rw [sorted, sorted, Json.obj.injEq] at same
  have perm : (sortedFields fields).Perm (sortedFields fields') := by
    refine (List.perm_insertionSort (fun a b => a.1 ≤ b.1) _).symm.trans ?_
    rw [same]
    exact List.perm_insertionSort _ _
  have equal : sortedFields fields = sortedFields fields' := by
    refine eq_of_perm_of_tags Prod.fst perm ?_ ?_
    · rw [sortedNames, sortedNames, named, named']
    · rwa [sortedNames, named]
  rw [← values, ← values, equal]

end Json

end Foundation
