import Mathlib.Tactic.Ring

/-!
# JSON documents

JSON values as a language runtime holds them: integers and other numbers are
different constructors, and an object is its list of fields. Equality of
documents is decidable (`Json.decEq`), a field is read by name
(`Json.Object.get?`), as `dict.get` does, and a value has a truth value (`Json.truthy`)
and a printed text (`Json.text`), as `bool` and `str` give them.
-/

set_option autoImplicit false

namespace Foundation

/-- A JSON value. A number with a fraction or an exponent is its decimal
significand and exponent. -/
inductive Json where
  | null
  | bool (value : Bool)
  | int (value : Int)
  | float (significand : Int) (exponent : Int)
  | str (value : String)
  | arr (items : List Json)
  | obj (fields : List (String × Json))
  deriving Inhabited

namespace Json

/-! ## Decidable equality -/

mutual

/-- Structural comparison of two documents. -/
def beq : Json → Json → Bool
  | .null, .null => true
  | .bool a, .bool b => a == b
  | .int a, .int b => a == b
  | .float a e, .float b f => a == b && e == f
  | .str a, .str b => a == b
  | .arr a, .arr b => beqItems a b
  | .obj a, .obj b => beqFields a b
  | _, _ => false

/-- Comparison of array items. -/
def beqItems : List Json → List Json → Bool
  | [], [] => true
  | a :: as, b :: bs => beq a b && beqItems as bs
  | _, _ => false

/-- Comparison of object fields. -/
def beqFields : List (String × Json) → List (String × Json) → Bool
  | [], [] => true
  | (k, a) :: as, (l, b) :: bs => k == l && beq a b && beqFields as bs
  | _, _ => false

end

mutual

theorem beq_iff_eq : ∀ a b : Json, beq a b = true ↔ a = b
  | .null, b => by cases b <;> simp [beq]
  | .bool _, b => by cases b <;> simp [beq]
  | .int _, b => by cases b <;> simp [beq]
  | .float _ _, b => by cases b <;> simp [beq]
  | .str _, b => by cases b <;> simp [beq]
  | .arr a, b => by
      cases b with
      | arr b => simp [beq, beqItems_iff_eq a b]
      | _ => simp [beq]
  | .obj a, b => by
      cases b with
      | obj b => simp [beq, beqFields_iff_eq a b]
      | _ => simp [beq]

theorem beqItems_iff_eq : ∀ a b : List Json, beqItems a b = true ↔ a = b
  | [], b => by cases b <;> simp [beqItems]
  | a :: as, b => by
      cases b with
      | nil => simp [beqItems]
      | cons b bs => simp [beqItems, beq_iff_eq a b, beqItems_iff_eq as bs]

theorem beqFields_iff_eq : ∀ a b : List (String × Json), beqFields a b = true ↔ a = b
  | [], b => by cases b <;> simp [beqFields]
  | (k, a) :: as, b => by
      cases b with
      | nil => simp [beqFields]
      | cons field bs =>
          obtain ⟨l, b⟩ := field
          simp [beqFields, beq_iff_eq a b, beqFields_iff_eq as bs]

end

instance decEq : DecidableEq Json := fun a b => decidable_of_iff _ (beq_iff_eq a b)

/-! ## Objects -/

/-- The fields of an object. -/
abbrev Object := List (String × Json)

/-- The value of the first field of a name: `dict.get` without a default. -/
def Object.get? (fields : Object) (name : String) : Option Json :=
  (fields.find? fun field => decide (field.1 = name)).map Prod.snd

/-- `dict.get` of a name, an explicit `null` and an absent field alike. -/
def Object.value? (fields : Object) (name : String) : Option Json :=
  match fields.get? name with
  | some .null => none
  | found => found

/-- `{**fields, name: value}`. -/
def Object.set : Object → String → Json → Object
  | [], name, value => [(name, value)]
  | (label, held) :: fields, name, value =>
      if label = name then (name, value) :: fields
      else (label, held) :: Object.set fields name value

@[simp] theorem Object.get?_nil (name : String) : Object.get? [] name = none := rfl

theorem Object.get?_cons (fields : Object) (name other : String) (value : Json) :
    Object.get? ((other, value) :: fields) name =
      if other = name then some value else fields.get? name := by
  by_cases same : other = name <;> simp [Object.get?, same]

/-- `{**fields, **others}`. -/
def Object.merge (fields others : Object) : Object :=
  others.foldl (fun merged field => merged.set field.1 field.2) fields

/-! ## Numbers, truth and text -/

/-- The significand and the exponent of a value that counts as a number. -/
def numeral : Json → Option (Int × Int)
  | .bool value => some (if value then 1 else 0, 0)
  | .int value => some (value, 0)
  | .float significand exponent => some (significand, exponent)
  | _ => none

/-- `bool(value)`. -/
def truthy : Json → Bool
  | .null => false
  | .bool value => value
  | .int value => value != 0
  | .float significand _ => significand != 0
  | .str value => value != ""
  | .arr items => !items.isEmpty
  | .obj fields => !fields.isEmpty

/-- The characters that quoting treats apart. -/
def backslash : Char := Char.ofNat 92

@[inherit_doc backslash] def singleQuote : Char := Char.ofNat 39

@[inherit_doc backslash] def doubleQuote : Char := Char.ofNat 34

/-- A character inside a quoted text. -/
def escape (quote c : Char) : List Char :=
  if c = quote || c = backslash then [backslash, c]
  else if c = '\n' then [backslash, 'n']
  else if c = '\r' then [backslash, 'r']
  else if c = '\t' then [backslash, 't']
  else [c]

/-- `repr` of a string: single quotes unless only they occur in it. -/
def quoted (value : String) : String :=
  let chars := value.toList
  let quote := if singleQuote ∈ chars ∧ doubleQuote ∉ chars then doubleQuote else singleQuote
  String.ofList (quote :: (chars.flatMap (escape quote) ++ [quote]))

/-- `repr` of a number `significand * 10 ^ exponent` that is not an integer literal:
positional between `1e-4` and `1e16`, scientific outside. -/
def numberText (significand exponent : Int) : String :=
  let digits := (toString significand.natAbs).toList
  let sign := if significand < 0 then "-" else ""
  let point := digits.length + exponent
  if significand = 0 then "0.0"
  else if -4 < point ∧ point ≤ 16 then
    if point ≤ 0 then
      sign ++ "0." ++ String.ofList (List.replicate (-point).toNat '0' ++ digits)
    else if exponent < 0 then
      sign ++ String.ofList (digits.take point.toNat) ++ "." ++
        String.ofList (digits.drop point.toNat)
    else sign ++ String.ofList (digits ++ List.replicate exponent.toNat '0') ++ ".0"
  else
    let mantissa := match digits with
      | lead :: [] => String.ofList [lead]
      | lead :: rest => String.ofList (lead :: '.' :: rest)
      | [] => ""
    let magnitude := toString (point - 1).natAbs
    sign ++ mantissa ++ (if point - 1 < 0 then "e-" else "e+") ++
      (if magnitude.length < 2 then "0" ++ magnitude else magnitude)

mutual

/-- `repr(value)`. -/
def repr : Json → String
  | .null => "None"
  | .bool true => "True"
  | .bool false => "False"
  | .int value => toString value
  | .float significand exponent => numberText significand exponent
  | .str value => quoted value
  | .arr items => "[" ++ reprItems items ++ "]"
  | .obj fields => "\x7b" ++ reprFields fields ++ "\x7d"

/-- The items of a printed array. -/
def reprItems : List Json → String
  | [] => ""
  | [item] => repr item
  | item :: next :: rest => repr item ++ ", " ++ reprItems (next :: rest)

/-- The fields of a printed object. -/
def reprFields : List (String × Json) → String
  | [] => ""
  | [(name, value)] => quoted name ++ ": " ++ repr value
  | (name, value) :: next :: rest =>
      quoted name ++ ": " ++ repr value ++ ", " ++ reprFields (next :: rest)

end

/-- `str(value)`: a string is its own text. -/
def text : Json → String
  | .str value => value
  | value => value.repr

example : text (.arr [.float 5 (-1), .obj [("k", .str "v")], .float 1 20]) =
    "[0.5, \x7b'k': 'v'\x7d, 1e+20]" := by decide

end Json

end Foundation
