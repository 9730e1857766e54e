import HcuAutoOpt.Foundation.Binary64
import HcuAutoOpt.Foundation.Json
import Mathlib.Data.List.Sort

/-!
# Stored JSON documents

Values are compared as `==` compares them (`Json.alike`): numbers by their value, whatever they
are written as, and objects whatever the order of their fields. The comparison is the equality
of a normal form, so it is an equivalence.

A database keeps a number of a document as the decimal it is printed as. A double that is printed
with a positive exponent therefore comes back as an integer (`Json.jsonb`), and one that is no
multiple of its power of ten comes back as another number.
-/

set_option autoImplicit false

namespace Foundation

namespace Json

/-! ## Equality of values -/

/-- The double that a literal with a fraction or an exponent stands for. -/
def double (significand exponent : Int) : Rat :=
  Binary64.round (significand * 10 ^ exponent)

/-- A number by its numerator and its denominator. -/
def fraction (value : Rat) : Json := .float value.num value.den

mutual

/-- Numbers as fractions, truth values among them, and the fields of objects in the order of
their names. -/
def normal : Json → Json
  | .null => .null
  | .bool value => fraction (if value then 1 else 0)
  | .int value => fraction value
  | .float significand exponent => fraction (double significand exponent)
  | .str value => .str value
  | .arr items => .arr (normalItems items)
  | .obj fields => .obj ((normalFields fields).insertionSort fun a b => a.1 ≤ b.1)

/-- The normal forms of the items of an array. -/
def normalItems : List Json → List Json
  | [] => []
  | item :: items => normal item :: normalItems items

/-- The normal forms of the values of an object, with their names. -/
def normalFields : List (String × Json) → List (String × Json)
  | [] => []
  | (name, value) :: fields => (name, normal value) :: normalFields fields

end

/-- `==`: numbers by their value, objects whatever the order of their fields. -/
def alike (a b : Json) : Bool := decide (normal a = normal b)

theorem alike_iff {a b : Json} : alike a b = true ↔ normal a = normal b := decide_eq_true_iff

@[simp] theorem alike_refl (a : Json) : alike a a = true := alike_iff.mpr rfl

/-- What is alike to one of two values that are alike is alike to the other. -/
theorem alike_congr {a b : Json} (same : alike a b = true) (c : Json) :
    alike a c = alike b c := by
  rw [alike, alike, alike_iff.mp same]

example : alike (.obj [("a", .bool true), ("b", .float 5 (-1))])
    (.obj [("b", .float 50 (-2)), ("a", .int 1)]) = true := by decide +kernel

/-! ## Storage -/

/-- The number that is read back. -/
def storedNumber (significand exponent : Int) : Json :=
  let value := double significand exponent
  if |value| < 10 ^ 16 then .float significand exponent else .int (Binary64.shortest value).num

mutual

/-- What a `jsonb` column gives back of a document. -/
def jsonb : Json → Json
  | .float significand exponent => storedNumber significand exponent
  | .arr items => .arr (jsonbItems items)
  | .obj fields => .obj (jsonbFields fields)
  | value => value

/-- The items of an array as they are read back. -/
def jsonbItems : List Json → List Json
  | [] => []
  | item :: items => jsonb item :: jsonbItems items

/-- The values of an object as they are read back, with their names. -/
def jsonbFields : List (String × Json) → List (String × Json)
  | [] => []
  | (name, value) :: fields => (name, jsonb value) :: jsonbFields fields

end

/-- What is read back of a document equals the document. -/
def readsBack (value : Json) : Bool := alike (jsonb value) value

example : readsBack (.obj [("x", .float 1 22)]) = true ∧
    readsBack (.obj [("x", .float 1 23)]) = false := by decide +kernel

end Json

end Foundation
