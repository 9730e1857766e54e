import HcuAutoOpt.Foundation.Json
import HcuAutoOpt.Foundation.UuidText
import Mathlib.Data.List.Sort

/-!
# Canonical JSON text and bytes

The compact text of a document with the fields of every object in the order of their
names, ended by a newline, and its UTF-8 bytes. Text outside ASCII is kept as it is; a
number is printed as `repr` prints it.

Bytes are printed in hexadecimal (`hexOfBytes`) and read back (`bytesOfHex`).
-/

set_option autoImplicit false

namespace Foundation

namespace Json

/-! ## Text -/

/-- The four hexadecimal digits of a control character. -/
def controlDigits (c : Char) : List Char :=
  hexText 4 c.toNat

/-- A character inside a JSON string. -/
def escapeJson (c : Char) : List Char :=
  if c = doubleQuote || c = backslash then [backslash, c]
  else if c = '\n' then [backslash, 'n']
  else if c = '\r' then [backslash, 'r']
  else if c = '\t' then [backslash, 't']
  else if c = Char.ofNat 8 then [backslash, 'b']
  else if c = Char.ofNat 12 then [backslash, 'f']
  else if c.toNat < 32 then backslash :: 'u' :: controlDigits c
  else [c]

/-- A JSON string literal. -/
def quotedJson (value : String) : String :=
  String.ofList (doubleQuote :: (value.toList.flatMap escapeJson ++ [doubleQuote]))

mutual

/-- `json.dumps(value, separators=(",", ":"), sort_keys=True, ensure_ascii=False)`. -/
def dumps : Json → String
  | .null => "null"
  | .bool true => "true"
  | .bool false => "false"
  | .int value => toString value
  | .float significand exponent => numberText significand exponent
  | .str value => quotedJson value
  | .arr items => "[" ++ String.intercalate "," (dumpsItems items) ++ "]"
  | .obj fields =>
      "\x7b" ++ String.intercalate ","
        (((dumpsFields fields).insertionSort fun a b => a.1 ≤ b.1).map fun field =>
          quotedJson field.1 ++ ":" ++ field.2) ++ "\x7d"

/-- The texts of the items of an array. -/
def dumpsItems : List Json → List String
  | [] => []
  | item :: items => dumps item :: dumpsItems items

/-- The texts of the values of an object, with their names. -/
def dumpsFields : List (String × Json) → List (String × String)
  | [] => []
  | (name, value) :: fields => (name, dumps value) :: dumpsFields fields

end

/-- The text that `canonical_json_bytes` encodes. -/
def canonicalText (value : Json) : String := value.dumps ++ "\n"

/-- `canonical_json_bytes`. -/
def canonicalBytes (value : Json) : ByteArray := value.canonicalText.toUTF8

/-- The text of an object has its braces and the newline. -/
theorem length_canonicalText_obj (fields : Object) :
    3 ≤ (canonicalText (.obj fields)).length := by
  simp only [canonicalText, dumps, String.length_append]
  have braces : "\x7b".length = 1 ∧ "\x7d".length = 1 ∧ "\n".length = 1 := by decide
  omega

example : canonicalText (.obj [("b", .arr [.int 1, .null]), ("a", .str "x\n")]) =
    "\x7b\"a\":\"x\\n\",\"b\":[1,null]\x7d\n" := by decide +kernel

end Json

/-! ## Bytes -/

/-- Encoding a text and decoding the bytes gives the text. -/
theorem fromUTF8?_toUTF8 (text : String) : String.fromUTF8? text.toUTF8 = some text :=
  dif_pos text.isValidUTF8

/-- `bytes.hex()`: two lower-case digits a byte. -/
def hexOfBytes (bytes : ByteArray) : String :=
  String.ofList (bytes.data.toList.flatMap fun byte => hexText 2 byte.toNat)

/-- The bytes of pairs of hexadecimal digits. -/
def pairBytes : List Char → List UInt8
  | high :: low :: digits =>
      UInt8.ofNat ((hexValue high).getD 0 * 16 + (hexValue low).getD 0) :: pairBytes digits
  | _ => []

/-- `bytes.fromhex`, of a text of pairs of hexadecimal digits. -/
def bytesOfHex (text : String) : ByteArray := ⟨(pairBytes text.toList).toArray⟩

/-- The pattern `^[0-9a-f]*$`. -/
def IsHex (text : String) : Prop := ∀ c ∈ text.toList, ∃ value < 16, hexDigit value = c

instance IsHex.decidable (text : String) : Decidable (IsHex text) :=
  @List.decidableBAll Char _ (fun _ => Nat.decidableExistsLT 16) text.toList

theorem hexText_two (byte : UInt8) :
    hexText 2 byte.toNat = [hexDigit (byte.toNat / 16 % 16), hexDigit (byte.toNat % 16)] := rfl

theorem pairBytes_hexText (bytes : List UInt8) :
    pairBytes (bytes.flatMap fun byte => hexText 2 byte.toNat) = bytes := by
  induction bytes with
  | nil => rfl
  | cons byte bytes ih =>
      have high := hexValue_hexDigit (byte.toNat / 16 % 16) (by omega)
      have low := hexValue_hexDigit (byte.toNat % 16) (by omega)
      have value : byte.toNat / 16 % 16 * 16 + byte.toNat % 16 = byte.toNat := by
        have small : byte.toNat < 256 := byte.toNat_lt
        omega
      rw [List.flatMap_cons, hexText_two]
      simp only [List.cons_append, List.nil_append, pairBytes, high, low, Option.getD_some, value,
        UInt8.ofNat_toNat, ih]

/-- Printing bytes and reading the text gives the bytes. -/
theorem bytesOfHex_hexOfBytes (bytes : ByteArray) : bytesOfHex (hexOfBytes bytes) = bytes := by
  simp [bytesOfHex, hexOfBytes, pairBytes_hexText]

theorem isHex_hexOfBytes (bytes : ByteArray) : IsHex (hexOfBytes bytes) := by
  intro c member
  rw [hexOfBytes, String.toList_ofList] at member
  obtain ⟨byte, -, digit⟩ := List.mem_flatMap.mp member
  exact mem_hexText digit

theorem length_flatMap_hexText (bytes : List UInt8) :
    (bytes.flatMap fun byte => hexText 2 byte.toNat).length = 2 * bytes.length := by
  induction bytes with
  | nil => rfl
  | cons byte bytes ih =>
      rw [List.flatMap_cons, List.length_append, length_hexText, ih, List.length_cons]
      omega

theorem length_hexOfBytes (bytes : ByteArray) : (hexOfBytes bytes).length = 2 * bytes.size := by
  rw [hexOfBytes, String.length_ofList, length_flatMap_hexText]
  rfl

end Foundation
