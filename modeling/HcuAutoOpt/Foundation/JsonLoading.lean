import HcuAutoOpt.Foundation.CanonicalReading

/-!
# Loading JSON texts

`json.loads` reads a text in three steps here: into tokens (`lex`), from tokens to a tree whose
objects are lists of pairs (`parse`), and to a value whose objects are dictionaries
(`Loaded.dicts`), in which the last pair of a name counts. The reading of strings and of brackets
is written out; the syntax of numbers is a parameter (`NumberSyntax`).

What was read can be printed again (`Loaded.encode`) unless a number is infinite or a string has a
surrogate.
-/

set_option autoImplicit false

namespace Foundation

namespace Json

/-! ## Values -/

/-- A value that was read. A string is its list of code points, of which some may be surrogates;
a number that is too great is infinite. -/
inductive Loaded where
  | null
  | bool (value : Bool)
  | number (value : Option Json)
  | str (codes : List Nat)
  | arr (items : List Loaded)
  | obj (pairs : List (List Nat × Loaded))

/-- Induction over a value, whose items and pairs are values. -/
@[elab_as_elim]
theorem Loaded.induction {motive : Loaded → Prop} (null : motive .null)
    (bool : ∀ value, motive (.bool value)) (number : ∀ value, motive (.number value))
    (str : ∀ codes, motive (.str codes))
    (arr : ∀ items, (∀ item ∈ items, motive item) → motive (.arr items))
    (obj : ∀ pairs : List (List Nat × Loaded),
      (∀ pair ∈ pairs, motive pair.2) → motive (.obj pairs))
    (value : Loaded) : motive value := by
  refine @Loaded.rec motive (fun items => ∀ item ∈ items, motive item)
    (fun pairs => ∀ pair ∈ pairs, motive pair.2) (fun pair => motive pair.2)
    null bool number str arr obj ?_ ?_ ?_ ?_ ?_ value
  · exact fun item member => absurd member List.not_mem_nil
  · intro item items first rest other member
    rcases List.mem_cons.mp member with rfl | later
    · exact first
    · exact rest other later
  · exact fun pair member => absurd member List.not_mem_nil
  · intro pair pairs first rest other member
    rcases List.mem_cons.mp member with rfl | later
    · exact first
    · exact rest other later
  · exact fun name value holds => holds

/-- The code points of a text. -/
def codesOf (text : String) : List Nat := text.toList.map Char.toNat

mutual

/-- The value that a document is read as. -/
def treeOf : Json → Loaded
  | .null => .null
  | .bool value => .bool value
  | .int value => .number (some (.int value))
  | .float significand exponent => .number (some (.float significand exponent))
  | .str value => .str (codesOf value)
  | .arr items => .arr (treeItems items)
  | .obj fields => .obj (treeFields fields)

@[inherit_doc treeOf] def treeItems : List Json → List Loaded
  | [] => []
  | item :: items => treeOf item :: treeItems items

@[inherit_doc treeOf] def treeFields : List (String × Json) → List (List Nat × Loaded)
  | [] => []
  | (name, value) :: fields => (codesOf name, treeOf value) :: treeFields fields

end

theorem treeItems_eq (items : List Json) : treeItems items = items.map treeOf := by
  induction items with
  | nil => rfl
  | cons item items ih => rw [treeItems, ih, List.map_cons]

theorem treeFields_eq (fields : Object) :
    treeFields fields = fields.map fun field => (codesOf field.1, treeOf field.2) := by
  induction fields with
  | nil => rfl
  | cons field fields ih => rw [treeFields, ih, List.map_cons]

/-! ## Dictionaries -/

/-- `pairs[key] = value`: the pair keeps its place. -/
def dictSet (pairs : List (List Nat × Loaded)) (pair : List Nat × Loaded) :
    List (List Nat × Loaded) :=
  if pair.1 ∈ pairs.map Prod.fst then
    pairs.map fun held => if held.1 = pair.1 then pair else held
  else pairs ++ [pair]

/-- `dict(pairs)`. -/
def dictOf (pairs : List (List Nat × Loaded)) : List (List Nat × Loaded) :=
  pairs.foldl dictSet []

mutual

/-- The value in which every list of pairs is a dictionary. -/
def Loaded.dicts : Loaded → Loaded
  | .arr items => .arr (dictsItems items)
  | .obj pairs => .obj (dictOf (dictsPairs pairs))
  | value => value

@[inherit_doc Loaded.dicts] def dictsItems : List Loaded → List Loaded
  | [] => []
  | item :: items => item.dicts :: dictsItems items

@[inherit_doc Loaded.dicts] def dictsPairs :
    List (List Nat × Loaded) → List (List Nat × Loaded)
  | [] => []
  | (key, value) :: pairs => (key, value.dicts) :: dictsPairs pairs

end

theorem dictsItems_eq (items : List Loaded) : dictsItems items = items.map Loaded.dicts := by
  induction items with
  | nil => rfl
  | cons item items ih => rw [dictsItems, ih, List.map_cons]

theorem dictsPairs_eq (pairs : List (List Nat × Loaded)) :
    dictsPairs pairs = pairs.map fun pair => (pair.1, pair.2.dicts) := by
  induction pairs with
  | nil => rfl
  | cons pair pairs ih => rw [dictsPairs, ih, List.map_cons]

/-- The names of a dictionary are distinct. -/
theorem nodup_dictOf (pairs : List (List Nat × Loaded)) : ((dictOf pairs).map Prod.fst).Nodup := by
  have keeps : ∀ (held : List (List Nat × Loaded)), (held.map Prod.fst).Nodup →
      ((pairs.foldl dictSet held).map Prod.fst).Nodup := by
    induction pairs with
    | nil => exact fun _ distinct => distinct
    | cons pair pairs ih =>
        intro held distinct
        refine ih _ ?_
        unfold dictSet
        split
        next there =>
          have names : (held.map fun old => if old.1 = pair.1 then pair else old).map Prod.fst =
              held.map Prod.fst := by
            rw [List.map_map]
            refine List.map_congr_left fun old _ => ?_
            by_cases same : old.1 = pair.1 <;> simp [same]
          rw [names]
          exact distinct
        next absent =>
          rw [List.map_append, List.nodup_append]
          refine ⟨distinct, List.nodup_singleton _, ?_⟩
          rintro name there _ last rfl
          exact absent (List.mem_singleton.mp last ▸ there)
  exact keeps [] List.nodup_nil

/-- Pairs with distinct names are a dictionary. -/
theorem dictOf_eq_self {pairs : List (List Nat × Loaded)}
    (distinct : (pairs.map Prod.fst).Nodup) : dictOf pairs = pairs := by
  have goes : ∀ (held : List (List Nat × Loaded)), ((held ++ pairs).map Prod.fst).Nodup →
      pairs.foldl dictSet held = held ++ pairs := by
    clear distinct
    induction pairs with
    | nil => exact fun held _ => (List.append_nil held).symm
    | cons pair pairs ih =>
        intro held distinct
        have absent : pair.1 ∉ held.map Prod.fst := by
          rw [List.map_append, List.nodup_append] at distinct
          exact fun there => distinct.2.2 _ there _ List.mem_cons_self rfl
        rw [List.foldl_cons, dictSet, if_neg absent, ih _ (by simpa using distinct)]
        simp
  exact goes [] distinct

/-! ## Strings -/

/-- Four hexadecimal digits. -/
def readCode : List Char → Option (Nat × List Char)
  | a :: b :: c :: d :: rest => do
      let a ← hexValue a
      let b ← hexValue b
      let c ← hexValue c
      let d ← hexValue d
      return (((a * 16 + b) * 16 + c) * 16 + d, rest)
  | _ => none

/-- Two surrogates that belong together. -/
def isPair (high low : Nat) : Bool :=
  0xd800 ≤ high && high < 0xdc00 && 0xdc00 ≤ low && low < 0xe000

/-- The code point of a `u` escape, which may take a second escape along. -/
def readUnicode (text : List Char) : Option (Nat × List Char) := do
  let (high, rest) ← readCode text
  match rest with
  | first :: second :: after =>
      if first = backslash ∧ second = 'u' then
        match readCode after with
        | some (low, behind) =>
            if isPair high low then
              return (0x10000 + (high - 0xd800) * 0x400 + (low - 0xdc00), behind)
            else return (high, rest)
        | none => return (high, rest)
      else return (high, rest)
  | _ => return (high, rest)

/-- The code point of the escape behind a backslash. -/
def readEscaped : List Char → Option (Nat × List Char)
  | [] => none
  | c :: rest =>
      if c = doubleQuote || c = backslash || c = '/' then some (c.toNat, rest)
      else if c = 'n' then some (10, rest)
      else if c = 'r' then some (13, rest)
      else if c = 't' then some (9, rest)
      else if c = 'b' then some (8, rest)
      else if c = 'f' then some (12, rest)
      else if c = 'u' then readUnicode rest
      else none

/-- One character of a string; a control character must be escaped. -/
def readStringChar : List Char → Option (Nat × List Char)
  | [] => none
  | c :: rest =>
      if c = backslash then readEscaped rest
      else if c.toNat < 32 then none
      else some (c.toNat, rest)

/-- The code points of a string up to its quote. -/
def readString (text : List Char) : Option (List Nat × List Char) :=
  match text with
  | [] => none
  | c :: rest =>
      if c = doubleQuote then some ([], rest)
      else match readStringChar (c :: rest) with
        | none => none
        | some (code, after) =>
            if after.length < (c :: rest).length then
              (readString after).map fun read => (code :: read.1, read.2)
            else none
termination_by text.length
decreasing_by assumption

/-! ## Tokens -/

/-- The pieces of a text. -/
inductive Token where
  | leftBracket | rightBracket | leftBrace | rightBrace | comma | colon
  | scalar (value : Loaded)

/-- The numbers of JSON texts. -/
structure NumberSyntax where
  /-- The number at the start of a text and the text behind it. There is no value for a number
  that is too great; a text whose number cannot be converted has none. -/
  scan : List Char → Option (Option Json × List Char)
  /-- The numbers that can be printed. -/
  Printable : Json → Prop

/-- The text behind a word. -/
def afterWord (word text : List Char) : Option (List Char) :=
  if word <+: text then some (text.drop word.length) else none

/-- The first piece of a text that does not start with white space. -/
def lexOne (numbers : NumberSyntax) : List Char → Option (Token × List Char)
  | [] => none
  | c :: rest =>
      if c = '[' then some (.leftBracket, rest)
      else if c = ']' then some (.rightBracket, rest)
      else if c = '\x7b' then some (.leftBrace, rest)
      else if c = '\x7d' then some (.rightBrace, rest)
      else if c = ',' then some (.comma, rest)
      else if c = ':' then some (.colon, rest)
      else if c = doubleQuote then
        (readString rest).map fun read => (.scalar (.str read.1), read.2)
      else if c = 'n' then
        (afterWord "null".toList (c :: rest)).map fun after => (.scalar .null, after)
      else if c = 't' then
        (afterWord "true".toList (c :: rest)).map fun after => (.scalar (.bool true), after)
      else if c = 'f' then
        (afterWord "false".toList (c :: rest)).map fun after => (.scalar (.bool false), after)
      else (numbers.scan (c :: rest)).map fun read => (.scalar (.number read.1), read.2)

/-- The white space between pieces. -/
def isSpace (c : Char) : Bool := c = ' ' || c = '\t' || c = '\n' || c = '\r'

/-- The pieces of a text. -/
def lex (numbers : NumberSyntax) (text : List Char) : Option (List Token) :=
  match text.dropWhile isSpace with
  | [] => some []
  | c :: rest =>
      match lexOne numbers (c :: rest) with
      | none => none
      | some (token, after) =>
          if after.length < text.length then (lex numbers after).map (token :: ·) else none
termination_by text.length

/-! ## Parsing -/

/-- An array or an object that is not closed. -/
inductive Frame where
  | array (items : List Loaded)
  | object (pairs : List (List Nat × Loaded)) (key : Option (List Nat))

/-- What has been read last, or must follow. -/
inductive Mode where
  | value | firstItem | firstKey | key
  | colon (key : List Nat)
  | after (value : Loaded)

/-- The frames, the innermost first. -/
structure ParseState where
  mode : Mode
  stack : List Frame

/-- A piece where a value must stand. -/
def readValue (deepest : Nat) (stack : List Frame) : Token → Option ParseState
  | .scalar value => some ⟨.after value, stack⟩
  | .leftBracket => if stack.length < deepest then some ⟨.firstItem, .array [] :: stack⟩ else none
  | .leftBrace =>
      if stack.length < deepest then some ⟨.firstKey, .object [] none :: stack⟩ else none
  | _ => none

/-- A piece where a name must stand. -/
def readKey (stack : List Frame) : Token → Option ParseState
  | .scalar (.str codes) => some ⟨.colon codes, stack⟩
  | _ => none

/-- A piece behind a value. -/
def readAfter (value : Loaded) : List Frame → Token → Option ParseState
  | .array items :: stack, .comma => some ⟨.value, .array (items ++ [value]) :: stack⟩
  | .array items :: stack, .rightBracket => some ⟨.after (.arr (items ++ [value])), stack⟩
  | .object pairs (some key) :: stack, .comma =>
      some ⟨.key, .object (pairs ++ [(key, value)]) none :: stack⟩
  | .object pairs (some key) :: stack, .rightBrace =>
      some ⟨.after (.obj (pairs ++ [(key, value)])), stack⟩
  | _, _ => none

/-- A bracket that closes an array without items. -/
def closeArray : List Frame → Option ParseState
  | .array [] :: stack => some ⟨.after (.arr []), stack⟩
  | _ => none

/-- A brace that closes an object without pairs. -/
def closeObject : List Frame → Option ParseState
  | .object [] none :: stack => some ⟨.after (.obj []), stack⟩
  | _ => none

/-- The colon behind a name. -/
def readColon (key : List Nat) : List Frame → Token → Option ParseState
  | .object pairs none :: stack, .colon => some ⟨.value, .object pairs (some key) :: stack⟩
  | _, _ => none

/-- The next piece; arrays and objects nest to the recursion limit. -/
def parseStep (deepest : Nat) (state : ParseState) (token : Token) : Option ParseState :=
  match state.mode with
  | .value => readValue deepest state.stack token
  | .firstItem =>
      match token with
      | .rightBracket => closeArray state.stack
      | token => readValue deepest state.stack token
  | .firstKey =>
      match token with
      | .rightBrace => closeObject state.stack
      | token => readKey state.stack token
  | .key => readKey state.stack token
  | .colon key => readColon key state.stack token
  | .after value => readAfter value state.stack token

/-- The value of a text. -/
def parse (numbers : NumberSyntax) (deepest : Nat) (text : List Char) : Option Loaded :=
  if text.head? = some (Char.ofNat 0xfeff) then none
  else do
    let tokens ← lex numbers text
    let state ← tokens.foldlM (parseStep deepest) ⟨.value, []⟩
    match state with
    | ⟨.after value, []⟩ => some value
    | _ => none

/-- `json.loads`. -/
def loads (numbers : NumberSyntax) (deepest : Nat) (text : List Char) : Option Loaded :=
  (parse numbers deepest text).map Loaded.dicts

/-! ## Printing what was read -/

/-- The character of a code point that is no surrogate. -/
def charOf (code : Nat) : Option Char :=
  if valid : code.isValidChar then some (Char.ofNatAux code valid) else none

/-- A text of code points, none of which is a surrogate. -/
def textOf (codes : List Nat) : Option String := (codes.mapM charOf).map String.ofList

mutual

/-- The document that `json.dumps` prints and that is then encoded: there is none when a number is
infinite or a string has a surrogate. -/
def Loaded.encode : Loaded → Option Json
  | .null => some .null
  | .bool value => some (.bool value)
  | .number (some (.int value)) => some (.int value)
  | .number (some (.float significand exponent)) => some (.float significand exponent)
  | .number _ => none
  | .str codes => (textOf codes).map .str
  | .arr items => (encodeItems items).map .arr
  | .obj pairs => (encodePairs pairs).map .obj

@[inherit_doc Loaded.encode] def encodeItems : List Loaded → Option (List Json)
  | [] => some []
  | item :: items => do
      let first ← item.encode
      let rest ← encodeItems items
      return first :: rest

@[inherit_doc Loaded.encode] def encodePairs :
    List (List Nat × Loaded) → Option (List (String × Json))
  | [] => some []
  | (key, value) :: pairs => do
      let name ← textOf key
      let first ← value.encode
      let rest ← encodePairs pairs
      return (name, first) :: rest

end

/-- `_validate_json_depth`. -/
def withinDepth : Nat → Loaded → Bool
  | 0, _ => false
  | n + 1, .arr items => items.all (withinDepth n)
  | n + 1, .obj pairs => pairs.all fun pair => withinDepth n pair.2
  | _ + 1, _ => true

end Json

end Foundation
