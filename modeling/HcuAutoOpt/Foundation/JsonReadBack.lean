import HcuAutoOpt.Foundation.JsonLoading

/-!
# Canonical texts are read back

The pieces of the text of a document are the pieces of the value (`lex_chars`), and they are read
as the value whatever stands around it (`reads_treeOf`). So a canonical text is read as the
document it was printed from, with its fields in the order of their names (`loads_canonicalText`).
-/

set_option autoImplicit false

namespace Foundation

namespace Json

/-! ## Reading strings back -/

theorem readCode_hexText {code : Nat} (small : code < 65536) (rest : List Char) :
    readCode (hexText 4 code ++ rest) = some (code, rest) := by
  have a := hexValue_hexDigit (code / 16 / 16 / 16 % 16) (by omega)
  have b := hexValue_hexDigit (code / 16 / 16 % 16) (by omega)
  have c := hexValue_hexDigit (code / 16 % 16) (by omega)
  have d := hexValue_hexDigit (code % 16) (by omega)
  have value : ((code / 16 / 16 / 16 % 16 * 16 + code / 16 / 16 % 16) * 16 + code / 16 % 16) * 16 +
      code % 16 = code := by omega
  have digits : hexText 4 code = [hexDigit (code / 16 / 16 / 16 % 16),
    hexDigit (code / 16 / 16 % 16), hexDigit (code / 16 % 16), hexDigit (code % 16)] := rfl
  simp only [digits, List.cons_append, List.nil_append, readCode, a, b, c, d, value,
    Option.bind_eq_bind, Option.bind_some, Option.pure_def]

/-- An escape that is no surrogate stands alone. -/
theorem readUnicode_hexText {code : Nat} (small : code < 0xd800) (rest : List Char) :
    readUnicode (hexText 4 code ++ rest) = some (code, rest) := by
  have alone : ∀ low, isPair code low = false := by
    intro low
    have below : ¬ 0xd800 ≤ code := by omega
    simp [isPair, below]
  have digits := readCode_hexText (Nat.lt_trans small (by decide)) rest
  simp only [readUnicode, digits, Option.bind_eq_bind, Option.bind_some, alone,
    Bool.false_eq_true, if_false, Option.pure_def]
  split
  · split
    · split <;> rfl
    · rfl
  · rfl

/-- An escaped character is read back. -/
theorem readStringChar_escapeJson (c : Char) (rest : List Char) :
    readStringChar (escapeJson c ++ rest) = some (c.toNat, rest) := by
  unfold escapeJson
  split
  · rename_i special
    rw [Bool.or_eq_true, decide_eq_true_eq, decide_eq_true_eq] at special
    rcases special with rfl | rfl <;> rfl
  rename_i plain
  rw [Bool.or_eq_true, decide_eq_true_eq, decide_eq_true_eq, not_or] at plain
  iterate 5
    split
    · rename_i special
      subst special
      rfl
  split
  · rename_i low
    have escaped : readStringChar (backslash :: 'u' :: controlDigits c ++ rest) =
        readUnicode (hexText 4 c.toNat ++ rest) := rfl
    rw [escaped, readUnicode_hexText (Nat.lt_trans low (by decide))]
  · rename_i high
    rw [List.singleton_append, readStringChar, if_neg plain.2, if_neg high]

/-- **The body of a string literal is read back.** -/
theorem readString_body (body rest : List Char) :
    readString (body.flatMap escapeJson ++ doubleQuote :: rest) =
      some (body.map Char.toNat, rest) := by
  induction body with
  | nil =>
      rw [List.flatMap_nil, List.nil_append, readString, if_pos rfl]
      rfl
  | cons c body ih =>
      obtain ⟨first, more, opens, other⟩ := escapeJson_opens c
      have read := readStringChar_escapeJson c (body.flatMap escapeJson ++ doubleQuote :: rest)
      rw [List.flatMap_cons, List.append_assoc]
      rw [opens, List.cons_append] at read ⊢
      rw [readString, if_neg other, read]
      dsimp only
      rw [if_pos (by simp only [List.length_cons, List.length_append]; omega), ih]
      rfl

/-! ## Tokens of a canonical text -/

mutual

/-- The pieces of a value. -/
def Loaded.tokens : Loaded → List Token
  | .arr items => .leftBracket :: ([Token.comma].intercalate (tokensItems items) ++ [.rightBracket])
  | .obj pairs => .leftBrace :: ([Token.comma].intercalate (tokensPairs pairs) ++ [.rightBrace])
  | value => [.scalar value]

@[inherit_doc Loaded.tokens] def tokensItems : List Loaded → List (List Token)
  | [] => []
  | item :: items => item.tokens :: tokensItems items

@[inherit_doc Loaded.tokens] def tokensPairs : List (List Nat × Loaded) → List (List Token)
  | [] => []
  | (key, value) :: pairs => (.scalar (.str key) :: .colon :: value.tokens) :: tokensPairs pairs

end

/-- The pieces of a pair. -/
def tokensPair (pair : List Nat × Loaded) : List Token :=
  .scalar (.str pair.1) :: .colon :: pair.2.tokens

theorem tokensItems_eq (items : List Loaded) : tokensItems items = items.map Loaded.tokens := by
  induction items with
  | nil => rfl
  | cons item items ih => rw [tokensItems, ih, List.map_cons]

theorem tokensPairs_eq (pairs : List (List Nat × Loaded)) :
    tokensPairs pairs = pairs.map tokensPair := by
  induction pairs with
  | nil => rfl
  | cons pair pairs ih =>
      rw [tokensPairs, ih, List.map_cons]
      rfl

section Lexing

variable {numbers : NumberSyntax} {c : Char} {rest after : List Char} {token : Token}

/-- The text does not go on with a character of a number. -/
def NumberEnds (rest : List Char) : Prop := ∀ c ∈ rest.head?, c ∈ [',', ']', '\x7d', '\n']

theorem lex_cons (visible : isSpace c = false)
    (one : lexOne numbers (c :: rest) = some (token, after))
    (shorter : after.length ≤ rest.length) :
    lex numbers (c :: rest) = (lex numbers after).map (token :: ·) := by
  rw [lex, List.dropWhile_cons_of_neg (by simp [visible])]
  simp only [one]
  exact if_pos (Nat.lt_succ_of_le shorter)

/-- A string literal is one piece. -/
theorem lex_quotedJson (value : String) (rest : List Char) :
    lex numbers ((quotedJson value).toList ++ rest) =
      (lex numbers rest).map (.scalar (.str (codesOf value)) :: ·) := by
  have body := readString_body value.toList rest
  simp only [quotedJson, String.toList_ofList, List.cons_append, List.append_assoc,
    List.nil_append]
  refine lex_cons (by decide) ?_ (by simp only [List.length_append, List.length_cons]; omega)
  rw [lexOne]
  simp only [body]
  rfl

/-- What reads and prints numbers undoes each other. -/
structure NumberSyntax.Lawful (numbers : NumberSyntax) : Prop where
  scan_dumps : ∀ value, numbers.Printable value → ∀ rest, NumberEnds rest →
    numbers.scan (value.dumps.toList ++ rest) = some (some value, rest)
  opens : ∀ value, numbers.Printable value →
    ∃ c more, value.dumps.toList = c :: more ∧ (c = '-' ∨ c.isDigit = true)
  printable : ∀ text value rest, numbers.scan text = some (some value, rest) →
    numbers.Printable value

/-- A document that `json.dumps` prints: within a depth, with distinct names in every object and
numbers that can be printed. -/
inductive Fits (numbers : NumberSyntax) : Nat → Json → Prop where
  | null (n : Nat) : Fits numbers (n + 1) .null
  | bool (n : Nat) (value : Bool) : Fits numbers (n + 1) (.bool value)
  | int (n : Nat) (value : Int) (printable : numbers.Printable (.int value)) :
      Fits numbers (n + 1) (.int value)
  | float (n : Nat) (significand exponent : Int)
      (printable : numbers.Printable (.float significand exponent)) :
      Fits numbers (n + 1) (.float significand exponent)
  | str (n : Nat) (value : String) : Fits numbers (n + 1) (.str value)
  | arr (n : Nat) (items : List Json) (fits : ∀ item ∈ items, Fits numbers n item) :
      Fits numbers (n + 1) (.arr items)
  | obj (n : Nat) (fields : Object) (distinct : (fields.map Prod.fst).Nodup)
      (fits : ∀ field ∈ fields, Fits numbers n field.2) : Fits numbers (n + 1) (.obj fields)

theorem lex_number (lawful : numbers.Lawful) {value : Json} (printable : numbers.Printable value)
    (ends : NumberEnds rest) : lex numbers (value.dumps.toList ++ rest) =
      (lex numbers rest).map (.scalar (.number (some value)) :: ·) := by
  obtain ⟨c, more, text, opens⟩ := lawful.opens value printable
  have scanned := lawful.scan_dumps value printable rest ends
  have apart : ∀ d : Char, d ≠ '-' → d.isDigit = false → c ≠ d := by
    rintro d notMinus notDigit rfl
    rcases opens with minus | digit
    · exact notMinus minus
    · rw [notDigit] at digit
      cases digit
  rw [text] at scanned ⊢
  rw [List.cons_append] at scanned ⊢
  have one : lexOne numbers (c :: (more ++ rest)) = some (.scalar (.number (some value)), rest) := by
    rw [lexOne]
    simp only [apart '[' (by decide) (by decide), apart ']' (by decide) (by decide),
      apart '\x7b' (by decide) (by decide), apart '\x7d' (by decide) (by decide),
      apart ',' (by decide) (by decide), apart ':' (by decide) (by decide),
      apart doubleQuote (by decide) (by decide), apart 'n' (by decide) (by decide),
      apart 't' (by decide) (by decide), apart 'f' (by decide) (by decide), if_false, scanned,
      Option.map_some]
  have visible : isSpace c = false := by
    simp [isSpace, apart ' ' (by decide) (by decide), apart '\t' (by decide) (by decide),
      apart '\n' (by decide) (by decide), apart '\r' (by decide) (by decide)]
  exact lex_cons visible one (by simp)

/-- Items between commas, up to the closing bracket. -/
theorem lex_separated {α : Type} (text : α → List Char) (toks : α → List Token) {close : Char}
    {items : List α} (closing : close = ']' ∨ close = '\x7d')
    (closes : ∀ rest, lexOne numbers (close :: rest) = some (token, rest))
    (each : ∀ a ∈ items, ∀ rest, NumberEnds rest →
      lex numbers (text a ++ rest) = (lex numbers rest).map (toks a ++ ·)) (rest : List Char) :
    lex numbers ([','].intercalate (items.map text) ++ close :: rest) =
      (lex numbers rest).map ([Token.comma].intercalate (items.map toks) ++ token :: ·) := by
  have visible : isSpace close = false := by rcases closing with rfl | rfl <;> decide
  have closed : lex numbers (close :: rest) = (lex numbers rest).map (token :: ·) :=
    lex_cons visible (closes rest) (Nat.le_refl _)
  have ends : ∀ items : List α,
      NumberEnds ((items.flatMap fun a => ',' :: text a) ++ close :: rest) := by
    intro items c first
    cases items with
    | nil =>
        cases first
        rcases closing with rfl | rfl <;> decide
    | cons item items =>
        cases first
        decide
  have others : ∀ items : List α, (∀ a ∈ items, ∀ rest, NumberEnds rest →
        lex numbers (text a ++ rest) = (lex numbers rest).map (toks a ++ ·)) →
      lex numbers ((items.flatMap fun a => ',' :: text a) ++ close :: rest) =
        (lex numbers rest).map ((items.flatMap fun a => Token.comma :: toks a) ++ token :: ·) := by
    intro items
    induction items with
    | nil => exact fun _ => closed
    | cons item items ih =>
        intro each
        have comma : lexOne numbers (',' :: (text item ++
            ((items.flatMap fun a => ',' :: text a) ++ close :: rest))) =
          some (.comma, text item ++
            ((items.flatMap fun a => ',' :: text a) ++ close :: rest)) := rfl
        simp only [List.flatMap_cons, List.cons_append, List.append_assoc]
        rw [lex_cons (by decide) comma (Nat.le_refl _), each item List.mem_cons_self _ (ends items),
          ih fun a later => each a (List.mem_cons_of_mem item later), Option.map_map,
          Option.map_map]
        refine congrArg (Option.map · _) (funext fun tokens => ?_)
        simp
  cases items with
  | nil => exact closed
  | cons item items =>
      rw [intercalate_cons, intercalate_cons, List.append_assoc,
        each item List.mem_cons_self _ (ends items),
        others items fun a later => each a (List.mem_cons_of_mem item later), Option.map_map]
      refine congrArg (Option.map · _) (funext fun tokens => ?_)
      simp

/-- **The pieces of a document.** -/
theorem lex_chars (lawful : numbers.Lawful) (value : Json) :
    ∀ (n : Nat), Fits numbers n value → ∀ rest, NumberEnds rest →
      lex numbers (value.chars ++ rest) =
        (lex numbers rest).map ((treeOf value).tokens ++ ·) := by
  have word : ∀ (opener : Char) (word : List Char) (found : Loaded) (rest : List Char),
      isSpace opener = false →
      lexOne numbers (opener :: (word ++ rest)) = some (.scalar found, rest) →
      lex numbers (opener :: (word ++ rest)) = (lex numbers rest).map (.scalar found :: ·) :=
    fun opener word found rest visible one => lex_cons visible one (by simp)
  induction value using Json.induction with
  | null =>
      intro n _ rest _
      exact word 'n' "ull".toList .null rest (by decide) rfl
  | bool value =>
      intro n _ rest _
      cases value with
      | true => exact word 't' "rue".toList (.bool true) rest (by decide) rfl
      | false => exact word 'f' "alse".toList (.bool false) rest (by decide) rfl
  | int value =>
      intro n fits rest ends
      cases fits with
      | int n _ printable =>
          have number := lex_number lawful printable ends
          rw [dumps] at number
          rw [chars]
          exact number
  | float significand exponent =>
      intro n fits rest ends
      cases fits with
      | float n _ _ printable =>
          have number := lex_number lawful printable ends
          rw [dumps] at number
          rw [chars]
          exact number
  | str value =>
      intro n _ rest _
      exact lex_quotedJson value rest
  | arr items ih =>
      intro n fits rest ends
      cases fits with
      | arr n _ fits =>
          have inner := lex_separated chars (fun item => (treeOf item).tokens)
            (.inl rfl : ']' = ']' ∨ _) (fun _ => rfl)
            (fun item member => ih item member n (fits item member)) rest
          have opened : lexOne numbers
              ('[' :: ([','].intercalate (items.map chars) ++ ']' :: rest)) =
            some (.leftBracket, [','].intercalate (items.map chars) ++ ']' :: rest) := rfl
          rw [chars, charsItems_eq, treeOf, treeItems_eq, Loaded.tokens, tokensItems_eq,
            List.map_map, List.cons_append, List.append_assoc, List.singleton_append,
            lex_cons (by decide) opened (Nat.le_refl _), inner, Option.map_map]
          refine congrArg (Option.map · _) (funext fun tokens => ?_)
          simp [Function.comp_def]
  | obj fields ih =>
      intro n fits rest ends
      cases fits with
      | obj n _ _ fits =>
          have each : ∀ field ∈ fields, ∀ rest, NumberEnds rest →
              lex numbers (charsField field ++ rest) = (lex numbers rest).map
                (tokensPair (codesOf field.1, treeOf field.2) ++ ·) := by
            intro field member rest ends
            have colon : lexOne numbers (':' :: (field.2.chars ++ rest)) =
              some (.colon, field.2.chars ++ rest) := rfl
            rw [charsField, List.append_assoc, lex_quotedJson, List.cons_append,
              lex_cons (by decide) colon (Nat.le_refl _),
              ih field member n (fits field member) rest ends, Option.map_map, Option.map_map]
            rfl
          have inner := lex_separated charsField
            (fun field => tokensPair (codesOf field.1, treeOf field.2))
            (.inr rfl : '\x7d' = ']' ∨ _) (fun _ => rfl) each rest
          have opened : lexOne numbers
              ('\x7b' :: ([','].intercalate (fields.map charsField) ++ '\x7d' :: rest)) =
            some (.leftBrace, [','].intercalate (fields.map charsField) ++ '\x7d' :: rest) := rfl
          rw [chars, charsFields_eq, treeOf, treeFields_eq, Loaded.tokens, tokensPairs_eq,
            List.map_map, List.cons_append, List.append_assoc, List.singleton_append,
            lex_cons (by decide) opened (Nat.le_refl _), inner, Option.map_map]
          refine congrArg (Option.map · _) (funext fun tokens => ?_)
          simp [Function.comp_def]

end Lexing

/-! ## Parsing the tokens of a document -/

section Parsing

variable {numbers : NumberSyntax} {deepest n : Nat} {stack : List Frame}

/-- A value may stand here. -/
def Mode.Opens (mode : Mode) : Prop := mode = .value ∨ mode = .firstItem

/-- The pieces of a value are read as the value. -/
def Reads (deepest : Nat) (stack : List Frame) (value : Loaded) : Prop :=
  ∀ mode : Mode, mode.Opens →
    value.tokens.foldlM (parseStep deepest) ⟨mode, stack⟩ = some ⟨.after value, stack⟩

/-- The items behind the first one. -/
theorem foldlM_items {items : List Loaded} :
    ∀ (done : List Loaded) (value : Loaded),
      (∀ item ∈ items, ∀ held, Reads deepest (.array held :: stack) item) →
      ((items.flatMap fun (item : Loaded) => Token.comma :: item.tokens) ++
        [Token.rightBracket]).foldlM (parseStep deepest) ⟨.after value, .array done :: stack⟩ =
      some ⟨.after (.arr (done ++ value :: items)), stack⟩ := by
  induction items with
  | nil => exact fun _ _ _ => rfl
  | cons item items ih =>
      intro done value reads
      have here := reads item List.mem_cons_self (done ++ [value]) .value (.inl rfl)
      have onward := ih (done ++ [value]) item fun other later =>
        reads other (List.mem_cons_of_mem item later)
      have comma : parseStep deepest ⟨.after value, .array done :: stack⟩ .comma =
        some ⟨.value, .array (done ++ [value]) :: stack⟩ := rfl
      rw [List.flatMap_cons, List.append_assoc, List.cons_append, List.foldlM_cons, comma,
        Option.bind_eq_bind, Option.bind_some, List.foldlM_append, here, Option.bind_eq_bind,
        Option.bind_some, onward, List.append_assoc, List.singleton_append]

/-- A pair is read up to its value. -/
theorem foldlM_pair {pair : List Nat × Loaded} {done : List (List Nat × Loaded)} {mode : Mode}
    (opens : mode = .key ∨ mode = .firstKey)
    (reads : Reads deepest (.object done (some pair.1) :: stack) pair.2) :
    (tokensPair pair).foldlM (parseStep deepest) ⟨mode, .object done none :: stack⟩ =
      some ⟨.after pair.2, .object done (some pair.1) :: stack⟩ := by
  have key : parseStep deepest ⟨mode, .object done none :: stack⟩ (.scalar (.str pair.1)) =
      some ⟨.colon pair.1, .object done none :: stack⟩ := by
    rcases opens with rfl | rfl <;> rfl
  have colon : parseStep deepest ⟨.colon pair.1, .object done none :: stack⟩ .colon =
    some ⟨.value, .object done (some pair.1) :: stack⟩ := rfl
  rw [tokensPair, List.foldlM_cons, key, Option.bind_eq_bind, Option.bind_some, List.foldlM_cons,
    colon, Option.bind_eq_bind, Option.bind_some, reads .value (.inl rfl)]

/-- The pairs behind the first one. -/
theorem foldlM_pairs {pairs : List (List Nat × Loaded)} :
    ∀ (done : List (List Nat × Loaded)) (last : List Nat × Loaded),
      (∀ pair ∈ pairs, ∀ held, Reads deepest (.object held (some pair.1) :: stack) pair.2) →
      ((pairs.flatMap fun pair => Token.comma :: tokensPair pair) ++
        [Token.rightBrace]).foldlM (parseStep deepest) ⟨.after last.2, .object done (some last.1) :: stack⟩ =
      some ⟨.after (.obj (done ++ last :: pairs)), stack⟩ := by
  induction pairs with
  | nil => exact fun _ _ _ => rfl
  | cons pair pairs ih =>
      intro done last reads
      have here := foldlM_pair (.inl rfl : Mode.key = .key ∨ _)
        (reads pair List.mem_cons_self (done ++ [last]))
      have onward := ih (done ++ [last]) pair fun other later =>
        reads other (List.mem_cons_of_mem pair later)
      have comma : parseStep deepest ⟨.after last.2, .object done (some last.1) :: stack⟩ .comma =
        some ⟨.key, .object (done ++ [last]) none :: stack⟩ := rfl
      rw [List.flatMap_cons, List.append_assoc, List.cons_append, List.foldlM_cons, comma,
        Option.bind_eq_bind, Option.bind_some, List.foldlM_append, here, Option.bind_eq_bind,
        Option.bind_some, onward, List.append_assoc, List.singleton_append]

/-- **The pieces of a document are read as its value.** -/
theorem reads_treeOf (value : Json) : ∀ (n : Nat) (stack : List Frame), Fits numbers n value →
    stack.length + n ≤ deepest → Reads deepest stack (treeOf value) := by
  have scalar : ∀ (found : Loaded) (stack : List Frame), found.tokens = [.scalar found] →
      Reads deepest stack found := by
    intro found stack single mode opens
    rw [single]
    rcases opens with rfl | rfl <;> rfl
  induction value using Json.induction with
  | null => exact fun _ stack _ _ => scalar .null stack rfl
  | bool value => exact fun _ stack _ _ => scalar (.bool value) stack rfl
  | int value => exact fun _ stack _ _ => scalar (.number (some (.int value))) stack rfl
  | float significand exponent =>
      exact fun _ stack _ _ => scalar (.number (some (.float significand exponent))) stack rfl
  | str value => exact fun _ stack _ _ => scalar (.str (codesOf value)) stack rfl
  | arr items ih =>
      intro n stack fits room mode opens
      cases fits with
      | arr n _ fits =>
          have opened : parseStep deepest ⟨mode, stack⟩ .leftBracket =
              some ⟨.firstItem, .array [] :: stack⟩ := by
            have inside : stack.length < deepest := by omega
            rcases opens with rfl | rfl <;> exact if_pos inside
          have reads : ∀ item ∈ items.map treeOf, ∀ held,
              Reads deepest (.array held :: stack) item := by
            intro item member held
            obtain ⟨old, there, rfl⟩ := List.mem_map.mp member
            exact ih old there n _ (fits old there) (by simp only [List.length_cons]; omega)
          rw [treeOf, treeItems_eq, Loaded.tokens, tokensItems_eq, List.foldlM_cons, opened,
            Option.bind_eq_bind, Option.bind_some]
          generalize items.map treeOf = found at reads
          cases found with
          | nil => rfl
          | cons first rest =>
              have here := reads first List.mem_cons_self [] .firstItem (.inr rfl)
              have onward := foldlM_items [] first fun other later =>
                reads other (List.mem_cons_of_mem first later)
              rw [intercalate_cons, List.append_assoc, List.foldlM_append, here,
                Option.bind_eq_bind, Option.bind_some, onward, List.nil_append]
  | obj fields ih =>
      intro n stack fits room mode opens
      cases fits with
      | obj n _ _ fits =>
          have opened : parseStep deepest ⟨mode, stack⟩ .leftBrace =
              some ⟨.firstKey, .object [] none :: stack⟩ := by
            have inside : stack.length < deepest := by omega
            rcases opens with rfl | rfl <;> exact if_pos inside
          have reads : ∀ pair ∈ fields.map fun field => (codesOf field.1, treeOf field.2),
              ∀ held, Reads deepest (.object held (some pair.1) :: stack) pair.2 := by
            intro pair member held
            obtain ⟨old, there, rfl⟩ := List.mem_map.mp member
            exact ih old there n _ (fits old there) (by simp only [List.length_cons]; omega)
          rw [treeOf, treeFields_eq, Loaded.tokens, tokensPairs_eq, List.foldlM_cons, opened,
            Option.bind_eq_bind, Option.bind_some]
          generalize (fields.map fun field => (codesOf field.1, treeOf field.2)) = found at reads
          cases found with
          | nil => rfl
          | cons first rest =>
              have here := foldlM_pair (.inr rfl : Mode.firstKey = .key ∨ _)
                (reads first List.mem_cons_self [])
              have onward := foldlM_pairs [] first fun other later =>
                reads other (List.mem_cons_of_mem first later)
              rw [intercalate_cons, List.append_assoc, List.foldlM_append, here,
                Option.bind_eq_bind, Option.bind_some, onward, List.nil_append]

end Parsing

/-! ## Reading documents back -/

theorem charOf_eq_some_iff {code : Nat} {c : Char} : charOf code = some c ↔ c.toNat = code := by
  by_cases valid : code.isValidChar
  · have value : (Char.ofNatAux code valid).toNat = code := rfl
    rw [charOf, dif_pos valid, Option.some_inj]
    exact ⟨fun same => same ▸ value, fun same => Char.toNat_inj.mp (value.trans same.symm)⟩
  · rw [charOf, dif_neg valid]
    constructor
    · intro absent
      cases absent
    · rintro rfl
      exact absurd c.valid valid

theorem textOf_codesOf (text : String) : textOf (codesOf text) = some text := by
  have each : ∀ chars : List Char, (chars.map Char.toNat).mapM charOf = some chars := by
    intro chars
    induction chars with
    | nil => rfl
    | cons c chars ih =>
        rw [List.map_cons, List.mapM_cons, ih, charOf_eq_some_iff.mpr rfl]
        rfl
  rw [textOf, codesOf, each, Option.map_some, String.ofList_toList]

/-- Code points are determined by their text. -/
theorem codesOf_of_textOf {codes : List Nat} {text : String} (read : textOf codes = some text) :
    codesOf text = codes := by
  obtain ⟨chars, mapped, rfl⟩ := Option.map_eq_some_iff.mp read
  rw [codesOf, String.toList_ofList]
  clear read
  induction codes generalizing chars with
  | nil =>
      cases mapped
      rfl
  | cons code codes ih =>
      rw [List.mapM_cons] at mapped
      obtain ⟨c, first, onward⟩ := Option.bind_eq_some_iff.mp mapped
      obtain ⟨rest, later, same⟩ := Option.bind_eq_some_iff.mp onward
      cases same
      rw [List.map_cons, charOf_eq_some_iff.mp first, ih rest later]

/-- What a document is read as is printed as the document. -/
theorem encode_treeOf (value : Json) : (treeOf value).encode = some value := by
  induction value using Json.induction with
  | str value => rw [treeOf, Loaded.encode, textOf_codesOf, Option.map_some]
  | arr items ih =>
      have all : encodeItems (items.map treeOf) = some items := by
        induction items with
        | nil => rfl
        | cons item items next =>
            rw [List.map_cons, encodeItems, ih item List.mem_cons_self,
              next fun other later => ih other (List.mem_cons_of_mem item later)]
            rfl
      rw [treeOf, treeItems_eq, Loaded.encode, all, Option.map_some]
  | obj fields ih =>
      have all : encodePairs (fields.map fun field => (codesOf field.1, treeOf field.2)) =
          some fields := by
        induction fields with
        | nil => rfl
        | cons field fields next =>
            rw [List.map_cons, encodePairs, textOf_codesOf, ih field List.mem_cons_self,
              next fun other later => ih other (List.mem_cons_of_mem field later)]
            rfl
      rw [treeOf, treeFields_eq, Loaded.encode, all, Option.map_some]
  | _ => rfl

/-- The names of what a document with distinct names is read as are distinct. -/
theorem nodup_codes {fields : Object} (distinct : (fields.map Prod.fst).Nodup) :
    ((fields.map fun field => (codesOf field.1, treeOf field.2)).map Prod.fst).Nodup := by
  have injective : Function.Injective codesOf := fun text text' same =>
    Option.some.inj ((textOf_codesOf text).symm.trans
      ((congrArg textOf same).trans (textOf_codesOf text')))
  rw [List.map_map]
  have names := distinct.map injective
  rwa [List.map_map] at names

/-- What a document is read as has dictionaries. -/
theorem dicts_treeOf {numbers : NumberSyntax} {value : Json} :
    ∀ {n : Nat}, Fits numbers n value → (treeOf value).dicts = treeOf value := by
  induction value using Json.induction with
  | arr items ih =>
      intro n fits
      cases fits with
      | arr n _ fits =>
          rw [treeOf, treeItems_eq, Loaded.dicts, dictsItems_eq, List.map_map]
          exact congrArg Loaded.arr (List.map_congr_left fun item member =>
            ih item member (fits item member))
  | obj fields ih =>
      intro n fits
      cases fits with
      | obj n _ distinct fits =>
          have same : ((fields.map fun field => (codesOf field.1, treeOf field.2)).map
              fun pair => (pair.1, pair.2.dicts)) =
                fields.map fun field => (codesOf field.1, treeOf field.2) := by
            rw [List.map_map]
            exact List.map_congr_left fun field member =>
              Prod.ext rfl (ih field member (fits field member))
          rw [treeOf, treeFields_eq, Loaded.dicts, dictsPairs_eq, same,
            dictOf_eq_self (nodup_codes distinct)]
  | _ => exact fun _ => rfl

/-- Sorting the fields keeps a document fit. -/
theorem Fits.sorted {numbers : NumberSyntax} {value : Json} :
    ∀ {n : Nat}, Fits numbers n value → Fits numbers n value.sorted := by
  induction value using Json.induction with
  | arr items ih =>
      intro n fits
      cases fits with
      | arr n _ fits =>
          rw [sorted_arr]
          refine .arr n _ fun item member => ?_
          obtain ⟨old, there, rfl⟩ := List.mem_map.mp member
          exact ih old there (fits old there)
  | obj fields ih =>
      intro n fits
      cases fits with
      | obj n _ distinct fits =>
          have order := List.perm_insertionSort (fun a b : String × Json => a.1 ≤ b.1)
            (sortedFields fields)
          rw [Json.sorted]
          refine .obj n _ ((order.map Prod.fst).nodup_iff.mpr ?_) fun field member => ?_
          · rw [sortedFields_eq, List.map_map]
            exact distinct
          · have there := order.mem_iff.mp member
            rw [sortedFields_eq] at there
            obtain ⟨old, present, rfl⟩ := List.mem_map.mp there
            exact ih old present (fits old present)
  | _ => exact fun fits => fits

/-- What a document is read as nests as deep as the document. -/
theorem withinDepth_treeOf {numbers : NumberSyntax} {value : Json} :
    ∀ {n : Nat}, Fits numbers n value → withinDepth n (treeOf value) = true := by
  induction value using Json.induction with
  | arr items ih =>
      intro n fits
      cases fits with
      | arr n _ fits =>
          rw [treeOf, treeItems_eq, withinDepth, List.all_map, List.all_eq_true]
          exact fun item member => ih item member (fits item member)
  | obj fields ih =>
      intro n fits
      cases fits with
      | obj n _ _ fits =>
          rw [treeOf, treeFields_eq, withinDepth, List.all_map, List.all_eq_true]
          exact fun field member => ih field member (fits field member)
  | _ =>
      intro n fits
      cases fits
      rfl

/-- The fields of an ordered document are in order. -/
theorem sorted_sorted (value : Json) : value.sorted.sorted = value.sorted := by
  induction value using Json.induction with
  | arr items ih =>
      rw [sorted_arr, sorted_arr, List.map_map]
      exact congrArg Json.arr (List.map_congr_left fun item member => ih item member)
  | obj fields ih =>
      have total : Std.Total fun a b : String × Json => a.1 ≤ b.1 :=
        ⟨fun a b => String.le_total a.1 b.1⟩
      have trans : IsTrans (String × Json) fun a b => a.1 ≤ b.1 :=
        ⟨fun _ _ _ first second => String.le_trans first second⟩
      have order := List.perm_insertionSort (fun a b : String × Json => a.1 ≤ b.1)
        (sortedFields fields)
      have settled : sortedFields ((sortedFields fields).insertionSort fun a b => a.1 ≤ b.1) =
          (sortedFields fields).insertionSort fun a b => a.1 ≤ b.1 := by
        rw [sortedFields_eq]
        refine (List.map_congr_left (g := id) fun field member => ?_).trans (List.map_id _)
        have there := order.mem_iff.mp member
        rw [sortedFields_eq] at there
        obtain ⟨old, present, rfl⟩ := List.mem_map.mp there
        exact Prod.ext rfl (ih old present)
      rw [Json.sorted, Json.sorted, settled,
        (List.pairwise_insertionSort _ (sortedFields fields)).insertionSort_eq]
  | _ => rfl

/-- The canonical text does not depend on the order of the fields. -/
theorem canonicalText_sorted (value : Json) : value.sorted.canonicalText = value.canonicalText := by
  refine String.toList_inj.mp ?_
  rw [canonicalText, canonicalText, String.toList_append, String.toList_append, toList_dumps,
    toList_dumps, sorted_sorted]

/-- **A canonical text is read back**, with the fields in the order of their names. -/
theorem parse_canonicalText {numbers : NumberSyntax} (lawful : numbers.Lawful) {fields : Object}
    {n deepest : Nat} (fits : Fits numbers n (.obj fields)) (room : n ≤ deepest) :
    parse numbers deepest (canonicalText (.obj fields)).toList =
      some (treeOf (sorted (.obj fields))) := by
  have text : (canonicalText (.obj fields)).toList = (sorted (.obj fields)).chars ++ ['\n'] := by
    rw [canonicalText, String.toList_append, toList_dumps]
    rfl
  have opened : ((sorted (.obj fields)).chars ++ ['\n']).head? = some '\x7b' := by
    rw [Json.sorted, chars]
    rfl
  have ended : lex numbers ['\n'] = some [] := by
    rw [lex]
    rfl
  have pieces := lex_chars lawful _ n fits.sorted ['\n'] (by
    intro c first
    cases first
    decide)
  have read := reads_treeOf (sorted (.obj fields)) n [] fits.sorted
    (by simpa using room) .value (.inl rfl)
  rw [parse, text, opened, if_neg (by decide), pieces, ended]
  simp only [Option.map_some, List.append_nil, Option.bind_eq_bind, Option.bind_some, read]

/-- **So is the document.** -/
theorem loads_canonicalText {numbers : NumberSyntax} (lawful : numbers.Lawful) {fields : Object}
    {n deepest : Nat} (fits : Fits numbers n (.obj fields)) (room : n ≤ deepest) :
    loads numbers deepest (canonicalText (.obj fields)).toList =
      some (treeOf (sorted (.obj fields))) := by
  rw [loads, parse_canonicalText lawful fits room, Option.map_some, dicts_treeOf fits.sorted]

end Json

end Foundation
