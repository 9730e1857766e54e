import HcuAutoOpt.Foundation.JsonReadBack

/-!
# What is read can be printed

Every piece keeps what was read so far sound (`parseStep_sound`), and a dictionary has distinct
names (`dicts_sound`). A value that was read and can be printed is therefore a document within its
depth (`fits_of_encode`), and a text that is its own canonical text repeats no name in an object
(`distinct_of_canonical`).
-/

set_option autoImplicit false

namespace Foundation

namespace Json

section Sound

variable {numbers : NumberSyntax}

/-- Every number of a value can be printed, unless it is infinite. -/
inductive Sound (numbers : NumberSyntax) : Loaded → Prop where
  | null : Sound numbers .null
  | bool (value : Bool) : Sound numbers (.bool value)
  | number (value : Option Json) (printable : ∀ held ∈ value, numbers.Printable held) :
      Sound numbers (.number value)
  | str (codes : List Nat) : Sound numbers (.str codes)
  | arr (items : List Loaded) (sound : ∀ item ∈ items, Sound numbers item) :
      Sound numbers (.arr items)
  | obj (pairs : List (List Nat × Loaded)) (sound : ∀ pair ∈ pairs, Sound numbers pair.2) :
      Sound numbers (.obj pairs)

/-- A piece whose value is sound. -/
def Token.Sound (numbers : NumberSyntax) : Token → Prop
  | .scalar value => Json.Sound numbers value
  | _ => True

theorem lexOne_sound (lawful : numbers.Lawful) {text after : List Char} {token : Token}
    (one : lexOne numbers text = some (token, after)) : token.Sound numbers := by
  cases text with
  | nil => cases one
  | cons c rest =>
      rw [lexOne] at one
      iterate 6
        rcases ite_eq_iff.mp one with ⟨-, taken⟩ | ⟨-, one⟩
        · cases taken
          trivial
      rcases ite_eq_iff.mp one with ⟨-, taken⟩ | ⟨-, one⟩
      · obtain ⟨read, -, same⟩ := Option.map_eq_some_iff.mp taken
        cases same
        exact .str _
      iterate 3
        rcases ite_eq_iff.mp one with ⟨-, taken⟩ | ⟨-, one⟩
        · obtain ⟨read, -, same⟩ := Option.map_eq_some_iff.mp taken
          cases same
          constructor
      obtain ⟨read, scanned, same⟩ := Option.map_eq_some_iff.mp one
      cases same
      refine .number _ fun held there => ?_
      obtain ⟨value, after⟩ := read
      cases there
      exact lawful.printable _ _ _ scanned

theorem lex_sound (lawful : numbers.Lawful) (text : List Char) :
    ∀ tokens, lex numbers text = some tokens → ∀ token ∈ tokens, token.Sound numbers := by
  induction text using lex.induct numbers with
  | case1 text blank =>
      intro tokens lexed token member
      rw [lex, blank] at lexed
      cases lexed
      cases member
  | case2 text c rest visible none =>
      intro tokens lexed
      rw [lex, visible] at lexed
      simp only [none] at lexed
      cases lexed
  | case3 text c rest visible first after one shorter ih =>
      intro tokens lexed token member
      rw [lex, visible] at lexed
      simp only [one, if_pos shorter] at lexed
      obtain ⟨others, later, rfl⟩ := Option.map_eq_some_iff.mp lexed
      rcases List.mem_cons.mp member with rfl | inside
      · exact lexOne_sound lawful one
      · exact ih others later token inside
  | case4 text c rest visible first after one longer =>
      intro tokens lexed
      rw [lex, visible] at lexed
      simp only [one, if_neg longer] at lexed
      cases lexed

/-- A frame whose values are sound. -/
def Frame.Sound (numbers : NumberSyntax) : Frame → Prop
  | .array items => ∀ item ∈ items, Json.Sound numbers item
  | .object pairs _ => ∀ pair ∈ pairs, Json.Sound numbers pair.2

/-- A mode whose value is sound. -/
def Mode.Sound (numbers : NumberSyntax) : Mode → Prop
  | .after found => Json.Sound numbers found
  | _ => True

/-- A state whose values are sound. -/
structure ParseState.Sound (numbers : NumberSyntax) (state : ParseState) : Prop where
  mode : state.mode.Sound numbers
  stack : ∀ frame ∈ state.stack, frame.Sound numbers

variable {deepest : Nat} {state state' : ParseState} {token : Token} {stack : List Frame}
  {value : Loaded}

theorem readValue_sound (sound : token.Sound numbers)
    (frames : ∀ frame ∈ stack, frame.Sound numbers)
    (read : readValue deepest stack token = some state') : state'.Sound numbers := by
  have pushed : ∀ frame : Frame, frame.Sound numbers →
      ∀ held ∈ frame :: stack, held.Sound numbers :=
    fun frame fresh => List.forall_mem_cons.mpr ⟨fresh, frames⟩
  cases token with
  | scalar value =>
      cases read
      exact ⟨sound, frames⟩
  | leftBracket =>
      rw [readValue] at read
      split at read
      · cases read
        exact ⟨trivial, pushed _ fun _ member => absurd member List.not_mem_nil⟩
      · cases read
  | leftBrace =>
      rw [readValue] at read
      split at read
      · cases read
        exact ⟨trivial, pushed _ fun _ member => absurd member List.not_mem_nil⟩
      · cases read
  | _ => cases read

theorem readKey_sound (frames : ∀ frame ∈ stack, frame.Sound numbers)
    (read : readKey stack token = some state') : state'.Sound numbers := by
  unfold readKey at read
  split at read
  · cases read
    exact ⟨trivial, frames⟩
  · cases read

theorem readAfter_sound (sound : Json.Sound numbers value)
    (frames : ∀ frame ∈ stack, frame.Sound numbers)
    (read : readAfter value stack token = some state') : state'.Sound numbers := by
  have appended : ∀ items : List Loaded, (∀ item ∈ items, Json.Sound numbers item) →
      ∀ item ∈ items ++ [value], Json.Sound numbers item := by
    intro items all item member
    rcases List.mem_append.mp member with before | last
    · exact all item before
    · exact List.mem_singleton.mp last ▸ sound
  have paired : ∀ (pairs : List (List Nat × Loaded)) (key : List Nat),
      (∀ pair ∈ pairs, Json.Sound numbers pair.2) →
      ∀ pair ∈ pairs ++ [(key, value)], Json.Sound numbers pair.2 := by
    intro pairs key all pair member
    rcases List.mem_append.mp member with before | last
    · exact all pair before
    · exact List.mem_singleton.mp last ▸ sound
  unfold readAfter at read
  split at read
  · cases read
    obtain ⟨top, below⟩ := List.forall_mem_cons.mp frames
    exact ⟨trivial, List.forall_mem_cons.mpr ⟨appended _ top, below⟩⟩
  · cases read
    obtain ⟨top, below⟩ := List.forall_mem_cons.mp frames
    exact ⟨.arr _ (appended _ top), below⟩
  · cases read
    obtain ⟨top, below⟩ := List.forall_mem_cons.mp frames
    exact ⟨trivial, List.forall_mem_cons.mpr ⟨paired _ _ top, below⟩⟩
  · cases read
    obtain ⟨top, below⟩ := List.forall_mem_cons.mp frames
    exact ⟨.obj _ (paired _ _ top), below⟩
  · cases read

/-- **Every piece keeps what was read sound.** -/
theorem parseStep_sound (tokenSound : token.Sound numbers) (sound : state.Sound numbers)
    (step : parseStep deepest state token = some state') : state'.Sound numbers := by
  obtain ⟨mode, stack⟩ := state
  obtain ⟨modeSound, frames⟩ := sound
  cases mode with
  | value => exact readValue_sound tokenSound frames step
  | firstItem =>
      unfold parseStep at step
      dsimp only at step
      split at step
      · unfold closeArray at step
        split at step
        · cases step
          exact ⟨.arr _ fun _ member => absurd member List.not_mem_nil,
            (List.forall_mem_cons.mp frames).2⟩
        · cases step
      · exact readValue_sound tokenSound frames step
  | firstKey =>
      unfold parseStep at step
      dsimp only at step
      split at step
      · unfold closeObject at step
        split at step
        · cases step
          exact ⟨.obj _ fun _ member => absurd member List.not_mem_nil,
            (List.forall_mem_cons.mp frames).2⟩
        · cases step
      · exact readKey_sound frames step
  | key => exact readKey_sound frames step
  | colon key =>
      unfold parseStep at step
      dsimp only at step
      unfold readColon at step
      split at step
      · cases step
        obtain ⟨top, below⟩ := List.forall_mem_cons.mp frames
        exact ⟨trivial, List.forall_mem_cons.mpr ⟨top, below⟩⟩
      · cases step
  | after value => exact readAfter_sound modeSound frames step

/-- **What is read is sound.** -/
theorem parse_sound (lawful : numbers.Lawful) {text : List Char}
    (parsed : parse numbers deepest text = some value) : Json.Sound numbers value := by
  unfold parse at parsed
  split at parsed
  · cases parsed
  obtain ⟨tokens, lexed, onward⟩ := Option.bind_eq_some_iff.mp parsed
  obtain ⟨final, folded, last⟩ := Option.bind_eq_some_iff.mp onward
  have run : ∀ (tokens : List Token) (state : ParseState),
      (∀ token ∈ tokens, token.Sound numbers) → state.Sound numbers →
      tokens.foldlM (parseStep deepest) state = some final → final.Sound numbers := by
    intro tokens
    induction tokens with
    | nil =>
        intro state _ sound folded
        cases folded
        exact sound
    | cons token tokens ih =>
        intro state pieces sound folded
        obtain ⟨next, step, later⟩ := Option.bind_eq_some_iff.mp folded
        obtain ⟨here, others⟩ := List.forall_mem_cons.mp pieces
        exact ih next others (parseStep_sound here sound step) later
  have sound := run tokens ⟨.value, []⟩ (lex_sound lawful text tokens lexed)
    ⟨trivial, fun _ member => absurd member List.not_mem_nil⟩ folded
  split at last
  · cases last
    exact sound.mode
  · cases last

/-- A value whose objects have distinct names. -/
inductive Distinct : Loaded → Prop where
  | null : Distinct .null
  | bool (value : Bool) : Distinct (.bool value)
  | number (value : Option Json) : Distinct (.number value)
  | str (codes : List Nat) : Distinct (.str codes)
  | arr (items : List Loaded) (distinct : ∀ item ∈ items, Distinct item) : Distinct (.arr items)
  | obj (pairs : List (List Nat × Loaded)) (names : (pairs.map Prod.fst).Nodup)
      (distinct : ∀ pair ∈ pairs, Distinct pair.2) : Distinct (.obj pairs)

/-- The pairs of a dictionary are among those it was made of. -/
theorem mem_of_mem_dictOf {pairs : List (List Nat × Loaded)} {pair : List Nat × Loaded}
    (member : pair ∈ dictOf pairs) : pair ∈ pairs := by
  have among : ∀ held : List (List Nat × Loaded), pair ∈ pairs.foldl dictSet held →
      pair ∈ held ∨ pair ∈ pairs := by
    clear member
    induction pairs with
    | nil => exact fun held there => .inl there
    | cons first pairs ih =>
        intro held there
        rcases ih _ there with inside | later
        · unfold dictSet at inside
          split at inside
          · obtain ⟨old, present, same⟩ := List.mem_map.mp inside
            split at same
            · exact .inr (same ▸ List.mem_cons_self)
            · exact .inl (same ▸ present)
          · rcases List.mem_append.mp inside with before | last
            · exact .inl before
            · exact .inr (List.mem_singleton.mp last ▸ List.mem_cons_self)
        · exact .inr (List.mem_cons_of_mem first later)
  exact (among [] member).resolve_left List.not_mem_nil

/-- Dictionaries of sound values are sound, and their names are distinct. -/
theorem dicts_sound {value : Loaded} (sound : Json.Sound numbers value) :
    Json.Sound numbers value.dicts ∧ Distinct value.dicts := by
  induction sound with
  | null => exact ⟨.null, .null⟩
  | bool value => exact ⟨.bool value, .bool value⟩
  | number value printable => exact ⟨.number value printable, .number value⟩
  | str codes => exact ⟨.str codes, .str codes⟩
  | arr items _ ih =>
      have each : ∀ item ∈ items.map Loaded.dicts, Json.Sound numbers item ∧ Distinct item := by
        intro item member
        obtain ⟨old, there, rfl⟩ := List.mem_map.mp member
        exact ih old there
      rw [Loaded.dicts, dictsItems_eq]
      exact ⟨.arr _ fun item member => (each item member).1,
        .arr _ fun item member => (each item member).2⟩
  | obj pairs _ ih =>
      have each : ∀ pair ∈ dictOf (pairs.map fun pair => (pair.1, pair.2.dicts)),
          Json.Sound numbers pair.2 ∧ Distinct pair.2 := by
        intro pair member
        obtain ⟨old, there, rfl⟩ := List.mem_map.mp (mem_of_mem_dictOf member)
        exact ih old there
      rw [Loaded.dicts, dictsPairs_eq]
      exact ⟨.obj _ fun pair member => (each pair member).1,
        .obj _ (nodup_dictOf _) fun pair member => (each pair member).2⟩

theorem mem_encodeItems {items : List Loaded} :
    ∀ {found : List Json}, encodeItems items = some found → ∀ item ∈ found,
      ∃ old ∈ items, old.encode = some item := by
  induction items with
  | nil =>
      intro found encoded item member
      cases encoded
      cases member
  | cons old items ih =>
      intro found encoded item member
      obtain ⟨first, here, onward⟩ := Option.bind_eq_some_iff.mp encoded
      obtain ⟨rest, later, same⟩ := Option.bind_eq_some_iff.mp onward
      cases same
      rcases List.mem_cons.mp member with rfl | inside
      · exact ⟨old, List.mem_cons_self, here⟩
      · obtain ⟨held, there, encoded⟩ := ih later item inside
        exact ⟨held, List.mem_cons_of_mem old there, encoded⟩

theorem encodePairs_eq_some {pairs : List (List Nat × Loaded)} :
    ∀ {fields : Object}, encodePairs pairs = some fields →
      fields.map (fun field => codesOf field.1) = pairs.map Prod.fst ∧
      ∀ field ∈ fields, ∃ old ∈ pairs, old.2.encode = some field.2 := by
  induction pairs with
  | nil =>
      intro fields encoded
      cases encoded
      exact ⟨rfl, fun _ member => absurd member List.not_mem_nil⟩
  | cons old pairs ih =>
      intro fields encoded
      obtain ⟨name, named, onward⟩ := Option.bind_eq_some_iff.mp encoded
      obtain ⟨first, here, further⟩ := Option.bind_eq_some_iff.mp onward
      obtain ⟨rest, later, same⟩ := Option.bind_eq_some_iff.mp further
      cases same
      obtain ⟨names, each⟩ := ih later
      refine ⟨by rw [List.map_cons, List.map_cons, names, codesOf_of_textOf named], ?_⟩
      intro field member
      rcases List.mem_cons.mp member with rfl | inside
      · exact ⟨old, List.mem_cons_self, here⟩
      · obtain ⟨held, there, encoded⟩ := each field inside
        exact ⟨held, List.mem_cons_of_mem old there, encoded⟩

/-- **What is read and can be printed is a document that is printed.** -/
theorem fits_of_encode {value : Loaded} (sound : Json.Sound numbers value) :
    ∀ {n : Nat} {document : Json}, Distinct value → withinDepth n value = true →
      value.encode = some document → Fits numbers n document := by
  induction sound with
  | null =>
      intro n document _ within encoded
      cases n with
      | zero => cases within
      | succ n =>
          cases encoded
          exact .null n
  | bool value =>
      intro n document _ within encoded
      cases n with
      | zero => cases within
      | succ n =>
          cases encoded
          exact .bool n value
  | number value printable =>
      intro n document _ within encoded
      cases n with
      | zero => cases within
      | succ n =>
          cases value with
          | none => cases encoded
          | some held =>
              cases held with
              | int value =>
                  cases encoded
                  exact .int n value (printable _ rfl)
              | float significand exponent =>
                  cases encoded
                  exact .float n significand exponent (printable _ rfl)
              | _ => cases encoded
  | str codes =>
      intro n document _ within encoded
      cases n with
      | zero => cases within
      | succ n =>
          obtain ⟨text, -, rfl⟩ := Option.map_eq_some_iff.mp encoded
          exact .str n text
  | arr items _ ih =>
      intro n document distinct within encoded
      cases n with
      | zero => cases within
      | succ n =>
          cases distinct with
          | arr _ distinct =>
              obtain ⟨found, all, rfl⟩ := Option.map_eq_some_iff.mp encoded
              rw [withinDepth, List.all_eq_true] at within
              refine .arr n found fun item member => ?_
              obtain ⟨old, there, encoded⟩ := mem_encodeItems all item member
              exact ih old there (distinct old there) (within old there) encoded
  | obj pairs _ ih =>
      intro n document distinct within encoded
      cases n with
      | zero => cases within
      | succ n =>
          cases distinct with
          | obj _ names distinct =>
              obtain ⟨fields, all, rfl⟩ := Option.map_eq_some_iff.mp encoded
              obtain ⟨same, each⟩ := encodePairs_eq_some all
              rw [withinDepth, List.all_eq_true] at within
              refine .obj n fields ?_ fun field member => ?_
              · rw [← same] at names
                have split : fields.map (fun field => codesOf field.1) =
                    (fields.map Prod.fst).map codesOf := by
                  rw [List.map_map]
                  rfl
                exact (split ▸ names).of_map _
              · obtain ⟨old, there, encoded⟩ := each field member
                exact ih old there (distinct old there) (within old there) encoded

/-- What a document is read as has distinct names. -/
theorem distinct_treeOf {document : Json} :
    ∀ {n : Nat}, Fits numbers n document → Distinct (treeOf document) := by
  induction document using Json.induction with
  | null => exact fun _ => .null
  | bool value => exact fun _ => .bool value
  | int value => exact fun _ => .number _
  | float significand exponent => exact fun _ => .number _
  | str value => exact fun _ => .str _
  | arr items ih =>
      intro n fits
      cases fits with
      | arr n _ fits =>
          rw [treeOf, treeItems_eq]
          refine .arr _ fun item member => ?_
          obtain ⟨old, there, rfl⟩ := List.mem_map.mp member
          exact ih old there (fits old there)
  | obj fields ih =>
      intro n fits
      cases fits with
      | obj n _ distinct fits =>
          rw [treeOf, treeFields_eq]
          refine .obj _ (nodup_codes distinct) fun pair member => ?_
          obtain ⟨old, there, rfl⟩ := List.mem_map.mp member
          exact ih old there (fits old there)

/-- **A text that is the canonical text of what it is read as repeats no name.** -/
theorem distinct_of_canonical (lawful : numbers.Lawful) {n : Nat} {text : List Char}
    {tree : Loaded} {fields : Object} (room : n ≤ deepest)
    (parsed : parse numbers deepest text = some tree)
    (within : withinDepth n tree.dicts = true) (encoded : tree.dicts.encode = some (.obj fields))
    (canonical : (canonicalText (.obj fields)).toList = text) : Distinct tree := by
  obtain ⟨sound, distinct⟩ := dicts_sound (parse_sound lawful parsed)
  have fits := fits_of_encode sound distinct within encoded
  have again := parse_canonicalText lawful fits room
  rw [canonical, parsed] at again
  cases again
  exact distinct_treeOf fits.sorted

end Sound

end Json

end Foundation
