import HcuAutoOpt.Foundation.CanonicalJson
import Mathlib.Data.List.SplitBy
import Mathlib.Data.List.TakeWhile

/-!
# URIs of local files

`urllib.parse` takes a URI apart (`urlSplit`) and replaces escapes by the bytes they stand for
(`unquote`); `pathlib` takes a path apart (`readPath`) and writes it as a `file` URI (`asUri`).
Taking apart what was written gives the path (`urlSplit_asUri`, `unquote_quote`,
`readPath_text`). Many URIs stand for one path.

`urlSplit` raises `ValueError` for some network locations; what the address check and the Unicode
normalization do is part of the rules.
-/

set_option autoImplicit false

namespace Foundation

/-! ## Text and bytes -/

/-- The UTF-8 bytes of a text. -/
def textBytes (text : List Char) : List UInt8 := text.flatMap String.utf8EncodeChar

/-- `bytes.decode("utf-8", errors="strict")`. -/
def decodeUtf8 (bytes : List UInt8) : Option (List Char) :=
  (String.fromUTF8? ⟨bytes.toArray⟩).map String.toList

theorem textBytes_toList (text : String) : textBytes text.toList = text.toUTF8.data.toList := by
  have encoded := String.utf8Encode_toList (b := text)
  rw [List.utf8Encode] at encoded
  have data := congrArg (fun bytes : ByteArray => bytes.data.toList) encoded
  simpa [textBytes, List.data_toByteArray] using data

/-- **Encoding and decoding a text gives it back.** -/
theorem decodeUtf8_textBytes (text : List Char) : decodeUtf8 (textBytes text) = some text := by
  have bytes := textBytes_toList (String.ofList text)
  rw [String.toList_ofList] at bytes
  rw [decodeUtf8, bytes, Array.toArray_toList, fromUTF8?_toUTF8, Option.map_some,
    String.toList_ofList]

/-- A character of ASCII. -/
def isAscii (c : Char) : Bool := decide (c.toNat < 128)

/-! ## Escapes -/

/-- The upper-case digit of a value below sixteen. -/
def upperHexDigit (value : Nat) : Char :=
  ['0', '1', '2', '3', '4', '5', '6', '7', '8', '9', 'A', 'B', 'C', 'D', 'E', 'F'].getD value '0'

/-- The characters that `quote` keeps. -/
def isKept (c : Char) : Bool :=
  c.isAlphanum || c = '_' || c = '.' || c = '-' || c = '~' || c = '/'

/-- A byte in a URI. -/
def quoteByte (byte : UInt8) : List Char :=
  if byte.toNat < 128 ∧ isKept (Char.ofNat byte.toNat) then [Char.ofNat byte.toNat]
  else ['%', upperHexDigit (byte.toNat / 16), upperHexDigit (byte.toNat % 16)]

/-- `quote_from_bytes`. -/
def quote (bytes : List UInt8) : List Char := bytes.flatMap quoteByte

/-- The byte of the two characters behind a percent sign. -/
def escapedByte : List Char → Option UInt8
  | high :: low :: _ => do
      let high ← hexValue high
      let low ← hexValue low
      return UInt8.ofNat (16 * high + low)
  | _ => none

/-- `unquote_to_bytes`, of a text of ASCII: an escape that is not one stays as it is. -/
def unquoteToBytes : List Char → List UInt8
  | [] => []
  | '%' :: high :: low :: rest =>
      match escapedByte [high, low] with
      | some byte => byte :: unquoteToBytes rest
      | none => 37 :: unquoteToBytes (high :: low :: rest)
  | c :: rest => UInt8.ofNat c.toNat :: unquoteToBytes rest

/-- What the reading of URIs needs of the language's library. -/
structure UriRules where
  /-- `bytes.decode("utf-8", errors="replace")`, of bytes that are not UTF-8. -/
  replaced : List UInt8 → List Char
  /-- `_check_bracketed_netloc` raises. -/
  bracketsRefused : List Char → Bool
  /-- `unicodedata.normalize("NFKC", text)`. -/
  normalized : List Char → List Char

/-- `bytes.decode("utf-8", errors="replace")`. -/
def UriRules.decode (rules : UriRules) (bytes : List UInt8) : List Char :=
  (decodeUtf8 bytes).getD (rules.replaced bytes)

/-- `unquote`: the escapes of each run of ASCII characters. -/
def unquote (rules : UriRules) (text : List Char) : List Char :=
  if '%' ∈ text then
    (text.splitBy fun a b => isAscii a == isAscii b).flatMap fun run =>
      if run.all isAscii then rules.decode (unquoteToBytes run) else run
  else text

/-- What a byte is quoted as: one character that is kept, or an escape. -/
theorem quoteByte_cases (byte : UInt8) :
    (∃ c, quoteByte byte = [c] ∧ isKept c = true ∧ isAscii c = true ∧
      UInt8.ofNat c.toNat = byte) ∨
    ∃ high low, quoteByte byte = ['%', high, low] ∧ escapedByte [high, low] = some byte ∧
      isKept high = true ∧ isKept low = true ∧ isAscii high = true ∧ isAscii low = true := by
  have digits : ∀ value < 16, hexValue (upperHexDigit value) = some value ∧
      isKept (upperHexDigit value) = true ∧ isAscii (upperHexDigit value) = true := by decide
  have below : byte.toNat < 256 := byte.toNat_lt
  unfold quoteByte
  split
  next kept =>
    have codes : ∀ code < 128, (Char.ofNat code).toNat = code := by decide
    have valid := codes byte.toNat kept.1
    refine .inl ⟨_, rfl, kept.2, decide_eq_true (by omega), ?_⟩
    rw [valid, UInt8.ofNat_toNat]
  next =>
    obtain ⟨high, keptHigh, asciiHigh⟩ := digits (byte.toNat / 16) (by omega)
    obtain ⟨low, keptLow, asciiLow⟩ := digits (byte.toNat % 16) (by omega)
    refine .inr ⟨_, _, rfl, ?_, keptHigh, keptLow, asciiHigh, asciiLow⟩
    have value : 16 * (byte.toNat / 16) + byte.toNat % 16 = byte.toNat := by omega
    simp only [escapedByte, high, low, Option.bind_eq_bind, Option.bind_some, value,
      UInt8.ofNat_toNat, pure]

theorem isKept_percent {c : Char} (kept : isKept c = true) : c ≠ '%' := by
  rintro rfl
  revert kept
  decide

/-- **Quoted bytes are read back.** -/
theorem unquoteToBytes_quote (bytes : List UInt8) : unquoteToBytes (quote bytes) = bytes := by
  induction bytes with
  | nil => rfl
  | cons byte bytes ih =>
      rw [quote, List.flatMap_cons]
      rcases quoteByte_cases byte with ⟨c, text, kept, -, value⟩ | ⟨high, low, text, value, -⟩
      · rw [text, List.singleton_append, unquoteToBytes]
        · exact congrArg₂ List.cons value ih
        · intro high low rest percent
          exact absurd percent (isKept_percent kept)
      · rw [text]
        simp only [List.cons_append, List.nil_append, unquoteToBytes, value]
        exact congrArg (byte :: ·) ih

/-- A quoted text is made of kept characters and percent signs. -/
theorem mem_quote {bytes : List UInt8} {c : Char} (member : c ∈ quote bytes) :
    isAscii c = true ∧ (c = '%' ∨ isKept c = true) := by
  obtain ⟨byte, -, inside⟩ := List.mem_flatMap.mp member
  rcases quoteByte_cases byte with ⟨d, text, kept, ascii, -⟩ |
    ⟨high, low, text, -, keptHigh, keptLow, asciiHigh, asciiLow⟩
  · rw [text, List.mem_singleton] at inside
    subst inside
    exact ⟨ascii, .inr kept⟩
  · rw [text, List.mem_cons, List.mem_cons, List.mem_singleton] at inside
    rcases inside with rfl | rfl | rfl
    · exact ⟨by decide, .inl rfl⟩
    · exact ⟨asciiHigh, .inr keptHigh⟩
    · exact ⟨asciiLow, .inr keptLow⟩

theorem utf8EncodeChar_ascii {c : Char} (ascii : isAscii c = true) :
    String.utf8EncodeChar c = [UInt8.ofNat c.toNat] := by
  have small : c.toNat < 128 := of_decide_eq_true ascii
  have one : c.utf8Size = 1 := Char.utf8Size_eq_one_iff.mpr (Nat.le_of_lt_succ small)
  exact String.utf8EncodeChar_eq_singleton one

/-- A text of ASCII without escapes stands for its own bytes. -/
theorem unquoteToBytes_plain {text : List Char} (ascii : ∀ c ∈ text, isAscii c = true)
    (plain : '%' ∉ text) : unquoteToBytes text = textBytes text := by
  induction text with
  | nil => rfl
  | cons c rest ih =>
      have first : c ≠ '%' := fun same => plain (same ▸ List.mem_cons_self)
      rw [unquoteToBytes, textBytes, List.flatMap_cons,
        utf8EncodeChar_ascii (ascii c List.mem_cons_self)]
      · exact congrArg (UInt8.ofNat c.toNat :: ·) (ih
          (fun d later => ascii d (List.mem_cons_of_mem c later))
          fun later => plain (List.mem_cons_of_mem c later))
      · exact fun high low rest percent => absurd percent first

/-- **A quoted text is read back.** -/
theorem unquote_quote (rules : UriRules) (text : List Char) :
    unquote rules (quote (textBytes text)) = text := by
  have ascii : ∀ c ∈ quote (textBytes text), isAscii c = true := fun c member =>
    (mem_quote member).1
  have bytes := unquoteToBytes_quote (textBytes text)
  unfold unquote
  split
  next escapes =>
    have filled : quote (textBytes text) ≠ [] := List.ne_nil_of_mem escapes
    have oneRun : (quote (textBytes text)).splitBy (fun a b => isAscii a == isAscii b) =
        [quote (textBytes text)] := by
      refine List.splitBy_of_isChain filled (List.Pairwise.isChain ?_)
      refine List.pairwise_of_forall_mem_list fun a first b second => ?_
      rw [ascii a first, ascii b second]
      rfl
    rw [oneRun, List.flatMap_singleton, if_pos (List.all_eq_true.mpr ascii), bytes,
      UriRules.decode, decodeUtf8_textBytes, Option.getD_some]
  next plain =>
    have same := (unquoteToBytes_plain ascii plain).symm.trans bytes
    exact Option.some.inj ((decodeUtf8_textBytes _).symm.trans
      ((congrArg decodeUtf8 same).trans (decodeUtf8_textBytes _)))

/-! ## Parts of a URI -/

/-- `urllib.parse.SplitResult`. -/
structure SplitUri where
  scheme : List Char
  netloc : List Char
  path : List Char
  query : List Char
  fragment : List Char
  deriving DecidableEq, Repr

/-- The text before the first of a character, and the text behind it. -/
def cutAt (mark : Char) (text : List Char) : List Char × List Char :=
  (text.takeWhile (· ≠ mark), (text.dropWhile (· ≠ mark)).drop 1)

/-- The characters of a scheme. -/
def isSchemeChar (c : Char) : Bool := c.isAlphanum || c = '+' || c = '-' || c = '.'

/-- The scheme of a URI and what follows it. -/
def splitScheme (url : List Char) : List Char × List Char :=
  let (scheme, rest) := cutAt ':' url
  match scheme with
  | [] => ([], url)
  | first :: _ =>
      if ':' ∈ url ∧ first.isAlpha ∧ scheme.all isSchemeChar then (scheme.map Char.toLower, rest)
      else ([], url)

/-- The characters that end a network location. -/
def endsNetloc (c : Char) : Bool := c = '/' || c = '?' || c = '#'

/-- The checks of a network location. -/
def netlocRefused (rules : UriRules) (netloc : List Char) : Bool :=
  (('[' ∈ netloc : Bool) != (']' ∈ netloc : Bool)) ||
    ('[' ∈ netloc && rules.bracketsRefused netloc) ||
    (!netloc.all isAscii &&
      let plain := netloc.filter fun c => c ≠ '@' && c ≠ ':' && c ≠ '#' && c ≠ '?'
      let normalized := rules.normalized plain
      plain != normalized && normalized.any fun c =>
        c = '/' || c = '?' || c = '#' || c = '@' || c = ':')

/-- The network location of what follows the scheme, and what follows that. -/
def splitNetloc (url : List Char) : List Char × List Char :=
  if url.take 2 = ['/', '/'] then
    ((url.drop 2).takeWhile fun c => !endsNetloc c, (url.drop 2).dropWhile fun c => !endsNetloc c)
  else ([], url)

/-- A URI without the white space that is ignored. -/
def stripUri (uri : List Char) : List Char :=
  (uri.dropWhile fun c => decide (c.toNat ≤ 32)).filter fun c =>
    c ≠ '\t' && c ≠ '\r' && c ≠ '\n'

/-- The network location of a URI. -/
def netlocOf (uri : List Char) : List Char :=
  (splitNetloc (splitScheme (stripUri uri)).2).1

/-- `urlsplit`, which raises `ValueError` for some network locations. -/
def urlSplit (rules : UriRules) (uri : List Char) : Option SplitUri :=
  let (scheme, afterScheme) := splitScheme (stripUri uri)
  let (netloc, afterNetloc) := splitNetloc afterScheme
  let (beforeFragment, fragment) := cutAt '#' afterNetloc
  let (path, query) := cutAt '?' beforeFragment
  if netlocRefused rules netloc then none
  else some ⟨scheme, netloc, path, query, fragment⟩

/-- **When a URI cannot be taken apart.** -/
theorem urlSplit_eq_none_iff {rules : UriRules} {uri : List Char} :
    urlSplit rules uri = none ↔ netlocRefused rules (netlocOf uri) = true := by
  unfold urlSplit netlocOf
  dsimp only
  split <;> simp [*]

/-! ## Paths -/

/-- `PurePosixPath`: its root, which is empty for a relative path, and its parts. -/
structure PurePath where
  root : List Char
  parts : List (List Char)
  deriving DecidableEq, Repr

/-- The root of a path: two slashes at the start are kept, more are one. -/
def rootOf : List Char → List Char
  | '/' :: '/' :: '/' :: _ => ['/']
  | '/' :: '/' :: _ => ['/', '/']
  | '/' :: _ => ['/']
  | _ => []

/-- A text that is a part of a path. -/
def isPart (part : List Char) : Bool := part ≠ [] && part ≠ ['.']

/-- `PurePosixPath(text)`. -/
def readPath (text : List Char) : PurePath :=
  ⟨rootOf text, (text.splitOn '/').filter isPart⟩

/-- The text of an absolute path. -/
def PurePath.text (path : PurePath) : List Char := path.root ++ ['/'].intercalate path.parts

/-- `Path.as_uri`, of an absolute path. -/
def asUri (path : PurePath) : List Char :=
  ['f', 'i', 'l', 'e', ':', '/', '/'] ++ quote (textBytes path.text)

/-- A text that a directory can have as the name of an entry. -/
structure Named (name : List Char) : Prop where
  whole : isPart name = true
  slashless : '/' ∉ name

/-- An absolute path of names. -/
structure PurePath.Plain (path : PurePath) : Prop where
  root : path.root = ['/']
  named : ∀ part ∈ path.parts, Named part

/-- **The text of a path is read back.** -/
theorem readPath_text {path : PurePath} (plain : path.Plain) : readPath path.text = path := by
  obtain ⟨root, parts⟩ := path
  obtain ⟨rfl, named⟩ := plain
  cases parts with
  | nil => rfl
  | cons first rest =>
      have kept : isPart first = true := (named first List.mem_cons_self).whole
      have text : PurePath.text ⟨['/'], first :: rest⟩ =
          ['/'].intercalate ([] :: first :: rest) := by
        simp [PurePath.text, List.intercalate]
      have slashless : ∀ part ∈ ([] : List Char) :: first :: rest, '/' ∉ part := by
        intro part member
        rcases List.mem_cons.mp member with rfl | inside
        · exact List.not_mem_nil
        · exact (named part inside).slashless
      have parts : ((PurePath.text ⟨['/'], first :: rest⟩).splitOn '/').filter isPart =
          first :: rest := by
        rw [text, List.splitOn_intercalate '/' slashless (List.cons_ne_nil _ _),
          List.filter_cons_of_neg (by decide), List.filter_eq_self]
        exact fun part member => (named part member).whole
      have root : rootOf (PurePath.text ⟨['/'], first :: rest⟩) = ['/'] := by
        cases first with
        | nil => cases kept
        | cons c first =>
            have other : c ≠ '/' := by
              rintro rfl
              exact (named _ List.mem_cons_self).slashless List.mem_cons_self
            have opens : ∃ more, PurePath.text ⟨['/'], (c :: first) :: rest⟩ = '/' :: c :: more := by
              cases rest with
              | nil => exact ⟨first, by simp [PurePath.text, List.intercalate]⟩
              | cons second rest =>
                  exact ⟨_, by simp [PurePath.text, List.intercalate]; rfl⟩
            obtain ⟨more, opened⟩ := opens
            rw [opened]
            unfold rootOf
            split <;> simp_all
      rw [readPath, parts, root]

theorem cutAt_of_not_mem {mark : Char} {text : List Char} (absent : mark ∉ text) :
    cutAt mark text = (text, []) := by
  have all : ∀ c ∈ text, decide (c ≠ mark) = true := by
    intro c member
    exact decide_eq_true fun same => absent (same ▸ member)
  rw [cutAt, List.takeWhile_eq_self_iff.mpr all, List.dropWhile_eq_nil_iff.mpr all, List.drop_nil]

/-- A quoted absolute path starts with a slash. -/
theorem quote_text {path : PurePath} (root : path.root = ['/']) :
    ∃ more, quote (textBytes path.text) = '/' :: more := by
  have slash : String.utf8EncodeChar '/' = [47] := by decide
  refine ⟨quote (textBytes (['/'].intercalate path.parts)), ?_⟩
  rw [PurePath.text, root, List.singleton_append, textBytes, List.flatMap_cons, slash]
  rfl

/-- **A URI of a path is taken apart into the quoted path.** -/
theorem urlSplit_asUri (rules : UriRules) {path : PurePath} (root : path.root = ['/']) :
    urlSplit rules (asUri path) =
      some ⟨['f', 'i', 'l', 'e'], [], quote (textBytes path.text), [], []⟩ := by
  have plain : ∀ mark, isKept mark = false → mark ≠ '%' → mark ∉ quote (textBytes path.text) := by
    intro mark other notPercent member
    rcases (mem_quote member).2 with percent | kept
    · exact notPercent percent
    · rw [other] at kept
      cases kept
  obtain ⟨more, quoted⟩ := quote_text root
  have letters : ∀ c ∈ ['f', 'i', 'l', 'e', ':', '/', '/'],
      (c ≠ '\t' && c ≠ '\r' && c ≠ '\n') = true :=
    List.all_eq_true.mp (by decide)
  have stripped : stripUri (asUri path) = asUri path := by
    rw [stripUri, asUri, List.cons_append, List.dropWhile_cons_of_neg (by decide),
      ← List.cons_append, List.filter_eq_self]
    intro c member
    rcases List.mem_append.mp member with opening | inside
    · exact letters c opening
    · have tab : c ≠ '\t' := fun same => plain '\t' (by decide) (by decide) (same ▸ inside)
      have line : c ≠ '\n' := fun same => plain '\n' (by decide) (by decide) (same ▸ inside)
      have back : c ≠ '\r' := fun same => plain '\r' (by decide) (by decide) (same ▸ inside)
      simp [tab, line, back]
  have scheme : splitScheme (asUri path) =
      (['f', 'i', 'l', 'e'], '/' :: '/' :: quote (textBytes path.text)) := by
    rw [asUri]
    rfl
  have netloc : splitNetloc ('/' :: '/' :: quote (textBytes path.text)) =
      ([], quote (textBytes path.text)) := by
    rw [quoted]
    rfl
  have fragment := cutAt_of_not_mem (plain '#' (by decide) (by decide))
  have query := cutAt_of_not_mem (plain '?' (by decide) (by decide))
  simp only [urlSplit, stripped, scheme, netloc, fragment, query]
  rfl

end Foundation
