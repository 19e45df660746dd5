import SignedGateway.Json.Basic
import SignedGateway.Text.Utf8

namespace SignedGateway
namespace Json

/-!
# Reading documents

A text is read in two passes that each look at a character or a token once: the
first cuts it into tokens, the second builds a tree from them.  The tree keeps
what a document must not keep but a record reader has to see, namely the fields
of an object in the order written, with those of equal names.

Some well-formed texts denote nothing: half of a surrogate pair, a number beyond
all doubles, nesting beyond the limit.  They are `unusable` leaves of the tree
and a fault only where something reads them.  Documents that come as bytes may have
gaps within quotation marks where the bytes are no text, and these denote nothing
either.
-/

inductive Tree where
  | null
  | bool (value : Bool)
  | number (value : Number)
  | text (value : String)
  | array (items : List Tree)
  | object (fields : List (String × Tree))
  | unusable
  deriving Repr

instance : Inhabited Tree := ⟨.null⟩

/-- Why a text is no document of the form asked for. -/
inductive ReadError where
  | unexpectedCharacter
  | controlCharacter
  | invalidEscape
  | invalidNumber
  | unknownWord
  | unexpectedToken
  | endOfText
  | trailingText
  | unusableValue
  | wrongType (expected : String)
  | missingField (name : String)
  | duplicateField (name : String)
  | wrongLength
  | unknownVariant (name : String)
  deriving DecidableEq, Repr

def ReadError.message : ReadError → String
  | .unexpectedCharacter => "expected value"
  | .controlCharacter => "control character found while parsing a string"
  | .invalidEscape => "invalid escape"
  | .invalidNumber => "invalid number"
  | .unknownWord => "expected ident"
  | .unexpectedToken => "unexpected token"
  | .endOfText => "unexpected end of text"
  | .trailingText => "trailing characters"
  | .unusableValue => "value out of range"
  | .wrongType expected => "expected " ++ expected
  | .missingField name => "missing field " ++ name
  | .duplicateField name => "duplicate field " ++ name
  | .wrongLength => "invalid length"
  | .unknownVariant name => "unknown variant " ++ name

inductive Token where
  | openArray
  | closeArray
  | openObject
  | closeObject
  | comma
  | colon
  | leaf (value : Tree)
  /-- A text, or one that denotes nothing. -/
  | text (value : Option String)
  deriving Repr

/-! ## Tokens -/

/-- A text within quotation marks as far as it has been read, backwards.  `high`
is the first half of a surrogate pair that waits for its second half. -/
structure TextScan where
  read : List Char
  sound : Bool
  high : Option Nat
  deriving DecidableEq, Repr

namespace TextScan

def start : TextScan := ⟨[], true, none⟩

/-- A character; a half pair that waits stays alone. -/
def push (scan : TextScan) (c : Char) : TextScan :=
  ⟨c :: scan.read, scan.sound && scan.high.isNone, none⟩

/-- A code unit given by its number. -/
def pushUnit (scan : TextScan) (code : Nat) : TextScan :=
  let isLow := 0xDC00 ≤ code ∧ code ≤ 0xDFFF
  match scan.high with
  | some high =>
      if isLow then
        ⟨Char.ofNat ((high - 0xD800) * 1024 + (code - 0xDC00) + 0x10000) :: scan.read, scan.sound,
          none⟩
      else ⟨scan.read, false, none⟩
  | none =>
      if isLow then ⟨scan.read, false, none⟩
      else if 0xD800 ≤ code ∧ code ≤ 0xDBFF then ⟨scan.read, scan.sound, some code⟩
      else ⟨Char.ofNat code :: scan.read, scan.sound, none⟩

/-- Something that denotes nothing. -/
def spoil (scan : TextScan) : TextScan :=
  { scan with sound := false }

def finish (scan : TextScan) : Option String :=
  if scan.sound && scan.high.isNone then some (String.ofList scan.read.reverse) else none

end TextScan

/-- Where the reader of tokens stands. -/
inductive Scan where
  | idle
  | word (read : List Char)
  | number (read : List Char)
  | text (scan : TextScan)
  | escape (scan : TextScan)
  | unit (scan : TextScan) (owed value : Nat)
  deriving DecidableEq, Repr

def isNumberChar (c : Char) : Bool :=
  c.isDigit || c == '-' || c == '+' || c == '.' || c == 'e' || c == 'E'

def isWordChar (c : Char) : Bool :=
  'a' ≤ c && c ≤ 'z'

/-- The value of a word, read backwards. -/
def wordToken (read : List Char) : Except ReadError Token :=
  match String.ofList read.reverse with
  | "null" => .ok (.leaf .null)
  | "true" => .ok (.leaf (.bool true))
  | "false" => .ok (.leaf (.bool false))
  | _ => .error .unknownWord

/-- The value of a numeral, read backwards. -/
def numberToken (read : List Char) : Except ReadError Token :=
  match Number.parts? read.reverse with
  | none => .error .invalidNumber
  | some parts =>
      match Number.ofParts parts with
      | some value => .ok (.leaf (.number value))
      | none => .ok (.leaf .unusable)

/-- A character outside words, numbers and texts. -/
def startToken (c : Char) : Except ReadError (Scan × List Token) :=
  if c = ' ' ∨ c = '\n' ∨ c = '\t' ∨ c = '\r' then .ok (.idle, [])
  else if c = '[' then .ok (.idle, [.openArray])
  else if c = ']' then .ok (.idle, [.closeArray])
  else if c.toNat = 0x7B then .ok (.idle, [.openObject])
  else if c.toNat = 0x7D then .ok (.idle, [.closeObject])
  else if c = ',' then .ok (.idle, [.comma])
  else if c = ':' then .ok (.idle, [.colon])
  else if c = '"' then .ok (.text .start, [])
  else if c.isDigit || c == '-' then .ok (.number [c], [])
  else if isWordChar c then .ok (.word [c], [])
  else .error .unexpectedCharacter

/-- The character that a one-letter escape stands for. -/
def unescapeChar (c : Char) : Option Char :=
  if c = '"' then some '"'
  else if c = '\\' then some '\\'
  else if c = '/' then some '/'
  else if c = 'b' then some (Char.ofNat 8)
  else if c = 'f' then some (Char.ofNat 12)
  else if c = 'n' then some '\n'
  else if c = 'r' then some '\r'
  else if c = 't' then some '\t'
  else none

def scanChar (scan : Scan) (c : Char) : Except ReadError (Scan × List Token) :=
  match scan with
  | .idle => startToken c
  | .word read =>
      if isWordChar c then .ok (.word (c :: read), [])
      else do
        let token ← wordToken read
        let (next, tokens) ← startToken c
        return (next, token :: tokens)
  | .number read =>
      if isNumberChar c then .ok (.number (c :: read), [])
      else do
        let token ← numberToken read
        let (next, tokens) ← startToken c
        return (next, token :: tokens)
  | .text scan =>
      if c = '"' then .ok (.idle, [.text scan.finish])
      else if c = '\\' then .ok (.escape scan, [])
      else if c.toNat < 0x20 then .error .controlCharacter
      else .ok (.text (scan.push c), [])
  | .escape scan =>
      if c = 'u' then .ok (.unit scan 4 0, [])
      else
        match unescapeChar c with
        | some meant => .ok (.text (scan.push meant), [])
        | none => .error .invalidEscape
  | .unit scan owed value =>
      match Text.hexValue c with
      | none => .error .invalidEscape
      | some digit =>
          if owed ≤ 1 then .ok (.text (scan.pushUnit (value * 16 + digit)), [])
          else .ok (.unit scan (owed - 1) (value * 16 + digit), [])

/-- A character or a gap.  A gap may stand where its replacement may, within
quotation marks, and spoils the text there. -/
def scanPiece (scan : Scan) : Option Char → Except ReadError (Scan × List Token)
  | some c => scanChar scan c
  | none => do
      let (next, tokens) ← scanChar scan Utf8.replacement
      match next with
      | .text scan => return (.text scan.spoil, tokens)
      | next => return (next, tokens)

/-- The tokens of characters with gaps. -/
def tokensOf : Scan → List (Option Char) → Except ReadError (List Token)
  | .idle, [] => .ok []
  | .word read, [] => do return [← wordToken read]
  | .number read, [] => do return [← numberToken read]
  | .text _, [] => .error .endOfText
  | .escape _, [] => .error .endOfText
  | .unit .., [] => .error .endOfText
  | scan, piece :: rest => do
      let (next, tokens) ← scanPiece scan piece
      return tokens ++ (← tokensOf next rest)

/-- The tokens of a text. -/
def tokensFrom (scan : Scan) (cs : List Char) : Except ReadError (List Token) :=
  tokensOf scan (cs.map some)

/-! ## Trees -/

/-- An array or object that is still open, its parts backwards.  An object that
must not be used, because of a name that denotes nothing or because it stands too
deep, is marked. -/
inductive Frame where
  | array (items : List Tree) (usable : Bool)
  | object (fields : List (String × Tree)) (name : String) (usable : Bool)
  deriving Repr

/-- What may come next. -/
inductive Expect where
  | value
  | valueOrClose
  | nameOrClose
  | name
  | colon
  | commaOrClose
  | nothing
  deriving DecidableEq, Repr

structure Builder where
  frames : List Frame
  expect : Expect
  result : Tree
  deriving Repr

namespace Builder

def start : Builder := ⟨[], .value, .null⟩

/-- How many arrays and objects may stand within each other. -/
def maxDepth : Nat := 127

/-- A finished value takes its place in the innermost open frame. -/
def place (frames : List Frame) (value : Tree) : Builder :=
  match frames with
  | [] => ⟨[], .nothing, value⟩
  | .array items usable :: outer => ⟨.array (value :: items) usable :: outer, .commaOrClose, .null⟩
  | .object fields name usable :: outer =>
      ⟨.object ((name, value) :: fields) name usable :: outer, .commaOrClose, .null⟩

def finishFrame : Frame → Tree
  | .array items true => .array items.reverse
  | .object fields _ true => .object fields.reverse
  | .array _ false => .unusable
  | .object _ _ false => .unusable

def awaitsValue (expect : Expect) : Bool :=
  expect == .value || expect == .valueOrClose

/-- The name of a field in the innermost object. -/
def takeName (builder : Builder) (name : Option String) : Except ReadError Builder :=
  match builder.frames, name with
  | .object fields _ usable :: outer, some name =>
      .ok { builder with frames := .object fields name usable :: outer, expect := .colon }
  | .object fields name _ :: outer, none =>
      .ok { builder with frames := .object fields name false :: outer, expect := .colon }
  | _, _ => .error .unexpectedToken

def step (builder : Builder) (token : Token) : Except ReadError Builder :=
  match token with
  | .leaf value =>
      if awaitsValue builder.expect then .ok (place builder.frames value)
      else if builder.expect = .nothing then .error .trailingText
      else .error .unexpectedToken
  | .text value =>
      if awaitsValue builder.expect then
        .ok (place builder.frames (value.elim .unusable .text))
      else if builder.expect = .name ∨ builder.expect = .nameOrClose then takeName builder value
      else if builder.expect = .nothing then .error .trailingText
      else .error .unexpectedToken
  | .openArray =>
      if awaitsValue builder.expect then
        .ok ⟨.array [] (builder.frames.length < maxDepth) :: builder.frames, .valueOrClose, .null⟩
      else .error .unexpectedToken
  | .openObject =>
      if awaitsValue builder.expect then
        .ok ⟨.object [] "" (builder.frames.length < maxDepth) :: builder.frames, .nameOrClose,
          .null⟩
      else .error .unexpectedToken
  | .closeArray =>
      match builder.frames with
      | .array items usable :: outer =>
          if builder.expect = .valueOrClose ∨ builder.expect = .commaOrClose then
            .ok (place outer (finishFrame (.array items usable)))
          else .error .unexpectedToken
      | _ => .error .unexpectedToken
  | .closeObject =>
      match builder.frames with
      | .object fields name usable :: outer =>
          if builder.expect = .nameOrClose ∨ builder.expect = .commaOrClose then
            .ok (place outer (finishFrame (.object fields name usable)))
          else .error .unexpectedToken
      | _ => .error .unexpectedToken
  | .comma =>
      if builder.expect = .commaOrClose then
        match builder.frames with
        | .array .. :: _ => .ok { builder with expect := .value }
        | .object .. :: _ => .ok { builder with expect := .name }
        | [] => .error .unexpectedToken
      else .error .unexpectedToken
  | .colon =>
      if builder.expect = .colon then .ok { builder with expect := .value }
      else .error .unexpectedToken

def run : Builder → List Token → Except ReadError Builder
  | builder, [] => .ok builder
  | builder, token :: rest => do run (← builder.step token) rest

end Builder

namespace Tree

/-- The tree of the tokens of one document. -/
def ofTokens (tokens : List Token) : Except ReadError Tree := do
  let builder ← Builder.start.run tokens
  if builder.expect = .nothing then return builder.result else throw .endOfText

/-- The tree of a text that holds one document. -/
def parse (text : String) : Except ReadError Tree :=
  tokensFrom .idle text.toList >>= ofTokens

/-- The tree of bytes that hold one document. -/
def parseBytes (bytes : List UInt8) : Except ReadError Tree :=
  tokensOf .idle (Utf8.pieces bytes) >>= ofTokens

/-- The document that a tree denotes.  Of fields with one name the last counts. -/
def toJson? : Tree → Option Json
  | .null => some .null
  | .bool value => some (.bool value)
  | .number value => some (.number value)
  | .text value => some (.text value)
  | .array items => (itemsToJson? items).map .array
  | .object fields => (fieldsToJson? fields).map ofFields
  | .unusable => none
where
  itemsToJson? : List Tree → Option (List Json)
    | [] => some []
    | item :: rest => do return (← toJson? item) :: (← itemsToJson? rest)
  fieldsToJson? : List (String × Tree) → Option (List (String × Json))
    | [] => some []
    | (name, value) :: rest => do return (name, ← toJson? value) :: (← fieldsToJson? rest)

/-- The tree of a document that is already at hand. -/
def ofJson : Json → Tree
  | .null => .null
  | .bool value => .bool value
  | .number value => .number value
  | .text value => .text value
  | .array items => .array (ofItems items)
  | .object fields => .object (ofFields fields)
where
  ofItems : List Json → List Tree
    | [] => []
    | item :: rest => ofJson item :: ofItems rest
  ofFields : List (String × Json) → List (String × Tree)
    | [] => []
    | (name, value) :: rest => (name, ofJson value) :: ofFields rest

end Tree

/-- Read a document. -/
def parse (text : String) : Except ReadError Json := do
  match (← Tree.parse text).toJson? with
  | some value => return value
  | none => throw .unusableValue

end Json
end SignedGateway
