import SignedGateway.MultiMap
import SignedGateway.Text.Utf8
import SignedGateway.Uri.Basic

namespace SignedGateway
namespace Http

/-!
# Messages on the wire

Header fields keep their order: names in lower case where they were first added,
the values of one name together.  Values are bytes.  A message is built only from
names that are tokens and from values without control characters.
-/

/-- Header fields in order. -/
abbrev Fields := List (String × List (List UInt8))

/-- Characters of a token: header names and methods are made of them. -/
def isTokenChar (c : Char) : Bool :=
  Text.isAsciiAlphanumeric c || "!#$%&'*+-.^_`|~".toList.contains c

def isToken (text : String) : Bool :=
  text != "" && text.toList.all isTokenChar

/-- A header name: a token of limited length. -/
def isFieldName (text : String) : Bool :=
  isToken text && text.toList.length ≤ 65535

/-- Bytes of a header value: printable ones, the tab, and all beyond ASCII. -/
def isFieldByte (byte : UInt8) : Bool :=
  (32 ≤ byte && byte != 127) || byte == 9

def isFieldValue (value : List UInt8) : Bool :=
  value.all isFieldByte

namespace Fields

/-- Change the values of a name in its place, or store `fresh` at the end. -/
def upsert (name : String) (change : List (List UInt8) → List (List UInt8))
    (fresh : List (List UInt8)) : Fields → Fields
  | [] => [(name, fresh)]
  | (other, values) :: rest =>
      if other = name then (other, change values) :: rest
      else (other, values) :: upsert name change fresh rest

/-- One more value of a name. -/
def append (fields : Fields) (name : String) (value : List UInt8) : Fields :=
  upsert (Text.lower name) (· ++ [value]) [value] fields

/-- The only value of a name from now on. -/
def insert (fields : Fields) (name : String) (value : List UInt8) : Fields :=
  upsert (Text.lower name) (fun _ => [value]) [value] fields

def get (fields : Fields) (name : String) : List (List UInt8) :=
  (fields.lookup (Text.lower name)).getD []

/-- One pair for every value. -/
def pairs (fields : Fields) : List (String × List UInt8) :=
  fields.flatMap fun field => field.2.map fun value => (field.1, value)

end Fields

structure Request where
  method : String
  uri : Uri
  headers : Fields
  body : List UInt8
  deriving DecidableEq, Repr

structure Response where
  status : Nat
  headers : Fields
  body : List UInt8
  deriving DecidableEq, Repr

/-- Header fields from pairs, if all names and values may stand in a message. -/
def fieldsOfPairs : List (String × List UInt8) → Option Fields
  | pairs =>
      if pairs.all fun pair => isFieldName pair.1 && isFieldValue pair.2 then
        some (pairs.foldl (fun fields pair => Fields.append fields pair.1 pair.2) [])
      else none

/-- A request, if its parts may stand in a message. -/
def Request.make? (method uri : String) (headers : List (String × List UInt8)) (body : List UInt8) :
    Option Request := do
  let target ← (Uri.parse uri).toOption
  let fields ← fieldsOfPairs headers
  if isToken method then some ⟨method, target, fields, body⟩ else none

end Http
end SignedGateway
