import SignedGateway.Json.Number
import SignedGateway.Text.Split

namespace SignedGateway

/-!
# Documents

A document is a tree of objects, arrays and plain values.  An object holds each
name once and keeps its names in order; that is the form in which documents are
compared and written.
-/

inductive Json where
  | null
  | bool (value : Bool)
  | number (value : Json.Number)
  | text (value : String)
  | array (items : List Json)
  | object (fields : List (String × Json))
  deriving Repr

namespace Json

instance : Inhabited Json := ⟨.null⟩

/-- Store a field under its name, in the order of names; a field of the same name
is replaced. -/
def insertField (name : String) (value : Json) : List (String × Json) → List (String × Json)
  | [] => [(name, value)]
  | (other, held) :: rest =>
      if name < other then (name, value) :: (other, held) :: rest
      else if name = other then (name, value) :: rest
      else (other, held) :: insertField name value rest

/-- The object with the given fields; of two fields with one name the later wins. -/
def ofFields (fields : List (String × Json)) : Json :=
  .object (fields.foldl (fun held field => insertField field.1 field.2 held) [])

/-- The value of a field of an object. -/
def field? (name : String) : Json → Option Json
  | .object fields => fields.lookup name
  | _ => none

def ofOption (value : Option Json) : Json :=
  value.getD .null

def ofStrings (values : List String) : Json :=
  .array (values.map .text)

/-- An array of arrays of two texts. -/
def ofPairs (pairs : List (String × String)) : Json :=
  .array (pairs.map fun pair => ofStrings [pair.1, pair.2])

def ofNat (value : Nat) : Json :=
  .number (.integer value)

/-- A character within quotation marks. -/
def escapeChar (c : Char) : List Char :=
  if c = '"' then ['\\', '"']
  else if c = '\\' then ['\\', '\\']
  else if c = '\n' then ['\\', 'n']
  else if c = '\r' then ['\\', 'r']
  else if c = '\t' then ['\\', 't']
  else if c.toNat = 8 then ['\\', 'b']
  else if c.toNat = 12 then ['\\', 'f']
  else if c.toNat < 32 then
    ['\\', 'u', '0', '0', Text.hexDigitLower (c.toNat / 16), Text.hexDigitLower (c.toNat % 16)]
  else [c]

/-- A text within quotation marks. -/
def quote (text : String) : String :=
  String.ofList ('"' :: text.toList.flatMap escapeChar ++ ['"'])

/-- The document without blanks. -/
def render : Json → String
  | .null => "null"
  | .bool true => "true"
  | .bool false => "false"
  | .number value => value.render
  | .text value => quote value
  | .array items => "[" ++ Text.joinWith "," (renderItems items) ++ "]"
  | .object fields => "\x7b" ++ Text.joinWith "," (renderFields fields) ++ "\x7d"
where
  renderItems : List Json → List String
    | [] => []
    | item :: rest => render item :: renderItems rest
  renderFields : List (String × Json) → List String
    | [] => []
    | (name, value) :: rest => (quote name ++ ":" ++ render value) :: renderFields rest

/-- An object whose fields are texts, in the order given. -/
def renderPairs (pairs : List (String × String)) : String :=
  "\x7b" ++ Text.joinWith "," (pairs.map fun pair => quote pair.1 ++ ":" ++ quote pair.2) ++ "\x7d"

end Json
end SignedGateway
