import SignedGateway.Json.Tree

namespace SignedGateway
namespace Json

/-!
# Reading records

A record is written as an object, whose names may come in any order and may be
joined by unknown ones, or as an array of its fields in their fixed order.  In an
object a known name must not come twice.  A field that may be missing in an
object must still be present in an array unless it has a default.
-/

/-- What a value is read with. -/
abbrev Reader (α : Type) := Tree → Except ReadError α

/-- The fields of a record by name; `positional` says that it came as an array. -/
structure Record where
  positional : Bool
  fields : List (String × Tree)
  deriving Repr

namespace Record

/-- Refuse an object in which one of the names comes twice. -/
def noDuplicates : List String → List (String × Tree) → Except ReadError Unit
  | [], _ => .ok ()
  | name :: names, fields =>
      if 1 < (fields.filter fun field => field.1 == name).length then .error (.duplicateField name)
      else noDuplicates names fields

/-- The record with the given field names, in the order in which an array holds
them. -/
def ofTree (names : List String) : Reader Record
  | .object fields => do
      noDuplicates names fields
      return ⟨false, fields⟩
  | .array items =>
      if names.length < items.length then .error .wrongLength
      else .ok ⟨true, names.zip items⟩
  | .unusable => .error .unusableValue
  | _ => .error (.wrongType "a record")

/-- A field that must be present. -/
def required {α : Type} (record : Record) (name : String) (reader : Reader α) :
    Except ReadError α :=
  match record.fields.lookup name with
  | some value => reader value
  | none => .error (.missingField name)

/-- A field with a default. -/
def withDefault {α : Type} (record : Record) (name : String) (reader : Reader α) (default : α) :
    Except ReadError α :=
  match record.fields.lookup name with
  | some value => reader value
  | none => .ok default

/-- A value or `null`. -/
def nullable {α : Type} (reader : Reader α) : Reader (Option α)
  | .null => .ok none
  | value => do return some (← reader value)

/-- A field that may be missing everywhere, or `null`. -/
def optional {α : Type} (record : Record) (name : String) (reader : Reader α) :
    Except ReadError (Option α) :=
  record.withDefault name (nullable reader) none

/-- A field that may be missing in an object but not in an array, or `null`. -/
def optionalNamed {α : Type} (record : Record) (name : String) (reader : Reader α) :
    Except ReadError (Option α) :=
  if record.positional then record.required name (nullable reader)
  else record.optional name reader

end Record

namespace Reader

def text : Reader String
  | .text value => .ok value
  | .unusable => .error .unusableValue
  | _ => .error (.wrongType "a string")

def bool : Reader Bool
  | .bool value => .ok value
  | .unusable => .error .unusableValue
  | _ => .error (.wrongType "a boolean")

/-- A whole number below a limit. -/
def natBelow (limit : Nat) : Reader Nat
  | .number value =>
      match value.toNat? with
      | some whole => if whole < limit then .ok whole else .error (.wrongType "a smaller number")
      | none => .error (.wrongType "a whole number")
  | .unusable => .error .unusableValue
  | _ => .error (.wrongType "a number")

/-- A number of sixty-four bits. -/
def word : Reader Nat := natBelow UInt64.size

def listFrom {α : Type} (reader : Reader α) : List Tree → Except ReadError (List α)
  | [] => .ok []
  | item :: rest => do return (← reader item) :: (← listFrom reader rest)

/-- An array of values of one kind. -/
def list {α : Type} (reader : Reader α) : Reader (List α)
  | .array items => listFrom reader items
  | .unusable => .error .unusableValue
  | _ => .error (.wrongType "an array")

/-- An array of exactly two texts. -/
def pair : Reader (String × String)
  | .array [first, second] => do return (← text first, ← text second)
  | .array _ => .error .wrongLength
  | .unusable => .error .unusableValue
  | _ => .error (.wrongType "a pair")

/-- One of several words, alone or as the name of the only field of an object
that holds `null`. -/
def oneOf {α : Type} (words : List (String × α)) : Reader α
  | .text name =>
      match words.lookup name with
      | some value => .ok value
      | none => .error (.unknownVariant name)
  | .object [(name, .null)] =>
      match words.lookup name with
      | some value => .ok value
      | none => .error (.unknownVariant name)
  | .unusable => .error .unusableValue
  | _ => .error (.wrongType "a variant")

end Reader
end Json
end SignedGateway
