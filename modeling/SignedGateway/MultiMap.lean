import SignedGateway.Text.Ascii

namespace SignedGateway

/-!
# Ordered maps from a key to several values

Request headers and query parameters both hold several values per key, and both
remember order: keys stand where they were first inserted, values in the order
in which they came.  They differ in how keys are compared.  Query keys are taken
exactly; header names lose the case of their ASCII letters on the way in and on
every lookup.  A map makes the choice once.
-/

structure MultiMap where
  caseSensitive : Bool
  entries : List (String × List String)
  deriving DecidableEq, Repr

namespace MultiMap

/-- The map without keys. -/
def empty (caseSensitive : Bool) : MultiMap :=
  ⟨caseSensitive, []⟩

instance : Inhabited MultiMap := ⟨empty true⟩

/-- The form under which a key is stored and looked up. -/
def normalize (caseSensitive : Bool) (key : String) : String :=
  if caseSensitive then key else Text.lower key

/-- Change the values of a stored key in its place, or store `fresh` at the end. -/
def upsert (key : String) (change : List String → List String) (fresh : List String) :
    List (String × List String) → List (String × List String)
  | [] => [(key, fresh)]
  | (name, values) :: rest =>
      if name = key then (name, change values) :: rest
      else (name, values) :: upsert key change fresh rest

/-- The entries without the one under `key`. -/
def erase (key : String) : List (String × List String) → List (String × List String)
  | [] => []
  | (name, values) :: rest =>
      if name = key then rest else (name, values) :: erase key rest

/-- Append several values under one key.  The key is stored even when there is
no value to append. -/
def addAll (map : MultiMap) (key : String) (values : List String) : MultiMap :=
  { map with
    entries := upsert (normalize map.caseSensitive key) (· ++ values) values map.entries }

def add (map : MultiMap) (key value : String) : MultiMap :=
  map.addAll key [value]

/-- Make `value` the only value under `key`, in the place the key already has. -/
def put (map : MultiMap) (key value : String) : MultiMap :=
  { map with
    entries := upsert (normalize map.caseSensitive key) (fun _ => [value]) [value] map.entries }

def remove (map : MultiMap) (key : String) : MultiMap :=
  { map with entries := erase (normalize map.caseSensitive key) map.entries }

/-- The map that results from adding the pairs in turn. -/
def ofPairs (caseSensitive : Bool) (pairs : List (String × String)) : MultiMap :=
  pairs.foldl (fun map pair => map.add pair.1 pair.2) (empty caseSensitive)

def find? (map : MultiMap) (key : String) : Option (List String) :=
  map.entries.lookup (normalize map.caseSensitive key)

/-- All values under a key, none when it is absent. -/
def get (map : MultiMap) (key : String) : List String :=
  (map.find? key).getD []

def getFirst? (map : MultiMap) (key : String) : Option String :=
  (map.get key).head?

def contains (map : MultiMap) (key : String) : Bool :=
  (map.find? key).isSome

def keys (map : MultiMap) : List String :=
  map.entries.map Prod.fst

/-- One pair for every stored value. -/
def pairs (map : MultiMap) : List (String × String) :=
  map.entries.flatMap fun entry => entry.2.map fun value => (entry.1, value)

def size (map : MultiMap) : Nat :=
  map.entries.length

/-- Two maps agree when they compare keys alike and store the same values under
the same keys; the order of the keys plays no part. -/
def agrees (left right : MultiMap) : Bool :=
  left.caseSensitive == right.caseSensitive &&
    left.entries.length == right.entries.length &&
    left.entries.all fun entry => right.entries.lookup entry.1 == some entry.2

@[simp]
theorem addAll_caseSensitive (map : MultiMap) (key : String) (values : List String) :
    (map.addAll key values).caseSensitive = map.caseSensitive := rfl

@[simp]
theorem put_caseSensitive (map : MultiMap) (key value : String) :
    (map.put key value).caseSensitive = map.caseSensitive := rfl

@[simp]
theorem remove_caseSensitive (map : MultiMap) (key : String) :
    (map.remove key).caseSensitive = map.caseSensitive := rfl

end MultiMap
end SignedGateway
