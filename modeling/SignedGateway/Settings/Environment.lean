import SignedGateway.Error
import SignedGateway.Text.Blank
import SignedGateway.Text.Decimal

namespace SignedGateway

/-!
# Settings from the environment

A setting is a variable with a text.  Numbers that cannot be read leave the
default in force, a switch is on for `1` and `true`, and a list of pairs is
written with commas between the pairs.
-/

/-- The variables that are set. -/
structure Environment where
  find? : String → Option String

namespace Environment

/-- The variable that holds a setting of the gateway. -/
def variableName (setting : String) : String :=
  "S3PROXY_" ++ setting

def get? (environment : Environment) (setting : String) : Option String :=
  environment.find? (variableName setting)

def text (environment : Environment) (setting default : String) : String :=
  (environment.get? setting).getD default

/-- A number of sixty-four bits. -/
def number (environment : Environment) (setting : String) (default : Nat) : Nat :=
  match environment.get? setting with
  | none => default
  | some value =>
      match Text.readWord value with
      | .ok read => read
      | .error _ => default

/-- Whether a text switches something on. -/
def isOn (value : String) : Bool :=
  value == "1" || Text.sameLetters value "true"

def switch (environment : Environment) (setting : String) (default : Bool) : Bool :=
  ((environment.get? setting).map isOn).getD default

/-- One pair of a list; a pair without a separator or without a name is none. -/
def parsePair (separator : Char) (text : String) : Option (String × String) :=
  match Text.splitOnce separator text with
  | none => none
  | some (name, value) =>
      let key := Text.trim name
      if key = "" then none else some (key, Text.trim value)

/-- The pairs of a list. -/
def parsePairs (separator : Char) (text : String) : List (String × String) :=
  (Text.splitOn ',' text).filterMap (parsePair separator)

def pairs (environment : Environment) (setting : String) (separator : Char) :
    List (String × String) :=
  ((environment.get? setting).map (parsePairs separator)).getD []

/-- A word among those known for a kind of thing, whatever its case and the blanks
around it. -/
def parseWord {α : Type} (kind : String) (words : List (String × α)) (text : String) :
    Except GatewayError α :=
  let word := Text.lower (Text.trim text)
  match words.lookup word with
  | some value => .ok value
  | none => .error (.configuration ("unknown " ++ kind ++ ": " ++ word))

def word {α : Type} (environment : Environment) (setting kind : String)
    (words : List (String × α)) (default : α) : Except GatewayError α :=
  match environment.get? setting with
  | none => .ok default
  | some value => parseWord kind words value

/-- What is said when a setting is missing that another one calls for. -/
def missing (settings : List String) (provider : String) : GatewayError :=
  .configuration
    (Text.joinWith " and " (settings.map variableName) ++
      (if settings.length = 1 then " is" else " are") ++ " required for the " ++ provider ++
      " provider")

end Environment
end SignedGateway
