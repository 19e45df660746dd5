import SignedGateway.Text.Ascii
import SignedGateway.Text.Decimal
import SignedGateway.Text.Split

namespace SignedGateway
namespace Uri

/-!
# Authorities

An authority is a host with an optional numeric suffix after a colon and
optional user information before an `@`.  It ends at the first `/`, `?` or `#`.
-/

/-- Why a text is no URI. -/
inductive UriError where
  | invalidCharacter
  | invalidAuthority
  | invalidFormat
  | schemeTooLong
  | tooLong
  | empty
  deriving DecidableEq, Repr

def UriError.message : UriError → String
  | .invalidCharacter => "invalid uri character"
  | .invalidAuthority => "invalid authority"
  | .invalidFormat => "invalid format"
  | .schemeTooLong => "scheme too long"
  | .tooLong => "uri too long"
  | .empty => "empty string"

/-- Characters that may stand in an authority, delimiters included; `%` is
judged apart because only user information may hold it. -/
def isAuthorityChar (c : Char) : Bool :=
  Text.isAsciiAlphanumeric c || "!#$&'()*+,-./:;=?@[]_~".toList.contains c

/-- What has been seen of an authority.  Colons and percent signs are counted
from the last `@` or `]`, since before those they belong to user information or
to a bracketed host. -/
structure AuthorityScan where
  colons : Nat
  bracketOpen : Bool
  bracketClosed : Bool
  percent : Bool
  endsInAt : Bool
  deriving DecidableEq, Repr

def AuthorityScan.start : AuthorityScan :=
  ⟨0, false, false, false, false⟩

/-- One character of an authority. -/
def AuthorityScan.next (scan : AuthorityScan) (c : Char) : Except UriError AuthorityScan :=
  if c = ':' then
    if 8 ≤ scan.colons then .error .invalidAuthority
    else .ok { scan with colons := scan.colons + 1, endsInAt := false }
  else if c = '[' then
    if scan.percent || scan.bracketOpen then .error .invalidAuthority
    else .ok { scan with bracketOpen := true, endsInAt := false }
  else if c = ']' then
    if !scan.bracketOpen || scan.bracketClosed then .error .invalidAuthority
    else .ok { scan with bracketClosed := true, colons := 0, percent := false, endsInAt := false }
  else if c = '@' then
    .ok { scan with colons := 0, percent := false, endsInAt := true }
  else if c = '%' then
    .ok { scan with percent := true, endsInAt := false }
  else if isAuthorityChar c then .ok { scan with endsInAt := false }
  else .error .invalidCharacter

/-- Whether the authority may end here. -/
def AuthorityScan.finish (scan : AuthorityScan) : Except UriError Unit :=
  if scan.bracketOpen != scan.bracketClosed then .error .invalidAuthority
  else if 1 < scan.colons then .error .invalidAuthority
  else if scan.endsInAt then .error .invalidAuthority
  else if scan.percent then .error .invalidAuthority
  else .ok ()

def endsAuthority (c : Char) : Bool :=
  c == '/' || c == '?' || c == '#'

/-- The authority at the head of the text, and the rest. -/
def scanAuthority (scan : AuthorityScan) : List Char → Except UriError (List Char × List Char)
  | [] => do
      scan.finish
      return ([], [])
  | c :: rest =>
      if endsAuthority c then do
        scan.finish
        return ([], c :: rest)
      else do
        let scanned ← scanAuthority (← scan.next c) rest
        return (c :: scanned.1, scanned.2)

/-- A host with what stands around it, kept as it was written. -/
structure Authority where
  text : String
  deriving DecidableEq, Repr

namespace Authority

/-- An authority that fills the whole text. -/
def parse (text : String) : Except UriError Authority :=
  match text.toList with
  | [] => .error .empty
  | cs =>
      match scanAuthority .start cs with
      | .error fault => .error fault
      | .ok (_, []) => .ok ⟨text⟩
      | .ok (_, _ :: _) => .error .invalidCharacter

/-- What follows the last occurrence of `mark`, if there is one. -/
def afterLast (mark : Char) (cs : List Char) : Option (List Char) :=
  match (Text.pieces mark cs).reverse with
  | last :: _ :: _ => some last
  | _ => none

/-- The host: after user information and before the first colon, brackets
included. -/
def host (authority : Authority) : String :=
  let hostAndNumber := (afterLast '@' authority.text.toList).getD authority.text.toList
  match hostAndNumber with
  | '[' :: _ =>
      match Text.cutOnce ']' hostAndNumber with
      | some (inside, _) => String.ofList (inside ++ [']'])
      | none => String.ofList hostAndNumber
  | _ => String.ofList (hostAndNumber.takeWhile (· != ':'))

/-- The number after the last colon, if it is one of sixteen bits. -/
def portNumber? (authority : Authority) : Option Nat :=
  match afterLast ':' authority.text.toList with
  | none => none
  | some digits => (Text.readNumeral 10 UInt16.size digits).toOption

end Authority
end Uri
end SignedGateway
