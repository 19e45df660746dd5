import SignedGateway.Text.Decimal
import SignedGateway.Text.Split
import SignedGateway.Uri.Percent

namespace SignedGateway
namespace Wire

/-!
# Addresses as a client sends them

A client that is given the text of a web address does not send the text as it
stands.  It drops user information and the fragment, writes the host in lower
case and without the number that the scheme implies, escapes what may not travel
as it is, and resolves the segments `.` and `..`, also where their dots are
escaped.  Two texts with one address reach the same place.
-/

/-- A web address in its normal form; the path is the list of its segments. -/
structure Address where
  scheme : String
  host : String
  portNumber : Option Nat
  segments : List String
  query : Option String
  deriving DecidableEq, Repr

/-- A segment that stands for the place where it is. -/
def isDot (segment : String) : Bool :=
  ["." , "%2e"].contains (Text.lower segment)

/-- A segment that stands for the place above. -/
def isDoubleDot (segment : String) : Bool :=
  ["..", ".%2e", "%2e.", "%2e%2e"].contains (Text.lower segment)

/-- The segments with those of dots resolved.  `passed` holds what stands before,
backwards; dots at the very end leave an empty segment. -/
def resolveFrom (passed : List String) : List String → List String
  | [] => passed.reverse
  | [last] =>
      if isDoubleDot last then ("" :: passed.drop 1).reverse
      else if isDot last then ("" :: passed).reverse
      else (last :: passed).reverse
  | segment :: next :: rest =>
      if isDoubleDot segment then resolveFrom (passed.drop 1) (next :: rest)
      else if isDot segment then resolveFrom passed (next :: rest)
      else resolveFrom (segment :: passed) (next :: rest)

def resolve (segments : List String) : List String :=
  resolveFrom [] segments

/-- Bytes that travel in a path as they are. -/
def isPathByte (byte : UInt8) : Bool :=
  0x21 ≤ byte && byte ≤ 0x7E && ! [0x22, 0x23, 0x3C, 0x3E, 0x3F, 0x60, 0x7B, 0x7D].contains byte

/-- Bytes that travel in a query as they are. -/
def isQueryByte (byte : UInt8) : Bool :=
  0x21 ≤ byte && byte ≤ 0x7E && ! [0x22, 0x23, 0x27, 0x3C, 0x3E].contains byte

/-- Characters that no host may hold. -/
def isHostChar (c : Char) : Bool :=
  Text.isAsciiAlphanumeric c || "!$&'()*+,-.;=_~".toList.contains c

/-- The number that a scheme implies. -/
def impliedNumber (scheme : String) : Nat :=
  if scheme = "https" then 443 else 80

/-- The host and the number after it. -/
def parseHost (scheme text : String) : Option (String × Option Nat) := do
  let (name, number) ←
    match Text.splitOnce ':' text with
    | none => pure (text, none)
    | some (name, "") => pure (name, none)
    | some (name, digits) => do
        let number ← (Text.readNumeral 10 UInt16.size digits.toList).toOption
        pure (name, if number = impliedNumber scheme then none else some number)
  let host := Text.lower (Uri.Percent.decode name)
  if host ≠ "" ∧ host.toList.all isHostChar then some (host, number) else none

/-- The text after the last occurrence of a mark, or all of it. -/
def afterLastMark (mark : Char) (text : String) : String :=
  ((Text.splitOn mark text).getLast?).getD text

/-- Characters that are skipped at both ends of an address. -/
def isEdge (c : Char) : Bool :=
  c.toNat ≤ 0x20

/-- The text without its edges and without line breaks and tabs. -/
def tidy (text : String) : List Char :=
  (Text.trimBoth isEdge text.toList).filter fun c => c != '\t' && c != '\n' && c != '\r'

/-- The address behind a scheme.  A backslash counts as a slash up to the query. -/
def parseAfterScheme (scheme : String) (text : List Char) : Option Address := do
  let withoutFragment := text.takeWhile (· != '#')
  let beforeQuery := (withoutFragment.takeWhile (· != '?')).map fun c => if c = '\\' then '/' else c
  let query :=
    match withoutFragment.dropWhile (· != '?') with
    | _ :: rest => some (Uri.Percent.encodeWith isQueryByte (String.ofList rest))
    | [] => none
  let place := beforeQuery.dropWhile (· == '/')
  let (host, number) ←
    parseHost scheme (afterLastMark '@' (String.ofList (place.takeWhile (· != '/'))))
  let path := String.ofList ((place.dropWhile (· != '/')).drop 1)
  return {
    scheme := scheme
    host := host
    portNumber := number
    segments :=
      resolve ((Text.splitOn '/' path).map fun segment => Uri.Percent.encodeWith isPathByte segment)
    query := query }

/-- The address that a client sends to when it is given a text, if it is one of the
web. -/
def parse? (text : String) : Option Address :=
  let cs := tidy text
  let scheme := Text.lower (String.ofList (cs.takeWhile (· != ':')))
  if scheme = "http" ∨ scheme = "https" then
    parseAfterScheme scheme ((cs.dropWhile (· != ':')).drop 1)
  else none

namespace Address

/-- The path with a slash before every segment. -/
def path (address : Address) : String :=
  "/" ++ Text.joinWith "/" address.segments

def render (address : Address) : String :=
  address.scheme ++ "://" ++ address.host ++
    (match address.portNumber with
      | some number => ":" ++ Text.decimal number
      | none => "") ++
    address.path ++
    (match address.query with
      | some query => "?" ++ query
      | none => "")

end Address
end Wire
end SignedGateway
