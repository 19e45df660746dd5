import SignedGateway.Text.Utf8
import SignedGateway.Uri.Authority

namespace SignedGateway

/-!
# Request targets and URIs

A target is a path with an optional query; a fragment is dropped when it is
read.  A URI is a target alone (`/bucket/key`), an authority alone, or both
behind a scheme.  Reading refuses characters that may not stand where they do
but changes none, so a URI is written as it was read.
-/

namespace Uri

/-- Characters that may stand in a path as they are: visible ones, the delete
character and all that are not ASCII. -/
def isPathChar (c : Char) : Bool :=
  let code := c.toNat
  code == 0x21 || code == 0x22 || (0x24 ≤ code && code ≤ 0x3B) || code == 0x3D ||
    (0x40 ≤ code && code ≤ 0x5F) || (0x61 ≤ code && code ≤ 0x7E) || 0x7F ≤ code

/-- Characters that may stand in a query as they are: visible ones and all that are
not ASCII. -/
def isQueryChar (c : Char) : Bool :=
  let code := c.toNat
  code == 0x21 || (0x24 ≤ code && code ≤ 0x3B) || code == 0x3D || (0x3F ≤ code && code ≤ 0x7E) ||
    0x80 ≤ code

/-- The query up to a fragment. -/
def scanQuery : List Char → Except UriError (List Char)
  | [] => .ok []
  | c :: rest =>
      if c = '#' then .ok []
      else if isQueryChar c then do return c :: (← scanQuery rest)
      else .error .invalidCharacter

/-- The path and, after a question mark, the query. -/
def scanPath : List Char → Except UriError (List Char × Option (List Char))
  | [] => .ok ([], none)
  | c :: rest =>
      if c = '?' then do return ([], some (← scanQuery rest))
      else if c = '#' then .ok ([], none)
      else if isPathChar c then do
        let scanned ← scanPath rest
        return (c :: scanned.1, scanned.2)
      else .error .invalidCharacter

/-- The greatest length of a target and of a URI in bytes. -/
def maxLength : Nat := 65534

/-- A path, never empty, and the query after it. -/
structure Target where
  path : String
  query : Option String
  deriving DecidableEq, Repr

namespace Target

/-- A missing path is the root. -/
def ofParts (path : List Char) (query : Option (List Char)) : Target :=
  ⟨if path = [] then "/" else String.ofList path, query.map String.ofList⟩

/-- A path with a query and without its fragment, no longer than a URI may be. -/
def parse (text : List Char) : Except UriError Target :=
  if maxLength < (Utf8.encode text).length then .error .tooLong
  else do
    let (path, query) ← scanPath text
    return ofParts path query

/-- The target as it stands in a URI. -/
def render (target : Target) : String :=
  match target.query with
  | none => target.path
  | some query => target.path ++ "?" ++ query

end Target
end Uri

/-- What a request is sent to. -/
structure Uri where
  scheme : Option String
  authority : Option Uri.Authority
  target : Option Uri.Target
  deriving DecidableEq, Repr

namespace Uri

/-- The path; an authority alone has an empty one. -/
def path (uri : Uri) : String :=
  match uri.target with
  | some target => target.path
  | none => ""

def query (uri : Uri) : Option String :=
  uri.target.bind Target.query

def render (uri : Uri) : String :=
  (match uri.scheme with
    | some scheme => scheme ++ "://"
    | none => "") ++
  (match uri.authority with
    | some authority => authority.text
    | none => "") ++
  (match uri.target with
    | some target => target.render
    | none => "")

/-- The URI of a target on a host. -/
def absolute (scheme : String) (authority : Authority) (target : Target) : Uri :=
  ⟨some scheme, some authority, some target⟩

def isSchemeChar (c : Char) : Bool :=
  Text.isAsciiAlphanumeric c || c == '+' || c == '-' || c == '.' || c == '~'

/-- The scheme in front of `://` and what follows it.  The two web schemes are
written in lower case, every other one as it is. -/
def cutScheme (text : List Char) : Except UriError (Option String × List Char) :=
  let head := text.takeWhile isSchemeChar
  match text.dropWhile isSchemeChar with
  | ':' :: '/' :: '/' :: rest =>
      let name := String.ofList head
      let lowered := Text.lower name
      if lowered = "http" || lowered = "https" then .ok (some lowered, rest)
      else if text.length ≤ 3 then .ok (none, text)
      else if 64 < head.length then .error .schemeTooLong
      else .ok (some name, rest)
  | _ => .ok (none, text)

/-- A URI that is neither a target nor a single character. -/
def parseFull (text : List Char) : Except UriError Uri := do
  let (scheme, afterScheme) ← cutScheme text
  let (authority, rest) ← scanAuthority .start afterScheme
  match scheme with
  | none =>
      if rest.isEmpty then return ⟨none, some ⟨String.ofList authority⟩, none⟩
      else .error .invalidFormat
  | some name =>
      if authority.isEmpty then .error .invalidFormat
      else return absolute name ⟨String.ofList authority⟩ (← Target.parse rest)

def parse (text : String) : Except UriError Uri :=
  let cs := text.toList
  if maxLength < (Utf8.encode cs).length then .error .tooLong
  else
    match cs with
    | [] => .error .empty
    | ['*'] => .ok ⟨none, none, some ⟨"*", none⟩⟩
    | ['/'] => .ok ⟨none, none, some ⟨"/", none⟩⟩
    | '/' :: _ => do return ⟨none, none, some (← Target.parse cs)⟩
    | [_] => do return ⟨none, some (← Authority.parse text), none⟩
    | _ => parseFull cs

end Uri
end SignedGateway
