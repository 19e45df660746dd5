import SignedGateway.MultiMap
import SignedGateway.Text.Split
import SignedGateway.Uri.Percent

namespace SignedGateway
namespace Uri
namespace Query

/-!
# Query parameters

A query is a list of `name=value` pairs between `&` signs.  A pair without an
equals sign has the empty value, an empty pair is no pair.  Writing uses the
bare name for an empty value and leaves out an empty query.
-/

/-- The name and value of one pair. -/
def parsePair (text : String) : String × String :=
  match Text.splitOnce '=' text with
  | some (name, value) => (Percent.decode name, Percent.decode value)
  | none => (Percent.decode text, "")

/-- The pairs of a query in order. -/
def parsePairs (text : String) : List (String × String) :=
  ((Text.splitOn '&' text).filter (· != "")).map parsePair

def parse (text : String) : MultiMap :=
  MultiMap.ofPairs true (parsePairs text)

/-- One pair as it is sent. -/
def renderPair (pair : String × String) : String :=
  if pair.2 = "" then Percent.encode pair.1
  else Percent.encode pair.1 ++ "=" ++ Percent.encode pair.2

/-- The query that is sent for the parameters, if there are any. -/
def render? (parameters : MultiMap) : Option String :=
  if parameters.entries.isEmpty then none
  else some (Text.joinWith "&" (parameters.pairs.map renderPair))

end Query

namespace Form

/-!
Form bodies differ from queries in one character: a space is written `+`.
-/

/-- Letters, digits, `*`, `-`, `.` and `_`. -/
def isKept (byte : UInt8) : Bool :=
  let c := Char.ofNat byte.toNat
  Text.isAsciiAlphanumeric c || c == '*' || c == '-' || c == '.' || c == '_'

def encodeByte (byte : UInt8) : List Char :=
  if byte = 0x20 then ['+'] else Percent.encodeByte isKept byte

/-- One component of a form. -/
def encode (text : String) : String :=
  String.ofList ((Utf8.bytesOf text).flatMap encodeByte)

def spaceOfPlus (byte : UInt8) : UInt8 :=
  if byte = 0x2B then 0x20 else byte

def decode (bytes : List UInt8) : String :=
  Utf8.decodeLossy (Percent.decodeBytes (bytes.map spaceOfPlus))

def parsePair (bytes : List UInt8) : String × String :=
  match Text.cutOnce 0x3D bytes with
  | some (name, value) => (decode name, decode value)
  | none => (decode bytes, "")

/-- The pairs of a form body in order. -/
def parsePairs (body : List UInt8) : List (String × String) :=
  ((Text.pieces 0x26 body).filter (!·.isEmpty)).map parsePair

end Form
end Uri
end SignedGateway
