import SignedGateway.MultiMap
import SignedGateway.Text.Blank
import SignedGateway.Text.Order
import SignedGateway.Uri.Percent

namespace SignedGateway
namespace Canonical

/-!
# Canonical requests

What is signed is one text that lists the parts of a request in a form that does
not depend on how the request was spelled: each segment of the path is decoded
and encoded again, parameters are encoded and sorted, and the values of a header
have their blanks collapsed and are joined by commas.  No part can hold the line
break that ends it.
-/

/-- One segment of a path, however it was escaped. -/
def segment (text : String) : String :=
  Uri.Percent.encode (Uri.Percent.decode text)

/-- The path. -/
def uri (path : String) : String :=
  if path = "" ∨ path = "/" then "/"
  else Text.joinWith "/" ((Text.splitOn '/' path).map segment)

def encodedPair (pair : String × String) : String × String :=
  (Uri.Percent.encode pair.1, Uri.Percent.encode pair.2)

/-- The parameters. -/
def query (parameters : List (String × String)) : String :=
  Text.joinWith "&"
    ((Text.sortPairs (parameters.map encodedPair)).map fun pair => pair.1 ++ "=" ++ pair.2)

/-- The values of one header. -/
def headerValue (values : List String) : String :=
  Text.joinWith "," (values.map Text.collapseBlanks)

/-- The line of a signed header, if the request has that header. -/
def headerLine (headers : MultiMap) (name : String) : Option String :=
  (headers.entries.lookup name).map fun values => name ++ ":" ++ headerValue values

/-- The lines of the signed headers in the order of their names. -/
def headers (pairs : List (String × String)) (signed : List String) : String :=
  Text.joinWith "\n" ((Text.sort signed).filterMap (headerLine (MultiMap.ofPairs false pairs)))

/-- The names of the signed headers. -/
def signedHeaders (signed : List String) : String :=
  Text.joinWith ";" (Text.sort signed)

/-- The whole request.  An empty line stands after the headers. -/
def request (method path : String) (parameters headerPairs : List (String × String))
    (signed : List String) (payloadHash : String) : String :=
  Text.joinWith "\n"
    [method, uri path, query parameters, headers headerPairs signed, "", signedHeaders signed,
     payloadHash]

end Canonical
end SignedGateway
