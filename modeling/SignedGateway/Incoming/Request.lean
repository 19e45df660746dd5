import SignedGateway.Http.Message
import SignedGateway.Incoming.Route
import SignedGateway.Signature.Authorization
import SignedGateway.Uri.Query

namespace SignedGateway
namespace Incoming

/-!
# Reading a request

A message becomes a request for an object when its path lies below the gateway's
own path and it says who signed it: in its header, or else in its query.
-/

/-- The headers of a message.  Without a `host` header the host is taken from the
target, where some clients put it. -/
def headersOf (message : Http.Request) : MultiMap :=
  let headers :=
    MultiMap.ofPairs false
      (message.headers.pairs.map fun pair => (pair.1, Utf8.decodeLossy pair.2))
  if headers.contains "host" then headers
  else
    match message.uri.authority with
    | some authority => headers.add "host" authority.text
    | none => headers

/-- The query of a message unless it is empty. -/
def queryOf (message : Http.Request) : Option String :=
  message.uri.query.filter (· != "")

/-- Who signed the request, and its date. -/
def authorize (headers query : MultiMap) : Except AuthError (Authorization × String) :=
  match headers.getFirst? "authorization" with
  | some header => do
      let authorization ←
        Authorization.parseHeader header (headers.getFirst? "x-amz-security-token")
      match headers.getFirst? "x-amz-date" with
      | some date => return (authorization, date)
      | none => throw (.missingHeader "x-amz-date")
  | none =>
      if Authorization.claimsPresigned query then do
        let presigned ← Authorization.parsePresigned query
        return (presigned.authorization, presigned.date)
      else .error .missingAuthHeader

def outsideError (path : String) : GatewayError :=
  .notFound .noSuchBucket (path ++ " is outside the proxied path")

/-- The request that a message makes. -/
def read (message : Http.Request) (ownPath : Option String) (requestId : String) :
    Except GatewayError StoreRequest :=
  let headers := headersOf message
  let rawQuery := queryOf message
  let query := Uri.Query.parse (rawQuery.getD "")
  let path := message.uri.path
  match Route.below ownPath path with
  | none => .error (outsideError path)
  | some routed =>
      let target := Route.bucketAndKey routed
      match authorize headers query with
      | .error fault => .error fault.toGatewayError
      | .ok (authorization, date) =>
          .ok {
            requestId := requestId
            authorization := authorization
            date := date
            bucket := target.1
            key := target.2
            headers := headers
            query := query
            method := message.method
            rawPath := path
            rawQuery := rawQuery
            body := message.body }

end Incoming
end SignedGateway
