import SignedGateway.Error
import SignedGateway.Http.Message
import SignedGateway.Xml

namespace SignedGateway
namespace Http

/-!
# Answers in XML

An error is answered with a document that names its code, its message, what was
asked for and the request.  What failed inside the gateway is not told to the
client.
-/

/-- The document that describes an error. -/
def errorDocument (code message : String) (resource : Option String) (requestId : String) :
    String :=
  Xml.document
    (.element "Error" []
      ([Xml.leaf "Code" code, Xml.leaf "Message" message] ++
        (match resource with
          | some path => [Xml.leaf "Resource" path]
          | none => []) ++
        [Xml.leaf "RequestId" requestId]))

/-- What the client is told in place of internal detail. -/
def internalMessage : String :=
  "We encountered an internal error. Please try again."

/-- What the client is told about an error. -/
def publicMessage (error : GatewayError) : String :=
  match error with
  | .configuration _ => internalMessage
  | .provider none _ => internalMessage
  | _ => error.message

def xmlResponse (status : Nat) (document : String) : Response :=
  ⟨status, [("content-type", [Utf8.bytesOf "application/xml"])], Utf8.bytesOf document⟩

/-- The answer to a request that failed. -/
def errorResponse (error : GatewayError) (resource : Option String) (requestId : String) :
    Response :=
  xmlResponse error.status
    (errorDocument error.code.text (publicMessage error) resource requestId)

end Http
end SignedGateway
