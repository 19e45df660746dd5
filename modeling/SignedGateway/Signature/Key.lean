import SignedGateway.Digest.Suite
import SignedGateway.Request
import SignedGateway.Signature.Authorization
import SignedGateway.Text.Utf8

namespace SignedGateway
namespace Signature

/-!
# Keys, texts to sign and signatures

A secret signs only through a key made for one day, region and service.  The text
that is signed names the moment, that scope and the digest of the canonical
request.
-/

/-- The part of a scope that a signing key is made for. -/
structure KeyScope where
  date : String
  region : String
  service : String
  deriving DecidableEq, Repr

def KeyScope.text (scope : KeyScope) : String :=
  Authorization.scopeText scope.date scope.region scope.service

/-- The digest of a body as a header or a canonical request shows it. -/
def payloadHash (suite : Digest.Suite) (body : List UInt8) : String :=
  Text.hexOfBytes (suite.digest body)

/-- The key of a secret for a day, region and service. -/
def signingKey (suite : Digest.Suite) (secret : String) (scope : KeyScope) : List UInt8 :=
  let dateKey := suite.mac (Utf8.bytesOf ("AWS4" ++ secret)) (Utf8.bytesOf scope.date)
  let regionKey := suite.mac dateKey (Utf8.bytesOf scope.region)
  let serviceKey := suite.mac regionKey (Utf8.bytesOf scope.service)
  suite.mac serviceKey (Utf8.bytesOf "aws4_request")

def stringToSign (timestamp scope requestHash : String) : String :=
  Text.joinWith "\n" [Authorization.algorithm, timestamp, scope, requestHash]

def compute (suite : Digest.Suite) (key : List UInt8) (text : String) : String :=
  Text.hexOfBytes (suite.mac key (Utf8.bytesOf text))

/-- The signature of a canonical request. -/
def ofCanonical (suite : Digest.Suite) (secret timestamp : String) (scope : KeyScope)
    (canonicalRequest : String) : String :=
  compute suite (signingKey suite secret scope)
    (stringToSign timestamp scope.text (payloadHash suite (Utf8.bytesOf canonicalRequest)))

end Signature
end SignedGateway
