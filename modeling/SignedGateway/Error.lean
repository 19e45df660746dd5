import SignedGateway.Text.Decimal

namespace SignedGateway

/-!
# Why a request fails

`AuthError` says what is wrong with a signature, `GatewayError` why the gateway
refuses a request for any reason.  Each has one text, and a gateway error has a
status and a code that the client sees.
-/

/-- Codes of the object store's protocol. -/
inductive ErrorCode where
  | accessDenied
  | authorizationHeaderMalformed
  | entityTooLarge
  | expiredToken
  | internalError
  | invalidAccessKeyId
  | invalidArgument
  | invalidRequest
  | missingSecurityHeader
  | noSuchBucket
  | requestTimeTooSkewed
  | serviceUnavailable
  | signatureDoesNotMatch
  | contentHashMismatch
  deriving DecidableEq, Repr

def ErrorCode.text : ErrorCode → String
  | .accessDenied => "AccessDenied"
  | .authorizationHeaderMalformed => "AuthorizationHeaderMalformed"
  | .entityTooLarge => "EntityTooLarge"
  | .expiredToken => "ExpiredToken"
  | .internalError => "InternalError"
  | .invalidAccessKeyId => "InvalidAccessKeyId"
  | .invalidArgument => "InvalidArgument"
  | .invalidRequest => "InvalidRequest"
  | .missingSecurityHeader => "MissingSecurityHeader"
  | .noSuchBucket => "NoSuchBucket"
  | .requestTimeTooSkewed => "RequestTimeTooSkewed"
  | .serviceUnavailable => "ServiceUnavailable"
  | .signatureDoesNotMatch => "SignatureDoesNotMatch"
  | .contentHashMismatch => "XAmzContentSHA256Mismatch"

def ErrorCode.all : List ErrorCode :=
  [.accessDenied, .authorizationHeaderMalformed, .entityTooLarge, .expiredToken, .internalError,
   .invalidAccessKeyId, .invalidArgument, .invalidRequest, .missingSecurityHeader, .noSuchBucket,
   .requestTimeTooSkewed, .serviceUnavailable, .signatureDoesNotMatch, .contentHashMismatch]

/-- The code with a given text. -/
def ErrorCode.ofText? (text : String) : Option ErrorCode :=
  ErrorCode.all.find? fun code => code.text == text

/-- Why the gateway refuses a request or cannot serve it.  A `provider` is a
service that the gateway asks; it may have answered with a status. -/
inductive GatewayError where
  | authentication (code : ErrorCode) (message : String)
  | authorization (reason : Option String)
  | notFound (code : ErrorCode) (message : String)
  | provider (status : Option Nat) (message : String)
  | malformed (code : ErrorCode) (message : String)
  | configuration (message : String)
  deriving DecidableEq, Repr

namespace GatewayError

def message : GatewayError → String
  | .authentication _ message => message
  | .authorization none => "Access Denied"
  | .authorization (some reason) => "Access Denied: " ++ reason
  | .notFound _ message => message
  | .provider _ message => "upstream provider error: " ++ message
  | .malformed _ message => message
  | .configuration message => "configuration error: " ++ message

/-- The HTTP status that the client sees. -/
def status : GatewayError → Nat
  | .authentication .. => 401
  | .authorization _ => 403
  | .notFound .. => 404
  | .provider status _ => status.getD 500
  | .malformed .. => 400
  | .configuration _ => 500

/-- The code that the client sees. -/
def code : GatewayError → ErrorCode
  | .authentication code _ => code
  | .authorization _ => .accessDenied
  | .notFound code _ => code
  | .provider status _ =>
      if status = some 503 then .serviceUnavailable
      else if status = some 403 then .accessDenied
      else .internalError
  | .malformed code _ => code
  | .configuration _ => .internalError

end GatewayError

/-- What is wrong with the signature of a request. -/
inductive AuthError where
  | missingAuthHeader
  | invalidAuthHeader
  | unsupportedAlgorithm (name : String)
  | missingHeader (name : String)
  | invalidCredential
  | missingQueryParam (name : String)
  | invalidDate (text : String)
  | clockDrift (drift : Int) (limit : Nat)
  | requestExpired
  | signatureDoesNotMatch
  | contentHashMismatch
  | noRemoteCredential (accessKey : String)
  deriving DecidableEq, Repr

namespace AuthError

def message : AuthError → String
  | .missingAuthHeader => "Missing Authorization header"
  | .invalidAuthHeader => "Invalid Authorization header format"
  | .unsupportedAlgorithm name => "Unsupported algorithm: " ++ name
  | .missingHeader name => "Missing required header: " ++ name
  | .invalidCredential => "Invalid credential format"
  | .missingQueryParam name => "Missing required query parameter: " ++ name
  | .invalidDate text => "Invalid request date: " ++ text
  | .clockDrift drift limit =>
      "The difference between the request time and the current time is too large (" ++
        Text.signedDecimal drift ++ "s > " ++ Text.decimal limit ++ "s)"
  | .requestExpired => "Request has expired"
  | .signatureDoesNotMatch => "Signature does not match"
  | .contentHashMismatch =>
      "The provided 'x-amz-content-sha256' header does not match what was computed"
  | .noRemoteCredential accessKey => "No remote credential is bound to access key " ++ accessKey

/-- What the client is told. -/
def toGatewayError (fault : AuthError) : GatewayError :=
  match fault with
  | .missingAuthHeader => .authentication .accessDenied fault.message
  | .invalidAuthHeader => .authentication .authorizationHeaderMalformed fault.message
  | .unsupportedAlgorithm _ => .authentication .authorizationHeaderMalformed fault.message
  | .invalidCredential => .authentication .authorizationHeaderMalformed fault.message
  | .missingQueryParam _ => .authentication .authorizationHeaderMalformed fault.message
  | .clockDrift .. => .authentication .requestTimeTooSkewed fault.message
  | .requestExpired => .authentication .accessDenied fault.message
  | .signatureDoesNotMatch => .authentication .signatureDoesNotMatch fault.message
  | .missingHeader _ => .malformed .missingSecurityHeader fault.message
  | .invalidDate _ => .malformed .invalidRequest fault.message
  | .contentHashMismatch => .malformed .contentHashMismatch fault.message
  | .noRemoteCredential _ => .notFound .noSuchBucket fault.message

end AuthError

/-- How a computation ends early: with an error that is reported, or because a
date leaves the calendar, in which case nothing answers the request. -/
inductive Halt (ε : Type) where
  | failed (error : ε)
  | outOfCalendar
  deriving DecidableEq, Repr

/-- Report the error in other words. -/
def Halt.map {ε δ : Type} (change : ε → δ) : Halt ε → Halt δ
  | .failed error => .failed (change error)
  | .outOfCalendar => .outOfCalendar

end SignedGateway
