import SignedGateway.Credential.Service
import SignedGateway.Session.Assume
import SignedGateway.Settings.Environment

namespace SignedGateway

/-!
# Which source of records is used

Records stand in a file or are kept by a service; in either case sessions may be
put in front of them.
-/

inductive CredentialProvider where
  | file
  | http
  deriving DecidableEq, Repr

namespace CredentialProvider

def words : List (String × CredentialProvider) :=
  [("file", .file), ("http", .http)]

def kind : String := "credentials provider"

def name : CredentialProvider → String
  | .file => "file"
  | .http => "http"

end CredentialProvider

structure CredentialSettings where
  provider : CredentialProvider
  filePath : Option String
  httpEndpoint : Option String
  httpHeaders : List (String × String)
  httpCacheSize : Nat
  httpCacheLifetime : Nat
  httpTimeout : Nat
  assumedRoles : Bool
  deriving DecidableEq, Repr

namespace CredentialSettings

def standard : CredentialSettings :=
  { provider := .file
    filePath := none
    httpEndpoint := none
    httpHeaders := []
    httpCacheSize := 0
    httpCacheLifetime := 300
    httpTimeout := 10
    assumedRoles := false }

def fromEnvironment (environment : Environment) : Except GatewayError CredentialSettings := do
  let provider ←
    environment.word "CREDENTIALS_PROVIDER" CredentialProvider.kind CredentialProvider.words
      standard.provider
  return {
    provider := provider
    filePath := environment.get? "CREDENTIALS_FILE"
    httpEndpoint := environment.get? "CREDENTIALS_HTTP_ENDPOINT"
    httpHeaders := environment.pairs "CREDENTIALS_HTTP_HEADERS" ':'
    httpCacheSize := environment.number "CREDENTIALS_HTTP_CACHE_SIZE" standard.httpCacheSize
    httpCacheLifetime :=
      environment.number "CREDENTIALS_HTTP_CACHE_TTL_SECONDS" standard.httpCacheLifetime
    httpTimeout := environment.number "CREDENTIALS_HTTP_TIMEOUT_SECONDS" standard.httpTimeout
    assumedRoles := environment.switch "ASSUMED_ROLES" standard.assumedRoles }

def ofTree : Json.Reader CredentialSettings := fun tree => do
  let record ←
    Json.Record.ofTree
      ["provider", "filePath", "httpEndpoint", "httpHeaders", "httpCacheSize",
       "httpCacheTtlSeconds", "httpTimeoutSeconds", "assumedRoles"] tree
  return {
    provider := ← record.required "provider" (Json.Reader.oneOf CredentialProvider.words)
    filePath := ← record.optionalNamed "filePath" Json.Reader.text
    httpEndpoint := ← record.optionalNamed "httpEndpoint" Json.Reader.text
    httpHeaders := ← record.required "httpHeaders" (Json.Reader.list Json.Reader.pair)
    httpCacheSize := ← record.required "httpCacheSize" Json.Reader.word
    httpCacheLifetime := ← record.required "httpCacheTtlSeconds" Json.Reader.word
    httpTimeout := ← record.required "httpTimeoutSeconds" Json.Reader.word
    assumedRoles := ← record.required "assumedRoles" Json.Reader.bool }

def toJson (settings : CredentialSettings) : Json :=
  Json.ofFields
    [("provider", .text settings.provider.name),
     ("filePath", Json.ofOption (settings.filePath.map Json.text)),
     ("httpEndpoint", Json.ofOption (settings.httpEndpoint.map Json.text)),
     ("httpHeaders", Json.ofPairs settings.httpHeaders),
     ("httpCacheSize", Json.ofNat settings.httpCacheSize),
     ("httpCacheTtlSeconds", Json.ofNat settings.httpCacheLifetime),
     ("httpTimeoutSeconds", Json.ofNat settings.httpTimeout),
     ("assumedRoles", .bool settings.assumedRoles)]

variable {Outside : Type}

/-- The lookup that the settings ask for. -/
def recordLookup (settings : CredentialSettings) (files : Files)
    (transport : Http.Transport Outside) : Except GatewayError (RecordLookup Outside) :=
  match settings.provider with
  | .file =>
      match settings.filePath with
      | none => .error (Environment.missing ["CREDENTIALS_FILE"] "file")
      | some path => do return (← Directory.load files path).lookup
  | .http =>
      match settings.httpEndpoint with
      | none => .error (Environment.missing ["CREDENTIALS_HTTP_ENDPOINT"] "http")
      | some endpoint => do
          let service ←
            CredentialService.make endpoint settings.httpHeaders (settings.httpCacheSize != 0)
          return service.lookup transport

/-- The source that the settings ask for. -/
def source (settings : CredentialSettings) (files : Files) (transport : Http.Transport Outside) :
    Except GatewayError (CredentialSource Outside) := do
  let lookup ← settings.recordLookup files transport
  return if settings.assumedRoles then Session.source lookup else CredentialSource.ofLookup lookup

end CredentialSettings
end SignedGateway
