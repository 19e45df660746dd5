import SignedGateway.Json.Record
import SignedGateway.Settings.Environment

namespace SignedGateway

/-!
# Settings of the gateway itself

Where it listens, what it logs, how strict it is about dates, below which path it
answers, and how large a body may be.
-/

structure GatewaySettings where
  listen : String
  logLevel : String
  logFormat : String
  maxDrift : Nat
  ownPath : Option String
  storeTimeout : Nat
  maxBody : Nat
  defaultRegion : String
  deriving DecidableEq, Repr

namespace GatewaySettings

def standard : GatewaySettings :=
  { listen := "0.0.0.0:8080"
    logLevel := "info"
    logFormat := "text"
    maxDrift := 900
    ownPath := none
    storeTimeout := 60
    maxBody := 268435456
    defaultRegion := "us-east-1" }

/-- A path with one slash in front and none at the end; the root is no path of its
own. -/
def ownPathOf (value : String) : Option String :=
  let trimmed := Text.trimMark '/' value
  if trimmed = "" then none else some ("/" ++ trimmed)

def fromEnvironment (environment : Environment) : GatewaySettings :=
  { listen := environment.text "LISTEN" standard.listen
    logLevel := (environment.find? "LOG_LEVEL").getD standard.logLevel
    logFormat := (environment.find? "LOG_FORMAT").getD standard.logFormat
    maxDrift := environment.number "MAX_CLOCK_DRIFT_SECONDS" standard.maxDrift
    ownPath := (environment.get? "PATH_PREFIX").bind ownPathOf
    storeTimeout := environment.number "UPSTREAM_TIMEOUT_SECONDS" standard.storeTimeout
    maxBody := environment.number "MAX_BODY_BYTES" standard.maxBody
    defaultRegion := environment.text "DEFAULT_REGION" standard.defaultRegion }

def ofTree : Json.Reader GatewaySettings := fun tree => do
  let record ←
    Json.Record.ofTree
      ["listen", "logLevel", "logFormat", "maxClockDriftSeconds", "pathPrefix",
       "upstreamTimeoutSeconds", "maxBodyBytes", "defaultRegion"] tree
  return {
    listen := ← record.required "listen" Json.Reader.text
    logLevel := ← record.required "logLevel" Json.Reader.text
    logFormat := ← record.required "logFormat" Json.Reader.text
    maxDrift := ← record.required "maxClockDriftSeconds" Json.Reader.word
    ownPath := ← record.optionalNamed "pathPrefix" Json.Reader.text
    storeTimeout := ← record.required "upstreamTimeoutSeconds" Json.Reader.word
    maxBody := ← record.required "maxBodyBytes" Json.Reader.word
    defaultRegion := ← record.required "defaultRegion" Json.Reader.text }

def toJson (settings : GatewaySettings) : Json :=
  Json.ofFields
    [("listen", .text settings.listen), ("logLevel", .text settings.logLevel),
     ("logFormat", .text settings.logFormat),
     ("maxClockDriftSeconds", Json.ofNat settings.maxDrift),
     ("pathPrefix", Json.ofOption (settings.ownPath.map Json.text)),
     ("upstreamTimeoutSeconds", Json.ofNat settings.storeTimeout),
     ("maxBodyBytes", Json.ofNat settings.maxBody),
     ("defaultRegion", .text settings.defaultRegion)]

end GatewaySettings
end SignedGateway
