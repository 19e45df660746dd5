import SignedGateway.Store.Connection

namespace SignedGateway

/-!
# How the store is reached

Where connections come from, and the addressing that holds for connections
without one of their own.
-/

inductive ConnectionProvider where
  | credentials
  | fixed
  | file
  deriving DecidableEq, Repr

namespace ConnectionProvider

def words : List (String × ConnectionProvider) :=
  [("credentials", .credentials), ("static", .fixed), ("file", .file)]

def kind : String := "remote connection provider"

def name : ConnectionProvider → String
  | .credentials => "credentials"
  | .fixed => "static"
  | .file => "file"

end ConnectionProvider

structure StoreSettings where
  provider : ConnectionProvider
  fixedCredential : Option Credential
  connectionFile : Option String
  addressing : Addressing
  deriving DecidableEq, Repr

namespace StoreSettings

def standard : StoreSettings :=
  ⟨.credentials, none, none, Addressing.standard⟩

/-- The credential that everyone uses; it takes both a key and a secret. -/
def fixedCredentialFrom (environment : Environment) : Option Credential :=
  match environment.get? "REMOTE_ACCESS_KEY", environment.get? "REMOTE_SECRET_KEY" with
  | some accessKey, some secretKey =>
      some ⟨accessKey, secretKey, environment.get? "REMOTE_SESSION_TOKEN"⟩
  | _, _ => none

/-- The number that follows the host; it must be one of sixteen bits. -/
def portNumberFrom (environment : Environment) : Except GatewayError (Option Nat) :=
  match environment.get? "REMOTE_PORT" with
  | none => .ok none
  | some value =>
      match Text.readNumeral 10 UInt16.size value.toList with
      | .ok number => .ok (some number)
      | .error fault =>
          .error (.configuration
            ("invalid " ++ Environment.variableName "REMOTE_PORT" ++ ": " ++ fault.message))

def fromEnvironment (environment : Environment) : Except GatewayError StoreSettings := do
  let provider ←
    environment.word "REMOTE_CONNECTION_PROVIDER" ConnectionProvider.kind ConnectionProvider.words
      standard.provider
  let style ←
    environment.word "REMOTE_STYLE" AddressingStyle.kind AddressingStyle.settingWords
      standard.addressing.style
  let portNumber ← portNumberFrom environment
  return {
    provider := provider
    fixedCredential := fixedCredentialFrom environment
    connectionFile := environment.get? "REMOTE_CONNECTION_FILE"
    addressing := {
      style := style
      domain := environment.text "REMOTE_DOMAIN" standard.addressing.domain
      https := environment.switch "REMOTE_HTTPS" standard.addressing.https
      portNumber := portNumber
      hostnameTemplate := environment.get? "REMOTE_HOSTNAME_TEMPLATE" } }

def ofTree : Json.Reader StoreSettings := fun tree => do
  let record ←
    Json.Record.ofTree ["connectionProvider", "staticCredential", "connectionFile", "facade"] tree
  return {
    provider := ← record.required "connectionProvider" (Json.Reader.oneOf ConnectionProvider.words)
    fixedCredential := ← record.optionalNamed "staticCredential" Credential.ofTree
    connectionFile := ← record.optionalNamed "connectionFile" Json.Reader.text
    addressing := ← record.required "facade" Addressing.ofTree }

def toJson (settings : StoreSettings) : Json :=
  Json.ofFields
    [("connectionProvider", .text settings.provider.name),
     ("staticCredential", Json.ofOption (settings.fixedCredential.map Credential.toJson)),
     ("connectionFile", Json.ofOption (settings.connectionFile.map Json.text)),
     ("facade", settings.addressing.toJson)]

/-- The connections that the settings ask for. -/
def connections {Outside : Type} (settings : StoreSettings) (files : Files) :
    Except GatewayError (ConnectionRule Outside) :=
  match settings.provider with
  | .credentials => .ok Connection.fromRecord
  | .fixed =>
      match settings.fixedCredential with
      | none => .error (Environment.missing ["REMOTE_ACCESS_KEY", "REMOTE_SECRET_KEY"] "static")
      | some credential => .ok (Connection.fixed ⟨credential, none, none⟩)
  | .file =>
      match settings.connectionFile with
      | none => .error (Environment.missing ["REMOTE_CONNECTION_FILE"] "file")
      | some path => do return (← ConnectionTable.load files path).rule

end StoreSettings
end SignedGateway
