import SignedGateway.Json.Record
import SignedGateway.Settings.Environment
import SignedGateway.Uri.Basic
import SignedGateway.Uri.Percent
import SignedGateway.World

namespace SignedGateway

/-!
# Where objects live at the store

A bucket is either the first segment of the path or part of the host.  The host is
made from a template in which the bucket, the region and the domain are filled in;
keys and buckets in a path are escaped segment by segment.
-/

/-- Where the bucket stands in an address. -/
inductive AddressingStyle where
  | path
  | virtualHost
  deriving DecidableEq, Repr

structure Addressing where
  style : AddressingStyle
  domain : String
  https : Bool
  portNumber : Option Nat
  hostnameTemplate : Option String
  deriving DecidableEq, Repr

/-- An object or a listing at the store, with the encoded query that goes with it. -/
structure StoreTarget where
  key : String
  bucket : String
  region : String
  query : Option String
  deriving DecidableEq, Repr

/-- Finds the URI of a target. -/
abbrev EndpointRule (Outside : Type) : Type :=
  StoreTarget → Attempt Outside Uri

namespace AddressingStyle

/-- The styles as documents write them. -/
def words : List (String × AddressingStyle) :=
  [("path", .path), ("virtual-host", .virtualHost)]

/-- The styles as a setting may write them. -/
def settingWords : List (String × AddressingStyle) :=
  words ++ [("virtualhost", .virtualHost), ("virtual", .virtualHost)]

def kind : String := "remote addressing style"

def name : AddressingStyle → String
  | .path => "path"
  | .virtualHost => "virtual-host"

end AddressingStyle

namespace Addressing

/-- The addressing of a store for which nothing is set. -/
def standard : Addressing :=
  ⟨.path, "amazonaws.com", true, none, none⟩

/-- A name in a template, as it stands there. -/
def placeholder (name : String) : String :=
  "$\x7b" ++ name ++ "\x7d"

/-- The template of a style when none is set. -/
def standardTemplate : AddressingStyle → String
  | .path => "s3." ++ placeholder "region" ++ "." ++ placeholder "domain"
  | .virtualHost =>
      placeholder "bucket" ++ ".s3." ++ placeholder "region" ++ "." ++ placeholder "domain"

def template (addressing : Addressing) : String :=
  addressing.hostnameTemplate.getD (standardTemplate addressing.style)

/-- The template with the bucket filled in.  Without a bucket the dot after its
place goes too.  In a path style the template names no bucket. -/
def fillBucket (style : AddressingStyle) (bucket template : String) : String :=
  match style with
  | .path => template
  | .virtualHost =>
      if bucket = "" then
        Text.replaceAll (placeholder "bucket") ""
          (Text.replaceAll (placeholder "bucket" ++ ".") "" template)
      else Text.replaceAll (placeholder "bucket") bucket template

def hostFor (addressing : Addressing) (bucket region : String) : String :=
  Text.replaceAll (placeholder "domain") addressing.domain
    (Text.replaceAll (placeholder "region") region
      (fillBucket addressing.style bucket addressing.template))

/-- A key with its segments escaped; the slashes between them stay. -/
def encodeKey (key : String) : String :=
  Text.joinWith "/" ((Text.splitOn '/' key).map Uri.Percent.encode)

def pathFor (addressing : Addressing) (bucket key : String) : String :=
  match addressing.style with
  | .virtualHost => "/" ++ encodeKey key
  | .path =>
      if bucket = "" then "/" ++ encodeKey key
      else "/" ++ Uri.Percent.encode bucket ++ "/" ++ encodeKey key

def scheme (addressing : Addressing) : String :=
  if addressing.https then "https" else "http"

/-- The text of the authority: the host with the number that is set. -/
def authorityText (addressing : Addressing) (host : String) : String :=
  match addressing.portNumber with
  | some number => host ++ ":" ++ Text.decimal number
  | none => host

def withQuery (path : String) (query : Option String) : String :=
  match query.filter (· != "") with
  | some text => path ++ "?" ++ text
  | none => path

/-- The URI of a target. -/
def endpoint (addressing : Addressing) (target : StoreTarget) : Except GatewayError Uri :=
  let host := addressing.hostFor target.bucket target.region
  match Uri.Authority.parse (addressing.authorityText host) with
  | .error fault =>
      .error (.configuration ("invalid remote host " ++ host ++ ": " ++ fault.message))
  | .ok authority =>
      let text := withQuery (addressing.pathFor target.bucket target.key) target.query
      match Uri.Target.parse text.toList with
      | .error fault => .error (.configuration ("invalid remote path: " ++ fault.message))
      | .ok place => .ok (Uri.absolute addressing.scheme authority place)

/-- Addressing as a rule for the gateway. -/
def rule {Outside : Type} (addressing : Addressing) : EndpointRule Outside :=
  fun target => Attempt.ofExcept (addressing.endpoint target)

/-- Every field has its standard value when it is left out. -/
def ofTree : Json.Reader Addressing := fun tree => do
  let record ← Json.Record.ofTree ["style", "domain", "https", "port", "hostnameTemplate"] tree
  return {
    style := ← record.withDefault "style" (Json.Reader.oneOf AddressingStyle.words) standard.style
    domain := ← record.withDefault "domain" Json.Reader.text standard.domain
    https := ← record.withDefault "https" Json.Reader.bool standard.https
    portNumber := ← record.optional "port" (Json.Reader.natBelow UInt16.size)
    hostnameTemplate := ← record.optional "hostnameTemplate" Json.Reader.text }

def toJson (addressing : Addressing) : Json :=
  Json.ofFields
    [("style", .text addressing.style.name), ("domain", .text addressing.domain),
     ("https", .bool addressing.https),
     ("port", Json.ofOption (addressing.portNumber.map Json.ofNat)),
     ("hostnameTemplate", Json.ofOption (addressing.hostnameTemplate.map Json.text))]

end Addressing
end SignedGateway
