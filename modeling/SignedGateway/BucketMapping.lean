import SignedGateway.Json.Record
import SignedGateway.Request
import SignedGateway.Settings.Environment

namespace SignedGateway

/-!
# Buckets under other names

A client may see a bucket, or a part of one, as a bucket of its own name.  Keys
below such an alias get the part's path in front, and listings are confined to
that part.
-/

/-- A bucket and the path of a part of it, empty for the whole bucket. -/
structure BucketMapping where
  bucket : String
  path : String
  deriving DecidableEq, Repr

/-- What a request asks for once aliases are resolved. -/
structure Remapped where
  bucket : String
  key : String
  listPrefix : Option String
  deriving DecidableEq, Repr

namespace BucketMapping

/-- `bucket` or `bucket/path`; slashes and blanks at the ends do not count. -/
def parse (target : String) : BucketMapping :=
  let trimmed := Text.trimMark '/' (Text.trim target)
  match Text.splitOnce '/' trimmed with
  | some (bucket, path) => ⟨bucket, Text.trimMark '/' path⟩
  | none => ⟨trimmed, ""⟩

/-- The parameters that a listing may have. -/
def listingParameters : List String :=
  ["continuation-token", "delimiter", "encoding-type", "fetch-owner", "key-marker", "list-type",
   "marker", "max-keys", "max-uploads", "prefix", "start-after", "upload-id-marker", "uploads",
   "version-id-marker", "versions"]

def isListingParameter (name : String) : Bool :=
  listingParameters.contains name || Text.startsWith "x-amz-" (Text.lower name)

/-- A request for the content of a bucket. -/
def isListing (request : StoreRequest) : Bool :=
  Text.sameLetters request.method "GET" && request.key == "" &&
    request.query.keys.all isListingParameter

/-- A key below the mapped part. -/
def keyUnder (mapping : BucketMapping) (key : String) : String :=
  if key = "" ∨ mapping.path = "" then key else mapping.path ++ "/" ++ key

/-- What a listing of the alias must be confined to. -/
def listPrefixFor (mapping : BucketMapping) (request : StoreRequest) : Option String :=
  if mapping.path ≠ "" ∧ isListing request then
    some (mapping.path ++ "/" ++ (request.query.getFirst? "prefix").getD "")
  else none

def remap (mapping : BucketMapping) (request : StoreRequest) : Remapped :=
  ⟨mapping.bucket, mapping.keyUnder request.key, mapping.listPrefixFor request⟩

end BucketMapping

namespace Remapped

/-- The request with its target replaced, and its listing confined. -/
def applyTo (remapped : Remapped) (request : StoreRequest) : StoreRequest :=
  let moved := request.withBucketAndKey remapped.bucket remapped.key
  match remapped.listPrefix with
  | some text => { moved with query := moved.query.put "prefix" text }
  | none => moved

end Remapped

/-- Aliases with their targets as they are set. -/
structure MappingSettings where
  bucketMappings : List (String × String)
  deriving DecidableEq, Repr

namespace MappingSettings

def fromEnvironment (environment : Environment) : MappingSettings :=
  ⟨environment.pairs "BUCKET_MAPPINGS" '='⟩

/-- The mapping of a bucket that is an alias; of several for one alias the last counts. -/
def find? (settings : MappingSettings) (bucket : String) : Option BucketMapping :=
  (settings.bucketMappings.reverse.lookup bucket).map BucketMapping.parse

/-- What a request asks for, if its bucket is an alias. -/
def remap (settings : MappingSettings) (request : StoreRequest) : Option Remapped :=
  (settings.find? request.bucket).map fun mapping => mapping.remap request

def ofTree : Json.Reader MappingSettings := fun tree => do
  let record ← Json.Record.ofTree ["bucketMappings"] tree
  return ⟨← record.required "bucketMappings" (Json.Reader.list Json.Reader.pair)⟩

def toJson (settings : MappingSettings) : Json :=
  Json.ofFields [("bucketMappings", Json.ofPairs settings.bucketMappings)]

end MappingSettings
end SignedGateway
