import SignedGateway.BucketMapping
import SignedGateway.Calendar.Date
import SignedGateway.Calendar.Moment
import SignedGateway.Calendar.Stamp
import SignedGateway.Credential
import SignedGateway.Credential.Directory
import SignedGateway.Credential.Service
import SignedGateway.Credential.Settings
import SignedGateway.Credential.Source
import SignedGateway.Digest.Sha256
import SignedGateway.Digest.Suite
import SignedGateway.Double.Basic
import SignedGateway.Double.Shortest
import SignedGateway.Error
import SignedGateway.Gateway.Outbound
import SignedGateway.Gateway.Pipeline
import SignedGateway.Gateway.Role
import SignedGateway.Gateway.Service
import SignedGateway.Http.Answer
import SignedGateway.Http.Message
import SignedGateway.Http.Transport
import SignedGateway.Incoming.Chunked
import SignedGateway.Incoming.Request
import SignedGateway.Incoming.Route
import SignedGateway.Json.Basic
import SignedGateway.Json.Number
import SignedGateway.Json.Record
import SignedGateway.Json.Tree
import SignedGateway.MultiMap
import SignedGateway.Policy.Action
import SignedGateway.Policy.Basic
import SignedGateway.Policy.Catalog
import SignedGateway.Policy.Server
import SignedGateway.Policy.Settings
import SignedGateway.Proofs.Calendar.Stamp
import SignedGateway.Proofs.Gateway.Attempt
import SignedGateway.Proofs.Gateway.Client
import SignedGateway.Proofs.Gateway.FailClosed
import SignedGateway.Proofs.Gateway.HeaderFrame
import SignedGateway.Proofs.Gateway.JudgedAction
import SignedGateway.Proofs.Gateway.JudgedObject
import SignedGateway.Proofs.Gateway.Outbound
import SignedGateway.Proofs.Gateway.Parameters
import SignedGateway.Proofs.Gateway.Passage
import SignedGateway.Proofs.Gateway.Resigned
import SignedGateway.Proofs.Gateway.Routing
import SignedGateway.Proofs.Gateway.Secrecy
import SignedGateway.Proofs.Gateway.Stages
import SignedGateway.Proofs.Gateway.Standard
import SignedGateway.Proofs.Gateway.Watch
import SignedGateway.Proofs.Http.Fields
import SignedGateway.Proofs.Http.Message
import SignedGateway.Proofs.Incoming.Request
import SignedGateway.Proofs.MultiMap
import SignedGateway.Proofs.MultiMap.Selection
import SignedGateway.Proofs.Policy.Action
import SignedGateway.Proofs.Result
import SignedGateway.Proofs.Signature.Coverage
import SignedGateway.Proofs.Signature.Framing
import SignedGateway.Proofs.Signature.Header
import SignedGateway.Proofs.Signature.ReadBack
import SignedGateway.Proofs.Signature.SignedPath
import SignedGateway.Proofs.Signature.Signer
import SignedGateway.Proofs.Signature.Verifier
import SignedGateway.Proofs.Store.Addressing
import SignedGateway.Proofs.Store.PathStyle
import SignedGateway.Proofs.Text.Ascii
import SignedGateway.Proofs.Text.Blank
import SignedGateway.Proofs.Text.Order
import SignedGateway.Proofs.Text.Pieces
import SignedGateway.Proofs.Text.Utf8
import SignedGateway.Proofs.Uri.Percent
import SignedGateway.Proofs.Uri.Query
import SignedGateway.Request
import SignedGateway.RequestLog
import SignedGateway.Session.Assume
import SignedGateway.Session.Store
import SignedGateway.Session.Supply
import SignedGateway.Settings.Environment
import SignedGateway.Settings.Files
import SignedGateway.Settings.Gateway
import SignedGateway.Signature.Authorization
import SignedGateway.Signature.Canonical
import SignedGateway.Signature.Clock
import SignedGateway.Signature.Key
import SignedGateway.Signature.Signer
import SignedGateway.Signature.Verifier
import SignedGateway.Store.Addressing
import SignedGateway.Store.Connection
import SignedGateway.Store.Settings
import SignedGateway.Text.Ascii
import SignedGateway.Text.Blank
import SignedGateway.Text.Decimal
import SignedGateway.Text.LowerCase
import SignedGateway.Text.Order
import SignedGateway.Text.Quoted
import SignedGateway.Text.Split
import SignedGateway.Text.Utf8
import SignedGateway.Uri.Authority
import SignedGateway.Uri.Basic
import SignedGateway.Uri.Percent
import SignedGateway.Uri.Query
import SignedGateway.Uri.Wire
import SignedGateway.World
import SignedGateway.Xml
import SignedGateway.Proofs.Signature.Completeness
import SignedGateway.Proofs.Session.Interleaving
import SignedGateway.Proofs.Session.Assume
import SignedGateway.Proofs.Gateway.Sessions
import SignedGateway.Proofs.Gateway.RoleAuthority
import SignedGateway.Proofs.Gateway.UnsignedHeaders
import SignedGateway.Proofs.Gateway.Asking
import SignedGateway.Proofs.Gateway.Promptness
import SignedGateway.Proofs.Gateway.Link
import SignedGateway.Proofs.Gateway.QuerySent
import SignedGateway.Proofs.Uri.Wire
import SignedGateway.Proofs.BucketMapping
import SignedGateway.Proofs.Gateway.WireAddress
import SignedGateway.Proofs.Gateway.Confinement
import SignedGateway.Proofs.Gateway.Listings
import SignedGateway.Proofs.Text.StrictUtf8
import SignedGateway.Proofs.Text.Numeral
import SignedGateway.Proofs.Incoming.ChunkGrammar
import SignedGateway.Proofs.Incoming.ChunkPositions
import SignedGateway.Proofs.Incoming.Codings
import SignedGateway.Proofs.Gateway.Codings
import SignedGateway.Proofs.Credential.Directory
import SignedGateway.Proofs.Session.Reachable
import SignedGateway.Proofs.Gateway.Identity
import SignedGateway.Proofs.RequestLog
import SignedGateway.Proofs.Http.Answer
import SignedGateway.Proofs.Gateway.Candor
import SignedGateway.Proofs.Gateway.Discretion
import SignedGateway.Proofs.Gateway.Audit
import SignedGateway.Proofs.Calendar.Moment
import SignedGateway.Proofs.Signature.Lifetime
import SignedGateway.Proofs.Gateway.Payload
import SignedGateway.Proofs.Store.HostName
import SignedGateway.Proofs.Uri.Form
import SignedGateway.Proofs.Uri.Below
import SignedGateway.Proofs.Credential.LookupUrl
import SignedGateway.Proofs.MultiMap.Additions
import SignedGateway.Proofs.Signature.Arrangement
import SignedGateway.Proofs.Json.Fields
import SignedGateway.Proofs.Policy.Document
import SignedGateway.Proofs.Policy.Catalog
import SignedGateway.Proofs.Json.Characters
import SignedGateway.Proofs.Json.Numeral
import SignedGateway.Proofs.Json.Lexemes
import SignedGateway.Proofs.Json.Document
import SignedGateway.Proofs.Json.Grammar
import SignedGateway.Proofs.Policy.Server
import SignedGateway.Proofs.Xml.Reading
import SignedGateway.Proofs.Signature.Drift
import SignedGateway.Proofs.Gateway.Documents
import SignedGateway.Proofs.Http.Concealment
import SignedGateway.Proofs.Gateway.Blame
import SignedGateway.Proofs.Gateway.FailureStatus
import SignedGateway.Proofs.MultiMap.History
import SignedGateway.Proofs.Credential.Cache
import SignedGateway.Proofs.Http.Lines
import SignedGateway.Proofs.Gateway.Relay
import SignedGateway.Proofs.Calendar.Date
import SignedGateway.Proofs.Calendar.Digits
import SignedGateway.Proofs.Calendar.Spelling
import SignedGateway.Proofs.Calendar.Documented
import SignedGateway.Proofs.Signature.Dates
import SignedGateway.Proofs.Text.Words
import SignedGateway.Proofs.Signature.HeaderLines
import SignedGateway.Proofs.MultiMap.Presence
import SignedGateway.Proofs.Gateway.CanonicalPath
import SignedGateway.Proofs.Json.Integers
import SignedGateway.Proofs.Json.Denotation
import SignedGateway.Proofs.Json.Writing
import SignedGateway.Proofs.Json.Records
import SignedGateway.Proofs.Credential.Document
import SignedGateway.Proofs.Gateway.OwnPath
