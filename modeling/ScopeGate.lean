import ScopeGate.Cache.Basic
import ScopeGate.Cache.Schedule
import ScopeGate.Config
import ScopeGate.Gate.Authorizer
import ScopeGate.Gate.Bearer
import ScopeGate.Gate.Rejection
import ScopeGate.Gate.Requirement
import ScopeGate.Gate.Rpc
import ScopeGate.Gate.Schedule
import ScopeGate.Gate.Site
import ScopeGate.Http.Address
import ScopeGate.Http.Chunks
import ScopeGate.Http.Head
import ScopeGate.Http.Host
import ScopeGate.Http.Message
import ScopeGate.Http.Pattern
import ScopeGate.Http.Reference
import ScopeGate.Http.Reply
import ScopeGate.Http.Resource
import ScopeGate.Http.Routing
import ScopeGate.Http.Target
import ScopeGate.Http.Wire
import ScopeGate.InFlight
import ScopeGate.Introspection.Endpoint
import ScopeGate.Introspection.Exchange
import ScopeGate.Introspection.Introspector
import ScopeGate.Introspection.Provider
import ScopeGate.Introspection.Response
import ScopeGate.Introspection.Schedule
import ScopeGate.Introspection.Script
import ScopeGate.Introspection.Verdict
import ScopeGate.Json.Basic
import ScopeGate.Json.Parser
import ScopeGate.Json.Printer
import ScopeGate.Main
import ScopeGate.Metrics
import ScopeGate.Proofs.Cache.Conservation
import ScopeGate.Proofs.Cache.Counters
import ScopeGate.Proofs.Cache.Entries
import ScopeGate.Proofs.Cache.History
import ScopeGate.Proofs.Cache.Places
import ScopeGate.Proofs.Cache.Purging
import ScopeGate.Proofs.Cache.Recency
import ScopeGate.Proofs.Cache.Rekeyed
import ScopeGate.Proofs.Config.Acceptance
import ScopeGate.Proofs.FirstFailure
import ScopeGate.Proofs.Gate.Accounts
import ScopeGate.Proofs.Gate.Admission
import ScopeGate.Proofs.Gate.Afresh
import ScopeGate.Proofs.Gate.Arrivals
import ScopeGate.Proofs.Gate.Beside
import ScopeGate.Proofs.Gate.Checks
import ScopeGate.Proofs.Gate.Closings
import ScopeGate.Proofs.Gate.Expiry
import ScopeGate.Proofs.Gate.Extraction
import ScopeGate.Proofs.Gate.Failures
import ScopeGate.Proofs.Gate.Opacity
import ScopeGate.Proofs.Gate.Pace
import ScopeGate.Proofs.Gate.Provenance
import ScopeGate.Proofs.Gate.Renaming
import ScopeGate.Proofs.Gate.Requirements
import ScopeGate.Proofs.Gate.Tokens
import ScopeGate.Proofs.Gate.Transparency
import ScopeGate.Proofs.Gate.Transports
import ScopeGate.Proofs.Introspection.Answers
import ScopeGate.Proofs.Introspection.Places
import ScopeGate.Proofs.Introspection.Statistics
import ScopeGate.Proofs.Json.Documents
import ScopeGate.Proofs.Json.Records
import ScopeGate.Proofs.Json.Strings
import ScopeGate.Proofs.Run.Calls
import ScopeGate.Proofs.Run.Moments
import ScopeGate.Proofs.Run.SideBySide
import ScopeGate.Proofs.Scope.Matching
import ScopeGate.Proofs.Scope.Metadata
import ScopeGate.Proofs.Scope.Order
import ScopeGate.Proofs.Scope.Parts
import ScopeGate.Proofs.Scope.Redundancy
import ScopeGate.Proofs.Scope.Registration
import ScopeGate.Proofs.Scope.Segments
import ScopeGate.Proofs.Server.Readings
import ScopeGate.Proofs.Session.Accounts
import ScopeGate.Proofs.Session.Calls
import ScopeGate.Proofs.Session.Discards
import ScopeGate.Proofs.Session.Failures
import ScopeGate.Proofs.Session.SignOut
import ScopeGate.Proofs.Telemetry.Edits
import ScopeGate.Proofs.Telemetry.Masking
import ScopeGate.Proofs.Telemetry.Readings
import ScopeGate.Proofs.Text.Numerals
import ScopeGate.Proofs.Text.Trim
import ScopeGate.Proofs.Text.Words
import ScopeGate.Proofs.Time.Calendar
import ScopeGate.Proofs.Time.Numerals
import ScopeGate.Proofs.Time.Timestamps
import ScopeGate.Scope.Basic
import ScopeGate.Scope.Coverage
import ScopeGate.Scope.Fault
import ScopeGate.Scope.Registry
import ScopeGate.Server.Basic
import ScopeGate.Server.Rehearsal
import ScopeGate.Session.Basic
import ScopeGate.Session.Directory
import ScopeGate.Session.Schedule
import ScopeGate.Session.Service
import ScopeGate.Telemetry.Record
import ScopeGate.Telemetry.Signal
import ScopeGate.Text.Blank
import ScopeGate.Text.Folded
import ScopeGate.Text.Hidden
import ScopeGate.Text.Numeral
import ScopeGate.Text.Octets
import ScopeGate.Text.Quoted
import ScopeGate.Time.Calendar
import ScopeGate.Time.Instant
import ScopeGate.Time.Timestamp
