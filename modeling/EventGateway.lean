import EventGateway.CloseCode
import EventGateway.Command.Basic
import EventGateway.Command.Error
import EventGateway.Command.Handler
import EventGateway.Config.Address
import EventGateway.Config.Basic
import EventGateway.Config.Document
import EventGateway.Config.Environment
import EventGateway.Config.Settings
import EventGateway.Config.Variables
import EventGateway.Connection.Bootstrap
import EventGateway.Connection.Error
import EventGateway.Connection.Identity
import EventGateway.Digest.Sha256
import EventGateway.Event.Basic
import EventGateway.Event.Document
import EventGateway.EventKinds
import EventGateway.Failure
import EventGateway.Gateway.Basic
import EventGateway.Gateway.Health
import EventGateway.Gateway.Link
import EventGateway.Gateway.Request
import EventGateway.Gateway.Schedule
import EventGateway.Gateway.Startup
import EventGateway.Journal
import EventGateway.Json.Basic
import EventGateway.Json.Number
import EventGateway.Json.Record
import EventGateway.Json.Refusal
import EventGateway.Json.Render
import EventGateway.Json.Scan
import EventGateway.Logging.Console
import EventGateway.Logging.Filter
import EventGateway.Main
import EventGateway.Moment
import EventGateway.Proofs.Accounting
import EventGateway.Proofs.Acknowledgement
import EventGateway.Proofs.Alike
import EventGateway.Proofs.BinaryFrames
import EventGateway.Proofs.Bodies
import EventGateway.Proofs.Bootstrap
import EventGateway.Proofs.Commands
import EventGateway.Proofs.Connections
import EventGateway.Proofs.Decimals
import EventGateway.Proofs.Endings
import EventGateway.Proofs.Fanout
import EventGateway.Proofs.Faults
import EventGateway.Proofs.Freshness
import EventGateway.Proofs.Grammar
import EventGateway.Proofs.Indexes
import EventGateway.Proofs.Isolation
import EventGateway.Proofs.Journal
import EventGateway.Proofs.JsonText
import EventGateway.Proofs.Moves
import EventGateway.Proofs.Numbering
import EventGateway.Proofs.Queue
import EventGateway.Proofs.Recoding
import EventGateway.Proofs.Registry
import EventGateway.Proofs.Retirement
import EventGateway.Proofs.RoundTrip
import EventGateway.Proofs.Run
import EventGateway.Proofs.ScopeText
import EventGateway.Proofs.Steps
import EventGateway.Proofs.Totals
import EventGateway.Proofs.Turns
import EventGateway.Router.Basic
import EventGateway.Scope.Basic
import EventGateway.Scope.Order
import EventGateway.Session.Basic
import EventGateway.Session.Queue
import EventGateway.Session.Registry
import EventGateway.Snowflake.Basic
import EventGateway.Snowflake.Generator
import EventGateway.Snowflake.Order
import EventGateway.Text.Base64
import EventGateway.Text.Blank
import EventGateway.Text.Decimal
import EventGateway.Text.Lowercase
import EventGateway.Text.Quoted
import EventGateway.Text.Ranges
import EventGateway.Text.Utf8
import EventGateway.Token.Authenticator
import EventGateway.Token.Basic
import EventGateway.Token.Header
import EventGateway.Wire.Body
import EventGateway.Wire.Capabilities
import EventGateway.Wire.Document
import EventGateway.Wire.Encoding
import EventGateway.Wire.Fault
import EventGateway.Wire.Frame
import EventGateway.Wire.Payload
import EventGateway.Wire.Protobuf
import EventGateway.Wire.Varint
import EventGateway.Wire.Version
import EventGateway.Proofs.Ledger
import EventGateway.Proofs.Messages
import EventGateway.Proofs.Exactness
import EventGateway.Proofs.Lifetime
import EventGateway.Proofs.Counters
import EventGateway.Proofs.Overflows
import EventGateway.Proofs.Resubscription
import EventGateway.Proofs.Trimming
import EventGateway.Proofs.Encodings
import EventGateway.Proofs.Tokens
import EventGateway.Proofs.JsonGrammar
import EventGateway.Proofs.JsonScan
import EventGateway.Proofs.Records
import EventGateway.Proofs.TextFrames
import EventGateway.Proofs.Closing
import EventGateway.Proofs.Batches
import EventGateway.Proofs.Window
import EventGateway.Proofs.Reports
import EventGateway.Proofs.Ascent
import EventGateway.Proofs.Versions
import EventGateway.Proofs.Failures
import EventGateway.Proofs.Replies
import EventGateway.Proofs.Subscriptions
import EventGateway.Proofs.Extensions
import EventGateway.Proofs.CloseCodes
import EventGateway.Proofs.Timers
import EventGateway.Proofs.Presentation
import EventGateway.Proofs.IdForms
import EventGateway.Proofs.ScopeGrammar
import EventGateway.Proofs.Heartbeats
import EventGateway.Proofs.Representation
import EventGateway.Proofs.EventFrames
import EventGateway.Proofs.RecordOrder
import EventGateway.Proofs.EventDocuments
import EventGateway.Proofs.Loading
