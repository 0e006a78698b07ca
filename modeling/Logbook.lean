import Logbook.Chain
import Logbook.Counters
import Logbook.Decimal.Binary64
import Logbook.Decimal.Shortest
import Logbook.Duration
import Logbook.Error
import Logbook.Fields
import Logbook.Filter
import Logbook.Filter.Pattern
import Logbook.Json
import Logbook.Json.Printer
import Logbook.Json.Reader
import Logbook.Json.Typed
import Logbook.Layout
import Logbook.Level
import Logbook.Logger
import Logbook.Logger.Builder
import Logbook.Output
import Logbook.Output.Buffer
import Logbook.Output.Disk
import Logbook.Proofs.Chain.Layers
import Logbook.Proofs.Chain.Nulls
import Logbook.Proofs.Chain.Precedence
import Logbook.Proofs.Decimal.Rounding
import Logbook.Proofs.Decimal.Shortest
import Logbook.Proofs.Duration
import Logbook.Proofs.Filter.Grammar
import Logbook.Proofs.Filter.Lookup
import Logbook.Proofs.Filter.RoundTrip
import Logbook.Proofs.Filter.Rules
import Logbook.Proofs.Json.Double
import Logbook.Proofs.Json.Number
import Logbook.Proofs.Json.Range
import Logbook.Proofs.Json.Reading
import Logbook.Proofs.Json.Typed
import Logbook.Proofs.Layout
import Logbook.Proofs.Level
import Logbook.Proofs.Logger.Asking
import Logbook.Proofs.Logger.Building
import Logbook.Proofs.Logger.Counting
import Logbook.Proofs.Logger.Overlay
import Logbook.Proofs.Output.File
import Logbook.Proofs.Output.Lines
import Logbook.Proofs.Output.RoutingKey
import Logbook.Proofs.Redaction.Asking
import Logbook.Proofs.Redaction.Bounds
import Logbook.Proofs.Redaction.Disclosure
import Logbook.Proofs.Redaction.Email
import Logbook.Proofs.Redaction.Numbers
import Logbook.Proofs.Redaction.Passes
import Logbook.Proofs.Redaction.Places
import Logbook.Proofs.Redaction.Secrecy
import Logbook.Proofs.Redaction.Settled
import Logbook.Proofs.Redaction.Shipped
import Logbook.Proofs.Redaction.Transparency
import Logbook.Proofs.Regex.Preference
import Logbook.Proofs.Regex.Reading
import Logbook.Proofs.Regex.Repetition
import Logbook.Proofs.Regex.Replacing
import Logbook.Proofs.Regex.Sealed
import Logbook.Proofs.Regex.Sweep
import Logbook.Proofs.Session
import Logbook.Proofs.Session.Journal
import Logbook.Proofs.Session.Memory
import Logbook.Proofs.Settings
import Logbook.Proofs.Sink.FanOut
import Logbook.Proofs.Sink.FilterLevel
import Logbook.Proofs.Sink.Frame
import Logbook.Proofs.Sink.Projection
import Logbook.Proofs.Sink.Range
import Logbook.Proofs.Sink.Reach
import Logbook.Proofs.Sink.Routing
import Logbook.Proofs.Sink.Verbosity
import Logbook.Proofs.Value.Asking
import Logbook.Proofs.Value.Native
import Logbook.Proofs.Value.Rereading
import Logbook.Proofs.Value.RoundTrip
import Logbook.Record
import Logbook.Redaction
import Logbook.Redaction.Keys
import Logbook.Redaction.Pattern
import Logbook.Regex.Basic
import Logbook.Regex.CharClass
import Logbook.Regex.Match
import Logbook.Regex.Reader
import Logbook.Regex.Size
import Logbook.Settings
import Logbook.Settings.Json
import Logbook.Sink
import Logbook.Sink.Delivery
import Logbook.Sink.Open
import Logbook.Store
import Logbook.Supply
import Logbook.Target
import Logbook.Text.Blank
import Logbook.Text.Case
import Logbook.Text.Lines
import Logbook.Text.Quoted
import Logbook.Text.Split
import Logbook.Time.Directive
import Logbook.Time.Format
import Logbook.Time.Instant
import Logbook.Time.Stamp
import Logbook.Unicode.Age
import Logbook.Unicode.Boundary
import Logbook.Unicode.CaseTable
import Logbook.Unicode.Category
import Logbook.Unicode.CharSet
import Logbook.Unicode.Property
import Logbook.Unicode.Script
import Logbook.Unicode.Word
import Logbook.Value
import Logbook.Value.Inspect
import Logbook.Value.Json
