import ProxyWatch.Capture.Child
import ProxyWatch.Capture.Command
import ProxyWatch.Capture.Json
import ProxyWatch.Capture.Process
import ProxyWatch.Capture.Script
import ProxyWatch.Checker.Options
import ProxyWatch.Checker.Round
import ProxyWatch.Clock
import ProxyWatch.CommandLine
import ProxyWatch.CommandLine.Diagnostic
import ProxyWatch.CommandLine.Help
import ProxyWatch.CommandLine.Options
import ProxyWatch.CommandLine.Report
import ProxyWatch.Config
import ProxyWatch.Config.File
import ProxyWatch.Config.Json
import ProxyWatch.Config.Toml
import ProxyWatch.Duration
import ProxyWatch.Endpoint
import ProxyWatch.Endpoint.Json
import ProxyWatch.Event
import ProxyWatch.Event.Feed
import ProxyWatch.Event.Json
import ProxyWatch.Failover
import ProxyWatch.FileTree
import ProxyWatch.Json
import ProxyWatch.Json.Fields
import ProxyWatch.Json.Printer
import ProxyWatch.Json.Reader
import ProxyWatch.Main
import ProxyWatch.Number.Binary64
import ProxyWatch.Number.Power
import ProxyWatch.Number.Shortest
import ProxyWatch.Probe
import ProxyWatch.Probe.Request
import ProxyWatch.Probe.Script
import ProxyWatch.Proofs.Capture.Direct
import ProxyWatch.Proofs.Capture.Proxied
import ProxyWatch.Proofs.Config
import ProxyWatch.Proofs.Config.Spans
import ProxyWatch.Proofs.Failover.Apart
import ProxyWatch.Proofs.Failover.Average
import ProxyWatch.Proofs.Failover.Calls
import ProxyWatch.Proofs.Failover.Interleaving
import ProxyWatch.Proofs.Failover.Operations
import ProxyWatch.Proofs.Failover.Reporting
import ProxyWatch.Proofs.Failover.Revisions
import ProxyWatch.Proofs.Failover.Serial
import ProxyWatch.Proofs.Failover.Streak
import ProxyWatch.Proofs.FileTree
import ProxyWatch.Proofs.Json.Records
import ProxyWatch.Proofs.Json.RoundTrip
import ProxyWatch.Proofs.Number.Accuracy
import ProxyWatch.Proofs.Number.Binary64
import ProxyWatch.Proofs.Number.Power
import ProxyWatch.Proofs.Number.Rounding
import ProxyWatch.Proofs.Number.Shortest
import ProxyWatch.Proofs.PathText
import ProxyWatch.Proofs.ProbeRequest
import ProxyWatch.Proofs.Progress
import ProxyWatch.Proofs.Redaction.Forms
import ProxyWatch.Proofs.Redaction.Keywords
import ProxyWatch.Proofs.Redaction.Url
import ProxyWatch.Proofs.Redaction.Userinfo
import ProxyWatch.Proofs.Registry.Durable
import ProxyWatch.Proofs.Registry.Interrupted
import ProxyWatch.Proofs.Registry.Lookup
import ProxyWatch.Proofs.Registry.Records
import ProxyWatch.Proofs.Registry.Savable
import ProxyWatch.Proofs.Registry.StateFile
import ProxyWatch.Proofs.Registry.Writers
import ProxyWatch.Proofs.RequestUri
import ProxyWatch.Proofs.Retry
import ProxyWatch.Proofs.Retry.Schedule
import ProxyWatch.Proofs.Selection.Order
import ProxyWatch.Proofs.Selection.Ranking
import ProxyWatch.Proofs.Selection.Standing
import ProxyWatch.Proofs.Service.Adding
import ProxyWatch.Proofs.Service.Cadence
import ProxyWatch.Proofs.Service.Calls
import ProxyWatch.Proofs.Service.Closing
import ProxyWatch.Proofs.Service.Deeds
import ProxyWatch.Proofs.Service.Elsewhere
import ProxyWatch.Proofs.Service.Exclusive
import ProxyWatch.Proofs.Service.Moves
import ProxyWatch.Proofs.Service.Records
import ProxyWatch.Proofs.Service.Refusals
import ProxyWatch.Proofs.Service.Restart
import ProxyWatch.Proofs.Service.Sessions
import ProxyWatch.Proofs.Service.Shutdown
import ProxyWatch.Proofs.Service.Soundness
import ProxyWatch.Proofs.Service.Undisturbed
import ProxyWatch.Proofs.Session.Acting
import ProxyWatch.Proofs.Session.Course
import ProxyWatch.Proofs.Session.Holding
import ProxyWatch.Proofs.Session.Managed
import ProxyWatch.Proofs.Session.Plan
import ProxyWatch.Proofs.Session.Punctual
import ProxyWatch.Proofs.Session.Routing
import ProxyWatch.Proofs.Session.Running
import ProxyWatch.Proofs.Session.Shutdown
import ProxyWatch.Proofs.Session.Step
import ProxyWatch.Proofs.Session.Stopping
import ProxyWatch.Proofs.Session.Story
import ProxyWatch.Proofs.Session.Ticking
import ProxyWatch.Proofs.Session.Timed
import ProxyWatch.Proofs.Session.Told
import ProxyWatch.Proofs.Session.Words
import ProxyWatch.Proofs.Text.Bytes
import ProxyWatch.Proofs.Text.Numeral
import ProxyWatch.Proofs.Text.Pattern
import ProxyWatch.Proofs.Text.Run
import ProxyWatch.Proofs.Timestamp
import ProxyWatch.Proofs.Url.Credentials
import ProxyWatch.Proofs.Watch.Alone
import ProxyWatch.Proofs.Watch.Cadence
import ProxyWatch.Proofs.Watch.Cycle
import ProxyWatch.Proofs.Watch.Flights
import ProxyWatch.Proofs.Watch.Flow
import ProxyWatch.Proofs.Watch.Landing
import ProxyWatch.Proofs.Watch.Moves
import ProxyWatch.Proofs.Watch.Probing
import ProxyWatch.Proofs.Watch.Settling
import ProxyWatch.Proofs.Watch.Shape
import ProxyWatch.Proofs.Watch.Stirring
import ProxyWatch.Proofs.Watch.Writing
import ProxyWatch.ProxyUrl
import ProxyWatch.Redaction
import ProxyWatch.Redaction.Url
import ProxyWatch.Registry
import ProxyWatch.Registry.StateFile
import ProxyWatch.RequestUri
import ProxyWatch.Retry
import ProxyWatch.Selection
import ProxyWatch.Selection.Text
import ProxyWatch.Service
import ProxyWatch.Session
import ProxyWatch.Session.Options
import ProxyWatch.Session.Record
import ProxyWatch.Session.Run
import ProxyWatch.Shell.Arithmetic
import ProxyWatch.Shell.Command
import ProxyWatch.Shell.Expansion
import ProxyWatch.Shell.Machine
import ProxyWatch.Shell.Output
import ProxyWatch.Shell.Process
import ProxyWatch.Shell.Script
import ProxyWatch.Shell.Token
import ProxyWatch.Text.Blank
import ProxyWatch.Text.Canonical
import ProxyWatch.Text.CodeRange
import ProxyWatch.Text.Column
import ProxyWatch.Text.Decimal
import ProxyWatch.Text.Direction
import ProxyWatch.Text.Folding
import ProxyWatch.Text.Hex
import ProxyWatch.Text.Inspect
import ProxyWatch.Text.Joining
import ProxyWatch.Text.Mark
import ProxyWatch.Text.Pattern
import ProxyWatch.Text.Printable
import ProxyWatch.Text.Quoted
import ProxyWatch.Timestamp
import ProxyWatch.Timestamp.Epoch
import ProxyWatch.Timestamp.Reader
import ProxyWatch.Toml
import ProxyWatch.Toml.Document
import ProxyWatch.Toml.Printer
import ProxyWatch.Toml.Quoted
import ProxyWatch.Toml.Reader
import ProxyWatch.Toml.Scalar
import ProxyWatch.Url
import ProxyWatch.Url.Domain
import ProxyWatch.Url.Host
import ProxyWatch.Url.Ipv4
import ProxyWatch.Url.Ipv6
import ProxyWatch.Url.Parser
import ProxyWatch.Url.Path
import ProxyWatch.Url.Percent
import ProxyWatch.Url.Punycode
import ProxyWatch.Watch
import ProxyWatch.Proofs.Toml.Scalar
import ProxyWatch.Proofs.Toml.Quoted
import ProxyWatch.Proofs.Toml.Value
import ProxyWatch.Proofs.Toml.Document
import ProxyWatch.Proofs.Config.Toml
