import ResetCheck.Arguments
import ResetCheck.Arguments.Reader
import ResetCheck.Bridge
import ResetCheck.Bridge.Attached
import ResetCheck.Bridge.Complaint
import ResetCheck.Bridge.Transcript
import ResetCheck.Budget
import ResetCheck.Check
import ResetCheck.CommandLine
import ResetCheck.CommandLine.Fault
import ResetCheck.CommandLine.Printout
import ResetCheck.Config
import ResetCheck.Config.File
import ResetCheck.Config.Stored
import ResetCheck.Connectivity
import ResetCheck.Data
import ResetCheck.Data.Shape
import ResetCheck.Decimal.Binary64
import ResetCheck.Decimal.Shortest
import ResetCheck.Device
import ResetCheck.Device.Bridged
import ResetCheck.Device.Scripted
import ResetCheck.Device.Scripted.Bench
import ResetCheck.Device.Tabulated
import ResetCheck.Fault
import ResetCheck.Files
import ResetCheck.Files.Path
import ResetCheck.Instant
import ResetCheck.Json.Reader
import ResetCheck.Json.Writer
import ResetCheck.LogFilter
import ResetCheck.Main
import ResetCheck.Observation
import ResetCheck.Observation.Intake
import ResetCheck.Outcome
import ResetCheck.Pattern
import ResetCheck.Pattern.Escape
import ResetCheck.Pattern.Options
import ResetCheck.Pattern.Reader
import ResetCheck.Pattern.Set
import ResetCheck.Proofs.Budget
import ResetCheck.Proofs.Climb
import ResetCheck.Proofs.Device.Bench
import ResetCheck.Proofs.Device.Bridged
import ResetCheck.Proofs.Device.Scripted
import ResetCheck.Proofs.Instant
import ResetCheck.Proofs.Observation.Intake
import ResetCheck.Proofs.Observation.Rounds
import ResetCheck.Proofs.Outcome
import ResetCheck.Proofs.Property
import ResetCheck.Proofs.Session.Course
import ResetCheck.Proofs.Session.Departure
import ResetCheck.Proofs.Session.Follow
import ResetCheck.Proofs.Session.Judged
import ResetCheck.Proofs.Session.LargerBudget
import ResetCheck.Proofs.Session.Lasting
import ResetCheck.Proofs.Session.LinkLoss
import ResetCheck.Proofs.Session.Noted
import ResetCheck.Proofs.Session.Outage
import ResetCheck.Proofs.Session.Refused
import ResetCheck.Proofs.Session.Report
import ResetCheck.Proofs.Session.Requests
import ResetCheck.Proofs.Session.Returned
import ResetCheck.Proofs.Session.Timeline
import ResetCheck.Proofs.Session.Window
import ResetCheck.Proofs.Stored.Abridged
import ResetCheck.Proofs.Stored.Rejudged
import ResetCheck.Proofs.Stored.RoundTrip
import ResetCheck.Proofs.Stored.Window
import ResetCheck.Proofs.Toml.Keys
import ResetCheck.Proofs.Toml.Layout
import ResetCheck.Proofs.Watch.Alone
import ResetCheck.Proofs.Watch.Coherent
import ResetCheck.Proofs.Watch.Listener
import ResetCheck.Proofs.Watch.Listening
import ResetCheck.Proofs.Watch.Patience
import ResetCheck.Proofs.Watch.Record
import ResetCheck.Proofs.Watch.Step
import ResetCheck.Property
import ResetCheck.Session
import ResetCheck.Span
import ResetCheck.Span.Text
import ResetCheck.Stored.Name
import ResetCheck.Stored.Report
import ResetCheck.Text.Blank
import ResetCheck.Text.Casing
import ResetCheck.Text.Casing.Table
import ResetCheck.Text.Letters
import ResetCheck.Text.Numeral
import ResetCheck.Text.Quoted
import ResetCheck.Text.Quoted.Table
import ResetCheck.Text.Ranges
import ResetCheck.Text.Search
import ResetCheck.Text.Slice
import ResetCheck.Text.Utf8
import ResetCheck.TimeLimit
import ResetCheck.Toml.Document
import ResetCheck.Toml.Reader
import ResetCheck.Toml.Scalar
import ResetCheck.Toml.Writer
import ResetCheck.Variant
import ResetCheck.Verdict
import ResetCheck.Watch
import ResetCheck.Watch.Listener
import ResetCheck.Proofs.CommandLine.Contract
import ResetCheck.Proofs.Coherence
import ResetCheck.Proofs.Bridge.Reply
import ResetCheck.Proofs.Device.Polled
import ResetCheck.Proofs.Device.Transitions
import ResetCheck.Proofs.Stored.Config
import ResetCheck.Proofs.Bridge.Complaint
import ResetCheck.Proofs.Bridge.Attached
import ResetCheck.Proofs.CommandLine.Choice
import ResetCheck.Proofs.Arguments
