import DebugBridge.Backend.Call
import DebugBridge.Backend.Client
import DebugBridge.Backend.RunState
import DebugBridge.Backend.Simulated
import DebugBridge.Backend.Wire
import DebugBridge.Breakpoint.BySource
import DebugBridge.CommandLine.Arguments
import DebugBridge.CommandLine.Program
import DebugBridge.Config.Load
import DebugBridge.Config.Settings
import DebugBridge.Context.Execution
import DebugBridge.Decimal.Binary64
import DebugBridge.Decimal.Notation
import DebugBridge.Decimal.Rounding
import DebugBridge.Decode.Format
import DebugBridge.Decode.Mismatch
import DebugBridge.Decode.OfJson
import DebugBridge.Decode.OfText
import DebugBridge.Framing.Frame
import DebugBridge.Json.Failure
import DebugBridge.Json.Lexeme
import DebugBridge.Json.Print
import DebugBridge.Json.Read
import DebugBridge.Json.Value
import DebugBridge.Log.Filter
import DebugBridge.Log.Panic
import DebugBridge.Log.Record
import DebugBridge.Log.Stamp
import DebugBridge.Main
import DebugBridge.Path.Normal
import DebugBridge.Path.Resource
import DebugBridge.Proofs.Backend.Agreement
import DebugBridge.Proofs.Backend.BasePath
import DebugBridge.Proofs.Backend.Breakpoints
import DebugBridge.Proofs.Backend.Endpoints
import DebugBridge.Proofs.Backend.Exchanges
import DebugBridge.Proofs.Backend.Refusals
import DebugBridge.Proofs.Backend.Replies
import DebugBridge.Proofs.Backend.RunStates
import DebugBridge.Proofs.Backend.Snapshots
import DebugBridge.Proofs.Breakpoint.BySource
import DebugBridge.Proofs.Breakpoint.Replacing
import DebugBridge.Proofs.Config.Loading
import DebugBridge.Proofs.Config.Rejections
import DebugBridge.Proofs.Context.Separation
import DebugBridge.Proofs.Context.StalePolls
import DebugBridge.Proofs.Context.Store
import DebugBridge.Proofs.Decimal.Rounding
import DebugBridge.Proofs.Decimal.Shortest
import DebugBridge.Proofs.Decode.Masked
import DebugBridge.Proofs.Decode.Printed
import DebugBridge.Proofs.Decode.Taken
import DebugBridge.Proofs.Decode.Written
import DebugBridge.Proofs.Framing.Arriving
import DebugBridge.Proofs.Framing.Grammar
import DebugBridge.Proofs.Framing.Header
import DebugBridge.Proofs.Framing.Intake
import DebugBridge.Proofs.Framing.Lines
import DebugBridge.Proofs.Framing.Stream
import DebugBridge.Proofs.Json.Floats
import DebugBridge.Proofs.Json.Lexemes
import DebugBridge.Proofs.Json.Members
import DebugBridge.Proofs.Json.Numbers
import DebugBridge.Proofs.Json.Numerals
import DebugBridge.Proofs.Json.Reread
import DebugBridge.Proofs.Json.RoundTrip
import DebugBridge.Proofs.Json.Skipping
import DebugBridge.Proofs.Json.Strings
import DebugBridge.Proofs.Json.Written
import DebugBridge.Proofs.Log.Merging
import DebugBridge.Proofs.Path.BySegments
import DebugBridge.Proofs.Path.Canonical
import DebugBridge.Proofs.Path.Normal
import DebugBridge.Proofs.Path.Resource
import DebugBridge.Proofs.Path.RoundTrip
import DebugBridge.Proofs.Path.Segments
import DebugBridge.Proofs.Path.Spellings
import DebugBridge.Proofs.Protocol.Notices
import DebugBridge.Proofs.Protocol.Stops
import DebugBridge.Proofs.Redaction.Configuration
import DebugBridge.Proofs.Redaction.Passages
import DebugBridge.Proofs.Redaction.Quotes
import DebugBridge.Proofs.Results
import DebugBridge.Proofs.Schedule.Cancelling
import DebugBridge.Proofs.Schedule.Moves
import DebugBridge.Proofs.Schedule.Ticking
import DebugBridge.Proofs.Server.Delivery
import DebugBridge.Proofs.Server.Handing
import DebugBridge.Proofs.Server.Reading
import DebugBridge.Proofs.Server.Service
import DebugBridge.Proofs.Server.Serving
import DebugBridge.Proofs.Session.Accounting
import DebugBridge.Proofs.Session.ActivityReactions
import DebugBridge.Proofs.Session.Addresses
import DebugBridge.Proofs.Session.ArgumentFaults
import DebugBridge.Proofs.Session.Asking
import DebugBridge.Proofs.Session.AttachProtocol
import DebugBridge.Proofs.Session.Attaching
import DebugBridge.Proofs.Session.Commands
import DebugBridge.Proofs.Session.Conduct
import DebugBridge.Proofs.Session.Courses
import DebugBridge.Proofs.Session.Duties
import DebugBridge.Proofs.Session.Errands
import DebugBridge.Proofs.Session.Frame
import DebugBridge.Proofs.Session.Inquiries
import DebugBridge.Proofs.Session.Inspection
import DebugBridge.Proofs.Session.Journal
import DebugBridge.Proofs.Session.LaunchAnswers
import DebugBridge.Proofs.Session.Lifetimes
import DebugBridge.Proofs.Session.Milestones
import DebugBridge.Proofs.Session.ModeCalls
import DebugBridge.Proofs.Session.Notices
import DebugBridge.Proofs.Session.Numbering
import DebugBridge.Proofs.Session.Origins
import DebugBridge.Proofs.Session.Others
import DebugBridge.Proofs.Session.Outstanding
import DebugBridge.Proofs.Session.Pauses
import DebugBridge.Proofs.Session.Places
import DebugBridge.Proofs.Session.Pollers
import DebugBridge.Proofs.Session.Polling
import DebugBridge.Proofs.Session.Reaction
import DebugBridge.Proofs.Session.Recorded
import DebugBridge.Proofs.Session.Refusals
import DebugBridge.Proofs.Session.Release
import DebugBridge.Proofs.Session.RequestReactions
import DebugBridge.Proofs.Session.Runs
import DebugBridge.Proofs.Session.Separation
import DebugBridge.Proofs.Session.Shutdown
import DebugBridge.Proofs.Session.Standing
import DebugBridge.Proofs.Session.SyncBlocks
import DebugBridge.Proofs.Session.SyncCalls
import DebugBridge.Proofs.Session.SyncJournal
import DebugBridge.Proofs.Session.SyncTurns
import DebugBridge.Proofs.Session.Syncing
import DebugBridge.Proofs.Session.Table
import DebugBridge.Proofs.Simulation.Filling
import DebugBridge.Proofs.Simulation.Reads
import DebugBridge.Proofs.Simulation.ResetBreakpoints
import DebugBridge.Proofs.Simulation.SyncedBreakpoints
import DebugBridge.Proofs.Simulation.TrueStops
import DebugBridge.Proofs.Simulation.World
import DebugBridge.Proofs.Text.ByteOrder
import DebugBridge.Proofs.Text.Composition
import DebugBridge.Proofs.Text.Lowercase
import DebugBridge.Proofs.Text.Quoted
import DebugBridge.Proofs.Toml.Settings
import DebugBridge.Proofs.Toml.Traced
import DebugBridge.Proofs.Toml.WellFormed
import DebugBridge.Proofs.Url.Addresses
import DebugBridge.Proofs.Url.Domains
import DebugBridge.Proofs.Url.Hosts
import DebugBridge.Proofs.Url.Numbers
import DebugBridge.Proofs.Url.Parts
import DebugBridge.Proofs.Url.Percent
import DebugBridge.Proofs.Url.Punycode
import DebugBridge.Proofs.Url.Relative
import DebugBridge.Proofs.Url.RoundTrip
import DebugBridge.Proofs.Url.Segments
import DebugBridge.Protocol.Message
import DebugBridge.Protocol.Outbox
import DebugBridge.Redaction.Quotes
import DebugBridge.Schedule.Task
import DebugBridge.Schedule.Timer
import DebugBridge.Scope.Handles
import DebugBridge.Server.Loop
import DebugBridge.Server.Output
import DebugBridge.Session.Activities
import DebugBridge.Session.Arguments
import DebugBridge.Session.Requests
import DebugBridge.Session.State
import DebugBridge.Session.Step
import DebugBridge.Simulation.Bench
import DebugBridge.Simulation.Rehearsal
import DebugBridge.Text.Alphanumeric
import DebugBridge.Text.Blank
import DebugBridge.Text.Composition
import DebugBridge.Text.LetterCase
import DebugBridge.Text.Lowercase
import DebugBridge.Text.Quoted
import DebugBridge.Text.Ranges
import DebugBridge.Text.Table
import DebugBridge.Text.Unprintable
import DebugBridge.Text.Utf8
import DebugBridge.Toml.Decode
import DebugBridge.Toml.Lexeme
import DebugBridge.Toml.Read
import DebugBridge.Toml.Tables
import DebugBridge.Toml.Value
import DebugBridge.Url.Domain
import DebugBridge.Url.DomainLabels
import DebugBridge.Url.DomainMapping
import DebugBridge.Url.Form
import DebugBridge.Url.Host
import DebugBridge.Url.Percent
import DebugBridge.Url.Punycode
import DebugBridge.Url.Read
