import MockHost.Act
import MockHost.Behavior
import MockHost.Client.Basic
import MockHost.Client.Reply
import MockHost.CommandLine.Help
import MockHost.CommandLine.Options
import MockHost.CommandLine.Run
import MockHost.Configuration
import MockHost.Connection.Basic
import MockHost.Connection.Cycle
import MockHost.Connection.Reading
import MockHost.Delivery
import MockHost.Dispatcher
import MockHost.Document
import MockHost.Error.Failure
import MockHost.Error.Report
import MockHost.Error.System
import MockHost.Expectation
import MockHost.FileTree
import MockHost.Hook
import MockHost.Level
import MockHost.Logging
import MockHost.Main
import MockHost.MessageStream
import MockHost.Network.Basic
import MockHost.Network.Link
import MockHost.Network.Operation
import MockHost.Network.Reader
import MockHost.Network.Threads
import MockHost.Number.Binary64
import MockHost.Number.Integer
import MockHost.Number.Shortest
import MockHost.Path
import MockHost.Pattern.Check
import MockHost.Pattern.Error
import MockHost.Pattern.Flags
import MockHost.Pattern.Grammar
import MockHost.Pattern.Matcher
import MockHost.Pattern.Reading
import MockHost.Pattern.Syntax
import MockHost.Pool
import MockHost.Registry
import MockHost.Scripted.Connection
import MockHost.Scripted.World
import MockHost.Settings.Basic
import MockHost.Settings.EnvironmentFile
import MockHost.Settings.Reading
import MockHost.Table
import MockHost.Text.Basic
import MockHost.Text.Escape
import MockHost.Text.Quoted
import MockHost.Text.Utf8
import MockHost.Trace
import MockHost.Unicode.Alphanumeric
import MockHost.Unicode.Blank
import MockHost.Unicode.Case
import MockHost.Unicode.Decimal
import MockHost.Unicode.Identifier
import MockHost.Unicode.Name
import MockHost.Unicode.Names.Alphabets
import MockHost.Unicode.Names.Historic
import MockHost.Unicode.Names.Pictographs
import MockHost.Unicode.Names.Syllables
import MockHost.Unicode.Names.Symbols
import MockHost.Unicode.Printable
import MockHost.Unicode.Ranges
import MockHost.Validation.Issue
import MockHost.Validation.Scalar
import MockHost.Value.Basic
import MockHost.Value.Json
import MockHost.Value.Printer
import MockHost.Proofs.Dispatch.Trace
import MockHost.Proofs.Connection.Deed
import MockHost.Proofs.Connection.Conduct
import MockHost.Proofs.Connection.Undisturbed
import MockHost.Proofs.Scripted.Bytes
import MockHost.Proofs.Connection.Cycle
import MockHost.Proofs.Connection.Serving
import MockHost.Proofs.Connection.Reading
import MockHost.Proofs.Connection.Run
import MockHost.Proofs.Scripted.Walk
import MockHost.Proofs.Connection.Ledger
import MockHost.Proofs.Connection.Traced
import MockHost.Proofs.Connection.Cleanup
import MockHost.Proofs.Connection.Asking
import MockHost.Proofs.Connection.Undertaking
import MockHost.Proofs.Network.Turns
import MockHost.Proofs.Network.Conduct
import MockHost.Proofs.Network.Threads
import MockHost.Proofs.Network.Operations
import MockHost.Proofs.Network.Dispatches
import MockHost.Proofs.Network.Counting
import MockHost.Proofs.Configuration.Files
import MockHost.Proofs.Configuration.Paths
import MockHost.Proofs.Configuration.Faults
import MockHost.Proofs.Network.Walk
import MockHost.Proofs.Network.Accepting
import MockHost.Proofs.Dispatch.Twin
import MockHost.Proofs.Dispatch.SideBySide
import MockHost.Proofs.Dispatch.Custody
import MockHost.Proofs.Dispatch.Endpoints
import MockHost.Proofs.Dispatch.Isolation
import MockHost.Proofs.Client.Matching
import MockHost.Proofs.Configuration.Ports
import MockHost.Proofs.Network.Lifecycle
import MockHost.Proofs.Network.Secluded
import MockHost.Proofs.Pool.Addition
import MockHost.Proofs.Pool.Bootstrap
import MockHost.Proofs.Pool.Shutdown
import MockHost.Proofs.CommandLine.Exit
import MockHost.Proofs.Text.Utf8
import MockHost.Proofs.Connection.Course
import MockHost.Proofs.Connection.Halting
import MockHost.Proofs.Connection.Keys
import MockHost.Proofs.Dispatch.Defaults
import MockHost.Pool.Operation
import MockHost.Proofs.Pool.Aging
import MockHost.Proofs.Pool.Ownership
import MockHost.Proofs.Client.Replies
import MockHost.Proofs.Client.Sending
import MockHost.Proofs.Text.Pieces
import MockHost.Proofs.Text.Escape
import MockHost.Proofs.Text.Doubled
import MockHost.Proofs.Registry.Contents
import MockHost.Proofs.Configuration.Merge
import MockHost.Proofs.Pool.Registries
import MockHost.Proofs.Network.Starting
import MockHost.Proofs.Pool.Handing
import MockHost.Proofs.Registry.Freezing
import MockHost.Proofs.Text.Boundary
import MockHost.Proofs.Connection.Texts
import MockHost.Proofs.Pattern.Literal
import MockHost.Proofs.Connection.Answers
import MockHost.Client.Operation
import MockHost.Proofs.Client.Account
import MockHost.Proofs.Scripted.Systemic
import MockHost.Proofs.Client.Owning
import MockHost.Proofs.Stream.History
import MockHost.Proofs.Configuration.Queries
import MockHost.Proofs.Configuration.Standing
