import CommandConsole.Alias.File
import CommandConsole.Alias.Records
import CommandConsole.Alias.Store
import CommandConsole.Alias.Table
import CommandConsole.Assoc
import CommandConsole.Cli.Arguments
import CommandConsole.Cli.Program
import CommandConsole.CommandError
import CommandConsole.Completer
import CommandConsole.Dispatch
import CommandConsole.Files
import CommandConsole.Json.Event
import CommandConsole.Json.Flaw
import CommandConsole.Json.Numeral
import CommandConsole.Json.Reader
import CommandConsole.Json.Shape
import CommandConsole.Json.Value
import CommandConsole.Json.Writer
import CommandConsole.Line.Quote
import CommandConsole.Line.Template
import CommandConsole.Line.Token
import CommandConsole.Line.Typed
import CommandConsole.LineState
import CommandConsole.LogLevel
import CommandConsole.Main
import CommandConsole.Number.Decimal
import CommandConsole.Number.Double
import CommandConsole.Number.Radix
import CommandConsole.Number.Shortest
import CommandConsole.Output
import CommandConsole.Proofs.Alias.Calls
import CommandConsole.Proofs.Alias.FailedChange
import CommandConsole.Proofs.Alias.File
import CommandConsole.Proofs.Alias.Integrity
import CommandConsole.Proofs.Alias.Lifetimes
import CommandConsole.Proofs.Alias.Mirror
import CommandConsole.Proofs.Alias.Overlap
import CommandConsole.Proofs.Alias.Records
import CommandConsole.Proofs.Alias.Serializable
import CommandConsole.Proofs.Alias.Table
import CommandConsole.Proofs.Alias.Upsert
import CommandConsole.Proofs.Assoc
import CommandConsole.Proofs.Completer
import CommandConsole.Proofs.Conduct
import CommandConsole.Proofs.Dispatch.Attribution
import CommandConsole.Proofs.Dispatch.Chain
import CommandConsole.Proofs.Dispatch.Forwarding
import CommandConsole.Proofs.Dispatch.Limit
import CommandConsole.Proofs.Dispatch.Nesting
import CommandConsole.Proofs.Dispatch.Refusal
import CommandConsole.Proofs.Dispatch.Resolution
import CommandConsole.Proofs.Except
import CommandConsole.Proofs.Files
import CommandConsole.Proofs.Json.Compact
import CommandConsole.Proofs.Json.Objects
import CommandConsole.Proofs.Json.StringMaps
import CommandConsole.Proofs.Line.Blocks
import CommandConsole.Proofs.Line.Filling
import CommandConsole.Proofs.Line.Groups
import CommandConsole.Proofs.Line.OnePass
import CommandConsole.Proofs.Line.Quoting
import CommandConsole.Proofs.LineState.Completion
import CommandConsole.Proofs.LineState.History
import CommandConsole.Proofs.Number.Decimal
import CommandConsole.Proofs.Number.Numeral
import CommandConsole.Proofs.Number.Rounding
import CommandConsole.Proofs.Records.Calls
import CommandConsole.Proofs.Records.Comparison
import CommandConsole.Proofs.Records.Condition
import CommandConsole.Proofs.Records.Effects
import CommandConsole.Proofs.Records.Identity
import CommandConsole.Proofs.Records.Layout
import CommandConsole.Proofs.Records.Likeness
import CommandConsole.Proofs.Records.Payload
import CommandConsole.Proofs.Records.Reading
import CommandConsole.Proofs.Records.Rows
import CommandConsole.Proofs.Records.Search
import CommandConsole.Proofs.Records.Stepwise
import CommandConsole.Proofs.Records.Store
import CommandConsole.Proofs.Registry
import CommandConsole.Proofs.Session.AliasRecords
import CommandConsole.Proofs.Session.Apart
import CommandConsole.Proofs.Session.ConcurrentTasks
import CommandConsole.Proofs.Session.Configuration
import CommandConsole.Proofs.Session.Failure
import CommandConsole.Proofs.Session.History
import CommandConsole.Proofs.Session.Input
import CommandConsole.Proofs.Session.Listing
import CommandConsole.Proofs.Session.Log
import CommandConsole.Proofs.Session.NewLine
import CommandConsole.Proofs.Session.Numbers
import CommandConsole.Proofs.Session.Page
import CommandConsole.Proofs.Session.Paths
import CommandConsole.Proofs.Session.RecordLines
import CommandConsole.Proofs.Session.Restart
import CommandConsole.Proofs.Session.Runs
import CommandConsole.Proofs.Session.Setup
import CommandConsole.Proofs.Session.Shadowing
import CommandConsole.Proofs.Session.Tabs
import CommandConsole.Proofs.Session.Traffic
import CommandConsole.Proofs.Session.Mirrored
import CommandConsole.Proofs.Signature.Grammar
import CommandConsole.Proofs.Signature.Slots
import CommandConsole.Proofs.Sink
import CommandConsole.Proofs.Table.Breaks
import CommandConsole.Proofs.Table.Budget
import CommandConsole.Proofs.Table.Columns
import CommandConsole.Proofs.Table.Widths
import CommandConsole.Proofs.Text.Decoding
import CommandConsole.Proofs.Text.LetterCase
import CommandConsole.Proofs.Text.Lines
import CommandConsole.Proofs.Text.Markup
import CommandConsole.Proofs.Text.Trimming
import CommandConsole.Proofs.Text.Words
import CommandConsole.Proofs.Vocabulary
import CommandConsole.Records.Display
import CommandConsole.Records.Domain
import CommandConsole.Records.Payload
import CommandConsole.Records.Store
import CommandConsole.Registry
import CommandConsole.Request
import CommandConsole.Session
import CommandConsole.Settings.Basic
import CommandConsole.Settings.File
import CommandConsole.Settings.Json
import CommandConsole.Settings.Yaml
import CommandConsole.Signature
import CommandConsole.Sink
import CommandConsole.Table
import CommandConsole.Target.Basic
import CommandConsole.Target.Words
import CommandConsole.Task
import CommandConsole.Text.Blank
import CommandConsole.Text.Bytes
import CommandConsole.Text.CaseTable
import CommandConsole.Text.Category
import CommandConsole.Text.CategoryTable
import CommandConsole.Text.Cluster
import CommandConsole.Text.ClusterTable
import CommandConsole.Text.Composition
import CommandConsole.Text.CompositionTable
import CommandConsole.Text.LetterCase
import CommandConsole.Text.Literal
import CommandConsole.Text.Markup
import CommandConsole.Text.Rows
import CommandConsole.ToolServer
import CommandConsole.Trouble
import CommandConsole.View
import CommandConsole.Vocabulary
import CommandConsole.Web.Address
import CommandConsole.Web.Direction
import CommandConsole.Web.DirectionTable
import CommandConsole.Web.Host
import CommandConsole.Web.Ipv4
import CommandConsole.Web.Ipv6
import CommandConsole.Web.Joining
import CommandConsole.Web.JoiningTable
import CommandConsole.Web.NameForm
import CommandConsole.Web.NameTable
import CommandConsole.Web.Percent
import CommandConsole.Web.Punycode
import CommandConsole.Yaml.Flaw
import CommandConsole.Yaml.Node
import CommandConsole.Yaml.Scalar
import CommandConsole.Yaml.Spot
import CommandConsole.Yaml.Tag
import CommandConsole.Yaml.Text
import CommandConsole.Yaml.Token
import CommandConsole.Yaml.Value
import CommandConsole.Yaml.Writer
