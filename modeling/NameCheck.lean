import NameCheck.Analysis
import NameCheck.Command.Arguments
import NameCheck.Command.Check
import NameCheck.Command.Configured
import NameCheck.Command.Explain
import NameCheck.Command.Help
import NameCheck.Command.Init
import NameCheck.Command.Outcome
import NameCheck.Command.Run
import NameCheck.Config.Decode
import NameCheck.Config.Lookup
import NameCheck.Decimal.Magnitude
import NameCheck.Diagnostic
import NameCheck.Directive
import NameCheck.Files.Discover
import NameCheck.Files.Path
import NameCheck.Files.Tree
import NameCheck.Function
import NameCheck.FunctionName
import NameCheck.Hook
import NameCheck.Json.Print
import NameCheck.Json.Quoted
import NameCheck.Json.Value
import NameCheck.Log.Clock
import NameCheck.Log.Event
import NameCheck.Log.Filter
import NameCheck.Main
import NameCheck.Proofs.Delivery
import NameCheck.Proofs.ExitStatus
import NameCheck.Proofs.Findings
import NameCheck.Proofs.Parts
import NameCheck.Proofs.Positions
import NameCheck.Proofs.Replay
import NameCheck.Proofs.Suppressions
import NameCheck.Registry
import NameCheck.Report.Plain
import NameCheck.Report.Pretty
import NameCheck.Report.Structured
import NameCheck.Report.Style
import NameCheck.Report.Summary
import NameCheck.Report.Tally
import NameCheck.Rule.AsyncName
import NameCheck.Rule.Basic
import NameCheck.Rule.ConstantName
import NameCheck.Rule.HookCallback
import NameCheck.Rule.IconName
import NameCheck.Script
import NameCheck.Settings
import NameCheck.Source.Display
import NameCheck.Source.Position
import NameCheck.Span
import NameCheck.Syntax.Bytes
import NameCheck.Syntax.Fault
import NameCheck.Syntax.Parse.Class
import NameCheck.Syntax.Parse.Declaration
import NameCheck.Syntax.Parse.Expression
import NameCheck.Syntax.Parse.Function
import NameCheck.Syntax.Parse.Goal
import NameCheck.Syntax.Parse.Item
import NameCheck.Syntax.Parse.Markup
import NameCheck.Syntax.Parse.Name
import NameCheck.Syntax.Parse.Object
import NameCheck.Syntax.Parse.Pattern
import NameCheck.Syntax.Parse.Run
import NameCheck.Syntax.Parse.State
import NameCheck.Syntax.Parse.Statement
import NameCheck.Syntax.Parse.Types
import NameCheck.Syntax.Scan.Lexeme
import NameCheck.Syntax.Scan.Markup
import NameCheck.Syntax.Scan.Name
import NameCheck.Syntax.Scan.Number
import NameCheck.Syntax.Scan.Quoted
import NameCheck.Syntax.Scan.Trivia
import NameCheck.Syntax.Token
import NameCheck.Syntax.Tree
import NameCheck.Text.Blank
import NameCheck.Text.Identifier
import NameCheck.Text.Lines
import NameCheck.Text.Pieces
import NameCheck.Text.Quoted
import NameCheck.Text.Ranges
import NameCheck.Text.Similarity
import NameCheck.Text.Utf8
import NameCheck.Text.Width
import NameCheck.Text.Word
import NameCheck.Toml.Composite
import NameCheck.Toml.Document
import NameCheck.Toml.Failure
import NameCheck.Toml.Moment
import NameCheck.Toml.Number
import NameCheck.Toml.Reader
import NameCheck.Toml.Text
import NameCheck.Toml.Value
import NameCheck.Walk
import NameCheck.Proofs.Configuration
import NameCheck.Proofs.EarlyStop
import NameCheck.Proofs.Naming
import NameCheck.Proofs.Parentheses
import NameCheck.Proofs.Lines
import NameCheck.Proofs.Registrations
import NameCheck.Proofs.ByteOrderMark
import NameCheck.Proofs.Lookup
import NameCheck.Proofs.DirectiveGrammar
import NameCheck.Proofs.SpanText
import NameCheck.Proofs.SuppressionHistory
import NameCheck.Proofs.Trees
import NameCheck.Proofs.Discovery
import NameCheck.Proofs.Excerpts
import NameCheck.Proofs.HookCalls
import NameCheck.Proofs.CallbackCursors
import NameCheck.Proofs.WantedFunctions
import NameCheck.Proofs.JsonReading
import NameCheck.Proofs.ReportReading
import NameCheck.Proofs.Counts
import NameCheck.Proofs.DistinctKeys
import NameCheck.Proofs.UnknownKeys
import NameCheck.Proofs.SourceOrder
import NameCheck.Proofs.Colours
import NameCheck.Proofs.Dialects
import NameCheck.Proofs.IconNames
import NameCheck.Proofs.Ways
import NameCheck.Proofs.NearestConfiguration
