import PlaybookLint.Arguments
import PlaybookLint.Command.Invocation
import PlaybookLint.Command.Limit
import PlaybookLint.Command.Lookup
import PlaybookLint.Command.Options
import PlaybookLint.Command.Run
import PlaybookLint.Command.Spawn
import PlaybookLint.CommandLine
import PlaybookLint.CommandLine.Scan
import PlaybookLint.CommandLine.Task
import PlaybookLint.Console
import PlaybookLint.Console.Notifier
import PlaybookLint.Datum
import PlaybookLint.Datum.Calendar
import PlaybookLint.Datum.Text
import PlaybookLint.Decimal.Binary64
import PlaybookLint.Decimal.Numeral
import PlaybookLint.Decimal.Shortest
import PlaybookLint.Diagnostic
import PlaybookLint.Failure.Classification
import PlaybookLint.Failure.Handler
import PlaybookLint.Failure.Phrase
import PlaybookLint.Failure.Table
import PlaybookLint.Files.Errno
import PlaybookLint.Files.Host
import PlaybookLint.Files.Layout
import PlaybookLint.Files.Resolve
import PlaybookLint.Files.SearchPath
import PlaybookLint.Files.Tree
import PlaybookLint.Finding
import PlaybookLint.Gate
import PlaybookLint.Json.Printer
import PlaybookLint.Json.Reader
import PlaybookLint.Linter
import PlaybookLint.Log
import PlaybookLint.Main
import PlaybookLint.Path
import PlaybookLint.Pattern
import PlaybookLint.Pattern.CharTest
import PlaybookLint.Pattern.Escape
import PlaybookLint.Pattern.Fault
import PlaybookLint.Pattern.Flag
import PlaybookLint.Pattern.Matcher
import PlaybookLint.Pattern.Node
import PlaybookLint.Pattern.Parser
import PlaybookLint.Pattern.Reader
import PlaybookLint.Pattern.Syntax
import PlaybookLint.Position
import PlaybookLint.Position.Coordinate
import PlaybookLint.Program.Execution
import PlaybookLint.Program.Image
import PlaybookLint.Program.Machine
import PlaybookLint.Program.Performance
import PlaybookLint.Program.Tool
import PlaybookLint.ProjectRoot
import PlaybookLint.Provider
import PlaybookLint.Rehearsal
import PlaybookLint.Request
import PlaybookLint.Room
import PlaybookLint.Run
import PlaybookLint.Settings.Configuration
import PlaybookLint.Settings.Environment
import PlaybookLint.Settings.Layer
import PlaybookLint.Settings.Setting
import PlaybookLint.Settings.Source
import PlaybookLint.Severity
import PlaybookLint.Shell.Arithmetic
import PlaybookLint.Shell.Assignment
import PlaybookLint.Shell.Braces
import PlaybookLint.Shell.Builtin
import PlaybookLint.Shell.Condition
import PlaybookLint.Shell.Control
import PlaybookLint.Shell.Evaluation
import PlaybookLint.Shell.Expansion
import PlaybookLint.Shell.Expression
import PlaybookLint.Shell.Glob
import PlaybookLint.Shell.Grammar
import PlaybookLint.Shell.Input
import PlaybookLint.Shell.Launch
import PlaybookLint.Shell.Octets
import PlaybookLint.Shell.Printing
import PlaybookLint.Shell.Redirection
import PlaybookLint.Shell.Script
import PlaybookLint.Shell.Signal
import PlaybookLint.Shell.State
import PlaybookLint.Shell.Syntax
import PlaybookLint.Shell.Test
import PlaybookLint.Shell.Variables
import PlaybookLint.Shell.WordReader
import PlaybookLint.Target
import PlaybookLint.Text.Blank
import PlaybookLint.Text.CharacterName
import PlaybookLint.Text.CharacterName.Aliases
import PlaybookLint.Text.CharacterName.AlphabeticScripts
import PlaybookLint.Text.CharacterName.AncientScripts
import PlaybookLint.Text.CharacterName.AsianAndAfricanScripts
import PlaybookLint.Text.CharacterName.EastAsianScripts
import PlaybookLint.Text.CharacterName.Hieroglyphs
import PlaybookLint.Text.CharacterName.Notations
import PlaybookLint.Text.CharacterName.Pictographs
import PlaybookLint.Text.CharacterName.Symbols
import PlaybookLint.Text.DecimalDigit
import PlaybookLint.Text.Identifier
import PlaybookLint.Text.LetterCase
import PlaybookLint.Text.Lines
import PlaybookLint.Text.Occurrence
import PlaybookLint.Text.Printable
import PlaybookLint.Text.Quoted
import PlaybookLint.Text.Utf8
import PlaybookLint.Text.Width
import PlaybookLint.Text.Word
import PlaybookLint.Toml
import PlaybookLint.Toml.Number
import PlaybookLint.Toml.Refusal
import PlaybookLint.Toml.Scan
import PlaybookLint.Toml.Tables
import PlaybookLint.Toml.Text
import PlaybookLint.Toml.Value
import PlaybookLint.ToolOutput
import PlaybookLint.Trouble
import PlaybookLint.Utility
import PlaybookLint.Utility.Directory
import PlaybookLint.Utility.Lines
import PlaybookLint.Utility.Operand
import PlaybookLint.Utility.Process
import PlaybookLint.Utility.Search
import PlaybookLint.Utility.Value
import PlaybookLint.Validation
import PlaybookLint.Validation.Coerce
import PlaybookLint.VersionCheck
import PlaybookLint.Proofs.Accounting
import PlaybookLint.Proofs.ArgumentList
import PlaybookLint.Proofs.Checks
import PlaybookLint.Proofs.Classification
import PlaybookLint.Proofs.CommandWords
import PlaybookLint.Proofs.Composition
import PlaybookLint.Proofs.Entries
import PlaybookLint.Proofs.Interpretation
import PlaybookLint.Proofs.Leniency
import PlaybookLint.Proofs.LineEnds
import PlaybookLint.Proofs.MoreRoom
import PlaybookLint.Proofs.NormalForm
import PlaybookLint.Proofs.Outcome
import PlaybookLint.Proofs.PathText
import PlaybookLint.Proofs.Precedence
import PlaybookLint.Proofs.ReportLine
import PlaybookLint.Proofs.Run
import PlaybookLint.Proofs.Session
import PlaybookLint.Proofs.Surfacing
import PlaybookLint.Proofs.Text
import PlaybookLint.Proofs.TimeLimit
import PlaybookLint.Proofs.WellFormed
import PlaybookLint.Proofs.Escapes
import PlaybookLint.Proofs.Rejection
import PlaybookLint.Proofs.Job
import PlaybookLint.Proofs.Pool
import PlaybookLint.Proofs.Schedules
import PlaybookLint.Proofs.Embedding
import PlaybookLint.Proofs.Phrase
import PlaybookLint.Proofs.ErrorPlace
import PlaybookLint.Proofs.Readability
import PlaybookLint.Proofs.ConsoleText
import PlaybookLint.Proofs.JsonText
import PlaybookLint.Proofs.Reporting
import PlaybookLint.Proofs.Wording
import PlaybookLint.Proofs.GateMemory
import PlaybookLint.Proofs.GateForms
import PlaybookLint.Proofs.PathSpelling
import PlaybookLint.Proofs.Attribution
import PlaybookLint.Proofs.WaysIn
import PlaybookLint.Proofs.Expansion
import PlaybookLint.Proofs.References
import PlaybookLint.Proofs.Walk
import PlaybookLint.Proofs.NearestRoot
import PlaybookLint.Proofs.Starting
import PlaybookLint.Proofs.Invocation
import PlaybookLint.Proofs.Capture
import PlaybookLint.Proofs.Respelling
import PlaybookLint.Proofs.LineEndStyle
import PlaybookLint.Proofs.Decoding
import PlaybookLint.Proofs.Isolation
import PlaybookLint.Proofs.Rounding
import PlaybookLint.Proofs.ZeroLimit
import PlaybookLint.Proofs.PatternRun
import PlaybookLint.Proofs.PatternParts
import PlaybookLint.Proofs.PatternForms
import PlaybookLint.Proofs.PlacePatterns
import PlaybookLint.Proofs.LinePattern
