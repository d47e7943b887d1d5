import InputDeck.Catalog.Basic
import InputDeck.Catalog.Bundled.Release141
import InputDeck.Catalog.Bundled.Release162
import InputDeck.Catalog.Choice
import InputDeck.Catalog.Data
import InputDeck.Catalog.Load
import InputDeck.Command.Check
import InputDeck.Command.Detect
import InputDeck.Command.Export
import InputDeck.Command.Report
import InputDeck.Command.Variables
import InputDeck.CommandLine.Arguments
import InputDeck.CommandLine.Interest
import InputDeck.CommandLine.Invocation
import InputDeck.CommandLine.Run
import InputDeck.Decimal.Double
import InputDeck.Decimal.Shortest
import InputDeck.Dictionary
import InputDeck.Documentation
import InputDeck.Editor.Completion
import InputDeck.Editor.Diagnostic
import InputDeck.Editor.Document
import InputDeck.Editor.Encoding
import InputDeck.Editor.Fix
import InputDeck.Editor.Hint
import InputDeck.Editor.Hover
import InputDeck.Editor.Position
import InputDeck.Error
import InputDeck.Expression
import InputDeck.Finding
import InputDeck.Highlighting
import InputDeck.Host.Basic
import InputDeck.Host.Program
import InputDeck.Host.Snapshot
import InputDeck.Json.Basic
import InputDeck.Json.Number
import InputDeck.Json.Printer
import InputDeck.Json.Reader
import InputDeck.Json.Shape
import InputDeck.Main
import InputDeck.Path
import InputDeck.Server.Connection
import InputDeck.Server.Encoding
import InputDeck.Server.Frame
import InputDeck.Server.Lifecycle
import InputDeck.Server.Message
import InputDeck.Server.Notice
import InputDeck.Server.Session
import InputDeck.Server.Stdio
import InputDeck.Settings.Basic
import InputDeck.Settings.Client
import InputDeck.Settings.File
import InputDeck.Shell.Arithmetic
import InputDeck.Shell.Machine
import InputDeck.Shell.Octets
import InputDeck.Shell.Pattern
import InputDeck.Shell.Reader
import InputDeck.Shell.Run
import InputDeck.Shell.Script
import InputDeck.Shell.Tool
import InputDeck.Statement.Assignment
import InputDeck.Statement.Block
import InputDeck.Statement.Name
import InputDeck.Text.Alphabetic
import InputDeck.Text.Blank
import InputDeck.Text.Casing
import InputDeck.Text.CharacterRun
import InputDeck.Text.CodeRange
import InputDeck.Text.CombiningClass
import InputDeck.Text.Composition
import InputDeck.Text.Composition.Table
import InputDeck.Text.Cursive
import InputDeck.Text.Direction
import InputDeck.Text.Hex
import InputDeck.Text.Joining
import InputDeck.Text.Line
import InputDeck.Text.Lowercase
import InputDeck.Text.Numeric
import InputDeck.Text.Printable
import InputDeck.Text.Punycode
import InputDeck.Text.Recent
import InputDeck.Text.Search
import InputDeck.Text.Units
import InputDeck.Text.Utf8
import InputDeck.Text.Word
import InputDeck.Text.WordChar
import InputDeck.Uri.Address
import InputDeck.Uri.Basic
import InputDeck.Uri.Domain
import InputDeck.Uri.Domain.Mapping
import InputDeck.Uri.Domain.Refused
import InputDeck.Uri.Encoding
import InputDeck.Uri.Host
import InputDeck.Uri.Reader
import InputDeck.Variable
import InputDeck.Varinfo
import InputDeck.Varinfo.Import
import InputDeck.Verdict
import InputDeck.Version.Detection
import InputDeck.Version.Marker
import InputDeck.Yaml.Cursor
import InputDeck.Yaml.Node
import InputDeck.Yaml.Scalar
import InputDeck.Yaml.Tag
import InputDeck.Yaml.Token
import InputDeck.Proofs.Dictionary
import InputDeck.Proofs.Server.Publication
import InputDeck.Proofs.Server.Freshness
import InputDeck.Proofs.Server.Coherence
import InputDeck.Proofs.Statement.Assignment
import InputDeck.Proofs.Text.Column
import InputDeck.Proofs.Text.Line
import InputDeck.Proofs.Statement.Layout
import InputDeck.Proofs.Editor.Fix
import InputDeck.Proofs.Catalog.DataFile
import InputDeck.Proofs.Varinfo
import InputDeck.Proofs.Finding
import InputDeck.Proofs.Editor.Diagnostic
import InputDeck.Proofs.Editor.Completion
import InputDeck.Proofs.Server.Configuration
import InputDeck.Proofs.Statement.Reading
import InputDeck.Proofs.Text.Word
import InputDeck.Proofs.Editor.Hint
import InputDeck.Proofs.Statement.Block
import InputDeck.Proofs.Editor.Name
import InputDeck.Proofs.Statement.LetterCase
import InputDeck.Proofs.LetterCase
import InputDeck.Proofs.Varinfo.Prose
import InputDeck.Proofs.Statement.Columns
import InputDeck.Proofs.Margin
import InputDeck.Proofs.Verdict.Sum
import InputDeck.Proofs.Verdict.Kind
import InputDeck.Proofs.Text.Folding
import InputDeck.Proofs.Expression
import InputDeck.Proofs.Editor.FixRange
import InputDeck.Proofs.Server.Detection
import InputDeck.Proofs.Varinfo.Records
import InputDeck.Proofs.Editor.HintRange
import InputDeck.Proofs.Statement.Unfinished
import InputDeck.Proofs.Text.ByteOrder
import InputDeck.Proofs.Json.Field
import InputDeck.Proofs.Catalog.Field
import InputDeck.Proofs.Catalog.Representation
import InputDeck.Proofs.Catalog.Spelling
import InputDeck.Proofs.Editor.CompletionSide
import InputDeck.Proofs.Editor.Document
import InputDeck.Proofs.Highlighting
import InputDeck.Proofs.Host
import InputDeck.Proofs.Version.Marker
import InputDeck.Proofs.Catalog.Load
import InputDeck.Proofs.Editor.Position
import InputDeck.Proofs.Editor.Hover
import InputDeck.Proofs.Command.Check
