import MarkerReport.Command.Layers
import MarkerReport.Command.Run
import MarkerReport.Command.Table
import MarkerReport.CommandLine.Argument
import MarkerReport.CommandLine.Given
import MarkerReport.CommandLine.Request
import MarkerReport.CommandLine.Usage
import MarkerReport.Comment.Basic
import MarkerReport.Comment.Scan
import MarkerReport.Error
import MarkerReport.Files.Change
import MarkerReport.Files.Locate
import MarkerReport.Files.Read
import MarkerReport.Files.Surroundings
import MarkerReport.Files.Tree
import MarkerReport.Glob.Basic
import MarkerReport.Glob.Match
import MarkerReport.Glob.Parse
import MarkerReport.Json.Value
import MarkerReport.Language
import MarkerReport.Main
import MarkerReport.Marker.Finding
import MarkerReport.Marker.Keywords
import MarkerReport.Marker.Occurrence
import MarkerReport.Path
import MarkerReport.Proofs.Comment.Grammar
import MarkerReport.Proofs.Comment.Lines
import MarkerReport.Proofs.Text.Folding
import MarkerReport.Python.Cursor
import MarkerReport.Python.Expression
import MarkerReport.Python.Layout
import MarkerReport.Python.Literal
import MarkerReport.Python.Module
import MarkerReport.Python.Parser
import MarkerReport.Python.Pattern
import MarkerReport.Python.Statement
import MarkerReport.Python.Token
import MarkerReport.Report.Markdown
import MarkerReport.Report.Render
import MarkerReport.Scan.Discovery
import MarkerReport.Scan.Item
import MarkerReport.Scan.Scanner
import MarkerReport.Scope.Equation
import MarkerReport.Scope.Map
import MarkerReport.Scope.Resolve
import MarkerReport.Scope.Strategy
import MarkerReport.Scope.Tree
import MarkerReport.Settings
import MarkerReport.Settings.Document
import MarkerReport.Text.Alphabetic
import MarkerReport.Text.Capitals
import MarkerReport.Text.Case
import MarkerReport.Text.Character
import MarkerReport.Text.Folding
import MarkerReport.Text.Lines
import MarkerReport.Text.Mark
import MarkerReport.Text.Number
import MarkerReport.Text.Ranges
import MarkerReport.Text.Uppercase
import MarkerReport.Text.Utf8
import MarkerReport.Yaml.Document
import MarkerReport.Yaml.Glyph
import MarkerReport.Yaml.Node
import MarkerReport.Yaml.Number
import MarkerReport.Yaml.Print
import MarkerReport.Yaml.Property
import MarkerReport.Yaml.Scalar
import MarkerReport.Yaml.Scanner
import MarkerReport.Yaml.Token
import MarkerReport.Proofs.Marker.Words
import MarkerReport.Proofs.Marker.Closes
import MarkerReport.Proofs.Comment.Concatenation
import MarkerReport.Proofs.Text.Returns
import MarkerReport.Proofs.Marker.Returns
import MarkerReport.Proofs.Marker.Lines
import MarkerReport.Proofs.Marker.Concatenation
import MarkerReport.Proofs.Comment.Returns
import MarkerReport.Proofs.Scan.LineEnds
import MarkerReport.Proofs.Scope.Innermost
import MarkerReport.Proofs.Scan.LineNumbers
import MarkerReport.Proofs.Scope.Painting
import MarkerReport.Proofs.Scope.Nodes
import MarkerReport.Proofs.Scan.Join
import MarkerReport.Proofs.Json.Grammar
import MarkerReport.Proofs.Json.RoundTrip
import MarkerReport.Proofs.Files.Names
import MarkerReport.Proofs.Files.Walk
import MarkerReport.Proofs.Scan.Selection
import MarkerReport.Proofs.Files.Written
import MarkerReport.Proofs.Text.Utf8
import MarkerReport.Proofs.Yaml.Glyphs
import MarkerReport.Proofs.Yaml.Literal
import MarkerReport.Proofs.Yaml.Tokens
import MarkerReport.Proofs.Yaml.Lines
import MarkerReport.Proofs.Yaml.RoundTrip
import MarkerReport.Proofs.Settings.RoundTrip
import MarkerReport.Proofs.Files.Made
import MarkerReport.Proofs.Files.Delivered
import MarkerReport.Proofs.Command.Stages
import MarkerReport.Proofs.Command.Effects
import MarkerReport.Proofs.Files.Proper
import MarkerReport.Proofs.Marker.Kinds
import MarkerReport.Proofs.Report.Rows
import MarkerReport.Proofs.Scope.Extent
import MarkerReport.Proofs.Scope.Nesting
import MarkerReport.Proofs.Marker.FirstMatch
import MarkerReport.Proofs.Marker.Texts
import MarkerReport.Proofs.Scope.Patterns
import MarkerReport.Proofs.Scope.Latest
import MarkerReport.Proofs.Report.ReadBack
import MarkerReport.Proofs.Command.Merging
import MarkerReport.Proofs.Command.Duplicates
import MarkerReport.Proofs.Scan.Extensions
import MarkerReport.Proofs.Scan.Reading
import MarkerReport.Proofs.Marker.Findable
import MarkerReport.Proofs.Scope.Outdated
import MarkerReport.Proofs.Marker.Separation
