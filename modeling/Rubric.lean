import Rubric.Outline.Misplaced
import Rubric.Outline.Fold
import Rubric.Json.Shape
import Rubric.Template.Registry
import Rubric.Json.Reference
import Rubric.Json.Writer
import Rubric.Text.Line
import Rubric.Conformance.Content
import Rubric.Outline.Reader
import Rubric.Outline.Writer
import Rubric.Template.Schema
import Rubric.Conformance.Check
import Rubric.Conformance.Limit
import Rubric.Report
import Rubric.Location
import Rubric.Yaml.Scanner
import Rubric.Yaml.Node
import Rubric.Yaml.Value
import Rubric.Toml.Reader
import Rubric.Template.Default
import Rubric.Editor.Diagnostic
import Rubric.Editor.RuleAt
import Rubric.Editor.Symbol
import Rubric.Markdown.Html
import Rubric.Markdown.Line
import Rubric.Markdown.Reference
import Rubric.Markdown.Node
import Rubric.Markdown.Blocks
import Rubric.FileTree
import Rubric.Project.Settings
import Rubric.Conformance.ChatChecker
import Rubric.Lint
import Rubric.CommandLine
import Rubric.Program
import Rubric.Editor.Session
import Rubric.Editor.Server
import Rubric.Editor.Wire
import Rubric.Main
import Rubric.Proofs.FirstPath
import Rubric.Proofs.Conformance.Conforms
import Rubric.Proofs.Conformance.Relaxed
import Rubric.Proofs.Conformance.Sequence
import Rubric.Proofs.Outline.Scope
import Rubric.Proofs.Outline.ReadingOrder
import Rubric.Proofs.Outline.Assembled
import Rubric.Proofs.Outline.Runs
import Rubric.Proofs.Outline.Bodies
import Rubric.Proofs.Json.Expansion
import Rubric.Proofs.Json.Recursion
import Rubric.Proofs.Json.Resolved
import Rubric.Proofs.Outline.Extent
import Rubric.Proofs.Outline.Lines
import Rubric.Proofs.Conformance.Halting
import Rubric.Proofs.Markdown.Trimmed
import Rubric.Proofs.Markdown.Blocks
import Rubric.Proofs.Markdown.Place
import Rubric.Proofs.Markdown.Definitions
import Rubric.Proofs.Markdown.Reader
import Rubric.Proofs.Markdown.Outline
import Rubric.Proofs.Template.Message
import Rubric.Proofs.Template.Reading
import Rubric.Proofs.Template.FirstInvalid
import Rubric.Proofs.Editor.Shown
import Rubric.Proofs.Outline.Ids
import Rubric.Proofs.Editor.Explained
import Rubric.Proofs.Editor.Positional
import Rubric.Proofs.Text.Boundary
import Rubric.Proofs.Text.Trim
import Rubric.Proofs.Conformance.Arising
import Rubric.Proofs.Conformance.Located
import Rubric.Proofs.Outline.Inside
import Rubric.Proofs.Editor.Position
import Rubric.Proofs.Markdown.Boundary
import Rubric.Proofs.Editor.Located
import Rubric.Proofs.Editor.Process
import Rubric.Proofs.Editor.Interleaving
import Rubric.Proofs.Outline.Path
import Rubric.Proofs.Outline.Nesting
import Rubric.Proofs.Outline.FirstMisplaced
import Rubric.Proofs.Conformance.Instructed
import Rubric.Proofs.Conformance.Tour
import Rubric.Proofs.Conformance.Visits
import Rubric.Proofs.Json.Lexeme
import Rubric.Proofs.Json.Numeral
import Rubric.Proofs.Json.Grammar
import Rubric.Proofs.Json.Parsed
import Rubric.Proofs.Json.Spelling
import Rubric.Proofs.Json.Plain
import Rubric.Proofs.Json.Document
import Rubric.Proofs.Json.Carried
import Rubric.Proofs.Outline.Carried
import Rubric.Proofs.Markdown.Level
import Rubric.Proofs.Outline.Sized
import Rubric.Proofs.Markdown.Sized
import Rubric.Proofs.Outline.Forms
import Rubric.Proofs.Conformance.Trials
import Rubric.Proofs.Editor.Symbol
import Rubric.Proofs.Editor.Kept
import Rubric.Proofs.Editor.Reloading
import Rubric.Proofs.Editor.Offset
import Rubric.Proofs.Template.Ordered
import Rubric.Proofs.Markdown.Apart
import Rubric.Proofs.Path
import Rubric.Proofs.FileTree
import Rubric.Proofs.Project.Nearest
import Rubric.Proofs.Markdown.Exact
import Rubric.Proofs.Report.Carried
import Rubric.Proofs.Report.Lines
import Rubric.Proofs.Conformance.Chat
import Rubric.Proofs.Text.Lines
import Rubric.Proofs.Text.Returns
import Rubric.Proofs.Markdown.Closing
import Rubric.Proofs.Markdown.Lines
import Rubric.Proofs.Markdown.Moved
import Rubric.Proofs.Markdown.Normal
import Rubric.Proofs.Markdown.Shift
