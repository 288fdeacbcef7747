import LivePage.Anchor
import LivePage.Block.Attach
import LivePage.Block.Basic
import LivePage.Block.Collect
import LivePage.Block.Container
import LivePage.Block.Info
import LivePage.Block.Resolve
import LivePage.Calendar.Date
import LivePage.Calendar.Zone
import LivePage.CommandLine.Basic
import LivePage.CommandLine.Fault
import LivePage.CommandLine.Parse
import LivePage.CommandLine.Similarity
import LivePage.Compile
import LivePage.Compile.File
import LivePage.CompileError
import LivePage.Conformance.Check
import LivePage.Conformance.Expectation
import LivePage.Conformance.Suite
import LivePage.Conformance.TestFile
import LivePage.Diagnostic.Basic
import LivePage.Diagnostic.Terminal
import LivePage.Dictionary
import LivePage.File.Basic
import LivePage.File.Path
import LivePage.File.Tree
import LivePage.Frontmatter
import LivePage.Frontmatter.Decode
import LivePage.HeadingId
import LivePage.Json.Basic
import LivePage.LineMap
import LivePage.Main
import LivePage.Markdown.Blocks
import LivePage.Markdown.Buffer
import LivePage.Markdown.Builder
import LivePage.Markdown.Container
import LivePage.Markdown.Cursor
import LivePage.Markdown.Definition
import LivePage.Markdown.Delimiter
import LivePage.Markdown.Destination
import LivePage.Markdown.Document
import LivePage.Markdown.Emphasis
import LivePage.Markdown.Entity
import LivePage.Markdown.EntityTable
import LivePage.Markdown.Event
import LivePage.Markdown.Heading
import LivePage.Markdown.Html
import LivePage.Markdown.HtmlTag
import LivePage.Markdown.Label
import LivePage.Markdown.Leaf
import LivePage.Markdown.Line
import LivePage.Markdown.Links
import LivePage.Markdown.Marker
import LivePage.Markdown.Node
import LivePage.Markdown.Paragraph
import LivePage.Number.Binary64
import LivePage.Page
import LivePage.Page.Json
import LivePage.Program
import LivePage.Proofs.Calendar.Date
import LivePage.Proofs.Calendar.Zone
import LivePage.Proofs.Frontmatter
import LivePage.Proofs.Schedule.ClockChange
import LivePage.Proofs.Schedule.Dates
import LivePage.Proofs.Schedule.Occurrence
import LivePage.Proofs.Task.Anchor
import LivePage.Proofs.Task.Item
import LivePage.Proofs.Task.Line
import LivePage.Proofs.Task.Section
import LivePage.Proofs.Task.Synthesis
import LivePage.Proofs.Text.Bytes
import LivePage.Proofs.Text.Lines
import LivePage.Schedule.Basic
import LivePage.Schedule.Imperative
import LivePage.Schedule.Mask
import LivePage.Schedule.Occurrence
import LivePage.Schedule.Scan
import LivePage.Schedule.Token
import LivePage.Source
import LivePage.Span
import LivePage.Suggestion
import LivePage.Task.ContentId
import LivePage.Task.Edit
import LivePage.Task.Item
import LivePage.Task.Line
import LivePage.Task.Section
import LivePage.Task.Synthesis
import LivePage.Text.Alphanumeric
import LivePage.Text.Basic
import LivePage.Text.CaseFold
import LivePage.Text.CharClass
import LivePage.Text.Digit
import LivePage.Text.Lines
import LivePage.Text.LowerCase
import LivePage.Text.Punctuation
import LivePage.Text.Quoted
import LivePage.Text.Width
import LivePage.Text.Word
import LivePage.Toml.Decode
import LivePage.Toml.Document
import LivePage.Toml.Input
import LivePage.Toml.Node
import LivePage.Toml.Number
import LivePage.Toml.Quote
import LivePage.Toml.Value
import LivePage.Yaml.Cursor
import LivePage.Yaml.Document
import LivePage.Yaml.Event
import LivePage.Yaml.Property
import LivePage.Yaml.Reader
import LivePage.Yaml.Scalar
import LivePage.Yaml.Scanner
import LivePage.Yaml.Token
import LivePage.Yaml.Value
import LivePage.Proofs.Schedule.Mask
import LivePage.Proofs.Schedule.Imperative
import LivePage.Proofs.Schedule.Scan
import LivePage.Proofs.Block.SkipRange
import LivePage.Proofs.Compile
import LivePage.Proofs.Block.Resolve
import LivePage.Proofs.Block.Collect
import LivePage.Proofs.Block.Attach
import LivePage.Proofs.Task.Origin
import LivePage.Proofs.Compile.Mention
import LivePage.Proofs.Task.Mark
import LivePage.Proofs.Task.Read
import LivePage.Proofs.Task.Toggle
import LivePage.Proofs.Task.Identity
import LivePage.Proofs.Task.Add
import LivePage.Proofs.Schedule.Candidate
import LivePage.Proofs.Schedule.Exact
import LivePage.Proofs.Compile.Provenance
import LivePage.Proofs.Compile.Independence
import LivePage.Proofs.Task.Binding
import LivePage.Proofs.Compile.Destination
import LivePage.Proofs.Calendar.Gap
import LivePage.Proofs.Conformance.Check
import LivePage.Proofs.Anchor
import LivePage.Proofs.Compile.HeadingAnchor
import LivePage.Proofs.Schedule.Clock
import LivePage.Proofs.Schedule.Grammar
import LivePage.Proofs.Schedule.Token
import LivePage.Proofs.Text.Ink
import LivePage.Proofs.Schedule.Word
import LivePage.Proofs.Schedule.Form
import LivePage.Proofs.Schedule.Agreement
import LivePage.Proofs.Schedule.FirstToken
import LivePage.Proofs.Schedule.Conservation
import LivePage.Proofs.Schedule.Lead
import LivePage.Proofs.Task.Detect
import LivePage.Proofs.Task.Splice
import LivePage.Proofs.Task.TopLevel
import LivePage.Proofs.Frontmatter.Split
import LivePage.Proofs.Markdown.Heading
import LivePage.Proofs.HeadingId.Distinct
import LivePage.Proofs.Block.Container
import LivePage.Proofs.Page
import LivePage.Proofs.Block.Info
import LivePage.Proofs.LineMap
import LivePage.Proofs.Text.LowerCase
import LivePage.Proofs.Anchor.Normal
import LivePage.Proofs.Text.Pattern
import LivePage.Proofs.Task.Pattern
