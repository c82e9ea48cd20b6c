import DirectedMarkdown.Abbreviation.Definition
import DirectedMarkdown.Abbreviation.Occurrence
import DirectedMarkdown.Binary64
import DirectedMarkdown.Binary64.Decimal
import DirectedMarkdown.Command.Argument
import DirectedMarkdown.Command.Render
import DirectedMarkdown.Command.Request
import DirectedMarkdown.Command.Run
import DirectedMarkdown.Configuration
import DirectedMarkdown.Configuration.Adjustment
import DirectedMarkdown.Configuration.Document
import DirectedMarkdown.Configuration.Load
import DirectedMarkdown.Decoration
import DirectedMarkdown.Directive.Compile
import DirectedMarkdown.Directive.Field
import DirectedMarkdown.Directive.Set
import DirectedMarkdown.Directive.Slot
import DirectedMarkdown.Engine
import DirectedMarkdown.File.Error
import DirectedMarkdown.File.Path
import DirectedMarkdown.File.Tree
import DirectedMarkdown.Formatter
import DirectedMarkdown.Html.Entity
import DirectedMarkdown.Html.EntityTable
import DirectedMarkdown.Html.Escape
import DirectedMarkdown.Html.Markup
import DirectedMarkdown.Html.Reference
import DirectedMarkdown.Json
import DirectedMarkdown.Json.Parser
import DirectedMarkdown.Main
import DirectedMarkdown.Markdown.Autolink
import DirectedMarkdown.Markdown.Block
import DirectedMarkdown.Markdown.Brackets
import DirectedMarkdown.Markdown.Container
import DirectedMarkdown.Markdown.Document
import DirectedMarkdown.Markdown.Event
import DirectedMarkdown.Markdown.Heading
import DirectedMarkdown.Markdown.Inline
import DirectedMarkdown.Markdown.Interrupt
import DirectedMarkdown.Markdown.Link
import DirectedMarkdown.Markdown.LinkDefinition
import DirectedMarkdown.Markdown.Margin
import DirectedMarkdown.Markdown.Marker
import DirectedMarkdown.Markdown.Outline
import DirectedMarkdown.Markdown.RawHtml
import DirectedMarkdown.Markdown.Reader.Document
import DirectedMarkdown.Markdown.Reader.Paragraph
import DirectedMarkdown.Markdown.Reader.Table
import DirectedMarkdown.Markdown.Reader.Verbatim
import DirectedMarkdown.Markdown.Source
import DirectedMarkdown.Markdown.TableHead
import DirectedMarkdown.Markdown.Token
import DirectedMarkdown.Output.Basic
import DirectedMarkdown.Output.Footnote
import DirectedMarkdown.Output.Styling
import DirectedMarkdown.Output.Tags
import DirectedMarkdown.Output.Writer
import DirectedMarkdown.Proofs.Abbreviation.Expansion
import DirectedMarkdown.Proofs.Abbreviation.Extraction
import DirectedMarkdown.Proofs.Abbreviation.Fence
import DirectedMarkdown.Proofs.Abbreviation.Occurrence
import DirectedMarkdown.Proofs.Abbreviation.Pattern
import DirectedMarkdown.Proofs.Abbreviation.Removal
import DirectedMarkdown.Proofs.Abbreviation.WholeWord
import DirectedMarkdown.Proofs.Command.Agreement
import DirectedMarkdown.Proofs.Command.Argument
import DirectedMarkdown.Proofs.Command.Batch
import DirectedMarkdown.Proofs.Command.EarlyFailure
import DirectedMarkdown.Proofs.Command.OutputPath
import DirectedMarkdown.Proofs.Command.OutputPlace
import DirectedMarkdown.Proofs.Command.Problem
import DirectedMarkdown.Proofs.Command.Request
import DirectedMarkdown.Proofs.Command.Run
import DirectedMarkdown.Proofs.Command.Source
import DirectedMarkdown.Proofs.Command.Write
import DirectedMarkdown.Proofs.Configuration.Discovery
import DirectedMarkdown.Proofs.Configuration.Entry
import DirectedMarkdown.Proofs.Configuration.Fault
import DirectedMarkdown.Proofs.Configuration.Layer
import DirectedMarkdown.Proofs.Configuration.Reading
import DirectedMarkdown.Proofs.Configuration.Shape
import DirectedMarkdown.Proofs.Decoration
import DirectedMarkdown.Proofs.Decoration.Abbreviation
import DirectedMarkdown.Proofs.Decoration.Element
import DirectedMarkdown.Proofs.Decoration.Link
import DirectedMarkdown.Proofs.Decoration.LinkStart
import DirectedMarkdown.Proofs.Directive.Compile
import DirectedMarkdown.Proofs.Directive.Field
import DirectedMarkdown.Proofs.Directive.Initial
import DirectedMarkdown.Proofs.Directive.Json
import DirectedMarkdown.Proofs.Directive.Tally
import DirectedMarkdown.Proofs.Except
import DirectedMarkdown.Proofs.File.Ending
import DirectedMarkdown.Proofs.File.Path
import DirectedMarkdown.Proofs.File.Place
import DirectedMarkdown.Proofs.File.Tree
import DirectedMarkdown.Proofs.Footnote.Assembly
import DirectedMarkdown.Proofs.Footnote.Backlink
import DirectedMarkdown.Proofs.Footnote.FirstPage
import DirectedMarkdown.Proofs.Footnote.Identifier
import DirectedMarkdown.Proofs.Footnote.NoteList
import DirectedMarkdown.Proofs.Footnote.Numbering
import DirectedMarkdown.Proofs.Footnote.Occurrence
import DirectedMarkdown.Proofs.Footnote.Spelling
import DirectedMarkdown.Proofs.Html.Anchor
import DirectedMarkdown.Proofs.Html.AttributeSequence
import DirectedMarkdown.Proofs.Html.AttributeText
import DirectedMarkdown.Proofs.Html.Decoding
import DirectedMarkdown.Proofs.Html.Escape
import DirectedMarkdown.Proofs.Html.Escaped
import DirectedMarkdown.Proofs.Html.Issued
import DirectedMarkdown.Proofs.Html.StartTag
import DirectedMarkdown.Proofs.Html.Tag
import DirectedMarkdown.Proofs.Html.UrlEscape
import DirectedMarkdown.Proofs.Json.RoundTrip
import DirectedMarkdown.Proofs.List.Append
import DirectedMarkdown.Proofs.List.FirstOccurrence
import DirectedMarkdown.Proofs.List.Lookup
import DirectedMarkdown.Proofs.Markdown.Admitted
import DirectedMarkdown.Proofs.Markdown.Formed
import DirectedMarkdown.Proofs.Markdown.NoteReference
import DirectedMarkdown.Proofs.Markdown.OpenPart
import DirectedMarkdown.Proofs.Output.Anchor
import DirectedMarkdown.Proofs.Output.Balance
import DirectedMarkdown.Proofs.Output.Bracket
import DirectedMarkdown.Proofs.Output.Concatenation
import DirectedMarkdown.Proofs.Output.Emission
import DirectedMarkdown.Proofs.Output.EmissionSide
import DirectedMarkdown.Proofs.Output.Governed
import DirectedMarkdown.Proofs.Output.Image
import DirectedMarkdown.Proofs.Output.IssuedTag
import DirectedMarkdown.Proofs.Output.OpenImage
import DirectedMarkdown.Proofs.Output.Override
import DirectedMarkdown.Proofs.Output.Place
import DirectedMarkdown.Proofs.Output.Record
import DirectedMarkdown.Proofs.Output.Sheet
import DirectedMarkdown.Proofs.Output.Table
import DirectedMarkdown.Proofs.Output.TablePlace
import DirectedMarkdown.Proofs.Output.Trace
import DirectedMarkdown.Proofs.PropertyList.Composition
import DirectedMarkdown.Proofs.PropertyList.Entries
import DirectedMarkdown.Proofs.PropertyList.Insertion
import DirectedMarkdown.Proofs.PropertyList.Lookup
import DirectedMarkdown.Proofs.PropertyList.Merge
import DirectedMarkdown.Proofs.PropertyList.Parser
import DirectedMarkdown.Proofs.PropertyList.Written
import DirectedMarkdown.Proofs.Session
import DirectedMarkdown.Proofs.Setting
import DirectedMarkdown.Proofs.Template
import DirectedMarkdown.Proofs.Text.Blank
import DirectedMarkdown.Proofs.Text.Cut
import DirectedMarkdown.Proofs.Text.Hit
import DirectedMarkdown.Proofs.Text.Pattern
import DirectedMarkdown.Proofs.Text.Scan
import DirectedMarkdown.Proofs.Text.Split
import DirectedMarkdown.Proofs.Toml.TableName
import DirectedMarkdown.Proofs.Url.Bare
import DirectedMarkdown.Proofs.Url.Pattern
import DirectedMarkdown.Proofs.Url.Span
import DirectedMarkdown.PropertyList
import DirectedMarkdown.PropertyList.Parser
import DirectedMarkdown.Session
import DirectedMarkdown.Setting
import DirectedMarkdown.Setting.Json
import DirectedMarkdown.Surroundings
import DirectedMarkdown.Template
import DirectedMarkdown.Text.Blank
import DirectedMarkdown.Text.CaseFold
import DirectedMarkdown.Text.CodePointSet
import DirectedMarkdown.Text.Cut
import DirectedMarkdown.Text.Digit
import DirectedMarkdown.Text.Punctuation
import DirectedMarkdown.Text.Quoted
import DirectedMarkdown.Text.Split
import DirectedMarkdown.Text.Word
import DirectedMarkdown.Toml.Document
import DirectedMarkdown.Toml.Error
import DirectedMarkdown.Toml.Number
import DirectedMarkdown.Toml.Parser
import DirectedMarkdown.Toml.Quoted
import DirectedMarkdown.Toml.Time
import DirectedMarkdown.Toml.Value
import DirectedMarkdown.Url
import DirectedMarkdown.Url.Bare
