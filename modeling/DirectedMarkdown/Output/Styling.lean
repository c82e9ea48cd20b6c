import DirectedMarkdown.Decoration
import DirectedMarkdown.Output.Footnote
import DirectedMarkdown.Output.Tags

/-!
This module contains the step from the events of a document to its output. Everything that a
directive has a say in is written out as HTML, all else is kept. Footnote definitions are set aside
for the list of notes at the end, and the content of an image becomes its alternative text.
-/

namespace DirectedMarkdown

open Html (Markup)
open Markdown (ColumnAlignment Element Event Tag)

/-- An image whose alternative text is being read. -/
structure PendingImage where
  url : String
  title : String
  alt : String
  /-- The number of open images within this one. -/
  depth : Nat
  deriving DecidableEq

/-- The place in a table. -/
structure TableState where
  alignments : List ColumnAlignment
  inHead : Bool
  /-- The number of cells before the current one. -/
  column : Nat
  deriving DecidableEq

namespace TableState

/-- The start of a table with these columns. -/
def start (alignments : List ColumnAlignment) : TableState where
  alignments
  inHead := false
  column := 0

/-- The element of the current cell. -/
def cellName (table : TableState) : String :=
  if table.inHead then "th" else "td"

/-- The alignment of the current cell. Cells beyond the last column have none. -/
def alignment (table : TableState) : ColumnAlignment :=
  table.alignments[table.column]?.getD .none

end TableState

/-- What a document is styled with. -/
structure Style where
  directives : DirectiveSet
  decorator : Decorator

/-- The styled part of a document. -/
structure Styling where
  /-- The output outside of footnote definitions. -/
  output : Array Output
  footnotes : Footnotes
  image : Option PendingImage
  table : TableState
  inCodeBlock : Bool
  /-- The number of open links. -/
  linkDepth : Nat

namespace Styling

/-- The start of a document. -/
def start : Styling where
  output := #[]
  footnotes := Footnotes.empty
  image := none
  table := TableState.start []
  inCodeBlock := false
  linkDepth := 0

/-- Adds a step to the footnote definition that is being read, or to the document. -/
def push (state : Styling) (step : Output) : Styling :=
  match state.footnotes.current with
  | some (label, body) =>
    { state with footnotes.current := some (label, body.push step) }
  | none => { state with output := state.output.push step }

/-- Keeps an event. -/
def keep (state : Styling) (event : Event) : Styling :=
  state.push (.kept event)

/-- Writes HTML. -/
def write (state : Styling) (pieces : List Markup) : Styling :=
  state.push (.written pieces)

/-- A step within an image. -/
def collect (state : Styling) (style : Style) (image : PendingImage) : Event → Styling
  | .enter (.image _ _) => { state with image := some { image with depth := image.depth + 1 } }
  | .leave .image =>
    if 0 < image.depth then
      { state with image := some { image with depth := image.depth - 1 } }
    else
      { state with image := none }.write
        [style.directives.imageTag image.url image.alt image.title]
  | .text content | .code content =>
    { state with image := some { image with alt := image.alt ++ content } }
  | .softBreak | .hardBreak =>
    { state with image := some { image with alt := image.alt.push ' ' } }
  | _ => state

/-- The start of a part of the document. -/
def enter (state : Styling) (style : Style) : Tag → Styling
  | .codeBlock kind =>
    { state with inCodeBlock := true }.write (style.directives.codeBlockStart kind)
  | .link kind url title =>
    { state with linkDepth := state.linkDepth + 1 }.write
      [style.directives.linkStart kind url title]
  | .image url title => { state with image := some { url, title, alt := "", depth := 0 } }
  | .table alignments =>
    { state with table := TableState.start alignments }.write style.directives.tableStart
  | .tableHead =>
    { state with table := { state.table with inHead := true, column := 0 } }.write
      [.startTag "thead" [], .lineFeed, .startTag "tr" [], .lineFeed]
  | .tableRow =>
    { state with table := { state.table with column := 0 } }.write [.startTag "tr" [], .lineFeed]
  | .tableCell =>
    state.write
      [.startTag state.table.cellName (style.directives.cellAttributes state.table.alignment)]
  | .footnoteDefinition label => { state with footnotes := state.footnotes.open label }
  | tag => state.keep (.enter tag)

/-- The end of a part of the document. -/
def leave (state : Styling) : Element → Styling
  | .codeBlock => { state with inCodeBlock := false }.write DirectiveSet.codeBlockEnd
  | .link => { state with linkDepth := state.linkDepth - 1 }.write [.endTag "a"]
  | .table => state.write [.endTag "tbody", .lineFeed, .endTag "table", .lineFeed]
  | .tableHead =>
    { state with table := { state.table with inHead := false } }.write
      [.endTag "tr", .lineFeed, .endTag "thead", .lineFeed, .startTag "tbody" [], .lineFeed]
  | .tableRow => state.write [.endTag "tr", .lineFeed]
  | .tableCell =>
    { state with table := { state.table with column := state.table.column + 1 } }.write
      [.endTag state.table.cellName, .lineFeed]
  | .footnoteDefinition => { state with footnotes := state.footnotes.close }
  | element => state.keep (.leave element)

/-- Running text is decorated, the text of code blocks is not. -/
def text (state : Styling) (style : Style) (content : String) : Styling :=
  if state.inCodeBlock then
    state.keep (.text content)
  else
    match style.decorator.decorate content (0 < state.linkDepth) with
    | some pieces => state.write pieces
    | none => state.keep (.text content)

/-- A reference to a footnote. -/
def reference (state : Styling) (style : Style) (label : String) : Styling :=
  let footnotes := state.footnotes.refer label
  { state with footnotes }.write
    (style.directives.noteReference label (footnotes.number label) (footnotes.occurrences label))

/-- A step outside of images. -/
def visit (state : Styling) (style : Style) : Event → Styling
  | .enter tag => state.enter style tag
  | .leave element => state.leave element
  | .text content => state.text style content
  | .softBreak =>
    if style.directives.breaksEnabled then state.write style.directives.lineBreak
    else state.keep .softBreak
  | .hardBreak => state.write style.directives.lineBreak
  | .rule => state.write style.directives.rule
  | .taskMarker checked => state.write (style.directives.taskBox checked)
  | .footnoteReference label => state.reference style label
  | event => state.keep event

/-- A step through the document. -/
def step (style : Style) (state : Styling) (event : Event) : Styling :=
  match state.image with
  | some image => state.collect style image event
  | none => state.visit style event

/-- The output of a document that was read to its end, with the list of notes. -/
def finish (style : Style) (state : Styling) : List Output :=
  state.output.toList ++ Note.list style.directives state.footnotes.close.notes

end Styling

/-- The output for the events of a document. -/
def Style.apply (style : Style) (events : List Event) : List Output :=
  (events.foldl (Styling.step style) Styling.start).finish style

end DirectedMarkdown
