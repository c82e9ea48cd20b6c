import DirectedMarkdown.Markdown.Outline
import DirectedMarkdown.Markdown.Reader.Paragraph
import DirectedMarkdown.Markdown.Reader.Table
import DirectedMarkdown.Markdown.Reader.Verbatim

/-!
This module contains the reader of documents, which reads one block after the other. Each line first
continues the open containers, then opens new ones, and then starts a block in the innermost one.
-/

namespace DirectedMarkdown.Markdown.Reader

/-- The result of a step: the document, and the position where the next one starts. -/
structure Step where
  doc : Outline
  stop : Nat

/-- The result of opening the containers of a line. -/
inductive Opened where
  /-- The line has content at this place. -/
  | content (doc : Outline) (margin : Margin)
  /-- The line has the text of a task at this position. -/
  | task (doc : Outline) (checked : Bool) (pos : Nat)
  /-- The line is done. -/
  | done (step : Step)

/-- The footnote definition at `i`: its label, and the position of its content. -/
def footnote? (src : Source) (i : Nat) : Option (String × Nat) :=
  if src.startsWith i "[^" then
    match Link.label? src (fun _ => none) false (i + 2) with
    | none => none
    | some (label, stop) =>
      if src.has stop ':' then some (label, src.skipSpace (stop + 1)) else none
  else
    none

/-- Opens a list item, and reads the box of its task. Nothing but text may follow a box. -/
def openItem (src : Source) (doc : Outline) (marker : ListMarker) (indent : Nat) (m : Margin)
    : Opened :=
  let doc := (doc.continueList marker).open (.item indent)
  match src.blankEnd? m.pos with
  | some stop => .done { doc := { doc with itemEmpty := true }, stop }
  | none =>
    match m.taskBox? src with
    | none => .content doc m
    | some (checked, behind) =>
      match src.blankEnd? behind.pos with
      | some stop => .done { doc := { doc.push (.task checked) with itemEmpty := true }, stop }
      | none => .task doc checked (behind.readAll src).pos

/-- Opens a definition. -/
def openDefinition (src : Source) (doc : Outline) (indent : Nat) (m : Margin) : Opened :=
  let doc := doc.openDefinition indent
  match src.blankEnd? m.pos with
  | some stop => .done { doc := { doc with itemEmpty := true }, stop }
  | none => .content doc m

/-- Opens one container, if there is one at the place `m`. -/
def openOne? (src : Source) (doc : Outline) (m : Margin) : Option Opened :=
  let (columns, inner) := m.readUpTo src 4
  if 4 ≤ columns then
    none
  else
    match footnote? src inner.pos with
    | some (label, stop) => some (.content (doc.openFootnote label) (Margin.start stop))
    | none =>
      match inner.listItem? src columns with
      | some (marker, indent, behind) => some (openItem src doc marker indent behind)
      | none =>
        match if doc.awaitsDefinition then inner.definition? src columns else none with
        | some (indent, behind) => some (openDefinition src doc indent behind)
        | none =>
          (Container.quoteMarker? src m).map fun behind =>
            .content (doc.finishList.open .blockQuote) behind

/-- Opens the containers at the place `m`. -/
def openAll (src : Source) (doc : Outline) (m : Margin) : Opened :=
  match openOne? src doc m with
  | none => .content doc m
  | some (.content doc behind) =>
    if _h : m.pos < behind.pos ∧ m.pos < src.size then openAll src doc behind
    else .content doc behind
  | some opened => opened
termination_by src.size - m.pos
decreasing_by exact Nat.sub_lt_sub_left _h.2 _h.1

/-- Reads the paragraph at `i`, which may be the text of a task. -/
def paragraph (src : Source) (doc : Outline) (checked? : Option Bool) (i : Nat) : Step :=
  let canBeTerm := match doc.container?, doc.last? with
    | some (.definitionList _), none => true
    | some (.definitionList _), some (.container (.definition _) _) => true
    | _, _ => false
  let doc := if canBeTerm then { doc with lastLineBlank := false } else doc.finishList
  let ground := { doc.ground with inParagraph := true }
  let box := match checked? with
    | none => #[]
    | some checked => #[{ kind := .taskMarker checked, start := i, stop := i }]
  match paragraphLines src ground i box i with
  | (tokens, .plain stop) =>
    let content : Content := { tokens := tokens.toList, stop }
    { doc := doc.push (if canBeTerm then .term false content else .paragraph content), stop }
  | (tokens, .heading level attributes? stop) =>
    let block := .heading level (attributes?.getD .empty) { tokens := tokens.toList, stop }
    { doc := if canBeTerm then (doc.push block).finishList else doc.push block, stop }
  | (_, .table alignments rowsStart) =>
    let (block, stop) := table src ground alignments i rowsStart
    { doc := doc.push block, stop }

/-- Reads the link definitions at `i`, and the paragraph behind them. -/
def definitions (src : Source) (doc : Outline) (i : Nat) : Step :=
  match LinkDefinition.read? src doc.ground i with
  | none => paragraph src doc none i
  | some definition =>
    let doc := doc.define definition
    let next := (src.blankEnd? definition.stop).getD definition.stop
    let (n, m) := Container.enterAll src (Margin.start next) doc.path
    let (missing, inner) := m.read src 4
    let rest := (inner.readAll src).pos
    if src.isBlankFrom rest || (missing ≠ 0 && doc.ground.interrupts src n inner.pos) then
      { doc := doc.finishList, stop := next }
    else if _h : i < rest ∧ i < src.size then
      definitions src doc rest
    else
      { doc := doc.finishList, stop := next }
termination_by src.size - i
decreasing_by exact Nat.sub_lt_sub_left _h.2 _h.1

/-- Reads the heading of `level` hash signs at `i`. -/
def heading (src : Source) (level i : Nat) : Block × Nat :=
  let start := i + level
  match src.lineEnd? start with
  | some stop => (.heading level .empty { tokens := [], stop }, stop)
  | none =>
    let start := src.skipSpace start
    let stop := src.nextLine start
    let (tokens, attributes?) := Heading.ofLine src start stop
    (.heading level (attributes?.getD .empty) { tokens := tokens.toList, stop }, stop)

/--
How the HTML block at `i` ends, if one starts there: with the line that has a certain text in it, or
before a blank line.
-/
def htmlEnd? (src : Source) (i : Nat) : Option (Option String) :=
  if src.has i '<' then
    match src.htmlBlockEnd? (i + 1) with
    | some text => some (some text)
    | none => if src.isBlockTag (i + 1) || src.isLoneTag i then some none else none
  else
    none

/-- Adds a block that was read. -/
def pushBlock (doc : Outline) (block : Block × Nat) : Step :=
  { doc := doc.push block.1, stop := block.2 }

/-- Reads the block at the place `m`, where no further container starts. -/
def leaf (src : Source) (doc : Outline) (m : Margin) : Step :=
  let (indent, inner) := m.readUpTo src 4
  let i := inner.pos
  let closed := doc.finishList
  let ground := closed.ground
  if indent = 4 then
    let (block, stop, lastLineBlank) := indentedCode src ground inner.pending i
    { doc := { closed.push block with lastLineBlank }, stop }
  else
    match htmlEnd? src i with
    | some endText? => pushBlock closed (htmlBlock src ground endText? (max m.pending indent) i)
    | none =>
      match src.ruleEnd? i with
      | some stop => pushBlock closed (.rule, stop)
      | none =>
        match src.headingLevel? i with
        | some level => pushBlock closed (heading src level i)
        | none =>
          match src.fence? i with
          | some (mark, length) => pushBlock closed (fencedCode src ground indent mark length i)
          | none => definitions src doc i

/-- Reads the block that starts with the line at `i`. -/
def block (src : Source) (doc : Outline) (i : Nat) : Step :=
  let (n, m) := Container.enterAll src (Margin.start i) doc.path
  match openAll src (doc.closeTo n) m with
  | .done step => step
  | .task doc checked start => paragraph src doc (some checked) start
  | .content doc m =>
    match src.blankEnd? m.pos with
    | some stop => { doc := doc.blankLine, stop }
    | none => leaf src doc m

/-- Reads the blocks from the line at `i` on. -/
def blocks (src : Source) (doc : Outline) (i : Nat) : Outline :=
  if i < src.size then
    let step := block src doc i
    if _h : i < step.stop ∧ i < src.size then blocks src step.doc step.stop else step.doc
  else
    doc
termination_by src.size - i
decreasing_by exact Nat.sub_lt_sub_left _h.2 _h.1

/-- Reads a document. -/
def document (src : Source) : Outline :=
  (blocks src Outline.empty 0).closeTo 0

end DirectedMarkdown.Markdown.Reader
