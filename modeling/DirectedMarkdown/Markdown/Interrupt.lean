import DirectedMarkdown.Markdown.Link
import DirectedMarkdown.Markdown.Marker
import DirectedMarkdown.Markdown.RawHtml
import DirectedMarkdown.Markdown.TableHead

/-!
This module contains the lines that end a paragraph, or anything else that reaches over line ends.
-/

namespace DirectedMarkdown.Markdown

/-- Where an open block stands. -/
structure Ground where
  /-- The open containers, from the outermost one on. -/
  path : List Container
  /-- Whether the block is a table. -/
  inTable : Bool
  /-- Whether the block is a paragraph. A definition may follow it. -/
  inParagraph : Bool

namespace Ground

/-- The place behind what the open containers take of a line, and whether all of them continue. -/
def enterLine (ground : Ground) (src : Source) (i : Nat) : Bool × Margin :=
  let (n, m) := Container.enterAll src (Margin.start i) ground.path
  (n = ground.path.length, m)

/-- Whether a definition may start at the content of a line that `continued` containers continue. -/
def allowsDefinition (ground : Ground) (continued : Nat) : Bool :=
  match ground.path[continued]? with
  | none => ground.inParagraph
  | some (.definition _) => true
  | some _ => false

/--
Whether an item of a list interrupts a block. If the line continues all containers, the item must
not be empty, and it must have a bullet or the number one.
-/
def isInterruptingItem (ground : Ground) (src : Source) (current : Bool) (i : Nat) : Bool :=
  match src.listMarker? i with
  | none => false
  | some marker =>
    (src.satisfies (fun c => c = ' ' || c = '\t') marker.stop || src.atLineEnd marker.stop)
      && (!current || ground.inTable
        || ((Source.isBullet marker.mark || marker.number = 1) && !src.isBlankFrom marker.stop))

/-- Whether a footnote definition starts at `i`. -/
def isFootnote (ground : Ground) (src : Source) (i : Nat) : Bool :=
  src.startsWith i "[^"
    && match Link.label? src (fun _ => none) ground.inTable (i + 2) with
      | none => false
      | some (_, stop) => src.has stop ':'

/--
Whether the content at `i` of a line, which `continued` containers continue, interrupts a block, be
there a table or not.
-/
def interruptsAnyway (ground : Ground) (src : Source) (continued i : Nat) : Bool :=
  src.atLineEnd i
    || (src.ruleEnd? i).isSome
    || (src.headingLevel? i).isSome
    || (src.fence? i).isSome
    || src.has i '>'
    || ground.isInterruptingItem src (continued = ground.path.length) i
    || (src.has i '<' && ((src.htmlBlockEnd? (i + 1)).isSome || src.isBlockTag (i + 1)))
    || (src.has i ':' && ground.allowsDefinition continued)
    || ground.isFootnote src i

/-- A line in which pipes are counted. -/
structure PipeCount where
  pipes : Nat
  lastPipe : Nat
  escaped : Bool

/-- Counts the pipes of the line that starts at `i`, but for escaped ones. -/
def countPipes (src : Source) (i : Nat) : PipeCount :=
  let line := (src.sliceChars i (src.runEnd (!isLineEnd ·) i)).zipIdx i
  line.foldl
    (fun count (c, j) =>
      if c = '\\' then { count with escaped := true }
      else if c = '|' && !count.escaped then
        { pipes := count.pipes + 1, lastPipe := j, escaped := false }
      else { count with escaped := false })
    { pipes := 0, lastPipe := i, escaped := false }

/-- Whether the head of a table with a leading pipe starts at `i`. -/
def isTable (ground : Ground) (src : Source) (i : Nat) : Bool :=
  let lineEnd := src.runEnd (!isLineEnd ·) i
  if src.has i '|' && lineEnd < src.size then
    let (current, m) := ground.enterLine src ((src.lineEnd? lineEnd).getD src.size)
    if current then
      match src.delimiterRow? m.pos with
      | none => false
      | some (alignments, _) =>
        let count := countPipes src i
        alignments.length = src.columnCount i count.pipes count.lastPipe
    else
      false
  else
    false

/--
Whether the content at `i` of a line, which `continued` containers continue, interrupts a block.
-/
def interrupts (ground : Ground) (src : Source) (continued i : Nat) : Bool :=
  ground.interruptsAnyway src continued i || ground.isTable src i

/--
The content of the line that starts at `i`, unless that line ends what reaches over line ends. A
line that is indented by four columns interrupts nothing, but a blank one does.
-/
def nextLine? (ground : Ground) (src : Source) (i : Nat) : Option Nat :=
  let (n, m) := Container.enterAll src (Margin.start i) ground.path
  let (missing, inner) := m.read src 4
  let isUnderline := n = ground.path.length && (src.underline? inner.pos).isSome
  if missing ≠ 0 && (ground.interrupts src n inner.pos || isUnderline) then
    none
  else
    let next := inner.readAll src
    if next.atLineEnd src then none else some next.pos

end Ground

end DirectedMarkdown.Markdown
