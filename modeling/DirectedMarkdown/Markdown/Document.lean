import DirectedMarkdown.Markdown.Brackets
import DirectedMarkdown.Markdown.Reader.Document

/-!
This module contains the step from a Markdown text to its events. Paragraphs in tight lists come
without their tags, and neighbouring texts are one.
-/

namespace DirectedMarkdown.Markdown

/-- What the events of a block depend on. -/
structure BlockContext where
  src : Source
  targets : Targets
  /-- The containers around the block, from the outermost one on. -/
  path : List Container
  /-- Whether paragraphs come without tags. -/
  isTight : Bool

namespace BlockContext

/-- The events of running text, and the budget for references that is left then. -/
def inlineEvents (context : BlockContext) (inTable : Bool) (content : Content) (budget : Nat)
    : List Event × Nat :=
  let around : InlineContext :=
    { src := context.src.upTo content.stop, path := context.path, inTable
      targets := context.targets }
  let (inlines, budget) := around.inlines budget content.tokens
  (Inline.allEvents inlines, budget)

/-- The events of a part that has running text. -/
def partEvents (context : BlockContext) (tag : Tag) (inTable : Bool) (content : Content)
    (budget : Nat) : List Event × Nat :=
  let (inner, budget) := context.inlineEvents inTable content budget
  (.enter tag :: inner ++ [.leave tag.element], budget)

/-- The events of the cells of a table row. -/
def rowEvents (context : BlockContext) (tag : Tag) (cells : List Content) (budget : Nat)
    : List Event × Nat :=
  let (inner, budget) := cells.foldl
    (fun (events, budget) cell =>
      let (inner, budget) := context.partEvents .tableCell true cell budget
      (events ++ inner, budget))
    ([], budget)
  (.enter tag :: inner ++ [.leave tag.element], budget)

/-- The events of a table. -/
def tableEvents (context : BlockContext) (alignments : List ColumnAlignment) (head : List Content)
    (rows : List (List Content)) (budget : Nat) : List Event × Nat :=
  let start := context.rowEvents .tableHead head budget
  let (inner, budget) := rows.foldl
    (fun (events, budget) row =>
      let (inner, budget) := context.rowEvents .tableRow row budget
      (events ++ inner, budget))
    start
  (.enter (.table alignments) :: inner ++ [.leave .table], budget)

/-- The events of a code block. -/
def codeEvents (kind : CodeBlockKind) (text : String) : List Event :=
  .enter (.codeBlock kind) :: (if text.isEmpty then [] else [.text text]) ++ [.leave .codeBlock]

/-- The events of an HTML block. -/
def htmlEvents (lines : List (String × String)) : List Event :=
  let inner := lines.flatMap fun (space, line) =>
    (if space.isEmpty then [] else [.text space]) ++ [.html line]
  .enter .htmlBlock :: inner ++ [.leave .htmlBlock]

end BlockContext

namespace Container

/-- The tag of a container. A list is numbered if a point or a parenthesis marks its items. -/
def tag : Container → Tag
  | blockQuote => .blockQuote
  | list marker start _ => .list (if marker = '.' ∨ marker = ')' then some start else none)
  | item _ => .item
  | definitionList _ => .definitionList
  | definition _ => .definition
  | footnote label => .footnoteDefinition label

/-- Whether the blocks in a container are tight, where those around it are or not. -/
def isTightWithin (isTight : Bool) : Container → Bool
  | list _ _ tight | definitionList tight => tight
  | item _ | definition _ => isTight
  | _ => false

end Container

namespace Block

mutual

/-- The events of a block, and the budget for references that is left then. -/
def events (context : BlockContext) (budget : Nat) : Block → List Event × Nat
  | paragraph content =>
    if context.isTight then context.inlineEvents false content budget
    else context.partEvents .paragraph false content budget
  | heading level attributes content =>
    context.partEvents (.heading level attributes) false content budget
  | code kind text => (BlockContext.codeEvents kind text, budget)
  | html lines => (BlockContext.htmlEvents lines, budget)
  | rule => ([.rule], budget)
  | table alignments head rows => context.tableEvents alignments head rows budget
  | task checked => ([.taskMarker checked], budget)
  | term _ content => context.partEvents .definitionTitle false content budget
  | container kind children =>
    let (inner, budget) := allEvents
      { context with
        path := context.path ++ [kind], isTight := kind.isTightWithin context.isTight }
      budget children
    (.enter kind.tag :: inner ++ [.leave kind.tag.element], budget)

def allEvents (context : BlockContext) (budget : Nat) : List Block → List Event × Nat
  | [] => ([], budget)
  | block :: rest =>
    let (first, budget) := block.events context budget
    let (others, budget) := allEvents context budget rest
    (first ++ others, budget)

end

end Block

/-- Makes one text of neighbouring texts. -/
def mergeTexts : List Event → List Event
  | [] => []
  | event :: rest =>
    match event, mergeTexts rest with
    | .text a, .text b :: merged => .text (a ++ b) :: merged
    | event, merged => event :: merged

/-- How much may be written for references to link definitions in a text of `size` bytes. -/
def referenceBudget (size : Nat) : Nat :=
  max size 100000

/-- The events of a Markdown text. -/
def readEvents (text : String) : List Event :=
  let src := Source.ofString text
  let doc := Reader.document src
  let context : BlockContext :=
    { src, targets := { links := doc.targets, footnotes := doc.footnotes }, path := []
      isTight := false }
  mergeTexts (Block.allEvents context (referenceBudget text.utf8ByteSize) doc.blocks.toList).1

end DirectedMarkdown.Markdown
