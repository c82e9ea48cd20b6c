import DirectedMarkdown.Markdown.Block
import DirectedMarkdown.Markdown.LinkDefinition

/-!
This module contains documents that are being read: the blocks that were read, the containers that
are open, and what is known of links and footnotes. Lists and their items are closed here, and here
it is decided whether a list is tight.
-/

namespace DirectedMarkdown.Markdown

/-- An open container, with the blocks in it. -/
structure Frame where
  container : Container
  children : Array Block

/-- A document that is being read. -/
structure Outline where
  /-- The open containers, from the innermost one on. -/
  frames : List Frame
  /-- The blocks outside of all open containers. -/
  blocks : Array Block
  lastLineBlank : Bool
  /-- Whether a list item has just been opened that is empty so far. -/
  itemEmpty : Bool
  /-- The targets of links under the keys of their labels. -/
  targets : List (String × LinkTarget)
  /-- The keys of the labels of footnotes. -/
  footnotes : List String

namespace Outline

/-- The start of a document. -/
def empty : Outline where
  frames := []
  blocks := #[]
  lastLineBlank := false
  itemEmpty := false
  targets := []
  footnotes := []

/-- The open containers, from the outermost one on. -/
def path (doc : Outline) : List Container :=
  (doc.frames.map Frame.container).reverse

/-- Where a block outside of tables and paragraphs stands. -/
def ground (doc : Outline) : Ground where
  path := doc.path
  inTable := false
  inParagraph := false

/-- The innermost open container. -/
def container? (doc : Outline) : Option Container :=
  doc.frames.head?.map Frame.container

/-- The last block in the innermost open container. -/
def last? (doc : Outline) : Option Block :=
  match doc.frames with
  | [] => doc.blocks.back?
  | frame :: _ => frame.children.back?

/-- Changes the blocks in the innermost open container. -/
def mapBlocks (doc : Outline) (f : Array Block → Array Block) : Outline :=
  match doc.frames with
  | [] => { doc with blocks := f doc.blocks }
  | frame :: rest => { doc with frames := { frame with children := f frame.children } :: rest }

/-- Changes the innermost open container. -/
def mapContainer (doc : Outline) (f : Container → Container) : Outline :=
  match doc.frames with
  | [] => doc
  | frame :: rest => { doc with frames := { frame with container := f frame.container } :: rest }

/-- Adds a block. -/
def push (doc : Outline) (block : Block) : Outline :=
  doc.mapBlocks (·.push block)

/-- Opens a container. -/
def «open» (doc : Outline) (container : Container) : Outline :=
  { doc with frames := { container, children := #[] } :: doc.frames }

/--
Closes the innermost container. What a definition list ends with but a definition comes behind it.
-/
def close (doc : Outline) : Outline :=
  match doc.frames with
  | [] => doc
  | frame :: rest =>
    let doc := { doc with frames := rest }
    match frame.container with
    | .definitionList _ =>
      let doc := { doc with itemEmpty := false }
      match frame.children.back? with
      | none => doc.push (.container frame.container [])
      | some last =>
        if last.isDefinitionPart then
          doc.push (.container frame.container frame.children.toList)
        else
          (doc.push (.container frame.container frame.children.pop.toList)).push last.outsideList
    | .list _ _ true =>
      { doc with itemEmpty := false }.push (.container frame.container frame.children.toList)
    | _ => doc.push (.container frame.container frame.children.toList)

/-- Closes the innermost containers until `n` are open. -/
def closeTo (doc : Outline) (n : Nat) : Outline :=
  (List.range (doc.frames.length - n)).foldl (fun doc _ => doc.close) doc

/-- A list with a blank line in it. -/
def loosen : Container → Container
  | .list marker start _ => .list marker start false
  | .definitionList _ => .definitionList false
  | container => container

/-- Closes an item that starts with a blank line and has nothing in it. -/
def finishEmptyItem (doc : Outline) : Outline :=
  let doc :=
    if doc.itemEmpty && doc.lastLineBlank then
      match doc.container? with
      | some (.item _) | some (.definition _) => doc.close
      | _ => doc
    else
      doc
  { doc with itemEmpty := false }

/-- Loosens the list around the innermost container after a blank line. -/
def noteBlankLine (doc : Outline) : Outline :=
  if doc.lastLineBlank then
    let frames := match doc.frames with
      | inner :: outer :: rest =>
        inner :: { outer with container := loosen outer.container } :: rest
      | frames => frames
    { doc with frames, lastLineBlank := false }
  else
    doc

/-- Closes a list that no item follows. -/
def finishList (doc : Outline) : Outline :=
  let doc := doc.finishEmptyItem
  let doc := match doc.container? with
    | some (.list _ _ _) | some (.definitionList _) => doc.close
    | _ => doc
  doc.noteBlankLine

/-- Opens a list for an item with this marker, unless such a list is open. -/
def continueList (doc : Outline) (marker : ListMarker) : Outline :=
  let doc := doc.finishEmptyItem
  let start (doc : Outline) : Outline :=
    { doc.open (.list marker.mark marker.number true) with lastLineBlank := false }
  match doc.container? with
  | some (.list mark _ _) =>
    if mark = marker.mark then
      if doc.lastLineBlank then { doc.mapContainer loosen with lastLineBlank := false } else doc
    else
      start doc.finishList
  | some _ => start doc.finishList
  | none => start doc

/-- Whether a definition may come next. -/
def awaitsDefinition (doc : Outline) : Bool :=
  match doc.last? with
  | some (.paragraph _) | some (.term _ _) | some (.container (.definition _) _) => true
  | _ => false

/-- Opens a definition. The paragraph or the term before it becomes its term. -/
def openDefinition (doc : Outline) (indent : Nat) : Outline :=
  let doc := match doc.last? with
    | some (.paragraph content) =>
      ((doc.mapBlocks Array.pop).open (.definitionList true)).push (.term true content)
    | some (.term _ content) => (doc.mapBlocks Array.pop).push (.term true content)
    | _ => doc
  let doc :=
    if doc.lastLineBlank then
      match doc.container? with
      | some (.definitionList _) => { doc.mapContainer loosen with lastLineBlank := false }
      | _ => doc
    else
      doc
  doc.open (.definition indent)

/-- Takes note of a blank line. An empty item cannot be continued behind it. -/
def blankLine (doc : Outline) : Outline :=
  match doc.container? with
  | some .blockQuote => doc
  | some (.item _) =>
    if doc.itemEmpty then { doc.mapContainer fun _ => .item 0 with lastLineBlank := true }
    else { doc with lastLineBlank := true }
  | some (.definition _) =>
    if doc.itemEmpty then { doc.mapContainer fun _ => .definition 0 with lastLineBlank := true }
    else { doc with lastLineBlank := true }
  | _ => { doc with lastLineBlank := true }

/-- Opens a footnote definition, which ends the one before it. -/
def openFootnote (doc : Outline) (label : String) : Outline :=
  let doc := doc.finishList
  let doc := match doc.container? with
    | some (.footnote _) => doc.close
    | _ => doc
  { doc.open (.footnote label) with footnotes := Link.labelKey label :: doc.footnotes }

/-- Takes down the target of a link. The first target under a label counts. -/
def define (doc : Outline) (definition : LinkDefinition) : Outline :=
  let key := Link.labelKey definition.label
  if (doc.targets.lookup key).isSome then doc
  else { doc with targets := doc.targets ++ [(key, definition.target)] }

end Outline

end DirectedMarkdown.Markdown
