/-!
This module contains the events that a Markdown text is read into. `enter` and `leave` bracket the
parts of a document; everything else is content.
-/

namespace DirectedMarkdown.Markdown

/-- The alignment of a table column. -/
inductive ColumnAlignment where
  | none
  | left
  | center
  | right
  deriving DecidableEq, Inhabited

/-- How a code block is marked. -/
inductive CodeBlockKind where
  | indented
  /-- Between fences, with the text after the opening one. -/
  | fenced (info : String)
  deriving DecidableEq

/-- How a link is written. -/
inductive LinkKind where
  | regular
  /-- An address between angle brackets, `<me@example.org>`. -/
  | email
  deriving DecidableEq

/-- The attributes in braces at the end of a heading. -/
structure HeadingAttributes where
  id : Option String
  classes : List String
  /-- All other attributes. A value may be missing. -/
  others : List (String × Option String)
  deriving DecidableEq, Inhabited

namespace HeadingAttributes

/-- No attributes. -/
def empty : HeadingAttributes where
  id := Option.none
  classes := []
  others := []

end HeadingAttributes

/-- A part of a document, with what is known at its start. -/
inductive Tag where
  | paragraph
  | heading (level : Nat) (attributes : HeadingAttributes)
  | blockQuote
  | codeBlock (kind : CodeBlockKind)
  | htmlBlock
  /-- A list, with the number of its first item if the items are numbered. -/
  | list (start : Option Nat)
  | item
  | footnoteDefinition (label : String)
  | definitionList
  | definitionTitle
  | definition
  | table (alignments : List ColumnAlignment)
  | tableHead
  | tableRow
  | tableCell
  | emphasis
  | strong
  | strikethrough
  | link (kind : LinkKind) (url title : String)
  | image (url title : String)
  deriving DecidableEq

/-- A part of a document, with what is known at its end. -/
inductive Element where
  | paragraph
  | heading (level : Nat)
  | blockQuote
  | codeBlock
  | htmlBlock
  | list (ordered : Bool)
  | item
  | footnoteDefinition
  | definitionList
  | definitionTitle
  | definition
  | table
  | tableHead
  | tableRow
  | tableCell
  | emphasis
  | strong
  | strikethrough
  | link
  | image
  deriving DecidableEq

namespace Tag

/-- The part that the tag starts. -/
def element : Tag → Element
  | paragraph => .paragraph
  | heading level _ => .heading level
  | blockQuote => .blockQuote
  | codeBlock _ => .codeBlock
  | htmlBlock => .htmlBlock
  | list start => .list start.isSome
  | item => .item
  | footnoteDefinition _ => .footnoteDefinition
  | definitionList => .definitionList
  | definitionTitle => .definitionTitle
  | definition => .definition
  | table _ => .table
  | tableHead => .tableHead
  | tableRow => .tableRow
  | tableCell => .tableCell
  | emphasis => .emphasis
  | strong => .strong
  | strikethrough => .strikethrough
  | link _ _ _ => .link
  | image _ _ => .image

end Tag

/-- A step through a document. -/
inductive Event where
  | enter (tag : Tag)
  | leave (element : Element)
  | text (content : String)
  /-- Code within running text. -/
  | code (content : String)
  /-- A line of an HTML block. -/
  | html (content : String)
  /-- HTML within running text. -/
  | inlineHtml (content : String)
  | softBreak
  | hardBreak
  | rule
  | taskMarker (checked : Bool)
  | footnoteReference (label : String)
  deriving DecidableEq

namespace Event

/-- Whether the event is content, neither the start nor the end of a part. -/
def isContent : Event → Bool
  | enter _ | leave _ => false
  | _ => true

end Event

/-- Each part that is entered is left, and parts do not overlap. -/
inductive WellNested : List Event → Prop where
  | nil : WellNested []
  | content {event : Event} {rest : List Event}
    : event.isContent → WellNested rest → WellNested (event :: rest)
  | part {tag : Tag} {inner rest : List Event}
    : WellNested inner → WellNested rest
      → WellNested (.enter tag :: inner ++ .leave tag.element :: rest)

end DirectedMarkdown.Markdown
