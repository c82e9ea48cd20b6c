import DirectedMarkdown.Markdown.Container
import DirectedMarkdown.Markdown.Event
import DirectedMarkdown.Markdown.Token

/-!
This module contains blocks, the parts of a document that are made of whole lines. Running text is
kept as tokens.
-/

namespace DirectedMarkdown.Markdown

/-- The running text of a block. -/
structure Content where
  tokens : List Token
  /-- The position behind the block. -/
  stop : Nat

/-- A block. -/
inductive Block where
  | paragraph (content : Content)
  | heading (level : Nat) (attributes : HeadingAttributes) (content : Content)
  | code (kind : CodeBlockKind) (text : String)
  /-- The lines of an HTML block, each with the space before it. -/
  | html (lines : List (String × String))
  | rule
  /-- The head of a table is its first row. -/
  | table (alignments : List ColumnAlignment) (head : List Content) (rows : List (List Content))
  /-- A task that there is no text for. -/
  | task (checked : Bool)
  /-- A term. Until a definition follows, it may be a paragraph yet. -/
  | term (isDefined : Bool) (content : Content)
  | container (kind : Container) (children : List Block)

namespace Block

/-- Whether the block is part of a definition list. -/
def isDefinitionPart : Block → Bool
  | term isDefined _ => isDefined
  | container (.definition _) _ => true
  | _ => false

/-- The block outside of a definition list, where a term is a paragraph. -/
def outsideList : Block → Block
  | term _ content => paragraph content
  | block => block

end Block

end DirectedMarkdown.Markdown
