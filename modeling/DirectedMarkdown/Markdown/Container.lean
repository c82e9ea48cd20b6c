import DirectedMarkdown.Markdown.Margin

/-!
This module contains containers, the blocks that hold other blocks, and how a line continues them:
each open container takes its part of the margin, from the outermost one on.
-/

namespace DirectedMarkdown.Markdown

/-- An open container. -/
inductive Container where
  | blockQuote
  /-- A list, by the character that marks its items. A list is tight if no blank line is in it. -/
  | list (marker : Char) (start : Nat) (tight : Bool)
  /-- An item of a list, whose content starts at the column `indent` of the list. -/
  | item (indent : Nat)
  | definitionList (tight : Bool)
  | definition (indent : Nat)
  | footnote (label : String)
  deriving DecidableEq

namespace Container

/--
Reads the marker of a block quote, after at most three columns of space. What is left of a tab is
read behind the marker.
-/
def quoteMarker? (src : Source) (m : Margin) : Option Margin :=
  ((m.read src 3).2.char? src '>').map fun m => (m.read src 1).2

/-- Reads the space before the content of a container. A line that ends here needs none. -/
def indent? (src : Source) (n : Nat) (m : Margin) : Option Margin :=
  let (missing, m) := m.read src n
  if missing = 0 || m.atLineEnd src then some m else none

/-- Reads what a line needs to continue a container. -/
def enter? (src : Source) (m : Margin) : Container → Option Margin
  | blockQuote => quoteMarker? src m
  | item indent | definition indent => indent? src indent m
  | footnote _ => indent? src 4 m
  | list _ _ _ | definitionList _ => some m

/-- Enters containers from the outermost one on, and answers with how many of them continue. -/
def enterAll (src : Source) (m : Margin) : List Container → Nat × Margin
  | [] => (0, m)
  | container :: rest =>
    match container.enter? src m with
    | none => (0, m)
    | some m =>
      let (n, m) := enterAll src m rest
      (n + 1, m)

/-- The position behind what the containers take of the line that starts at `i`. -/
def contentStart (src : Source) (path : List Container) (i : Nat) : Nat :=
  (enterAll src (Margin.start i) path).2.pos

end Container

end DirectedMarkdown.Markdown
