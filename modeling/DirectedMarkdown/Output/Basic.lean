import DirectedMarkdown.Html.Markup
import DirectedMarkdown.Markdown.Event

/-!
This module contains the steps of the output: an event of the document is either kept as it is, or
HTML is written in its place.
-/

namespace DirectedMarkdown

/-- A step of the output. -/
inductive Output where
  /-- An event that keeps its usual form. -/
  | kept (event : Markdown.Event)
  /-- HTML that the directives ask for. -/
  | written (pieces : List Html.Markup)
  deriving DecidableEq

namespace Output

/-- Whether the step is the end of a paragraph. -/
def endsParagraph : Output → Bool
  | kept (.leave .paragraph) => true
  | _ => false

end Output

end DirectedMarkdown
