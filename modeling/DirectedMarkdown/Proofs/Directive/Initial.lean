import DirectedMarkdown.Directive.Compile
import DirectedMarkdown.Output.Styling

/-!
This module contains the style of a configuration without settings, whose directives are the
defaults of their fields.
-/

namespace DirectedMarkdown

theorem compile_empty : compile Snapshot.empty = .ok DirectiveSet.initial := by
  rfl

namespace Style

def initial : Style where
  directives := DirectiveSet.initial
  decorator := { abbreviations := .empty, urlsLinked := true, urlAttributes := .empty }

end Style

end DirectedMarkdown
