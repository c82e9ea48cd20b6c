import DirectedMarkdown.Abbreviation.Definition
import DirectedMarkdown.Directive.Compile
import DirectedMarkdown.Markdown.Document
import DirectedMarkdown.Output.Styling
import DirectedMarkdown.Output.Writer

/-!
This module contains the formatting of texts: settings are compiled to directives first, and then an
engine renders the text. The engine of this library is `Engine.html`.
-/

namespace DirectedMarkdown

namespace Engine

/-- Renders Markdown. Definition lines in the text add to the configured abbreviations. -/
def html : Engine := fun text directives =>
  let (body, defined) := Abbreviation.extract text
  match Decorator.make (directives.abbreviations.merge defined) directives with
  | .error e => .error e
  | .ok decorator =>
    let style : Style := { directives, decorator }
    .ok (Output.toHtml (style.apply (Markdown.readEvents body)))

end Engine

/-- Why a text cannot be formatted. -/
inductive FormatError where
  | compile (e : CompileError)
  | engine (e : EngineError)
  deriving DecidableEq

namespace FormatError

def message : FormatError → String
  | compile e => e.message
  | engine e => e.message

end FormatError

/-- Formats a text. Without directives the engine is not asked. -/
def format (engine : Engine) (text : String) (snapshot : Snapshot) : Except FormatError String :=
  match compile snapshot with
  | .error e => .error (.compile e)
  | .ok directives =>
    match engine text directives with
    | .error e => .error (.engine e)
    | .ok html => .ok html

/-- Formats texts with the same directives. A failure of one text does not touch the others. -/
def formatBatch (engine : Engine) (texts : List String) (snapshot : Snapshot)
    : Except CompileError (List (Except EngineError String)) :=
  (compile snapshot).map fun directives => texts.map (engine · directives)

end DirectedMarkdown
