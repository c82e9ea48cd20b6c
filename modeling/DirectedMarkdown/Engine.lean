import DirectedMarkdown.Directive.Set

/-!
This module contains rendering engines: functions from texts and directives to HTML, which can fail.
-/

namespace DirectedMarkdown

/-- Why an engine has no HTML for a text. -/
inductive EngineError where
  /-- The names of the abbreviations are too long to be searched for. -/
  | abbreviations
  /-- A failure that the engine reports in its own words. -/
  | backend (report : String)
  deriving DecidableEq

namespace EngineError

def message : EngineError → String
  | abbreviations =>
    "failed to build abbreviation matcher: Compiled regex exceeds size limit of 1048576 bytes."
  | backend report => "rendering engine failed: " ++ report

end EngineError

/-- A rendering engine. -/
def Engine : Type :=
  String → DirectiveSet → Except EngineError String

end DirectedMarkdown
