import DirectedMarkdown.Text.Split

/-!
This module contains templates: texts with placeholders `%s` that arguments take the place of.
-/

namespace DirectedMarkdown.Template

/-- The parts of a template, each but the first after the next argument or none. -/
def join : List (List Char) → List String → List Char
  | [], _ => []
  | part :: parts, [] => part ++ join parts []
  | part :: parts, arg :: args => arg.toList ++ part ++ join parts args

/-- Fills the placeholders in order. Arguments without a placeholder are dropped. -/
def fill (template : String) (args : List String) : String :=
  match Text.splitOn ['%', 's'] template.toList with
  | [] => ""
  | part :: parts => String.ofList (part ++ join parts args)

end DirectedMarkdown.Template
