/-!
This module contains the reasons why a text is no TOML document.
-/

namespace DirectedMarkdown.Toml

/-- Why a text is no document. -/
inductive Error where
  /-- The statement that starts in this line cannot be read. -/
  | unreadable (line : Nat)
  /-- A statement for this name goes against an earlier one. -/
  | conflict (name : List String)
  deriving DecidableEq

namespace Error

def message : Error → String
  | unreadable line => "invalid statement in line " ++ toString line
  | conflict name => "conflicting definition of " ++ ".".intercalate name

end Error

end DirectedMarkdown.Toml
