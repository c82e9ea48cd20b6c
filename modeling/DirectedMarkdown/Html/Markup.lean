import DirectedMarkdown.Directive.Set
import DirectedMarkdown.Html.Escape
import DirectedMarkdown.Text.Blank

/-!
This module contains pieces of HTML: tags with their attributes, and text. A piece is a value, so
that what is opened and closed can be told from it, and `render` writes it down.
-/

namespace DirectedMarkdown.Html

/-- How the value of an attribute is escaped. -/
inductive ValueKind where
  | plain
  | url
  deriving DecidableEq

/-- An attribute of a tag. -/
structure Attribute where
  name : String
  value : String
  kind : ValueKind := .plain
  deriving DecidableEq

namespace Attribute

/-- The value as it stands between its quotes. -/
def written (a : Attribute) : String :=
  match a.kind with
  | .plain => escape a.value
  | .url => escapeUrl a.value

/-- The attribute with the space before it. -/
def render (a : Attribute) : String :=
  " " ++ a.name ++ "=\"" ++ a.written ++ "\""

/-- Whether a character may be part of an attribute name. -/
def isNameChar (c : Char) : Bool :=
  !Text.isBlank c && !Text.isControl c && !(c ∈ ['"', '\'', '<', '>', '/', '='])

/-- Whether a text is an attribute name. -/
def isName (name : String) : Bool :=
  !name.isEmpty && name.toList.all isNameChar

/-- The attribute for an entry of a property list. The values of `href` and `src` are URLs. -/
def ofEntry (entry : String × String) : Attribute where
  name := entry.1
  value := entry.2
  kind := if entry.1 = "href" ∨ entry.1 = "src" then .url else .plain

/-- The attributes of a property list, less those whose names are no attribute names. -/
def ofList (list : PropertyList) : List Attribute :=
  (list.entries.filter fun entry => isName entry.1).map ofEntry

/-- The class attribute, or none for an empty class. -/
def ofClass (className : String) : List Attribute :=
  if className.isEmpty then [] else [{ name := "class", value := className }]

/-- The attributes one after the other. -/
def renderAll (attributes : List Attribute) : String :=
  String.join (attributes.map render)

end Attribute

/-- A piece of HTML. -/
inductive Markup where
  /-- The start tag of an element that has an end tag. -/
  | startTag (name : String) (attributes : List Attribute)
  | endTag (name : String)
  /-- The tag of an element without content. -/
  | voidTag (name : String) (attributes : List Attribute) (style : ClosingStyle)
  /-- Text, which is escaped. -/
  | text (content : String)
  /-- Text that is written as it is. -/
  | verbatim (content : String)
  deriving DecidableEq

namespace Markup

/-- The written form of a piece. -/
def render : Markup → String
  | startTag name attributes => "<" ++ name ++ Attribute.renderAll attributes ++ ">"
  | endTag name => "</" ++ name ++ ">"
  | voidTag name attributes style =>
    "<" ++ name ++ Attribute.renderAll attributes ++ style.suffix
  | text content => escape content
  | verbatim content => content

/-- The written form of pieces one after the other. -/
def renderAll (pieces : List Markup) : String :=
  String.join (pieces.map render)

/-- The line feed between tags. -/
def lineFeed : Markup :=
  verbatim "\n"

end Markup

end DirectedMarkdown.Html
