import DirectedMarkdown.Json
import DirectedMarkdown.PropertyList

/-!
This module contains the directive set: everything that an engine is told about how to render a
text. Its JSON form is the one that engines read.
-/

namespace DirectedMarkdown

/-- How an element without content is closed. -/
inductive ClosingStyle where
  /-- As in `<br />`. -/
  | selfClosingSlash
  /-- As in `<br>`. -/
  | bareAngleBracket
  deriving DecidableEq, Inhabited

namespace ClosingStyle

/-- The style that the HTML5 switch asks for. -/
def ofHtml5 (html5 : Bool) : ClosingStyle :=
  if html5 then bareAngleBracket else selfClosingSlash

/-- What ends the tag of an element without content. -/
def suffix : ClosingStyle → String
  | selfClosingSlash => " />"
  | bareAngleBracket => ">"

/-- The name of the style in the JSON form of a directive set. -/
def name : ClosingStyle → String
  | selfClosingSlash => "selfClosingSlash"
  | bareAngleBracket => "bareAngleBracket"

end ClosingStyle

/-- The directives of one rendering. -/
structure DirectiveSet where
  elementClosingStyle : ClosingStyle
  /-- Abbreviations and what they stand for. -/
  abbreviations : PropertyList
  /-- The attributes of every link. -/
  linkAttributes : PropertyList
  /-- The attributes of links that lead off-site, in addition. -/
  externalLinkAttributes : PropertyList
  /-- The attributes of every image. -/
  imageAttributes : PropertyList
  /-- The attributes of images from off-site, in addition. -/
  externalImageAttributes : PropertyList
  /-- The class of fenced code; `%s` is its language. -/
  codeClass : String
  /-- Whether the class of a code block belongs to its `pre` element. -/
  codeBlockAttrOnParent : Bool
  /-- The class of a table, or the width of its border if it is a number. -/
  tableClass : Option String
  /-- The class of an aligned cell; `%s` is its alignment. -/
  tableAlignClass : Option String
  /-- The id of a footnote; `%s` is its label. -/
  footnoteLinkId : String
  /-- The id of a reference to a footnote; `%s` is its count, then the label. -/
  footnoteBacklinkId : String
  footnoteClass : String
  footnoteLinkClass : String
  footnoteBacklinkClass : String
  /-- The text of a reference to a footnote; `%s` is the number of the footnote. -/
  footnoteLinkText : Option String
  /-- The text of a link back to a reference, as HTML. -/
  footnoteBacklinkText : String
  /-- Whether URLs in running text become links. -/
  urlsLinked : Bool
  /-- Whether a line end in running text is a line break. -/
  breaksEnabled : Bool
  deriving DecidableEq

namespace DirectiveSet

/-- The JSON form of a property list: an object with its entries in order. -/
def listJson (list : PropertyList) : Json :=
  .object (list.entries.map fun (key, value) => (key, .text value))

/-- The JSON form of a text that may be missing. -/
def optionJson : Option String → Json
  | none => .null
  | some value => .text value

/-- The JSON form. -/
def toJson (d : DirectiveSet) : Json :=
  .object [
    ("elementClosingStyle", .text d.elementClosingStyle.name),
    ("abbreviations", listJson d.abbreviations),
    ("linkAttributes", listJson d.linkAttributes),
    ("externalLinkAttributes", listJson d.externalLinkAttributes),
    ("imageAttributes", listJson d.imageAttributes),
    ("externalImageAttributes", listJson d.externalImageAttributes),
    ("codeClass", .text d.codeClass),
    ("codeBlockAttrOnParent", .bool d.codeBlockAttrOnParent),
    ("tableClass", optionJson d.tableClass),
    ("tableAlignClass", optionJson d.tableAlignClass),
    ("footnoteLinkId", .text d.footnoteLinkId),
    ("footnoteBacklinkId", .text d.footnoteBacklinkId),
    ("footnoteClass", .text d.footnoteClass),
    ("footnoteLinkClass", .text d.footnoteLinkClass),
    ("footnoteBacklinkClass", .text d.footnoteBacklinkClass),
    ("footnoteLinkText", optionJson d.footnoteLinkText),
    ("footnoteBacklinkText", .text d.footnoteBacklinkText),
    ("urlsLinked", .bool d.urlsLinked),
    ("breaksEnabled", .bool d.breaksEnabled)]

end DirectiveSet

end DirectedMarkdown
