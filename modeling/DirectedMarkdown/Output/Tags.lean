import DirectedMarkdown.Html.Markup
import DirectedMarkdown.Markdown.Event
import DirectedMarkdown.Template
import DirectedMarkdown.Url

/-!
This module contains the tags whose form the directives decide: those of code blocks, links, images,
tables, and of the elements without content.
-/

namespace DirectedMarkdown

open Html (Attribute Markup)
open Markdown (ColumnAlignment CodeBlockKind LinkKind)

namespace DirectiveSet

/-- The language of a code block: the first word after the fence, up to a brace. -/
def language? : CodeBlockKind → Option String
  | .indented => none
  | .fenced info =>
    let language := info.toList.takeWhile fun c => !Text.isBlank c && c != '\x7b'
    if language.isEmpty then none else some (String.ofList language)

/-- The class of a code block in a language. A blank template stands for the usual one. -/
def codeClassOf (directives : DirectiveSet) (language : String) : List Attribute :=
  let template := if directives.codeClass.isEmpty then "language-%s" else directives.codeClass
  Attribute.ofClass (Template.fill template [language])

/-- The start of a code block. -/
def codeBlockStart (directives : DirectiveSet) (kind : CodeBlockKind) : List Markup :=
  match language? kind with
  | none => [.startTag "pre" [], .startTag "code" []]
  | some language =>
    let attributes := directives.codeClassOf language
    if directives.codeBlockAttrOnParent then
      [.startTag "pre" attributes, .startTag "code" []]
    else
      [.startTag "pre" [], .startTag "code" attributes]

/-- The end of a code block. -/
def codeBlockEnd : List Markup :=
  [.endTag "code", .endTag "pre", .lineFeed]

/-- The destination of a link. -/
def linkTarget (kind : LinkKind) (url : String) : String :=
  match kind with
  | .regular => url
  | .email => "mailto:" ++ url

/-- The title as an attribute, if it is not empty. -/
def insertTitle (entries : PropertyList) (title : String) : PropertyList :=
  if title.isEmpty then entries else entries.insert "title" title

/--
The attributes of a link: its own, then the configured ones, which win. The attributes for external
links come last.
-/
def linkEntries (directives : DirectiveSet) (kind : LinkKind) (url title : String) : PropertyList :=
  let target := linkTarget kind url
  let entries :=
    (insertTitle (PropertyList.empty.insert "href" target) title).merge directives.linkAttributes
  if Url.isExternal target then entries.merge directives.externalLinkAttributes else entries

/-- The start tag of a link. -/
def linkStart (directives : DirectiveSet) (kind : LinkKind) (url title : String) : Markup :=
  .startTag "a" (Attribute.ofList (directives.linkEntries kind url title))

/-- The attributes of an image, in the manner of `linkEntries`. -/
def imageEntries (directives : DirectiveSet) (url alt title : String) : PropertyList :=
  let entries :=
    (insertTitle ((PropertyList.empty.insert "src" url).insert "alt" alt) title).merge
      directives.imageAttributes
  if Url.isExternal url then entries.merge directives.externalImageAttributes else entries

/-- The tag of an element without content. -/
def voidTag (directives : DirectiveSet) (name : String) (attributes : List Attribute) : Markup :=
  .voidTag name attributes directives.elementClosingStyle

/-- The tag of an image. -/
def imageTag (directives : DirectiveSet) (url alt title : String) : Markup :=
  directives.voidTag "img" (Attribute.ofList (directives.imageEntries url alt title))

/-- A line break. -/
def lineBreak (directives : DirectiveSet) : List Markup :=
  [directives.voidTag "br" [], .lineFeed]

/-- A thematic break. -/
def rule (directives : DirectiveSet) : List Markup :=
  [directives.voidTag "hr" [], .lineFeed]

/-- The box of a task in a list, and the space behind it. -/
def taskBox (directives : DirectiveSet) (checked : Bool) : List Markup :=
  let mark : List Attribute := if checked then [{ name := "checked", value := "checked" }] else []
  [directives.voidTag "input"
    ([{ name := "type", value := "checkbox" }, { name := "disabled", value := "disabled" }]
      ++ mark),
    .verbatim " "]

/-- The attribute of a table: a number is the width of its border, all else its class. -/
def tableAttributes (directives : DirectiveSet) : List Attribute :=
  match directives.tableClass with
  | none => []
  | some value =>
    if !value.isEmpty && value.toList.all Char.isDigit then [{ name := "border", value }]
    else Attribute.ofClass value

/-- The start of a table. -/
def tableStart (directives : DirectiveSet) : List Markup :=
  [.startTag "table" directives.tableAttributes, .lineFeed]

/-- The word for an alignment. -/
def alignmentName? : ColumnAlignment → Option String
  | .none => none
  | .left => some "left"
  | .center => some "center"
  | .right => some "right"

/-- The attribute of a table cell in a column with this alignment. -/
def cellAttributes (directives : DirectiveSet) (alignment : ColumnAlignment) : List Attribute :=
  match alignmentName? alignment with
  | none => []
  | some name =>
    match directives.tableAlignClass with
    | some template => Attribute.ofClass (Template.fill template [name])
    | none => [{ name := "style", value := "text-align: " ++ name ++ ";" }]

end DirectiveSet

end DirectedMarkdown
