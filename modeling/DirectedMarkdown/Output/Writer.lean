import DirectedMarkdown.Output.Basic

/-!
This module contains the step from output to HTML. A block starts on a line of its own.
-/

namespace DirectedMarkdown.Output

open Markdown (Element Event HeadingAttributes Tag)

/-- The attribute of a heading. -/
def headingAttribute (entry : String × Option String) : String :=
  " " ++ Html.escapeHeading entry.1 ++ "=\""
    ++ Html.escapeHeading (entry.2.getD "") ++ "\""

/-- The attributes of a heading. -/
def headingAttributes (attributes : HeadingAttributes) : String :=
  let id := match attributes.id with
    | none => ""
    | some id => headingAttribute ("id", some id)
  let classes :=
    if attributes.classes.isEmpty then ""
    else headingAttribute ("class", some (" ".intercalate attributes.classes))
  id ++ classes ++ String.join (attributes.others.map headingAttribute)

/-- The start tag of a block, and whatever stands between it and the content of the block. -/
def blockStart? : Tag → Option String
  | .paragraph => some "<p>"
  | .heading level attributes =>
    some ("<h" ++ toString level ++ headingAttributes attributes ++ ">")
  | .blockQuote => some "<blockquote>\n"
  | .list none => some "<ul>\n"
  | .list (some 1) => some "<ol>\n"
  | .list (some start) => some ("<ol start=\"" ++ toString start ++ "\">\n")
  | .item => some "<li>"
  | .definitionList => some "<dl>\n"
  | .definitionTitle => some "<dt>"
  | .definition => some "<dd>"
  | _ => none

/-- The start tag of a part of running text. -/
def inlineStart : Tag → String
  | .emphasis => "<em>"
  | .strong => "<strong>"
  | .strikethrough => "<del>"
  | _ => ""

/-- The end tag of a part. -/
def endTag : Element → String
  | .paragraph => "</p>\n"
  | .heading level => "</h" ++ toString level ++ ">\n"
  | .blockQuote => "</blockquote>\n"
  | .list false => "</ul>\n"
  | .list true => "</ol>\n"
  | .item => "</li>\n"
  | .definitionList => "</dl>\n"
  | .definitionTitle => "</dt>\n"
  | .definition => "</dd>\n"
  | .emphasis => "</em>"
  | .strong => "</strong>"
  | .strikethrough => "</del>"
  | _ => ""

/-- The written form of an event, at the start of a line or not. -/
def eventText (atLineStart : Bool) : Event → String
  | .enter tag =>
    match blockStart? tag with
    | some start => if atLineStart then start else "\n" ++ start
    | none => inlineStart tag
  | .leave element => endTag element
  | .text content => Html.escapeText content
  | .code content => "<code>" ++ Html.escapeText content ++ "</code>"
  | .html content | .inlineHtml content => content
  | .softBreak => "\n"
  | _ => ""

/-- The written form of a step, at the start of a line or not. -/
def text (atLineStart : Bool) : Output → String
  | kept event => eventText atLineStart event
  | written pieces => Html.Markup.renderAll pieces

/-- Whether a line starts behind a step. A step that writes nothing leaves this as it was. -/
def lineStartAfter (atLineStart : Bool) (step : Output) : Bool :=
  let written := step.text atLineStart
  if written.isEmpty then atLineStart else written.endsWith "\n"

/-- The written forms of the steps. -/
def texts (atLineStart : Bool) : List Output → List String
  | [] => []
  | step :: rest => step.text atLineStart :: texts (step.lineStartAfter atLineStart) rest

/-- The HTML of a document. -/
def toHtml (output : List Output) : String :=
  String.join (texts true output)

end DirectedMarkdown.Output
