import DirectedMarkdown.Abbreviation.Occurrence
import DirectedMarkdown.Engine
import DirectedMarkdown.Html.Markup
import DirectedMarkdown.Url
import DirectedMarkdown.Url.Bare

/-!
This module contains the decoration of running text: abbreviations get their expansions as titles,
and bare URLs become links. The URLs are found first. Abbreviations are searched for in what lies
between them, each gap by itself.
-/

namespace DirectedMarkdown

open Html (Attribute Markup)

/-- A part of decorated text. -/
inductive Segment where
  | plain (content : List Char)
  /-- An abbreviation and its expansion. -/
  | abbreviation (word : List Char) (title : String)
  /-- A bare URL. -/
  | link (url : List Char)
  deriving DecidableEq

namespace Segment

/-- The text of a segment. -/
def content : Segment → List Char
  | plain content | abbreviation content _ | link content => content

/-- Whether the segment is more than text. -/
def isDecorated : Segment → Bool
  | plain _ => false
  | _ => true

end Segment

/-- What running text is decorated with. -/
structure Decorator where
  abbreviations : PropertyList
  /-- Whether bare URLs become links. -/
  urlsLinked : Bool
  /-- The attributes of such links, which always lead off-site. -/
  urlAttributes : PropertyList

namespace Decorator

/--
The number of bytes that the names of all abbreviations may have together. This is an approximation:
what is limited is the size of the automaton that the names are searched for with, one mebibyte, and
that depends on their characters and on the beginnings that they share, not on their length alone.
-/
def nameLimit : Nat :=
  32768

/-- The number of bytes in the names of all abbreviations. -/
def nameSize (abbreviations : PropertyList) : Nat :=
  abbreviations.keys.foldl (fun size name => size + name.utf8ByteSize) 0

/--
The decorator for these abbreviations, which take the place of those of the directives. There is
none if the names are too long for the limit.
-/
def make (abbreviations : PropertyList) (directives : DirectiveSet)
    : Except EngineError Decorator :=
  if nameLimit < nameSize abbreviations then
    .error .abbreviations
  else
    .ok {
      abbreviations
      urlsLinked := directives.urlsLinked
      urlAttributes := directives.linkAttributes.merge directives.externalLinkAttributes }

/-- The names that are searched for. -/
def words (decorator : Decorator) : List (List Char) :=
  (decorator.abbreviations.keys.map String.toList).filter (!·.isEmpty)

/-- The segment for an occurrence of an abbreviation. -/
def abbreviated (decorator : Decorator) (word : List Char) : Segment :=
  .abbreviation word ((decorator.abbreviations.get? (String.ofList word)).getD "")

/-- The segments of a text in which no URLs are linked. -/
def gapSegments (decorator : Decorator) (s : List Char) : List Segment :=
  (Abbreviation.cutAt decorator.words s).map fun
    | .plain content => .plain content
    | .hit word => decorator.abbreviated word

/-- The segments of a text, within a link or not. -/
def segments (decorator : Decorator) (s : List Char) (inLink : Bool) : List Segment :=
  if decorator.urlsLinked && !inLink then
    (Url.cutBare s).flatMap fun
      | .plain content => decorator.gapSegments content
      | .hit url => [.link url]
  else
    decorator.gapSegments s

/-- The attributes of the link for a bare URL. -/
def linkEntries (decorator : Decorator) (url : String) : PropertyList :=
  let entries := PropertyList.empty.insert "href" url
  if Url.isExternal url then entries.merge decorator.urlAttributes else entries

/-- The start tag of the link for a bare URL. -/
def linkStart (decorator : Decorator) (url : String) : Markup :=
  .startTag "a" (Attribute.ofList (decorator.linkEntries url))

/-- The HTML of a segment. -/
def markup (decorator : Decorator) : Segment → List Markup
  | .plain content => [.text (String.ofList content)]
  | .abbreviation word title =>
    [.startTag "abbr" [{ name := "title", value := title }], .text (String.ofList word),
      .endTag "abbr"]
  | .link url =>
    [decorator.linkStart (String.ofList url), .text (String.ofList url), .endTag "a"]

/-- The HTML of a text, within a link or not, if there is anything to decorate in it. -/
def decorate (decorator : Decorator) (text : String) (inLink : Bool) : Option (List Markup) :=
  let segments := decorator.segments text.toList inLink
  if segments.any Segment.isDecorated then
    some (segments.flatMap decorator.markup)
  else
    none

end Decorator

end DirectedMarkdown
