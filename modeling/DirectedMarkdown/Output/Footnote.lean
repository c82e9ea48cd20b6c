import DirectedMarkdown.Output.Basic
import DirectedMarkdown.Template

/-!
This module contains the footnotes of a document: the references in the order in which they are met,
the definitions, and the list of notes at the end. A note is in the list if it is referenced and
defined, and it links back to each of its references.
-/

namespace DirectedMarkdown

open Html (Attribute Markup)

namespace DirectiveSet

/-- The identifier of a note. -/
def noteId (directives : DirectiveSet) (label : String) : String :=
  Template.fill directives.footnoteLinkId [label]

/-- The identifier of the reference to a note that is its `occurrence`-th one. -/
def referenceId (directives : DirectiveSet) (occurrence : Nat) (label : String) : String :=
  Template.fill directives.footnoteBacklinkId [toString occurrence, label]

/-- The text of a reference to the note with this number. -/
def referenceText (directives : DirectiveSet) (number : Nat) : String :=
  match directives.footnoteLinkText with
  | some template => Template.fill template [toString number]
  | none => toString number

/-- A reference to a note. -/
def noteReference (directives : DirectiveSet) (label : String) (number occurrence : Nat)
    : List Markup :=
  [.startTag "sup" [{ name := "id", value := directives.referenceId occurrence label }],
    .startTag "a"
      ({ name := "href", value := "#" ++ directives.noteId label }
        :: Attribute.ofClass directives.footnoteLinkClass),
    .verbatim (directives.referenceText number),
    .endTag "a",
    .endTag "sup"]

/-- The link from a note to one of its references. -/
def backlink (directives : DirectiveSet) (label : String) (occurrence : Nat) : List Markup :=
  [.verbatim "&#160;",
    .startTag "a"
      ({ name := "href", value := "#" ++ directives.referenceId occurrence label }
        :: { name := "rev", value := "footnote" }
        :: Attribute.ofClass directives.footnoteBacklinkClass),
    .verbatim directives.footnoteBacklinkText,
    .endTag "a"]

/-- The links from a note to its first `count` references. -/
def backlinks (directives : DirectiveSet) (label : String) (count : Nat) : List Markup :=
  (List.range count).flatMap fun i => directives.backlink label (i + 1)

end DirectiveSet

/-- A footnote in the list at the end of a document. -/
structure Note where
  label : String
  /-- The number of references to the note. -/
  count : Nat
  body : List Output
  deriving DecidableEq

/-- What is known of the footnotes of a document. -/
structure Footnotes where
  /-- The labels in the order of their first references, with the numbers of their references. -/
  referenced : List (String × Nat)
  /-- The labels with their definitions. The first definition of a label counts. -/
  definitions : List (String × List Output)
  /-- The definition that is being read. -/
  current : Option (String × Array Output)

namespace Footnotes

/-- No footnotes. -/
def empty : Footnotes where
  referenced := []
  definitions := []
  current := none

/-- Counts one more reference to a label. -/
def count (label : String) : List (String × Nat) → List (String × Nat)
  | [] => [(label, 1)]
  | entry :: rest =>
    if entry.1 = label then (label, entry.2 + 1) :: rest else entry :: count label rest

/-- The number of the note for a label among the referenced ones, from one. -/
def numberOf (label : String) (referenced : List (String × Nat)) : Nat :=
  referenced.findIdx (·.1 = label) + 1

/-- Takes down a reference. -/
def refer (footnotes : Footnotes) (label : String) : Footnotes :=
  { footnotes with referenced := count label footnotes.referenced }

/-- The number of the note for a label. -/
def number (footnotes : Footnotes) (label : String) : Nat :=
  numberOf label footnotes.referenced

/-- The number of references to a label so far. -/
def occurrences (footnotes : Footnotes) (label : String) : Nat :=
  (footnotes.referenced.lookup label).getD 0

/-- Starts to read a definition. -/
def «open» (footnotes : Footnotes) (label : String) : Footnotes :=
  { footnotes with current := some (label, #[]) }

/-- Takes down the definition that was read, unless the label has one already. -/
def close (footnotes : Footnotes) : Footnotes :=
  match footnotes.current with
  | none => footnotes
  | some (label, body) =>
    { footnotes with
      definitions :=
        if (footnotes.definitions.lookup label).isSome then footnotes.definitions
        else footnotes.definitions ++ [(label, body.toList)]
      current := none }

/-- The notes that are referenced and defined, in the order of their first references. -/
def notes (footnotes : Footnotes) : List Note :=
  footnotes.referenced.filterMap fun (label, count) =>
    (footnotes.definitions.lookup label).map fun body => { label, count, body }

end Footnotes

namespace Note

/-- Puts a step before the last end of a paragraph, or at the end where there is no paragraph. -/
def insertBeforeEnd (step : Output) (body : List Output) : List Output :=
  match body.reverse.dropWhile (!·.endsParagraph) with
  | [] => body ++ [step]
  | last :: before =>
    before.reverse ++ step :: last :: (body.reverse.takeWhile (!·.endsParagraph)).reverse

/-- The item of a note. -/
def item (directives : DirectiveSet) (note : Note) : List Output :=
  .written [.startTag "li" [{ name := "id", value := directives.noteId note.label }], .lineFeed]
    :: insertBeforeEnd (.written (directives.backlinks note.label note.count)) note.body
    ++ [.written [.endTag "li", .lineFeed]]

/-- The list of notes. Without notes there is no list. -/
def list (directives : DirectiveSet) (notes : List Note) : List Output :=
  if notes.isEmpty then
    []
  else
    .written [.startTag "div" (Attribute.ofClass directives.footnoteClass), .lineFeed,
        .voidTag "hr" [] directives.elementClosingStyle, .lineFeed, .startTag "ol" [], .lineFeed]
      :: notes.flatMap (item directives)
      ++ [.written [.endTag "ol", .lineFeed, .endTag "div", .lineFeed]]

end Note

end DirectedMarkdown
