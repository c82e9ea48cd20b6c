import DirectedMarkdown.PropertyList
import DirectedMarkdown.Text.Blank
import DirectedMarkdown.Text.Split

/-!
This module contains the definition lines of abbreviations, `*[HTML]: HyperText Markup Language`,
and the function `extract` that takes them out of a document. Lines between code fences are kept.
-/

namespace DirectedMarkdown.Abbreviation

/-- A run of fence characters at the start of a line. -/
structure Fence where
  /-- The fence character, a backtick or a tilde. -/
  marker : Char
  /-- The length of the run. -/
  run : Nat
  deriving DecidableEq

/-- The fence at the start of a line, after any blank space, and the trimmed text behind it. -/
def fence? (content : List Char) : Option (Fence × List Char) :=
  match content.dropWhile Text.isBlank with
  | [] => none
  | marker :: rest =>
    if marker = '\x60' ∨ marker = '~' then
      let run := 1 + (rest.takeWhile (· = marker)).length
      if 3 ≤ run then some (⟨marker, run⟩, Text.trimChars (rest.dropWhile (· = marker))) else none
    else
      none

/-- A space or a tab. -/
def isSpace (c : Char) : Bool :=
  c = ' ' || c = '\t'

/-- Drops spaces and tabs at both ends. -/
def trimSpaces (s : List Char) : List Char :=
  Text.dropEndWhile isSpace (s.dropWhile isSpace)

/-- The abbreviation that a line defines, and its expansion. -/
def definition? (content : List Char) : Option (List Char × List Char) :=
  match content with
  | '*' :: '[' :: rest =>
    let key := rest.takeWhile (· ≠ ']')
    match rest.dropWhile (· ≠ ']') with
    | ']' :: ':' :: expansion =>
      if key.isEmpty then none else some (Text.trimChars key, trimSpaces expansion)
    | _ => none
  | _ => none

/-- What becomes of a line. -/
inductive Line where
  /-- The line stays in the document. -/
  | kept (line : List Char)
  /-- The line is taken out. -/
  | definition (key expansion : List Char)
  deriving DecidableEq

/-- A line without its line ending. -/
def lineContent (line : List Char) : List Char :=
  Text.dropEndWhile (fun c => c = '\r' || c = '\n') line

/-- Whether a fence closes the one that is open. -/
def Fence.closes (fence : Fence) (info : List Char) (opened : Fence) : Bool :=
  fence.marker = opened.marker && opened.run ≤ fence.run && info.isEmpty

/-- Sorts the lines of a document, where `opened` is the fence that is open before them. -/
def classify (opened : Option Fence) : List (List Char) → List Line
  | [] => []
  | line :: rest =>
    let content := lineContent line
    match opened, fence? content with
    | none, some (fence, _) => .kept line :: classify (some fence) rest
    | some fence, some (closing, info) =>
      .kept line :: classify (if closing.closes info fence then none else some fence) rest
    | some fence, none => .kept line :: classify (some fence) rest
    | none, none =>
      match definition? content with
      | some (key, expansion) => .definition key expansion :: classify none rest
      | none => .kept line :: classify none rest

namespace Line

/-- What a line leaves in the document. -/
def body : Line → List Char
  | kept line => line
  | definition _ _ => []

/-- The pair that a line adds to the abbreviations. -/
def pair? : Line → Option (String × String)
  | kept _ => none
  | definition key expansion => some (String.ofList key, String.ofList expansion)

end Line

/-- The lines of a document, sorted. -/
def sortLines (text : String) : List Line :=
  classify none (Text.lines text.toList)

/-- The document without its definition lines, and the abbreviations that they define. -/
def extract (text : String) : String × PropertyList :=
  let lines := sortLines text
  (String.ofList (lines.flatMap Line.body), PropertyList.ofList (lines.filterMap Line.pair?))

end DirectedMarkdown.Abbreviation
