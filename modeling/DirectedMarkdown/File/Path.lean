import DirectedMarkdown.Text.Split

/-!
This module contains paths of files, and what can be done with them as they are written, without a
look at any file.
-/

namespace DirectedMarkdown

/-- A path as it is written. -/
structure Path where
  written : String
  deriving DecidableEq, Inhabited

namespace Path

/-- A step of a path. -/
inductive Step where
  | root
  /-- The directory itself, in front of a path. -/
  | current
  | parent
  | name (written : String)
  deriving DecidableEq

def ofChars (s : List Char) : Path where
  written := String.ofList s

/-- The characters of a path. -/
def chars (path : Path) : List Char :=
  path.written.toList

/-- What stands between the slashes. -/
def pieces (path : Path) : List (List Char) :=
  Text.splitOn ['/'] path.chars

def isAbsolute (path : Path) : Bool :=
  path.chars.head? = some '/'

/-- Whether a path holds the character that ends every path for the system. -/
def holdsNul (path : Path) : Bool :=
  path.chars.contains '\x00'

/-- The step of a piece that is not the first one. -/
def Step.ofPiece? (piece : List Char) : Option Step :=
  if piece = [] ∨ piece = ['.'] then none
  else if piece = ['.', '.'] then some .parent
  else some (.name (String.ofList piece))

/-- The steps of a path. Empty pieces are none, and a single dot is one only in front. -/
def steps (path : Path) : List Step :=
  match path.pieces with
  | [] => []
  | first :: rest =>
    let start :=
      if first = [] ∧ rest ≠ [] then some Step.root
      else if first = ['.'] then some .current
      else Step.ofPiece? first
    start.toList ++ rest.filterMap Step.ofPiece?

/-- The name at the end of a path. -/
def fileName? (path : Path) : Option String :=
  match path.steps.getLast? with
  | some (.name name) => some name
  | _ => none

/--
The parts of a name before and after its last dot. A dot in front of the name does not count.
-/
def splitExtension (name : List Char) : List Char × Option (List Char) :=
  match name.reverse.dropWhile (· ≠ '.') with
  | [] | [_] => (name, none)
  | _ :: stem => (stem.reverse, some (name.reverse.takeWhile (· ≠ '.')).reverse)

/-- The name at the end of a path, without its extension. -/
def stem? (path : Path) : Option String :=
  path.fileName?.map fun name => String.ofList (splitExtension name.toList).1

/-- The extension of the name at the end of a path. -/
def extension? (path : Path) : Option String :=
  path.fileName?.bind fun name => (splitExtension name.toList).2.map String.ofList

/-- The path `other`, seen from the directory `path`. -/
def join (path other : Path) : Path :=
  if other.isAbsolute then
    other
  else
    let separator := if path.chars.isEmpty ∨ path.chars.getLast? = some '/' then [] else ['/']
    ofChars (path.chars ++ separator ++ other.chars)

/-- Drops the slashes and lone dots in front of a path that is read backwards. -/
def dropTrailing : List Char → List Char
  | '/' :: rest => dropTrailing rest
  | '.' :: '/' :: rest => dropTrailing rest
  | s => s

/-- Puts an extension after the stem of the name at the end of a path, if it has one. -/
def setExtension (path : Path) (extension : String) : Path :=
  match path.fileName? with
  | none => path
  | some name =>
    let named := (dropTrailing path.chars.reverse).reverse
    let surplus := name.length - (splitExtension name.toList).1.length
    let suffix := if extension.isEmpty then [] else '.' :: extension.toList
    ofChars (named.take (named.length - surplus) ++ suffix)

/--
The path with another extension. The old one is taken off first, up to its dot: if only dots are
left then, the path ends in no name, and gets no extension.
-/
def withExtension (path : Path) (extension : String) : Path :=
  match path.extension? with
  | none => path.setExtension extension
  | some old => (ofChars (path.chars.take (path.chars.length - old.length))).setExtension extension

/-- The text of a step. -/
def Step.text : Step → List Char
  | root => []
  | current => ['.']
  | parent => ['.', '.']
  | name written => written.toList

/-- The path with these steps. -/
def ofSteps (steps : List Step) : Path :=
  match steps with
  | [.root] => { written := "/" }
  | _ => ofChars (['/'].intercalate (steps.map Step.text))

/-- The path itself, and the paths of the directories above it, the nearest first. -/
def ancestors (path : Path) : List Path :=
  let steps := path.steps
  let count := if steps.head? = some .root then steps.length - 1 else steps.length
  path :: (List.range count).map fun i => ofSteps (steps.take (steps.length - (i + 1)))

end Path

end DirectedMarkdown
