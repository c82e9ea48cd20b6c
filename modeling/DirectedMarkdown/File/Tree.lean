import DirectedMarkdown.File.Error
import DirectedMarkdown.File.Path

/-!
This module contains trees of files without links, and what reading, writing and making directories
mean in them. `find?` is the view of a tree: every operation is described by what it finds then.
-/

namespace DirectedMarkdown

/-- Where something stands in a tree: the names on the way from the root. -/
abbrev Place : Type :=
  List String

/-- What stands at a place. -/
inductive Entry where
  | file (content : ByteArray)
  | directory

/-- A tree of files. The first entry of a place counts. The root is a directory always. -/
structure Tree where
  entries : List (Place × Entry)

namespace Tree

/-- The tree with nothing but a root. -/
def empty : Tree where
  entries := []

instance : Inhabited Tree := ⟨empty⟩

/-- What stands at a place. -/
def find? (tree : Tree) (place : Place) : Option Entry :=
  if place = [] then some .directory else tree.entries.lookup place

/-- Puts an entry to a place. -/
def insert (tree : Tree) (place : Place) (entry : Entry) : Tree where
  entries := (place, entry) :: tree.entries.filter (·.1 ≠ place)

theorem lookup_filter_ne {entries : List (Place × Entry)} {place other : Place}
    (h : other ≠ place) : (entries.filter (·.1 ≠ place)).lookup other = entries.lookup other := by
  induction entries with
  | nil => rfl
  | cons head rest ih =>
    obtain ⟨first, entry⟩ := head
    by_cases hp : first = place
    . have hne : (other == first) = false := by simpa [hp] using h
      rw [List.filter_cons_of_neg (by simp [hp]), List.lookup_cons, hne, ih]
    . rw [List.filter_cons_of_pos (by simp [hp]), List.lookup_cons, List.lookup_cons, ih]

theorem find?_insert_self (tree : Tree) {place : Place} (entry : Entry) (h : place ≠ [])
    : (tree.insert place entry).find? place = some entry := by
  simp [find?, insert, h]

theorem find?_insert_of_ne (tree : Tree) {place other : Place} (entry : Entry)
    (h : other ≠ place) : (tree.insert place entry).find? other = tree.find? other := by
  unfold find?
  split
  . rfl
  . have hne : (other == place) = false := by simpa using h
    simp only [insert, List.lookup_cons, hne]
    exact lookup_filter_ne h

/-- The largest number of bytes in a name. -/
def nameLimit : Nat := 255

/-- The number of bytes that no written path reaches. -/
def pathLimit : Nat := 4096

/-- Goes from a place to the entry with a name in it, which need not be there. -/
def child (tree : Tree) (place : Place) (name : String) : Except FileError Place :=
  match tree.find? place with
  | none => .error .notFound
  | some (.file _) => .error .notDirectory
  | some .directory =>
    if nameLimit < name.utf8ByteSize then .error .nameTooLong else .ok (place ++ [name])

/-- Goes from a place along one piece of a path. -/
def step (tree : Tree) (place : Place) (piece : List Char) : Except FileError Place :=
  if piece = [] ∨ piece = ['.'] ∨ piece = ['.', '.'] then
    match tree.find? place with
    | none => .error .notFound
    | some (.file _) => .error .notDirectory
    | some .directory => .ok (if piece = ['.', '.'] then place.dropLast else place)
  else
    tree.child place (String.ofList piece)

/-- Goes from a place along pieces of a path. -/
def walk (tree : Tree) : Place → List (List Char) → Except FileError Place
  | place, [] => .ok place
  | place, piece :: rest =>
    match tree.step place piece with
    | .error e => .error e
    | .ok place => tree.walk place rest

/-- Where a path starts, for the working directory `directory`. -/
def start (directory : Place) (path : Path) : Except FileError Place :=
  if path.written.isEmpty then .error .notFound
  else if path.holdsNul then .error .nulInPath
  else if pathLimit ≤ path.written.utf8ByteSize then .error .nameTooLong
  else .ok (if path.isAbsolute then [] else directory)

/-- The place that a path names, and what stands there. -/
def locate (tree : Tree) (directory : Place) (path : Path) : Except FileError (Place × Entry) :=
  match start directory path with
  | .error e => .error e
  | .ok place =>
    match tree.walk place path.pieces with
    | .error e => .error e
    | .ok place =>
      match tree.find? place with
      | none => .error .notFound
      | some entry => .ok (place, entry)

/-- Where a path leads that may name something new. -/
inductive Target where
  /-- A directory that is there: the root, or one named by dots. -/
  | directory
  /-- A place in a directory. The path may say that it is one of a directory, by a slash. -/
  | place (place : Place) (endsInSlash : Bool)

/-- The target of a path: all but its last name leads to a directory. -/
def target (tree : Tree) (directory : Place) (path : Path) : Except FileError Target :=
  match start directory path with
  | .error e => .error e
  | .ok place =>
    let backwards := path.pieces.reverse
    match backwards.dropWhile List.isEmpty with
    | [] => .ok .directory
    | last :: before =>
      match tree.walk place before.reverse with
      | .error e => .error e
      | .ok place =>
        if last = ['.'] ∨ last = ['.', '.'] then
          (tree.step place last).map fun _ => .directory
        else
          (tree.child place (String.ofList last)).map fun place =>
            .place place (backwards.head? = some [])

/-- Whether there is anything at a path. -/
def isThere (tree : Tree) (directory : Place) (path : Path) : Bool :=
  match tree.locate directory path with
  | .ok _ => true
  | .error _ => false

/-- Whether there is a directory at a path. -/
def isDirectory (tree : Tree) (directory : Place) (path : Path) : Bool :=
  match tree.locate directory path with
  | .ok (_, .directory) => true
  | _ => false

/-- The text of the file at a path. -/
def readFile (tree : Tree) (directory : Place) (path : Path) : Except FileError String :=
  match tree.locate directory path with
  | .error e => .error e
  | .ok (_, .directory) => .error .isDirectory
  | .ok (_, .file content) =>
    match String.fromUTF8? content with
    | none => .error .notText
    | some text => .ok text

/-- Writes a text to the file at a path, which need not be there before. -/
def writeFile (tree : Tree) (directory : Place) (path : Path) (text : String)
    : Except FileError Tree :=
  match tree.target directory path with
  | .error e => .error e
  | .ok .directory | .ok (.place _ true) => .error .isDirectory
  | .ok (.place place false) =>
    match tree.find? place with
    | some .directory => .error .isDirectory
    | _ => .ok (tree.insert place (.file text.toUTF8))

/-- Makes the directory at a path, which must not be there before. -/
def createDirectory (tree : Tree) (directory : Place) (path : Path) : Except FileError Tree :=
  match tree.target directory path with
  | .error e => .error e
  | .ok .directory => .error .alreadyThere
  | .ok (.place place _) =>
    match tree.find? place with
    | some _ => .error .alreadyThere
    | none => .ok (tree.insert place .directory)

end Tree

end DirectedMarkdown
