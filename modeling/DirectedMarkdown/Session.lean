import DirectedMarkdown.File.Tree
import DirectedMarkdown.Surroundings

/-!
This module contains sessions: surroundings that are a value, so that what a command does to them is
a function.
-/

namespace DirectedMarkdown

/-- A tree of files, a place in it to work at, what can be read, and what was said so far. -/
structure Session where
  tree : Tree
  directory : Place
  input : String
  output : String
  /-- The lines shown to the user, in their order. -/
  reports : List String

namespace Session

/-- The session before anything is said. -/
def start (tree : Tree) (directory : Place) (input : String) : Session :=
  { tree, directory, input, output := "", reports := [] }

/-- Puts the outcome of a change of the tree into effect. -/
def update (session : Session) : Except FileError Tree → Except FileError Unit × Session
  | .error e => (.error e, session)
  | .ok tree => (.ok (), { session with tree })

/-- The absolute path of a place. -/
def pathOf (place : Place) : Path :=
  Path.ofSteps (.root :: place.map .name)

instance : Surroundings (StateM Session) where
  workingDirectory := fun session => (some (pathOf session.directory), session)
  isThere path := fun session => (session.tree.isThere session.directory path, session)
  isDirectory path := fun session => (session.tree.isDirectory session.directory path, session)
  readFile path := fun session => (session.tree.readFile session.directory path, session)
  writeFile path text := fun session =>
    session.update (session.tree.writeFile session.directory path text)
  createDirectory path := fun session =>
    session.update (session.tree.createDirectory session.directory path)
  readInput := fun session => (.ok session.input, { session with input := "" })
  print text := fun session => ((), { session with output := session.output ++ text })
  report line := fun session => ((), { session with reports := session.reports ++ [line] })

end Session

end DirectedMarkdown
