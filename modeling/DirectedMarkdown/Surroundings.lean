import DirectedMarkdown.File.Error
import DirectedMarkdown.File.Path

/-!
This module contains what a command can do to its surroundings: look at files, write them, read its
input, and say something.
-/

namespace DirectedMarkdown

/-- The actions of a command on its surroundings. -/
class Surroundings (m : Type → Type) where
  /-- The absolute path of the working directory. -/
  workingDirectory : m (Option Path)
  /-- Whether there is anything at a path. -/
  isThere (path : Path) : m Bool
  isDirectory (path : Path) : m Bool
  readFile (path : Path) : m (Except FileError String)
  writeFile (path : Path) (text : String) : m (Except FileError Unit)
  createDirectory (path : Path) : m (Except FileError Unit)
  /-- The whole input. -/
  readInput : m (Except FileError String)
  /-- Writes a text to the output. -/
  print (text : String) : m Unit
  /-- Shows a line to the user, apart from the output. -/
  report (line : String) : m Unit

namespace Surroundings

variable {m : Type → Type} [Monad m] [Surroundings m]

/-- The first path of a list at which there is anything. -/
def firstThere? : List Path → m (Option Path)
  | [] => pure none
  | path :: rest => do if ← isThere path then pure (some path) else firstThere? rest

/-- Makes a directory, unless it is there. -/
def ensureDirectory (path : Path) : m (Except FileError Unit) := do
  match ← createDirectory path with
  | .ok () => pure (.ok ())
  | .error e => do
    if e = .alreadyThere ∧ (← isDirectory path) then pure (.ok ()) else pure (.error e)

/--
Makes the first directory of a list, where each one lies in the next. The others are only made if
that fails without them.
-/
def createChain : List Path → m (Except FileError Unit)
  | [] => pure (.ok ())
  | path :: above => do
    match ← ensureDirectory path with
    | .error .notFound =>
      match ← createChain above with
      | .error e => pure (.error e)
      | .ok () => ensureDirectory path
    | result => pure result

/-- Makes a directory and those above it, as far as they are not there. -/
def createDirectories (path : Path) : m (Except FileError Unit) :=
  createChain (path.ancestors.takeWhile fun path => path.steps ≠ [] && path.steps ≠ [.root])

end Surroundings

end DirectedMarkdown
