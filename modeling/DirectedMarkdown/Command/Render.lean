import DirectedMarkdown.Configuration.Load
import DirectedMarkdown.Formatter

/-!
This module contains the rendering of files. A single text goes to a file or to the output. Several
files go to a directory, each under its own name with the extension of the configuration.
-/

namespace DirectedMarkdown.Command

open Surroundings

/-- Why a command fails. -/
inductive Failure where
  | configuration (e : Configuration.LoadError)
  | compile (e : CompileError)
  | format (e : FormatError)
  /-- The input cannot be read. -/
  | input (e : FileError)
  | unreadable (path : Path) (e : FileError)
  | unwritable (path : Path) (e : FileError)
  | noDirectory (path : Path) (e : FileError)
  /-- Several files are to be written to one place. -/
  | severalInputs
  | noInputs
  | sameTarget (first second target : Path)
  /-- Some of several files were not rendered. -/
  | incomplete (count : Nat)
  deriving DecidableEq

namespace Failure

def message : Failure → String
  | configuration e => e.message
  | compile e => e.message
  | format e => e.message
  | input e => e.message
  | unreadable path e => "Failed to read " ++ path.written ++ ": " ++ e.message
  | unwritable path e => "Failed to write " ++ path.written ++ ": " ++ e.message
  | noDirectory path e =>
    "Failed to create output directory " ++ path.written ++ ": " ++ e.message
  | severalInputs => "Multiple inputs require --out-dir"
  | noInputs => "--out-dir requires at least one input file"
  | sameTarget first second target =>
    first.written ++ " and " ++ second.written ++ " would both be written to " ++ target.written
  | incomplete count => toString count ++ " files failed to render"

end Failure

/-- Where the rendering of a file goes in the directory `outDir`. -/
def outputPath (input outDir : Path) (extension : String) : Path :=
  (outDir.join ((input.stem?.map Path.mk).getD input)).withExtension extension

/-- Where the renderings of files go, if they all go to different places. -/
def outputTargets (outDir : Path) (extension : String) (inputs : List Path)
    : Except Failure (List Path) :=
  go [] inputs
where
  /-- `earlier` has the files before, with the places they go to. -/
  go (earlier : List (Path × Path)) : List Path → Except Failure (List Path)
    | [] => .ok []
    | input :: rest =>
      let target := outputPath input outDir extension
      match earlier.find? fun (_, other) => other.steps = target.steps with
      | some (previous, _) => .error (.sameTarget previous input target)
      | none => (go ((input, target) :: earlier) rest).map (target :: ·)

section

variable {m : Type → Type} [Monad m] [Surroundings m]

/-- Lets the failure of an action on files be the failure of a command. -/
def attempt {α ε : Type} (failure : ε → Failure) (action : m (Except ε α)) : ExceptT Failure m α :=
  ExceptT.mk do
    match ← action with
    | .ok a => pure (.ok a)
    | .error e => pure (.error (failure e))

/-- Shows a line to the user. -/
def tell (line : String) : ExceptT Failure m Unit :=
  ExceptT.lift (report line)

/-- Reads files, in their order. -/
def readAll : List Path → ExceptT Failure m (List String)
  | [] => pure []
  | path :: rest => do
    let text ← attempt (.unreadable path) (readFile path)
    let texts ← readAll rest
    return text :: texts

/-- The rendering of one of several files. -/
structure Rendering where
  input : Path
  target : Path
  result : Except EngineError String

/-- Writes a rendering, or reports why there is none. Answers whether it was written. -/
def Rendering.write (rendering : Rendering) : m Bool := do
  let failed (reason : String) : m Bool := do
    report ("Failed to render " ++ rendering.input.written ++ ": " ++ reason)
    pure false
  match rendering.result with
  | .error e => failed e.message
  | .ok html =>
    match ← writeFile rendering.target html with
    | .error e => failed e.message
    | .ok () => pure true

/-- Writes renderings, and answers how many were not written. -/
def writeAll : List Rendering → m Nat
  | [] => pure 0
  | rendering :: rest => do
    let isWritten ← rendering.write
    let failed ← writeAll rest
    return if isWritten then failed else failed + 1

/--
Renders files to a directory. Nothing is changed before all files are read, and nothing but the
directory is made before the configuration is compiled.
-/
def renderToDirectory (configuration : Configuration) (inputs : List Path) (outDir : Path)
    : ExceptT Failure m Unit := do
  if inputs.isEmpty then
    throw .noInputs
  let targets ← ExceptT.mk (pure (outputTargets outDir configuration.extension inputs))
  let texts ← readAll inputs
  attempt (.noDirectory outDir) (createDirectories outDir)
  let results ← attempt .compile (pure (formatBatch Engine.html texts configuration.snapshot))
  let renderings := (inputs.zip (targets.zip results)).map fun (input, target, result) =>
    { input, target, result : Rendering }
  let failed ← (writeAll renderings : m Nat)
  tell ("Rendered " ++ toString (inputs.length - failed) ++ " of " ++ toString inputs.length
    ++ " files")
  if 0 < failed then
    throw (.incomplete failed)

/-- The text of the only file, or else of the input. -/
def readSingle : List Path → ExceptT Failure m String
  | [] => attempt .input readInput
  | [path] => attempt (.unreadable path) (readFile path)
  | _ => throw .severalInputs

/-- Renders one text to a file, if one is named, and to the output otherwise. -/
def renderSingle (configuration : Configuration) (inputs : List Path) (output : Option Path)
    : ExceptT Failure m Unit := do
  let text ← readSingle inputs
  let html ← attempt .format (pure (format Engine.html text configuration.snapshot))
  match output with
  | some path => attempt (.unwritable path) (writeFile path html)
  | none => ExceptT.lift (print html)

end

end DirectedMarkdown.Command
