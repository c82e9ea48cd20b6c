import DirectedMarkdown.Command.Run

/-!
This module contains the program: its commands act on the files, the input and the output of the
process.
-/

namespace DirectedMarkdown

namespace FileError

/-- The number of an error of the system, whose sign differs between its parts. -/
def errorNumber (code : UInt32) : Nat :=
  min code.toNat (0 - code).toNat

/-- The reason in an error of the system. -/
def ofIO (e : IO.Error) : FileError :=
  match e with
  | .noFileOrDirectory _ _ _ => .notFound
  | .alreadyExists _ _ _ => .alreadyThere
  | .inappropriateType _ code _ =>
    if errorNumber code = 20 then .notDirectory
    else if errorNumber code = 21 then .isDirectory
    else .other (toString e)
  | _ => .other (toString e)

end FileError

/-- The outcome of an action of the system. -/
def outcome {α : Type} (action : IO α) : IO (Except FileError α) := do
  match ← action.toBaseIO with
  | .ok a => pure (.ok a)
  | .error e => pure (.error (FileError.ofIO e))

/-- The outcome of an action of the system on the file at a path. -/
def outcomeAt {α : Type} (path : Path) (action : IO α) : IO (Except FileError α) :=
  if path.holdsNul then pure (.error .nulInPath) else outcome action

/-- The text in bytes that were read. -/
def textOf (bytes : Except FileError ByteArray) : Except FileError String :=
  match bytes with
  | .error e => .error e
  | .ok bytes =>
    match String.fromUTF8? bytes with
    | none => .error .notText
    | some text => .ok text

instance : Surroundings IO where
  workingDirectory := do
    match ← outcome IO.currentDir with
    | .ok directory => pure (some { written := directory.toString })
    | .error _ => pure none
  isThere path := do
    if path.written.isEmpty then pure false else ((← IO.currentDir) / path.written).pathExists
  isDirectory path := do
    if path.written.isEmpty then pure false else ((← IO.currentDir) / path.written).isDir
  readFile path := do
    return textOf (← outcomeAt path (IO.FS.readBinFile path.written))
  writeFile path text := outcomeAt path (IO.FS.writeFile path.written text)
  createDirectory path := outcomeAt path (IO.FS.createDir path.written)
  readInput := do
    return textOf (← outcome ((← IO.getStdin).readBinToEnd))
  print text := do (← IO.getStdout).putStr text
  report line := do (← IO.getStderr).putStr (line ++ "\n")

end DirectedMarkdown

/-- Runs the program with its arguments. -/
def main (arguments : List String) : IO UInt32 :=
  DirectedMarkdown.Command.run arguments
