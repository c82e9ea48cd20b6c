import DirectedMarkdown.Configuration.Adjustment
import DirectedMarkdown.Configuration.Document
import DirectedMarkdown.Surroundings

/-!
This module contains the loading of configurations: from a file that is named, or else from the
nearest one in the working directory and those above it, or else from none.
-/

namespace DirectedMarkdown.Configuration

open Surroundings

variable {m : Type → Type} [Monad m] [Surroundings m]

/-- Where a configuration is looked for from a directory, the nearest place first. -/
def candidates (directory : Path) : List Path :=
  directory.ancestors.map (·.join fileName)

/-- The file to load when none is named. -/
def discover : m (Option Path) := do
  match ← workingDirectory with
  | none => pure none
  | some directory => firstThere? (candidates directory)

/-- The configuration in a file. -/
def ofFile (path : Path) : m (Except LoadError Configuration) := do
  match ← readFile path with
  | .error e => pure (.error (.file e))
  | .ok document => pure ((ofText document).map ({ · with path := some path }))

/-- The configuration before adjustments, for the path that is named, if any. -/
def base (path : Option Path) : m (Except LoadError Configuration) := do
  match path with
  | some path => do if ← isThere path then ofFile path else pure (.error (.notFound path))
  | none =>
    match ← discover with
    | some path => ofFile path
    | none => pure (.ok default)

/-- The configuration for the path that is named, if any, with adjustments. -/
def load (path : Option Path) (adjustments : Adjustments)
    : m (Except LoadError Configuration) := do
  match ← base path with
  | .error e => pure (.error e)
  | .ok configuration =>
    match adjust configuration.snapshot adjustments with
    | .error fault => pure (.error (.invalid fault))
    | .ok snapshot => pure (.ok { configuration with snapshot })

end DirectedMarkdown.Configuration
