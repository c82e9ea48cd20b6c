import DirectedMarkdown.Command.Render
import DirectedMarkdown.Command.Request

/-!
This module contains what the program does with its arguments.
-/

namespace DirectedMarkdown.Command

open Surroundings

/-- The text that is printed when the version is asked for. -/
def versionText : String := "mdtf 0.1.0\n"

/-- The text that is printed when help is asked for. -/
def helpText : String :=
  "mdtf - configuration-driven Markdown formatter.

Usage: mdtf [OPTIONS] <COMMAND>

Commands:
  render [INPUTS]  Render Markdown to HTML
  directives       Print the compiled directive set as JSON
  check            Validate the configuration

Options of every command:
  -c, --config <CONFIG>   Path to configuration file (default: auto-discover mdtf.toml)
      --html5             Close void elements HTML5 style (overrides config)
      --xhtml             Close void elements XHTML style (overrides config)
      --breaks            Render single line breaks as line break elements (overrides config)
      --no-breaks         Keep single line breaks as soft breaks (overrides config)
      --no-urls-linked    Do not turn bare URLs into links (overrides config)
      --set <KEY=VALUE>   Override a formatter setting
  -v, --verbose           Enable verbose output
  -h, --help              Print help
  -V, --version           Print version (before the command)

Options of render:
  -o, --output <OUTPUT>   Write HTML to this file instead of stdout
      --out-dir <OUT_DIR> Render every input into this directory
"

section

variable {m : Type → Type} [Monad m] [Surroundings m]

/-- The configuration that a setup asks for. -/
def loadSetup (setup : Setup) : ExceptT Failure m Configuration :=
  attempt .configuration (Configuration.load setup.path setup.adjustments)

/-- Compiles the settings of a configuration. -/
def compileSettings (configuration : Configuration) : ExceptT Failure m DirectiveSet :=
  attempt .compile (pure (compile configuration.snapshot))

/-- Prints the directives. -/
def printDirectives (configuration : Configuration) : ExceptT Failure m Unit := do
  let directives ← compileSettings configuration
  ExceptT.lift (print (directives.toJson.pretty ++ "\n"))

/-- Shows lines to the user, in their order. -/
def tellAll : List String → ExceptT Failure m Unit
  | [] => pure ()
  | line :: rest => do
    tell line
    tellAll rest

/-- Reports where the configuration comes from and whether it can be used. -/
def checkConfiguration (configuration : Configuration) : ExceptT Failure m Unit := do
  tell (match configuration.path with
    | some path => "Configuration: " ++ path.written
    | none => "Configuration: defaults (no mdtf.toml found)")
  tellAll (configuration.snapshot.unknownNames.map ("Unknown formatter setting: " ++ ·))
  let _ ← compileSettings configuration
  tell ("Configuration OK (" ++ toString configuration.snapshot.size ++ " formatter settings)")

/-- Does the work that is asked for. -/
def Task.perform : Task → ExceptT Failure m Unit
  | .render setup inputs output outDir => do
    let configuration ← loadSetup setup
    match outDir with
    | some outDir => renderToDirectory configuration inputs outDir
    | none => renderSingle configuration inputs output
  | .directives setup => do printDirectives (← loadSetup setup)
  | .check setup => do checkConfiguration (← loadSetup setup)

/-- Does the work that is asked for, reports its failure, and gives the exit status. -/
def Task.run (task : Task) : m UInt32 := do
  match ← task.perform.run with
  | .ok () => pure 0
  | .error failure => do
    report ("Error: " ++ failure.message)
    pure 1

/-- Runs the program, and gives its exit status. -/
def run (arguments : List String) : m UInt32 := do
  match Request.ofArguments arguments with
  | .error e => do
    report ("error: " ++ e.message)
    pure 2
  | .ok .help => do
    print helpText
    pure 0
  | .ok .version => do
    print versionText
    pure 0
  | .ok (.task task) => task.run

end

end DirectedMarkdown.Command
