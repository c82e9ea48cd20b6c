import DirectedMarkdown.Directive.Field
import DirectedMarkdown.File.Error
import DirectedMarkdown.File.Path
import DirectedMarkdown.Text.Quoted
import DirectedMarkdown.Toml.Error

/-!
This module contains configurations: settings together with what a command needs to know besides.
-/

namespace DirectedMarkdown

/-- A configuration, and the file that it comes from, if any. -/
structure Configuration where
  snapshot : Snapshot
  /-- The extension of files that are written to a directory. -/
  extension : String
  path : Option Path
  deriving DecidableEq

namespace Configuration

/-- The configuration without a file. -/
def default : Configuration where
  snapshot := Snapshot.empty
  extension := "html"
  path := none

instance : Inhabited Configuration := ⟨default⟩

/-- The name of the file that is looked for. -/
def fileName : Path where
  written := "mdtf.toml"

/-- What is wrong with the settings of a configuration. -/
inductive Fault where
  /-- A value is neither a text, nor a number, nor a switch. -/
  | notSimple (name : String)
  | wrongKind (name expected found : String)
  | emptyExtension
  | notBareExtension (extension : String)
  | unknownSetting (name : String)
  | notSwitch (name value : String)
  deriving DecidableEq

namespace Fault

def message : Fault → String
  | notSimple name => "formatter." ++ name ++ " must be a string or boolean"
  | wrongKind name expected found =>
    "formatter." ++ name ++ " must be a " ++ expected ++ ", got " ++ found
  | emptyExtension => "output.extension cannot be empty"
  | notBareExtension extension =>
    "output.extension must be a bare extension, got " ++ Text.quoted extension
  | unknownSetting name =>
    "unknown formatter setting " ++ Text.quoted name ++ " (expected one of: "
      ++ ", ".intercalate (Field.all.map Field.name) ++ ")"
  | notSwitch name value => name ++ " expects a boolean, got " ++ Text.quoted value

end Fault

/-- Why a file holds no document of a configuration. -/
inductive DocumentError where
  | toml (e : Toml.Error)
  /-- What stands under this name has another form. -/
  | unexpected (name : String)
  deriving DecidableEq

namespace DocumentError

def message : DocumentError → String
  | toml e => e.message
  | unexpected name => "unexpected value of " ++ name

end DocumentError

/-- Why there is no configuration. -/
inductive LoadError where
  | notFound (path : Path)
  | file (e : FileError)
  | malformed (e : DocumentError)
  | invalid (fault : Fault)
  deriving DecidableEq

namespace LoadError

def message : LoadError → String
  | notFound path => "Configuration file not found: " ++ path.written
  | file e => "I/O error: " ++ e.message
  | malformed e => "TOML parse error: " ++ e.message
  | invalid fault => "Configuration error: " ++ fault.message

end LoadError

end Configuration

end DirectedMarkdown
