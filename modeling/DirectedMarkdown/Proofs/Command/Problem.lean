import DirectedMarkdown.Proofs.Configuration.Fault
import DirectedMarkdown.Proofs.Directive.Compile

/-!
This module contains the problems that a configuration can have, which of them comes first, and what
is said of each: the file, the line, the setting or the entry of a list that is at fault.
-/

namespace DirectedMarkdown

/-- What is said of a file that cannot be used. -/
inductive FileError.Says : FileError → String → Prop where
  | notFound : Says .notFound "No such file or directory (os error 2)"
  | alreadyThere : Says .alreadyThere "File exists (os error 17)"
  | notDirectory : Says .notDirectory "Not a directory (os error 20)"
  | isDirectory : Says .isDirectory "Is a directory (os error 21)"
  | nameTooLong : Says .nameTooLong "File name too long (os error 36)"
  | nulInPath : Says .nulInPath "file name contained an unexpected NUL byte"
  | notText : Says .notText "stream did not contain valid UTF-8"
  | other (report : String) : Says (.other report) report

theorem FileError.says_message (e : FileError) : e.Says e.message := by
  cases e <;> constructor

/-- What is said of a text that is no document. -/
inductive Toml.Error.Says : Toml.Error → String → Prop where
  | unreadable (line : Nat)
    : Says (.unreadable line) ("invalid statement in line " ++ toString line)
  | conflict (name : List String)
    : Says (.conflict name) ("conflicting definition of " ++ ".".intercalate name)

theorem Toml.Error.says_message (e : Toml.Error) : e.Says e.message := by
  cases e <;> constructor

namespace Configuration

/-- What is said of settings that are at fault. -/
inductive Fault.Says : Fault → String → Prop where
  | notSimple (name : String)
    : Says (.notSimple name) ("formatter." ++ name ++ " must be a string or boolean")
  | wrongKind (name expected found : String)
    : Says (.wrongKind name expected found)
        ("formatter." ++ name ++ " must be a " ++ expected ++ ", got " ++ found)
  | emptyExtension : Says .emptyExtension "output.extension cannot be empty"
  | notBareExtension (extension : String)
    : Says (.notBareExtension extension)
        ("output.extension must be a bare extension, got " ++ Text.quoted extension)
  | unknownSetting (name : String)
    : Says (.unknownSetting name)
        ("unknown formatter setting " ++ Text.quoted name ++ " (expected one of: "
          ++ ", ".intercalate (Field.all.map Field.name) ++ ")")
  | notSwitch (name value : String)
    : Says (.notSwitch name value) (name ++ " expects a boolean, got " ++ Text.quoted value)

theorem Fault.says_message (fault : Fault) : fault.Says fault.message := by
  cases fault <;> constructor

/-- What is said of a configuration that cannot be loaded. -/
inductive LoadError.Says : LoadError → String → Prop where
  | notFound (path : Path)
    : Says (.notFound path) ("Configuration file not found: " ++ path.written)
  | file {e : FileError} {text : String} : e.Says text → Says (.file e) ("I/O error: " ++ text)
  | toml {e : Toml.Error} {text : String}
    : e.Says text → Says (.malformed (.toml e)) ("TOML parse error: " ++ text)
  | unexpected (name : String)
    : Says (.malformed (.unexpected name))
        ("TOML parse error: " ++ ("unexpected value of " ++ name))
  | invalid {fault : Fault} {text : String}
    : fault.Says text → Says (.invalid fault) ("Configuration error: " ++ text)

theorem LoadError.says_message (e : LoadError) : e.Says e.message := by
  cases e with
  | notFound path => exact .notFound path
  | file e => exact .file e.says_message
  | malformed e =>
    cases e with
    | toml e => exact .toml e.says_message
    | unexpected name => exact .unexpected name
  | invalid fault => exact .invalid fault.says_message

end Configuration

/-- What is said of settings that cannot be compiled. -/
inductive CompileError.Says : CompileError → String → Prop where
  | malformedPropertyEntry (field entry : String)
    : Says (.malformedPropertyEntry field entry)
        (field ++ ": malformed property entry " ++ Text.quoted entry
          ++ " (expected `key=value` or `key:value`)")
  | invalidFieldType (field expected found : String)
    : Says (.invalidFieldType field expected found)
        (field ++ ": expected a " ++ expected ++ " value, found " ++ found)

theorem CompileError.says_message (e : CompileError) : e.Says e.message := by
  cases e <;> constructor

namespace Command

/-- What is wrong with a configuration. -/
inductive Problem where
  | load (e : Configuration.LoadError)
  | compile (e : CompileError)
  deriving DecidableEq

/--
The first problem with the configuration that a setup asks for. If the configuration is loaded, it
is the fault of the first field whose setting does not compile.
-/
inductive FirstProblem (session : Session) (setup : Setup) : Problem → Prop where
  | load {e : Configuration.LoadError}
    : Configuration.LoadFault session setup.adjustments setup.path e →
      FirstProblem session setup (.load e)
  | compile {configuration : Configuration} {e : CompileError}
    : (session.run (Configuration.load setup.path setup.adjustments)).1 = .ok configuration →
      Field.FirstFault Field.all configuration.snapshot e →
      FirstProblem session setup (.compile e)

namespace Problem

/-- What is said of a problem. -/
inductive Says : Problem → String → Prop where
  | load {e : Configuration.LoadError} {text : String} : e.Says text → Says (.load e) text
  | compile {e : CompileError} {text : String} : e.Says text → Says (.compile e) text

def message : Problem → String
  | load e => e.message
  | compile e => e.message

theorem says_message (problem : Problem) : problem.Says problem.message := by
  cases problem with
  | load e => exact .load e.says_message
  | compile e => exact .compile e.says_message

end Problem

/-- The problem with a configuration that is loaded. -/
def problemWith (configuration : Configuration) : Option Problem :=
  match compile configuration.snapshot with
  | .error e => some (.compile e)
  | .ok _ => none

/-- The problem that comes up with the configuration of a setup, if there is one. -/
def problemIn (session : Session) (setup : Setup) : Option Problem :=
  match (session.run (Configuration.load setup.path setup.adjustments)).1 with
  | .error e => some (.load e)
  | .ok configuration => problemWith configuration

theorem firstProblem_of_problemIn {session : Session} {setup : Setup} {problem : Problem}
    (h : problemIn session setup = some problem) : FirstProblem session setup problem := by
  unfold problemIn at h
  split at h
  . next hload =>
    obtain rfl := Option.some.inj h
    exact .load (Configuration.loadFault_of_load hload)
  . next configuration hload =>
    unfold problemWith at h
    split at h
    . next hcompile =>
      obtain rfl := Option.some.inj h
      exact .compile hload (firstFault_of_compile hcompile)
    . nomatch h

end Command

end DirectedMarkdown
