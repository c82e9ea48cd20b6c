import DirectedMarkdown.Binary64.Decimal
import DirectedMarkdown.Configuration
import DirectedMarkdown.Toml.Parser

/-!
This module contains the reading of a configuration from a TOML document. Settings stand in the
table `formatter`, the extension of written files in the table `output`; all else has no effect.
-/

namespace DirectedMarkdown.Configuration

/-- The value of a setting in a document. A number is a text. -/
def settingValue (name : String) : Toml.Value → Except Fault Value
  | .bool value => .ok (.flag value)
  | .text value => .ok (.text value)
  | .integer value => .ok (.text (Toml.integerText value))
  | .float value => .ok (.text value.toText)
  | .dateTime _ | .array _ | .table _ => .error (.notSimple name)

/-- Checks the kind of a value. Any value will do for a setting that is not known. -/
def checkKind (name : String) (value : Value) : Except Fault Unit :=
  match Field.ofName? name with
  | none => .ok ()
  | some field =>
    if field.kind.accepts value then .ok ()
    else .error (.wrongKind name field.kind.expected value.kindName)

/-- A setting of a document, if there is nothing wrong with it. -/
def readSetting (name : String) (value : Toml.Value) : Except Fault Value :=
  match settingValue name value with
  | .error fault => .error fault
  | .ok value => (checkKind name value).map fun _ => value

/-- Adds the settings of a table to a snapshot, in the order of the entries. -/
def readSettings (snapshot : Snapshot) : Toml.Table → Except Fault Snapshot
  | [] => .ok snapshot
  | (name, value) :: rest =>
    match readSetting name value with
    | .error fault => .error fault
    | .ok value => readSettings (snapshot.insert name value) rest

/-- Checks the extension of written files. -/
def checkExtension (extension : String) : Except Fault Unit :=
  if extension.isEmpty then
    .error .emptyExtension
  else if extension.toList.any fun c => c = '/' || c = '\\' || c = '.' then
    .error (.notBareExtension extension)
  else
    .ok ()

/-- The name of the only entry of a date or time that is taken for a table. -/
def dateTimeName : String := "$__toml_private_datetime"

/-- The table of the settings in a document. -/
def formatterTable? (document : Toml.Table) : Option Toml.Table :=
  match document.lookup "formatter" with
  | none => some []
  | some (.table entries) => if (Toml.Value.table entries).isNarrow then some entries else none
  | some (.dateTime value) => some [(dateTimeName, .text value.toText)]
  | some _ => none

/--
The extension in a document. An array in the place of the table gives the extension as its first
item.
-/
def outputExtension? (document : Toml.Table) : Option String :=
  let extension? : Option Toml.Value → Option String
    | none => some default.extension
    | some (.text value) => some value
    | some _ => none
  match document.lookup "output" with
  | none | some (.dateTime _) => some default.extension
  | some (.table entries) => extension? (entries.lookup "extension")
  | some (.array items) => extension? items.head?
  | some _ => none

/-- The entries of a table in ascending order of their names. -/
def sorted (table : Toml.Table) : Toml.Table :=
  table.mergeSort fun a b => a.1 ≤ b.1

/-- The configuration in a document. The settings are checked in the order of their names. -/
def ofText (document : String) : Except LoadError Configuration :=
  match Toml.Table.ofText document with
  | .error e => .error (.malformed (.toml e))
  | .ok document =>
    match formatterTable? document, outputExtension? document with
    | none, _ => .error (.malformed (.unexpected "formatter"))
    | some _, none => .error (.malformed (.unexpected "output"))
    | some formatter, some extension =>
      match readSettings Snapshot.empty (sorted formatter) with
      | .error fault => .error (.invalid fault)
      | .ok snapshot =>
        match checkExtension extension with
        | .error fault => .error (.invalid fault)
        | .ok () => .ok { snapshot, extension, path := none }

end DirectedMarkdown.Configuration
