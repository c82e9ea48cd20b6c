import DirectedMarkdown.Command.Argument
import DirectedMarkdown.Configuration.Adjustment
import DirectedMarkdown.Text.Blank

/-!
This module contains requests: what a command line asks for.
-/

namespace DirectedMarkdown.Command

/-- What every command takes: a configuration and adjustments of it. -/
structure Setup where
  path : Option Path
  adjustments : Configuration.Adjustments
  deriving DecidableEq

/-- The work that can be asked for. -/
inductive Task where
  /-- Renders files, or the input, to a file, to a directory, or to the output. -/
  | render (setup : Setup) (inputs : List Path) (output outDir : Option Path)
  /-- Prints the directives. -/
  | directives (setup : Setup)
  /-- Checks the configuration. -/
  | check (setup : Setup)
  deriving DecidableEq

/-- What a command line asks for. -/
inductive Request where
  | help
  | version
  | task (task : Task)
  deriving DecidableEq

/-- The names of the commands. -/
inductive Name where
  | render
  | directives
  | check
  deriving DecidableEq

namespace Name

def ofString? (written : String) : Option Name :=
  if written = "render" then some render
  else if written = "directives" then some directives
  else if written = "check" then some check
  else none

/-- The options of the command. -/
def flags (name : Name) : List Flag :=
  [.help, .verbose, .config, .html5, .xhtml, .breaks, .noBreaks, .noUrlsLinked, .set]
    ++ if name = render then [.output, .outDir] else []

end Name

/-- A setting `KEY=VALUE`. Blank space around the key, which is not empty, does not count. -/
def readSetting (written : String) : Option (String × String) :=
  match splitOnce '=' written.toList with
  | none => none
  | some (key, value) =>
    let key := Text.trimChars key
    if key.isEmpty then none else some (String.ofList key, String.ofList value)

/-- Whether the items may stand in this order, and whether help is asked for. -/
def checkItems (name : Name) (seen : List Flag) : List Item → Except UsageError Bool
  | [] => .ok false
  | .flag flag :: rest =>
    if flag = .help then .ok true
    else if flag ∈ seen then .error (.repeated flag)
    else checkItems name (flag :: seen) rest
  | .value flag value :: rest =>
    if flag ∈ seen ∧ ¬flag.isRepeatable then .error (.repeated flag)
    else if flag = .set ∧ readSetting value = none then .error (.malformedSetting value)
    else if flag ≠ .set ∧ value.isEmpty then .error .emptyPath
    else checkItems name (flag :: seen) rest
  | .word word :: rest =>
    if name ≠ .render then .error (.unexpectedWord word)
    else if word.isEmpty then .error .emptyPath
    else checkItems name seen rest

/-- The options that cannot be used together. -/
def conflicts : List (Flag × Flag) :=
  [(.html5, .xhtml), (.breaks, .noBreaks), (.output, .outDir)]

/-- Whether an option is among the items. -/
def isGiven (items : List Item) (flag : Flag) : Bool :=
  items.any fun
    | .flag other | .value other _ => other = flag
    | .word _ => false

/-- The values of an option, in their order. -/
def valuesOf (items : List Item) (flag : Flag) : List String :=
  items.filterMap fun
    | .value other value => if other = flag then some value else none
    | _ => none

/-- The path that is the value of an option. -/
def pathOf (items : List Item) (flag : Flag) : Option Path :=
  (valuesOf items flag).head?.map Path.mk

/-- The words among the items. -/
def wordsOf (items : List Item) : List String :=
  items.filterMap fun
    | .word word => some word
    | _ => none

/-- The position of a switch with an option for each. -/
def switchOf (items : List Item) (on off : Flag) : Option Bool :=
  if isGiven items off then some false
  else if isGiven items on then some true
  else none

def setupOf (items : List Item) : Setup where
  path := pathOf items .config
  adjustments := {
    html5 := switchOf items .html5 .xhtml
    breaks := switchOf items .breaks .noBreaks
    urls := if isGiven items .noUrlsLinked then some false else none
    overrides := (valuesOf items .set).filterMap readSetting }

/-- The task that the items ask a command for. -/
def taskOf (name : Name) (items : List Item) : Task :=
  match name with
  | .render =>
    .render (setupOf items) ((wordsOf items).map Path.mk) (pathOf items .output)
      (pathOf items .outDir)
  | .directives => .directives (setupOf items)
  | .check => .check (setupOf items)

/-- The request in the arguments after the name of a command. -/
def Name.request (name : Name) (arguments : List String) : Except UsageError Request :=
  match readItems name.flags none arguments with
  | .error e => .error e
  | .ok items =>
    match checkItems name [] items with
    | .error e => .error e
    | .ok true => .ok .help
    | .ok false =>
      match conflicts.find? fun (a, b) => isGiven items a && isGiven items b with
      | some (a, b) => .error (.conflict a b)
      | none => .ok (.task (taskOf name items))

/-- The options before the name of a command. -/
def generalFlags : List Flag :=
  [.help, .version, .verbose]

/-- Takes options before the name of a command one after the other. -/
def readGeneral (isVerbose : Bool) : List Item → Except UsageError (Option Request × Bool)
  | [] => .ok (none, isVerbose)
  | .flag .help :: _ => .ok (some .help, isVerbose)
  | .flag .version :: _ => .ok (some .version, isVerbose)
  | _ :: rest => if isVerbose then .error (.repeated .verbose) else readGeneral true rest

namespace Request

/--
The request in the arguments after the word for help. One of them may name what to help with.
-/
def ofHelp : List String → Except UsageError Request
  | [] => .ok .help
  | topic :: rest =>
    if topic ≠ "help" ∧ Name.ofString? topic = none then .error (.unknownCommand topic)
    else match rest with
      | [] => .ok .help
      | word :: _ => .error (.unknownCommand word)

/-- The request in the arguments of the program. -/
def ofArguments (arguments : List String) : Except UsageError Request :=
  go false arguments
where
  /-- The option for messages on the progress may be given once before the command. -/
  go (isVerbose : Bool) : List String → Except UsageError Request
    | [] => .error .noCommand
    | argument :: rest =>
      let proceed (reading : Except UsageError Reading) : Except UsageError Request :=
        match reading with
        | .error e => .error e
        | .ok reading =>
          match readGeneral isVerbose reading.items with
          | .error e => .error e
          | .ok (some request, _) => .ok request
          | .ok (none, isVerbose) => go isVerbose rest
      match Argument.ofString argument with
      | .separator => .error .noCommand
      | .long name value => proceed (readLong generalFlags name value)
      | .short letters => proceed (readShort generalFlags letters)
      | .word =>
        match Name.ofString? argument with
        | some name => name.request rest
        | none => if argument = "help" then ofHelp rest else .error (.unknownCommand argument)

end Request

end DirectedMarkdown.Command
