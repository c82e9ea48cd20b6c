import DirectedMarkdown.Text.Split

/-!
This module contains the arguments of a command line: options, which start with a dash and may have
a value, and words. After the argument `--` there are only words.
-/

namespace DirectedMarkdown.Command

/-- The options. -/
inductive Flag where
  | help
  | version
  | verbose
  | config
  | html5
  | xhtml
  | breaks
  | noBreaks
  | noUrlsLinked
  | set
  | output
  | outDir
  deriving DecidableEq

namespace Flag

/-- The name after two dashes. -/
def long : Flag → String
  | help => "help"
  | version => "version"
  | verbose => "verbose"
  | config => "config"
  | html5 => "html5"
  | xhtml => "xhtml"
  | breaks => "breaks"
  | noBreaks => "no-breaks"
  | noUrlsLinked => "no-urls-linked"
  | set => "set"
  | output => "output"
  | outDir => "out-dir"

/-- The letter after one dash. -/
def short? : Flag → Option Char
  | help => some 'h'
  | version => some 'V'
  | verbose => some 'v'
  | config => some 'c'
  | output => some 'o'
  | _ => none

/-- Whether the option has a value. -/
def hasValue : Flag → Bool
  | config | set | output | outDir => true
  | _ => false

/-- Whether the option may be given more than once. -/
def isRepeatable : Flag → Bool
  | set => true
  | _ => false

end Flag

/-- What is wrong with a command line. -/
inductive UsageError where
  | noCommand
  | unknownCommand (name : String)
  | unknownOption (written : String)
  | unexpectedWord (word : String)
  | missingValue (flag : Flag)
  | unexpectedValue (flag : Flag)
  | repeated (flag : Flag)
  | conflict (first second : Flag)
  | emptyPath
  | malformedSetting (written : String)
  deriving DecidableEq

namespace UsageError

def message : UsageError → String
  | noCommand => "a command is missing"
  | unknownCommand name => "there is no command " ++ name
  | unknownOption written => "there is no option " ++ written ++ " here"
  | unexpectedWord word => "unexpected argument " ++ word
  | missingValue flag => "a value is missing for --" ++ flag.long
  | unexpectedValue flag => "no value is expected for --" ++ flag.long
  | repeated flag => "--" ++ flag.long ++ " is given more than once"
  | conflict first second => "--" ++ first.long ++ " cannot be used with --" ++ second.long
  | emptyPath => "a path is empty"
  | malformedSetting written => "expected KEY=VALUE, got " ++ written

end UsageError

/-- A part of a command line with its meaning. -/
inductive Item where
  | flag (flag : Flag)
  | value (flag : Flag) (value : String)
  | word (word : String)
  deriving DecidableEq

/-- An argument by its form. -/
inductive Argument where
  /-- The argument after which there are only words. -/
  | separator
  /-- A name after two dashes, perhaps with a value after an equals sign. -/
  | long (name : String) (value : Option String)
  /-- Letters after one dash. -/
  | short (letters : List Char)
  | word
  deriving DecidableEq

/-- What stands before the first `separator` and what stands after it, if there is one. -/
def splitOnce (separator : Char) (s : List Char) : Option (List Char × List Char) :=
  match s.dropWhile (· ≠ separator) with
  | [] => none
  | _ :: rest => some (s.takeWhile (· ≠ separator), rest)

namespace Argument

/-- The form of an argument. A dash alone is a word. -/
def ofString (written : String) : Argument :=
  match written.toList with
  | ['-', '-'] => separator
  | '-' :: '-' :: rest =>
    match splitOnce '=' rest with
    | none => long (String.ofList rest) none
    | some (name, value) => long (String.ofList name) (some (String.ofList value))
  | '-' :: c :: rest => short (c :: rest)
  | _ => word

end Argument

/-- What an argument with options leaves to the next one. -/
structure Reading where
  items : List Item
  /-- The option that the next argument is the value of. -/
  pending : Option Flag

/-- The option that a name stands for. -/
def readLong (flags : List Flag) (name : String) (value : Option String)
    : Except UsageError Reading :=
  match flags.find? (·.long = name) with
  | none => .error (.unknownOption ("--" ++ name))
  | some flag =>
    match flag.hasValue, value with
    | true, some value => .ok { items := [.value flag value], pending := none }
    | true, none => .ok { items := [], pending := some flag }
    | false, some _ => .error (.unexpectedValue flag)
    | false, none => .ok { items := [.flag flag], pending := none }

/--
The options that letters stand for. What follows the letter of an option with a value is the value,
and an equals sign between the two is dropped.
-/
def readShort (flags : List Flag) : List Char → Except UsageError Reading
  | [] => .ok { items := [], pending := none }
  | letter :: rest =>
    match flags.find? (·.short? = some letter) with
    | none => .error (.unknownOption (String.ofList ['-', letter]))
    | some flag =>
      if flag.hasValue then
        match rest with
        | [] => .ok { items := [], pending := some flag }
        | '=' :: value => .ok { items := [.value flag (String.ofList value)], pending := none }
        | value => .ok { items := [.value flag (String.ofList value)], pending := none }
      else if flag = .help ∨ flag = .version then
        .ok { items := [.flag flag], pending := none }
      else
        (readShort flags rest).map fun reading =>
          { reading with items := .flag flag :: reading.items }

/-- Whether nothing after the item matters. -/
def Item.isFinal (item : Item) : Bool :=
  item = .flag .help || item = .flag .version

/--
The items of arguments. The reading ends with a request for help or for the version, which comes
before all errors after it.
-/
def readItems (flags : List Flag) (pending : Option Flag)
    : List String → Except UsageError (List Item)
  | [] =>
    match pending with
    | none => .ok []
    | some flag => .error (.missingValue flag)
  | argument :: rest =>
    let proceed (reading : Except UsageError Reading) : Except UsageError (List Item) :=
      match pending, reading with
      | some flag, _ => .error (.missingValue flag)
      | none, .error e => .error e
      | none, .ok reading =>
        if reading.items.any Item.isFinal then .ok reading.items
        else (readItems flags reading.pending rest).map (reading.items ++ ·)
    match Argument.ofString argument with
    | .word =>
      let item := match pending with
        | none => Item.word argument
        | some flag => .value flag argument
      (readItems flags none rest).map (item :: ·)
    | .separator =>
      match pending with
      | none => .ok (rest.map .word)
      | some flag => .error (.missingValue flag)
    | .long name value => proceed (readLong flags name value)
    | .short letters => proceed (readShort flags letters)

end DirectedMarkdown.Command
