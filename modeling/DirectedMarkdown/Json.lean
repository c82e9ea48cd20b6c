/-!
This module contains JSON values and their two written forms: `compact`, without blank space, and
`pretty`, with one member a line.
-/

namespace DirectedMarkdown

/-- A JSON value. A number is kept as it is written, the members of an object in their order. -/
inductive Json where
  | null
  | bool (value : Bool)
  | number (written : String)
  | text (value : String)
  | array (items : List Json)
  | object (members : List (String × Json))
  deriving Inhabited

namespace Json

/-- Two hexadecimal digits of a value below 256, in lower case. -/
def hexPair (n : Nat) : List Char :=
  [Nat.digitChar (n / 16), Nat.digitChar (n % 16)]

/-- The escape of one character of a JSON string. -/
def quoteChar (c : Char) : List Char :=
  if c = '"' then ['\\', '"']
  else if c = '\\' then ['\\', '\\']
  else if c = '\x08' then ['\\', 'b']
  else if c = '\x0c' then ['\\', 'f']
  else if c = '\n' then ['\\', 'n']
  else if c = '\r' then ['\\', 'r']
  else if c = '\t' then ['\\', 't']
  else if c.toNat < 0x20 then ['\\', 'u', '0', '0'] ++ hexPair c.toNat
  else [c]

/-- A JSON string. -/
def quote (s : String) : List Char :=
  '"' :: s.toList.flatMap quoteChar ++ ['"']

/-- The parts with a separator between neighbours. -/
def separate (separator : List Char) : List (List Char) → List Char
  | [] => []
  | [part] => part
  | part :: rest => part ++ separator ++ separate separator rest

mutual

/-- The characters of the compact form. -/
def compactChars : Json → List Char
  | null => ['n', 'u', 'l', 'l']
  | bool true => ['t', 'r', 'u', 'e']
  | bool false => ['f', 'a', 'l', 's', 'e']
  | number written => written.toList
  | text value => quote value
  | array items => '[' :: separate [','] (compactItems items) ++ [']']
  | object members => '\x7b' :: separate [','] (compactMembers members) ++ ['\x7d']

def compactItems : List Json → List (List Char)
  | [] => []
  | item :: rest => compactChars item :: compactItems rest

def compactMembers : List (String × Json) → List (List Char)
  | [] => []
  | member :: rest => compactMember member :: compactMembers rest

def compactMember : String × Json → List Char
  | (name, value) => quote name ++ ':' :: compactChars value

end

/-- The form without blank space. -/
def compact (j : Json) : String :=
  String.ofList j.compactChars

/-- A line feed and the indentation of the level `depth`, two spaces each. -/
def newline (depth : Nat) : List Char :=
  '\n' :: List.replicate (2 * depth) ' '

/-- The parts on lines of their own between `first` and `last`. -/
def block (first last : Char) (depth : Nat) (parts : List (List Char)) : List Char :=
  if parts.isEmpty then
    [first, last]
  else
    first :: newline (depth + 1) ++ separate (',' :: newline (depth + 1)) parts ++ newline depth
      ++ [last]

mutual

/-- The characters of the form with one member a line, at the level `depth`. -/
def prettyChars (depth : Nat) : Json → List Char
  | array items => block '[' ']' depth (prettyItems (depth + 1) items)
  | object members => block '\x7b' '\x7d' depth (prettyMembers (depth + 1) members)
  | null => compactChars null
  | bool value => compactChars (bool value)
  | number written => compactChars (number written)
  | text value => compactChars (text value)

def prettyItems (depth : Nat) : List Json → List (List Char)
  | [] => []
  | item :: rest => prettyChars depth item :: prettyItems depth rest

def prettyMembers (depth : Nat) : List (String × Json) → List (List Char)
  | [] => []
  | member :: rest => prettyMember depth member :: prettyMembers depth rest

def prettyMember (depth : Nat) : String × Json → List Char
  | (name, value) => quote name ++ ':' :: ' ' :: prettyChars depth value

end

/-- The form with one member a line. -/
def pretty (j : Json) : String :=
  String.ofList (j.prettyChars 0)

end Json

end DirectedMarkdown
