import DirectedMarkdown.Text.Digit

/-!
This module contains the strings of TOML, which stand in quotes. Basic strings have escapes, literal
ones do not. Strings in three quotes go over several lines.
-/

namespace DirectedMarkdown.Toml.Quoted

/-- Whether a string, or a comment, has the character as it is. -/
def isPlain (c : Char) : Bool :=
  c = '\t' || (0x20 ≤ c.toNat && c.toNat ≠ 0x7F)

/-- The character with the code point that exactly `n` hexadecimal digits give. -/
def codePoint? (n : Nat) (s : List Char) : Option Char :=
  let digits := s.take n
  let value := Text.ofDigits 16 digits
  if digits.length = n ∧ digits.all Text.isHexDigit ∧ value.isValidChar then
    some (Char.ofNat value)
  else
    none

/-- The character of an escape after its backslash, and the number of characters it takes there. -/
def escape? : List Char → Option (Char × Nat)
  | [] => none
  | c :: rest =>
    match c with
    | '"' => some ('"', 1)
    | '\\' => some ('\\', 1)
    | 'b' => some ('\x08', 1)
    | 'e' => some ('\x1b', 1)
    | 'f' => some ('\x0c', 1)
    | 'n' => some ('\n', 1)
    | 'r' => some ('\r', 1)
    | 't' => some ('\t', 1)
    | 'x' => (codePoint? 2 rest).map fun c => (c, 3)
    | 'u' => (codePoint? 4 rest).map fun c => (c, 5)
    | 'U' => (codePoint? 8 rest).map fun c => (c, 9)
    | _ => none

/--
The content of a string up to its closing `quote`, and what follows it. `skip` characters of an
escape are still to be dropped, `content` is read backwards.
-/
def line? (quote : Char) (skip : Nat) (content : List Char)
    : List Char → Option (String × List Char)
  | [] => none
  | c :: rest =>
    match skip with
    | skip + 1 => line? quote skip content rest
    | 0 =>
      if c = quote then
        some (String.ofList content.reverse, rest)
      else if c = '\\' ∧ quote = '"' then
        match escape? rest with
        | none => none
        | some (e, n) => line? quote n (e :: content) rest
      else if isPlain c then
        line? quote 0 (c :: content) rest
      else
        none

/-- The number of blank characters and line ends in front. -/
def blankLength : List Char → Nat
  | ' ' :: rest | '\t' :: rest | '\n' :: rest => blankLength rest + 1
  | '\r' :: '\n' :: rest => blankLength rest + 2
  | _ => 0

/--
The number of characters that a backslash at the end of its line drops: the rest of the line, and
all blank space and empty lines after it.
-/
def lineEndLength? (s : List Char) : Option Nat :=
  match s.dropWhile fun c => c = ' ' || c = '\t' with
  | '\n' :: _ | '\r' :: '\n' :: _ => some (blankLength s)
  | _ => none

/--
The content of a string of several lines up to three closing `quote`s, and what follows it. One or
two quotes just before the closing ones are content.
-/
def lines? (quote : Char) (skip : Nat) (content : List Char)
    : List Char → Option (String × List Char)
  | [] => none
  | c :: rest =>
    match skip with
    | skip + 1 => lines? quote skip content rest
    | 0 =>
      if c = quote then
        let run := (c :: rest).takeWhile (· = quote)
        if 3 ≤ run.length then
          let inner := min (run.length - 3) 2
          some (String.ofList (content.reverse ++ run.take inner), (c :: rest).drop (inner + 3))
        else
          lines? quote 0 (c :: content) rest
      else if c = '\\' ∧ quote = '"' then
        match lineEndLength? rest, escape? rest with
        | some n, _ => lines? quote n content rest
        | none, some (e, n) => lines? quote n (e :: content) rest
        | none, none => none
      else if isPlain c || c = '\n' || (c = '\r' && rest.head? = some '\n') then
        lines? quote 0 (c :: content) rest
      else
        none

/-- Drops a line end in front. -/
def dropLineEnd : List Char → List Char
  | '\n' :: rest | '\r' :: '\n' :: rest => rest
  | s => s

/-- A string on one line, as in a name. -/
def readLine? : List Char → Option (String × List Char)
  | '"' :: rest => line? '"' 0 [] rest
  | '\'' :: rest => line? '\'' 0 [] rest
  | _ => none

/-- A string of any kind. -/
def read? : List Char → Option (String × List Char)
  | '"' :: '"' :: '"' :: rest => lines? '"' 0 [] (dropLineEnd rest)
  | '\'' :: '\'' :: '\'' :: rest => lines? '\'' 0 [] (dropLineEnd rest)
  | s => readLine? s

end DirectedMarkdown.Toml.Quoted
