import DirectedMarkdown.Json
import DirectedMarkdown.Text.Digit

/-!
This module contains the reader of JSON texts. It takes exactly the grammar of JSON: no comments,
no trailing commas, no control characters in strings, and no half of a surrogate pair on its own.
-/

namespace DirectedMarkdown.Json

/-- The blank space of JSON. -/
def isSpace (c : Char) : Bool :=
  c = ' ' || c = '\t' || c = '\n' || c = '\r'

def skipSpace (s : List Char) : List Char :=
  s.dropWhile isSpace

/-- The value of four hexadecimal digits, and what follows them. -/
def readHex4 : List Char → Option (Nat × List Char)
  | a :: b :: c :: d :: rest => do
    let a ← Text.hexValue a
    let b ← Text.hexValue b
    let c ← Text.hexValue c
    let d ← Text.hexValue d
    return (((a * 16 + b) * 16 + c) * 16 + d, rest)
  | _ => none

/-- The character of an escape `\u`, after the `u`. Two halves of a surrogate pair are one. -/
def readUnicode (s : List Char) : Option (Char × List Char) := do
  let (high, rest) ← readHex4 s
  if 0xD800 ≤ high ∧ high < 0xDC00 then
    match rest with
    | '\\' :: 'u' :: rest =>
      let (low, rest) ← readHex4 rest
      if 0xDC00 ≤ low ∧ low < 0xE000 then
        return (Char.ofNat (0x10000 + (high - 0xD800) * 0x400 + (low - 0xDC00)), rest)
      else
        none
    | _ => none
  else if 0xDC00 ≤ high ∧ high < 0xE000 then
    none
  else
    return (Char.ofNat high, rest)

/-- The character of a simple escape. -/
def readEscape (c : Char) : Option Char :=
  match c with
  | '"' => some '"'
  | '\\' => some '\\'
  | '/' => some '/'
  | 'b' => some '\x08'
  | 'f' => some '\x0c'
  | 'n' => some '\n'
  | 'r' => some '\r'
  | 't' => some '\t'
  | _ => none

/-- The rest of a string after its opening quote; `acc` is read backwards. -/
def readString (fuel : Nat) (acc : List Char) (s : List Char) : Option (String × List Char) :=
  match fuel with
  | 0 => none
  | fuel + 1 =>
    match s with
    | [] => none
    | '"' :: rest => some (String.ofList acc.reverse, rest)
    | '\\' :: 'u' :: rest =>
      match readUnicode rest with
      | none => none
      | some (c, rest) => readString fuel (c :: acc) rest
    | '\\' :: e :: rest =>
      match readEscape e with
      | none => none
      | some c => readString fuel (c :: acc) rest
    | c :: rest => if c.toNat < 0x20 || c = '\\' then none else readString fuel (c :: acc) rest

/-- At least one digit. -/
def readDigits (s : List Char) : Option (List Char × List Char) :=
  let digits := s.takeWhile Char.isDigit
  if digits.isEmpty then none else some (digits, s.dropWhile Char.isDigit)

/-- A number as it is written. -/
def readNumber (s : List Char) : Option (List Char × List Char) := do
  let (sign, s) := match s with
    | '-' :: rest => (['-'], rest)
    | _ => ([], s)
  let (whole, s) ← match s with
    | '0' :: rest => some (['0'], rest)
    | _ => readDigits s
  let (fraction, s) ← match s with
    | '.' :: rest => (readDigits rest).map fun (digits, rest) => ('.' :: digits, rest)
    | _ => some ([], s)
  let exponent (mark : Char) (rest : List Char) :=
    match rest with
    | '+' :: rest => (readDigits rest).map fun (digits, rest) => (mark :: '+' :: digits, rest)
    | '-' :: rest => (readDigits rest).map fun (digits, rest) => (mark :: '-' :: digits, rest)
    | _ => (readDigits rest).map fun (digits, rest) => (mark :: digits, rest)
  let (power, s) ← match s with
    | 'e' :: rest => exponent 'e' rest
    | 'E' :: rest => exponent 'E' rest
    | _ => some ([], s)
  return (sign ++ whole ++ fraction ++ power, s)

mutual

/-- A value, and what follows it. `fuel` bounds the number of values and members. -/
def readValue (fuel : Nat) (s : List Char) : Option (Json × List Char) :=
  match fuel with
  | 0 => none
  | fuel + 1 =>
    match skipSpace s with
    | '"' :: rest => (readString (rest.length + 1) [] rest).map fun (t, rest) => (.text t, rest)
    | '\x7b' :: rest =>
      match skipSpace rest with
      | '\x7d' :: rest => some (.object [], rest)
      | _ => readMembers fuel [] rest
    | '[' :: rest =>
      match skipSpace rest with
      | ']' :: rest => some (.array [], rest)
      | _ => readItems fuel [] rest
    | 'n' :: 'u' :: 'l' :: 'l' :: rest => some (.null, rest)
    | 't' :: 'r' :: 'u' :: 'e' :: rest => some (.bool true, rest)
    | 'f' :: 'a' :: 'l' :: 's' :: 'e' :: rest => some (.bool false, rest)
    | s => (readNumber s).map fun (written, rest) => (.number (String.ofList written), rest)

/-- The members of an object up to its end; `acc` is read backwards. -/
def readMembers (fuel : Nat) (acc : List (String × Json)) (s : List Char)
    : Option (Json × List Char) :=
  match fuel with
  | 0 => none
  | fuel + 1 =>
    match skipSpace s with
    | '"' :: rest =>
      match readString (rest.length + 1) [] rest with
      | none => none
      | some (name, rest) =>
        match skipSpace rest with
        | ':' :: rest =>
          match readValue fuel rest with
          | none => none
          | some (value, rest) =>
            match skipSpace rest with
            | ',' :: rest => readMembers fuel ((name, value) :: acc) rest
            | '\x7d' :: rest => some (.object ((name, value) :: acc).reverse, rest)
            | _ => none
        | _ => none
    | _ => none

/-- The items of an array up to its end; `acc` is read backwards. -/
def readItems (fuel : Nat) (acc : List Json) (s : List Char) : Option (Json × List Char) :=
  match fuel with
  | 0 => none
  | fuel + 1 =>
    match readValue fuel s with
    | none => none
    | some (value, rest) =>
      match skipSpace rest with
      | ',' :: rest => readItems fuel (value :: acc) rest
      | ']' :: rest => some (.array (value :: acc).reverse, rest)
      | _ => none

end

/-- The value that a whole text holds. -/
def parse (s : String) : Option Json :=
  match readValue (2 * s.length + 2) s.toList with
  | some (value, rest) => if (skipSpace rest).isEmpty then some value else none
  | none => none

end DirectedMarkdown.Json
