import DirectedMarkdown.Binary64
import DirectedMarkdown.Text.Digit

/-!
This module contains the numbers of TOML. Single underscores may stand between digits; a number has
no needless zeros in front.
-/

namespace DirectedMarkdown.Toml

/-- The digits of a text that consists of digits with single underscores between them. -/
def digits? (isDigit : Char → Bool) : List Char → Option (List Char)
  | [] => none
  | [d] => if isDigit d then some [d] else none
  | d :: '_' :: rest => if isDigit d then (digits? isDigit rest).map (d :: ·) else none
  | d :: rest => if isDigit d then (digits? isDigit rest).map (d :: ·) else none

/-- Decimal digits without needless zeros in front. -/
def wholeDigits? (s : List Char) : Option (List Char) :=
  match digits? Char.isDigit s with
  | some ('0' :: _ :: _) => none
  | digits? => digits?

/-- The sign of a number, and what follows it. -/
def splitSign : List Char → Bool × List Char
  | '-' :: rest => (true, rest)
  | '+' :: rest => (false, rest)
  | s => (false, s)

def isOctalDigit (c : Char) : Bool :=
  '0' ≤ c && c ≤ '7'

def isBinaryDigit (c : Char) : Bool :=
  c = '0' || c = '1'

/--
An integer. Those outside of what 128 bits hold, with or without a sign bit, are not taken.
-/
def integer? (s : List Char) : Option Int := do
  let n : Int ← match s with
    | '0' :: 'x' :: rest =>
      (digits? Text.isHexDigit rest).map fun digits => (Text.ofDigits 16 digits : Int)
    | '0' :: 'o' :: rest =>
      (digits? isOctalDigit rest).map fun digits => (Text.ofDigits 8 digits : Int)
    | '0' :: 'b' :: rest =>
      (digits? isBinaryDigit rest).map fun digits => (Text.ofDigits 2 digits : Int)
    | _ =>
      let (isNegative, s) := splitSign s
      (wholeDigits? s).map fun digits =>
        if isNegative then -(Text.ofDigits 10 digits : Int) else Text.ofDigits 10 digits
  guard (-(Nat.pow 2 127 : Int) ≤ n ∧ n < (Nat.pow 2 128 : Int))
  return n

/-- The exponent after its mark. -/
def exponent? (s : List Char) : Option Int :=
  let (isNegative, s) := splitSign s
  (digits? Char.isDigit s).map fun digits =>
    if isNegative then -(Text.ofDigits 10 digits : Int) else Text.ofDigits 10 digits

/-- A floating point number that is not too large. It has a fraction, an exponent, or both. -/
def float? (s : List Char) : Option Binary64 :=
  let (isNegative, s) := splitSign s
  match s with
  | ['i', 'n', 'f'] => some (.infinite isNegative)
  | ['n', 'a', 'n'] => some .nan
  | _ => do
    let isMark (c : Char) : Bool := c = 'e' || c = 'E'
    let fixed := s.takeWhile (!isMark ·)
    let whole ← wholeDigits? (fixed.takeWhile (· ≠ '.'))
    let fraction ← match fixed.dropWhile (· ≠ '.') with
      | [] => some []
      | _ :: rest => digits? Char.isDigit rest
    let power ← match s.dropWhile (!isMark ·) with
      | [] => if fraction.isEmpty then none else some 0
      | _ :: rest => exponent? rest
    Binary64.ofDecimal? isNegative (Text.ofDigits 10 (whole ++ fraction))
      (power - fraction.length)

end DirectedMarkdown.Toml
