import DirectedMarkdown.Html.Entity
import DirectedMarkdown.Text.Digit

/-!
This module contains character references: `&name;`, `&#1234;` and `&#xABCD;`.
-/

namespace DirectedMarkdown.Html

/-- The character with a code point. One takes the place of zero and of what is no code point. -/
def codePoint (n : Nat) : Char :=
  if n ≠ 0 && n.isValidChar then Char.ofNat n else '\ufffd'

/--
The text of a numeric reference with at most `limit` digits, and its length from `skipped` on.
-/
def numericReference? (base limit : Nat) (isDigit : Char → Bool) (skipped : Nat) (s : List Char)
    : Option (String × Nat) :=
  let digits := (s.take limit).takeWhile isDigit
  if digits.isEmpty || (s.drop digits.length).head? != some ';' then none
  else some (String.singleton (codePoint (Text.ofDigits base digits)), skipped + digits.length + 1)

/-- The text that the reference at the start of `s` stands for, and the length of the reference. -/
def reference? (s : List Char) : Option (String × Nat) :=
  match s with
  | '&' :: '#' :: 'x' :: rest | '&' :: '#' :: 'X' :: rest =>
    numericReference? 16 6 Text.isHexDigit 3 rest
  | '&' :: '#' :: rest => numericReference? 10 7 Char.isDigit 2 rest
  | '&' :: rest =>
    let name := rest.takeWhile Char.isAlphanum
    if (rest.drop name.length).head? == some ';' then
      (entity? (String.ofList name)).map (·, name.length + 2)
    else
      none
  | _ => none

/-- A bound on the lengths of the references. -/
def referenceLimit : Nat :=
  64

end DirectedMarkdown.Html
