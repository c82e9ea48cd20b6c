import DirectedMarkdown.Binary64

/-!
This module contains the decimal form of floating point numbers: the fewest digits that read back as
the number, written without an exponent.
-/

namespace DirectedMarkdown.Binary64

/--
The multiple of `10 ^ power` that is nearest to the positive number `mantissa * 2 ^ exponent`, given
as its factor, if it reads back as the number. The reals that do so reach half way to both
neighbours; the ends count if the mantissa is even.
-/
def multiple? (mantissa : Nat) (exponent power : Int) : Option Nat :=
  let unit := Nat.pow 10 power.toNat * Nat.pow 2 (2 - exponent).toNat
  let quarter := Nat.pow 2 (exponent - 2).toNat * Nat.pow 10 (-power).toNat
  let value := 4 * mantissa * quarter
  let isFirst := mantissa = Nat.pow 2 52 ∧ -1074 < exponent
  let low := (4 * mantissa - if isFirst then 1 else 2) * quarter
  let high := (4 * mantissa + 2) * quarter
  let isInside (factor : Nat) : Bool :=
    if mantissa % 2 = 0 then low ≤ factor * unit ∧ factor * unit ≤ high
    else low < factor * unit ∧ factor * unit < high
  let below := value / unit
  let nearest := if 2 * (value % unit) < unit then [below, below + 1] else [below + 1, below]
  nearest.find? fun factor => 0 < factor && isInside factor

/--
The shortest decimal that reads back as the positive number `mantissa * 2 ^ exponent`: its digits
and its power of ten. It is the one on the coarsest decimal grid that has one.
-/
def shortest (mantissa : Nat) (exponent : Int) : Nat × Int :=
  ((List.range 633).findSome? fun (i : Nat) =>
    let power : Int := 308 - (i : Int)
    (multiple? mantissa exponent power).map fun factor => (factor, power)).getD (0, 0)

/-- The decimal `digits * 10 ^ power`, written without an exponent. -/
def positional (digits : Nat) (power : Int) : List Char :=
  let written := Nat.toDigits 10 digits
  let places := (-power).toNat
  if places = 0 then
    written ++ List.replicate power.toNat '0'
  else if places < written.length then
    written.take (written.length - places) ++ '.' :: written.drop (written.length - places)
  else
    ['0', '.'] ++ List.replicate (places - written.length) '0' ++ written

/-- The text of a number. -/
def toText : Binary64 → String
  | finite negative mantissa exponent =>
    let (digits, power) := if mantissa = 0 then (0, 0) else shortest mantissa exponent
    String.ofList ((if negative then ['-'] else []) ++ positional digits power)
  | infinite negative => if negative then "-inf" else "inf"
  | nan => "NaN"

end DirectedMarkdown.Binary64
