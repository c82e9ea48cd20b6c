/-!
This module contains binary floating point numbers with 53 bits of precision, and the rounding of
decimals to them, in exact arithmetic.
-/

namespace DirectedMarkdown

/-- A binary floating point number. A finite one is `mantissa * 2 ^ exponent`, with its sign. -/
inductive Binary64 where
  | finite (negative : Bool) (mantissa : Nat) (exponent : Int)
  | infinite (negative : Bool)
  | nan
  deriving DecidableEq, Inhabited

namespace Binary64

/-- The quotient to the nearest integer, a half to the even one. -/
def roundDiv (num den : Nat) : Nat :=
  let quotient := num / den
  let twice := 2 * (num % den)
  if twice < den then quotient
  else if den < twice then quotient + 1
  else if quotient % 2 = 0 then quotient
  else quotient + 1

/-- The fraction for `num / den` divided by `2 ^ exponent`. -/
def scale (num den : Nat) (exponent : Int) : Nat × Nat :=
  (num * Nat.pow 2 (-exponent).toNat, den * Nat.pow 2 exponent.toNat)

/--
The exponent for the positive fraction `num / den`: divided by `2 ^ exponent` it has 53 bits before
the point, or fewer if it is too small for that.
-/
def exponentFor (num den : Nat) : Int :=
  let exponent : Int := (num.log2 : Int) - (den.log2 : Int) - 52
  let (n, d) := scale num den exponent
  max (if n < Nat.pow 2 52 * d then exponent - 1 else exponent) (-1074)

/-- The number nearest to the fraction `num / den`, if it is not too large for all of them. -/
def ofFraction? (negative : Bool) (num den : Nat) : Option Binary64 :=
  if num = 0 then
    some (.finite negative 0 (-1074))
  else
    let exponent := exponentFor num den
    let (n, d) := scale num den exponent
    let mantissa := roundDiv n d
    let (mantissa, exponent) :=
      if mantissa = Nat.pow 2 53 then (Nat.pow 2 52, exponent + 1) else (mantissa, exponent)
    if exponent ≤ 971 then some (.finite negative mantissa exponent) else none

/--
The number nearest to `digits * 10 ^ power`. Far beyond both ends of the range the power of ten is
not worked out.
-/
def ofDecimal? (negative : Bool) (digits : Nat) (power : Int) : Option Binary64 :=
  let size : Int := (Nat.toDigits 10 digits).length + power
  if digits = 0 || size < -330 then
    some (.finite negative 0 (-1074))
  else if 310 < size then
    none
  else
    ofFraction? negative (digits * Nat.pow 10 power.toNat) (Nat.pow 10 (-power).toNat)

end Binary64

end DirectedMarkdown
