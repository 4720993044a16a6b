/-
**Numbers as the LP format writes them.**

A number is written with at most twelve significant digits, a half going to the even neighbour, and
without zeros at the end of its fraction. From `1e-5` up to below `1e12` the notation is positional;
elsewhere an exponent of at least two digits follows. Everything from `1e30` on is infinite to the
format, so infinity is written as that number.

* `numberText`: the text of a double.
* `Rounded.scientific`, `Rounded.plain`: the two layouts of rounded digits.
-/

import LinearProgram.Decimal.Shortest

namespace LinearProgram.Lp

open Decimal

/-- The number of significant digits of a written number. -/
def writtenDigits : Nat := 12

/-- Magnitudes from this one on are infinite. -/
def infiniteFrom : Float := 1e30

/-- A whole part and a fraction, without the zeros at the fraction's end and without the point if
nothing is left behind it. -/
def withFraction (whole fraction : List Char) : List Char :=
  match dropTrailingZeros fraction with
  | [] => whole
  | kept => whole ++ '.' :: kept

/-- A digit before the point, and an exponent of at least two digits. -/
def scientific (number : Rounded) : List Char :=
  let significant := digits number.digits
  let size := digits number.exponent.natAbs
  withFraction (significant.take 1) (significant.drop 1)
    ++ 'e' :: (if number.exponent < 0 then '-' else '+')
      :: (List.replicate (2 - size.length) '0' ++ size)

/-- Positional notation: the point stands behind the digit of weight one. -/
def plain (number : Rounded) : List Char :=
  let significant := digits number.digits
  if number.exponent < 0 then
    withFraction ['0'] (List.replicate (-number.exponent - 1).toNat '0' ++ significant)
  else
    let whole := number.exponent.toNat + 1
    withFraction (significant.take whole) (significant.drop whole)

/-- Rounded digits in the layout that their exponent calls for. -/
def layout (number : Rounded) : List Char :=
  if -5 ≤ number.exponent ∧ number.exponent < writtenDigits then plain number
  else scientific number

/-- **The text of a number in the LP format.** -/
def numberText (value : Float) : String :=
  match Shape.of value with
  | .notANumber => "NaN"
  | .infinite negative => if negative then "-1e+30" else "1e+30"
  | .zero _ => "0"
  | .finite negative magnitude =>
    let text := layout (magnitude.quotient.rounded writtenDigits)
    String.ofList (if negative then '-' :: text else text)

end LinearProgram.Lp
