/-
**Doubles as integers.**

* `integer?`: the integer that a double equals, if there is one; both zeros equal zero.
* `wholePart`: a double without its fraction, cut off at zero and at a largest value.
-/

import LinearProgram.Decimal.Value

namespace LinearProgram.Decimal

/-- The integer that a double equals. -/
def integer? (value : Float) : Option Int :=
  match Shape.of value with
  | .zero _ => some 0
  | .finite negative magnitude =>
    let quotient := magnitude.quotient
    if quotient.numerator % quotient.denominator = 0 then
      let whole : Int := quotient.numerator / quotient.denominator
      some (if negative then -whole else whole)
    else none
  | _ => none

/-- The whole part of a positive double, but at most `largest`; zero for every other double. -/
def wholePart (largest : Nat) (value : Float) : Nat :=
  match Shape.of value with
  | .finite false magnitude =>
    min largest (magnitude.quotient.numerator / magnitude.quotient.denominator)
  | .infinite false => largest
  | _ => 0

end LinearProgram.Decimal
