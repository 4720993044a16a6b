/-
**A positive quotient rounded to a fixed number of significant digits.**

* `Rounded`: digits with the decimal exponent of the first one.
* `Quotient.rounded`: the quotient to `places` significant digits, half to even. A carry out of the
  first digit, as in `99.96` to three digits, raises the exponent.
-/

import LinearProgram.Decimal.Value

namespace LinearProgram.Decimal

/-- The number `0.d₁d₂d₃… · 10 ^ (exponent + 1)` whose digits `d₁d₂d₃…` are those of `digits`. -/
structure Rounded where
  digits : Nat
  exponent : Int
  deriving DecidableEq, Repr

/-- The quotient to `places` significant digits, half to even. -/
def Quotient.rounded (places : Nat) (quotient : Quotient) : Rounded :=
  let exponent := quotient.exponentOf
  let nearest := (quotient.scale (places - 1 - exponent)).roundHalfEven
  if nearest = Nat.pow 10 places then ⟨Nat.pow 10 (places - 1), exponent + 1⟩ else ⟨nearest, exponent⟩

end LinearProgram.Decimal
