/-
**The fewest decimal digits that determine a double.**

The doubles next to `mantissa · 2 ^ exponent` leave an interval of numbers that round to it; the
ends belong to the interval when the mantissa is even. Among the decimal grids of one, two, …
digits the first one with a point in the interval fixes the number of digits, and of two points the
one nearer to the double is taken, the upper one if both are as near.

* `Magnitude.interval`: the numbers that round to a magnitude.
* `Magnitude.shortest`: the digits and the decimal exponent of the chosen point.
* `text`: a double in positional notation with these digits, never with an exponent.
-/

import LinearProgram.Decimal.Rounded

namespace LinearProgram.Decimal

/-- The numbers between two quotients over one denominator, with or without the ends. -/
structure Interval where
  lower : Nat
  upper : Nat
  denominator : Nat
  closed : Bool
  deriving Repr

/-- **The numbers that round to a magnitude.** The gap below a power of two is half as wide as the
gap above it, unless the exponent is already the least one. Everything is over four times the
quotient's denominator. -/
def Magnitude.interval (magnitude : Magnitude) : Interval :=
  let ⟨numerator, denominator⟩ := magnitude.quotient
  let unit := numerator / magnitude.mantissa
  let below :=
    if magnitude.mantissa = Nat.pow 2 52 ∧ -1074 < magnitude.exponent then unit else 2 * unit
  ⟨4 * numerator - below, 4 * numerator + 2 * unit, 4 * denominator, magnitude.mantissa % 2 == 0⟩

/-- Whether the quotient lies in the interval. -/
def Interval.contains (interval : Interval) (quotient : Quotient) : Bool :=
  let place := quotient.numerator * interval.denominator
  let low := interval.lower * quotient.denominator
  let high := interval.upper * quotient.denominator
  if interval.closed then low ≤ place && place ≤ high else low < place && place < high

/-- The point of the grid of `places` digits nearest to the magnitude, if the interval has one. Of two
that are as near the upper one is taken. -/
def Magnitude.gridPoint? (magnitude : Magnitude) (places : Nat) : Option Rounded :=
  let quotient := magnitude.quotient
  let exponent := quotient.exponentOf
  let power : Int := places - 1 - exponent
  let scaled := quotient.scale power
  let floor := scaled.numerator / scaled.denominator
  let hit (point : Nat) : Bool := magnitude.interval.contains (Quotient.scale ⟨point, 1⟩ (-power))
  let point? : Option Nat :=
    match hit floor, hit (floor + 1) with
    | true, true => some scaled.roundHalfUp
    | true, false => some floor
    | false, true => some (floor + 1)
    | false, false => none
  point?.map fun point =>
    if point = Nat.pow 10 places then ⟨Nat.pow 10 (places - 1), exponent + 1⟩ else ⟨point, exponent⟩

/-- The shortest decimal that rounds to the magnitude. Seventeen digits always suffice. -/
def Magnitude.shortest (magnitude : Magnitude) : Rounded :=
  ((List.range 17).findSome? fun fewer => magnitude.gridPoint? (fewer + 1)).getD
    (magnitude.quotient.rounded 17)

/-- Digits without the zeros at their end. -/
def dropTrailingZeros (text : List Char) : List Char :=
  (text.reverse.dropWhile (· == '0')).reverse

/-- Positional notation: the point stands after the digit of weight one, and zeros fill the gap
between the digits and the point. -/
def Rounded.positional (number : Rounded) : List Char :=
  let significant := dropTrailingZeros (Decimal.digits number.digits)
  if number.exponent < 0 then
    '0' :: '.' :: (List.replicate (-number.exponent - 1).toNat '0' ++ significant)
  else
    let whole := number.exponent.toNat + 1
    if significant.length ≤ whole then
      significant ++ List.replicate (whole - significant.length) '0'
    else
      significant.take whole ++ '.' :: significant.drop whole

/-- A double with the fewest digits that determine it, in positional notation. -/
def text (value : Float) : String :=
  let signed (negative : Bool) (body : String) : String := if negative then "-" ++ body else body
  match Shape.of value with
  | .notANumber => "NaN"
  | .infinite negative => signed negative "inf"
  | .zero negative => signed negative "0"
  | .finite negative magnitude => signed negative (String.ofList magnitude.shortest.positional)

end LinearProgram.Decimal
