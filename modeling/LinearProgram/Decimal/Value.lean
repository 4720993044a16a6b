/-
**The exact value of a double as a quotient of natural numbers.**

A finite double other than zero is `± mantissa · 2 ^ exponent`. All text of numbers is computed from
that value in exact arithmetic, so no rounding happens except the one that the text calls for.

* `infinity`: the infinite double.
* `Shape`: what a double is: not a number, infinite, zero, or a sign with an exact magnitude.
* `Magnitude.quotient`: the magnitude as a quotient with a positive denominator.
* `scale`, `exponentOf`: powers of ten around a quotient; `10 ^ exponentOf ≤ quotient < 10 ^
  (exponentOf + 1)`.
* `roundHalfEven`, `roundHalfUp`: a quotient rounded to the nearest integer, a half going to the even
  neighbour or up.
-/

namespace LinearProgram

/-- The infinite double. -/
def infinity : Float := 1 / 0

namespace Decimal

/-- A positive number `mantissa · 2 ^ exponent`. -/
structure Magnitude where
  mantissa : Nat
  exponent : Int
  deriving DecidableEq, Repr

/-- What a double is, with its magnitude taken exactly. -/
inductive Shape where
  | notANumber
  | infinite (negative : Bool)
  | zero (negative : Bool)
  | finite (negative : Bool) (magnitude : Magnitude)
  deriving DecidableEq, Repr

/-- Whether a sign is the minus sign. -/
def isNegative : Float.Model.UnpackedFloat.Sign → Bool
  | .negative => true
  | .positive => false

/-- The shape of a double, read off its bits. -/
def Shape.of (value : Float) : Shape :=
  match value.toModel.unpack with
  | .notANumber => .notANumber
  | .infinity sign => .infinite (isNegative sign)
  | .zero sign => .zero (isNegative sign)
  | .finite sign mantissa exponent _ => .finite (isNegative sign) ⟨mantissa, exponent⟩

/-- A number with a sign. -/
def withSign (negative : Bool) (value : Float) : Float :=
  if negative then -value else value

/-- A quotient of natural numbers; the denominator is meant to be positive. -/
structure Quotient where
  numerator : Nat
  denominator : Nat
  deriving DecidableEq, Repr

/-- The magnitude as a quotient. -/
def Magnitude.quotient (magnitude : Magnitude) : Quotient :=
  if 0 ≤ magnitude.exponent then
    ⟨magnitude.mantissa * Nat.pow 2 magnitude.exponent.toNat, 1⟩
  else
    ⟨magnitude.mantissa, Nat.pow 2 (-magnitude.exponent).toNat⟩

/-- `quotient · 10 ^ power`. -/
def Quotient.scale (quotient : Quotient) (power : Int) : Quotient :=
  if 0 ≤ power then
    ⟨quotient.numerator * Nat.pow 10 power.toNat, quotient.denominator⟩
  else
    ⟨quotient.numerator, quotient.denominator * Nat.pow 10 (-power).toNat⟩

/-- The decimal digits of a number, the first one first. -/
def digits (number : Nat) : List Char :=
  Nat.toDigits 10 number

/-- **The decimal exponent of a positive quotient**: the power of ten that it reaches and the next
one it does not. Comparing the digit counts of the two sides leaves two candidates. -/
def Quotient.exponentOf (quotient : Quotient) : Int :=
  let guess : Int := (digits quotient.numerator).length - (digits quotient.denominator).length
  let shifted := quotient.scale (-guess)
  if shifted.denominator ≤ shifted.numerator then guess else guess - 1

/-- The nearest integer to a quotient; a half goes to the even neighbour. -/
def Quotient.roundHalfEven (quotient : Quotient) : Nat :=
  let whole := quotient.numerator / quotient.denominator
  let twice := 2 * (quotient.numerator % quotient.denominator)
  if quotient.denominator < twice || (twice == quotient.denominator && whole % 2 == 1) then
    whole + 1
  else
    whole

/-- The nearest integer to a quotient; a half goes up. -/
def Quotient.roundHalfUp (quotient : Quotient) : Nat :=
  (2 * quotient.numerator + quotient.denominator) / (2 * quotient.denominator)

end Decimal

end LinearProgram
