/-
**Arguments that do not fit.**

A sequence may be too long for the dimension it is meant for, sequences that belong together may
differ in length, and an index may name nothing or occur twice.

* `ShapeFault`: the causes.
* `ShapeFault.message`: their wording.
-/

import LinearProgram.Decimal.Shortest

namespace LinearProgram

/-- Why arguments do not fit. -/
inductive ShapeFault where
  | tooLong (length dimension : Nat)
  | unequalLengths (values indices : Nat)
  | countTooLarge (count length : Nat)
  | indexOutOfRange (index dimension : Nat)
  | duplicateIndex (index : Nat)
  | tooManyNumbers (count dimension : Nat)
  | invalidNumber (text : String)
  | rowOutOfRange (index count : Nat)
  | columnOutOfRange (index count : Nat)
  | negativeIndex (value : Float)
  deriving Repr

namespace ShapeFault

/-- The range of indices up to a bound. -/
def rangeText (bound : Nat) : String :=
  "[1," ++ toString bound ++ "]"

/-- The wording of a fault. -/
def message : ShapeFault → String
  | tooLong length dimension =>
    "dense sequence of length " ++ toString length ++ " exceeds dimension " ++ toString dimension
  | unequalLengths values indices =>
    "values and indices differ in length (" ++ toString values ++ " vs " ++ toString indices ++ ")"
  | countTooLarge count length =>
    "count " ++ toString count ++ " exceeds sequence length " ++ toString length
  | indexOutOfRange index dimension =>
    "index " ++ toString index ++ " out of range " ++ rangeText dimension
  | duplicateIndex index => "duplicate index " ++ toString index
  | tooManyNumbers count dimension =>
    "row expression has " ++ toString count ++ " entries, dimension is " ++ toString dimension
  | invalidNumber text => "invalid number '" ++ text ++ "' in row expression"
  | rowOutOfRange index count =>
    "row index " ++ toString index ++ " out of range " ++ rangeText count
  | columnOutOfRange index count =>
    "column index " ++ toString index ++ " out of range " ++ rangeText count
  | negativeIndex value => "index " ++ Decimal.text value ++ " out of range"

end ShapeFault

end LinearProgram
