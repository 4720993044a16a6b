/-
**Decimal text read as the nearest double.**

A decimal has digits with at most one point among them, and may end in an exponent. It stands for
one exact number, and the double nearest to that number is its value.

* `decimal?`: an unsigned decimal such as `12.5e-3`, `7.` or `.5`.
* `signed?`: a decimal after at most one sign, or one of the words `inf`, `infinity` and `nan` in
  any letter case.
-/

import LinearProgram.Decimal.Value

namespace LinearProgram.Decimal

/-- The number that a row of decimal digits writes. -/
def natOfDigits (digits : List Char) : Nat :=
  digits.foldl (fun number digit => 10 * number + (digit.toNat - '0'.toNat)) 0

/-- The digits at the front of a text, and the rest of the text. -/
def spanDigits (text : List Char) : List Char × List Char :=
  (text.takeWhile Char.isDigit, text.dropWhile Char.isDigit)

/-- The exponent at the end of a decimal: empty, or `e` with an optional sign and digits. -/
def exponent? : List Char → Option Int
  | [] => some 0
  | mark :: rest =>
    if mark == 'e' || mark == 'E' then
      let (negative, body) : Bool × List Char :=
        match rest with
        | '-' :: body => (true, body)
        | '+' :: body => (false, body)
        | body => (false, body)
      if body.isEmpty || !body.all Char.isDigit then none
      else some (if negative then -(natOfDigits body : Int) else natOfDigits body)
    else none

/-- The double nearest to `mantissa · 10 ^ exponent`. -/
def ofScientific (mantissa : Nat) (exponent : Int) : Float :=
  Float.ofScientific mantissa (exponent < 0) exponent.natAbs

/-- **An unsigned decimal**: digits on at least one side of an optional point, then an optional
exponent. -/
def decimal? (text : List Char) : Option Float :=
  let (whole, rest) := spanDigits text
  let (fraction, rest) : List Char × List Char :=
    match rest with
    | '.' :: rest => spanDigits rest
    | rest => ([], rest)
  if whole.isEmpty && fraction.isEmpty then none
  else
    (exponent? rest).map fun exponent =>
      ofScientific (natOfDigits (whole ++ fraction)) (exponent - fraction.length)

/-- An unsigned decimal, or a word for infinity or for no number. -/
def magnitude? (text : List Char) : Option Float :=
  match String.ofList (text.map Char.toLower) with
  | "inf" | "infinity" => some infinity
  | "nan" => some (0 / 0)
  | _ => decimal? text

/-- A number after at most one sign. -/
def signed? : List Char → Option Float
  | '-' :: rest => (magnitude? rest).map (- ·)
  | '+' :: rest => magnitude? rest
  | text => magnitude? text

end LinearProgram.Decimal
