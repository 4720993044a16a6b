/-
**What can be wrong with a text in the LP format.**

Reading stops at the first fault. A fault is told with the line where it was found: that of the
offending character or token, or that of the statement's first token.

* `Fault`: the causes.
* `Fault.message`: their wording.
* `Failure`: a fault with its line.
-/

import LinearProgram.Lp.Name
import LinearProgram.Lp.Token.Basic

namespace LinearProgram.Lp

/-- Why a text is not a problem. -/
inductive Fault where
  | invalidEncoding
  | invalidNumber (text : String)
  | unexpectedCharacter (character : Char)
  | unterminatedComment
  | missingSemicolon
  | missingSign
  | missingOperand
  | unexpectedToken (token : Token)
  | secondObjective
  | emptySection (declared : Section)
  | notAColumn (declared : Section)
  | missingRelation
  | missingRightSide
  | missingExpression
  | rangeNotConstant
  | notBetweenConstants
  | mixedRelations
  | tooManyRelations
  | zeroCoefficient (column : String)
  | noVariables
  | duplicateRow (row : String)
  | unknownRow (row : String)
  | emptyRange (row : String)
  deriving Repr

/-- The wording of a fault. -/
def Fault.message : Fault → String
  | invalidEncoding => "invalid UTF-8"
  | invalidNumber text => "invalid number '" ++ text ++ "'"
  | unexpectedCharacter character => "unexpected character '" ++ character.toString ++ "'"
  | unterminatedComment => "unterminated comment"
  | missingSemicolon => "missing ';'"
  | missingSign => "expected '+' or '-' between terms"
  | missingOperand => "expected a number or a variable"
  | unexpectedToken token => "unexpected " ++ token.label
  | secondObjective => "objective defined twice"
  | emptySection declared => "empty '" ++ declared.word ++ "' section"
  | notAColumn declared => "expected a variable name in '" ++ declared.word ++ "' section"
  | missingRelation => "expected a relational operator"
  | missingRightSide => "missing right-hand side"
  | missingExpression => "missing expression"
  | rangeNotConstant => "a range must be a constant"
  | notBetweenConstants => "expected 'constant op expression op constant'"
  | mixedRelations => "operators of a double inequality must agree"
  | tooManyRelations => "too many relational operators"
  | zeroCoefficient column => "zero coefficient in bound on " ++ column
  | noVariables => "constraint without variables"
  | duplicateRow row => "duplicate row name " ++ row
  | unknownRow row => "unknown row " ++ row
  | emptyRange row => "empty range on row " ++ row

/-- A fault and the line where it was found. -/
structure Failure where
  line : Nat
  fault : Fault
  deriving Repr

end LinearProgram.Lp
