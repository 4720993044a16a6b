/-
**The tokens of the LP format.**

A text is read as a row of tokens, each with the line that it starts on. Comments and blanks
separate tokens and are not tokens themselves.

* `Token.label`: the name of a token in a message about a token out of place.
* `Located`: a token with its line.
-/

import LinearProgram.Relation

namespace LinearProgram.Lp

/-- A token. -/
inductive Token where
  | number (value : Float)
  | name (text : String)
  | relation (relation : Relation)
  | plus
  | minus
  | colon
  | comma
  | semicolon
  deriving Repr, Inhabited

/-- What a message calls the token. -/
def Token.label : Token → String
  | number _ => "Num"
  | name _ => "Ident"
  | relation .atMost => "Rel(Le)"
  | relation .atLeast => "Rel(Ge)"
  | relation .equal => "Rel(Eq)"
  | plus => "Plus"
  | minus => "Minus"
  | colon => "Colon"
  | comma => "Comma"
  | semicolon => "Semi"

/-- A token and the line that it starts on, counted from one. -/
structure Located where
  token : Token
  line : Nat
  deriving Repr, Inhabited

end LinearProgram.Lp
