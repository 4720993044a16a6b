/-
**Linear expressions with an index of their names.**

A further coefficient of a name belongs to the term that the name has already. The index says where
that term stands, so that it is found without a search through the terms.

* `IndexedExpression.add`: one more term, found through the index.
* `IndexedExpression.read`: the expression that a row of tokens writes, with its index.
-/

import Mathlib.Data.List.Defs
import LinearProgram.Lp.Expression

namespace LinearProgram.Lp

/-- A linear expression with the place of each name among its terms, counted from zero. -/
structure IndexedExpression where
  terms : List Term := []
  index : Std.HashMap String Nat := {}
  constant : Float := 0

namespace IndexedExpression

/-- The expression without its index. -/
def plain (expression : IndexedExpression) : Expression where
  terms := expression.terms
  constant := expression.constant

/-- Adds a coefficient to the term that the index gives for a name, or a new term at the end. -/
def add (expression : IndexedExpression) (name : String) (coefficient : Float) :
    IndexedExpression :=
  match expression.index[name]? with
  | some place =>
    { expression with
      terms := expression.terms.modify place fun term =>
        { term with coefficient := term.coefficient + coefficient } }
  | none =>
    { expression with
      index := expression.index.insert name expression.terms.length
      terms := expression.terms ++ [⟨name, coefficient⟩] }

/-- Adds a summand. -/
def plus (expression : IndexedExpression) : Summand → IndexedExpression
  | .term name coefficient => expression.add name coefficient
  | .constant value => { expression with constant := expression.constant + value }

/-- Adds the terms that the tokens write. `first` says that no term came before, `line` is the line
of the statement. -/
def readFrom (line : Nat) (first : Bool) (expression : IndexedExpression) :
    List Located → Except Failure IndexedExpression
  | [] => .ok expression
  | token :: rest =>
    if !first && !startsSigned (token :: rest) then .error ⟨line, .missingSign⟩
    else
      match _ : summand line (spanSigns false (token :: rest)).1
          (spanSigns false (token :: rest)).2 with
      | .error failure => .error failure
      | .ok (added, after) => readFrom line false (expression.plus added) after
termination_by tokens => tokens.length
decreasing_by
  exact Nat.lt_of_lt_of_le (summand_length (by assumption)) (spanSigns_length false _)

/-- **The expression that a row of tokens writes**, with the index of its names. -/
def read (line : Nat) (tokens : List Located) : Except Failure IndexedExpression :=
  readFrom line true {} tokens

end IndexedExpression

end LinearProgram.Lp
