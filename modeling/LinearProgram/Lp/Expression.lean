/-
**Linear expressions of the LP format.**

An expression is a sum of terms: a number, a name, or a number before a name. Every term after the
first one needs a sign, and any term may have several; an odd number of minus signs negates it. The
terms of one name are added up where the name first appeared, and the lone numbers make a constant.

* `Expression.add`: one more term. `Expression.subtract`: the terms of a difference.
* `Expression.read`: the expression that a row of tokens writes.
-/

import LinearProgram.Decimal.Value
import LinearProgram.Lp.Fault

namespace LinearProgram.Lp

/-- A name with its coefficient. -/
structure Term where
  name : String
  coefficient : Float
  deriving Repr, Inhabited

/-- A linear expression; its names are distinct and in order of first appearance. -/
structure Expression where
  terms : List Term := []
  constant : Float := 0
  deriving Repr

/-- Adds a coefficient to the term of a name, or a new term at the end. -/
def addTerm (name : String) (coefficient : Float) : List Term → List Term
  | [] => [⟨name, coefficient⟩]
  | term :: rest =>
    if term.name = name then ⟨name, term.coefficient + coefficient⟩ :: rest
    else term :: addTerm name coefficient rest

namespace Expression

/-- Adds a term. -/
def add (expression : Expression) (name : String) (coefficient : Float) : Expression :=
  { expression with terms := addTerm name coefficient expression.terms }

/-- Adds a lone number. -/
def addConstant (expression : Expression) (value : Float) : Expression :=
  { expression with constant := expression.constant + value }

/-- The terms of the difference of two expressions. -/
def subtract (first second : Expression) : List Term :=
  second.terms.foldl (fun terms term => addTerm term.name (-term.coefficient) terms) first.terms

end Expression

/-! ### Reading one term -/

/-- Whether the tokens start with a sign. -/
def startsSigned : List Located → Bool
  | ⟨.plus, _⟩ :: _ | ⟨.minus, _⟩ :: _ => true
  | _ => false

/-- Whether the signs at the front of the tokens negate, and the tokens behind them. -/
def spanSigns (negative : Bool) : List Located → Bool × List Located
  | ⟨.plus, _⟩ :: rest => spanSigns negative rest
  | ⟨.minus, _⟩ :: rest => spanSigns (!negative) rest
  | tokens => (negative, tokens)

/-- What one term adds: a coefficient to a name, or a lone number to the constant. -/
inductive Summand where
  | term (name : String) (coefficient : Float)
  | constant (value : Float)
  deriving Repr

/-- The summand behind a run of signs, and the tokens behind it. -/
def summand (line : Nat) (negative : Bool) :
    List Located → Except Failure (Summand × List Located)
  | ⟨.number value, _⟩ :: ⟨.name name, _⟩ :: rest =>
    .ok (.term name (Decimal.withSign negative value), rest)
  | ⟨.number value, _⟩ :: rest => .ok (.constant (Decimal.withSign negative value), rest)
  | ⟨.name name, _⟩ :: rest => .ok (.term name (Decimal.withSign negative 1), rest)
  | ⟨token, line⟩ :: _ => .error ⟨line, .unexpectedToken token⟩
  | [] => .error ⟨line, .missingOperand⟩

theorem spanSigns_suffix (negative : Bool) (tokens : List Located) :
    (spanSigns negative tokens).2 <:+ tokens := by
  fun_induction spanSigns negative tokens with
  | case1 negative line rest hyp => exact hyp.trans (List.suffix_cons _ _)
  | case2 negative line rest hyp => exact hyp.trans (List.suffix_cons _ _)
  | case3 => exact List.suffix_rfl

theorem spanSigns_length (negative : Bool) (tokens : List Located) :
    (spanSigns negative tokens).2.length ≤ tokens.length :=
  (spanSigns_suffix negative tokens).length_le

theorem summand_length {line : Nat} {negative : Bool} {tokens rest : List Located}
    {found : Summand} (read : summand line negative tokens = .ok (found, rest)) :
    rest.length < tokens.length := by
  unfold summand at read
  split at read <;> cases read <;> simp only [List.length_cons] <;> omega

/-! ### Reading an expression -/

namespace Expression

/-- Adds a summand. -/
def plus (expression : Expression) : Summand → Expression
  | .term name coefficient => expression.add name coefficient
  | .constant value => expression.addConstant value

/-- Adds the terms that the tokens write. `first` says that no term came before, `line` is the line
of the statement. -/
def readFrom (line : Nat) (first : Bool) (expression : Expression) :
    List Located → Except Failure Expression
  | [] => .ok expression
  | token :: rest =>
    if !first && !startsSigned (token :: rest) then .error ⟨line, .missingSign⟩
    else
      match _ : summand line (spanSigns false (token :: rest)).1
          (spanSigns false (token :: rest)).2 with
      | .error failure => .error failure
      | .ok (added, after) => readFrom line false (expression.plus added) after
termination_by tokens => tokens.length
decreasing_by
  exact Nat.lt_of_lt_of_le (summand_length (by assumption)) (spanSigns_length false _)

/-- **The expression that a row of tokens writes**; no tokens write zero. -/
def read (line : Nat) (tokens : List Located) : Except Failure Expression :=
  readFrom line true {} tokens

end Expression

end LinearProgram.Lp
