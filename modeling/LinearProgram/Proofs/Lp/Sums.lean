/-
**What the tokens of a sum are read as.**

Lines are told in faults only, so everything here is about tokens with any lines.

* `SignedSummand`: a summand, behind a sign or not. `total`: what a row of them adds up to.
* `Reads`: tokens that are read as an expression. **`reads_total`**: a row of summands is read as
  its total, if every one but the first has a sign.
-/

import LinearProgram.Proofs.Lp.Grammar

namespace LinearProgram.Lp

open Decimal

/-! ### Summands -/

/-- The tokens that a sum is made of. -/
def Simple : Token → Prop
  | .number _ | .name _ | .plus | .minus => True
  | _ => False

/-- A summand: a sign, a number and a name, each of which may be missing. The sign is true if it is
a minus. -/
structure SignedSummand where
  sign : Option Bool
  number : Option Float
  name : Option String

namespace SignedSummand

/-- The tokens of the number and the name. -/
def bodyTokens (given : SignedSummand) : List Token :=
  (given.number.map Token.number).toList ++ (given.name.map Token.name).toList

/-- The tokens of a summand. -/
def tokens (given : SignedSummand) : List Token :=
  (given.sign.map signToken).toList ++ given.bodyTokens

/-- What the summand adds. -/
def summand (given : SignedSummand) : Summand :=
  match given.name with
  | some name => .term name (withSign (given.sign.getD false) (given.number.getD 1))
  | none => .constant (withSign (given.sign.getD false) (given.number.getD 0))

/-- There is a number or a name. -/
def Whole (given : SignedSummand) : Prop :=
  given.bodyTokens ≠ []

theorem simple_of_mem_tokens (given : SignedSummand) : ∀ token ∈ given.tokens, Simple token := by
  obtain ⟨sign, number, name⟩ := given
  intro token member
  rcases List.mem_append.mp member with member | member
  · obtain ⟨negative, -, rfl⟩ := Option.map_eq_some_iff.mp (Option.mem_toList.mp member)
    cases negative <;> exact trivial
  rcases List.mem_append.mp member with member | member
  · obtain ⟨value, -, rfl⟩ := Option.map_eq_some_iff.mp (Option.mem_toList.mp member)
    exact trivial
  · obtain ⟨text, -, rfl⟩ := Option.map_eq_some_iff.mp (Option.mem_toList.mp member)
    exact trivial

/-- A summand as a factor behind a run of at most one sign. -/
def signedFactor (given : SignedSummand) : SignedFactor where
  signs := given.sign.toList
  factor :=
    match given.number, given.name with
    | some value, some name => .product value name
    | some value, none => .number value
    | none, some name => .alone name
    | none, none => .number 0

theorem signs_signedFactor {given : SignedSummand} (signed : given.sign.isSome = true) :
    given.signedFactor.signs ≠ [] := by
  obtain ⟨negative, some⟩ := Option.isSome_iff_exists.mp signed
  rw [signedFactor, some]
  exact List.cons_ne_nil _ _

theorem tokens_signedFactor {given : SignedSummand} (whole : given.Whole) :
    given.signedFactor.tokens = given.tokens := by
  obtain ⟨sign, number, name⟩ := given
  cases number with
  | some value => cases sign <;> cases name <;> rfl
  | none =>
    cases name with
    | some name => cases sign <;> rfl
    | none => exact absurd rfl whole

theorem summand_signedFactor {given : SignedSummand} (whole : given.Whole) :
    given.signedFactor.summand = given.summand := by
  have negates_toList : negates given.sign.toList = given.sign.getD false := by
    rcases given.sign with - | ⟨- | -⟩ <;> rfl
  obtain ⟨sign, number, name⟩ := given
  cases number with
  | some value =>
    cases name with
    | some name => exact congrArg (Summand.term name <| withSign · value) negates_toList
    | none => exact congrArg (Summand.constant <| withSign · value) negates_toList
  | none =>
    cases name with
    | some name => exact congrArg (Summand.term name <| withSign · 1) negates_toList
    | none => exact absurd rfl whole

end SignedSummand

/-! ### Sums -/

/-- What a row of summands adds up to. -/
def total (given : List SignedSummand) : Expression :=
  given.foldl (fun expression one => expression.plus one.summand) {}

/-- **The tokens are read as the expression**, and make a sum. -/
structure Reads (tokens : List Token) (expression : Expression) : Prop where
  simple : ∀ token ∈ tokens, Simple token
  read : ∀ line located, located.map (·.token) = tokens →
    Expression.read line located = .ok expression

/-- **A row of summands is read as its total**, if every one but the first has a sign. -/
theorem reads_total (given : List SignedSummand) (whole : ∀ one ∈ given, one.Whole)
    (signed : ∀ one ∈ given.tail, one.sign.isSome) :
    Reads (given.flatMap SignedSummand.tokens) (total given) where
  simple := by
    intro token member
    obtain ⟨one, -, member⟩ := List.mem_flatMap.mp member
    exact one.simple_of_mem_tokens token member
  read := by
    intro line located same
    have tokens : (given.map SignedSummand.signedFactor).flatMap SignedFactor.tokens
        = given.flatMap SignedSummand.tokens := by
      rw [List.flatMap_map]
      exact List.flatMap_congr fun one member => SignedSummand.tokens_signedFactor (whole one member)
    have behind : ∀ factor ∈ (given.map SignedSummand.signedFactor).tail, factor.signs ≠ [] := by
      intro factor member
      rw [← List.map_tail] at member
      obtain ⟨one, later, rfl⟩ := List.mem_map.mp member
      exact SignedSummand.signs_signedFactor (signed one later)
    rw [Expression.read, readFrom_of_spells line true {} behind (same.trans tokens.symm), total,
      List.foldl_map]
    refine congrArg Except.ok (List.foldl_ext _ _ _ fun expression one member => ?_)
    rw [SignedSummand.summand_signedFactor (whole one member)]

end LinearProgram.Lp
