/-
**The grammar of linear expressions, and what they are read as.**

An expression is a row of factors behind signs. A factor is a number, a name, or a number right in front
of a name. Any run of signs may stand before a factor, and only the first factor may do without. Nothing
else is an expression, and every expression is read: the coefficients of one name are added up from left
to right where the name first appears, and so are the numbers that stand alone.

* `Factor`, `SignedFactor`: what a row of tokens is made of. `Spells`: tokens that spell such a row.
* `collected`: the expression that a row of factors amounts to.
* `readFrom_of_spells`, `exists_spells`: what is spelled is read, and what is read is spelled.
* `IndexedExpression.Positions`: the index gives every name its place, and nothing else.
* **`read_spelled`**: reading succeeds exactly on what the grammar spells, with that expression and the
  index of its names.
-/

import Mathlib.Data.List.Induction
import Mathlib.Data.List.Nodup
import LinearProgram.Lp.Indexed
import LinearProgram.Proofs.Lp.Terms

namespace LinearProgram.Lp

open Decimal

/-! ### First appearances -/

/-- A name behind others is a new one or changes nothing. -/
theorem eraseDups_concat (names : List String) (name : String) :
    (names ++ [name]).eraseDups
      = if name ∈ names then names.eraseDups else names.eraseDups ++ [name] := by
  rw [List.eraseDups_append]
  split
  next met =>
    have nothing : [name].removeAll names = [] := by simp [List.removeAll, met]
    rw [nothing, List.eraseDups_nil, List.append_nil]
  next fresh =>
    have all : [name].removeAll names = [name] := by simp [List.removeAll, fresh]
    rw [all]
    rfl

theorem nodup_eraseDups (names : List String) : names.eraseDups.Nodup := by
  induction names using List.reverseRecOn with
  | nil => exact List.nodup_nil
  | append_singleton names name hyp =>
    rw [eraseDups_concat]
    split
    next => exact hyp
    next fresh =>
      refine hyp.append (List.nodup_singleton name) ?_
      rw [List.disjoint_singleton, List.mem_eraseDups]
      exact fresh

/-- Names that were met before count once, also behind other names. -/
theorem eraseDups_append_eraseDups (before names : List String) :
    (before ++ names.eraseDups).eraseDups = (before ++ names).eraseDups := by
  induction names using List.reverseRecOn with
  | nil => rfl
  | append_singleton names name hyp =>
    have all : before ++ (names ++ [name]) = before ++ names ++ [name] :=
      (List.append_assoc ..).symm
    by_cases met : name ∈ names
    · rw [eraseDups_concat names, if_pos met, hyp, all, eraseDups_concat,
        if_pos (List.mem_append_right before met)]
    · rw [eraseDups_concat names, if_neg met, ← List.append_assoc, eraseDups_concat, hyp, all,
        eraseDups_concat]
      simp only [List.mem_append, List.mem_eraseDups]

/-! ### Factors behind signs -/

/-- What stands behind the signs: a number, a name, or a number for a name. -/
inductive Factor where
  | number (value : Float)
  | alone (name : String)
  | product (value : Float) (name : String)

namespace Factor

/-- The tokens of a factor. -/
def tokens : Factor → List Token
  | number value => [.number value]
  | alone name => [.name name]
  | product value name => [.number value, .name name]

theorem tokens_ne_nil (factor : Factor) : factor.tokens ≠ [] := by
  cases factor <;> exact List.cons_ne_nil _ _

/-- The name in a factor. -/
def name? : Factor → Option String
  | number _ => none
  | alone name | product _ name => some name

/-- The number in a factor; a name alone counts once. -/
def coefficient : Factor → Float
  | number value | product value _ => value
  | alone _ => 1

end Factor

/-- A factor behind a run of signs; a sign is true if it is a minus. -/
structure SignedFactor where
  signs : List Bool
  factor : Factor

/-- The token of a sign. -/
def signToken (minus : Bool) : Token :=
  if minus then .minus else .plus

/-- Whether a run of signs negates: it has an odd number of minus signs. -/
def negates (signs : List Bool) : Bool :=
  signs.count true % 2 == 1

namespace SignedFactor

/-- The tokens of the signs and the factor. -/
def tokens (given : SignedFactor) : List Token :=
  given.signs.map signToken ++ given.factor.tokens

/-- The number of the factor with its sign. -/
def value (given : SignedFactor) : Float :=
  withSign (negates given.signs) given.factor.coefficient

/-- What the factor adds. -/
def summand (given : SignedFactor) : Summand :=
  match given.factor.name? with
  | some name => .term name given.value
  | none => .constant given.value

end SignedFactor

/-- **The tokens spell the sum**: the factors with their signs, one after the other, each but the first
behind a sign at least. -/
structure Spells (tokens : List Token) (sum : List SignedFactor) : Prop where
  spelled : tokens = sum.flatMap SignedFactor.tokens
  signed : ∀ later ∈ sum.tail, later.signs ≠ []

/-! ### What a sum amounts to -/

/-- The numbers that a sum has for a name, or alone, from left to right. -/
def numbersOf (key : Option String) (sum : List SignedFactor) : List Float :=
  (sum.filter fun given => given.factor.name? == key).map (·.value)

/-- The names in a sum, in order. -/
def namesOf (sum : List SignedFactor) : List String :=
  sum.filterMap (·.factor.name?)

/-- The sum of numbers from left to right. -/
def sumFromLeft : List Float → Float
  | [] => 0
  | first :: rest => rest.foldl (· + ·) first

/-- **The expression that a sum amounts to**: each name once, where it first appears, with the sum of its
numbers, and the sum of the numbers that stand alone. -/
def collected (sum : List SignedFactor) : Expression where
  terms := (namesOf sum).eraseDups.map fun name => ⟨name, sumFromLeft (numbersOf (some name) sum)⟩
  constant := (numbersOf none sum).foldl (· + ·) 0

theorem sumFromLeft_concat (numbers : List Float) (number : Float) :
    sumFromLeft (numbers ++ [number])
      = if numbers = [] then number else sumFromLeft numbers + number := by
  cases numbers with
  | nil => rfl
  | cons first rest => exact List.foldl_append

theorem numbersOf_concat (key : Option String) (sum : List SignedFactor) (last : SignedFactor) :
    numbersOf key (sum ++ [last])
      = numbersOf key sum ++ if last.factor.name? = key then [last.value] else [] := by
  rw [numbersOf, List.filter_append, List.map_append, numbersOf, List.filter_singleton]
  split
  next same =>
    rw [same, beq_self_eq_true]
    rfl
  next other =>
    rw [beq_false_of_ne other]
    rfl

theorem namesOf_concat (sum : List SignedFactor) (last : SignedFactor) :
    namesOf (sum ++ [last]) = namesOf sum ++ last.factor.name?.toList := by
  rw [namesOf, List.filterMap_append, namesOf]
  cases key : last.factor.name? <;> simp [key]

/-- A sum has numbers for the names in it, and for no other name. -/
theorem numbersOf_eq_nil {name : String} {sum : List SignedFactor} :
    numbersOf (some name) sum = [] ↔ name ∉ namesOf sum := by
  rw [numbersOf, List.map_eq_nil_iff, List.filter_eq_nil_iff, namesOf, List.mem_filterMap]
  simp

theorem numbersOf_concat_self {key : Option String} (sum : List SignedFactor) {last : SignedFactor}
    (here : last.factor.name? = key) :
    numbersOf key (sum ++ [last]) = numbersOf key sum ++ [last.value] := by
  rw [numbersOf_concat, if_pos here]

theorem numbersOf_concat_of_ne {key : Option String} (sum : List SignedFactor)
    {last : SignedFactor} (other : last.factor.name? ≠ key) :
    numbersOf key (sum ++ [last]) = numbersOf key sum := by
  rw [numbersOf_concat, if_neg other, List.append_nil]

theorem map_name_collected (sum : List SignedFactor) :
    (collected sum).terms.map (·.name) = (namesOf sum).eraseDups := by
  rw [collected, List.map_map]
  exact List.map_id _

theorem distinct_collected (sum : List SignedFactor) : Distinct (collected sum).terms := by
  rw [Distinct, map_name_collected]
  exact nodup_eraseDups _

/-- A number alone changes no term. -/
theorem collected_concat_number (sum : List SignedFactor) {last : SignedFactor}
    (number : last.factor.name? = none) :
    collected (sum ++ [last])
      = { collected sum with constant := (collected sum).constant + last.value } := by
  have names : namesOf (sum ++ [last]) = namesOf sum := by
    rw [namesOf_concat, number]
    exact List.append_nil _
  have numbers (name : String) : numbersOf (some name) (sum ++ [last]) = numbersOf (some name) sum :=
    numbersOf_concat_of_ne sum (by rw [number]; exact nofun)
  rw [collected, collected, names, numbersOf_concat_self sum number, List.foldl_append]
  simp only [numbers]
  rfl

/-- A named factor is added to the term of its name. -/
theorem terms_collected_concat (sum : List SignedFactor) {last : SignedFactor} {name : String}
    (named : last.factor.name? = some name) :
    (collected (sum ++ [last])).terms = addTerm name last.value (collected sum).terms := by
  have names : namesOf (sum ++ [last]) = namesOf sum ++ [name] := by
    rw [namesOf_concat, named]
    rfl
  have here := numbersOf_concat_self sum named
  have others {other : String} (different : other ≠ name) :
      numbersOf (some other) (sum ++ [last]) = numbersOf (some other) sum := by
    refine numbersOf_concat_of_ne sum fun same => different ?_
    exact (Option.some.inj (named.symm.trans same)).symm
  have listed := map_name_collected sum
  rw [collected.eq_def (sum ++ [last]), names, eraseDups_concat]
  by_cases met : name ∈ namesOf sum
  · rw [if_pos met, addTerm_of_mem _ (distinct_collected sum) (by rwa [listed, List.mem_eraseDups]),
      collected, List.map_map]
    refine List.map_congr_left fun other _ => ?_
    by_cases same : other = name
    · subst same
      have some := mt numbersOf_eq_nil.mp (not_not.mpr met)
      rw [Function.comp_apply, if_pos rfl, here, sumFromLeft_concat, if_neg some]
    · rw [Function.comp_apply, if_neg same, others same]
  · rw [if_neg met, addTerm_of_notMem (by rwa [listed, List.mem_eraseDups]), List.map_append,
      List.map_singleton, here, numbersOf_eq_nil.mpr met, collected]
    refine congrArg (· ++ _) (List.map_congr_left fun other member => ?_)
    rw [others fun same => met (same ▸ List.mem_eraseDups.mp member)]

/-- **One factor more.** -/
theorem collected_concat (sum : List SignedFactor) (last : SignedFactor) :
    collected (sum ++ [last]) = (collected sum).plus last.summand := by
  rw [SignedFactor.summand]
  cases key : last.factor.name? with
  | none => exact collected_concat_number sum key
  | some name =>
    have constants : numbersOf none (sum ++ [last]) = numbersOf none sum :=
      numbersOf_concat_of_ne sum (by rw [key]; exact nofun)
    have constant : (collected (sum ++ [last])).constant = (collected sum).constant := by
      rw [collected, constants, collected]
    exact congrArg₂ Expression.mk (terms_collected_concat sum key) constant

/-- **Adding up the factors of a sum gives what it amounts to.** -/
theorem foldl_plus (sum : List SignedFactor) :
    sum.foldl (fun expression given => expression.plus given.summand) {} = collected sum := by
  induction sum using List.reverseRecOn with
  | nil => rfl
  | append_singleton sum last hyp =>
    rw [List.foldl_append, hyp, collected_concat]
    rfl

/-! ### What is spelled is read -/

theorem negates_cons (minus : Bool) (signs : List Bool) :
    negates (minus :: signs) = (minus ^^ negates signs) := by
  unfold negates
  rw [List.count_cons]
  rcases Nat.mod_two_eq_zero_or_one (signs.count true) with even | odd
  · cases minus <;> simp [Nat.add_mod, even]
  · cases minus <;> simp [Nat.add_mod, odd]

/-- The tokens begin with a sign, if there are any. -/
def Signed (tokens : List Token) : Prop :=
  ∀ token ∈ tokens.head?, token = .plus ∨ token = .minus

theorem signed_flatMap {sum : List SignedFactor} (signed : ∀ given ∈ sum, given.signs ≠ []) :
    Signed (sum.flatMap SignedFactor.tokens) := by
  cases sum with
  | nil => exact nofun
  | cons given rest =>
    obtain ⟨minus, others, some⟩ := List.exists_cons_of_ne_nil (signed given List.mem_cons_self)
    intro token member
    rw [List.flatMap_cons, SignedFactor.tokens, some] at member
    obtain rfl := Option.some.inj member
    cases minus with
    | true => exact .inr rfl
    | false => exact .inl rfl

/-- The run of signs ends at a factor. -/
theorem spanSigns_factor {factor : Factor} {more : List Token} (negative : Bool)
    {located : List Located} (same : located.map (·.token) = factor.tokens ++ more) :
    spanSigns negative located = (negative, located) := by
  cases factor with
  | number value | alone name | product value name =>
    obtain ⟨⟨token, line⟩, rest, rfl, here, -⟩ := List.map_eq_cons_iff.mp same
    obtain rfl : token = _ := here
    rfl

/-- **A run of signs is taken together**, up to the factor behind it. -/
theorem spanSigns_run {signs : List Bool} {factor : Factor} {more : List Token} (negative : Bool)
    {located : List Located}
    (same : located.map (·.token) = signs.map signToken ++ (factor.tokens ++ more)) :
    ∃ rest, spanSigns negative located = (negative ^^ negates signs, rest)
      ∧ rest.map (·.token) = factor.tokens ++ more := by
  induction signs generalizing negative located with
  | nil =>
    refine ⟨located, ?_, same⟩
    rw [spanSigns_factor negative same]
    exact congrArg (·, located) (Bool.xor_false negative).symm
  | cons minus others hyp =>
    obtain ⟨⟨token, line⟩, rest, rfl, here, there⟩ := List.map_eq_cons_iff.mp same
    obtain rfl : token = signToken minus := here
    obtain ⟨after, spanned, behind⟩ := hyp (negative ^^ minus) there
    refine ⟨after, ?_, behind⟩
    rw [negates_cons, ← Bool.xor_assoc, ← spanned]
    cases minus with
    | true =>
      rw [Bool.xor_true]
      rfl
    | false =>
      rw [Bool.xor_false]
      rfl

/-- **A factor is read as what it adds**, if what stands behind it begins with a sign. -/
theorem summand_factor (given : SignedFactor) {more : List Token} (signed : Signed more)
    {located : List Located} (same : located.map (·.token) = given.factor.tokens ++ more)
    (line : Nat) : ∃ rest, summand line (negates given.signs) located = .ok (given.summand, rest)
      ∧ rest.map (·.token) = more := by
  obtain ⟨signs, factor⟩ := given
  cases factor with
  | alone name =>
    obtain ⟨⟨token, place⟩, rest, rfl, here, there⟩ := List.map_eq_cons_iff.mp same
    obtain rfl : token = .name name := here
    exact ⟨rest, rfl, there⟩
  | product value name =>
    obtain ⟨⟨token, place⟩, rest, rfl, here, there⟩ := List.map_eq_cons_iff.mp same
    obtain rfl : token = .number value := here
    obtain ⟨⟨token, place'⟩, after, rfl, here', behind⟩ := List.map_eq_cons_iff.mp there
    obtain rfl : token = .name name := here'
    exact ⟨after, rfl, behind⟩
  | number value =>
    obtain ⟨⟨token, place⟩, rest, rfl, here, there⟩ := List.map_eq_cons_iff.mp same
    obtain rfl : token = .number value := here
    refine ⟨rest, ?_, there⟩
    -- A name behind the number would be one that the rest begins with.
    cases rest with
    | nil => rfl
    | cons next others =>
      obtain ⟨token, place'⟩ := next
      rw [← show _ = more from there] at signed
      rcases signed token rfl with rfl | rfl
      · rfl
      · rfl

/-- **What is spelled is read**, each factor being added to what was read before. -/
theorem readFrom_of_spells {sum : List SignedFactor} (line : Nat) (first : Bool)
    (expression : Expression) (signed : ∀ given ∈ if first then sum.tail else sum, given.signs ≠ [])
    {located : List Located} (same : located.map (·.token) = sum.flatMap SignedFactor.tokens) :
    Expression.readFrom line first expression located
      = .ok (sum.foldl (fun expression given => expression.plus given.summand) expression) := by
  induction sum generalizing first expression located with
  | nil =>
    obtain rfl := List.map_eq_nil_iff.mp same
    rw [Expression.readFrom]
    rfl
  | cons given rest hyp =>
    have later : ∀ other ∈ rest, other.signs ≠ [] := by
      cases first with
      | true => exact signed
      | false => exact fun other member => signed other (List.mem_cons_of_mem _ member)
    rw [List.flatMap_cons, SignedFactor.tokens, List.append_assoc] at same
    obtain ⟨body, signs, bodySame⟩ := spanSigns_run false same
    rw [Bool.false_xor] at signs
    obtain ⟨after, added, afterSame⟩ := summand_factor given (signed_flatMap later) bodySame line
    have starts : (!first && !startsSigned located) = false := by
      cases first with
      | true => rfl
      | false =>
        obtain ⟨minus, others, some⟩ := List.exists_cons_of_ne_nil (signed given List.mem_cons_self)
        rw [some] at same
        obtain ⟨⟨token, place⟩, tail, rfl, here, -⟩ := List.map_eq_cons_iff.mp same
        obtain rfl : token = signToken minus := here
        cases minus <;> rfl
    cases located with
    | nil =>
      have none := (List.append_eq_nil_iff.mp same.symm).2
      exact absurd (List.append_eq_nil_iff.mp none).1 given.factor.tokens_ne_nil
    | cons token tokens =>
      rw [Expression.readFrom, starts, if_neg Bool.false_ne_true]
      split
      next found =>
        rw [signs, added] at found
        cases found
      next found =>
        rw [signs, added] at found
        cases found
        exact hyp false (expression.plus given.summand) later afterSame

/-! ### What is read is spelled -/

/-- The signs at the front of tokens, and what stands behind them. -/
theorem exists_spanSigns (negative : Bool) (tokens : List Located) :
    ∃ signs : List Bool, tokens.map (·.token)
        = signs.map signToken ++ (spanSigns negative tokens).2.map (·.token)
      ∧ (startsSigned tokens = true → signs ≠ []) := by
  fun_induction spanSigns negative tokens with
  | case1 negative line rest hyp =>
    obtain ⟨signs, same, -⟩ := hyp
    exact ⟨false :: signs, congrArg (Token.plus :: ·) same, fun _ => List.cons_ne_nil _ _⟩
  | case2 negative line rest hyp =>
    obtain ⟨signs, same, -⟩ := hyp
    exact ⟨true :: signs, congrArg (Token.minus :: ·) same, fun _ => List.cons_ne_nil _ _⟩
  | case3 negative tokens notPlus notMinus =>
    refine ⟨[], rfl, fun starts => ?_⟩
    unfold startsSigned at starts
    split at starts
    · exact absurd rfl (notPlus _ _)
    · exact absurd rfl (notMinus _ _)
    · cases starts

/-- What is read as a summand is a factor. -/
theorem exists_factor {line : Nat} {negative : Bool} {tokens after : List Located}
    {found : Summand} (read : summand line negative tokens = .ok (found, after)) :
    ∃ factor : Factor, tokens.map (·.token) = factor.tokens ++ after.map (·.token) := by
  unfold summand at read
  split at read
  next value _ name _ rest =>
    cases read
    exact ⟨.product value name, rfl⟩
  next value _ rest _ =>
    cases read
    exact ⟨.number value, rfl⟩
  next name _ rest =>
    cases read
    exact ⟨.alone name, rfl⟩
  · cases read
  · cases read

/-- **What is read is spelled**: a row of factors, each with a sign if another one came before. -/
theorem exists_spells {line : Nat} {first : Bool} {expression result : Expression}
    {tokens : List Located} (read : Expression.readFrom line first expression tokens = .ok result) :
    ∃ sum : List SignedFactor, tokens.map (·.token) = sum.flatMap SignedFactor.tokens
      ∧ ∀ given ∈ if first then sum.tail else sum, given.signs ≠ [] := by
  fun_induction Expression.readFrom line first expression tokens with
  | case1 first expression =>
    refine ⟨[], rfl, fun given member => ?_⟩
    rw [List.tail_nil, ite_self] at member
    cases member
  | case2 => cases read
  | case3 => cases read
  | case4 first expression token rest signed added after found hyp =>
    obtain ⟨sum, same, later⟩ := hyp read
    obtain ⟨signs, front, some⟩ := exists_spanSigns false (token :: rest)
    obtain ⟨factor, body⟩ := exists_factor found
    refine ⟨⟨signs, factor⟩ :: sum, ?_, ?_⟩
    · rw [front, body, same, List.flatMap_cons, SignedFactor.tokens, List.append_assoc]
    · cases first with
      | true => exact later
      | false =>
        refine List.forall_mem_cons.mpr ⟨some ?_, later⟩
        rwa [Bool.not_false, Bool.true_and, Bool.not_eq_true', Bool.not_eq_false] at signed

/-! ### The index -/

namespace IndexedExpression

/-- **The index gives every name its place, and nothing else.** -/
def Positions (expression : IndexedExpression) : Prop :=
  ∀ (name : String) (place : Nat), expression.index[name]? = some place
    ↔ (expression.terms.map (·.name))[place]? = some name

variable {expression : IndexedExpression}

theorem Positions.distinct (positions : expression.Positions) : Distinct expression.terms := by
  refine List.nodup_iff_injective_getElem.mpr fun first second same => Fin.ext ?_
  have here := (positions _ _).mpr (List.getElem?_eq_getElem first.isLt)
  have there := (positions _ _).mpr (List.getElem?_eq_getElem second.isLt)
  dsimp only at same
  rw [same] at here
  exact Option.some.inj (here.symm.trans there)

/-- The place that the index gives for a name is that of its term. -/
theorem Positions.modify (positions : expression.Positions) {name : String} {place : Nat}
    (found : expression.index[name]? = some place) (coefficient : Float) :
    (expression.terms.modify place fun term =>
        { term with coefficient := term.coefficient + coefficient })
      = addTerm name coefficient expression.terms := by
  have here := (positions name place).mp found
  rw [addTerm_of_mem coefficient positions.distinct (List.mem_of_getElem? here)]
  refine List.ext_getElem? fun other => ?_
  rw [List.getElem?_modify, List.getElem?_map]
  cases there : expression.terms[other]? with
  | none => rfl
  | some term =>
    have listed : (expression.terms.map (·.name))[other]? = some term.name := by
      rw [List.getElem?_map, there]
      rfl
    have only : place = other ↔ term.name = name := by
      constructor
      · rintro rfl
        exact Option.some.inj (listed.symm.trans here)
      · rintro rfl
        exact Option.some.inj (found.symm.trans ((positions _ _).mpr listed))
    by_cases same : term.name = name
    · simp [only.mpr same, same]
    · simp [mt only.mp same, same]

theorem getElem?_concat_iff {names : List String} {name other : String} {place : Nat} :
    (names ++ [name])[place]? = some other
      ↔ names[place]? = some other ∨ place = names.length ∧ name = other := by
  rcases Nat.lt_trichotomy place names.length with inside | rfl | outside
  · rw [List.getElem?_append_left inside]
    exact (or_iff_left fun last => Nat.ne_of_lt inside last.1).symm
  · rw [List.getElem?_concat_length, List.getElem?_eq_none (Nat.le_refl _)]
    simp
  · rw [List.getElem?_eq_none (by rw [List.length_append, List.length_singleton]; omega),
      List.getElem?_eq_none (by omega)]
    simp only [reduceCtorEq, false_or, false_iff, not_and]
    omega

/-- **A coefficient that is added through the index** goes to the term of its name, and the index stays
right. -/
theorem Positions.add (positions : expression.Positions) (name : String) (coefficient : Float) :
    (expression.add name coefficient).Positions
      ∧ (expression.add name coefficient).plain = expression.plain.add name coefficient := by
  unfold IndexedExpression.add
  cases found : expression.index[name]? with
  | some place =>
    dsimp only
    refine ⟨fun other place' => ?_, ?_⟩
    · dsimp only
      rw [positions.modify found, addTerm_of_mem coefficient positions.distinct
        (List.mem_of_getElem? ((positions name place).mp found)), List.map_map]
      refine (positions other place').trans ?_
      refine iff_of_eq (congrArg (·[place']? = some other) (List.map_congr_left fun term _ => ?_))
      rw [Function.comp_apply]
      split
      next same => exact same
      next => rfl
    · exact congrArg (Expression.mk · expression.constant) (positions.modify found coefficient)
  | none =>
    have fresh : name ∉ expression.terms.map (·.name) := by
      intro member
      obtain ⟨place, here⟩ := List.getElem?_of_mem member
      rw [(positions name place).mpr here] at found
      cases found
    refine ⟨fun other place => ?_, ?_⟩
    · dsimp only
      rw [Std.HashMap.getElem?_insert, List.map_append, List.map_singleton]
      by_cases same : name = other
      · subst same
        rw [if_pos (beq_self_eq_true name), getElem?_concat_iff, List.length_map]
        constructor
        · rintro ⟨⟩
          exact .inr ⟨rfl, rfl⟩
        · rintro (here | ⟨rfl, -⟩)
          · exact absurd (List.mem_of_getElem? here) fresh
          · rfl
      · rw [if_neg (beq_iff_eq.not.mpr same), positions other place, getElem?_concat_iff]
        exact (or_iff_left fun last => same last.2).symm
    · exact congrArg (Expression.mk · expression.constant) (addTerm_of_notMem fresh coefficient).symm

theorem Positions.plus (positions : expression.Positions) (added : Summand) :
    (expression.plus added).Positions
      ∧ (expression.plus added).plain = expression.plain.plus added := by
  cases added with
  | term name coefficient => exact positions.add name coefficient
  | constant value => exact ⟨positions, rfl⟩

theorem positions_empty : ({} : IndexedExpression).Positions := by
  intro name place
  simp

/-- **Reading with an index gives the same**, and the index is right. -/
theorem readFrom_plain (positions : expression.Positions) (line : Nat) (first : Bool)
    {tokens : List Located} {result : Expression}
    (read : Expression.readFrom line first expression.plain tokens = .ok result) :
    ∃ indexed, readFrom line first expression tokens = .ok indexed ∧ indexed.plain = result
      ∧ indexed.Positions := by
  fun_induction readFrom line first expression tokens with
  | case1 first expression =>
    rw [Expression.readFrom] at read
    exact ⟨expression, rfl, Except.ok.inj read, positions⟩
  | case2 first expression token rest unsigned =>
    rw [Expression.readFrom, if_pos unsigned] at read
    cases read
  | case3 first expression token rest signed failure missing =>
    rw [Expression.readFrom, if_neg signed] at read
    split at read
    next => cases read
    next found =>
      rw [missing] at found
      cases found
  | case4 first expression token rest signed added after found hyp =>
    rw [Expression.readFrom, if_neg signed] at read
    split at read
    next => cases read
    next added' after' found' =>
      obtain ⟨rfl, rfl⟩ := Prod.mk.inj (Except.ok.inj (found.symm.trans found'))
      obtain ⟨positions', same⟩ := positions.plus added
      rw [← same] at read
      exact hyp positions' read

end IndexedExpression

/-! ### The grammar -/

/-- **Reading succeeds exactly on what the grammar spells.** Whatever sum the tokens spell, the
expression that it amounts to is read: each name once, in order of first appearance, with the sum of its
signed numbers from left to right, and the signed numbers that stand alone added up from zero. Read with
an index, it is the same expression, and the index gives each name its place among the terms. -/
theorem read_spelled (line : Nat) (tokens : List Located) :
    ((∃ expression, Expression.read line tokens = .ok expression)
        ↔ ∃ sum, Spells (tokens.map (·.token)) sum)
      ∧ ∀ sum, Spells (tokens.map (·.token)) sum →
        Expression.read line tokens = .ok (collected sum) ∧ Distinct (collected sum).terms
          ∧ ∃ indexed, IndexedExpression.read line tokens = .ok indexed
            ∧ indexed.plain = collected sum ∧ indexed.Positions := by
  have complete {sum : List SignedFactor} (spells : Spells (tokens.map (·.token)) sum) :
      Expression.read line tokens = .ok (collected sum) := by
    rw [Expression.read, readFrom_of_spells line true {} spells.signed spells.spelled, foldl_plus]
  refine ⟨⟨fun ⟨expression, read⟩ => ?_, fun ⟨sum, spells⟩ => ⟨_, complete spells⟩⟩,
    fun sum spells => ⟨complete spells, Expression.read_distinct (complete spells), ?_⟩⟩
  · obtain ⟨sum, spelled, signed⟩ := exists_spells read
    exact ⟨sum, spelled, signed⟩
  · exact IndexedExpression.readFrom_plain IndexedExpression.positions_empty line true
      (complete spells)

/-- The sum `- - 3 x + y - 2 + - 4 x`. -/
def repeated : List Located :=
  [⟨.minus, 1⟩, ⟨.minus, 1⟩, ⟨.number 3, 1⟩, ⟨.name "x", 1⟩, ⟨.plus, 1⟩, ⟨.name "y", 1⟩,
    ⟨.minus, 1⟩, ⟨.number 2, 1⟩, ⟨.plus, 1⟩, ⟨.minus, 1⟩, ⟨.number 4, 1⟩, ⟨.name "x", 1⟩]

def repeatedFactors : List SignedFactor :=
  [⟨[true, true], .product 3 "x"⟩, ⟨[false], .alone "y"⟩, ⟨[true], .number 2⟩,
    ⟨[false, true], .product 4 "x"⟩]

theorem spells_repeated : Spells (repeated.map (·.token)) repeatedFactors where
  spelled := rfl
  signed := by decide

theorem read_spelled_repeated : Spells (repeated.map (·.token)) repeatedFactors
    ∧ Expression.read 1 repeated = .ok { terms := [⟨"x", -1⟩, ⟨"y", 1⟩], constant := -2 }
    ∧ ∃ indexed, IndexedExpression.read 1 repeated = .ok indexed
      ∧ indexed.index["x"]? = some 0 ∧ indexed.index["y"]? = some 1 := by
  obtain ⟨read, -, indexed, readIndexed, same, positions⟩ :=
    (read_spelled 1 repeated).2 repeatedFactors spells_repeated
  have value : collected repeatedFactors = { terms := [⟨"x", -1⟩, ⟨"y", 1⟩], constant := -2 } := by
    rfl
  have terms : indexed.terms = [⟨"x", -1⟩, ⟨"y", 1⟩] := by
    rw [value] at same
    exact congrArg Expression.terms same
  refine ⟨spells_repeated, value ▸ read, indexed, readIndexed, ?_, ?_⟩
  · exact (positions "x" 0).mpr (by rw [terms]; rfl)
  · exact (positions "y" 1).mpr (by rw [terms]; rfl)

end LinearProgram.Lp
