/-
**A comparison that is read as a row means what it says.**

The terms of both sides are brought to the left and the numbers to the right, the sides changing places
if only the right one has variables. The row that is stored then admits an activity exactly if the two
sides, as they are written, have the relation between them.

* `Compares`: a statement that compares two sides. `ofTokens_body`: what a row name in front makes of it.
* `Reader.exists_constraint`: a statement that adds a row is a constraint.
* `Expression.difference_means`: a difference and the number on its right stand for both sides.
* **`comparison_means`**: the row admits what the comparison says.
-/

import LinearProgram.Proofs.Lp.Rows
import LinearProgram.Proofs.Lp.Statements

namespace LinearProgram.Lp

open Decimal Problem

/-! ### Statements behind a row name -/

/-- The tokens of a row name in front of a constraint. -/
def labelTokens : Option String → List Token
  | none => []
  | some name => [.name name, .colon]

/-- **A statement asks for an action**, which the reader then does. -/
theorem Reader.exists_action {reader after : Reader} {tokens : List Located} (some : tokens ≠ [])
    (accepted : reader.statement tokens = .ok after) :
    ∃ line action, (Statement.ofTokens tokens).action line = .ok action
      ∧ reader.act line action = .ok after := by
  cases tokens with
  | nil => exact absurd rfl some
  | cons first rest =>
    obtain ⟨action, asks, done⟩ := exists_of_bind_ok accepted
    exact ⟨first.line, action, asks, done⟩

/-- **A statement that compares two sides**, neither of which is empty, behind a row name or not. -/
structure Compares (tokens : List Located) (label : Option String) (left : List Located)
    (relation : Relation) (right : List Located) : Prop where
  written : ∃ front line, front.map (·.token) = labelTokens label
    ∧ tokens = front ++ (left ++ ⟨.relation relation, line⟩ :: right)
  left_ne_nil : left ≠ []
  right_ne_nil : right ≠ []
  left_plain : ∀ relation, .relation relation ∉ left.map (·.token)
  right_plain : ∀ relation, .relation relation ∉ right.map (·.token)
  unlabelled : .colon ∉ left.map (·.token)

/-- A body that does not name a row itself. -/
def Unlabelled (body : List Located) : Prop :=
  ∀ name line place rest, body ≠ ⟨.name name, line⟩ :: ⟨.colon, place⟩ :: rest

/-- What has no colon in front of a relation does not name a row. -/
theorem unlabelled_of_notMem {left rest : List Located} {relation : Relation} {line : Nat}
    (absent : .colon ∉ left.map (·.token)) :
    Unlabelled (left ++ ⟨.relation relation, line⟩ :: rest) := by
  intro name place other after same
  rcases left with - | ⟨one, - | ⟨two, others⟩⟩
  · cases (List.cons.inj same).1
  · cases (List.cons.inj same).2
  · obtain ⟨rfl, -⟩ := List.cons.inj (List.cons.inj same).2
    exact absent (List.mem_cons_of_mem _ List.mem_cons_self)

/-- **What a row name in front of a body makes of it**: a constraint, unless the first word is one for an
objective or a declaration. -/
theorem ofTokens_body {front body : List Located} {label : Option String}
    (labelled : front.map (·.token) = labelTokens label) (unlabelled : Unlabelled body) :
    Statement.ofTokens (front ++ body) = .constraint label body
      ∨ (∃ maximize, Statement.ofTokens (front ++ body) = .objective maximize body)
      ∨ label = none
        ∧ ∃ declared rest, Statement.ofTokens (front ++ body) = .declaration declared rest := by
  cases label with
  | some name =>
    obtain ⟨⟨first, line⟩, rest, rfl, here, there⟩ := List.map_eq_cons_iff.mp labelled
    obtain ⟨⟨second, place⟩, rest, rfl, here', there'⟩ := List.map_eq_cons_iff.mp there
    obtain rfl := List.map_eq_nil_iff.mp there'
    obtain rfl : first = .name name := here
    obtain rfl : second = .colon := here'
    cases sense : objectiveSense? name with
    | none =>
      left
      rw [List.cons_append, List.singleton_append, Statement.ofTokens, sense]
    | some maximize =>
      right
      left
      refine ⟨maximize, ?_⟩
      rw [List.cons_append, List.singleton_append, Statement.ofTokens, sense]
  | none =>
    obtain rfl := List.map_eq_nil_iff.mp labelled
    rw [List.nil_append]
    unfold Statement.ofTokens
    split
    next => exact absurd rfl (unlabelled _ _ _ _)
    next =>
      split
      next => exact .inr (.inr ⟨rfl, _, _, rfl⟩)
      next => exact .inr (.inr ⟨rfl, _, _, rfl⟩)
      next => exact .inl rfl
    next => exact .inl rfl

/-- **What adds a row is a constraint**, behind a row name or not. -/
theorem Reader.exists_constraint {reader after : Reader} {front body : List Located} {label : Option String}
    (labelled : front.map (·.token) = labelTokens label) (unlabelled : Unlabelled body)
    (some : body ≠ []) (accepted : reader.statement (front ++ body) = .ok after)
    (more : after.problem.rowCount = reader.problem.rowCount + 1) :
    ∃ line action, Action.ofConstraint line label body = .ok action ∧ action.AddsRow
      ∧ action.Distinct ∧ reader.act line action = .ok after := by
  obtain ⟨line, action, asks, done⟩ :=
    exists_action (List.append_ne_nil_of_right_ne_nil front some) accepted
  have adds := addsRow_of_rowCount done more
  have distinct := Statement.action_distinct asks
  rcases ofTokens_body labelled unlabelled with formed | ⟨maximize, formed⟩ | ⟨-, declared, names, formed⟩
  · rw [formed] at asks
    exact ⟨line, action, asks, adds, distinct, done⟩
  · rw [formed] at asks
    cases asks
    exact adds.elim
  · rw [formed] at asks
    cases asks
    exact adds.elim

/-! ### Both sides of a comparison -/

/-- Numbers up to `2 ^ 53` are finite. -/
theorem clamp_of_small {value : Float} (small : |valueOf value| ≤ 2 ^ 53) :
    clamp value = value := by
  have units : unitsOf 9007199254740992 < unitsOf infiniteFrom
      ∧ unitsOf (-infiniteFrom) < unitsOf (-9007199254740992) := by decide +kernel
  have large : valueOf 9007199254740992 = 2 ^ 53 := by
    rw [isWhole_large.value, Int.cast_pow, Int.cast_ofNat]
  obtain ⟨low, high⟩ := abs_le.mp small
  rw [← large, ← valueOf_neg, valueOf_le_valueOf_iff] at low
  rw [← large, valueOf_le_valueOf_iff] at high
  have notHigh : ¬ infiniteFrom ≤ value := fun above => by
    have := (le_iff.mp above).2.2
    omega
  have notLow : ¬ value ≤ -infiniteFrom := fun below => by
    have := (le_iff.mp below).2.2
    omega
  rw [clamp, if_neg notHigh, if_neg notLow]

/-- **A difference of expressions with the number on its right** stands for both of them. -/
theorem Expression.difference_means {first second : Expression} {left right : List Operand}
    (whole : first.Whole) (whole' : second.Whole) (gathers : Gathers left first.operands)
    (gathers' : Gathers right second.operands) (light : Light (left ++ right)) :
    WholeTerms (first.subtract second) ∧ IsInteger (second.constant - first.constant)
      ∧ |valueOf (second.constant - first.constant)| ≤ 2 ^ 53
      ∧ ∀ assignment, worth assignment ((first.subtract second).map Term.operand)
          - valueOf (second.constant - first.constant)
        = worth assignment left - worth assignment right := by
  have both := (gathers.append gathers').light light
  have terms : Light ((second.terms.map Term.operand).map Operand.opposite
      ++ first.terms.map Term.operand) := fun key => by
    have all := both key
    rw [Expression.operands, Expression.operands, load_append, load_cons, load_cons] at all
    rw [load_append, load_opposite]
    split_ifs at all
    · linarith [abs_nonneg (valueOf first.constant), abs_nonneg (valueOf second.constant)]
    · linarith
  have size : |valueOf second.constant - valueOf first.constant| ≤ 2 ^ 53 := by
    have all := both none
    rw [Expression.operands, Expression.operands, load_append, load_cons, load_cons, if_pos rfl,
      if_pos rfl] at all
    linarith [abs_sub (valueOf second.constant) (valueOf first.constant),
      load_nonneg none (first.terms.map Term.operand),
      load_nonneg none (second.terms.map Term.operand)]
  obtain ⟨integer, value⟩ := whole'.constant.sub whole.constant size
  obtain ⟨wholeTerms, difference⟩ := gathers_subtract whole.terms whole'.terms terms
  refine ⟨wholeTerms, integer, value ▸ size, fun assignment => ?_⟩
  rw [difference.worth, value, ← gathers.worth, ← gathers'.worth, Expression.operands,
    Expression.operands, worth_append, worth_opposite, worth_cons, worth_cons, Operand.worth,
    Operand.worth]
  show _ = valueOf first.constant * 1 + _ - (valueOf second.constant * 1 + _)
  ring

/-! ### The row of a comparison -/

/-- The action of a comparison that adds a row: the difference of the sides, which may have changed
places, and the number on its right. -/
theorem Action.exists_of_compare {line : Nat} {label : Option String} {left right : List Located}
    {relation : Relation} (left_ne_nil : left ≠ []) {action : Action}
    (asks : compare line label left relation right = .ok action) (adds : action.AddsRow) :
    ∃ first second : Expression,
      Expression.read line left = .ok first ∧ Expression.read line right = .ok second
      ∧ (action = .addRow label (first.subtract second) relation
          (clamp (second.constant - first.constant))
        ∨ action = .addRow label (second.subtract first) relation.flip
          (clamp (first.constant - second.constant))) := by
  have single {terms : List Term} {relation : Relation} {value : Float}
      (asks : single line label terms relation value = .ok action) :
      action = .addRow label terms relation (clamp value) := by
    unfold Action.single at asks
    split at asks
    · cases asks
    · cases asks
      exact adds.elim
    · exact (Except.ok.inj asks).symm
  have some : left.isEmpty = false := by rwa [List.isEmpty_eq_false_iff]
  unfold compare at asks
  rw [some] at asks
  split at asks
  · cases asks
  · obtain ⟨first, readFirst, asks⟩ := exists_of_bind_ok asks
    obtain ⟨second, readSecond, asks⟩ := exists_of_bind_ok asks
    refine ⟨first, second, readFirst, readSecond, ?_⟩
    split at asks
    · exact .inr (single asks)
    · exact .inl (single asks)

/-- **A comparison that is read as a row means what it says.** The numbers being integers that are
small enough for exact sums, the coefficients of the row are integers, and whatever values the variables
take, the two sides as they are written have the relation between them exactly if the activity of the
row lies between its limits. -/
theorem comparison_means {reader after : Reader} {tokens left right : List Located}
    {label : Option String} {relation : Relation} (sound : reader.Sound)
    (compares : Compares tokens label left relation right) (integers : Integers (left ++ right))
    (light : Light (operands false left ++ operands false right))
    (accepted : reader.statement tokens = .ok after)
    (stored : after.problem.rowCount = reader.problem.rowCount + 1) :
    (∀ column, IsInteger (after.problem.coefficient after.problem.rowCount column))
      ∧ ∀ assignment : String → ℚ,
        relation.Holds (worth assignment (operands false left))
            (worth assignment (operands false right))
          ↔ Admits (after.problem.rowInfo after.problem.rowCount).bounds
            (after.problem.activity (fun column => assignment (after.problem.columnName column))
              after.problem.rowCount) := by
  have stored_after := (sound.statement accepted).stored
  obtain ⟨front, place, labelled, rfl⟩ := compares.written
  obtain ⟨line, action, asks, adds, distinct, done⟩ := Reader.exists_constraint labelled
    (unlabelled_of_notMem compares.unlabelled)
    (List.append_ne_nil_of_left_ne_nil compares.left_ne_nil _) accepted stored
  rw [Action.ofConstraint, splitRelations_cut compares.left_plain,
    splitRelations_none compares.right_plain] at asks
  obtain ⟨first, second, readFirst, readSecond, which⟩ :=
    Action.exists_of_compare compares.left_ne_nil asks adds
  obtain ⟨whole, gathers⟩ := Expression.gathers_read
    (integers.mono (List.subset_append_left _ _)) light.of_append_left readFirst
  obtain ⟨whole', gathers'⟩ := Expression.gathers_read
    (integers.mono (List.subset_append_right _ _)) light.of_append_right readSecond
  rcases which with rfl | rfl
  · obtain ⟨terms, integer, small, means⟩ :=
      Expression.difference_means whole whole' gathers gathers' light
    rw [clamp_of_small small] at done
    have row := Reader.last_of_addRow sound distinct done
    refine ⟨row.isInteger_coefficient terms, fun assignment => ?_⟩
    rw [row.means stored_after integer.isFinite]
    exact Relation.holds_congr (means assignment).symm
  -- The sides have changed places, and the relation with them.
  · have turned := (Gathers.of_perm List.perm_append_comm).light light
    obtain ⟨terms, integer, small, means⟩ :=
      Expression.difference_means whole' whole gathers' gathers turned
    rw [clamp_of_small small] at done
    have row := Reader.last_of_addRow sound distinct done
    refine ⟨row.isInteger_coefficient terms, fun assignment => ?_⟩
    rw [row.means stored_after integer.isFinite, ← Relation.holds_flip]
    exact Relation.holds_congr (means assignment).symm

/-- The sides of the statement `c: 2 - x >= - - 3 x + 5 - x`. -/
def leftSide : List Located :=
  [⟨.number 2, 1⟩, ⟨.minus, 1⟩, ⟨.name "x", 1⟩]

def rightSide : List Located :=
  [⟨.minus, 1⟩, ⟨.minus, 1⟩, ⟨.number 3, 1⟩, ⟨.name "x", 1⟩, ⟨.plus, 1⟩, ⟨.number 5, 1⟩,
    ⟨.minus, 1⟩, ⟨.name "x", 1⟩]

def mixedComparison : List Located :=
  [⟨.name "c", 1⟩, ⟨.colon, 1⟩] ++ (leftSide ++ ⟨.relation .atLeast, 1⟩ :: rightSide)

theorem compares_mixed : Compares mixedComparison (some "c") leftSide .atLeast rightSide where
  written := ⟨_, 1, rfl, rfl⟩
  left_ne_nil := List.cons_ne_nil _ _
  right_ne_nil := List.cons_ne_nil _ _
  left_plain := fun relation member => by simp [leftSide] at member
  right_plain := fun relation member => by simp [rightSide] at member
  unlabelled := fun member => by simp [leftSide] at member

theorem comparison_means_mixed : ∃ after : Reader,
    ({} : Reader).statement mixedComparison = .ok after ∧ after.problem.rowCount = 1
      ∧ ∀ assignment : String → ℚ, 2 * assignment "x" + 5 ≤ 2 - assignment "x"
          ↔ Admits (after.problem.rowInfo 1).bounds
            (after.problem.activity (fun column => assignment (after.problem.columnName column))
              1) := by
  have two : IsWhole 2 2 := by decide +kernel
  have three : IsWhole 3 3 := by decide +kernel
  have five : IsWhole 5 5 := by decide +kernel
  have left : operands false leftSide = [⟨none, 2⟩, ⟨some "x", -1⟩] := by
    simp [leftSide, operands, turned, two.value]
  have right : operands false rightSide = [⟨some "x", 3⟩, ⟨none, 5⟩, ⟨some "x", -1⟩] := by
    simp [rightSide, operands, turned, three.value, five.value]
  have integers : Integers (leftSide ++ rightSide) := by
    intro value line member
    simp only [leftSide, rightSide, List.cons_append, List.nil_append, List.mem_cons,
      Located.mk.injEq, Token.number.injEq, reduceCtorEq, false_and, or_false, false_or,
      List.not_mem_nil] at member
    rcases member with ⟨rfl, -⟩ | ⟨rfl, -⟩ | ⟨rfl, -⟩
    · exact ⟨2, two⟩
    · exact ⟨3, three⟩
    · exact ⟨5, five⟩
  have light : Light (operands false leftSide ++ operands false rightSide) := by
    intro key
    rw [left, right]
    simp only [load, List.cons_append, List.nil_append, List.map_cons, List.map_nil, List.sum_cons,
      List.sum_nil]
    split_ifs <;> norm_num
  have count : (({} : Reader).statement mixedComparison).toOption.map (·.problem.rowCount)
      = some 1 := by decide +kernel
  obtain ⟨after, accepted, one⟩ := exists_ok_of_view count
  have means := (comparison_means Reader.sound_empty compares_mixed integers light accepted one).2
  refine ⟨after, accepted, one, fun assignment => ?_⟩
  have here := means assignment
  rw [one, left, right] at here
  rw [← here]
  simp only [worth, Operand.worth, Relation.Holds, List.map_cons, List.map_nil, List.sum_cons,
    List.sum_nil, Option.elim_none, Option.elim_some]
  constructor <;> intro <;> linarith

end LinearProgram.Lp
