/-
**The text of a number, read again.**

The text of a number is a decimal behind at most one minus sign: digits, maybe a point with more
digits, maybe an exponent. Whatever follows it, a reader that takes the longest number at the front
takes all of it, if what follows cannot stand in a name.

* `IsDecimal`: the shape of a decimal. `isDecimal_layout`: rounded digits are written in it.
* `Ends`: what may follow. `spanNumber_append`: how far a number reaches.
* `exists_decimal`: a decimal has a value.
* **`numberText_eq`**: the text of every number is a decimal behind at most one minus sign.
* `written`: the number that is read where a number was written.
-/

import LinearProgram.Lp.Number
import LinearProgram.Lp.Token.Scan
import LinearProgram.Proofs.Decimal.Arithmetic

namespace LinearProgram.Lp

open Decimal

/-- All characters are digits. -/
def AllDigits (text : List Char) : Prop :=
  ∀ character ∈ text, character.isDigit = true

/-- **The shape of a decimal**: digits, then maybe a point and digits, then maybe an exponent. -/
structure IsDecimal (text : List Char) : Prop where
  split : ∃ whole fraction exponent, text = whole ++ fraction ++ exponent
    ∧ whole ≠ [] ∧ AllDigits whole
    ∧ (fraction = [] ∨ ∃ digits, fraction = '.' :: digits ∧ AllDigits digits)
    ∧ (exponent = [] ∨ ∃ sign digits, exponent = 'e' :: sign :: digits
      ∧ (sign = '+' ∨ sign = '-') ∧ digits ≠ [] ∧ AllDigits digits)

/-- What follows cannot stand in a name, and not in a number either. -/
def Ends (rest : List Char) : Prop :=
  ∀ character ∈ rest.head?, isNameCharacter character = false

/-! ### Digits -/

theorem allDigits_digits (number : Nat) : AllDigits (digits number) :=
  fun _ member => Nat.isDigit_of_mem_toDigits (by decide) (by decide) member

theorem AllDigits.append {first second : List Char} (left : AllDigits first)
    (right : AllDigits second) : AllDigits (first ++ second) :=
  List.forall_mem_append.mpr ⟨left, right⟩

theorem AllDigits.sublist {first second : List Char} (all : AllDigits second)
    (sublist : first.Sublist second) : AllDigits first :=
  fun character member => all character (sublist.mem member)

theorem allDigits_zeros (count : Nat) : AllDigits (List.replicate count '0') :=
  fun _ member => (List.eq_of_mem_replicate member).symm ▸ rfl

theorem dropTrailingZeros_sublist (text : List Char) : (dropTrailingZeros text).Sublist text := by
  have sublist := (List.dropWhile_sublist (· == '0') : (text.reverse.dropWhile _).Sublist _).reverse
  rw [List.reverse_reverse] at sublist
  exact sublist

/-! ### Rounded digits in their layout -/

theorem withFraction_split (whole : List Char) {fraction : List Char}
    (digits : AllDigits fraction) :
    ∃ tail, withFraction whole fraction = whole ++ tail
      ∧ (tail = [] ∨ ∃ digits, tail = '.' :: digits ∧ AllDigits digits) := by
  unfold withFraction
  split
  next => exact ⟨[], (List.append_nil whole).symm, .inl rfl⟩
  next kept _ =>
    exact ⟨'.' :: dropTrailingZeros fraction, rfl,
      .inr ⟨_, rfl, digits.sublist (dropTrailingZeros_sublist fraction)⟩⟩

theorem isDecimal_withFraction {whole fraction : List Char} (some : whole ≠ [])
    (digits : AllDigits whole) (digits' : AllDigits fraction) :
    IsDecimal (withFraction whole fraction) := by
  obtain ⟨tail, same, shape⟩ := withFraction_split whole digits'
  exact ⟨whole, tail, [], by rw [same, List.append_nil], some, digits, shape, .inl rfl⟩

theorem isDecimal_plain (number : Rounded) : IsDecimal (plain number) := by
  have all := allDigits_digits number.digits
  have some : digits number.digits ≠ [] := Nat.toDigits_ne_nil
  unfold plain
  dsimp only
  split
  · exact isDecimal_withFraction (List.cons_ne_nil _ _) (allDigits_zeros 1)
      ((allDigits_zeros _).append all)
  · refine isDecimal_withFraction ?_ (all.sublist (List.take_sublist ..))
      (all.sublist (List.drop_sublist ..))
    cases significant : digits number.digits with
    | nil => exact absurd significant some
    | cons first rest => exact List.cons_ne_nil _ _

theorem isDecimal_scientific (number : Rounded) : IsDecimal (scientific number) := by
  have all := allDigits_digits number.digits
  have some : digits number.digits ≠ [] := Nat.toDigits_ne_nil
  have size : digits number.exponent.natAbs ≠ [] := Nat.toDigits_ne_nil
  unfold scientific
  dsimp only
  obtain ⟨tail, same, shape⟩ := withFraction_split ((digits number.digits).take 1)
    (all.sublist (List.drop_sublist 1 _))
  rw [same]
  refine ⟨_, tail, _, rfl, ?_, all.sublist (List.take_sublist ..), shape, .inr ⟨_, _, rfl, ?_, ?_,
    (allDigits_zeros _).append (allDigits_digits _)⟩⟩
  · cases significant : digits number.digits with
    | nil => exact absurd significant some
    | cons first rest => exact List.cons_ne_nil _ _
  · split
    · exact .inr rfl
    · exact .inl rfl
  · exact List.append_ne_nil_of_right_ne_nil _ size

theorem isDecimal_layout (number : Rounded) : IsDecimal (layout number) := by
  unfold layout
  split
  · exact isDecimal_plain number
  · exact isDecimal_scientific number

/-! ### How far a number reaches -/

/-- A run of characters stops in front of one that does not belong to it. -/
theorem span_append {belongs : Char → Bool} {front rest : List Char}
    (all : ∀ character ∈ front, belongs character = true)
    (stop : ∀ character ∈ rest.head?, belongs character = false) :
    (front ++ rest).takeWhile belongs = front ∧ (front ++ rest).dropWhile belongs = rest := by
  rw [List.takeWhile_append_of_pos all, List.dropWhile_append_of_pos all]
  cases rest with
  | nil => exact ⟨List.append_nil front, rfl⟩
  | cons first tail =>
    have stop : ¬ belongs first = true := Bool.not_eq_true _ ▸ stop first rfl
    rw [List.takeWhile_cons_of_neg stop, List.dropWhile_cons_of_neg stop, List.append_nil]
    exact ⟨rfl, rfl⟩

theorem spanDigits_append {digits rest : List Char} (all : AllDigits digits)
    (stop : ∀ character ∈ rest.head?, character.isDigit = false) :
    spanDigits (digits ++ rest) = (digits, rest) := by
  obtain ⟨front, back⟩ := span_append all stop
  rw [spanDigits, front, back]

theorem not_digit_of_ends {rest : List Char} (ends : Ends rest) :
    ∀ character ∈ rest.head?, character.isDigit = false := by
  intro character member
  have stop := ends character member
  rw [isNameCharacter, Bool.or_eq_false_iff, Bool.or_eq_false_iff] at stop
  exact stop.1.2

theorem spanExponent_of_ends {rest : List Char} (ends : Ends rest) :
    spanExponent rest = ([], rest) := by
  cases rest with
  | nil => rfl
  | cons mark body =>
    have stop := ends mark rfl
    have notMark : ¬ (mark == 'e' || mark == 'E') = true := by
      rw [Bool.or_eq_true, beq_iff_eq, beq_iff_eq]
      rintro (rfl | rfl) <;> exact absurd stop (by decide)
    unfold spanExponent
    exact if_neg notMark

/-- An exponent is taken whole. -/
theorem spanExponent_append {sign : Char} {digits rest : List Char}
    (isSign : sign = '+' ∨ sign = '-') (some : digits ≠ []) (all : AllDigits digits)
    (ends : Ends rest) :
    spanExponent ('e' :: sign :: digits ++ rest) = ('e' :: sign :: digits, rest) := by
  have span := spanDigits_append all (not_digit_of_ends ends)
  have nonempty : digits.isEmpty = false := List.isEmpty_eq_false_iff.mpr some
  rcases isSign with rfl | rfl
  · simp [spanExponent, span, nonempty]
  · simp [spanExponent, span, nonempty]

/-- **How far a number reaches**: a decimal is taken whole if what follows ends it. -/
theorem IsDecimal.spanNumber_append {text rest : List Char} (decimal : IsDecimal text)
    (ends : Ends rest) : spanNumber (text ++ rest) = (text, rest) := by
  obtain ⟨whole, fraction, exponent, rfl, some, digits, point, power⟩ := decimal.split
  have mantissa : ∀ character ∈ whole ++ fraction, isMantissa character = true := by
    intro character member
    rw [isMantissa, Bool.or_eq_true, beq_iff_eq]
    rcases List.mem_append.mp member with member | member
    · exact .inl (digits character member)
    · rcases point with rfl | ⟨behind, rfl, all⟩
      · exact absurd member List.not_mem_nil
      · rcases List.mem_cons.mp member with rfl | member
        · exact .inr rfl
        · exact .inl (all character member)
  have stop : ∀ character ∈ (exponent ++ rest).head?, isMantissa character = false := by
    rcases power with rfl | ⟨sign, behind, rfl, -⟩
    · intro character member
      have stop := ends character member
      rw [isNameCharacter, Bool.or_eq_false_iff, Bool.or_eq_false_iff] at stop
      rw [isMantissa, stop.1.2, stop.2]
      rfl
    · intro character member
      obtain rfl := Option.some.inj member
      rfl
  obtain ⟨front, back⟩ := span_append mantissa stop
  have tail : spanExponent (exponent ++ rest) = (exponent, rest) := by
    rcases power with rfl | ⟨sign, behind, rfl, isSign, some, all⟩
    · exact spanExponent_of_ends ends
    · exact spanExponent_append isSign some all ends
  rw [spanNumber, List.append_assoc _ exponent rest, front, back, tail]

theorem IsDecimal.exists_cons {text : List Char} (decimal : IsDecimal text) :
    ∃ first rest, text = first :: rest ∧ first.isDigit = true := by
  obtain ⟨whole, fraction, exponent, rfl, some, digits, -⟩ := decimal.split
  cases whole with
  | nil => exact absurd rfl some
  | cons first rest => exact ⟨first, _, rfl, digits first List.mem_cons_self⟩

theorem IsDecimal.startsNumber {text : List Char} (decimal : IsDecimal text) (rest : List Char) :
    startsNumber (text ++ rest) = true := by
  obtain ⟨first, tail, rfl, digit⟩ := decimal.exists_cons
  rw [List.cons_append]
  unfold Lp.startsNumber
  split
  next same =>
    obtain rfl := (List.cons.inj same).1
    exact absurd digit (by decide)
  next same =>
    obtain rfl := (List.cons.inj same).1
    exact digit
  next same => cases same

/-! ### The value of a decimal -/

theorem exists_exponent {sign : Char} {digits : List Char} (isSign : sign = '+' ∨ sign = '-')
    (some : digits ≠ []) (all : AllDigits digits) :
    ∃ power, exponent? ('e' :: sign :: digits) = Option.some power := by
  have accepted : ¬ (digits.isEmpty || !digits.all Char.isDigit) = true := by
    rw [List.isEmpty_eq_false_iff.mpr some, List.all_eq_true.mpr all]
    decide
  rcases isSign with rfl | rfl
  · exact ⟨_, if_neg accepted⟩
  · exact ⟨_, if_neg accepted⟩

/-- **A decimal has a value.** -/
theorem IsDecimal.exists_decimal {text : List Char} (decimal : IsDecimal text) :
    ∃ value, decimal? text = some value := by
  obtain ⟨whole, fraction, exponent, rfl, some, digits, point, power⟩ := decimal.split
  have nonempty : whole.isEmpty = false := List.isEmpty_eq_false_iff.mpr some
  have stop : ∀ character ∈ exponent.head?, character.isDigit = false := by
    rcases power with rfl | ⟨sign, behind, rfl, -⟩
    · exact fun _ => nofun
    · intro character member
      obtain rfl := Option.some.inj member
      rfl
  have front : spanDigits (whole ++ fraction ++ exponent) = (whole, fraction ++ exponent) := by
    rw [List.append_assoc]
    refine spanDigits_append digits ?_
    rcases point with rfl | ⟨behind, rfl, -⟩
    · exact stop
    · intro character member
      obtain rfl := Option.some.inj member
      rfl
  have parsed : ∃ value, exponent? exponent = Option.some value := by
    rcases power with rfl | ⟨sign, behind, rfl, isSign, some, all⟩
    · exact ⟨0, rfl⟩
    · exact exists_exponent isSign some all
  obtain ⟨value, parsed⟩ := parsed
  unfold decimal?
  rw [front]
  rcases point with rfl | ⟨behind, rfl, all⟩
  · rcases power with rfl | ⟨sign, behind, rfl, -⟩
    · simp [nonempty, parsed]
    · simp [nonempty, parsed]
  · simp [nonempty, parsed, spanDigits_append all stop]

theorem toLower_of_isDigit {character : Char} (digit : character.isDigit = true) :
    character.toLower = character := by
  rw [Char.isDigit, Bool.and_eq_true, decide_eq_true_eq, decide_eq_true_eq] at digit
  refine dif_neg fun upper => ?_
  exact absurd (UInt32.le_trans upper.1 digit.2) (by decide)

/-- A decimal begins with a digit, so it is none of the words for numbers and has no sign. -/
theorem IsDecimal.magnitude?_eq {text : List Char} (decimal : IsDecimal text) :
    magnitude? text = decimal? text := by
  obtain ⟨first, rest, rfl, digit⟩ := decimal.exists_cons
  have lower := toLower_of_isDigit digit
  have different : ∀ word : String, word.toList.head? ≠ some first →
      String.ofList ((first :: rest).map Char.toLower) ≠ word := by
    rintro word differs rfl
    rw [String.toList_ofList, List.map_cons, lower] at differs
    exact differs rfl
  have notWord : ∀ letter : Char, letter.isDigit = false → some letter ≠ some first := by
    rintro letter notDigit same
    rw [Option.some.inj same, digit] at notDigit
    cases notDigit
  unfold magnitude?
  split
  next same => exact absurd same (different _ (notWord 'i' rfl))
  next same => exact absurd same (different _ (notWord 'i' rfl))
  next same => exact absurd same (different _ (notWord 'n' rfl))
  next => rfl

theorem IsDecimal.signed?_eq {text : List Char} (decimal : IsDecimal text) :
    signed? text = decimal? text := by
  rw [← decimal.magnitude?_eq]
  obtain ⟨first, rest, rfl, digit⟩ := decimal.exists_cons
  unfold signed?
  split
  next same =>
    obtain rfl := (List.cons.inj same).1
    exact absurd digit (by decide)
  next same =>
    obtain rfl := (List.cons.inj same).1
    exact absurd digit (by decide)
  next => rfl

/-! ### The text of a number -/

/-- A sign in front of a decimal. -/
def signText (negative : Bool) : List Char :=
  if negative then ['-'] else []

theorem isNaN_of_shape {value : Float} (shape : Shape.of value = .notANumber) :
    value.isNaN = true := by
  unfold Shape.of at shape
  split at shape
  next whole =>
    rw [isNaN_eq, show parts value = .notANumber from whole]
    rfl
  all_goals cases shape

/-- A number with a minus sign in front is below zero. -/
theorem not_nonneg_of_shape {value : Float}
    (shape : Shape.of value = .infinite true
      ∨ ∃ magnitude, Shape.of value = .finite true magnitude) :
    ¬ 0 ≤ value := by
  intro notNegative
  obtain ⟨-, -, le⟩ := le_iff.mp notNegative
  have le : 0 ≤ units (parts value) := le
  unfold Shape.of at shape
  split at shape
  next => rcases shape with shape | ⟨magnitude, shape⟩ <;> cases shape
  next sign whole =>
    rw [show parts value = .infinity sign from whole] at le
    cases sign with
    | negative => exact absurd le (Int.not_le.mpr (Int.neg_neg_of_pos
        (Int.natCast_pos.mpr (beyond_pos 2100))))
    | positive => rcases shape with shape | ⟨magnitude, shape⟩ <;> cases shape
  next => rcases shape with shape | ⟨magnitude, shape⟩ <;> cases shape
  next sign mantissa exponent positive whole =>
    rw [show parts value = .finite sign mantissa exponent positive from whole] at le
    cases sign with
    | negative => exact absurd le (Int.not_le.mpr (units_neg positive exponent))
    | positive => rcases shape with shape | ⟨magnitude, shape⟩ <;> cases shape

theorem isDecimal_zero : IsDecimal ['0'] :=
  isDecimal_withFraction (List.cons_ne_nil _ _) (allDigits_zeros 1)
    (show AllDigits [] from nofun)

theorem isDecimal_infinite : IsDecimal ['1', 'e', '+', '3', '0'] := by
  refine ⟨['1'], [], ['e', '+', '3', '0'], rfl, List.cons_ne_nil _ _, ?_, .inl rfl,
    .inr ⟨'+', ['3', '0'], rfl, .inl rfl, List.cons_ne_nil _ _, ?_⟩⟩
  · exact List.forall_mem_singleton.mpr rfl
  · exact List.forall_mem_cons.mpr ⟨rfl, List.forall_mem_singleton.mpr rfl⟩

/-- **The text of a number** is a decimal behind at most one minus sign, and behind none if it is
not below zero. -/
theorem numberText_eq {value : Float} (number : value.isNaN = false) :
    ∃ negative text, (numberText value).toList = signText negative ++ text ∧ IsDecimal text
      ∧ (0 ≤ value → negative = false) := by
  unfold numberText
  cases shape : Shape.of value with
  | notANumber =>
    rw [isNaN_of_shape shape] at number
    cases number
  | infinite negative =>
    refine ⟨negative, ['1', 'e', '+', '3', '0'], ?_, isDecimal_infinite, fun notNegative => ?_⟩
    · cases negative <;> rfl
    · cases negative with
      | false => rfl
      | true => exact absurd notNegative (not_nonneg_of_shape (.inl shape))
  | zero negative =>
    refine ⟨false, ['0'], ?_, isDecimal_zero, fun _ => rfl⟩
    cases negative <;> rfl
  | finite negative magnitude =>
    refine ⟨negative, layout (magnitude.quotient.rounded writtenDigits), ?_, isDecimal_layout _,
      fun notNegative => ?_⟩
    · dsimp only
      rw [String.toList_ofList]
      cases negative <;> rfl
    · cases negative with
      | false => rfl
      | true => exact absurd notNegative (not_nonneg_of_shape (.inr ⟨magnitude, shape⟩))

/-- **The number that is read where a number was written.** -/
def written (value : Float) : Float :=
  (signed? (numberText value).toList).getD 0

/-- The text of a number has a value. -/
theorem exists_written {value : Float} (number : value.isNaN = false) :
    ∃ negative text magnitude, (numberText value).toList = signText negative ++ text
      ∧ IsDecimal text ∧ decimal? text = some magnitude
      ∧ signed? (numberText value).toList = some (withSign negative magnitude)
      ∧ (0 ≤ value → negative = false) := by
  obtain ⟨negative, text, same, decimal, positive⟩ := numberText_eq number
  obtain ⟨magnitude, value⟩ := decimal.exists_decimal
  refine ⟨negative, text, magnitude, same, decimal, value, ?_, positive⟩
  rw [same]
  cases negative with
  | false =>
    refine (decimal.signed?_eq).trans ?_
    rw [value]
    rfl
  | true =>
    show (magnitude? text).map (- ·) = _
    rw [decimal.magnitude?_eq, value]
    rfl

end LinearProgram.Lp
