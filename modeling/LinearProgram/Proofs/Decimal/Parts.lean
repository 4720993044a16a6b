/-
**The parts of a double.**

A double is bits, and every operation takes them apart first: into a sign, a mantissa and an
exponent, if the double is a finite number other than zero. What the bits give is canonical: the
mantissa has 53 digits, or the exponent is the least one.

* `parts`, `ofParts`: taking a double apart and putting it together.
* `Canonical`: what holds of the parts of every double, by `canonical_parts`.
* `ofParts_parts`, `parts_ofParts`: the two are inverse to each other on canonical parts.
* `sign?_parts_ofParts`: nothing changes its sign when it is put together.
-/

import Mathlib
import LinearProgram.Decimal.Value

namespace LinearProgram.Decimal

open Float.Model UnpackedFloat

/-- The parts of a double. -/
def parts (value : Float) : UnpackedFloat :=
  value.toModel.unpack

/-- The double with the parts. -/
def ofParts (parts : UnpackedFloat) : Float :=
  .ofModel (Float.Model.pack parts)

/-- **What holds of the parts of a double**: the mantissa of a finite number has 53 digits, or fewer
with the least exponent. -/
def Canonical : UnpackedFloat → Prop
  | .finite _ mantissa exponent _ => mantissa < 2 ^ 53 ∧ -1074 ≤ exponent ∧ exponent ≤ 971
      ∧ (2 ^ 52 ≤ mantissa ∨ exponent = -1074)
  | _ => True

/-! ### Taking apart and putting together -/

/-- The implicit bit of a normal number. -/
theorem toNat_implicit (mantissa : BitVec 52) :
    (1#1 ++ mantissa).toNat = 2 ^ 52 + mantissa.toNat := by
  have bound := mantissa.isLt
  rw [BitVec.toNat_append, ← Nat.shiftLeft_add_eq_or_of_lt bound, Nat.shiftLeft_eq]
  rfl

theorem log2_normal {mantissa : Nat} (low : 2 ^ 52 ≤ mantissa) (high : mantissa < 2 ^ 53) :
    mantissa.log2 = 52 := by
  have positive : mantissa ≠ 0 := by omega
  have atLeast : 52 ≤ mantissa.log2 := (Nat.le_log2 positive).mpr low
  have below : mantissa.log2 < 53 := (Nat.log2_lt positive).mpr high
  omega

/-- The bits of a normal number. -/
theorem pack_normal {sign : Sign} {mantissa : Nat} {exponent : Int} (positive : 0 < mantissa)
    (low : 2 ^ 52 ≤ mantissa) (high : mantissa < 2 ^ 53) (least : -1074 ≤ exponent)
    (most : exponent ≤ 971) :
    UnpackedFloat.pack .binary64 (.finite sign mantissa exponent positive)
      = packComponents .binary64 sign (BitVec.ofNat 11 (exponent + 1075).toNat)
        (BitVec.ofNat 52 mantissa) := by
  have biased : (exponent + Format.binary64.exponentBias
      + Format.binary64.mantissaBitsWithoutImplicit).toNat = (exponent + 1075).toNat :=
    congrArg Int.toNat (Int.add_assoc exponent 1023 52)
  have small : ¬ 2 ^ 11 ≤ (exponent + 1075).toNat + 1 := by omega
  unfold UnpackedFloat.pack
  dsimp only
  rw [log2_normal low high, biased, if_neg small]
  exact if_pos rfl

/-- The bits of a subnormal number. -/
theorem pack_subnormal {sign : Sign} {mantissa : Nat} {exponent : Int} (positive : 0 < mantissa)
    (high : mantissa < 2 ^ 52) (least : exponent = -1074) :
    UnpackedFloat.pack .binary64 (.finite sign mantissa exponent positive)
      = packComponents .binary64 sign 0#11 (BitVec.ofNat 52 mantissa) := by
  subst least
  have short : mantissa.log2 < 52 := (Nat.log2_lt (Nat.ne_of_gt positive)).mpr high
  have different : ¬ mantissa.log2 + 1 = 53 := by omega
  unfold UnpackedFloat.pack
  dsimp only
  rw [if_neg (by decide)]
  exact if_neg different

theorem canonical_unpack (bits : BitVec Format.binary64.numBits) :
    Canonical (UnpackedFloat.unpack .binary64 bits) := by
  have mantissaBound : (unpackMantissa bits).toNat < 2 ^ 52 := (unpackMantissa bits).isLt
  have exponentBound : (unpackExponent bits).toNat < 2 ^ 11 := (unpackExponent bits).isLt
  have bias : ((Format.binary64.exponentBias : Nat) : Int)
      + (Format.binary64.mantissaBitsWithoutImplicit : Nat) = 1075 := rfl
  unfold UnpackedFloat.unpack
  dsimp only
  rw [bias]
  split
  · split
    · trivial
    · trivial
  next notAll =>
    split
    next none =>
      split
      · trivial
      · have zero : (unpackExponent bits).toNat = 0 := by rw [none]; rfl
        show _ ∧ _ ∧ _ ∧ _
        omega
    next some =>
      have notMost : (unpackExponent bits).toNat ≠ 2 ^ 11 - 1 := fun most =>
        notAll (BitVec.eq_of_toNat_eq most)
      have notZero : (unpackExponent bits).toNat ≠ 0 := fun zero =>
        some (BitVec.eq_of_toNat_eq zero)
      have mantissa : (1#1 ++ unpackMantissa bits).toNat = 2 ^ 52 + (unpackMantissa bits).toNat :=
        toNat_implicit (unpackMantissa bits)
      show _ ∧ _ ∧ _ ∧ _
      omega

theorem finite_congr {sign : Sign} {first second : Nat} {before after : Int}
    {firstPositive : 0 < first} {secondPositive : 0 < second} (mantissa : first = second)
    (exponent : before = after) : UnpackedFloat.finite sign first before firstPositive
      = .finite sign second after secondPositive := by
  subst mantissa exponent
  rfl

/-- What the fields of a normal number give. -/
theorem unpack_normal (sign : Sign) {exponent : BitVec 11} (mantissa : BitVec 52)
    (notAll : exponent ≠ -1#11) (notNone : exponent ≠ 0#11) :
    UnpackedFloat.unpack .binary64 (packComponents .binary64 sign exponent mantissa)
      = .finite sign (1#1 ++ mantissa).toNat (exponent.toNat - 1075)
        (by rw [toNat_implicit]; omega) := by
  unfold UnpackedFloat.unpack
  dsimp only
  rw [unpackExponent_packComponents, if_neg notAll, if_neg notNone, unpackSign_packComponents,
    Sign.ofBitVec_toBitVec]
  refine finite_congr ?_ rfl
  rw [unpackMantissa_packComponents]

/-- What the fields of a subnormal number give. -/
theorem unpack_subnormal (sign : Sign) {mantissa : BitVec 52} (positive : 0 < mantissa.toNat) :
    UnpackedFloat.unpack .binary64 (packComponents .binary64 sign 0#11 mantissa)
      = .finite sign mantissa.toNat (-1074) positive := by
  have notZero : unpackMantissa (packComponents .binary64 sign 0#11 mantissa) ≠ 0#52 := by
    rw [unpackMantissa_packComponents]
    rintro rfl
    exact Nat.lt_irrefl 0 positive
  unfold UnpackedFloat.unpack
  dsimp only
  rw [unpackExponent_packComponents, if_neg (by decide), if_pos rfl, dif_neg notZero,
    unpackSign_packComponents, Sign.ofBitVec_toBitVec]
  refine finite_congr ?_ (by decide)
  rw [unpackMantissa_packComponents]

/-- Canonical parts come back from the bits. -/
theorem unpack_pack {parts : UnpackedFloat} (canonical : Canonical parts) :
    UnpackedFloat.unpack .binary64 (UnpackedFloat.pack .binary64 parts) = parts := by
  have bias : ((Format.binary64.exponentBias : Nat) : Int)
      + (Format.binary64.mantissaBitsWithoutImplicit : Nat) = 1075 := rfl
  cases parts with
  | notANumber => rfl
  | infinity sign => cases sign <;> rfl
  | zero sign => cases sign <;> rfl
  | finite sign mantissa exponent positive =>
    obtain ⟨high, least, most, short⟩ := canonical
    by_cases low : 2 ^ 52 ≤ mantissa
    · have biased : (BitVec.ofNat 11 (exponent + 1075).toNat).toNat = (exponent + 1075).toNat :=
        Nat.mod_eq_of_lt (by omega)
      have notAll : BitVec.ofNat 11 (exponent + 1075).toNat ≠ -1#11 := by
        intro all
        have same := biased.symm.trans (congrArg BitVec.toNat all)
        rw [show (-1#11).toNat = 2047 from rfl] at same
        omega
      have notNone : BitVec.ofNat 11 (exponent + 1075).toNat ≠ 0#11 := by
        intro none
        have same := biased.symm.trans (congrArg BitVec.toNat none)
        rw [show (0#11).toNat = 0 from rfl] at same
        omega
      rw [pack_normal positive low high least most, unpack_normal sign _ notAll notNone]
      refine finite_congr ?_ ?_
      · rw [toNat_implicit, BitVec.toNat_ofNat]
        omega
      · omega
    · obtain rfl : exponent = -1074 := short.resolve_left low
      have kept : (BitVec.ofNat 52 mantissa).toNat = mantissa := Nat.mod_eq_of_lt (by omega)
      rw [pack_subnormal positive (Nat.lt_of_not_le low) rfl, unpack_subnormal sign (by omega)]
      exact finite_congr kept rfl

/-! ### Signs -/

/-- The sign of what is a number. -/
def sign? : UnpackedFloat → Option Sign
  | .notANumber => none
  | .infinity sign | .zero sign | .finite sign .. => some sign

theorem sign?_unpack_components (sign : Sign) (exponent : BitVec 11) (mantissa : BitVec 52)
    (number : exponent = -1#11 → mantissa = 0#52) :
    sign? (UnpackedFloat.unpack .binary64 (packComponents .binary64 sign exponent mantissa))
      = some sign := by
  unfold UnpackedFloat.unpack
  dsimp only
  rw [unpackExponent_packComponents, unpackSign_packComponents, Sign.ofBitVec_toBitVec]
  split
  next all =>
    rw [unpackMantissa_packComponents, if_pos (number all)]
    rfl
  next =>
    split
    · split <;> rfl
    · rfl

/-- Nothing changes its sign on the way through the bits. -/
theorem sign?_unpack_pack (parts : UnpackedFloat) :
    sign? (UnpackedFloat.unpack .binary64 (UnpackedFloat.pack .binary64 parts))
      = sign? parts := by
  cases parts with
  | notANumber => rfl
  | infinity sign => cases sign <;> rfl
  | zero sign => cases sign <;> rfl
  | finite sign mantissa exponent positive =>
    unfold UnpackedFloat.pack
    dsimp only
    split
    · exact sign?_unpack_components sign _ _ fun _ => rfl
    next small =>
      split
      · refine sign?_unpack_components sign _ _ fun all => ?_
        have same := congrArg BitVec.toNat all
        rw [BitVec.toNat_ofNat, show (-1#11).toNat = 2 ^ 11 - 1 from rfl] at same
        have small : ¬ 2 ^ 11 ≤ _ := small
        omega
      · exact sign?_unpack_components sign _ _ fun all => absurd all (by decide)

/-! ### Doubles -/

variable (value : Float)

theorem ofParts_parts : ofParts (parts value) = value := by
  obtain ⟨bits, valid⟩ := value
  have same : UnpackedFloat.pack .binary64 (UnpackedFloat.unpack .binary64 bits.toBitVec)
    = bits.toBitVec := pack_unpack_of_valid valid
  simp only [ofParts, parts, Float.Model.pack, Float.Model.unpack, same]

theorem parts_ofParts {given : UnpackedFloat} (canonical : Canonical given) :
    parts (ofParts given) = given :=
  unpack_pack canonical

theorem sign?_parts_ofParts (given : UnpackedFloat) : sign? (parts (ofParts given)) = sign? given :=
  sign?_unpack_pack given

theorem canonical_parts : Canonical (parts value) :=
  canonical_unpack _

/-- Doubles with the same parts are the same. -/
theorem eq_of_parts {first second : Float} (same : parts first = parts second) :
    first = second := by
  rw [← ofParts_parts first, same, ofParts_parts]

end LinearProgram.Decimal
