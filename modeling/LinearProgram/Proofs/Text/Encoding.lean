/-
**The bytes of a text are read as the text.**

* `toList_toUTF8`: the bytes of a text are those of its characters, one after the other.
* `firstCharacter?_utf8EncodeChar`: the bytes of a character are read as the character.
* **`decode_toUTF8`**: so it is for a text.
-/

import Mathlib.Tactic.SplitIfs
import LinearProgram.Text.Utf8

namespace LinearProgram.Text

/-! ### Bytes -/

theorem toList_loop (bytes : ByteArray) (place : Nat) (read : List UInt8) :
    ByteArray.toList.loop bytes place read = read.reverse ++ bytes.data.toList.drop place := by
  have size : bytes.data.toList.length = bytes.size := rfl
  fun_induction ByteArray.toList.loop bytes place read with
  | case1 place read more hyp =>
    have there : place < bytes.data.toList.length := more
    have byte : bytes.get! place = bytes.data.toList[place] := by
      show bytes.data[place]! = _
      rw [getElem!_pos bytes.data place more]
      rfl
    rw [hyp, List.drop_eq_getElem_cons there, byte, List.reverse_cons, List.append_assoc]
    rfl
  | case2 place read done =>
    rw [List.drop_eq_nil_of_le (by omega), List.append_nil]

/-- **The bytes of a text are those of its characters.** -/
theorem toList_toUTF8 (text : String) :
    text.toUTF8.toList = text.toList.flatMap String.utf8EncodeChar := by
  have bytes : text.toUTF8 = (text.toList.flatMap String.utf8EncodeChar).toByteArray :=
    String.utf8Encode_toList.symm
  rw [bytes, ByteArray.toList, toList_loop]
  simp

/-! ### Characters -/

theorem toNat_ofNat_byte {number : Nat} (small : number < 0x100) :
    (UInt8.ofNat number).toNat = number :=
  UInt8.toNat_ofNat_of_lt' small

section Bytes

variable (number : Nat)

/-- The last six bits of a number in a byte that continues a character. -/
theorem toNat_tail : (UInt8.ofNat (number % 64 + 128)).toNat = number % 64 + 128 :=
  toNat_ofNat_byte (by omega)

theorem isContinuation_tail : isContinuation (UInt8.ofNat (number % 64 + 128)) = true := by
  rw [isContinuation, Bool.and_eq_true, decide_eq_true_eq, decide_eq_true_eq,
    UInt8.le_iff_toNat_le, UInt8.le_iff_toNat_le, toNat_tail]
  show 128 ≤ _ ∧ _ ≤ 191
  omega

theorem payload_tail : payload (UInt8.ofNat (number % 64 + 128)) = number % 64 := by
  rw [payload, toNat_tail]
  omega

end Bytes

/-- The second bytes that a first byte admits, as numbers. -/
theorem admitsSecond_eq_true {first second : UInt8}
    (continues : 0x80 ≤ second.toNat ∧ second.toNat ≤ 0xBF)
    (overlong : first.toNat = 0xE0 → 0xA0 ≤ second.toNat)
    (surrogate : first.toNat = 0xED → second.toNat ≤ 0x9F)
    (overlong' : first.toNat = 0xF0 → 0x90 ≤ second.toNat)
    (beyond : first.toNat = 0xF4 → second.toNat ≤ 0x8F) : admitsSecond first second = true := by
  unfold admitsSecond isContinuation
  simp only [beq_iff_eq, ← UInt8.toNat_inj, UInt8.le_iff_toNat_le, UInt8.reduceToNat]
  split_ifs with same same same same
  all_goals rw [Bool.and_eq_true, decide_eq_true_eq, decide_eq_true_eq]
  · exact ⟨overlong same, continues.2⟩
  · exact ⟨continues.1, surrogate same⟩
  · exact ⟨overlong' same, continues.2⟩
  · exact ⟨continues.1, beyond same⟩
  · exact continues

section Sequences

variable {first second third fourth : UInt8} (rest : List UInt8)

theorem firstCharacter?_one (high : first.toNat ≤ 0x7F) :
    firstCharacter? (first :: rest) = some (Char.ofNat first.toNat, rest) := by
  simp only [firstCharacter?, UInt8.le_iff_toNat_le, UInt8.reduceToNat]
  rw [if_pos high]

theorem firstCharacter?_two (low : 0xC2 ≤ first.toNat) (high : first.toNat ≤ 0xDF)
    (continues : isContinuation second = true) :
    firstCharacter? (first :: second :: rest)
      = some (Char.ofNat (first.toNat % 0x20 * 0x40 + payload second), rest) := by
  simp only [firstCharacter?, UInt8.le_iff_toNat_le, UInt8.reduceToNat, continues,
    Bool.and_eq_true, decide_eq_true_eq]
  rw [if_neg (by omega), if_pos ⟨low, high⟩, if_pos trivial]

theorem firstCharacter?_three (low : 0xE0 ≤ first.toNat) (high : first.toNat ≤ 0xEF)
    (admits : admitsSecond first second = true) (continues : isContinuation third = true) :
    firstCharacter? (first :: second :: third :: rest)
      = some (Char.ofNat
          (first.toNat % 0x10 * 0x1000 + payload second * 0x40 + payload third), rest) := by
  simp only [firstCharacter?, UInt8.le_iff_toNat_le, UInt8.reduceToNat, admits, continues,
    Bool.and_eq_true, decide_eq_true_eq]
  rw [if_neg (by omega), if_neg (by omega), if_pos ⟨low, high⟩, if_pos ⟨trivial, trivial⟩]

theorem firstCharacter?_four (low : 0xF0 ≤ first.toNat) (high : first.toNat ≤ 0xF4)
    (admits : admitsSecond first second = true) (continues : isContinuation third = true)
    (continues' : isContinuation fourth = true) :
    firstCharacter? (first :: second :: third :: fourth :: rest)
      = some (Char.ofNat (first.toNat % 0x8 * 0x40000 + payload second * 0x1000
          + payload third * 0x40 + payload fourth), rest) := by
  simp only [firstCharacter?, UInt8.le_iff_toNat_le, UInt8.reduceToNat, admits, continues,
    continues', Bool.and_eq_true, decide_eq_true_eq]
  rw [if_neg (by omega), if_neg (by omega), if_neg (by omega), if_pos ⟨low, high⟩,
    if_pos ⟨⟨trivial, trivial⟩, trivial⟩]

end Sequences

/-- **The bytes of a character are read as the character.** -/
theorem firstCharacter?_utf8EncodeChar (character : Char) (rest : List UInt8) :
    firstCharacter? (String.utf8EncodeChar character ++ rest) = some (character, rest) := by
  have scalar : character.toNat < 0xD800 ∨ 0xDFFF < character.toNat ∧ character.toNat < 0x110000 :=
    character.valid
  have value : character.val.toNat = character.toNat := rfl
  have same : Char.ofNat character.toNat = character := Char.ofNat_toNat character
  unfold String.utf8EncodeChar
  dsimp only
  rw [value]
  generalize character.toNat = number at scalar same
  split
  next one =>
    have first := toNat_ofNat_byte (show number < 256 by omega)
    have high : (UInt8.ofNat number).toNat ≤ 0x7F := by omega
    have read := firstCharacter?_one rest high
    rw [first, same] at read
    exact read
  split
  next above two =>
    have first := toNat_ofNat_byte (show number / 64 % 32 + 192 < 256 by omega)
    have whole : (number / 64 % 32 + 192) % 0x20 * 0x40 + number % 64 = number := by omega
    have low : 0xC2 ≤ (UInt8.ofNat (number / 64 % 32 + 192)).toNat := by omega
    have read := firstCharacter?_two rest low (by omega) (isContinuation_tail number)
    rw [first, payload_tail, whole, same] at read
    exact read
  split
  next above three =>
    have first := toNat_ofNat_byte (show number / 4096 % 16 + 224 < 256 by omega)
    have second := toNat_tail (number / 64)
    have whole : (number / 4096 % 16 + 224) % 0x10 * 0x1000 + number / 64 % 64 * 0x40 + number % 64
        = number := by omega
    have admits : admitsSecond (UInt8.ofNat (number / 4096 % 16 + 224))
        (UInt8.ofNat (number / 64 % 64 + 128)) = true :=
      admitsSecond_eq_true (by omega) (by omega) (by omega) (by omega) (by omega)
    have read := firstCharacter?_three rest (by omega) (by omega) admits
      (isContinuation_tail number)
    rw [first, payload_tail, payload_tail, whole, same] at read
    exact read
  next above =>
    have first := toNat_ofNat_byte (show number / 262144 % 8 + 240 < 256 by omega)
    have second := toNat_tail (number / 4096)
    have whole : (number / 262144 % 8 + 240) % 0x8 * 0x40000 + number / 4096 % 64 * 0x1000
        + number / 64 % 64 * 0x40 + number % 64 = number := by omega
    have admits : admitsSecond (UInt8.ofNat (number / 262144 % 8 + 240))
        (UInt8.ofNat (number / 4096 % 64 + 128)) = true :=
      admitsSecond_eq_true (by omega) (by omega) (by omega) (by omega) (by omega)
    have read := firstCharacter?_four rest (by omega) (by omega) admits
      (isContinuation_tail (number / 64)) (isContinuation_tail number)
    rw [first, payload_tail, payload_tail, payload_tail, whole, same] at read
    exact read

/-! ### Texts -/

theorem decode_cons {bytes rest : List UInt8} {character : Char}
    (found : firstCharacter? bytes = some (character, rest)) {text : List Char}
    (decoded : decode rest = .ok text) : decode bytes = .ok (character :: text) := by
  rw [decode]
  split
  next other behind found' =>
    rw [found] at found'
    cases found'
    rw [decoded]
  next none =>
    rw [found] at none
    cases none

theorem decode_flatMap (text : List Char) :
    decode (text.flatMap String.utf8EncodeChar) = .ok text := by
  induction text with
  | nil =>
    rw [List.flatMap_nil, decode]
    rfl
  | cons character rest hyp =>
    rw [List.flatMap_cons]
    exact decode_cons (firstCharacter?_utf8EncodeChar character _) hyp

/-- **The bytes of a text are read as the text.** -/
theorem decode_toUTF8 (text : String) : decode text.toUTF8.toList = .ok text.toList := by
  rw [toList_toUTF8, decode_flatMap]

end LinearProgram.Text
