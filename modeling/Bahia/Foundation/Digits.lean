import Bahia.Foundation.Text

/-! Hexadecimal text read back: the letter case and the surrounding space it does and
does not tolerate. -/

namespace Bahia.Foundation
open List

theorem hexValue_hexDigit (value : Fin 16) : hexValue (hexDigit value) = some value := by
  revert value
  decide

/-- A digit is one of the sixteen, in one of its two forms. -/
theorem hexValue_some (read : hexValue digit = some value) :
    hexDigit value = digit ∨ (hexDigit value).toUpper = digit := by
  have found := List.find?_some read
  simpa using found

theorem hexValue_ascii (read : hexValue digit = some value) :
    digit.toNat < 128 := by
  have bounds : ∀ value : Fin 16,
      (hexDigit value).toNat < 128 ∧ (hexDigit value).toUpper.toNat < 128 := by decide
  rcases hexValue_some read with same | same
  · exact same ▸ (bounds value).1
  · exact same ▸ (bounds value).2

theorem hexValue_of_not_ascii (beyond : 128 ≤ digit.toNat) : hexValue digit = none := by
  cases read : hexValue digit with
  | none => rfl
  | some => exact absurd (hexValue_ascii read) (by omega)

theorem toLower_of_not_upper {rune : Char} (other : ¬ (65 ≤ rune.toNat ∧ rune.toNat ≤ 90)) :
    rune.toLower = rune := by
  unfold Char.toLower
  split
  next upper => exact absurd upper other
  next => rfl

theorem hexValue_lowerRune (digit : Char) : hexValue (lowerRune digit) = hexValue digit := by
  have letters : ∀ letter : Fin 26, hexValue (lowerRune (Char.ofNat (65 + letter))) =
      hexValue (Char.ofNat (65 + letter)) := by decide
  by_cases upper : 65 ≤ digit.toNat ∧ digit.toNat ≤ 90
  · have same := letters ⟨digit.toNat - 65, by omega⟩
    simpa [Nat.add_sub_cancel' upper.1] using same
  unfold lowerRune
  split
  next kelvin =>
    rw [hexValue_of_not_ascii (by omega : 128 ≤ digit.toNat)]
    rfl
  next =>
    split
    next dotted =>
      rw [hexValue_of_not_ascii (by omega : 128 ≤ digit.toNat)]
      rfl
    next => rw [toLower_of_not_upper upper]

theorem decodeHexDigits_lower (digits : List Char) :
    decodeHexDigits (digits.map lowerRune) = decodeHexDigits digits := by
  fun_induction decodeHexDigits digits with
  | case1 => rfl
  | case2 => rfl
  | case3 high low rest ih =>
    simp only [map_cons, decodeHexDigits, hexValue_lowerRune, ih]

theorem decodeHexDigits_length (read : decodeHexDigits digits = some bytes) :
    String.utf8Len digits = 2 * bytes.length := by
  have single : ∀ {digit : Char} {value : Fin 16}, hexValue digit = some value →
      digit.utf8Size = 1 := by
    intro digit value found
    have ascii := hexValue_ascii found
    have small : digit.val ≤ 127 := by
      rw [UInt32.le_iff_toNat_le]
      exact Nat.le_of_lt_succ ascii
    simp [Char.utf8Size, small]
  fun_induction decodeHexDigits digits generalizing bytes with
  | case1 =>
    cases read
    rfl
  | case2 => cases read
  | case3 high low rest ih =>
    simp only [Option.bind_eq_bind, Option.bind_eq_some_iff] at read
    obtain ⟨upper, highRead, lower, lowRead, others, restRead, made⟩ := read
    cases made
    simp only [String.utf8Len, single highRead, single lowRead, ih restRead, length_cons]
    omega

theorem decodeHex_eq (size : Nat) (text : String) :
    decodeHex size text = (decodeHexDigits text.toList).bind fun bytes =>
      if fits : bytes.length = size then some ⟨bytes, fits⟩ else none := by
  unfold decodeHex
  cases read : decodeHexDigits text.toList with
  | none => simp
  | some bytes =>
    have length : text.utf8ByteSize = 2 * bytes.length := by
      rw [← decodeHexDigits_length read, ← String.utf8ByteSize_ofList, String.ofList_toList]
    by_cases fits : bytes.length = size
    · simp [length, fits]
    · simp [fits]

theorem decodeHex_toLower (size : Nat) (text : String) :
    decodeHex size (toLower text) = decodeHex size text := by
  rw [decodeHex_eq, decodeHex_eq, toLower, String.toList_ofList, decodeHexDigits_lower]

theorem decodeHexDigits_hexByte (bytes : Bytes) :
    decodeHexDigits (bytes.flatMap hexByte) = some bytes := by
  induction bytes with
  | nil => rfl
  | cons byte rest ih =>
    simp only [flatMap_cons, hexByte, cons_append, nil_append, decodeHexDigits,
      hexValue_hexDigit, ih]
    have whole : (⟨byte.val / 16 * 16 + byte.val % 16, by omega⟩ : Byte) = byte :=
      Fin.ext (Nat.div_add_mod' byte.val 16)
    simp [whole]

theorem hex_utf8ByteSize (bytes : Bytes) : (hex bytes).utf8ByteSize = 2 * bytes.length := by
  rw [hex, String.utf8ByteSize_ofList, decodeHexDigits_length (decodeHexDigits_hexByte bytes)]

theorem decodeHex_hex (bytes : FixedBytes size) :
    decodeHex size (hex bytes.val) = some bytes := by
  rw [decodeHex_eq, hex, String.toList_ofList, decodeHexDigits_hexByte]
  simp [bytes.2]

end Bahia.Foundation
