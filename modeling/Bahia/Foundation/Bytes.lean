import Mathlib

/-! Byte strings in lexicographic order, signed 64-bit integers, and the
big-endian, UTF-8 and hexadecimal encodings that build ordered keys. -/

namespace Bahia.Foundation
open List

abbrev Byte := Fin 256

instance byteNeZero : NeZero 256 := ⟨by decide⟩

abbrev Bytes := List Byte

/-- A byte array of fixed length, ordered as bytes. -/
abbrev FixedBytes (size : Nat) := {bytes : Bytes // bytes.length = size}

def FixedBytes.zero (size : Nat) : FixedBytes size := ⟨List.replicate size 0, by simp⟩

/-- The array whose bytes are all zero but the last. -/
def FixedBytes.ofByte (size : Nat) (byte : Byte) : FixedBytes (size + 1) :=
  ⟨List.replicate size 0 ++ [byte], by simp⟩

variable {first second : Byte} {width : Nat}

@[simp] theorem FixedBytes.ofByte_inj :
    FixedBytes.ofByte size first = FixedBytes.ofByte size second ↔ first = second := by
  simp [FixedBytes.ofByte]

structure SInt64 where
  val : Int
  lower : -2 ^ 63 ≤ val
  upper : val < 2 ^ 63
  deriving DecidableEq, Repr

namespace SInt64

theorem val_injective : Function.Injective val := by
  intro first second same
  cases first
  cases second
  cases same
  rfl

instance : LinearOrder SInt64 := LinearOrder.lift' val val_injective

variable {first second value : SInt64}

theorem lt_iff : first < second ↔ first.val < second.val := Iff.rfl

theorem le_iff : first ≤ second ↔ first.val ≤ second.val := Iff.rfl

/-- Two's-complement reduction of an exact result. -/
def wrap (exact : Int) : SInt64 where
  val := (exact + 2 ^ 63) % 2 ^ 64 - 2 ^ 63
  lower := by have := Int.emod_nonneg (exact + 2 ^ 63) (by norm_num : (2 ^ 64 : Int) ≠ 0); omega
  upper := by
    have := Int.emod_lt_of_pos (exact + 2 ^ 63) (by norm_num : (0 : Int) < 2 ^ 64)
    omega

instance (n : Nat) : OfNat SInt64 n := ⟨wrap n⟩

theorem wrap_val (lower : -2 ^ 63 ≤ exact) (upper : exact < 2 ^ 63) : (wrap exact).val = exact := by
  have small : (exact + 2 ^ 63) % 2 ^ 64 = exact + 2 ^ 63 :=
    Int.emod_eq_of_lt (by omega) (by omega)
  simp only [wrap, small]
  omega

@[simp] theorem zero_val : (0 : SInt64).val = 0 := by
  exact wrap_val (by norm_num) (by norm_num)

/-- The conversion of a signed value to `uint64`. -/
def toUint64 (value : SInt64) : Nat := (value.val % 2 ^ 64).toNat

theorem toUint64_lt (value : SInt64) : value.toUint64 < 2 ^ 64 := by
  unfold toUint64
  omega

theorem toUint64_of_nonneg (nonneg : 0 ≤ value.val) :
    (value.toUint64 : Int) = value.val := by
  have upper := value.upper
  unfold toUint64
  omega

/-- The unsigned order agrees with the signed one between values of one sign,
and puts every negative value above every other. -/
theorem toUint64_le_iff (first second : SInt64) :
    first.toUint64 ≤ second.toUint64 ↔
      (first.val ≤ second.val ∧ (first.val < 0 ↔ second.val < 0)) ∨
        (0 ≤ first.val ∧ second.val < 0) := by
  have firstUpper := first.upper
  have firstLower := first.lower
  have secondUpper := second.upper
  have secondLower := second.lower
  unfold toUint64
  omega

theorem wrap_toUint64 (value : SInt64) : wrap value.toUint64 = value := by
  have lower := value.lower
  have upper := value.upper
  apply val_injective
  simp only [wrap, toUint64]
  omega

/-- Flipping the sign bit turns the signed order into the unsigned one. -/
theorem flip_toUint64 (value : SInt64) :
    (((value.toUint64 + 2 ^ 63) % 2 ^ 64 : Nat) : Int) = value.val + 2 ^ 63 := by
  have lower := value.lower
  have upper := value.upper
  unfold toUint64
  omega

/-- Flipping it again gives the value back. -/
theorem wrap_flip (value : SInt64) :
    wrap (((value.toUint64 + 2 ^ 63) % 2 ^ 64 : Nat) + 2 ^ 63) = value := by
  have lower := value.lower
  have upper := value.upper
  apply val_injective
  rw [flip_toUint64]
  simp only [wrap]
  omega

end SInt64

/-- An encoding that keeps a linear order tells its values apart. -/
theorem eq_of_encoded [LinearOrder α] [Preorder β] {encode : α → β} {first second : α}
    (up : first < second → encode first < encode second)
    (down : second < first → encode second < encode first)
    (same : encode first = encode second) : first = second := by
  rcases lt_trichotomy first second with less | equal | more
  · exact absurd (up less) (same ▸ lt_irrefl _)
  · exact equal
  · exact absurd (down more) (same ▸ lt_irrefl _)

/-- `width` bytes of `value`, most significant first. -/
def bigEndian : Nat → Nat → Bytes
  | 0, _ => []
  | width + 1, value =>
    bigEndian width (value / 256) ++ [⟨value % 256, Nat.mod_lt _ (by norm_num)⟩]

@[simp] theorem bigEndian_length (width value : Nat) : (bigEndian width value).length = width := by
  induction width generalizing value with
  | zero => rfl
  | succ width ih => simp [bigEndian, ih]

/-- Lists that follow prefixes of one length decide only between equal
prefixes. -/
theorem append_lt_append_iff [LT α] {first second firstRest secondRest : List α}
    (same : first.length = second.length) :
    first ++ firstRest < second ++ secondRest ↔
      first < second ∨ (first = second ∧ firstRest < secondRest) := by
  induction first generalizing second with
  | nil =>
    have empty : second = [] := length_eq_zero_iff.mp same.symm
    subst second
    simp
  | cons head rest ih =>
    cases second with
    | nil => simp at same
    | cons =>
      simp only [cons_append, cons_lt_cons_iff, ih (by simpa using same),
        List.cons.injEq]
      tauto

/-- A prefix shared by two byte strings is shared by every one between them. -/
theorem prefix_of_between {shared low middle high : Bytes} (below : shared <+: low)
    (above : shared <+: high) (lowMiddle : ¬ middle < low) (middleHigh : ¬ high < middle) :
    shared <+: middle := by
  induction shared generalizing low middle high with
  | nil => exact nil_prefix
  | cons head rest ih =>
    obtain ⟨lowRest, rfl⟩ := below
    obtain ⟨highRest, rfl⟩ := above
    cases middle with
    | nil => exact absurd (nil_lt_cons head (rest ++ lowRest)) lowMiddle
    | cons other =>
      simp only [cons_append, cons_lt_cons_iff, not_or, not_and] at lowMiddle middleHigh
      have same : head = other :=
        le_antisymm (not_lt.mp lowMiddle.1) (not_lt.mp middleHigh.1)
      subst other
      exact cons_prefix_cons.mpr ⟨rfl,
        ih ⟨lowRest, rfl⟩ ⟨highRest, rfl⟩ (lowMiddle.2 rfl) (middleHigh.2 rfl)⟩

theorem bigEndian_lt_iff {first second : Nat} (firstFits : first < 256 ^ width)
    (secondFits : second < 256 ^ width) :
    bigEndian width first < bigEndian width second ↔ first < second := by
  induction width generalizing first second with
  | zero =>
    simp only [pow_zero, Nat.lt_one_iff] at firstFits secondFits
    simp [bigEndian, firstFits, secondFits]
  | succ width ih =>
    have firstHigh : first / 256 < 256 ^ width :=
      Nat.div_lt_of_lt_mul (by rwa [pow_succ, mul_comm] at firstFits)
    have secondHigh : second / 256 < 256 ^ width :=
      Nat.div_lt_of_lt_mul (by rwa [pow_succ, mul_comm] at secondFits)
    have equal : bigEndian width (first / 256) = bigEndian width (second / 256) ↔
        first / 256 = second / 256 :=
      ⟨eq_of_encoded (ih firstHigh secondHigh).mpr (ih secondHigh firstHigh).mpr, congrArg _⟩
    simp only [bigEndian]
    rw [append_lt_append_iff (by simp), ih firstHigh secondHigh, equal]
    simp only [cons_lt_cons_iff, not_lt_nil, and_false, or_false, Fin.mk_lt_mk]
    omega

theorem bigEndian_injective {first second : Nat} (firstFits : first < 256 ^ width)
    (secondFits : second < 256 ^ width)
    (same : bigEndian width first = bigEndian width second) : first = second :=
  eq_of_encoded (bigEndian_lt_iff firstFits secondFits).mpr
    (bigEndian_lt_iff secondFits firstFits).mpr same

/-- Reading the bytes back as a number. -/
theorem bigEndian_foldl (width value : Nat) (fits : value < 256 ^ width) :
    (bigEndian width value).foldl (fun (total : Int) byte => total * 256 + byte.val) 0 = value := by
  induction width generalizing value with
  | zero =>
    simp only [pow_zero, Nat.lt_one_iff] at fits
    simp [bigEndian, fits]
  | succ width ih =>
    have high : value / 256 < 256 ^ width :=
      Nat.div_lt_of_lt_mul (by rwa [pow_succ, mul_comm] at fits)
    rw [bigEndian, foldl_append, ih _ high]
    simp only [foldl_cons, foldl_nil]
    omega

/-- `binary.BigEndian.AppendUint64` of a converted signed value. -/
def SInt64.bigEndian (value : SInt64) : Bytes := Foundation.bigEndian 8 value.toUint64

@[simp] theorem SInt64.bigEndian_length (value : SInt64) : value.bigEndian.length = 8 := by
  simp [SInt64.bigEndian]

theorem SInt64.bigEndian_lt_iff (first second : SInt64) :
    first.bigEndian < second.bigEndian ↔ first.toUint64 < second.toUint64 :=
  Foundation.bigEndian_lt_iff first.toUint64_lt second.toUint64_lt

def hexDigit (value : Fin 16) : Char :=
  "0123456789abcdef".toList.get (value.cast (by decide))

def hexByte (byte : Byte) : List Char :=
  [hexDigit ⟨byte.val / 16, by omega⟩, hexDigit ⟨byte.val % 16, by omega⟩]

def hex (bytes : Bytes) : String := String.ofList (bytes.flatMap hexByte)

theorem hexDigit_lt_iff (first second : Fin 16) :
    hexDigit first < hexDigit second ↔ first < second := by
  revert first second
  decide

theorem hexByte_lt_iff (first second : Byte) : hexByte first < hexByte second ↔ first < second := by
  have injective (x y : Fin 16) : hexDigit x = hexDigit y ↔ x = y := by
    revert x y
    decide
  simp only [hexByte, cons_lt_cons_iff, hexDigit_lt_iff, injective, not_lt_nil,
    and_false, or_false, Fin.mk.injEq, Fin.lt_def]
  omega

theorem hexByte_injective (same : hexByte first = hexByte second) : first = second :=
  eq_of_encoded (hexByte_lt_iff first second).mpr (hexByte_lt_iff second first).mpr same

/-- Byte strings of one length are ordered as their hexadecimal texts. -/
theorem hex_lt_iff {first second : Bytes} (same : first.length = second.length) :
    hex first < hex second ↔ first < second := by
  simp only [hex, String.lt_iff_toList_lt, String.toList_ofList]
  induction first generalizing second with
  | nil =>
    have empty : second = [] := length_eq_zero_iff.mp same.symm
    subst second
    simp
  | cons head rest ih =>
    cases second with
    | nil => simp at same
    | cons other =>
      have equal : hexByte head = hexByte other ↔ head = other :=
        ⟨hexByte_injective, fun equal => by rw [equal]⟩
      rw [flatMap_cons, flatMap_cons, append_lt_append_iff (by simp [hexByte]),
        hexByte_lt_iff, equal, ih (by simpa using same), cons_lt_cons_iff]

theorem hex_injective {first second : Bytes} (length : first.length = second.length)
    (same : hex first = hex second) : first = second :=
  eq_of_encoded (hex_lt_iff length).mpr (hex_lt_iff length.symm).mpr same

def utf8 (text : String) : Bytes :=
  (text.toList.flatMap String.utf8EncodeChar).map UInt8.toFin

theorem utf8_length (text : String) : (utf8 text).length = text.utf8ByteSize := by
  rw [utf8, length_map, ← String.size_toByteArray, ← String.utf8Encode_toList,
    List.utf8Encode, size_toByteArray]

theorem utf8_injective : Function.Injective utf8 := by
  intro first second same
  have encoded := map_injective_iff.mpr (fun _ _ => UInt8.toFin_inj.mp) same
  apply String.toByteArray_inj.mp
  rw [← String.utf8Encode_toList, ← String.utf8Encode_toList, List.utf8Encode, List.utf8Encode,
    encoded]

end Bahia.Foundation
