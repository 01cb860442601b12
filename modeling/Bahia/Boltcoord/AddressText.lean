import Bahia.Boltcoord.Model

/-! The text of a coordinate reads back as the coordinate. -/

namespace Bahia.Foundation

theorem decimalDigits_eq (all : ∀ digit ∈ digits, digit.isDigit = true) :
    decimalDigits digits = some (Nat.ofDigitChars 10 digits 0) := by
  have fold : ∀ (digits : List Char) (total : Nat), (∀ digit ∈ digits, digit.isDigit = true) →
      digits.foldl (fun total digit => do return (← total) * 10 + (← decimalValue digit))
        (some total) = some (Nat.ofDigitChars 10 digits total) := by
    intro digits
    induction digits with
    | nil => intros; rfl
    | cons digit rest ih =>
      intro total all
      have first : decimalValue digit = some (digit.toNat - '0'.toNat) := by
        simp [decimalValue, all digit List.mem_cons_self]
      rw [List.foldl_cons, Nat.ofDigitChars_cons, first]
      rw [mul_comm 10 total]
      exact ih _ fun other member => all other (List.mem_cons_of_mem _ member)
  exact fold digits 0 all

theorem repr_digits (value : Nat) : ∀ digit ∈ value.repr.toList, digit.isDigit = true := by
  intro digit member
  rw [Nat.toList_repr] at member
  exact Nat.isDigit_of_mem_toDigits (by norm_num) (by norm_num) member

theorem parseUint_repr (below : value < bound) : parseUint value.repr bound = some value := by
  have nonempty : value.repr.toList.isEmpty = false := by
    rw [Nat.toList_repr, List.isEmpty_eq_false_iff]
    exact Nat.toDigits_ne_nil
  unfold parseUint
  rw [nonempty, decimalDigits_eq (repr_digits value), Nat.toList_repr,
    Nat.ofDigitChars_ten_toDigits]
  simp [below]

theorem hex_free (bytes : Bytes) (separator : Char) (unread : hexValue separator = none) :
    separator ∉ (hex bytes).toList := by
  intro member
  rw [hex, String.toList_ofList] at member
  obtain ⟨byte, _, inside⟩ := List.mem_flatMap.mp member
  rcases List.mem_pair.mp inside with same | same
  · rw [same, hexValue_hexDigit] at unread
    cases unread
  · rw [same, hexValue_hexDigit] at unread
    cases unread

end Bahia.Foundation

namespace Bahia.Boltcoord
open Foundation Nostr
variable {validKey : PubKey → Bool}

theorem splitN_address : splitN (address kind author d) ':' 3 =
    [kind.val.repr, PubKey.hex author, d] := by
  have kindFree : ':' ∉ kind.val.repr.toList := by
    intro member
    have digit := repr_digits kind.val ':' member
    cases digit
  have keyFree : ':' ∉ (PubKey.hex author).toList := hex_free author.val ':' (by decide)
  have text : (address kind author d).toList =
      kind.val.repr.toList ++ ':' :: ((PubKey.hex author).toList ++ ':' :: d.toList) := by
    simp [address, List.append_assoc]
  unfold splitN
  rw [text, splitRunes, cutRunes_append kindFree]
  simp only [splitRunes, cutRunes_append keyFree, List.map_cons, List.map_nil,
    String.ofList_toList]

theorem pubKeyFromHex_hex (valid : validKey author = true) :
    Nostr.pubKeyFromHex validKey (PubKey.hex author) = some author := by
  simp [Nostr.pubKeyFromHex, PubKey.hex, decodeHex_hex, valid]

/-- `parseAddress` reads what `address` writes. -/
theorem parseAddress_address (valid : validKey author = true) :
    parseAddress validKey (address kind author d) = some (kind, author, d) := by
  unfold parseAddress
  rw [splitN_address]
  simp [parseUint_repr kind.isLt, pubKeyFromHex_hex valid]

end Bahia.Boltcoord
