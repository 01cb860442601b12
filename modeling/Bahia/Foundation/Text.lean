import Bahia.Foundation.Bytes

/-! The string operations the modelled code takes from its standard library, over
Unicode text. Lengths are counted in UTF-8 bytes. -/

namespace Bahia.Foundation

def hasPrefix (text start : String) : Bool := start.toList.isPrefixOf text.toList

theorem hasPrefix_append (start rest : String) : hasPrefix (start ++ rest) start = true := by
  rw [hasPrefix, String.toList_append, List.isPrefixOf_iff_prefix]
  exact List.prefix_append _ _

def cutPrefix (text start : String) : Option String :=
  if hasPrefix text start then some (String.ofList (text.toList.drop start.toList.length)) else none

def trimPrefix (text start : String) : String := (cutPrefix text start).getD text

def containsRune (text : String) (rune : Char) : Bool := text.toList.contains rune

def containsRunes (part : List Char) : List Char → Bool
  | [] => part.isEmpty
  | rune :: rest => part.isPrefixOf (rune :: rest) || containsRunes part rest

def containsText (text part : String) : Bool := containsRunes part.toList text.toList

theorem containsRunes_subset (found : containsRunes part runes = true) :
    ∀ rune ∈ part, rune ∈ runes := by
  induction runes with
  | nil =>
    intro rune member
    rw [containsRunes, List.isEmpty_iff] at found
    rw [found] at member
    cases member
  | cons head rest ih =>
    rw [containsRunes, Bool.or_eq_true] at found
    intro rune member
    rcases found with here | later
    · exact (List.isPrefixOf_iff_prefix.mp here).subset member
    · exact List.mem_cons_of_mem head (ih later rune member)

def isSpace (rune : Char) : Bool :=
  let code := rune.toNat
  (9 ≤ code && code ≤ 13) || code == 0x20 || code == 0x85 || code == 0xA0 || code == 0x1680 ||
    (0x2000 ≤ code && code ≤ 0x200A) || code == 0x2028 || code == 0x2029 || code == 0x202F ||
    code == 0x205F || code == 0x3000

def trimRunes (runes : List Char) : List Char :=
  ((runes.dropWhile isSpace).reverse.dropWhile isSpace).reverse

/-- What is no space is not trimmed away. -/
theorem trimRunes_ne_nil (member : rune ∈ runes) (solid : isSpace rune = false) :
    trimRunes runes ≠ [] := by
  intro trimmed
  have spaces : ∀ other ∈ runes.dropWhile isSpace, isSpace other = true := by
    intro other kept
    rw [trimRunes, List.reverse_eq_nil_iff, List.dropWhile_eq_nil_iff] at trimmed
    exact trimmed other (List.mem_reverse.mpr kept)
  have nothing : runes.dropWhile isSpace = [] := by
    cases left : runes.dropWhile isSpace with
    | nil => rfl
    | cons =>
      have first := List.head_dropWhile_not isSpace (l := runes) (by rw [left]; exact List.cons_ne_nil _ _)
      rw [spaces _ (List.head_mem _)] at first
      cases first
  rw [List.dropWhile_eq_nil_iff.mp nothing rune member] at solid
  cases solid

def trimSpace (text : String) : String := String.ofList (trimRunes text.toList)

/-- `unicode.ToLower` where its result is ASCII; letters that stay outside ASCII keep
their form, which no comparison here can tell. -/
def lowerRune (rune : Char) : Char :=
  if rune.toNat = 0x212A then 'k' else if rune.toNat = 0x130 then 'i' else rune.toLower

def toLower (text : String) : String := String.ofList (text.toList.map lowerRune)

/-- The text before and after the first `separator`. -/
def cutRunes (separator : Char) : List Char → Option (List Char × List Char)
  | [] => none
  | rune :: rest =>
    if rune = separator then some ([], rest)
    else (cutRunes separator rest).map fun (before, after) => (rune :: before, after)

theorem cutRunes_append (free : separator ∉ before) :
    cutRunes separator (before ++ separator :: after) = some (before, after) := by
  induction before with
  | nil => simp [cutRunes]
  | cons rune rest ih =>
    rw [List.mem_cons, not_or] at free
    have other : rune ≠ separator := fun same => free.1 same.symm
    simp [cutRunes, other, ih free.2]

def splitRunes (separator : Char) : Nat → List Char → List (List Char)
  | 0, _ => []
  | 1, runes => [runes]
  | count + 2, runes =>
    match cutRunes separator runes with
    | some (before, after) => before :: splitRunes separator (count + 1) after
    | none => [runes]

/-- `strings.SplitN` at a one-character separator. -/
def splitN (text : String) (separator : Char) (count : Nat) : List String :=
  (splitRunes separator count text.toList).map String.ofList

def join (separator : String) : List String → String
  | [] => ""
  | [part] => part
  | part :: rest => part ++ separator ++ join separator rest

section Joined
variable {separator : Char} {parts : List String}

theorem toList_join (separator : Char) (parts : List String) :
    (join (String.singleton separator) parts).toList =
      [separator].intercalate (parts.map String.toList) := by
  induction parts with
  | nil => rfl
  | cons part rest ih =>
    cases rest with
    | nil => simp [join]
    | cons => simp [join, ih]

theorem mem_join (member : rune ∈ (join (String.singleton separator) parts).toList) :
    rune = separator ∨ ∃ part ∈ parts, rune ∈ part.toList := by
  induction parts with
  | nil => exact nomatch member
  | cons part rest ih =>
    cases rest with
    | nil => exact .inr ⟨part, List.mem_cons_self, member⟩
    | cons =>
      simp only [join, String.toList_append, List.mem_append, String.toList_singleton,
        List.mem_singleton] at member
      rcases member with (here | same) | further
      · exact .inr ⟨part, List.mem_cons_self, here⟩
      · exact .inl same
      · rcases ih further with same | ⟨other, inside, found⟩
        · exact .inl same
        · exact .inr ⟨other, List.mem_cons_of_mem part inside, found⟩

theorem join_eq_empty : join (String.singleton separator) parts = "" ↔ parts = [] ∨ parts = [""] := by
  cases parts with
  | nil => simp [join]
  | cons first rest =>
    cases rest with
    | nil => simp [join]
    | cons => simp [join]

/-- The parts of a joined text. -/
def separate (separator : Char) (text : String) : List String :=
  if text = "" then [] else (text.toList.splitOn separator).map String.ofList

/-- Parts without the separator can be told apart again, but for a single empty one. -/
theorem separate_join (free : ∀ part ∈ parts, separator ∉ part.toList) (lettered : parts ≠ [""]) :
    separate separator (join (String.singleton separator) parts) = parts := by
  by_cases none : parts = []
  · subst none
    rfl
  rw [separate, if_neg (by simp [join_eq_empty, none, lettered]), toList_join, List.splitOn_intercalate]
  · rw [List.map_map]
    exact List.map_id'' (fun _ => String.ofList_toList) _
  · exact List.forall_mem_map.mpr free
  · simpa using none

end Joined

/-- The value of a hexadecimal digit in either letter case. -/
def hexValue (digit : Char) : Option (Fin 16) :=
  (List.finRange 16).find? fun value => hexDigit value == digit || (hexDigit value).toUpper == digit

def decodeHexDigits : List Char → Option Bytes
  | [] => some []
  | [_] => none
  | high :: low :: rest => do
    let upper ← hexValue high
    let lower ← hexValue low
    let bytes ← decodeHexDigits rest
    return ⟨upper.val * 16 + lower.val, by omega⟩ :: bytes

/-- Decode exactly `size` bytes from twice as many hexadecimal digits. -/
def decodeHex (size : Nat) (text : String) : Option (FixedBytes size) :=
  if text.utf8ByteSize = 2 * size then
    match decodeHexDigits text.toList with
    | some bytes => if fits : bytes.length = size then some ⟨bytes, fits⟩ else none
    | none => none
  else none

def decimalValue (digit : Char) : Option Nat :=
  if digit.isDigit then some (digit.toNat - '0'.toNat) else none

def decimalDigits (digits : List Char) : Option Nat :=
  digits.foldl (fun total digit => do return (← total) * 10 + (← decimalValue digit)) (some 0)

/-- `strconv.ParseUint` in base ten, below `bound`. -/
def parseUint (text : String) (bound : Nat) : Option Nat :=
  if text.toList.isEmpty then none
  else (decimalDigits text.toList).filter (· < bound)

/-- `strconv.ParseInt` in base ten for 64 bits. -/
def parseInt (text : String) : Option SInt64 :=
  let signed (negative : Bool) (digits : List Char) : Option SInt64 :=
    if digits.isEmpty then none
    else do
      let size ← decimalDigits digits
      let value : Int := if negative then -size else size
      if fits : -2 ^ 63 ≤ value ∧ value < 2 ^ 63 then some ⟨value, fits.1, fits.2⟩ else none
  match text.toList with
  | '-' :: digits => signed true digits
  | '+' :: digits => signed false digits
  | digits => signed false digits

/-- The escape `%q` writes for a character; printable text stands for itself. -/
def quoteRune (rune : Char) : List Char :=
  match rune with
  | '"' => ['\\', '"']
  | '\\' => ['\\', '\\']
  | '\n' => ['\\', 'n']
  | '\t' => ['\\', 't']
  | '\r' => ['\\', 'r']
  | _ =>
    if rune.toNat < 32 then '\\' :: 'x' :: hexByte ⟨rune.toNat % 256, by omega⟩ else [rune]

def quote (text : String) : String :=
  String.ofList ('"' :: text.toList.flatMap quoteRune ++ ['"'])

end Bahia.Foundation
