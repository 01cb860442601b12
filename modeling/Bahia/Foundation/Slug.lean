import Bahia.Foundation.Text

/-! Text cut at its ends, and the words of a text joined by single dashes. -/

namespace Bahia.Foundation
open List

/-- `strings.TrimRight` for one character. -/
def trimRightOf (cut : Char) (runes : List Char) : List Char := runes.rdropWhile (· == cut)

/-- `strings.Trim` for one character. -/
def trimOf (cut : Char) (runes : List Char) : List Char := trimRightOf cut (runes.dropWhile (· == cut))

def hasSuffix (text ending : String) : Bool := ending.toList.isSuffixOf text.toList

def trimSuffix (text ending : String) : String :=
  if hasSuffix text ending then
    String.ofList (text.toList.take (text.toList.length - ending.toList.length))
  else text

/-- `strings.Split` at a one-character separator. -/
def split (text : String) (separator : Char) : List String :=
  splitN text separator (text.toList.length + 1)

theorem trimRunes_eq (runes : List Char) :
    trimRunes runes = (runes.dropWhile isSpace).rdropWhile isSpace := rfl

section Slug

universe u

variable {Rune : Type u} (spell : Rune → Option Char)

/-- A letter is written; anything else ends the word before it, if there is one. The flag says
whether the last character written is such an end. -/
def slugStep (written : List Char × Bool) (rune : Rune) : List Char × Bool :=
  match spell rune with
  | some letter => (written.1 ++ [letter], false)
  | none => if written.2 || written.1.isEmpty then written else (written.1 ++ ['-'], true)

/-- The words of a text with one dash between two of them. -/
def slug (runes : List Rune) : List Char := trimOf '-' (runes.foldl (slugStep spell) ([], false)).1

variable {spell}

theorem slug_map (change : Other → Rune) (runes : List Other) :
    slug spell (runes.map change) = slug (fun rune => spell (change rune)) runes := by
  rw [slug, foldl_map]
  rfl

theorem slugStep_blank (blank : spell rune = none) :
    slugStep spell ([], false) rune = ([], false) := by
  simp [slugStep, blank]

/-- What is before the first word does not count. -/
theorem slug_dropWhile (blank : ∀ rune, cut rune = true → spell rune = none) (runes : List Rune) :
    slug spell (runes.dropWhile cut) = slug spell runes := by
  induction runes with
  | nil => rfl
  | cons rune rest ih =>
    cases first : cut rune with
    | false => rw [dropWhile_cons_of_neg (by simp [first])]
    | true =>
      rw [dropWhile_cons_of_pos first, ih, slug, slug, foldl_cons,
        slugStep_blank (blank rune first)]

theorem trimOf_concat (cut : Char) (runes : List Char) : trimOf cut (runes ++ [cut]) = trimOf cut runes := by
  unfold trimOf trimRightOf
  by_cases all : runes.dropWhile (· == cut) = []
  · have whole : ∀ rune ∈ runes, (rune == cut) = true := dropWhile_eq_nil_iff.mp all
    have longer : (runes ++ [cut]).dropWhile (· == cut) = [] := by
      rw [dropWhile_eq_nil_iff]
      intro rune member
      rcases mem_append.mp member with before | last
      · exact whole rune before
      · rw [mem_singleton.mp last]
        exact beq_self_eq_true cut
    rw [longer, all]
  · rw [dropWhile_append, if_neg (by simpa using all), rdropWhile_concat_pos _ _ _ (by simp)]

/-- A rune that is no letter changes nothing at the end of the text. -/
theorem slug_concat (blank : spell rune = none) (runes : List Rune) :
    slug spell (runes ++ [rune]) = slug spell runes := by
  rw [slug, slug, foldl_append, foldl_cons, foldl_nil]
  generalize runes.foldl (slugStep spell) ([], false) = written
  simp only [slugStep, blank]
  split
  · rfl
  · exact trimOf_concat '-' written.1

/-- What is after the last word does not count. -/
theorem slug_rdropWhile (blank : ∀ rune, cut rune = true → spell rune = none) (runes : List Rune) :
    slug spell (runes.rdropWhile cut) = slug spell runes := by
  induction runes using List.reverseRecOn with
  | nil => rfl
  | append_singleton rest rune ih =>
    cases last : cut rune with
    | false => rw [rdropWhile_concat_neg _ _ _ (by simp [last])]
    | true => rw [rdropWhile_concat_pos _ _ _ last, ih, slug_concat (blank rune last)]

end Slug

end Bahia.Foundation
