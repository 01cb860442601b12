import Mathlib

/-! Ordered streams: cutting one where a bound is passed, merging several by a comparison
finer than their order, and keeping the first item of each key. -/

namespace Bahia.Foundation
open List

universe u v

variable {Item : Type u} {Key : Type v} [BEq Key]

variable {items : List Item}

/-- Where only earlier items qualify, reading up to the first failure reads all of them. -/
theorem takeWhile_eq_filter
    (closed : items.Pairwise fun first second => keep second = true → keep first = true) :
    items.takeWhile keep = items.filter keep := by
  induction items with
  | nil => rfl
  | cons head rest ih =>
    obtain ⟨first, later⟩ := pairwise_cons.mp closed
    by_cases kept : keep head = true
    · rw [takeWhile_cons_of_pos kept, filter_cons_of_pos kept, ih later]
    have nothing : rest.filter keep = [] := by
      rw [filter_eq_nil_iff]
      intro item member passes
      exact kept (first item member passes)
    rw [takeWhile_cons_of_neg kept, filter_cons_of_neg kept, nothing]

/-- A merge keeps an order that its comparison refines. -/
theorem pairwise_merge {order : Item → Item → Prop} {before : Item → Item → Bool}
    (trans : ∀ {first second third}, order first second → order second third → order first third)
    (refines : ∀ first second, before first second = true → order first second)
    (total : ∀ first second, before first second = false → order second first)
    {left right : List Item} (one : left.Pairwise order) (other : right.Pairwise order) :
    (left.merge right before).Pairwise order := by
  induction left generalizing right with
  | nil => simpa using other
  | cons head rest outer =>
    obtain ⟨headFirst, restOrdered⟩ := pairwise_cons.mp one
    induction right with
    | nil => simpa using one
    | cons next later inner =>
      obtain ⟨nextFirst, laterOrdered⟩ := pairwise_cons.mp other
      rw [cons_merge_cons]
      by_cases chosen : before head next = true
      · rw [if_pos chosen]
        refine pairwise_cons.mpr ⟨?_, outer restOrdered other⟩
        intro item member
        rcases mem_merge.mp member with mine | yours
        · exact headFirst item mine
        rcases mem_cons.mp yours with same | after
        · exact same ▸ refines head next chosen
        · exact trans (refines head next chosen) (nextFirst item after)
      · have order := total head next (Bool.not_eq_true _ ▸ chosen)
        rw [if_neg chosen]
        refine pairwise_cons.mpr ⟨?_, inner laterOrdered⟩
        intro item member
        rcases mem_merge.mp member with mine | yours
        · rcases mem_cons.mp mine with same | after
          · exact same ▸ order
          · exact trans order (headFirst item after)
        · exact nextFirst item yours

/-- The items of which no earlier one has the same key. -/
def firstOfEach (key : Item → Key) (items : List Item) : List Item :=
  items.eraseDupsBy fun first second => key first == key second

variable {key : Item → Key}

theorem firstOfEach_cons (head : Item) (rest : List Item) :
    firstOfEach key (head :: rest) =
      head :: firstOfEach key (rest.filter fun item => key item != key head) := by
  have test : ∀ item, decide ((key item == key head) = false) = (key item != key head) := by
    intro item
    cases same : key item == key head with
    | true | false => simp [bne, same]
  simp only [firstOfEach, eraseDupsBy_cons, test]

/-- Induction over a list whose tail loses the items with the key of its head. -/
theorem firstOfEach_induction {motive : List Item → Prop} (key : Item → Key) (nil : motive [])
    (cons : ∀ head rest, motive (rest.filter fun item => key item != key head) →
      motive (head :: rest)) (items : List Item) : motive items := by
  generalize size : items.length = count
  induction count using Nat.strongRecOn generalizing items with
  | ind count ih =>
    cases items with
    | nil => exact nil
    | cons =>
      apply cons
      apply ih _ ?_ _ rfl
      rw [← size]
      exact Nat.lt_succ_of_le (length_filter_le _ _)

theorem firstOfEach_sublist (key : Item → Key) (items : List Item) :
    (firstOfEach key items).Sublist items := by
  induction items using firstOfEach_induction key with
  | nil => exact .slnil
  | cons head rest ih =>
    rw [firstOfEach_cons]
    exact (ih.trans filter_sublist).cons_cons head

variable [LawfulBEq Key]

theorem firstOfEach_distinct (key : Item → Key) (items : List Item) :
    (firstOfEach key items).Pairwise fun first second => key first ≠ key second := by
  induction items using firstOfEach_induction key with
  | nil => exact .nil
  | cons head rest ih =>
    rw [firstOfEach_cons]
    refine pairwise_cons.mpr ⟨?_, ih⟩
    intro item member
    have kept := (firstOfEach_sublist key _).mem member
    exact (bne_iff_ne.mp (mem_filter.mp kept).2).symm

/-- Nothing is lost when items with one key are equal. -/
theorem mem_firstOfEach
    (same : ∀ first ∈ items, ∀ second ∈ items, key first = key second → first = second) :
    item ∈ firstOfEach key items ↔ item ∈ items := by
  refine ⟨(firstOfEach_sublist key items).mem, ?_⟩
  induction items using firstOfEach_induction key with
  | nil => exact id
  | cons head rest ih =>
    intro member
    rw [firstOfEach_cons]
    by_cases equal : item = head
    · exact equal ▸ mem_cons_self
    have inside := mem_of_ne_of_mem equal member
    apply mem_cons_of_mem
    apply ih
    · intro first firstMember second secondMember
      exact same first (mem_cons_of_mem _ (mem_of_mem_filter firstMember)) second
        (mem_cons_of_mem _ (mem_of_mem_filter secondMember))
    · refine mem_filter.mpr ⟨inside, bne_iff_ne.mpr ?_⟩
      intro shared
      exact equal (same item member head mem_cons_self shared)

theorem getElem?_concat_cases (found : (items ++ [last])[index]? = some item) :
    items[index]? = some item ∧ index < items.length ∨ index = items.length ∧ item = last := by
  rcases Nat.lt_or_ge index items.length with inside | outside
  · rw [List.getElem?_append_left inside] at found
    exact .inl ⟨found, inside⟩
  rw [List.getElem?_append_right outside, List.getElem?_singleton] at found
  split at found
  · exact .inr ⟨by omega, (Option.some.inj found).symm⟩
  · cases found

/-- Replacing an item changes a count by that item alone. -/
theorem countP_set_of_get (p : Item → Bool) (found : items[index]? = some old) (new : Item) :
    (items.set index new).countP p + (if p old then 1 else 0) =
      items.countP p + (if p new then 1 else 0) := by
  induction items generalizing index with
  | nil => simp at found
  | cons head rest ih =>
    cases index with
    | zero =>
      cases Option.some.inj found
      rw [set_cons_zero, countP_cons, countP_cons]
      omega
    | succ =>
      have later := ih found
      rw [set_cons_succ, countP_cons, countP_cons]
      omega

theorem existsUnique_of_countP_one (one : items.countP p = 1) :
    ∃! index : Nat, ∃ item, items[index]? = some item ∧ p item = true := by
  induction items with
  | nil => cases one
  | cons head rest ih =>
    rw [countP_cons] at one
    cases chosen : p head with
    | true =>
      rw [chosen, if_pos rfl] at one
      have others := countP_eq_zero.mp (Nat.succ.inj one)
      refine ⟨0, ⟨head, rfl, chosen⟩, ?_⟩
      rintro (_ | index) ⟨item, found, holds⟩
      · rfl
      · exact absurd holds (others item (mem_of_getElem? found))
    | false =>
      rw [chosen, if_neg Bool.false_ne_true] at one
      obtain ⟨index, ⟨item, found, holds⟩, unique⟩ := ih one
      refine ⟨index + 1, ⟨item, found, holds⟩, ?_⟩
      rintro (_ | other) ⟨item, found, holds⟩
      · cases Option.some.inj found
        exact nomatch chosen.symm.trans holds
      · rw [unique other ⟨item, found, holds⟩]

end Bahia.Foundation
