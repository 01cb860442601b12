import Mathlib

/-! The highest-ranked of the items that qualify. -/

namespace Bahia.Foundation

universe u v

variable {Item : Type u} {Rank : Type v} [LinearOrder Rank]

/-- The item qualifies and no qualifying item outranks it. -/
structure Latest (rank : Item → Rank) (qualifies : Item → Prop) (item : Item) : Prop where
  qualified : qualifies item
  highest : ∀ other, qualifies other → rank other ≤ rank item

/-- Among finitely many items one is the latest, unless none qualifies. -/
theorem exists_latest (rank : Item → Rank) (items : Finset Item)
    (bounded : ∀ item, qualifies item → item ∈ items) (some : ∃ item, qualifies item) :
    ∃ item, Latest rank qualifies item := by
  classical
  obtain ⟨first, qualified⟩ := some
  have nonempty : (items.filter qualifies).Nonempty :=
    ⟨first, Finset.mem_filter.mpr ⟨bounded first qualified, qualified⟩⟩
  obtain ⟨item, member, highest⟩ := Finset.exists_max_image _ rank nonempty
  refine ⟨item, (Finset.mem_filter.mp member).2, ?_⟩
  intro other qualifiedOther
  exact highest other (Finset.mem_filter.mpr ⟨bounded other qualifiedOther, qualifiedOther⟩)

end Bahia.Foundation
