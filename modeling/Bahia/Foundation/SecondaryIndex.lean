import Bahia.Foundation.Bucket

/-! Secondary indexes over a keyed table. A rule names the index key of a row, if
the row has one, and a key tells which row it was made from; an index is exact when
it holds the keys of the current rows and nothing else. -/

namespace Bahia.Foundation

universe u v w

/-- How one index is derived from the rows of a table. Reserved keys belong to the
index itself and never come from a row. -/
structure IndexRule (Id : Type u) (Row : Type v) (Key : Type w) where
  key : Id → Row → Option Key
  reserved : Key → Prop
  owner : ∀ {first second : Id} {firstRow secondRow : Row} {shared : Key},
    key first firstRow = some shared → key second secondRow = some shared → first = second
  apart : ∀ {id : Id} {row : Row} {made : Key}, key id row = some made → ¬reserved made

namespace IndexRule
variable {Id : Type u} {Row : Type v} {Key : Type w} (rule : IndexRule Id Row Key)

/-- The index holds the reserved keys and exactly the keys of the stored rows. -/
def Exact (table : Id → Option Row) (index : Key → Prop) : Prop :=
  ∀ key, index key ↔ rule.reserved key ∨ ∃ id row, table id = some row ∧ rule.key id row = some key

/-- The key of the row under an id, if there is a row and it has one. -/
def keyAt (table : Id → Option Row) (id : Id) : Option Key := (table id).bind (rule.key id)

variable {rule} {table changed : Id → Option Row} {id : Id} {key : Key}

theorem keyAt_absent (absent : table id = none) : rule.keyAt table id = none := by
  simp [keyAt, absent]

theorem keyAt_found {row : Row} (found : table id = some row) :
    rule.keyAt table id = rule.key id row := by
  simp [keyAt, found]

/-- One row changes: the index must lose the key of the old row and gain the key of
the new one. -/
theorem Exact.change {index updated : Key → Prop} (exact : rule.Exact table index)
    (frame : ∀ other, other ≠ id → changed other = table other)
    (rows : ∀ key, updated key ↔
      index key ∧ rule.keyAt table id ≠ some key ∨ rule.keyAt changed id = some key) :
    rule.Exact changed updated := by
  intro key
  rw [rows key, exact key]
  constructor
  · rintro (⟨kept | ⟨other, row, found, made⟩, lost⟩ | gained)
    · exact .inl kept
    · have different : other ≠ id := by
        intro same
        subst same
        exact lost ((keyAt_found found).trans made)
      exact .inr ⟨other, row, (frame other different).trans found, made⟩
    · exact .inr ⟨id, Option.bind_eq_some_iff.mp gained⟩
  · rintro (kept | ⟨other, row, found, made⟩)
    · refine .inl ⟨.inl kept, fun held => ?_⟩
      obtain ⟨row, _, made⟩ := Option.bind_eq_some_iff.mp held
      exact rule.apart made kept
    · by_cases same : other = id
      · subst same
        exact .inr ((keyAt_found found).trans made)
      · refine .inl ⟨.inr ⟨other, row, (frame other same).symm.trans found, made⟩, fun held => ?_⟩
        obtain ⟨old, _, oldMade⟩ := Option.bind_eq_some_iff.mp held
        exact same (rule.owner made oldMade)

section Rows
variable [LinearOrder Id] [LinearOrder Key] {rows : Bucket Id Row} {index updated : Bucket Key Unit}
variable {row : Row} (exact : rule.Exact rows.get (· ∈ index))
include exact

theorem Exact.put (keys : ∀ other, other ∈ updated ↔
      other ∈ index ∧ rule.keyAt rows.get id ≠ some other ∨ rule.key id row = some other) :
    rule.Exact (rows.put id row).get (· ∈ updated) := by
  refine exact.change (fun _ different => rows.get_put_of_ne (Ne.symm different) row) ?_
  rw [keyAt_found (rows.get_put_self id row)]
  exact keys

/-- A changed row that keeps its key, or the lack of one, leaves the index exact. -/
theorem Exact.put_keep (same : rule.key id row = rule.keyAt rows.get id) :
    rule.Exact (rows.put id row).get (· ∈ index) := by
  refine exact.put fun key => ?_
  rw [same]
  by_cases made : rule.keyAt rows.get id = some key
  · have held : key ∈ index := (exact key).mpr (.inr ⟨id, Option.bind_eq_some_iff.mp made⟩)
    simp [made, held]
  · simp [made]

/-- A row gains a key it did not have. -/
theorem Exact.put_gain (before : rule.keyAt rows.get id = none) (after : rule.key id row = some key) :
    rule.Exact (rows.put id row).get (· ∈ index.put key ()) :=
  exact.put fun other => by simp [before, after, or_comm, @eq_comm _ other]

/-- A row loses the key it had. -/
theorem Exact.put_lose (before : rule.keyAt rows.get id = some key) (after : rule.key id row = none) :
    rule.Exact (rows.put id row).get (· ∈ index.delete key) :=
  exact.put fun other => by simp [before, after, and_comm, @eq_comm _ other]

/-- A row has its key replaced. -/
theorem Exact.put_move (before : rule.keyAt rows.get id = some key)
    (after : rule.key id row = some next) :
    rule.Exact (rows.put id row).get (· ∈ (index.delete key).put next ()) :=
  exact.put fun other => by simp [before, after, and_comm, or_comm, @eq_comm _ other]

theorem Exact.delete (keys : ∀ other, other ∈ updated ↔
      other ∈ index ∧ rule.keyAt rows.get id ≠ some other) :
    rule.Exact (rows.delete id).get (· ∈ updated) := by
  refine exact.change (fun _ different => rows.get_delete_of_ne (Ne.symm different)) ?_
  rw [keyAt_absent (rows.get_delete_self id)]
  simpa using keys

theorem Exact.delete_keep (before : rule.keyAt rows.get id = none) :
    rule.Exact (rows.delete id).get (· ∈ index) :=
  exact.delete fun other => by simp [before]

/-- A deleted row takes its key along. -/
theorem Exact.delete_lose (before : rule.keyAt rows.get id = some key) :
    rule.Exact (rows.delete id).get (· ∈ index.delete key) :=
  exact.delete fun other => by simp [before, and_comm, @eq_comm _ other]

end Rows

end IndexRule

end Bahia.Foundation
