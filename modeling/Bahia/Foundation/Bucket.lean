import Mathlib

/-! Ordered key-value buckets: the rows a transaction reads, writes and walks in
key order. A bucket is determined by its lookups. -/

namespace Bahia.Foundation

universe u v

/-- The rows of one bucket, ordered by key. -/
structure Bucket (Key : Type u) (Value : Type v) [LinearOrder Key] where
  rows : Std.ExtTreeMap Key Value compare

namespace Bucket
variable {Key : Type u} {Value : Type v} [LinearOrder Key]

def empty : Bucket Key Value := ⟨∅⟩

instance : EmptyCollection (Bucket Key Value) := ⟨empty⟩

instance : Inhabited (Bucket Key Value) := ⟨empty⟩

def get (bucket : Bucket Key Value) (key : Key) : Option Value :=
  bucket.rows[key]?

def put (bucket : Bucket Key Value) (key : Key) (value : Value) : Bucket Key Value :=
  ⟨bucket.rows.insert key value⟩

def delete (bucket : Bucket Key Value) (key : Key) : Bucket Key Value :=
  ⟨bucket.rows.erase key⟩

def filter (bucket : Bucket Key Value) (keep : Value → Bool) : Bucket Key Value :=
  ⟨bucket.rows.filter fun _ => keep⟩

def map {Image : Type} (bucket : Bucket Key Value) (change : Value → Image) : Bucket Key Image :=
  ⟨bucket.rows.map fun _ => change⟩

def keys (bucket : Bucket Key Value) : List Key := bucket.rows.keys

def values (bucket : Bucket Key Value) : List Value := bucket.keys.filterMap bucket.get

/-- The first key at or after `key`. -/
def seek (bucket : Bucket Key Value) (key : Key) : Option Key :=
  bucket.keys.find? fun candidate => !decide (candidate < key)

instance : Membership Key (Bucket Key Value) := ⟨fun bucket key => (bucket.get key).isSome = true⟩

variable {bucket : Bucket Key Value} {key other : Key}

theorem mem_def :
    key ∈ bucket ↔ (bucket.get key).isSome = true := Iff.rfl

instance (bucket : Bucket Key Value) (key : Key) : Decidable (key ∈ bucket) :=
  inferInstanceAs (Decidable ((bucket.get key).isSome = true))

@[simp] theorem get_empty (key : Key) : (∅ : Bucket Key Value).get key = none :=
  Std.ExtTreeMap.getElem?_empty

section
variable (bucket : Bucket Key Value)

theorem get_map (change : Value → Image) (key : Key) :
    (bucket.map change).get key = (bucket.get key).map change :=
  Std.ExtTreeMap.getElem?_map

theorem get_filter (keep : Value → Bool) (key : Key) :
    (bucket.filter keep).get key = (bucket.get key).filter keep :=
  Std.ExtTreeMap.getElem?_filter'

theorem get_put (key other : Key) (value : Value) :
    (bucket.put key value).get other = if key = other then some value else bucket.get other := by
  simp only [put, get, Std.ExtTreeMap.getElem?_insert, compare_eq_iff_eq]

@[simp] theorem get_put_self (key : Key) (value : Value) :
    (bucket.put key value).get key = some value := by
  simp [get_put]

theorem get_put_of_ne (different : key ≠ other)
    (value : Value) : (bucket.put key value).get other = bucket.get other := by
  simp [get_put, different]

theorem get_delete (key other : Key) :
    (bucket.delete key).get other = if key = other then none else bucket.get other := by
  simp only [delete, get, Std.ExtTreeMap.getElem?_erase, compare_eq_iff_eq]

@[simp] theorem get_delete_self (key : Key) : (bucket.delete key).get key = none := by
  simp [get_delete]

theorem get_delete_of_ne (different : key ≠ other) :
    (bucket.delete key).get other = bucket.get other := by
  simp [get_delete, different]

end

/-- A row after a write is the one written or an older one. -/
theorem get_put_cases (present : (bucket.put key value).get other = some found) :
    (other = key ∧ value = found) ∨ (other ≠ key ∧ bucket.get other = some found) := by
  by_cases same : key = other
  · rw [same, get_put_self] at present
    exact .inl ⟨same.symm, Option.some.inj present⟩
  · rw [get_put_of_ne _ same] at present
    exact .inr ⟨Ne.symm same, present⟩

theorem get_delete_cases (present : (bucket.delete key).get other = some found) :
    other ≠ key ∧ bucket.get other = some found := by
  by_cases same : key = other
  · rw [same, get_delete_self] at present
    cases present
  · rw [get_delete_of_ne _ same] at present
    exact ⟨Ne.symm same, present⟩

/-- A loop that writes one value for each key. -/
theorem get_foldl_put (keys : List Key) (value : Key → Value) (bucket : Bucket Key Value)
    (key : Key) :
    (keys.foldl (fun rows key => rows.put key (value key)) bucket).get key =
      if key ∈ keys then some (value key) else bucket.get key := by
  induction keys generalizing bucket with
  | nil => simp
  | cons first rest ih =>
    rw [List.foldl_cons, ih]
    by_cases later : key ∈ rest
    · simp [later]
    by_cases same : first = key
    · simp [later, same]
    · simp [later, get_put_of_ne _ same, Ne.symm same]

@[simp] theorem not_mem_empty (key : Key) : key ∉ (∅ : Bucket Key Value) := by
  simp [mem_def]

@[simp] theorem mem_put :
    other ∈ bucket.put key value ↔ other = key ∨ other ∈ bucket := by
  by_cases same : key = other
  · simp [mem_def, same]
  · simp [mem_def, get_put, same, Ne.symm same]

@[simp] theorem mem_delete :
    other ∈ bucket.delete key ↔ other ≠ key ∧ other ∈ bucket := by
  by_cases same : key = other
  · simp [mem_def, same]
  · simp [mem_def, get_delete, same, Ne.symm same]

theorem mem_of_get (found : bucket.get key = some value) : key ∈ bucket := by
  simp [mem_def, found]

theorem mem_iff_get :
    key ∈ bucket ↔ ∃ value, bucket.get key = some value := by
  simp [mem_def, Option.isSome_iff_exists]

@[simp] theorem mem_keys :
    key ∈ bucket.keys ↔ key ∈ bucket := by
  rw [keys, Std.ExtTreeMap.mem_keys, mem_def, get, Std.ExtTreeMap.mem_iff_isSome_getElem?]

theorem mem_values :
    value ∈ bucket.values ↔ ∃ key, bucket.get key = some value := by
  simp only [values, List.mem_filterMap, mem_keys]
  constructor
  · intro ⟨key, _, found⟩
    exact ⟨key, found⟩
  · intro ⟨key, found⟩
    exact ⟨key, mem_of_get found, found⟩

theorem mem_values_put {other : Value}
    (member : other ∈ (bucket.put key value).values) : other = value ∨ other ∈ bucket.values := by
  obtain ⟨stored, found⟩ := mem_values.mp member
  by_cases same : key = stored
  · rw [same, get_put_self] at found
    exact .inl (Option.some.inj found).symm
  · rw [get_put_of_ne _ same] at found
    exact .inr (mem_values.mpr ⟨stored, found⟩)

section
variable {other : Value} (member : other ∈ bucket.values) (apart : bucket.get key ≠ some other)
include member apart

/-- A write leaves the values of the other keys. -/
theorem mem_values_put_of_ne : other ∈ (bucket.put key value).values := by
  obtain ⟨stored, found⟩ := mem_values.mp member
  have different : key ≠ stored := by
    intro same
    exact apart (same ▸ found)
  exact mem_values.mpr ⟨stored, (get_put_of_ne _ different _).trans found⟩

theorem mem_values_delete_of_ne : other ∈ (bucket.delete key).values := by
  obtain ⟨stored, found⟩ := mem_values.mp member
  have different : key ≠ stored := by
    intro same
    exact apart (same ▸ found)
  exact mem_values.mpr ⟨stored, (get_delete_of_ne _ different).trans found⟩

end

theorem mem_values_put_self (bucket : Bucket Key Value) (key : Key) (value : Value) :
    value ∈ (bucket.put key value).values := mem_values.mpr ⟨key, get_put_self _ _ _⟩

theorem keys_empty : (∅ : Bucket Key Value).keys = [] := by
  apply List.eq_nil_iff_forall_not_mem.mpr
  intro key member
  exact not_mem_empty key (mem_keys.mp member)

theorem get_of_keys_nil (empty : bucket.keys = []) (key : Key) :
    bucket.get key = none := by
  have absent : key ∉ bucket := by
    intro member
    have listed := mem_keys.mpr member
    rw [empty] at listed
    cases listed
  exact Option.not_isSome_iff_eq_none.mp absent

theorem keys_sorted (bucket : Bucket Key Value) : bucket.keys.Pairwise (· < ·) := by
  have ordered := Std.ExtTreeMap.ordered_keys (t := bucket.rows)
  exact ordered.imp fun before => compare_lt_iff_lt.mp before

theorem keys_nodup (bucket : Bucket Key Value) : bucket.keys.Nodup :=
  (keys_sorted bucket).imp fun before => ne_of_lt before

/-- A seek stops at the first key that is not before the one sought. -/
theorem seek_some (stopped : bucket.seek key = some found) :
    found ∈ bucket ∧ ¬ found < key ∧ ∀ other ∈ bucket, ¬ other < key → ¬ other < found := by
  obtain ⟨reached, before, after, split, passed⟩ := List.find?_eq_some_iff_append.mp stopped
  have sorted := bucket.keys_sorted
  rw [split, List.pairwise_append] at sorted
  refine ⟨mem_keys.mp (split ▸ by simp), by simpa using reached, ?_⟩
  intro other member later
  have listed := mem_keys.mpr member
  rw [split] at listed
  rcases List.mem_append.mp listed with early | rest
  · exact absurd (by simpa using passed other early) later
  rcases List.mem_cons.mp rest with same | behind
  · rw [same]
    exact lt_irrefl found
  · exact not_lt.mpr ((List.pairwise_cons.mp sorted.2.1).1 other behind).le

theorem seek_none (ended : bucket.seek key = none) :
    ∀ other ∈ bucket, other < key := by
  intro other member
  simpa using List.find?_eq_none.mp ended other (mem_keys.mpr member)

theorem get_foldl_delete (keys : List Key) (bucket : Bucket Key Value) (key : Key) :
    (keys.foldl delete bucket).get key = if key ∈ keys then none else bucket.get key := by
  induction keys generalizing bucket with
  | nil => simp
  | cons first rest ih =>
    rw [List.foldl_cons, ih, get_delete]
    by_cases later : key ∈ rest
    · simp [later]
    · simp [later, eq_comm]

@[ext] theorem ext {first second : Bucket Key Value}
    (same : ∀ key, first.get key = second.get key) : first = second := by
  cases first
  cases second
  exact congrArg Bucket.mk (Std.ExtTreeMap.ext_getElem? same)

/-- Every row lives on in a later version, and no row is new. -/
structure Evolves (kept : Value → Value → Prop) (before after : Bucket Key Value) : Prop where
  lives : ∀ key old, before.get key = some old → ∃ new, after.get key = some new ∧ kept old new
  absent : ∀ key, before.get key = none → after.get key = none

namespace Evolves
variable {kept : Value → Value → Prop} {first second third : Bucket Key Value}

theorem trans
    (transitive : ∀ {first second third}, kept first second → kept second third → kept first third)
    (early : Evolves kept first second) (late : Evolves kept second third) :
    Evolves kept first third where
  lives key old found := by
    obtain ⟨middle, held, early⟩ := early.lives key old found
    obtain ⟨new, stored, late⟩ := late.lives key middle held
    exact ⟨new, stored, transitive early late⟩
  absent key none := late.absent key (early.absent key none)

theorem source (evolves : Evolves kept first second) (found : second.get key = some new) :
    ∃ old, first.get key = some old ∧ kept old new := by
  cases held : first.get key with
  | none => exact nomatch (evolves.absent key held).symm.trans found
  | some old =>
    obtain ⟨later, stored, step⟩ := evolves.lives key old held
    cases Option.some.inj (stored.symm.trans found)
    exact ⟨old, rfl, step⟩

variable (reflexive : ∀ value, kept value value)
include reflexive

theorem refl (bucket : Bucket Key Value) : Evolves kept bucket bucket :=
  ⟨fun _ value found => ⟨value, found, reflexive value⟩, fun _ absent => absent⟩

theorem put (found : bucket.get key = some old) (step : kept old new) :
    Evolves kept bucket (bucket.put key new) := by
  constructor
  · intro other value held
    by_cases same : key = other
    · subst same
      cases Option.some.inj (found.symm.trans held)
      exact ⟨new, get_put_self _ _ _, step⟩
    · exact ⟨value, (get_put_of_ne _ same _).trans held, reflexive value⟩
  · intro other absent
    have apart : key ≠ other := by
      rintro rfl
      exact nomatch found.symm.trans absent
    rw [get_put_of_ne _ apart]
    exact absent

end Evolves

end Bucket

end Bahia.Foundation
