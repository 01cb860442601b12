import Bahia.Boltcoord.Model

/-! What the write path leaves stored. -/

namespace Bahia.Boltdb.BoltBackend
open Foundation Nostr

@[simp] theorem not_empty_holds (event : Event) : ¬ empty.Holds event := by
  simp [Holds, empty]

variable {b : BoltBackend} {event : Event}

theorem Holds.mem (held : b.Holds event) :
    event.id ∈ b.events :=
  Bucket.mem_of_get held

theorem holds_of_mem {id : ID} (member : id ∈ b.events) :
    ∃ event, event.id = id ∧ b.Holds event := by
  obtain ⟨event, found⟩ := Bucket.mem_iff_get.mp member
  have same := b.keyed found
  exact ⟨event, same, by rw [Holds, same]; exact found⟩

theorem Holds.eq (held : b.Holds first) (other : b.Holds second) (same : first.id = second.id) :
    first = second := by
  rw [Holds, same] at held
  exact Option.some.inj (held.symm.trans other)

theorem mem_values : event ∈ b.events.values ↔ b.Holds event := by
  rw [Bucket.mem_values]
  constructor
  · intro ⟨id, found⟩
    rw [Holds, b.keyed found]
    exact found
  · intro held
    exact ⟨event.id, held⟩

theorem mem_found : event ∈ b.found index filter ↔ b.Holds event ∧ index filter event = true := by
  rw [found, (List.perm_insertionSort _ _).mem_iff, List.mem_filter, mem_values]

theorem put_holds (free : event.id ∉ b.events) :
    (b.put event).Holds other ↔ other = event ∨ b.Holds other := by
  constructor
  · intro held
    rcases Bucket.get_put_cases held with ⟨_, equal⟩ | ⟨_, before⟩
    · exact .inl equal.symm
    · exact .inr before
  · intro either
    rcases either with same | held
    · rw [same]
      exact Bucket.get_put_self ..
    · have different : event.id ≠ other.id := fun same => free (same ▸ held.mem)
      exact (Bucket.get_put_of_ne _ different _).trans held

theorem deleteEvent_holds {id : ID} :
    (b.deleteEvent id).Holds event ↔ b.Holds event ∧ id ≠ event.id := by
  constructor
  · intro held
    obtain ⟨different, before⟩ := Bucket.get_delete_cases held
    exact ⟨before, different.symm⟩
  · intro ⟨held, different⟩
    exact (Bucket.get_delete_of_ne _ different).trans held

theorem deleteEvents_holds {targets : List Event} :
    (targets.foldl (fun b target => b.deleteEvent target.id) b).Holds event ↔
      b.Holds event ∧ ∀ target ∈ targets, target.id ≠ event.id := by
  induction targets generalizing b with
  | nil => simp
  | cons target rest ih =>
    rw [List.foldl_cons, ih, deleteEvent_holds, List.forall_mem_cons, and_assoc]

end Bahia.Boltdb.BoltBackend

namespace Bahia.Boltcoord
open Foundation Nostr Boltdb

def sampleID (byte : Byte) : ID := ⟨byte :: List.replicate 31 byte, by simp⟩

@[simp] theorem sampleID_inj : sampleID first = sampleID second ↔ first = second := by
  simp [sampleID]

def sameHash : Bytes → FixedBytes 32 := fun _ => FixedBytes.zero 32

section
variable (validKey : PubKey → Bool)

theorem mem_deletedCoordinates :
    c ∈ deletedCoordinates validKey request ↔
      ∃ tag ∈ request.tags, deletedCoordinate validKey request.pubKey tag = some c := by
  simp [deletedCoordinates, List.mem_eraseDups, List.mem_filterMap]

end

namespace Store
variable {sha256 : Bytes → FixedBytes 32}

variable {st : Store} {event request : Event}

theorem save_fresh (fresh : event.id ∉ st.backend.events) :
    st.save sha256 event =
      ({ st.indexTags sha256 event with backend := st.backend.put event }, true) := by
  unfold save BoltBackend.saveEvent
  rw [if_neg fresh]

theorem mem_indexTags :
    row ∈ (st.indexTags sha256 event).tags ↔ row ∈ st.tags ∨ row ∈ tagKeys sha256 event := by
  unfold indexTags
  generalize st.tags = rows
  induction tagKeys sha256 event generalizing rows with
  | nil => simp
  | cons key rest ih =>
    rw [List.foldl_cons, ih, Bucket.mem_put, List.mem_cons]
    constructor
    · rintro ((same | stored) | later)
      · exact .inr (.inl same)
      · exact .inl stored
      · exact .inr (.inr later)
    · rintro (stored | same | later)
      · exact .inl (.inr stored)
      · exact .inl (.inl same)
      · exact .inr later

theorem mem_unindexTags :
    row ∈ (st.unindexTags sha256 event).tags ↔ row ∈ st.tags ∧ row ∉ tagKeys sha256 event := by
  unfold unindexTags
  generalize st.tags = rows
  induction tagKeys sha256 event generalizing rows with
  | nil => simp
  | cons key rest ih =>
    rw [List.foldl_cons, ih, Bucket.mem_delete, List.mem_cons, not_or]
    constructor
    · intro ⟨⟨different, stored⟩, later⟩
      exact ⟨stored, different, later⟩
    · intro ⟨stored, different, later⟩
      exact ⟨⟨different, stored⟩, later⟩

theorem addTargets_ids {targets events : List Event} {id : ID} :
    (∃ target ∈ events.foldl addTarget targets, target.id = id) ↔
      (∃ target ∈ targets, target.id = id) ∨ ∃ event ∈ events, event.id = id := by
  induction events generalizing targets with
  | nil => simp
  | cons event rest ih =>
    rw [List.foldl_cons, ih]
    have step : (∃ target ∈ addTarget targets event, target.id = id) ↔
        (∃ target ∈ targets, target.id = id) ∨ event.id = id := by
      unfold addTarget
      split
      next known =>
        obtain ⟨target, member, same⟩ := List.any_eq_true.mp known
        constructor
        · exact .inl
        · intro either
          rcases either with earlier | equal
          · exact earlier
          · exact ⟨target, member, (beq_iff_eq.mp same).trans equal⟩
      next => simp [or_and_right, exists_or]
    rw [step]
    simp [or_assoc]

theorem deleteAll_holds {targets : List Event} :
    (targets.foldl (fun st target => st.delete sha256 target) st).backend.Holds event ↔
      st.backend.Holds event ∧ ∀ target ∈ targets, target.id ≠ event.id := by
  induction targets generalizing st with
  | nil => simp
  | cons target rest ih =>
    rw [List.foldl_cons, ih, List.forall_mem_cons, ← and_assoc]
    exact and_congr_left fun _ => BoltBackend.deleteEvent_holds

theorem mem_namedTargets :
    target ∈ st.namedTargets request tag ↔ st.backend.Holds target ∧
      namedID tag = some target.id ∧ target.pubKey = request.pubKey ∧
      target.kind ≠ kindDeletion := by
  unfold namedTargets
  cases read : namedID tag with
  | none => simp
  | some =>
    simp only [BoltBackend.queryByIds, List.mem_filter, List.mem_filterMap, List.mem_singleton,
      exists_eq_left, Bool.and_eq_true, beq_iff_eq, bne_iff_ne, Option.some.injEq]
    constructor
    · intro ⟨stored, ⟨same, own⟩, other⟩
      exact ⟨by rw [BoltBackend.Holds, same]; exact stored, same.symm, own, other⟩
    · intro ⟨held, same, own, other⟩
      exact ⟨by rw [same]; exact held, ⟨same.symm, own⟩, other⟩

/-- The request names the event in an `e` tag, and its author may delete it. -/
def Names (request target : Event) : Prop :=
  (∃ tag ∈ request.tags, namedID tag = some target.id) ∧ target.pubKey = request.pubKey ∧
    target.kind ≠ kindDeletion

variable {validKey : PubKey → Bool}

theorem targets_ids {scan : Scan} {id : ID} :
    (∃ target ∈ deletionTargets validKey scan st request, target.id = id) ↔
      (∃ tag ∈ request.tags, ∃ target ∈ st.namedTargets request tag, target.id = id) ∨
        ∃ c ∈ deletedCoordinates validKey request,
          ∃ version ∈ versions scan c request.createdAt none, version.id = id := by
  unfold deletionTargets
  rw [addTargets_ids]
  simp only [List.not_mem_nil, false_and, exists_false, false_or, List.mem_append, or_and_right,
    exists_or, List.mem_flatMap]
  constructor
  · intro either
    rcases either with ⟨target, ⟨tag, member, found⟩, same⟩ | ⟨version, ⟨c, member, found⟩, same⟩
    · exact .inl ⟨tag, member, target, found, same⟩
    · exact .inr ⟨c, member, version, found, same⟩
  · intro either
    rcases either with ⟨tag, member, target, found, same⟩ | ⟨c, member, version, found, same⟩
    · exact .inl ⟨target, ⟨tag, member, found⟩, same⟩
    · exact .inr ⟨version, ⟨c, member, found⟩, same⟩

/-- `applyDeletion` removes what the request names and what is read as a version of its
coordinates, and nothing else. -/
theorem applyDeletion_holds :
    (applyDeletion sha256 validKey scan st request).1.backend.Holds event ↔
      st.backend.Holds event ∧ ¬ Names request event ∧
        ∀ c ∈ deletedCoordinates validKey request,
          ∀ version ∈ versions scan c request.createdAt none, version.id ≠ event.id := by
  unfold applyDeletion
  rw [deleteAll_holds]
  apply and_congr_right
  intro held
  constructor
  · intro spared
    refine ⟨?_, ?_⟩
    · intro ⟨⟨tag, inside, read⟩, own, other⟩
      obtain ⟨target, member, same⟩ := targets_ids.mpr (.inl ⟨tag, inside, event,
        mem_namedTargets.mpr ⟨held, read, own, other⟩, rfl⟩)
      exact spared target member same
    · intro c member version found same
      obtain ⟨target, inside, equal⟩ := targets_ids.mpr (.inr ⟨c, member, version, found, same⟩)
      exact spared target inside equal
  · intro ⟨unnamed, uncovered⟩ target member same
    rcases targets_ids.mp ⟨target, member, same⟩ with
      ⟨tag, inside, named, found, equal⟩ | ⟨c, inside, version, found, equal⟩
    · obtain ⟨stored, read, own, other⟩ := mem_namedTargets.mp found
      have one := stored.eq held equal
      subst one
      exact unnamed ⟨⟨tag, inside, read⟩, own, other⟩
    · exact uncovered c inside version found equal

end Store

end Bahia.Boltcoord
