import Bahia.Lifecycle.Floor

/-! A lifecycle followed by what it has seen: the versions, and the marks deletion requests
leave on ids and coordinates. -/

namespace Bahia.Nostrutil
open Foundation Nostr Bucket

/-- The versions and deletion marks a lifecycle has been given. -/
@[ext] structure Seen where
  versions : Set Event
  ids : Set (ID × PubKey)
  addresses : Set (Address × Timestamp)

namespace Seen

def empty : Seen := ⟨∅, ∅, ∅⟩

/-- A mark names the version by id, or its coordinate at or after its `created_at`. -/
def Deletes (seen : Seen) (event : Event) : Prop :=
  (event.id, event.pubKey) ∈ seen.ids ∨ ∃ address time, addressOf event = some address ∧
    (address, time) ∈ seen.addresses ∧ event.createdAt ≤ time

/-- A mark the lifecycle keeps: coordinate marks at or before the epoch are not recorded. -/
def Bars (seen : Seen) (event : Event) : Prop :=
  (event.id, event.pubKey) ∈ seen.ids ∨ ∃ address time, addressOf event = some address ∧
    (address, time) ∈ seen.addresses ∧ event.createdAt ≤ time ∧ 0 < time

def markID (seen : Seen) (id : ID) (author : PubKey) : Seen :=
  { seen with ids := insert (id, author) seen.ids }

def markAddress (seen : Seen) (address : Address) (time : Timestamp) : Seen :=
  { seen with addresses := insert (address, time) seen.addresses }

def addVersion (seen : Seen) (event : Event) : Seen :=
  { seen with versions := insert event seen.versions }

variable {seen : Seen} {id : ID} {author : PubKey} {event : Event}

theorem bars_markID :
    (seen.markID id author).Bars event ↔
      (event.id = id ∧ event.pubKey = author) ∨ seen.Bars event := by
  simp only [Bars, markID, Set.mem_insert_iff, Prod.mk.injEq, or_assoc]

theorem deletes_markID :
    (seen.markID id author).Deletes event ↔
      (event.id = id ∧ event.pubKey = author) ∨ seen.Deletes event := by
  simp only [Deletes, markID, Set.mem_insert_iff, Prod.mk.injEq, or_assoc]

theorem exists_insert {marks : Set (Address × Timestamp)} {located : Address → Prop}
    {reaches : Timestamp → Prop} :
    (∃ place moment, located place ∧ (place, moment) ∈ insert (address, time) marks ∧ reaches moment) ↔
      (∃ place moment, located place ∧ (place, moment) ∈ marks ∧ reaches moment) ∨
        (located address ∧ reaches time) := by
  constructor
  · rintro ⟨place, moment, here, member, reached⟩
    rcases member with new | earlier
    · cases new
      exact .inr ⟨here, reached⟩
    · exact .inl ⟨place, moment, here, earlier, reached⟩
  · rintro (⟨place, moment, here, member, reached⟩ | ⟨here, reached⟩)
    · exact ⟨place, moment, here, .inr member, reached⟩
    · exact ⟨address, time, here, .inl rfl, reached⟩

theorem bars_markAddress :
    (seen.markAddress address time).Bars event ↔ seen.Bars event ∨
      (addressOf event = some address ∧ event.createdAt ≤ time ∧ 0 < time) := by
  simp only [Bars, markAddress, exists_insert, or_assoc]

theorem deletes_markAddress :
    (seen.markAddress address time).Deletes event ↔ seen.Deletes event ∨
      (addressOf event = some address ∧ event.createdAt ≤ time) := by
  simp only [Deletes, markAddress, exists_insert, or_assoc]

end Seen

/-- The head stands for a version that was seen; it is live unless a mark deletes it. -/
structure HeadOf (seen : Seen) (l : Lifecycle) (address : Address) (head : Head) (event : Event) :
    Prop where
  given : event ∈ seen.versions
  located : addressOf event = some address
  version : head.version = versionOf event
  id : head.id = event.id
  live : head.live = true → l.live.get event.id = some (entryOf event) ∧ ¬ seen.Bars event
  gone : head.live = false → seen.Deletes event

/-- A lifecycle that has been given exactly what was seen. -/
structure Tracks (seen : Seen) (l : Lifecycle) : Prop where
  distinct : ∀ first ∈ seen.versions, ∀ second ∈ seen.versions, first.id = second.id →
    first = second
  ids : ∀ id author, toLex (id, author) ∈ l.deletedIDs ↔ (id, author) ∈ seen.ids
  recorded : ∀ address time, l.deletedAddrs.get address = some time →
    0 < time ∧ (address, time) ∈ seen.addresses
  marked : ∀ address time, (address, time) ∈ seen.addresses → 0 < time →
    ∃ latest, l.deletedAddrs.get address = some latest ∧ time ≤ latest
  heads : ∀ address head, l.heads.get address = some head →
    ∃ event, HeadOf seen l address head event
  covered : ∀ event ∈ seen.versions, seen.Bars event ∨ l.Floors event
  live : ∀ id entry, l.live.get id = some entry → ∃ address head, entry.address = some address ∧
    l.heads.get address = some head ∧ head.id = id ∧ head.live = true

theorem tracks_new : Tracks .empty .new := by
  refine ⟨?_, ?_, ?_, ?_, ?_, ?_, ?_⟩
  · intro first member
    cases member
  · intro id author
    simp [Lifecycle.new, Seen.empty]
  · intro address time found
    rw [show Lifecycle.new.deletedAddrs.get address = none from get_empty _] at found
    cases found
  · intro address time member
    cases member
  · intro address head found
    rw [show Lifecycle.new.heads.get address = none from get_empty _] at found
    cases found
  · intro event member
    cases member
  · intro id entry found
    rw [show Lifecycle.new.live.get id = none from get_empty _] at found
    cases found

section Moves
variable {seen : Seen} {l : Lifecycle}

theorem Tracks.entry_of_live (tracks : Tracks seen l) {id : ID} {entry : Entry}
    (found : l.live.get id = some entry) : ∃ address head event,
      l.heads.get address = some head ∧ head.live = true ∧ HeadOf seen l address head event ∧
      event.id = id ∧ entry = entryOf event := by
  obtain ⟨address, head, _, present, sameID, live⟩ := tracks.live id entry found
  obtain ⟨event, stands⟩ := tracks.heads address head present
  have same : event.id = id := stands.id.symm.trans sameID
  have stored := (stands.live live).1
  rw [same, found] at stored
  exact ⟨address, head, event, present, live, stands, same, Option.some.inj stored⟩

variable {event : Event} {address : Address} {after : Seen} {next : Lifecycle}

theorem Tracks.head_unique (tracks : Tracks seen l) (stands : HeadOf seen l first one event)
    (also : HeadOf seen l second two other) (same : event.id = other.id) : first = second := by
  have equal := tracks.distinct event stands.given other also.given same
  have located := stands.located
  rw [equal, also.located] at located
  exact (Option.some.inj located).symm

theorem drop_heads (entry : Entry) (placed : entry.address = some address)
    (present : l.heads.get address = some head) (own : head.id = entry.id) :
    (l.drop entry).heads.get place =
      if address = place then some { head with live := false } else l.heads.get place := by
  simp only [Lifecycle.drop, Lifecycle.retireHead, placed, present, own, if_true]
  by_cases same : address = place
  · subst same
    rw [get_put_self, if_pos rfl]
  · rw [get_put_of_ne _ same, if_neg same]

/-- New marks on the same versions, heads and live entries. -/
structure Marked (seen after : Seen) (l next : Lifecycle) : Prop where
  versions : after.versions = seen.versions
  heads : next.heads = l.heads
  live : next.live = l.live
  bars : ∀ event, seen.Bars event → after.Bars event
  deletes : ∀ event, seen.Deletes event → after.Deletes event
  ids : ∀ id author, toLex (id, author) ∈ next.deletedIDs ↔ (id, author) ∈ after.ids
  recorded : ∀ address time, next.deletedAddrs.get address = some time →
    0 < time ∧ (address, time) ∈ after.addresses
  marked : ∀ address time, (address, time) ∈ after.addresses → 0 < time →
    ∃ latest, next.deletedAddrs.get address = some latest ∧ time ≤ latest

theorem insert_marks {Name Stamp : Type} {marks : Set (Name × Stamp)} {first : Name} {rest : List Name}
    {stamp : Stamp} :
    insert (first, stamp) marks ∪ {mark | mark.2 = stamp ∧ mark.1 ∈ rest} =
      marks ∪ {mark | mark.2 = stamp ∧ mark.1 ∈ first :: rest} := by
  ext ⟨name, given⟩
  simp only [Set.mem_union, Set.mem_insert_iff, Prod.mk.injEq, Set.mem_ofPred_eq, List.mem_cons]
  tauto

section
variable (tracks : Tracks seen l)
include tracks

theorem marked_id (id : ID) (author : PubKey) : Marked seen (seen.markID id author) l
      { l with deletedIDs := l.deletedIDs.put (toLex (id, author)) () } where
  versions := rfl
  heads := rfl
  live := rfl
  bars event bars := Seen.bars_markID.mpr (.inr bars)
  deletes event deletes := Seen.deletes_markID.mpr (.inr deletes)
  ids other writer := by
    simp only [mem_put, EmbeddingLike.apply_eq_iff_eq, tracks.ids, Seen.markID,
      Set.mem_insert_iff]
  recorded := tracks.recorded
  marked := tracks.marked

theorem marked_address (address : Address) (time : Timestamp) :
    Marked seen (seen.markAddress address time) l
      (if (l.deletedAddrs.get address).getD 0 < time then
        { l with deletedAddrs := l.deletedAddrs.put address time } else l) := by
  have bars : ∀ event, seen.Bars event → (seen.markAddress address time).Bars event :=
    fun event bars => Seen.bars_markAddress.mpr (.inl bars)
  have deletes : ∀ event, seen.Deletes event → (seen.markAddress address time).Deletes event :=
    fun event deletes => Seen.deletes_markAddress.mpr (.inl deletes)
  split
  · rename_i later
    have positive : 0 < time := by
      cases found : l.deletedAddrs.get address with
      | none =>
        rw [found] at later
        exact later
      | some recorded =>
        rw [found] at later
        exact (tracks.recorded address recorded found).1.trans later
    refine ⟨rfl, rfl, rfl, bars, deletes, tracks.ids, ?_, ?_⟩
    · intro place moment found
      rcases get_put_cases found with ⟨same, equal⟩ | ⟨_, before⟩
      · rw [same, ← equal]
        exact ⟨positive, .inl rfl⟩
      · obtain ⟨after, member⟩ := tracks.recorded place moment before
        exact ⟨after, .inr member⟩
    · intro place moment member after
      by_cases same : address = place
      · subst same
        refine ⟨time, get_put_self _ _ _, ?_⟩
        rcases member with here | earlier
        · cases here
          exact le_refl _
        · obtain ⟨latest, found, before⟩ := tracks.marked address moment earlier after
          rw [found] at later
          exact before.trans later.le
      · rcases member with here | earlier
        · cases here
          exact absurd rfl same
        · obtain ⟨latest, found, before⟩ := tracks.marked place moment earlier after
          exact ⟨latest, (get_put_of_ne _ same _).trans found, before⟩
  · rename_i early
    have covered := not_lt.mp early
    refine ⟨rfl, rfl, rfl, bars, deletes, tracks.ids, ?_, ?_⟩
    · intro place moment found
      obtain ⟨after, member⟩ := tracks.recorded place moment found
      exact ⟨after, .inr member⟩
    · intro place moment member after
      rcases member with here | earlier
      · cases here
        cases found : l.deletedAddrs.get address with
        | none =>
          rw [found] at covered
          exact absurd after (not_lt.mpr covered)
        | some latest =>
          rw [found] at covered
          exact ⟨latest, rfl, covered⟩
      · exact tracks.marked place moment earlier after

theorem tracks_marked (marked : Marked seen after l next)
    (clear : ∀ address head event, l.heads.get address = some head → head.live = true →
      HeadOf seen l address head event → ¬ after.Bars event) : Tracks after next := by
  refine ⟨?_, marked.ids, marked.recorded, marked.marked, ?_, ?_, ?_⟩
  · rw [marked.versions]
    exact tracks.distinct
  · intro address head found
    rw [marked.heads] at found
    obtain ⟨event, stands⟩ := tracks.heads address head found
    refine ⟨event, marked.versions ▸ stands.given, stands.located, stands.version, stands.id, ?_, ?_⟩
    · intro live
      exact ⟨marked.live ▸ (stands.live live).1, clear address head event found live stands⟩
    · intro gone
      exact marked.deletes event (stands.gone gone)
  · intro event member
    rw [marked.versions] at member
    rcases tracks.covered event member with bars | floors
    · exact .inl (marked.bars event bars)
    · exact .inr (Lifecycle.floors_kept (HeadsKept.of_eq marked.heads) floors)
  · intro id entry found
    rw [marked.live] at found
    rw [marked.heads]
    exact tracks.live id entry found

theorem tracks_dropped (marked : Marked seen after l next)
    (present : l.heads.get address = some head) (stands : HeadOf seen l address head event)
    (deleted : after.Deletes event)
    (clear : ∀ place other version, l.heads.get place = some other → other.live = true →
      HeadOf seen l place other version → version.id ≠ event.id → ¬ after.Bars version) :
    Tracks after (next.drop (entryOf event)) := by
  have heads : ∀ place, (next.drop (entryOf event)).heads.get place =
      if address = place then some { head with live := false } else l.heads.get place := by
    intro place
    rw [← marked.heads] at present ⊢
    exact drop_heads (entryOf event) stands.located present stands.id
  have live : ∀ id, (next.drop (entryOf event)).live.get id =
      if event.id = id then none else l.live.get id := by
    intro id
    rw [← marked.live]
    by_cases same : event.id = id
    · subst same
      rw [if_pos rfl]
      exact get_delete_self _ _
    · rw [if_neg same]
      exact get_delete_of_ne _ same
  refine ⟨?_, marked.ids, marked.recorded, marked.marked, ?_, ?_, ?_⟩
  · rw [show after.versions = seen.versions from marked.versions]
    exact tracks.distinct
  · intro place other found
    rw [heads] at found
    split at found
    · rename_i same
      subst same
      cases found
      exact ⟨event, marked.versions ▸ stands.given, stands.located, stands.version, stands.id,
        nofun, fun _ => deleted⟩
    · rename_i elsewhere
      obtain ⟨version, also⟩ := tracks.heads place other found
      have different : version.id ≠ event.id := by
        intro same
        exact elsewhere (tracks.head_unique also stands same).symm
      refine ⟨version, marked.versions ▸ also.given, also.located, also.version, also.id, ?_, ?_⟩
      · intro alive
        refine ⟨?_, clear place other version found alive also different⟩
        rw [live, if_neg (Ne.symm different)]
        exact (also.live alive).1
      · intro gone
        exact marked.deletes version (also.gone gone)
  · intro version member
    rw [marked.versions] at member
    rcases tracks.covered version member with bars | floors
    · exact .inl (marked.bars version bars)
    right
    have kept : HeadsKept l (next.drop (entryOf event)) :=
      (HeadsKept.of_eq marked.heads).trans (Lifecycle.drop_kept _ _)
    exact Lifecycle.floors_kept kept floors
  · intro id entry found
    rw [live] at found
    split at found
    · cases found
    rename_i different
    obtain ⟨place, other, placed, there, sameID, alive⟩ := tracks.live id entry found
    refine ⟨place, other, placed, ?_, sameID, alive⟩
    rw [heads, if_neg]
    · exact there
    · intro same
      subst same
      rw [present] at there
      cases there
      exact different (stands.id.symm.trans sameID)

theorem deleteID_tracks (author : PubKey) (removed : List Entry) (id : ID) :
    Tracks (seen.markID id author) (Lifecycle.deleteID author (l, removed) id).1 := by
  have marked := marked_id tracks id author
  have elsewhere : ∀ version, ¬ seen.Bars version → ¬(version.id = id ∧ version.pubKey = author) →
      ¬ (seen.markID id author).Bars version := by
    intro version free apart bars
    rcases Seen.bars_markID.mp bars with here | before
    · exact apart here
    · exact free before
  have kept : (∀ entry, l.live.get id = some entry → entry.pubKey = author →
      entry.kind ≠ kindDeletion → False) → Tracks (seen.markID id author)
        { l with deletedIDs := l.deletedIDs.put (toLex (id, author)) () } := by
    intro foreign
    refine tracks_marked tracks marked ?_
    intro address head event present live stands
    refine elsewhere event (stands.live live).2 ?_
    intro ⟨sameID, sameAuthor⟩
    have stored := (stands.live live).1
    rw [sameID] at stored
    refine foreign _ stored sameAuthor ?_
    intro deletion
    have located := stands.located
    rw [addressOf, if_neg] at located
    · cases located
    · rw [show event.kind = kindDeletion from deletion]
      exact Bool.eq_false_iff.mp Kind.deletion_not_state
  unfold Lifecycle.deleteID
  dsimp only
  split
  · rename_i found
    split
    · rename_i own
      obtain ⟨address, head, event, present, live, stands, sameID, same⟩ := tracks.entry_of_live found
      subst same
      refine tracks_dropped tracks marked present stands ?_ ?_
      · exact Seen.deletes_markID.mpr (.inl ⟨sameID, own.1⟩)
      · intro place other version there alive also different
        refine elsewhere version (also.live alive).2 ?_
        intro ⟨equal, _⟩
        exact different (equal.trans sameID.symm)
    · rename_i foreign
      apply kept
      intro other stored author kind
      rw [found] at stored
      cases stored
      exact foreign ⟨author, kind⟩
  · rename_i absent
    apply kept
    intro other stored
    rw [absent] at stored
    cases stored

theorem deleteAddress_tracks (time : Timestamp) (removed : List Entry) (address : Address) :
    Tracks (seen.markAddress address time) (Lifecycle.deleteAddress time (l, removed) address).1 := by
  have marked := marked_address tracks address time
  have elsewhere : ∀ version, ¬ seen.Bars version →
      ¬(addressOf version = some address ∧ version.createdAt ≤ time) →
      ¬ (seen.markAddress address time).Bars version := by
    intro version free apart bars
    rcases Seen.bars_markAddress.mp bars with before | ⟨located, early, _⟩
    · exact free before
    · exact apart ⟨located, early⟩
  have kept : (∀ head, l.heads.get address = some head → head.live = true →
      head.version.createdAt ≤ time → False) → Tracks (seen.markAddress address time)
        (if (l.deletedAddrs.get address).getD 0 < time then
          { l with deletedAddrs := l.deletedAddrs.put address time } else l) := by
    intro spared
    refine tracks_marked tracks marked ?_
    intro place head event present live stands
    refine elsewhere event (stands.live live).2 ?_
    intro ⟨located, early⟩
    rw [stands.located] at located
    cases located
    refine spared head present live ?_
    rw [stands.version]
    exact early
  unfold Lifecycle.deleteAddress
  dsimp only
  split
  · rename_i head present
    split
    · rename_i spared
      apply kept
      intro other there live early
      rw [present] at there
      cases there
      rcases spared with gone | late
      · rw [live] at gone
        cases gone
      · exact absurd early (not_le.mpr late)
    · rename_i hit
      obtain ⟨event, stands⟩ := tracks.heads address head present
      obtain ⟨alive, early⟩ := not_or.mp hit
      have live : head.live = true := Bool.not_eq_false _ |>.mp alive
      have before : event.createdAt ≤ time := by
        have bound := not_lt.mp early
        rw [stands.version] at bound
        exact bound
      have stored := (stands.live live).1
      rw [stands.id, stored]
      refine tracks_dropped tracks marked present stands ?_ ?_
      · exact Seen.deletes_markAddress.mpr (.inr ⟨stands.located, before⟩)
      · intro place other version there lives also different
        refine elsewhere version (also.live lives).2 ?_
        intro ⟨located, _⟩
        rw [also.located] at located
        cases located
        rw [present] at there
        cases there
        exact different (also.id.symm.trans stands.id)
  · rename_i absent
    apply kept
    intro head there
    rw [absent] at there
    cases there

theorem deleteIDs_tracks (author : PubKey) (removed : List Entry) (ids : List ID) :
    Tracks { seen with ids := seen.ids ∪ {mark | mark.2 = author ∧ mark.1 ∈ ids} }
      (ids.foldl (Lifecycle.deleteID author) (l, removed)).1 := by
  induction ids generalizing seen l removed with
  | nil => simpa using tracks
  | cons id rest ih =>
    rw [← insert_marks]
    exact ih (deleteID_tracks tracks author removed id) _

theorem deleteAddresses_tracks (time : Timestamp) (removed : List Entry)
    (addresses : List Address) :
    Tracks { seen with
        addresses := seen.addresses ∪ {mark | mark.2 = time ∧ mark.1 ∈ addresses} }
      (addresses.foldl (Lifecycle.deleteAddress time) (l, removed)).1 := by
  induction addresses generalizing seen l removed with
  | nil => simpa using tracks
  | cons address rest ih =>
    rw [← insert_marks]
    exact ih (deleteAddress_tracks tracks time removed address) _

end

/-- Everything one request marks. -/
def Seen.markRequest (seen : Seen) (deletion : Deletion) : Seen where
  versions := seen.versions
  ids := seen.ids ∪ {mark | mark.2 = deletion.author ∧ mark.1 ∈ deletion.ids}
  addresses := seen.addresses ∪ {mark | mark.2 = deletion.createdAt ∧ mark.1 ∈ deletion.addresses}

theorem applyDeletion_tracks (tracks : Tracks seen l) (deletion : Deletion) :
    Tracks (seen.markRequest deletion) (l.applyDeletion deletion).1 :=
  deleteAddresses_tracks (deleteIDs_tracks tracks deletion.author [] deletion.ids)
    deletion.createdAt _ deletion.addresses

end Moves

end Bahia.Nostrutil
