import Bahia.Lifecycle.Seen

/-! Arrivals of versions and requests: whatever their order, the lifecycle has been given
what the set of them amounts to. -/

namespace Bahia.Nostrutil
open Foundation Nostr Bucket

section Moves
variable {seen : Seen}

variable {event : Event}

theorem distinct_add
    (before : ∀ first ∈ seen.versions, ∀ second ∈ seen.versions, first.id = second.id →
      first = second)
    (distinct : ∀ other ∈ seen.versions, other.id = event.id → other = event) :
    ∀ first ∈ (seen.addVersion event).versions, ∀ second ∈ (seen.addVersion event).versions,
      first.id = second.id → first = second := by
  intro first firstMember second secondMember same
  rcases firstMember with equal | earlier
  · subst equal
    rcases secondMember with also | older
    · exact also.symm
    · exact (distinct second older same.symm).symm
  · rcases secondMember with also | older
    · subst also
      exact distinct first earlier same
    · exact before first earlier second older same

/-- A version the lifecycle turns away is barred or under its coordinate's floor. -/
theorem tracks_refused (tracks : Tracks seen l)
    (distinct : ∀ other ∈ seen.versions, other.id = event.id → other = event)
    (turned : seen.Bars event ∨ l.Floors event) : Tracks (seen.addVersion event) l := by
  refine ⟨distinct_add tracks.distinct distinct, tracks.ids, tracks.recorded, tracks.marked, ?_, ?_,
    tracks.live⟩
  · intro address head found
    obtain ⟨version, stands⟩ := tracks.heads address head found
    exact ⟨version, .inr stands.given, stands.located, stands.version, stands.id, stands.live,
      stands.gone⟩
  · intro version member
    rcases member with equal | earlier
    · subst equal
      exact turned
    · exact tracks.covered version earlier

/-- A version becomes its coordinate's live head; `base` are the live entries without the
one it replaces. -/
theorem tracks_accepted (base : Bucket ID Entry)
    (tracks : Tracks seen l) (located : addressOf event = some address)
    (distinct : ∀ other ∈ seen.versions, other.id = event.id → other = event)
    (free : ¬ seen.Bars event)
    (newer : ∀ head, l.heads.get address = some head →
      (versionOf event).supersedes head.version = true)
    (vacated : ∀ id entry, base.get id = some entry ↔
      l.live.get id = some entry ∧ entry.address ≠ some address) :
    Tracks (seen.addVersion event) ({ l with live := base }.accept event address) := by
  refine ⟨distinct_add tracks.distinct distinct, tracks.ids, tracks.recorded, tracks.marked, ?_, ?_, ?_⟩
  · intro place head found
    rcases get_put_cases found with ⟨same, equal⟩ | ⟨elsewhere, before⟩
    · subst same
      subst equal
      exact ⟨event, .inl rfl, located, rfl, rfl, fun _ => ⟨get_put_self _ _ _, free⟩, nofun⟩
    obtain ⟨version, stands⟩ := tracks.heads place head before
    refine ⟨version, .inr stands.given, stands.located, stands.version, stands.id, ?_, stands.gone⟩
    intro live
    obtain ⟨stored, unbarred⟩ := stands.live live
    have different : event.id ≠ version.id := by
      intro same
      have there := stands.located
      rw [distinct version stands.given same.symm, located] at there
      exact elsewhere (Option.some.inj there).symm
    refine ⟨?_, unbarred⟩
    have apart : (entryOf version).address ≠ some address := by
      rw [show (entryOf version).address = some place from stands.located]
      exact fun same => elsewhere (Option.some.inj same)
    exact (get_put_of_ne _ different _).trans ((vacated _ _).mpr ⟨stored, apart⟩)
  · intro version member
    have observed : Lifecycle.Observed l event ({ l with live := base }.accept event address)
        (.only .accept) := .accepted located rfl newer rfl
    rcases member with equal | earlier
    · subst equal
      exact .inr (Lifecycle.floors_accepted observed rfl)
    · rcases tracks.covered version earlier with bars | floors
      · exact .inl bars
      · exact .inr (Lifecycle.floors_observed observed floors)
  · intro id entry found
    rcases get_put_cases found with ⟨same, equal⟩ | ⟨_, before⟩
    · subst equal
      exact ⟨address, _, located, get_put_self _ _ _, same.symm, rfl⟩
    obtain ⟨stored, apart⟩ := (vacated id entry).mp before
    obtain ⟨place, head, placed, present, sameID, live⟩ := tracks.live id entry stored
    have elsewhere : address ≠ place := by
      intro same
      exact apart (same ▸ placed)
    exact ⟨place, head, placed, (get_put_of_ne _ elsewhere _).trans present, sameID, live⟩

variable (tracks : Tracks seen l)
include tracks

theorem Tracks.head_of_entry {id : ID} {entry : Entry}
    (found : l.live.get id = some entry) (placed : entry.address = some address) :
    ∃ head, l.heads.get address = some head ∧ head.id = id ∧ head.live = true := by
  obtain ⟨place, head, there, present, sameID, live⟩ := tracks.live id entry found
  rw [placed] at there
  cases there
  exact ⟨head, present, sameID, live⟩

theorem Tracks.free
    (located : addressOf event = some address) (unmarked : (event.id, event.pubKey) ∉ seen.ids)
    (open' : ∀ time, l.deletedAddrs.get address = some time → time < event.createdAt) :
    ¬ seen.Bars event := by
  intro bars
  rcases bars with byID | ⟨place, time, there, member, before, positive⟩
  · exact unmarked byID
  rw [located] at there
  cases there
  obtain ⟨latest, found, bound⟩ := tracks.marked address time member positive
  exact absurd (open' latest found) (not_lt.mpr (before.trans bound))

theorem Tracks.vacant
    (idle : ∀ head, l.heads.get address = some head → head.live ≠ true) (id : ID) (entry : Entry) :
    l.live.get id = some entry ↔ l.live.get id = some entry ∧ entry.address ≠ some address := by
  refine ⟨fun stored => ⟨stored, ?_⟩, And.left⟩
  intro placed
  obtain ⟨head, present, _, live⟩ := tracks.head_of_entry stored placed
  exact idle head present live

theorem Tracks.vacated (present : l.heads.get address = some head) (live : head.live = true)
    (id : ID) (entry : Entry) : (l.live.delete head.id).get id = some entry ↔
      l.live.get id = some entry ∧ entry.address ≠ some address := by
  constructor
  · intro found
    obtain ⟨apart, stored⟩ := get_delete_cases found
    refine ⟨stored, ?_⟩
    intro placed
    obtain ⟨current, there, sameID, _⟩ := tracks.head_of_entry stored placed
    rw [present] at there
    cases there
    exact apart sameID.symm
  · intro ⟨stored, apart⟩
    obtain ⟨version, stands⟩ := tracks.heads address head present
    have other : head.id ≠ id := by
      intro same
      have own := (stands.live live).1
      rw [← stands.id, same, stored] at own
      cases own
      exact apart stands.located
    exact (get_delete_of_ne _ other).trans stored

theorem Tracks.floors_of_head (located : addressOf event = some address)
    (distinct : ∀ other ∈ seen.versions, other.id = event.id → other = event)
    (present : l.heads.get address = some head)
    (older : head.id = event.id ∨ (versionOf event).supersedes head.version = false) :
    l.Floors event := by
  intro place there
  rw [located] at there
  cases there
  obtain ⟨version, stands⟩ := tracks.heads address head present
  refine ⟨head, present, ?_⟩
  rw [stands.version]
  rcases older with same | older
  · left
    rw [distinct version stands.given (stands.id.symm.trans same)]
  rw [stands.version, ← Bool.not_eq_true, versionOf_supersedes, not_lt] at older
  rcases older.lt_or_eq with below | equal
  · exact .inr (versionOf_supersedes.mpr below)
  · exact .inl (versionOf_eq.mpr equal.symm)

theorem observeState_tracks (located : addressOf event = some address)
    (distinct : ∀ other ∈ seen.versions, other.id = event.id → other = event)
    (unmarked : (event.id, event.pubKey) ∉ seen.ids) :
    Tracks (seen.addVersion event) (l.observeState event address).1 := by
  unfold Lifecycle.observeState
  split
  · rename_i stopped
    cases found : l.deletedAddrs.get address with
    | none =>
      rw [found] at stopped
      cases stopped
    | some time =>
      rw [found] at stopped
      obtain ⟨positive, member⟩ := tracks.recorded address time found
      have before : event.createdAt ≤ time := of_decide_eq_true stopped
      exact tracks_refused tracks distinct
        (.inl (.inr ⟨address, time, located, member, before, positive⟩))
  · rename_i passed
    have free : ¬ seen.Bars event := by
      refine tracks.free located unmarked ?_
      intro time found
      rw [found] at passed
      simpa using passed
    split
    · rename_i absent
      have none_present : ∀ head, l.heads.get address ≠ some head := by
        intro head present
        rw [absent] at present
        cases present
      refine tracks_accepted l.live tracks located distinct free ?_ ?_
      · exact fun head present => absurd present (none_present head)
      · exact tracks.vacant fun head present => absurd present (none_present head)
    · rename_i head present
      split
      · rename_i same
        exact tracks_refused tracks distinct
          (.inr (tracks.floors_of_head located distinct present (.inl same)))
      split
      · rename_i older
        exact tracks_refused tracks distinct (.inr (tracks.floors_of_head located distinct present
          (.inr (by simpa using older))))
      rename_i supersedes
      have newer : ∀ current, l.heads.get address = some current →
          (versionOf event).supersedes current.version = true := by
        intro current there
        rw [present] at there
        cases there
        simpa using supersedes
      split
      · rename_i live
        exact tracks_accepted (l.live.delete head.id) tracks located distinct free newer
          (tracks.vacated present live)
      rename_i gone
      refine tracks_accepted l.live tracks located distinct free newer (tracks.vacant ?_)
      intro current there
      rw [present] at there
      cases there
      exact gone

end Moves

section Arrivals
variable (validKey : PubKey → Bool)

def Seen.observe (seen : Seen) (event : Event) : Seen :=
  match parseDeletion validKey event with
  | some deletion => seen.markRequest deletion
  | none => if (addressOf event).isSome then seen.addVersion event else seen

def Seen.of (events : Set Event) : Seen where
  versions := {event | event ∈ events ∧ (addressOf event).isSome = true}
  ids := {mark | ∃ request ∈ events, ∃ deletion, parseDeletion validKey request = some deletion ∧
    mark.2 = deletion.author ∧ mark.1 ∈ deletion.ids}
  addresses := {mark | ∃ request ∈ events, ∃ deletion,
    parseDeletion validKey request = some deletion ∧ mark.2 = deletion.createdAt ∧
      mark.1 ∈ deletion.addresses}

theorem parseDeletion_unplaced (parsed : parseDeletion validKey event = some deletion) :
    addressOf event = none := by
  unfold parseDeletion at parsed
  split at parsed
  · rename_i kind
    rw [addressOf, kind, if_neg (by rw [Kind.deletion_not_state]; exact Bool.false_ne_true)]
  · cases parsed

theorem observe_of (events : Set Event) (event : Event) :
    (Seen.of validKey events).observe validKey event = Seen.of validKey (insert event events) := by
  unfold Seen.observe
  cases parsed : parseDeletion validKey event with
  | some =>
    have unplaced := parseDeletion_unplaced validKey parsed
    ext mark
    · simp only [Seen.markRequest, Seen.of, Set.mem_ofPred_eq, Set.mem_insert_iff]
      constructor
      · intro ⟨member, placed⟩
        exact ⟨.inr member, placed⟩
      · intro ⟨member, placed⟩
        rcases member with same | earlier
        · rw [same, unplaced] at placed
          cases placed
        · exact ⟨earlier, placed⟩
    · simp only [Seen.markRequest, Seen.of, Set.mem_union, Set.mem_ofPred_eq, Set.exists_mem_insert,
        parsed, Option.some.injEq, exists_eq_left']
      exact Or.comm
    · simp only [Seen.markRequest, Seen.of, Set.mem_union, Set.mem_ofPred_eq, Set.exists_mem_insert,
        parsed, Option.some.injEq, exists_eq_left']
      exact Or.comm
  | none =>
    have ids : (Seen.of validKey (insert event events)).ids = (Seen.of validKey events).ids := by
      ext mark
      simp [Seen.of, parsed]
    have addresses : (Seen.of validKey (insert event events)).addresses =
        (Seen.of validKey events).addresses := by
      ext mark
      simp [Seen.of, parsed]
    dsimp only
    split
    · rename_i placed
      apply Seen.ext
      · ext other
        simp only [Seen.addVersion, Seen.of, Set.mem_insert_iff, Set.mem_ofPred_eq]
        constructor
        · intro member
          rcases member with same | ⟨earlier, there⟩
          · exact ⟨.inl same, same ▸ placed⟩
          · exact ⟨.inr earlier, there⟩
        · intro ⟨member, there⟩
          rcases member with same | earlier
          · exact .inl same
          · exact .inr ⟨earlier, there⟩
      · exact ids.symm
      · exact addresses.symm
    · rename_i unplaced
      apply Seen.ext
      · ext other
        simp only [Seen.of, Set.mem_insert_iff, Set.mem_ofPred_eq]
        constructor
        · intro ⟨earlier, there⟩
          exact ⟨.inr earlier, there⟩
        · intro ⟨member, there⟩
          rcases member with same | earlier
          · exact absurd (same ▸ there) unplaced
          · exact ⟨earlier, there⟩
      · exact ids.symm
      · exact addresses.symm

theorem observe_tracks (tracks : Tracks seen l) (unexpiring : expiresAt event = 0)
    (distinct : ∀ other ∈ seen.versions, other.id = event.id → other = event) (now : Timestamp) :
    Tracks (seen.observe validKey event) (l.observe validKey event now).1 := by
  have fresh : expired event now = false := by simp [expired, unexpiring]
  unfold Lifecycle.observe Seen.observe
  rw [fresh]
  simp only [Bool.false_eq_true, if_false]
  cases parsed : parseDeletion validKey event with
  | some deletion => exact applyDeletion_tracks tracks deletion
  | none =>
    cases located : addressOf event with
    | none =>
      simp only [Option.isSome_none, Bool.false_eq_true, if_false]
      split
      · exact tracks
      · rw [unexpiring, if_neg (lt_irrefl 0)]
        exact tracks
    | some =>
      simp only [Option.isSome_some, if_true]
      split
      · rename_i marked
        exact tracks_refused tracks distinct (.inl (.inl ((tracks.ids _ _).mp marked)))
      rename_i unmarked
      refine observeState_tracks tracks located distinct ?_
      intro marked
      exact unmarked ((tracks.ids _ _).mpr marked)

def Lifecycle.observeAll (l : Lifecycle) (arrivals : List (Event × Timestamp)) : Lifecycle :=
  arrivals.foldl (fun l arrival => (l.observe validKey arrival.1 arrival.2).1) l

/-- Events told apart by their ids, none of which expires. -/
structure Plain (events : Set Event) : Prop where
  distinct : ∀ first ∈ events, ∀ second ∈ events, first.id = second.id → first = second
  unexpiring : ∀ event ∈ events, expiresAt event = 0

theorem observeAll_tracks (plain : Plain events) (tracks : Tracks (Seen.of validKey before) l)
    (within : before ⊆ events) (arriving : ∀ arrival ∈ arrivals, arrival.1 ∈ events) :
    Tracks (Seen.of validKey (before ∪ {event | event ∈ arrivals.map Prod.fst}))
      (l.observeAll validKey arrivals) := by
  induction arrivals generalizing l before with
  | nil => simpa [Lifecycle.observeAll] using tracks
  | cons arrival rest ih =>
    have here := arriving arrival List.mem_cons_self
    have next : Tracks (Seen.of validKey (insert arrival.1 before))
        (l.observe validKey arrival.1 arrival.2).1 := by
      rw [← observe_of]
      refine observe_tracks validKey tracks (plain.unexpiring _ here) ?_ arrival.2
      intro other member same
      exact plain.distinct other (within member.1) _ here same
    have followed := ih next (Set.insert_subset here within)
      (fun other member => arriving other (List.mem_cons_of_mem _ member))
    have same : insert arrival.1 before ∪ {event | event ∈ rest.map Prod.fst} =
        before ∪ {event | event ∈ (arrival :: rest).map Prod.fst} := by
      ext other
      simp only [Set.mem_union, Set.mem_insert_iff, Set.mem_ofPred_eq, List.map_cons,
        List.mem_cons]
      tauto
    rw [same] at followed
    exact followed

end Arrivals

end Bahia.Nostrutil
