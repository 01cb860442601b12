import Bahia.Nostrout.Registry

/-! Making room in the registry and counting the destinations in use. Each operation is
described by the counts and the levels it leaves. -/

namespace Bahia.Nostrout
open Foundation Bucket List

namespace Registry
variable {limits : Limits} {now : Instant} {relays : Registry} {relay : String}

/-! ### Eviction and creation -/

variable {entry : RelayBucket} {order : List String} {change : Int → Int}

theorem full_wire (sound : (entry.wire priority).Sound budget now) :
    ((entry.full now).1.wire priority).Sound budget now ∧
      ((entry.full now).1.wire priority).level now ≤ (entry.wire priority).level now := by
  unfold RelayBucket.full
  split
  · cases priority with
    | true | false => exact ⟨sound.refill, sound.level_refill⟩
  · cases priority with
    | true => exact ⟨sound.refill, sound.level_refill⟩
    | false => exact ⟨sound, le_refl _⟩

theorem full_level {budget : Bool → Budget}
    (sound : ∀ priority, (entry.wire priority).Sound (budget priority) now)
    (ready : (entry.full now).2 = true) (priority : Bool) :
    (entry.wire priority).level now = (budget priority).burst := by
  unfold RelayBucket.full at ready
  split at ready
  · rename_i spare
    cases priority with
    | true => exact (sound true).level_full spare
    | false => exact (sound false).level_full ready
  · cases ready

theorem ebbs_evict (found : relays.get relay = some entry)
    (ready : (entry.full now).2 = true) : Ebbs limits now relays (relays.delete relay) where
  sound valid other stored kept := by
    rcases get_delete_cases kept with ⟨_, held⟩
    exact valid other stored held
  level valid other priority := by
    by_cases same : relay = other
    · subst same
      rw [level_of_get found, full_level (valid _ _ found) ready]
      simp [level]
    · simp only [level, get_delete_of_ne _ same]
      exact le_refl _

theorem evictIdle_tidies (order : List String) (relays : Registry) :
    Tidies limits now relays (evictIdle now order relays) := by
  induction order generalizing relays with
  | nil => exact .refl relays
  | cons identity rest ih =>
    unfold evictIdle
    split
    · exact ih relays
    rename_i found
    split
    · rename_i idle
      split
      · rename_i ready
        refine ⟨ebbs_evict found ready, fun other => ?_⟩
        by_cases same : identity = other
        · subst same
          rw [refsOf_of_get found, idle, refsOf, get_delete_self]
        · rw [refsOf, refsOf, get_delete_of_ne _ same]
      · refine Tidies.trans ⟨?_, ?_⟩ (ih _)
        · exact ebbs_put found fun priority sound => full_wire sound
        · exact refsOf_put_same found (RelayBucket.full_refs _ _)
    · exact ih relays

theorem makeRoom_tidies (order : List String) (relays : Registry) :
    Tidies limits now relays (makeRoom limits now order relays) := by
  unfold makeRoom
  split
  · exact evictIdle_tidies _ relays
  · exact .refl relays

theorem evictIdle_absent (absent : relays.get relay = none) :
    (evictIdle now order relays).get relay = none := by
  induction order generalizing relays with
  | nil => exact absent
  | cons identity rest ih =>
    unfold evictIdle
    split
    · exact ih absent
    rename_i found
    have different : identity ≠ relay := by
      rintro rfl
      exact nomatch absent.symm.trans found
    split
    · split
      · rw [get_delete_of_ne _ different]
        exact absent
      · apply ih
        rw [get_put_of_ne _ different]
        exact absent
    · exact ih absent

theorem makeRoom_absent (absent : relays.get relay = none) :
    (makeRoom limits now order relays).get relay = none := by
  unfold makeRoom
  split
  · exact evictIdle_absent absent
  · exact absent

theorem get_of_not_mem (absent : relay ∉ relays) : relays.get relay = none := by
  cases found : relays.get relay with
  | none => rfl
  | some => exact absurd (mem_of_get found) absent

theorem new_wire (priority : Bool) :
    (newRelayBucket limits now).wire priority = newBucket (limits.wire priority) now := by
  cases priority <;> rfl

theorem ebbs_create (absent : relays.get relay = none) :
    Ebbs limits now relays (relays.put relay (newRelayBucket limits now)) where
  sound valid := by
    apply sound_put valid
    intro priority
    rw [new_wire]
    exact TokenBucket.sound_new _ _
  level _ other priority := by
    by_cases same : relay = other
    · subst same
      rw [level_put_self, new_wire, TokenBucket.level_new]
      simp [level, absent]
    · rw [level_put_of_ne _ same]

theorem relayBucketLocked_tidies (limits : Limits) (now : Instant) (order : List String)
    (relays : Registry) (relay : String) :
    Tidies limits now relays (relayBucketLocked limits now order relays relay).1 := by
  unfold relayBucketLocked
  split
  · exact .refl relays
  rename_i absent
  have room : Tidies limits now relays (makeRoom limits now order relays) :=
    makeRoom_tidies order relays
  have free : (makeRoom limits now order relays).get relay = none :=
    makeRoom_absent (get_of_not_mem absent)
  dsimp only
  split
  · exact room
  refine room.trans ⟨ebbs_create free, fun other => ?_⟩
  rw [refsOf_put]
  split
  · rename_i same
    rw [← same, refsOf, free]
    rfl
  · rfl

theorem relayBucketLocked_present
    (success : (relayBucketLocked limits now order relays relay).2 = true) :
    relay ∈ (relayBucketLocked limits now order relays relay).1 := by
  unfold relayBucketLocked at *
  split
  · assumption
  rename_i absent
  rw [if_neg absent] at success
  dsimp only at *
  split at success
  · cases success
  rename_i room
  rw [if_neg room]
  exact mem_put.mpr (.inl rfl)

/-! ### References -/

theorem adjustRefs_ebbs (change : Int → Int) (relays : Registry) (relay : String) :
    Ebbs limits now relays (adjustRefs change relays relay) := by
  unfold adjustRefs
  split
  · exact .refl relays
  · rename_i found
    exact ebbs_put found fun priority sound => ⟨sound, le_refl _⟩

theorem adjustRefs_foldl_ebbs (change : Int → Int) (list : List String) (relays : Registry) :
    Ebbs limits now relays (list.foldl (adjustRefs change) relays) := by
  induction list generalizing relays with
  | nil => exact .refl relays
  | cons relay rest ih => exact (adjustRefs_ebbs change relays relay).trans (ih _)

theorem adjustRefs_refs (present : relay ∈ relays) (other : String) :
    (adjustRefs change relays relay).refsOf other =
      if relay = other then change (relays.refsOf other) else relays.refsOf other := by
  obtain ⟨entry, found⟩ := Bucket.mem_iff_get.mp present
  have written : adjustRefs change relays relay =
      relays.put relay { entry with refs := change entry.refs } := by
    simp only [adjustRefs, found]
  rw [written, refsOf_put]
  split
  · rename_i same
    rw [← same, refsOf_of_get found]
  · rfl

theorem adjustRefs_mem : other ∈ adjustRefs change relays relay ↔ other ∈ relays := by
  unfold adjustRefs
  split
  · exact Iff.rfl
  rename_i found
  rw [mem_put]
  constructor
  · rintro (rfl | member)
    · exact mem_of_get found
    · exact member
  · exact .inr

theorem adjustRefs_foldl_refs {list : List String} (distinct : list.Nodup)
    (present : ∀ relay ∈ list, relay ∈ relays) (other : String) :
    (list.foldl (adjustRefs change) relays).refsOf other =
      if other ∈ list then change (relays.refsOf other) else relays.refsOf other := by
  induction list generalizing relays with
  | nil => simp
  | cons relay rest ih =>
    obtain ⟨absent, apart⟩ := nodup_cons.mp distinct
    have held : ∀ later ∈ rest, later ∈ adjustRefs change relays relay := by
      intro later member
      exact adjustRefs_mem.mpr (present later (mem_cons_of_mem _ member))
    rw [foldl_cons, ih apart held, adjustRefs_refs (present relay mem_cons_self)]
    by_cases same : relay = other
    · subst same
      simp [absent]
    · simp [same, Ne.symm same]

section
variable (limits : Limits) (now : Instant) (orders : String → List String)

theorem reserve_ebbs (held list : List String) (relays : Registry) :
    Ebbs limits now relays (reserve limits now orders held list relays).1 := by
  induction list generalizing held relays with
  | nil => exact .refl relays
  | cons relay rest ih =>
    have tidied := (relayBucketLocked_tidies limits now (orders relay) relays relay).toEbbs
    unfold reserve
    split
    · rename_i refused
      rw [refused] at tidied
      exact tidied.trans (adjustRefs_foldl_ebbs _ _ _)
    · rename_i granted
      rw [granted] at tidied
      exact (tidied.trans (adjustRefs_ebbs _ _ _)).trans (ih _ _)

/-- A reservation counts every destination once, and a refused one counts nothing. -/
theorem reserve_refs (distinct : (held ++ list).Nodup) (nonneg : ∀ relay, 0 ≤ relays.refsOf relay)
    (counted : ∀ relay ∈ held, 0 < relays.refsOf relay) (other : String) :
    (reserve limits now orders held list relays).1.refsOf other =
      if (reserve limits now orders held list relays).2 = true then
        relays.refsOf other + (if other ∈ list then 1 else 0)
      else relays.refsOf other - (if other ∈ held then 1 else 0) := by
  induction list generalizing held relays with
  | nil => simp [reserve]
  | cons relay rest ih =>
    have kept := (relayBucketLocked_tidies limits now (orders relay) relays relay).refs
    unfold reserve
    split
    · rename_i full refused
      rw [refused] at kept
      have apart : held.Nodup := (nodup_append.mp distinct).1
      have present : ∀ earlier ∈ held, earlier ∈ full := by
        intro earlier member
        have positive := counted earlier member
        rw [← kept earlier] at positive
        exact mem_of_refs (ne_of_gt positive)
      rw [if_neg (by simp), dropRef, adjustRefs_foldl_refs apart present, kept other]
      split <;> simp
    · rename_i next granted
      have present : relay ∈ next := by
        have held := @relayBucketLocked_present limits now relays relay (orders relay)
        rw [granted] at held
        exact held rfl
      rw [granted] at kept
      have added (name : String) : (addRef next relay).refsOf name =
          relays.refsOf name + (if relay = name then 1 else 0) := by
        rw [addRef, adjustRefs_refs present, kept name]
        split <;> simp
      have order : (held ++ [relay] ++ rest).Nodup := by simpa using distinct
      have unheld : relay ∉ held := by
        intro member
        exact (nodup_append.mp distinct).2.2 relay member relay mem_cons_self rfl
      have unlisted : relay ∉ rest := (nodup_cons.mp (nodup_append.mp distinct).2.1).1
      rw [ih order]
      · simp only [added, mem_cons, mem_append]
        by_cases same : relay = other
        · subst same
          simp [unheld, unlisted]
        · simp [same, Ne.symm same]
      · intro name
        rw [added name]
        have base := nonneg name
        split <;> omega
      · intro name member
        rw [added name]
        rcases mem_append.mp member with earlier | last
        · have base := counted name earlier
          split <;> omega
        · rw [mem_singleton.mp last, if_pos rfl]
          have base := nonneg relay
          omega

end

end Registry

end Bahia.Nostrout
