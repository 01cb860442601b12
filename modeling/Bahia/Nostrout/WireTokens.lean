import Bahia.Nostrout.Registry

/-! Waiting for wire tokens and spending them: a bucket that needs no wait holds a token, and
spending it lowers the level of that relay and share alone. -/

namespace Bahia.Nostrout
open Foundation Bucket List

namespace Registry
variable {now : Instant} {relays : Registry} {relay : String}

def Ready (now : Instant) (relays : Registry) (priority : Bool) (relay : String) : Prop :=
  ∃ entry, relays.get relay = some entry ∧ (entry.wire priority).lastRefill = now ∧
    1 ≤ (entry.wire priority).tokens

theorem waitWire_tidies (limits : Limits) (now : Instant) (relays : Registry) (priority : Bool)
    (relay : String) : Tidies limits now relays (relays.waitWire now priority relay).1 := by
  unfold waitWire
  split
  · exact .refl relays
  rename_i found
  refine ⟨ebbs_put found fun other sound => ?_,
    refsOf_put_same found (RelayBucket.setWire_refs _ _ _)⟩
  rw [RelayBucket.wire_setWire]
  split
  · rename_i same
    subst same
    exact ⟨sound.refill, sound.level_refill⟩
  · exact ⟨sound, le_refl _⟩

theorem mem_of_waited (waited : (relays.waitWire now priority relay).2 = some wait) :
    relay ∈ relays := by
  unfold waitWire at waited
  split at waited
  · cases waited
  · rename_i found
    exact mem_of_get found

theorem waitWire_ready (valid : relays.Sound limits now)
    (waited : (relays.waitWire now priority relay).2 = some wait) (elapsed : wait ≤ 0) :
    Ready now (relays.waitWire now priority relay).1 priority relay := by
  unfold waitWire at *
  split at waited
  · cases waited
  rename_i entry found
  have sound := valid _ _ found priority
  have time : ((entry.wire priority).refill now).waitTime = wait := Option.some.inj waited
  refine ⟨_, get_put_self _ _ _, ?_, ?_⟩
  · rw [RelayBucket.wire_setWire, if_pos rfl]
    exact sound.refill_fresh
  · rw [RelayBucket.wire_setWire, if_pos rfl]
    exact sound.refill.token_of_wait (time.le.trans elapsed)

theorem refill_of_fresh {bucket : TokenBucket} (fresh : bucket.lastRefill = now) :
    bucket.refill now = bucket := by
  have none : Instant.sub now bucket.lastRefill = 0 := by
    rw [fresh]
    unfold Instant.sub
    rw [sub_self]
    decide
  unfold TokenBucket.refill
  simp [none]

theorem Ready.waitWire (ready : Ready now relays priority other)
    (relay : String) : Ready now (relays.waitWire now priority relay).1 priority other := by
  obtain ⟨entry, found, fresh, token⟩ := ready
  unfold Registry.waitWire
  by_cases same : relay = other
  · subst same
    rw [found]
    refine ⟨_, get_put_self _ _ _, ?_⟩
    rw [RelayBucket.wire_setWire, if_pos rfl]
    show ((entry.wire priority).refill now).lastRefill = now ∧
      1 ≤ ((entry.wire priority).refill now).tokens
    rw [refill_of_fresh fresh]
    exact ⟨fresh, token⟩
  · split
    · exact ⟨entry, found, fresh, token⟩
    · exact ⟨entry, (get_put_of_ne _ same _).trans found, fresh, token⟩

theorem waitWires_tidies (limits : Limits) (now : Instant) (priority : Bool) (list : List String)
    (relays : Registry) (longest : Duration) :
    Tidies limits now relays (waitWires now priority list (relays, longest)).1 := by
  induction list generalizing relays longest with
  | nil => exact .refl relays
  | cons relay rest ih => exact (waitWire_tidies limits now relays priority relay).trans (ih _ _)

theorem waitWires_longest (now : Instant) (priority : Bool) (list : List String) (relays : Registry)
    (longest : Duration) : longest ≤ (waitWires now priority list (relays, longest)).2 := by
  induction list generalizing relays longest with
  | nil => exact le_refl _
  | cons relay rest ih => exact (le_max_left _ _).trans (ih _ _)

theorem Ready.waitWires (ready : Ready now relays priority other) (list : List String) :
    Ready now (waitWires now priority list (relays, longest)).1 priority other := by
  induction list generalizing relays longest with
  | nil => exact ready
  | cons relay rest ih => exact ih (ready.waitWire relay)

theorem waitWires_ready (valid : relays.Sound limits now) (present : ∀ relay ∈ list, relay ∈ relays)
    (elapsed : (waitWires now priority list (relays, longest)).2 ≤ 0) :
    ∀ relay ∈ list, Ready now (waitWires now priority list (relays, longest)).1 priority relay := by
  induction list generalizing relays longest with
  | nil => exact nofun
  | cons first rest ih =>
    have sound := (waitWire_tidies limits now relays priority first).sound valid
    obtain ⟨entry, found⟩ := Bucket.mem_iff_get.mp (present first mem_cons_self)
    have waited : (relays.waitWire now priority first).2 =
        some ((entry.wire priority).wait now).2 := by
      simp only [waitWire, found]
    have bound := waitWires_longest now priority rest (relays.waitWire now priority first).1
      (max longest ((relays.waitWire now priority first).2.getD 0))
    have short : ((entry.wire priority).wait now).2 ≤ 0 := by
      have part := (le_max_right longest _).trans (bound.trans elapsed)
      rwa [waited] at part
    have others : ∀ relay ∈ rest, relay ∈ (relays.waitWire now priority first).1 := by
      intro relay member
      have known := present relay (mem_cons_of_mem _ member)
      simp only [waitWire, found]
      exact mem_put.mpr (.inr known)
    intro relay member
    rcases mem_cons.mp member with same | later
    · rw [same]
      exact (waitWire_ready valid waited short).waitWires rest
    · exact ih sound others elapsed relay later

theorem spendWire_level (ready : Ready now relays priority relay)
    (valid : relays.Sound limits now) :
    (relays.spendWire priority relay).Sound limits now ∧ ∀ other share,
      (relays.spendWire priority relay).level limits now other share +
          (if other = relay ∧ share = priority then 1 else 0) =
        relays.level limits now other share := by
  obtain ⟨entry, found, fresh, token⟩ := ready
  have sound := valid _ _ found priority
  have written : relays.spendWire priority relay =
      relays.put relay (entry.setWire priority (entry.wire priority).spend) := by
    simp only [spendWire, found]
  rw [written]
  refine ⟨?_, ?_⟩
  · apply sound_put valid
    intro share
    rw [RelayBucket.wire_setWire]
    split
    · rename_i same
      rw [same]
      exact sound.spend token
    · exact valid _ _ found share
  · intro other share
    by_cases same : relay = other
    · subst same
      rw [level_put_self, level_of_get found, RelayBucket.wire_setWire]
      by_cases drawn : share = priority
      · rw [drawn, if_pos rfl, if_pos ⟨rfl, rfl⟩]
        exact sound.level_spend fresh token
      · rw [if_neg drawn, if_neg (fun both => drawn both.2), add_zero]
    · rw [level_put_of_ne _ same, if_neg (fun both => same both.1.symm), add_zero]

theorem spendWire_refs (relays : Registry) (priority : Bool) (relay other : String) :
    (relays.spendWire priority relay).refsOf other = relays.refsOf other := by
  unfold spendWire
  split
  · rfl
  · rename_i found
    exact refsOf_put_same found (RelayBucket.setWire_refs _ _ _) other

theorem Ready.spendWire (ready : Ready now relays priority other)
    (different : relay ≠ other) : Ready now (relays.spendWire priority relay) priority other := by
  obtain ⟨entry, found, rest⟩ := ready
  unfold Registry.spendWire
  split
  · exact ⟨entry, found, rest⟩
  · exact ⟨entry, (get_put_of_ne _ different _).trans found, rest⟩

theorem spendWires_refs (priority : Bool) (list : List String) (relays : Registry) (other : String) :
    (list.foldl (spendWire · priority) relays).refsOf other = relays.refsOf other := by
  induction list generalizing relays with
  | nil => rfl
  | cons relay rest ih => exact (ih _).trans (spendWire_refs relays priority relay other)

theorem spendWires_level {list : List String}
    (distinct : list.Nodup) (ready : ∀ relay ∈ list, Ready now relays priority relay)
    (valid : relays.Sound limits now) :
    Sound limits now (list.foldl (spendWire · priority) relays) ∧ ∀ other share,
      level limits now (list.foldl (spendWire · priority) relays) other share +
          (if other ∈ list ∧ share = priority then 1 else 0) =
        relays.level limits now other share := by
  induction list generalizing relays with
  | nil => exact ⟨valid, fun _ _ => by simp⟩
  | cons relay rest ih =>
    obtain ⟨absent, apart⟩ := nodup_cons.mp distinct
    obtain ⟨sound, spent⟩ := spendWire_level (ready relay mem_cons_self) valid
    have others : ∀ later ∈ rest, Ready now (relays.spendWire priority relay) priority later := by
      intro later member
      apply (ready later (mem_cons_of_mem _ member)).spendWire
      rintro rfl
      exact absent member
    obtain ⟨kept, levels⟩ := ih apart others sound
    refine ⟨kept, ?_⟩
    intro other share
    rw [← spent other share, ← levels other share, foldl_cons]
    by_cases same : other = relay
    · subst same
      simp [absent]
    · simp [same]

end Registry

end Bahia.Nostrout
