import Bahia.Nostrout.Reservation
import Bahia.Nostrout.WireTokens
import Bahia.Nostrout.System

/-! What the sections under the lock do to the controller: leave its books as they are,
register or release a publication, or pay for frames. -/

namespace Bahia.Nostrout
open Foundation Nostr

def named (relays : Destinations) (relay : String) : Int := if relay ∈ relays.val then 1 else 0

/-- The books stay as they are, and the frames are paid for with tokens of their relays. -/
structure Charges (now : Instant) (frames : List Frame) (a b : Admission) : Prop where
  limits : b.limits = a.limits
  refs : (∀ relay, 0 ≤ a.relays.refsOf relay) →
    ∀ relay, b.relays.refsOf relay = a.relays.refsOf relay
  inflight : b.inflight = a.inflight
  active : b.active = a.active
  waiters : b.opaqueWaiters = a.opaqueWaiters
  levels : a.relays.Sound a.limits now →
    b.relays.Sound a.limits now ∧ ∀ relay share,
      b.relays.level a.limits now relay share + frames.count ⟨relay, share⟩ ≤
        a.relays.level a.limits now relay share

abbrev Quiet (now : Instant) (a b : Admission) : Prop := Charges now [] a b

structure Registers (now : Instant) (relays : Destinations) (a b : Admission) : Prop where
  limits : b.limits = a.limits
  ebbs : Registry.Ebbs a.limits now a.relays b.relays
  refs : (∀ relay, 0 ≤ a.relays.refsOf relay) →
    ∀ relay, b.relays.refsOf relay = a.relays.refsOf relay + named relays relay

structure Releases (now : Instant) (relays : Destinations) (a b : Admission) : Prop where
  limits : b.limits = a.limits
  ebbs : Registry.Ebbs a.limits now a.relays b.relays
  refs : (∀ relay ∈ relays.val, 0 < a.relays.refsOf relay) →
    ∀ relay, b.relays.refsOf relay = a.relays.refsOf relay - named relays relay

structure GateOpen (a : Admission) (now : Instant) (meets : Meets) : Prop where
  alive : a.runtimeKilled = false
  inactive : meets.killSwitch = .inactive
  cooled : a.breakerUntil ≤ now

variable {now : Instant} {meets : Meets} {a b : Admission} {relays : Destinations}
variable {frames : List Frame}

theorem Quiet.of_ebbs (limits : b.limits = a.limits)
    (ebbs : Registry.Ebbs a.limits now a.relays b.relays)
    (refs : (∀ relay, 0 ≤ a.relays.refsOf relay) →
      ∀ relay, b.relays.refsOf relay = a.relays.refsOf relay)
    (inflight : b.inflight = a.inflight) (active : b.active = a.active)
    (waiters : b.opaqueWaiters = a.opaqueWaiters) : Quiet now a b where
  limits := limits
  refs := refs
  inflight := inflight
  active := active
  waiters := waiters
  levels sound := by
    refine ⟨ebbs.sound sound, ?_⟩
    intro relay share
    simpa using ebbs.level sound relay share

theorem Quiet.of_tidied (tidies : Registry.Tidies a.limits now a.relays b.relays)
    (limits : b.limits = a.limits) (inflight : b.inflight = a.inflight)
    (active : b.active = a.active) (waiters : b.opaqueWaiters = a.opaqueWaiters) : Quiet now a b :=
  .of_ebbs limits tidies.toEbbs (fun _ => tidies.refs) inflight active waiters

theorem Quiet.beside (limits : b.limits = a.limits) (same : b.relays = a.relays)
    (inflight : b.inflight = a.inflight) (active : b.active = a.active)
    (waiters : b.opaqueWaiters = a.opaqueWaiters) : Quiet now a b :=
  .of_ebbs limits (same ▸ .refl _) (fun _ _ => by rw [same]) inflight active waiters

theorem Quiet.refl (a : Admission) : Quiet now a a := .beside rfl rfl rfl rfl rfl

theorem Quiet.ebbs (quiet : Quiet now a b) : Registry.Ebbs a.limits now a.relays b.relays where
  sound valid := (quiet.levels valid).1
  level valid relay share := by
    simpa using (quiet.levels valid).2 relay share

theorem Quiet.trans (first : Quiet now a b) (second : Quiet now b c) : Quiet now a c := by
  have lower := second.ebbs
  rw [first.limits] at lower
  refine .of_ebbs (second.limits.trans first.limits) (first.ebbs.trans lower) ?_
    (second.inflight.trans first.inflight) (second.active.trans first.active)
    (second.waiters.trans first.waiters)
  intro nonneg relay
  have counts := first.refs nonneg
  rw [second.refs (fun relay => by rw [counts]; exact nonneg relay), counts]

theorem Registers.undo (registers : Registers now relays a b) (quiet : Quiet now b c)
    (releases : Releases now relays c d) (fresh : Disjoint a.inflight keys)
    (taken : b.inflight = a.inflight ∪ keys) (given : d.inflight = c.inflight \ keys)
    (more : b.active = a.active + 1) (fewer : d.active = c.active - 1)
    (first : b.opaqueWaiters = a.opaqueWaiters) (last : d.opaqueWaiters = c.opaqueWaiters) :
    Quiet now a d := by
  have lower := quiet.ebbs
  have lowest := releases.ebbs
  rw [registers.limits] at lower
  rw [quiet.limits, registers.limits] at lowest
  refine .of_ebbs (releases.limits.trans (quiet.limits.trans registers.limits))
    ((registers.ebbs.trans lower).trans lowest) ?_ ?_ ?_ ?_
  · intro nonneg relay
    have added := registers.refs nonneg
    have kept := quiet.refs fun relay => by
      rw [added]
      have base := nonneg relay
      unfold named
      split <;> omega
    have counted : ∀ relay ∈ relays.val, 0 < c.relays.refsOf relay := by
      intro relay member
      rw [kept, added, named, if_pos member]
      have base := nonneg relay
      omega
    rw [releases.refs counted, kept, added]
    omega
  · rw [given, quiet.inflight, taken, Finset.union_sdiff_right,
      Finset.sdiff_eq_self_of_disjoint fresh]
  · rw [fewer, quiet.active, more]
    omega
  · rw [last, quiet.waiters, first]

/-! ### Lanes, receipts and the breaker -/

theorem laneWait_quiet (a : Admission) (now : Instant) (purpose : Purpose) :
    Quiet now a (a.laneWaitLocked now purpose).1 := by
  unfold Admission.laneWaitLocked
  dsimp only
  split <;> exact .beside rfl rfl rfl rfl rfl

theorem closeBreaker_quiet (a : Admission) (time : Instant) (generation : Nat) :
    Quiet now a (a.closeBreakerLocked time generation) := by
  unfold Admission.closeBreakerLocked
  split
  · exact .refl a
  · exact .beside rfl rfl rfl rfl rfl

theorem killSwitch_open (passed : a.killSwitchLocked file = .ok ()) :
    a.runtimeKilled = false ∧ file = .inactive := by
  unfold Admission.killSwitchLocked at passed
  split at passed
  · cases passed
  rename_i alive
  refine ⟨by simpa using alive, ?_⟩
  cases file with
  | inactive => rfl
  | active | unreadable => cases passed

theorem cooled_of_breaker (none : ¬0 < a.breakerWaitLocked now) : a.breakerUntil ≤ now := by
  by_contra open'
  apply none
  rw [Admission.breakerWaitLocked, if_pos (not_le.mp open')]
  by_contra zero
  exact open' (TokenBucket.le_of_sub_nonpos (not_lt.mp zero))

/-! ### Publications -/

variable {publication : Publication}

theorem mem_keys :
    key ∈ publication.keys ↔ publication.eventID ≠ "" ∧ key.eventID = publication.eventID ∧
      key.relay ∈ publication.relays.val := by
  unfold Publication.keys
  by_cases blank : publication.eventID = ""
  · simp [blank]
  rw [if_neg blank, List.mem_toFinset, List.mem_map]
  constructor
  · rintro ⟨relay, member, rfl⟩
    exact ⟨blank, rfl, member⟩
  · rintro ⟨_, event, member⟩
    exact ⟨key.relay, member, by rw [← event]⟩

structure Begun (now : Instant) (a b : Admission) (publication : Publication) : Prop where
  registers : Registers now publication.relays a b
  room : a.active < a.limits.maxActive
  active : b.active = a.active + 1
  fresh : Disjoint a.inflight publication.keys
  inflight : b.inflight = a.inflight ∪ publication.keys
  waiters : b.opaqueWaiters = a.opaqueWaiters
  registered : publication.registered = true
  open' : publication.closed = false

section Reserve
variable {orders : String → List String}

theorem reserve_counts
    (result : Registry.reserve a.limits now orders [] relays.val a.relays = (registry, granted))
    (nonneg : ∀ relay, 0 ≤ a.relays.refsOf relay) (relay : String) :
    registry.refsOf relay =
      if granted = true then a.relays.refsOf relay + named relays relay
      else a.relays.refsOf relay := by
  have distinct : ([] ++ relays.val).Nodup := relays.property
  have counted := Registry.reserve_refs a.limits now orders distinct nonneg nofun relay
  rw [result] at counted
  simpa [named] using counted

theorem reserve_refused
    (result : Registry.reserve a.limits now orders [] relays.val a.relays = (registry, false)) :
    Quiet now a { a with relays := registry } := by
  have ebbs := Registry.reserve_ebbs a.limits now orders [] relays.val a.relays
  rw [result] at ebbs
  refine .of_ebbs rfl ebbs ?_ rfl rfl rfl
  intro nonneg relay
  simpa using reserve_counts result nonneg relay

theorem reserve_granted
    (result : Registry.reserve a.limits now orders [] relays.val a.relays = (registry, true))
    (limits : b.limits = a.limits) (written : b.relays = registry) : Registers now relays a b := by
  have ebbs := Registry.reserve_ebbs a.limits now orders [] relays.val a.relays
  rw [result] at ebbs
  subst written
  refine ⟨limits, ebbs, ?_⟩
  intro nonneg relay
  simpa using reserve_counts result nonneg relay

end Reserve

theorem releases_drop (limits : b.limits = a.limits)
    (dropped : b.relays = relays.val.foldl (Registry.adjustRefs drop) a.relays)
    (less : ∀ refs, 0 < refs → drop refs = refs - 1) : Releases now relays a b := by
  refine ⟨limits, dropped ▸ Registry.adjustRefs_foldl_ebbs _ _ _, ?_⟩
  intro counted relay
  have present : ∀ relay ∈ relays.val, relay ∈ a.relays := by
    intro relay member
    exact Registry.mem_of_refs (ne_of_gt (counted relay member))
  rw [dropped, Registry.adjustRefs_foldl_refs relays.property present, named]
  by_cases member : relay ∈ relays.val
  · rw [if_pos member, if_pos member, less _ (counted relay member)]
  · rw [if_neg member, if_neg member, Int.sub_zero]

theorem register_effect (result : publication.registerLocked a now orders = (b, outcome)) :
    (∃ failure, outcome = .error failure ∧ Quiet now a b) ∨
      (outcome = .ok { publication with registered := true } ∧
        Registers now publication.relays a b ∧ b.active = a.active + 1 ∧
          b.inflight = a.inflight ∪ publication.keys ∧ b.opaqueWaiters = a.opaqueWaiters) := by
  unfold Publication.registerLocked at result
  split at result
  · rename_i refused
    cases result
    exact .inl ⟨_, rfl, reserve_refused refused⟩
  · rename_i granted
    cases result
    exact .inr ⟨rfl, reserve_granted granted rfl rfl, rfl, rfl, rfl⟩

theorem unregister_effect (now : Instant)
    (registered : publication.registered = true) (a : Admission) :
    Releases now publication.relays a (publication.unregisterLocked a) ∧
      (publication.unregisterLocked a).inflight = a.inflight \ publication.keys ∧
        (publication.unregisterLocked a).active = a.active - 1 ∧
          (publication.unregisterLocked a).opaqueWaiters = a.opaqueWaiters := by
  unfold Publication.unregisterLocked
  rw [if_pos registered]
  exact ⟨releases_drop rfl rfl fun _ positive => if_pos positive, rfl, rfl, rfl⟩

theorem Begun.later
    (begun : Begun now a b publication) (quiet : Quiet now b c) : Begun now a c publication where
  registers :=
    { limits := quiet.limits.trans begun.registers.limits
      ebbs := begun.registers.ebbs.trans (begun.registers.limits ▸ quiet.ebbs)
      refs := by
        intro nonneg relay
        have added := begun.registers.refs nonneg
        have positive : ∀ relay, 0 ≤ b.relays.refsOf relay := by
          intro relay
          rw [added, named]
          have base := nonneg relay
          split <;> omega
        rw [quiet.refs positive, added] }
  room := begun.room
  active := quiet.active.trans begun.active
  fresh := begun.fresh
  inflight := quiet.inflight.trans begun.inflight
  waiters := quiet.waiters.trans begun.waiters
  registered := begun.registered
  open' := begun.open'

theorem Begun.renumber (begun : Begun now a b publication) (generation : Nat) :
    Begun now a b { publication with generation } :=
  ⟨begun.registers, begun.room, begun.active, begun.fresh, begun.inflight, begun.waiters,
    begun.registered, begun.open'⟩

theorem Begun.refused (begun : Begun now a b publication) (quiet : Quiet now b c) :
    Quiet now a (publication.unregisterLocked c) := by
  obtain ⟨releases, inflight, active, waiters⟩ := unregister_effect now begun.registered c
  exact begun.registers.undo quiet releases begun.fresh begun.inflight inflight begun.active active
    begun.waiters waiters

theorem beginLocked_effect (result : a.beginLocked now meets op event relays = (b, outcome)) :
    (∃ failure, outcome = .error failure ∧ Quiet now a b) ∨
      ∃ publication, outcome = .ok publication ∧ publication.op = op.map Prod.fst ∧
        ((publication.closed = true ∧ publication.registered = false ∧ Quiet now a b) ∨
          Begun now a b publication) := by
  unfold Admission.beginLocked at result
  split at result
  · cases result
    exact .inl ⟨_, rfl, .refl a⟩
  dsimp only at result
  have pruned : Quiet now a (a.pruneReceiptsLocked now) := .beside rfl rfl rfl rfl rfl
  split at result
  · cases result
    exact .inr ⟨_, rfl, rfl, .inl ⟨rfl, rfl, pruned⟩⟩
  split at result
  · cases result
    exact .inl ⟨_, rfl, pruned⟩
  rename_i idle
  split at result
  · cases result
    exact .inl ⟨_, rfl, pruned⟩
  rename_i room
  rcases register_effect result with ⟨failure, refused, quiet⟩ |
    ⟨granted, registers, active, inflight, waiters⟩
  · exact .inl ⟨failure, refused, pruned.trans quiet⟩
  · refine .inr ⟨_, granted, rfl, .inr ?_⟩
    refine ⟨⟨registers.limits, registers.ebbs, registers.refs⟩, ?_, active, ?_, inflight,
      waiters, rfl, rfl⟩
    · have bound := not_le.mp room
      exact bound
    · rw [Finset.disjoint_left]
      intro key held member
      obtain ⟨named, event, relay⟩ := mem_keys.mp member
      apply idle
      refine ⟨named, key.relay, relay, ?_⟩
      rw [← event]
      exact held

/-! ### Tries -/

/-- What a try may do: only an admitted one pays. -/
inductive Tried (now : Instant) (meets : Meets) (frames : List Frame) (a b : Admission) : Try → Prop
  | failed {failure : Failure} (quiet : Quiet now a b) : Tried now meets frames a b (.failed failure)
  | wait {time : Duration} (quiet : Quiet now a b) : Tried now meets frames a b (.wait time)
  | admitted (gate : GateOpen a now meets) (charges : Charges now frames a b) :
    Tried now meets frames a b .admitted

theorem awaitLocked_tried (deadline : Instant)
    (tried : Tried now meets frames a attempt.1 attempt.2) :
    Tried now meets frames a (a.awaitLocked meets deadline now attempt).1
      (a.awaitLocked meets deadline now attempt).2 := by
  unfold Admission.awaitLocked
  split
  · exact .failed (.refl a)
  split
  · exact .failed (.refl a)
  · exact tried

theorem tryBulk_tried (a : Admission) (now : Instant) (meets : Meets) (closed : Bool) :
    Tried now meets [] a (a.tryBulk now meets closed).1 (a.tryBulk now meets closed).2 := by
  have waited := laneWait_quiet a now .bulk
  unfold Admission.tryBulk
  split
  · exact .failed (.refl a)
  split
  · exact .failed (.refl a)
  rename_i passed
  split
  · exact .wait (.refl a)
  rename_i cool
  dsimp only
  split
  · exact .wait waited
  · obtain ⟨alive, inactive⟩ := killSwitch_open passed
    exact .admitted ⟨alive, inactive, cooled_of_breaker cool⟩ waited

theorem waitWire_quiet (a : Admission) (now : Instant) (priority : Bool) (relay : String) :
    Quiet now a { a with relays := (a.relays.waitWire now priority relay).1 } :=
  .of_tidied (Registry.waitWire_tidies _ _ _ _ _) rfl rfl rfl rfl

theorem count_frames (priority : Bool) (relays : Destinations) (relay : String) (share : Bool) :
    ((relays.val.map fun relay => (⟨relay, priority⟩ : Frame)).count ⟨relay, share⟩ : ℚ) =
      if relay ∈ relays.val ∧ share = priority then 1 else 0 := by
  have injective : Function.Injective fun relay => (⟨relay, priority⟩ : Frame) := by
    intro first second same
    exact congrArg Frame.relay same
  have distinct := relays.property.map injective
  rw [distinct.count]
  by_cases sent : relay ∈ relays.val ∧ share = priority
  · rw [if_pos sent, if_pos (List.mem_map.mpr ⟨relay, sent.1, by rw [sent.2]⟩), Nat.cast_one]
  rw [if_neg sent, if_neg, Nat.cast_zero]
  intro listed
  obtain ⟨other, member, same⟩ := List.mem_map.mp listed
  cases same
  exact sent ⟨member, rfl⟩

theorem waitWires_charges (known : ∀ relay ∈ relays.val, relay ∈ a.relays)
    (elapsed : ¬0 < (Registry.waitWires now priority relays.val (a.relays, longest)).2)
    (limits : b.limits = a.limits) (inflight : b.inflight = a.inflight)
    (active : b.active = a.active) (waiters : b.opaqueWaiters = a.opaqueWaiters)
    (spent : b.relays = relays.val.foldl (Registry.spendWire · priority)
      (Registry.waitWires now priority relays.val (a.relays, longest)).1) :
    Charges now (relays.val.map fun relay => ⟨relay, priority⟩) a b where
  limits := limits
  refs _ other := by
    rw [spent, Registry.spendWires_refs,
      (Registry.waitWires_tidies a.limits now priority relays.val a.relays longest).refs]
  inflight := inflight
  active := active
  waiters := waiters
  levels sound := by
    have ebbs := Registry.waitWires_tidies a.limits now priority relays.val a.relays longest
    have ready := Registry.waitWires_ready sound known (not_lt.mp elapsed)
    obtain ⟨kept, levels⟩ := Registry.spendWires_level relays.property ready (ebbs.sound sound)
    rw [spent]
    refine ⟨kept, ?_⟩
    intro relay share
    rw [count_frames, levels relay share]
    exact ebbs.level sound relay share

theorem waitWire_charges (waited : (a.relays.waitWire now priority relay).2 = some time)
    (elapsed : ¬0 < time) (limits : b.limits = a.limits) (inflight : b.inflight = a.inflight)
    (active : b.active = a.active) (waiters : b.opaqueWaiters = a.opaqueWaiters)
    (spent : b.relays = (a.relays.waitWire now priority relay).1.spendWire priority relay) :
    Charges now [⟨relay, priority⟩] a b := by
  let only : Destinations := ⟨[relay], List.nodup_singleton relay⟩
  have known : ∀ other ∈ only.val, other ∈ a.relays := by
    intro other member
    rw [List.mem_singleton.mp member]
    exact Registry.mem_of_waited waited
  have none : ¬0 < (Registry.waitWires now priority only.val (a.relays, 0)).2 := by
    show ¬0 < max 0 ((a.relays.waitWire now priority relay).2.getD 0)
    rw [waited]
    simpa using elapsed
  exact waitWires_charges known none limits inflight active waiters spent

theorem tryAttempt_tried (now : Instant) (meets : Meets) (publication : Publication)
    (operationClosed : Bool)
    (known : publication.closed = false → relay ∈ a.relays) :
    Tried now meets [⟨relay, publication.purpose.isPriority⟩] a
      (a.tryAttempt now meets publication operationClosed relay).1
      (a.tryAttempt now meets publication operationClosed relay).2 := by
  unfold Admission.tryAttempt
  split
  · exact .failed (.refl a)
  rename_i running
  have present : relay ∈ a.relays := by
    apply known
    cases closed : publication.closed with
    | false => rfl
    | true => exact absurd (by rw [closed]; rfl) running
  obtain ⟨entry, found⟩ := Bucket.mem_iff_get.mp present
  split
  · exact .failed (.refl a)
  rename_i passed
  obtain ⟨alive, inactive⟩ := killSwitch_open passed
  split
  · split
    · exact .failed (.refl a)
    · exact .wait (.refl a)
  rename_i cool
  have quiet := waitWire_quiet a now publication.purpose.isPriority relay
  dsimp only
  split
  · rename_i nothing
    simp [Registry.waitWire, found] at nothing
  rename_i waited
  split
  · split
    · exact .failed quiet
    · exact .wait quiet
  · rename_i elapsed
    exact .admitted ⟨alive, inactive, cooled_of_breaker cool⟩
      (waitWire_charges waited elapsed rfl rfl rfl rfl rfl)

theorem tryOpaque_tried (now : Instant) (meets : Meets) (purpose : Purpose)
    (known : ∀ relay ∈ relays.val, relay ∈ a.relays) :
    Tried now meets (relays.val.map fun relay => ⟨relay, purpose.isPriority⟩) a
      (a.tryOpaque now meets purpose relays).1 (a.tryOpaque now meets purpose relays).2 := by
  unfold Admission.tryOpaque
  split
  · exact .failed (.refl a)
  rename_i passed
  obtain ⟨alive, inactive⟩ := killSwitch_open passed
  dsimp only
  split
  · exact .wait (.of_tidied (Registry.waitWires_tidies _ _ _ _ _ _) rfl rfl rfl rfl)
  rename_i elapsed
  have longest := Registry.waitWires_longest now purpose.isPriority relays.val a.relays
    (max (a.breakerWaitLocked now) (a.lanesWait now purpose).2)
  have cool : ¬0 < a.breakerWaitLocked now := by
    apply not_lt.mpr
    exact (le_max_left _ _).trans (longest.trans (not_lt.mp elapsed))
  exact .admitted ⟨alive, inactive, cooled_of_breaker cool⟩
    (waitWires_charges known elapsed rfl rfl rfl rfl rfl)

theorem Charges.after_quiet (first : Quiet now a b) (second : Charges now frames b c) :
    Charges now frames a c where
  limits := second.limits.trans first.limits
  refs nonneg relay := by
    have counts := first.refs nonneg
    rw [second.refs (fun relay => by rw [counts]; exact nonneg relay), counts]
  inflight := second.inflight.trans first.inflight
  active := second.active.trans first.active
  waiters := second.waiters.trans first.waiters
  levels sound := by
    have lower := first.ebbs
    have paid := second.levels (by rw [first.limits]; exact lower.sound sound)
    rw [first.limits] at paid
    refine ⟨paid.1, ?_⟩
    intro relay share
    exact (paid.2 relay share).trans (lower.level sound relay share)

theorem authLocked_tried (a : Admission) (now : Instant) (meets : Meets) (relay : String) :
    Tried now meets [⟨relay, true⟩] a (a.authLocked now meets relay).1
      (a.authLocked now meets relay).2 := by
  have tidied (registry : Registry) (success : Bool)
      (found : Registry.relayBucketLocked a.limits now (meets.orders relay) a.relays relay =
        (registry, success)) : Quiet now a { a with relays := registry } := by
    have tidies := Registry.relayBucketLocked_tidies a.limits now (meets.orders relay) a.relays relay
    rw [found] at tidies
    exact .of_tidied tidies rfl rfl rfl rfl
  unfold Admission.authLocked
  split
  · exact .failed (.refl a)
  rename_i passed
  obtain ⟨alive, inactive⟩ := killSwitch_open passed
  split
  · exact .failed (.refl a)
  rename_i cool
  split
  · rename_i registry refused
    exact .failed (tidied registry false refused)
  rename_i registry found
  have first := tidied registry true found
  have present : relay ∈ registry := by
    have held := @Registry.relayBucketLocked_present a.limits now a.relays relay
      (meets.orders relay)
    rw [found] at held
    exact held rfl
  obtain ⟨entry, kept⟩ := Bucket.mem_iff_get.mp present
  have waited : (registry.waitWire now true relay).2 = some ((entry.wire true).wait now).2 := by
    simp only [Registry.waitWire, kept]
  have looked : Quiet now a
      { (Admission.lanesWait { a with relays := registry } now .priority).1 with
        relays := (registry.waitWire now true relay).1 } :=
    first.trans (.of_tidied (Registry.waitWire_tidies _ _ _ _ _) rfl rfl rfl rfl)
  dsimp only
  split
  · exact .failed looked
  rename_i elapsed
  split
  · exact .failed looked
  refine .admitted ⟨alive, inactive, cooled_of_breaker cool⟩ ?_
  refine .after_quiet first (waitWire_charges waited ?_ rfl rfl rfl rfl rfl)
  change ¬0 < (registry.waitWire now true relay).2.getD 0 at elapsed
  rwa [waited] at elapsed

theorem leaveOpaque_effect (now : Instant) (a : Admission) (relays : Destinations) :
    Releases now relays a (System.leaveOpaque a relays) :=
  releases_drop rfl rfl fun _ _ => rfl

end Bahia.Nostrout
