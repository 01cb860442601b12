import Bahia.Nostrout.Effects

/-! The books of the controller. A move changes one publication or one opaque waiter together
with the counts it is entered in, so the counts always describe the callers. -/

namespace Bahia.Nostrout
open Foundation List

def Permit.registered (permit : Permit) : Bool := permit.publication.registered

def Permit.holds (key : ReceiptKey) (permit : Permit) : Bool :=
  permit.publication.registered && decide (key ∈ permit.publication.keys)

def Permit.names (relay : String) (permit : Permit) : Bool :=
  permit.publication.registered && decide (relay ∈ permit.publication.relays.val)

def Opaque.names (relay : String) (waiter : Opaque) : Bool :=
  waiter.waiting && decide (relay ∈ waiter.relays.val)

/-- A publication is entered until it is closed or its begin fails. -/
structure Permit.Coherent (permit : Permit) : Prop where
  registered_iff : permit.registered = true ↔
    permit.publication.closed = false ∧ permit.stage ≠ .dropped
  open_of_waiting : ∀ wake, permit.stage = .waiting wake → permit.publication.closed = false

/-- What a step may do to the controller, the publications and the opaque waiters, with the
frames it authorises. -/
inductive Move (now : Instant) (meets : Meets) : Admission → List Permit → List Opaque →
    Admission → List Permit → List Opaque → List Frame → Prop
  | quiet (quiet : Quiet now a b) : Move now meets a permits waiters b permits waiters []
  | sends (gate : GateOpen a now meets) (charges : Charges now frames a b) :
    Move now meets a permits waiters b permits waiters frames
  | caches {publication : Publication} (closed : publication.closed = true)
      (unregistered : publication.registered = false) (quiet : Quiet now a b) :
    Move now meets a permits waiters b (permits ++ [⟨publication, .returned⟩]) waiters []
  | enters {publication : Publication} {stage : PermitStage} (begun : Begun now a b publication)
      (kept : stage ≠ .dropped) :
    Move now meets a permits waiters b (permits ++ [⟨publication, stage⟩]) waiters []
  | restages {publication : Publication} {wake : Instant} {stage : PermitStage} (index : Nat)
      (generation : Nat) (found : permits[index]? = some ⟨publication, .waiting wake⟩)
      (kept : stage ≠ .dropped) (quiet : Quiet now a b) :
    Move now meets a permits waiters b
      (permits.set index ⟨{ publication with generation }, stage⟩) waiters []
  | drops {publication : Publication} {wake : Instant} (index : Nat)
      (found : permits[index]? = some ⟨publication, .waiting wake⟩) (quiet : Quiet now a b) :
    Move now meets a permits waiters (publication.unregisterLocked b)
      (permits.set index ⟨{ publication with registered := false }, .dropped⟩) waiters []
  | closes {publication : Publication} (index : Nat)
      (found : permits[index]? = some ⟨publication, .returned⟩) (open' : publication.closed = false) :
    Move now meets a permits waiters (publication.unregisterLocked a)
      (permits.set index ⟨{ publication with closed := true, registered := false }, .returned⟩)
      waiters []
  | waits (waiter : Opaque) (waiting : waiter.waiting = true)
      (registers : Registers now waiter.relays a b) (inflight : b.inflight = a.inflight)
      (active : b.active = a.active) (more : b.opaqueWaiters = a.opaqueWaiters + 1) :
    Move now meets a permits waiters b permits (waiters ++ [waiter]) []
  | looks {waiter : Opaque} (index : Nat) (wakeAt : Instant) (found : waiters[index]? = some waiter)
      (quiet : Quiet now a b) :
    Move now meets a permits waiters b permits (waiters.set index { waiter with wakeAt }) []
  | leaves {waiter : Opaque} (index : Nat) (found : waiters[index]? = some waiter)
      (waiting : waiter.waiting = true) (gate : frames ≠ [] → GateOpen a now meets)
      (charges : Charges now frames a b) :
    Move now meets a permits waiters (System.leaveOpaque b waiter.relays) permits
      (waiters.set index { waiter with waiting := false }) frames

/-- The counts of the controller describe the publications and the waiters. -/
structure Booked (a : Admission) (permits : List Permit) (waiters : List Opaque) : Prop where
  coherent : ∀ permit ∈ permits, permit.Coherent
  active : a.active = permits.countP Permit.registered
  capacity : a.active ≤ a.limits.maxActive
  inflight : ∀ key, permits.countP (Permit.holds key) = if key ∈ a.inflight then 1 else 0
  refs : ∀ relay, a.relays.refsOf relay =
    permits.countP (Permit.names relay) + waiters.countP (Opaque.names relay)
  waiters : a.opaqueWaiters = waiters.countP Opaque.waiting

namespace Booked
variable {a : Admission}
variable {permits : List Permit} {waiters : List Opaque}

theorem refs_nonneg (booked : Booked a permits waiters) (relay : String) :
    0 ≤ a.relays.refsOf relay := by
  rw [booked.refs relay]
  omega

theorem charged (booked : Booked a permits waiters) (charges : Charges now frames a b) :
    Booked b permits waiters where
  coherent := booked.coherent
  active := charges.active.trans booked.active
  capacity := by
    rw [charges.active, charges.limits]
    exact booked.capacity
  inflight key := by
    rw [charges.inflight]
    exact booked.inflight key
  refs relay := (charges.refs booked.refs_nonneg relay).trans (booked.refs relay)
  waiters := charges.waiters.trans booked.waiters

variable {publication : Publication} {index : Nat} {waiter : Opaque}

variable (booked : Booked a permits waiters)
include booked

theorem cached
    (closed : publication.closed = true) (unregistered : publication.registered = false) :
    Booked a (permits ++ [⟨publication, .returned⟩]) waiters where
  coherent permit member := by
    rcases mem_append.mp member with earlier | last
    · exact booked.coherent permit earlier
    · rw [mem_singleton.mp last]
      exact ⟨by simp [Permit.registered, closed, unregistered], nofun⟩
  active := by
    rw [countP_append]
    simpa [Permit.registered, unregistered] using booked.active
  capacity := booked.capacity
  inflight key := by
    rw [countP_append]
    simpa [Permit.holds, unregistered] using booked.inflight key
  refs relay := by
    rw [countP_append]
    simpa [Permit.names, unregistered] using booked.refs relay
  waiters := booked.waiters

theorem entered (begun : Begun now a b publication) (kept : stage ≠ .dropped) :
    Booked b (permits ++ [⟨publication, stage⟩]) waiters where
  coherent permit member := by
    rcases mem_append.mp member with earlier | last
    · exact booked.coherent permit earlier
    rw [mem_singleton.mp last]
    refine ⟨?_, fun _ _ => begun.open'⟩
    simp [Permit.registered, begun.registered, begun.open', kept]
  active := by
    rw [countP_append, begun.active, booked.active]
    simp [Permit.registered, begun.registered]
  capacity := by
    rw [begun.active, begun.registers.limits]
    exact begun.room
  inflight key := by
    rw [countP_append, booked.inflight key, begun.inflight]
    by_cases fresh : key ∈ publication.keys
    · have free := Finset.disjoint_right.mp begun.fresh fresh
      simp [Permit.holds, begun.registered, fresh, free]
    · simp [Permit.holds, fresh]
  refs relay := by
    rw [begun.registers.refs booked.refs_nonneg relay, booked.refs relay, countP_append, named]
    by_cases listed : relay ∈ publication.relays.val
    · simp [Permit.names, begun.registered, listed]
      omega
    · simp [Permit.names, listed]
  waiters := begun.waiters.trans booked.waiters

theorem restaged (generation : Nat) (found : permits[index]? = some ⟨publication, .waiting wake⟩)
    (kept : stage ≠ .dropped) :
    Booked a (permits.set index ⟨{ publication with generation }, stage⟩) waiters := by
  have old := booked.coherent _ (mem_of_getElem? found)
  have running := old.open_of_waiting wake rfl
  have entered := old.registered_iff.mpr ⟨running, nofun⟩
  have same (p : Permit → Bool)
      (equal : p ⟨{ publication with generation }, stage⟩ = p ⟨publication, .waiting wake⟩) :
      (permits.set index ⟨{ publication with generation }, stage⟩).countP p = permits.countP p := by
    have counted := countP_set_of_get p found ⟨{ publication with generation }, stage⟩
    rw [equal] at counted
    exact Nat.add_right_cancel counted
  refine ⟨?_, ?_, booked.capacity, ?_, ?_, booked.waiters⟩
  · intro permit member
    rcases mem_or_eq_of_mem_set member with earlier | new
    · exact booked.coherent permit earlier
    · rw [new]
      exact ⟨⟨fun _ => ⟨running, kept⟩, fun _ => entered⟩, fun _ _ => running⟩
  · rw [same Permit.registered rfl]
    exact booked.active
  · intro key
    rw [same (Permit.holds key) rfl]
    exact booked.inflight key
  · intro relay
    rw [same (Permit.names relay) rfl]
    exact booked.refs relay

theorem names_le_refs (member : permit ∈ permits) (entered : permit.registered = true)
    (listed : relay ∈ permit.publication.relays.val) : 0 < a.relays.refsOf relay := by
  have counted : 0 < permits.countP (Permit.names relay) := by
    apply countP_pos_iff.mpr
    exact ⟨permit, member, by rw [Permit.names, Bool.and_eq_true]; exact ⟨entered, by simpa using listed⟩⟩
  rw [booked.refs relay]
  omega

theorem removed (found : permits[index]? = some ⟨publication, stage⟩)
    (entered : publication.registered = true) (left : ended.registered = false)
    (ending : ended.closed = true ∨ last = .dropped) (settled : ∀ wake, last ≠ .waiting wake) :
    Booked (publication.unregisterLocked a) (permits.set index ⟨ended, last⟩) waiters := by
  obtain ⟨releases, inflight, active, opaque'⟩ := unregister_effect 0 entered a
  have counted (p : Permit → Bool) (gone : p ⟨ended, last⟩ = false) :
      (permits.set index ⟨ended, last⟩).countP p + (if p ⟨publication, stage⟩ then 1 else 0) =
        permits.countP p := by
    have counts := countP_set_of_get p found ⟨ended, last⟩
    rwa [gone, if_neg Bool.false_ne_true, Nat.add_zero] at counts
  refine ⟨?_, ?_, ?_, ?_, ?_, opaque'.trans booked.waiters⟩
  · intro permit member
    rcases mem_or_eq_of_mem_set member with earlier | new
    · exact booked.coherent permit earlier
    rw [new]
    refine ⟨?_, fun wake waiting => absurd waiting (settled wake)⟩
    rcases ending with closed | dropped
    · simp [Permit.registered, left, closed]
    · simp [Permit.registered, left, dropped]
  · have counts := counted Permit.registered left
    rw [if_pos (show Permit.registered ⟨publication, stage⟩ = true from entered)] at counts
    rw [active, booked.active]
    omega
  · rw [active, releases.limits]
    have bound := booked.capacity
    omega
  · intro key
    have counts := counted (Permit.holds key) (by rw [Permit.holds, left, Bool.false_and])
    rw [booked.inflight key] at counts
    rw [inflight]
    by_cases held : key ∈ publication.keys
    · have holds : Permit.holds key ⟨publication, stage⟩ = true := by
        rw [Permit.holds, entered, Bool.true_and, decide_eq_true held]
      rw [if_pos holds] at counts
      rw [if_neg (fun member => (Finset.mem_sdiff.mp member).2 held)]
      split at counts <;> omega
    · have other : ¬Permit.holds key ⟨publication, stage⟩ = true := by
        rw [Permit.holds, decide_eq_false held, Bool.and_false]
        exact Bool.false_ne_true
      rw [if_neg other] at counts
      simpa [held] using counts
  · intro relay
    have counts := counted (Permit.names relay) (by rw [Permit.names, left, Bool.false_and])
    have positive : ∀ relay ∈ publication.relays.val, 0 < a.relays.refsOf relay := by
      intro relay listed
      exact booked.names_le_refs (mem_of_getElem? found) entered listed
    rw [releases.refs positive relay, booked.refs relay, ← counts, named]
    by_cases listed : relay ∈ publication.relays.val
    · have names : Permit.names relay ⟨publication, stage⟩ = true := by
        rw [Permit.names, entered, Bool.true_and, decide_eq_true listed]
      rw [if_pos names, if_pos listed]
      omega
    · have other : ¬Permit.names relay ⟨publication, stage⟩ = true := by
        rw [Permit.names, decide_eq_false listed, Bool.and_false]
        exact Bool.false_ne_true
      rw [if_neg other, if_neg listed]
      omega

theorem waited (waiting : waiter.waiting = true) (registers : Registers now waiter.relays a b)
    (inflight : b.inflight = a.inflight) (active : b.active = a.active)
    (more : b.opaqueWaiters = a.opaqueWaiters + 1) : Booked b permits (waiters ++ [waiter]) where
  coherent := booked.coherent
  active := active.trans booked.active
  capacity := by
    rw [active, registers.limits]
    exact booked.capacity
  inflight key := by
    rw [inflight]
    exact booked.inflight key
  refs relay := by
    rw [registers.refs booked.refs_nonneg relay, booked.refs relay, countP_append, named]
    by_cases listed : relay ∈ waiter.relays.val
    · simp [Opaque.names, waiting, listed]
      omega
    · simp [Opaque.names, listed]
  waiters := by
    rw [more, booked.waiters, countP_append]
    simp [waiting]

theorem looked (wakeAt : Instant) (found : waiters[index]? = some waiter) :
    Booked a permits (waiters.set index { waiter with wakeAt }) := by
  have same (p : Opaque → Bool) (equal : p { waiter with wakeAt } = p waiter) :
      (waiters.set index { waiter with wakeAt }).countP p = waiters.countP p := by
    have counted := countP_set_of_get p found { waiter with wakeAt }
    rw [equal] at counted
    exact Nat.add_right_cancel counted
  refine ⟨booked.coherent, booked.active, booked.capacity, booked.inflight, ?_, ?_⟩
  · intro relay
    rw [same (Opaque.names relay) rfl]
    exact booked.refs relay
  · rw [same Opaque.waiting rfl]
    exact booked.waiters

theorem waiting_refs (member : waiter ∈ waiters) (waiting : waiter.waiting = true) {relay : String}
    (listed : relay ∈ waiter.relays.val) : 0 < a.relays.refsOf relay := by
  have counted : 0 < waiters.countP (Opaque.names relay) := by
    apply countP_pos_iff.mpr
    exact ⟨waiter, member, by rw [Opaque.names, waiting, Bool.true_and, decide_eq_true listed]⟩
  rw [booked.refs relay]
  omega

theorem departed (found : waiters[index]? = some waiter) (waiting : waiter.waiting = true) :
    Booked (System.leaveOpaque a waiter.relays) permits
      (waiters.set index { waiter with waiting := false }) := by
  have releases := leaveOpaque_effect 0 a waiter.relays
  have counted (p : Opaque → Bool) (gone : p { waiter with waiting := false } = false) :
      (waiters.set index { waiter with waiting := false }).countP p + (if p waiter then 1 else 0) =
        waiters.countP p := by
    have counts := countP_set_of_get p found { waiter with waiting := false }
    rwa [gone, if_neg Bool.false_ne_true, Nat.add_zero] at counts
  refine ⟨booked.coherent, booked.active, booked.capacity, booked.inflight, ?_, ?_⟩
  · intro relay
    have counts := counted (Opaque.names relay) rfl
    have positive : ∀ relay ∈ waiter.relays.val, 0 < a.relays.refsOf relay := by
      intro relay listed
      exact booked.waiting_refs (mem_of_getElem? found) waiting listed
    rw [releases.refs positive relay, booked.refs relay, ← counts, named]
    by_cases listed : relay ∈ waiter.relays.val
    · rw [if_pos listed, if_pos (by rw [Opaque.names, waiting, Bool.true_and, decide_eq_true listed])]
      omega
    · rw [if_neg listed, if_neg (by simp [Opaque.names, listed])]
      omega
  · have counts := counted Opaque.waiting rfl
    rw [if_pos waiting] at counts
    show a.opaqueWaiters - 1 = _
    rw [booked.waiters]
    omega

end Booked

theorem unregister_limits (publication : Publication) (a : Admission) :
    (publication.unregisterLocked a).limits = a.limits := by
  unfold Publication.unregisterLocked
  split <;> rfl

namespace Move
variable (move : Move now meets a permits waiters b later remaining frames)
include move

/-- Every move keeps the books. -/
theorem booked (before : Booked a permits waiters) : Booked b later remaining := by
  cases move with
  | quiet quiet => exact before.charged quiet
  | sends gate charges => exact before.charged charges
  | caches closed unregistered quiet => exact (before.charged quiet).cached closed unregistered
  | enters begun kept => exact before.entered begun kept
  | restages index generation found kept quiet => exact (before.charged quiet).restaged generation found kept
  | drops index found quiet =>
    have coherent := before.coherent _ (mem_of_getElem? found)
    have entered := coherent.registered_iff.mpr ⟨coherent.open_of_waiting _ rfl, nofun⟩
    exact (before.charged quiet).removed found entered rfl (.inr rfl) nofun
  | closes index found running =>
    have coherent := before.coherent _ (mem_of_getElem? found)
    have entered := coherent.registered_iff.mpr ⟨running, nofun⟩
    exact before.removed found entered rfl (.inl rfl) nofun
  | waits waiter waiting registers inflight active more =>
    exact before.waited waiting registers inflight active more
  | looks index wakeAt found quiet => exact (before.charged quiet).looked wakeAt found
  | leaves index found waiting gate charges => exact (before.charged charges).departed found waiting

theorem gate (authorised : frames ≠ []) : GateOpen a now meets := by
  cases move with
  | sends gate => exact gate
  | leaves index found waiting gate => exact gate authorised
  | quiet | caches | enters | restages | drops | closes | waits | looks => exact absurd rfl authorised

theorem limits : b.limits = a.limits := by
  cases move with
  | quiet quiet | caches closed unregistered quiet | restages index generation found kept quiet
  | looks index wakeAt found quiet => exact quiet.limits
  | sends gate charges | leaves index found waiting gate charges => exact charges.limits
  | enters begun => exact begun.registers.limits
  | drops index found quiet => exact (unregister_limits _ _).trans quiet.limits
  | closes => exact unregister_limits _ _
  | waits waiter waiting registers => exact registers.limits

theorem relays_kept {index : Nat} {permit : Permit} (found : permits[index]? = some permit) :
    ∃ next, later[index]? = some next ∧ next.publication.relays = permit.publication.relays := by
  have appended (new : Permit) : (permits ++ [new])[index]? = some permit := by
    rw [List.getElem?_append_left (List.getElem?_eq_some_iff.mp found).1]
    exact found
  have replaced {place : Nat} {old new : Permit} (held : permits[place]? = some old)
      (same : new.publication.relays = old.publication.relays) :
      ∃ next, (permits.set place new)[index]? = some next ∧
        next.publication.relays = permit.publication.relays := by
    by_cases here : place = index
    · subst here
      cases Option.some.inj (held.symm.trans found)
      exact ⟨new, List.getElem?_set_self (List.getElem?_eq_some_iff.mp found).1, same⟩
    · exact ⟨permit, (List.getElem?_set_ne here).trans found, rfl⟩
  cases move with
  | caches | enters => exact ⟨permit, appended _, rfl⟩
  | restages place generation held | drops place held | closes place held => exact replaced held rfl
  | quiet | sends | waits | looks | leaves => exact ⟨permit, found, rfl⟩

end Move

end Bahia.Nostrout
