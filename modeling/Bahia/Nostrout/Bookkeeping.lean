import Bahia.Nostrout.Steps

/-! Bookkeeping over every run: what the controller counts is what its callers hold. -/

namespace Bahia.Nostrout
open Foundation

namespace System

theorem Kept.perform {s : System} (kept : s.Kept) (env : Env) (action : Action) :
    (s.after env action).Kept := by
  unfold after
  rcases perform_stepped env kept action with ⟨time, ticked⟩ | stepped
  · rw [ticked]
    exact ⟨kept.booked, kept.attempts⟩
  refine ⟨stepped.move.booked kept.booked, ?_⟩
  intro attempt member
  have started : ∃ permit, s.permits[attempt.permit]? = some permit ∧
      attempt.relay ∈ permit.publication.relays.val := by
    rcases stepped.continues attempt member with ⟨earlier, waiting, permit, relay⟩ | new
    · rw [← permit, ← relay]
      exact kept.attempts earlier waiting
    · exact new
  obtain ⟨permit, found, listed⟩ := started
  obtain ⟨next, kept, same⟩ := stepped.move.relays_kept found
  exact ⟨next, kept, same ▸ listed⟩

theorem kept_start (config : Config) (now : Instant) : (start config now).Kept where
  booked :=
    { coherent := nofun
      active := rfl
      capacity := (normalizeConfig config).maxActive_pos.le
      inflight := fun _ => rfl
      refs := fun _ => rfl
      waiters := rfl }
  attempts := nofun

theorem limits_after {s : System} (kept : s.Kept) (env : Env) (action : Action) :
    (s.after env action).admission.limits = s.admission.limits := by
  unfold after
  rcases perform_stepped env kept action with ⟨time, ticked⟩ | stepped
  · rw [ticked]
  · exact stepped.move.limits

/-- Every run from a new controller keeps the books and the limits. -/
theorem run_kept (env : Env) (config : Config) (now : Instant) (actions : List Action) :
    ((start config now).run env actions).Kept ∧
      ((start config now).run env actions).admission.limits = normalizeConfig config := by
  apply List.foldlRecOn (motive := fun s : System => s.Kept ∧ s.admission.limits = normalizeConfig config)
  · exact ⟨kept_start config now, rfl⟩
  · rintro s ⟨kept, limits⟩ action _
    exact ⟨kept.perform env action, (limits_after kept env action).trans limits⟩

/-- The controller's counts are exactly those of its callers. -/
structure BooksExact (env : Env) (config : Config) (s : System) : Prop where
  registered_iff : ∀ permit ∈ s.permits, permit.registered = true ↔
    permit.publication.closed = false ∧ permit.stage ≠ .dropped
  active : s.admission.active = s.permits.countP Permit.registered
  capacity : s.admission.active ≤ (normalizeConfig config).maxActive
  held_once : ∀ key ∈ s.admission.inflight,
    ∃! index : Nat, ∃ permit, s.permits[index]? = some permit ∧ permit.holds key = true
  held : ∀ permit ∈ s.permits, ∀ key, permit.holds key = true → key ∈ s.admission.inflight
  refs : ∀ relay, s.admission.relays.refsOf relay =
    s.permits.countP (Permit.names relay) + s.opaques.countP (Opaque.names relay)
  present : ∀ relay, s.admission.relays.refsOf relay ≠ 0 → relay ∈ s.admission.relays
  answered : ∀ action, (s.perform env action).2 ≠ .panicked
  finished : (∀ permit ∈ s.permits, permit.publication.closed = true ∨ permit.stage = .dropped) →
    (∀ waiter ∈ s.opaques, waiter.waiting = false) →
    s.admission.active = 0 ∧ s.admission.inflight = ∅ ∧
      ∀ relay, s.admission.relays.refsOf relay = 0

theorem Kept.answered {s : System} (kept : s.Kept) (env : Env) (action : Action) :
    (s.perform env action).2 ≠ .panicked := by
  rcases perform_stepped env kept action with ⟨time, ticked⟩ | stepped
  · rw [ticked]
    nofun
  · exact stepped.answered

theorem Kept.finished {s : System} (kept : s.Kept)
    (ended : ∀ permit ∈ s.permits, permit.publication.closed = true ∨ permit.stage = .dropped)
    (returned : ∀ waiter ∈ s.opaques, waiter.waiting = false) :
    s.admission.active = 0 ∧ s.admission.inflight = ∅ ∧
      ∀ relay, s.admission.relays.refsOf relay = 0 := by
  have left : ∀ permit ∈ s.permits, permit.publication.registered = false := by
    intro permit member
    have coherent := kept.booked.coherent permit member
    cases entered : permit.publication.registered with
    | false => rfl
    | true =>
      obtain ⟨running, staying⟩ := coherent.registered_iff.mp entered
      rcases ended permit member with closed | dropped
      · exact nomatch running.symm.trans closed
      · exact absurd dropped staying
  have none (p : Permit → Bool)
      (unentered : ∀ permit, permit.publication.registered = false → p permit = false) :
      s.permits.countP p = 0 := by
    apply List.countP_eq_zero.mpr
    intro permit member
    rw [unentered permit (left permit member)]
    exact Bool.false_ne_true
  refine ⟨?_, ?_, ?_⟩
  · rw [kept.booked.active, none Permit.registered fun _ unentered => unentered, Nat.cast_zero]
  · apply Finset.eq_empty_of_forall_notMem
    intro key member
    have counted := kept.booked.inflight key
    rw [if_pos member, none _ fun permit unentered => by
      rw [Permit.holds, unentered, Bool.false_and]] at counted
    cases counted
  · intro relay
    have silent : s.opaques.countP (Opaque.names relay) = 0 := by
      apply List.countP_eq_zero.mpr
      intro waiter member
      rw [Opaque.names, returned waiter member, Bool.false_and]
      exact Bool.false_ne_true
    rw [kept.booked.refs relay, silent, none _ fun permit unentered => by
      rw [Permit.names, unentered, Bool.false_and]]
    rfl

/-- In every reachable state the books are exact. -/
theorem run_books_exact (env : Env) (config : Config) (now : Instant) (actions : List Action) :
    BooksExact env config ((start config now).run env actions) := by
  obtain ⟨kept, limits⟩ := run_kept env config now actions
  generalize (start config now).run env actions = s at kept limits
  refine ⟨fun permit member => (kept.booked.coherent permit member).registered_iff,
    kept.booked.active, limits ▸ kept.booked.capacity, ?_, ?_, kept.booked.refs,
    fun _ counted => Registry.mem_of_refs counted, kept.answered env, kept.finished⟩
  · intro key member
    apply existsUnique_of_countP_one
    rw [kept.booked.inflight key, if_pos member]
  · intro permit member key holds
    have counted := kept.booked.inflight key
    by_contra absent
    rw [if_neg absent] at counted
    exact List.countP_eq_zero.mp counted permit member holds

end System

end Bahia.Nostrout
