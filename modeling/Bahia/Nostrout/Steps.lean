import Bahia.Nostrout.Moves

/-! Every step of the system is a move: the calls, and the rounds of the ones that wait. -/

namespace Bahia.Nostrout
open Foundation Nostr List

namespace System

/-- The counts describe the callers, and an attempt that waits is for a relay of its
publication. -/
structure Kept (s : System) : Prop where
  booked : Booked s.admission s.permits s.opaques
  attempts : ∀ attempt ∈ s.attempts, ∃ permit, s.permits[attempt.permit]? = some permit ∧
    attempt.relay ∈ permit.publication.relays.val

/-- Every attempt goes on an earlier one or is for a relay of its publication. -/
def Continues (s t : System) : Prop :=
  ∀ attempt ∈ t.attempts,
    (∃ earlier ∈ s.attempts, earlier.permit = attempt.permit ∧ earlier.relay = attempt.relay) ∨
      ∃ permit, s.permits[attempt.permit]? = some permit ∧
        attempt.relay ∈ permit.publication.relays.val

/-- A step that takes no time: a move under the lock that does not panic. -/
structure Stepped (meets : Meets) (s : System) (result : System × Reply) : Prop where
  move : Move s.clock meets s.admission s.permits s.opaques result.1.admission result.1.permits
    result.1.opaques result.2.frames
  clock : result.1.clock = s.clock
  answered : result.2 ≠ .panicked
  continues : s.Continues result.1

variable {env : Env} {s : System} {meets : Meets}

theorem Continues.refl (s : System) : s.Continues s :=
  fun attempt member => .inl ⟨attempt, member, rfl, rfl⟩

theorem Stepped.idle (admission : t.admission = s.admission) (permits : t.permits = s.permits)
    (opaques : t.opaques = s.opaques) (clock : t.clock = s.clock)
    (attempts : t.attempts = s.attempts) (unpaid : reply.frames = []) (answered : reply ≠ .panicked) :
    s.Stepped meets (t, reply) where
  move := by
    rw [admission, permits, opaques, unpaid]
    exact .quiet (.refl _)
  clock := clock
  answered := answered
  continues attempt member := .inl ⟨attempt, attempts ▸ member, rfl, rfl⟩

theorem stepped_refused (failure : Failure) :
    s.Stepped meets (s, .failed failure) :=
  .idle rfl rfl rfl rfl rfl rfl nofun

theorem stepped_ignored : s.Stepped meets (s, .ignored) :=
  .idle rfl rfl rfl rfl rfl rfl nofun

theorem stepped_done : s.Stepped meets (s, .done) :=
  .idle rfl rfl rfl rfl rfl rfl nofun

theorem Stepped.quiet (quiet : Quiet s.clock s.admission a) (unpaid : reply.frames = [])
    (answered : reply ≠ .panicked) :
    s.Stepped meets (s.replied a reply) where
  move := by
    rw [replied, unpaid]
    exact .quiet quiet
  clock := rfl
  answered := answered
  continues := .refl s

theorem stepped_tried (s : System) (meets : Meets) (frames : List Frame)
    (attempt : Admission × Try) :
    Tried s.clock meets frames s.admission attempt.1 attempt.2 →
      s.Stepped meets (match attempt with
        | (a, .admitted) => s.replied a (.authorised frames)
        | (a, .failed failure) => s.replied a (.failed failure)
        | (a, .wait _) => s.replied a .done
        | (a, .panicked) => s.replied a .panicked) := by
  intro tried
  obtain ⟨a, outcome⟩ := attempt
  cases tried with
  | failed quiet | wait quiet => exact .quiet quiet rfl nofun
  | admitted gate charges => exact ⟨.sends gate charges, rfl, nofun, .refl s⟩

theorem Kept.known (kept : s.Kept) {publication : Publication} {index : Nat} {relay : String}
    (found : s.permits[index]? = some ⟨publication, .returned⟩)
    (listed : relay ∈ publication.relays.val) (running : publication.closed = false) :
    relay ∈ s.admission.relays := by
  have member := mem_of_getElem? found
  have entered := (kept.booked.coherent _ member).registered_iff.mpr ⟨running, nofun⟩
  exact Registry.mem_of_refs (ne_of_gt (kept.booked.names_le_refs member entered listed))

theorem Kept.awaited (kept : s.Kept) {waiter : Opaque} {index : Nat}
    (found : s.opaques[index]? = some waiter) (waiting : waiter.waiting = true) :
    ∀ relay ∈ waiter.relays.val, relay ∈ s.admission.relays := by
  intro relay listed
  have counted := kept.booked.waiting_refs (mem_of_getElem? found) waiting listed
  exact Registry.mem_of_refs (ne_of_gt counted)

/-! ### Publications -/

section
variable (env s meets)

theorem begin_stepped (event : Event)
    (urls : List String) : s.Stepped meets (s.begin env meets event urls) := by
  unfold begin
  dsimp only
  split
  · exact stepped_refused _
  split
  · exact stepped_refused _
  split
  · rename_i result
    rcases beginLocked_effect result with ⟨_, _, quiet⟩ | ⟨_, ok, _⟩
    · exact .quiet quiet rfl nofun
    · cases ok
  · rename_i a publication result
    rcases beginLocked_effect result with ⟨_, error, _⟩ | ⟨_, ok, _, entered⟩
    · cases error
    cases ok
    rcases entered with ⟨closed, unregistered, quiet⟩ | begun
    · rw [if_pos closed]
      exact ⟨.caches closed unregistered quiet, rfl, nofun, .refl s⟩
    rw [if_neg (by rw [begun.open']; exact Bool.false_ne_true)]
    have waited := laneWait_quiet a s.clock publication.purpose
    split
    · exact .quiet (begun.refused waited) rfl nofun
    · have later := begun.later waited
      exact ⟨.enters (later.renumber _) nofun, rfl, nofun, .refl s⟩

theorem operationBegin_stepped (id : Nat) (event : Event)
    (urls : List String) : s.Stepped meets (s.operationBegin env meets id event urls) := by
  unfold operationBegin
  dsimp only
  split
  · exact stepped_ignored
  split
  · exact stepped_ignored
  split
  · exact stepped_refused _
  split
  · exact stepped_refused _
  split
  · exact stepped_refused _
  split
  · rename_i result
    rcases beginLocked_effect result with ⟨_, _, quiet⟩ | ⟨_, ok, _⟩
    · exact ⟨.quiet quiet, rfl, nofun, .refl s⟩
    · cases ok
  · rename_i result
    rcases beginLocked_effect result with ⟨_, error, _⟩ | ⟨_, ok, _, entered⟩
    · cases error
    cases ok
    rcases entered with ⟨closed, unregistered, quiet⟩ | begun
    · rw [if_pos closed]
      exact ⟨.caches closed unregistered quiet, rfl, nofun, .refl s⟩
    · rw [if_neg (by rw [begun.open']; exact Bool.false_ne_true)]
      exact ⟨.enters begun nofun, rfl, nofun, .refl s⟩

theorem resumeBegin_stepped (index : Nat) : s.Stepped meets (s.resumeBegin meets index) := by
  unfold resumeBegin
  split
  · rename_i publication wake found
    split
    · exact stepped_ignored
    rename_i operation _
    split
    · exact stepped_ignored
    have tried := awaitLocked_tried operation.deadline
      (tryBulk_tried s.admission s.clock meets operation.closed)
    split
    all_goals
      rename_i result
      rw [result] at tried
      cases tried
    · rename_i quiet
      exact ⟨.restages index publication.generation found nofun quiet, rfl, nofun, .refl s⟩
    · rename_i _ charges
      exact ⟨.restages index _ found nofun charges, rfl, nofun, .refl s⟩
    · rename_i quiet
      exact ⟨.drops index found quiet, rfl, nofun, .refl s⟩
  · exact stepped_ignored

theorem close_stepped (index : Nat) : s.Stepped meets (s.close index) := by
  unfold close
  split
  · rename_i found
    split
    · exact stepped_done
    · rename_i running
      exact ⟨.closes index found (Bool.not_eq_true _ ▸ running), rfl, nofun, .refl s⟩
  · exact stepped_ignored

theorem observe_stepped (index : Nat) (result : Result) :
    s.Stepped meets (s.observe env meets index result) := by
  unfold observe
  split
  · split
    · exact stepped_done
    split
    · exact .quiet (.beside rfl rfl rfl rfl rfl) rfl nofun
    split
    · exact stepped_done
    refine .quiet (Quiet.trans ?_ (closeBreaker_quiet _ _ _)) rfl nofun
    split
    · exact .beside rfl rfl rfl rfl rfl
    · exact .refl _
  · exact stepped_ignored

end

/-! ### Attempts -/

theorem beforeAttempt_stepped (env : Env) (kept : s.Kept) (meets : Meets) (index : Nat)
    (url : String) : s.Stepped meets (s.beforeAttempt env meets index url) := by
  unfold beforeAttempt
  dsimp only
  split
  · rename_i publication found
    split
    · exact stepped_refused _
    split
    · exact stepped_refused _
    rename_i listed
    have relay : env.normalizeRelayURL url ∈ publication.relays.val := by
      simpa [Publication.hasRelay] using listed
    split
    · refine ⟨.quiet (.refl _), rfl, nofun, ?_⟩
      intro attempt member
      rcases mem_append.mp member with earlier | new
      · exact .inl ⟨attempt, earlier, rfl, rfl⟩
      · rw [mem_singleton.mp new]
        exact .inr ⟨_, found, relay⟩
    · split
      · exact stepped_refused _
      · exact stepped_tried s meets _ _
          (tryAttempt_tried s.clock meets publication false (kept.known found relay))
  · exact stepped_ignored

theorem resumeAttempt_stepped (kept : s.Kept) (meets : Meets) (index : Nat) :
    s.Stepped meets (s.resumeAttempt meets index) := by
  unfold resumeAttempt
  split
  · rename_i permit relay wake waiting
    have member := mem_of_getElem? waiting
    split
    · rename_i publication found
      obtain ⟨named, same, listed⟩ := kept.attempts _ member
      cases Option.some.inj (found.symm.trans same)
      have goesOn (wakeAt : Instant) (again : Bool) (t : System)
          (attempts : t.attempts = s.attempts.set index ⟨permit, relay, wakeAt, again⟩) :
          s.Continues t := by
        intro attempt inside
        rw [attempts] at inside
        rcases mem_or_eq_of_mem_set inside with earlier | new
        · exact .inl ⟨attempt, earlier, rfl, rfl⟩
        · exact .inl ⟨_, member, by rw [new], by rw [new]⟩
      split
      · exact stepped_ignored
      rename_i operation _
      split
      · exact stepped_ignored
      have tried := awaitLocked_tried operation.deadline
        (tryAttempt_tried s.clock meets publication operation.closed (kept.known found listed))
      split
      all_goals
        rename_i result
        rw [result] at tried
        cases tried
      · rename_i quiet
        exact ⟨.quiet quiet, rfl, nofun, goesOn _ _ _ rfl⟩
      · rename_i gate charges
        exact ⟨.sends gate charges, rfl, nofun, goesOn _ _ _ rfl⟩
      · rename_i quiet
        exact ⟨.quiet quiet, rfl, nofun, goesOn _ _ _ rfl⟩
    · exact stepped_ignored
  · exact stepped_ignored

section
variable (env s meets)

theorem admitAuth_stepped (url : String) : s.Stepped meets (s.admitAuth env meets url) := by
  unfold admitAuth
  dsimp only
  split
  · exact stepped_refused _
  split
  · exact stepped_refused _
  · exact stepped_tried s meets _ _ (authLocked_tried s.admission s.clock meets _)

theorem admitOpaque_stepped (purpose : String)
    (urls : List String) : s.Stepped meets (s.admitOpaque env meets purpose urls) := by
  unfold admitOpaque
  dsimp only
  split
  · exact stepped_refused _
  split
  · exact stepped_refused _
  split
  · exact stepped_refused _
  split
  · exact stepped_refused _
  split
  · exact stepped_refused _
  generalize normalizeRelayList env.normalizeRelayURL urls = relays
  split
  · rename_i refused
    exact .quiet (reserve_refused refused) rfl nofun
  · rename_i granted
    exact ⟨.waits _ rfl (reserve_granted granted rfl rfl) rfl rfl rfl, rfl, nofun, .refl s⟩

end

theorem resumeOpaque_stepped (kept : s.Kept) (meets : Meets) (index : Nat) :
    s.Stepped meets (s.resumeOpaque meets index) := by
  unfold resumeOpaque
  split
  · rename_i purpose relays deadline wake found
    split
    · exact stepped_ignored
    have tried := awaitLocked_tried deadline
      (tryOpaque_tried s.clock meets purpose (kept.awaited found rfl))
    split
    all_goals
      rename_i result
      rw [result] at tried
      cases tried
    · rename_i quiet
      exact ⟨.looks index _ found quiet, rfl, nofun, .refl s⟩
    · rename_i gate charges
      exact ⟨.leaves index found rfl (fun _ => gate) charges, rfl, nofun, .refl s⟩
    · rename_i quiet
      exact ⟨.leaves index found rfl (absurd rfl) quiet, rfl, nofun, .refl s⟩
  · exact stepped_ignored

/-! ### Operations -/

theorem Stepped.slots {slots : Slots} {reply : Reply} (unpaid : reply.frames = [])
    (answered : reply ≠ .panicked) : s.Stepped meets ({ s with slots }, reply) :=
  .idle rfl rfl rfl rfl rfl unpaid answered

section
variable (env s meets)

theorem beginOperation_stepped (maxEvents : Int) (maxWait : Duration) :
    s.Stepped meets (s.beginOperation meets maxEvents maxWait) := by
  unfold beginOperation
  split
  · exact stepped_refused _
  split
  · exact stepped_refused _
  split
  · exact stepped_refused _
  split
  · exact stepped_refused _
  apply Stepped.slots
  · split <;> rfl
  · split <;> nofun

theorem operationReady_stepped (id : Nat) : s.Stepped meets (s.operationReady id) := by
  unfold operationReady
  split
  · exact stepped_ignored
  split
  · split
    · exact .slots rfl nofun
    · exact stepped_ignored
  · exact stepped_ignored

theorem abandonOperation_stepped (id : Nat) : s.Stepped meets (s.abandonOperation meets id) := by
  unfold abandonOperation
  split
  · exact stepped_ignored
  split
  · dsimp only
    split
    · exact stepped_ignored
    apply Stepped.slots
    · split <;> rfl
    · split <;> nofun
  · exact stepped_ignored

theorem releaseOperation_stepped (id : Nat) : s.Stepped meets (s.releaseOperation id) := by
  unfold releaseOperation
  split
  · exact stepped_ignored
  split
  · exact .slots rfl nofun
  · exact stepped_ignored

theorem closeOperation_stepped (id : Nat) : s.Stepped meets (s.closeOperation id) := by
  unfold closeOperation
  split
  · exact stepped_ignored
  split
  · exact stepped_ignored
  · exact .slots rfl nofun

end

/-! ### Runs -/

theorem perform_stepped (env : Env) (kept : s.Kept) (action : Action) :
    (∃ time : Nat, s.perform env action = ({ s with clock := s.clock + time }, .done)) ∨
      s.Stepped action.meets (s.perform env action) := by
  obtain ⟨call, meets⟩ := action
  cases call with
  | advance time => exact .inl ⟨time, rfl⟩
  | begin event urls => exact .inr (begin_stepped env s meets event urls)
  | beforeAttempt permit url => exact .inr (beforeAttempt_stepped env kept meets permit url)
  | resumeAttempt attempt => exact .inr (resumeAttempt_stepped kept meets attempt)
  | observe permit result => exact .inr (observe_stepped env s meets permit result)
  | close permit => exact .inr (close_stepped s meets permit)
  | beginOperation maxEvents maxWait => exact .inr (beginOperation_stepped s meets maxEvents maxWait)
  | operationReady id => exact .inr (operationReady_stepped s meets id)
  | abandonOperation id => exact .inr (abandonOperation_stepped s meets id)
  | releaseOperation id => exact .inr (releaseOperation_stepped s meets id)
  | operationBegin id event urls => exact .inr (operationBegin_stepped env s meets id event urls)
  | resumeBegin permit => exact .inr (resumeBegin_stepped s meets permit)
  | closeOperation id => exact .inr (closeOperation_stepped s meets id)
  | admitAuth url => exact .inr (admitAuth_stepped env s meets url)
  | admitOpaque purpose urls => exact .inr (admitOpaque_stepped env s meets purpose urls)
  | resumeOpaque index => exact .inr (resumeOpaque_stepped kept meets index)
  | reportRateLimited | runtimeKillSwitch =>
    exact .inr (.quiet (.beside rfl rfl rfl rfl rfl) rfl nofun)

end System

end Bahia.Nostrout
