import Bahia.Nostrout.Bookkeeping
import Bahia.Nostrout.SlotMoves

/-! The hand-over of the operation slot over every run: turns are fair, and an operation
begins no more publications than it declared. -/

namespace Bahia.Nostrout
open Foundation Nostr List

namespace System

def SlotStep (s t : System) : Prop :=
  SlotMove s.admission.limits s.clock s.slots s.permits t.slots t.permits

variable {env : Env} {s : System}

theorem slotStep_same (slots : t.slots = s.slots) (permits : t.permits = s.permits) :
    s.SlotStep t := by
  unfold SlotStep
  rw [slots, permits]
  exact .same

section Calls
variable (env s meets)

theorem begin_slots (event : Event) (urls : List String) :
    s.SlotStep (s.begin env meets event urls).1 := by
  unfold begin
  dsimp only
  split
  · exact .same
  split
  · exact .same
  split
  · exact .same
  rename_i publication result
  have op : publication.op = none := by
    rcases beginLocked_effect result with ⟨_, error, _⟩ | ⟨_, ok, op, _⟩
    · cases error
    · cases ok
      exact op
  split
  · exact .alone op
  split
  · exact .same
  · exact .alone op

theorem operationBegin_slots (id : Nat) (event : Event)
    (urls : List String) : s.SlotStep (s.operationBegin env meets id event urls).1 := by
  unfold operationBegin
  dsimp only
  split
  · exact .same
  rename_i found
  split
  · exact .same
  split
  · exact .same
  split
  · exact .same
  split
  · exact .same
  rename_i result
  split
  · exact .unclaims found result
  rename_i publication begun
  have op : publication.op = some id := by
    rcases beginLocked_effect begun with ⟨_, error, _⟩ | ⟨_, ok, op, _⟩
    · cases error
    · cases ok
      exact op
  split
  · exact .caches found result op
  · exact .claims found result op

theorem resumeBegin_slots (index : Nat) : s.SlotStep (s.resumeBegin meets index).1 := by
  unfold resumeBegin
  split
  · rename_i publication wake held
    split
    · exact .same
    rename_i id operation named
    have op : publication.op = some id := by
      obtain ⟨other, op, row⟩ := Option.bind_eq_some_iff.mp named
      obtain ⟨_, _, same⟩ := Option.map_eq_some_iff.mp row
      cases same
      exact op
    split
    · exact .same
    split
    · exact .waits index _ held
    · exact .begins index _ held op
    · exact .fails index held op
    · exact .same
  · exact .same

theorem close_slots (index : Nat) : s.SlotStep (s.close index).1 := by
  unfold close
  split
  · rename_i held
    split
    · exact .same
    · exact .settles index held
  · exact .same

theorem beginOperation_slots (maxEvents : Int) (maxWait : Duration) :
    s.SlotStep (s.beginOperation meets maxEvents maxWait).1 := by
  unfold beginOperation
  split
  · exact .same
  split
  · exact .same
  split
  · exact .same
  split
  · exact .same
  · rename_i entered
    exact .enters (by omega) entered

theorem operationReady_slots (id : Nat) : s.SlotStep (s.operationReady id).1 := by
  unfold operationReady
  split
  · exact .same
  rename_i found
  split
  · split
    · rename_i active
      exact .readies found active
    · exact .same
  · exact .same

theorem abandonOperation_slots (id : Nat) : s.SlotStep (s.abandonOperation meets id).1 := by
  unfold abandonOperation
  split
  · exact .same
  rename_i found
  split
  · dsimp only
    split
    · exact .same
    · exact .abandons _ found
  · exact .same

theorem releaseOperation_slots (id : Nat) : s.SlotStep (s.releaseOperation id).1 := by
  unfold releaseOperation
  split
  · exact .same
  rename_i found
  split
  · rename_i stage
    exact .releases found stage
  · exact .same

theorem closeOperation_slots (id : Nat) : s.SlotStep (s.closeOperation id).1 := by
  unfold closeOperation
  split
  · exact .same
  rename_i found
  split
  · exact .same
  · rename_i stage
    exact .closes found (not_not.mp stage)

end Calls

theorem perform_slots (env : Env) (s : System) (action : Action) : s.SlotStep (s.after env action) := by
  obtain ⟨call, meets⟩ := action
  cases call with
  | advance | reportRateLimited | runtimeKillSwitch => exact .same
  | beforeAttempt | resumeAttempt | observe | admitAuth | admitOpaque | resumeOpaque =>
    apply slotStep_same
    all_goals
      simp only [after, perform, beforeAttempt, resumeAttempt, observe, admitAuth, admitOpaque,
        resumeOpaque]
      repeat' split
      all_goals rfl
  | begin event urls => exact begin_slots env s meets event urls
  | close permit => exact close_slots s permit
  | beginOperation maxEvents maxWait => exact beginOperation_slots s meets maxEvents maxWait
  | operationReady id => exact operationReady_slots s id
  | abandonOperation id => exact abandonOperation_slots s meets id
  | releaseOperation id => exact releaseOperation_slots s id
  | operationBegin id event urls => exact operationBegin_slots env s meets id event urls
  | resumeBegin permit => exact resumeBegin_slots s meets permit
  | closeOperation id => exact closeOperation_slots s id

theorem run_slots (env : Env) (config : Config) (now : Instant) (actions : List Action) :
    ((start config now).run env actions).slots.Fair (normalizeConfig config) ∧
      Declared ((start config now).run env actions).slots.tallies
        ((start config now).run env actions).permits := by
  have invariant : ∀ s : System, s = (start config now).run env actions →
      s.Kept ∧ s.admission.limits = normalizeConfig config ∧
        s.slots.Fair (normalizeConfig config) ∧ Declared s.slots.tallies s.permits := by
    rintro s rfl
    apply List.foldlRecOn (motive := fun s : System => s.Kept ∧
      s.admission.limits = normalizeConfig config ∧
        s.slots.Fair (normalizeConfig config) ∧ Declared s.slots.tallies s.permits)
    · exact ⟨kept_start config now, rfl, .fresh _, ⟨nofun, nofun⟩⟩
    · rintro s ⟨kept, limits, fair, declared⟩ action _
      have move := perform_slots env s action
      unfold SlotStep at move
      rw [limits] at move
      exact ⟨kept.perform env action, (limits_after kept env action).trans limits, move.fair fair,
        move.declared declared⟩
  exact (invariant _ rfl).2.2

structure HandsOver (config : Config) (s : System) : Prop where
  /-- At most one operation is active. -/
  one_active : ∀ (i j : Nat) (first second : Operation),
    s.slots.operations[i]? = some first → s.slots.operations[j]? = some second →
      first.live = true → second.live = true → i = j
  /-- The slot names the active operation. -/
  slot : ∀ (id : Nat) (operation : Operation), s.slots.operations[id]? = some operation →
    (operation.live = true ↔ s.slots.operation = some id)
  /-- An operation becomes active only after those that entered before it and did not give up. -/
  fifo : ∀ (i j : Nat) (first second : Operation),
    s.slots.operations[i]? = some first → s.slots.operations[j]? = some second → i < j →
      second.activated = true → first.activated = true ∨ first.stage = .refused
  bounded : (s.slots.operationQueue.length : Int) ≤ (normalizeConfig config).maxQueuedOperations
  idle : (∀ operation ∈ s.slots.operations, operation.live = false) → s.slots.operationQueue = []
  /-- An operation whose begin returned an error is not active. -/
  refused : ∀ operation ∈ s.slots.operations, operation.stage = .refused → operation.live = false
  /-- Publications that wait are counted with those that began. -/
  declared : ∀ (id : Nat) (operation : Operation), s.slots.operations[id]? = some operation →
    (s.permits.countP (fun permit =>
      permit.publication.op == some id && permit.stage != .dropped) : Int) ≤ operation.maxEvents

theorem countP_started (permits : List Permit) (id : Nat) :
    permits.countP (fun permit => permit.publication.op == some id && permit.stage != .dropped) =
      permits.countP (Permit.begunBy id) + permits.countP (Permit.beginsFor id) := by
  induction permits with
  | nil => rfl
  | cons permit rest ih =>
    rw [countP_cons, countP_cons, countP_cons, ih]
    obtain ⟨publication, stage⟩ := permit
    cases named : publication.op == some id with
    | false => simp [Permit.begunBy, Permit.beginsFor, named]
    | true =>
      cases stage with
      | waiting | returned =>
        simp [Permit.begunBy, Permit.beginsFor, named, PermitStage.isWaiting]; omega
      | dropped => simp [Permit.begunBy, Permit.beginsFor, named, PermitStage.isWaiting]

/-- The slot is handed over fairly in every reachable state. -/
theorem run_hands_over (env : Env) (config : Config) (now : Instant) (actions : List Action) :
    HandsOver config ((start config now).run env actions) := by
  obtain ⟨fair, declared⟩ := run_slots env config now actions
  generalize (start config now).run env actions = s at fair declared
  refine ⟨fun i j first second held also => fair.unique held also,
    fun id operation found => (fair.turns id operation found).live_iff,
    fun i j first second held also => fair.fifo held also, fair.bounded, ?_, ?_, ?_⟩
  · intro dead
    apply fair.idle
    cases holder : s.slots.operation with
    | none => rfl
    | some id =>
      have known := fair.known id (.inl holder)
      have found := List.getElem?_eq_getElem known
      have live := (fair.turns id _ found).live_iff.mpr holder
      exact nomatch (dead _ (getElem_mem known)).symm.trans live
  · intro operation member
    obtain ⟨id, found⟩ := List.getElem?_of_mem member
    exact (fair.turns id operation found).refused
  · intro id operation found
    have row : s.slots.tallies[id]? = some operation.tally := by
      rw [Slots.tallies, List.getElem?_map, found]
      rfl
    have balanced := declared.balanced id _ row
    have bound := balanced.declared
    rw [countP_started, balanced.busy]
    push_cast
    rw [← balanced.used]
    exact bound

end System

end Bahia.Nostrout
