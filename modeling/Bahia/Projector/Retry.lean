import Bahia.Foundation.Runs
import Bahia.Projector.System

/-! When the publishes parked by the backoff window still have a flush to come. -/

namespace Bahia.Projection
open Foundation Nostr Bucket

def Worker.flushing : Worker → Bool
  | .draining | .choosing _ | .calling (.flush _) _ _ => true
  | .calling .caller _ _ => false

namespace Projector

/-- A fired timer's flush has yet to take the parked publishes. -/
def undrained (state : Projector) : Bool := state.workers.values.contains .draining

def flushing (state : Projector) : Bool := state.workers.values.any Worker.flushing

def scheduled (state : Projector) : Bool := state.backoff.retryTimer == some .scheduled

/-- Nothing is parked, or a flush that will take it is on its way. -/
def Covered (state : Projector) : Prop :=
  state.cache.pendingRetries.keys = [] ∨ state.scheduled = true ∨ state.undrained = true

/-- A success resets the window only with nothing parked, and a publish is parked only
with the timer scheduled; a flush about to take the parked publishes allows both. -/
def keepsTimer (state : Projector) : Action → Bool
  | .advance worker move =>
    match state.workers.get worker, move with
    | some (.calling _ _ (.resetting _)), .reset =>
      state.cache.pendingRetries.keys.isEmpty || state.undrained
    | some (.calling _ _ .parking), .park => state.scheduled || state.undrained
    | _, _ => true
  | _ => true

def KeepsTimer (state : Projector) (action : Action) : Prop := state.keepsTimer action = true

variable {state next : Projector} {worker : Nat}

theorem undrained_iff :
    state.undrained = true ↔ .draining ∈ state.workers.values := by
  simp [undrained]

theorem flushing_of_undrained (undrained : state.undrained = true) :
    state.flushing = true :=
  List.any_eq_true.mpr ⟨.draining, undrained_iff.mp undrained, rfl⟩

theorem undrained_put {entry : Worker} (apart : state.workers.get worker ≠ some .draining)
    (same : next.workers = state.workers.put worker entry) (undrained : state.undrained = true) :
    next.undrained = true := by
  rw [undrained_iff, same]
  exact mem_values_put_of_ne (undrained_iff.mp undrained) apart

theorem undrained_delete (apart : state.workers.get worker ≠ some .draining)
    (same : next.workers = state.workers.delete worker) (undrained : state.undrained = true) :
    next.undrained = true := by
  rw [undrained_iff, same]
  exact mem_values_delete_of_ne (undrained_iff.mp undrained) apart

theorem undrained_apply (progress : Progress)
    (standing : state.workers.get worker = some (.calling owner call stage))
    (undrained : state.undrained = true) :
    (state.apply worker owner call stage progress).undrained = true := by
  have apart : state.workers.get worker ≠ some .draining := by simp [standing]
  unfold apply
  split
  · exact undrained_put apart rfl undrained
  · exact undrained_put apart rfl undrained
  · cases owner with
    | caller => exact undrained_delete apart rfl undrained
    | flush => exact undrained_put apart rfl undrained

end Projector

section Steps
variable {Value : Type} {config : Config Value}

/-- How one section of a call touches the parked publishes and the timer. -/
inductive RetryEffect (call : Submission) (cache : Cache) (backoff : Backoff) :
    Stage → Move → Progress → Prop where
  | kept {stage move progress} (parked : progress.cache.pendingRetries = cache.pendingRetries)
      (timer : progress.backoff.retryTimer = backoff.retryTimer ∨
        progress.backoff.retryTimer = some .scheduled) :
      RetryEffect call cache backoff stage move progress
  | reset {event progress} (parked : progress.cache.pendingRetries = cache.pendingRetries) :
      RetryEffect call cache backoff (.resetting event) .reset progress
  | parked {progress} (timer : progress.backoff = backoff) :
      RetryEffect call cache backoff .parking .park progress

theorem advance_retry (moved : call.advance config cache backoff stage move = some progress) :
    RetryEffect call cache backoff stage move progress := by
  cases Submission.advance_section config moved with
  | loaded kept | unavailable kept => exact .kept kept.pending (.inl rfl)
  | parked => exact .parked rfl
  | reset => exact .reset rfl
  | rejected timer =>
    rcases timer with same | armed
    · exact .kept rfl (.inl (congrArg Backoff.retryTimer same))
    · exact .kept rfl (.inr armed)
  | remembered => exact .kept (Cache.remember_pending _ _ _ _) (.inl rfl)
  | _ => exact .kept rfl (.inl rfl)

namespace Projector
variable {state next : Projector}

theorem covered_of_kept (covered : state.Covered)
    (parked : next.cache.pendingRetries = state.cache.pendingRetries)
    (timer : next.scheduled = state.scheduled ∨ next.scheduled = true)
    (flush : state.undrained = true → next.undrained = true) : next.Covered := by
  rcases covered with empty | armed | waiting
  · exact .inl (parked ▸ empty)
  · rcases timer with same | armed
    · exact .inr (.inl (same.trans armed))
    · exact .inr (.inl armed)
  · exact .inr (.inr (flush waiting))

theorem advance_covered (covered : state.Covered)
    (standing : state.workers.get worker = some (.calling owner call stage))
    (moved : call.advance config state.cache state.backoff stage move = some progress)
    (keeps : state.KeepsTimer (.advance worker move)) :
    (state.apply worker owner call stage progress).Covered := by
  have flush := undrained_apply progress standing
  cases advance_retry moved with
  | kept parked timer =>
    refine covered_of_kept covered ?_ ?_ flush
    · rw [apply_cache, parked]
    · rcases timer with same | armed
      · left
        simp only [scheduled, apply_backoff, same]
      · right
        simp only [scheduled, apply_backoff, armed, beq_self_eq_true]
  | reset parked =>
    simp only [KeepsTimer, keepsTimer, standing, Bool.or_eq_true] at keeps
    rcases keeps with empty | waiting
    · left
      rw [apply_cache, parked]
      exact List.isEmpty_iff.mp empty
    · exact .inr (.inr (flush waiting))
  | parked timer =>
    simp only [KeepsTimer, keepsTimer, standing, Bool.or_eq_true] at keeps
    rcases keeps with armed | waiting
    · right
      left
      simpa only [scheduled, apply_backoff, timer] using armed
    · exact .inr (.inr (flush waiting))

theorem step_covered (covered : state.Covered) (keeps : state.KeepsTimer action)
    (taken : state.step config action = some next) : next.Covered := by
  cases step_takes config taken with
  | submitted idle =>
    refine covered_of_kept covered rfl (.inl rfl) ?_
    exact undrained_put (by simp [idle]) rfl
  | locked waiting =>
    refine covered_of_kept covered rfl (.inl rfl) ?_
    exact undrained_put (by simp [waiting]) rfl
  | advanced standing moved => exact advance_covered covered standing moved keeps
  | fired =>
    -- The flush the timer starts is the one that will take what is parked.
    exact .inr (.inr (undrained_iff.mpr (mem_values_put_self _ _ _)))
  | drained => exact .inl keys_empty
  | chosen choosing =>
    refine covered_of_kept covered rfl (.inl rfl) ?_
    exact undrained_put (by simp [choosing]) rfl
  | ended choosing =>
    refine covered_of_kept covered rfl (.inl rfl) ?_
    exact undrained_delete (by simp [choosing]) rfl
  | forgotten =>
    refine covered_of_kept covered ?_ (.inl rfl) id
    exact (forgetAbandoned_loaded config state.cache _).pending

/-- In a run that resets and parks only under cover, what is parked while no flush is in
progress has its timer scheduled. -/
theorem parked_publish_scheduled {actions : List Action} {final : Projector}
    (guarded : Along (step config) KeepsTimer fresh actions)
    (executed : run (step config) fresh actions = some final)
    (parked : final.cache.pendingRetries.keys ≠ []) (idle : final.flushing = false) :
    final.backoff.retryTimer = some .scheduled := by
  have covered : final.Covered :=
    run_invariant (fun state action next => step_covered) (.inl keys_empty) guarded executed
  rcases covered with empty | armed | waiting
  · exact absurd empty parked
  · exact beq_iff_eq.mp armed
  · rw [flushing_of_undrained waiting] at idle
    cases idle

end Projector

end Steps

/-- The content hashed as it stands, and no history to load. -/
def Config.plain : Config Unit where
  codec := ⟨id, fun _ => none, fun _ => none, fun _ => ""⟩
  servicePubkey := ""
  history := .absent
  retainsCoordinates := false

def serviceState (d content : String) : PublishArgs where
  kind := 30900
  tags := [["d", d], ["legacy_kind", "31962"]]
  content := content
  entityType := "service.state"
  entityID := none
  dedupeTombstone := false

def approach (worker : Nat) (path : Path) (args : PublishArgs) (now : Int) : List Action :=
  [.submit worker path args, .advance worker (.hydrate ⟨now, .ok [], .ok none, .ok none⟩),
    .lock worker, .advance worker .compare, .advance worker (.gate now)]

def signAt (worker : Nat) (now : Timestamp) (id : Byte) : List Action :=
  [.advance worker (.stamp now),
    .advance worker (.sign (.ok (FixedBytes.ofByte 31 id, FixedBytes.ofByte 31 2, FixedBytes.zero 64)))]

/-- While one publish is on its way to the relays, a second one fails and opens the
window, and a third one is parked. -/
def parkedBehindFailure : List Action :=
  approach 0 .signed (serviceState "api" "up") 0 ++ signAt 0 100 1 ++
    approach 1 .signed (serviceState "web" "up") 0 ++ signAt 1 100 2 ++
    [.advance 1 (.send (.failed "outbox unavailable")), .advance 1 (.reject 0 0)] ++
    approach 2 .signed (serviceState "db" "up") 1000 ++ [.advance 2 .park]

namespace Projector

theorem parked_publish_scheduled_behind_failure :
    ∃ final, run (step .plain) fresh parkedBehindFailure = some final ∧
      final.backoff.retryTimer = some .scheduled := by
  have guarded : Along (step .plain) KeepsTimer fresh parkedBehindFailure := along_of_check rfl
  refine ⟨_, rfl, ?_⟩
  exact parked_publish_scheduled guarded rfl (by decide) rfl

/-- The first publish now succeeds and stops the only timer: the parked publish stays
behind with no flush and no timer. -/
theorem parked_publish_stranded :
    ∃ final, run (step .plain) fresh
        (parkedBehindFailure ++ [.advance 0 (.send .accepted), .advance 0 .reset]) = some final ∧
      final.cache.pendingRetries.keys ≠ [] ∧ final.flushing = false ∧
      final.backoff.retryTimer = none := by
  refine ⟨_, rfl, ?_, rfl, rfl⟩
  decide

end Projector

end Bahia.Projection
