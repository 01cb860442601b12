import Bahia.Projector.Retry

/-! Which submission an event carries, and when a parked publish may follow a newer one
on its coordinate. -/

namespace Bahia.Projection
open Foundation Nostr Bucket List

/-- The publishes a flush still has to replay. -/
def Owner.todo : Owner → List Submission
  | .caller => []
  | .flush todo => todo

/-- The submissions a worker has in hand, its own call only at the stages kept. -/
def Worker.holds (keep : Stage → Bool) : Worker → List Submission
  | .draining => []
  | .choosing todo => todo
  | .calling owner call stage => (if keep stage then [call] else []) ++ owner.todo

def Next.stage : Next → Option Stage
  | .goto stage | .log _ stage => some stage
  | .ret _ => none

def Next.moment (call : Submission) : Next → Option Moment
  | .goto _ => none
  | .log moment _ => some moment
  | .ret err => some (.returned call err)

namespace Projector

def gather (keep : Stage → Bool) (state : Projector) : List Submission :=
  state.cache.pendingRetries.values ++ state.workers.values.flatMap (Worker.holds keep)

/-- The submissions an event may still be signed for. -/
def outstanding (state : Projector) : List Submission := state.gather Stage.unsigned

def held (state : Projector) : List Submission := state.gather fun _ => true

section Gather
variable {keep : Stage → Bool} {state next : Projector} {worker : Nat} {other : Submission}

theorem mem_gather : other ∈ state.gather keep ↔ other ∈ state.cache.pendingRetries.values ∨
    ∃ worker entry, state.workers.get worker = some entry ∧ other ∈ entry.holds keep := by
  simp only [gather, mem_append, mem_flatMap, mem_values]
  constructor
  · intro member
    rcases member with parked | ⟨entry, ⟨worker, found⟩, inside⟩
    · exact .inl parked
    · exact .inr ⟨worker, entry, found, inside⟩
  · intro member
    rcases member with parked | ⟨worker, entry, found, inside⟩
    · exact .inl parked
    · exact .inr ⟨entry, ⟨worker, found⟩, inside⟩

theorem gather_of_worker (found : state.workers.get worker = some entry)
    (inside : other ∈ entry.holds keep) : other ∈ state.gather keep :=
  mem_gather.mpr (.inr ⟨worker, entry, found, inside⟩)

theorem mem_holds_calling :
    other ∈ (Worker.calling owner call stage).holds keep ↔
      (keep stage = true ∧ other = call) ∨ other ∈ owner.todo := by
  cases kept : keep stage <;> simp [Worker.holds, kept]

section
variable (member : other ∈ next.gather keep)
  (parked : ∀ call ∈ next.cache.pendingRetries.values, call ∈ state.gather keep)
include member parked

theorem gather_put (same : next.workers = state.workers.put worker entry) :
    other ∈ entry.holds keep ∨ other ∈ state.gather keep := by
  rcases mem_gather.mp member with waiting | ⟨holder, stored, found, inside⟩
  · exact .inr (parked other waiting)
  rw [same] at found
  by_cases equal : worker = holder
  · rw [equal, get_put_self] at found
    cases found
    exact .inl inside
  · rw [get_put_of_ne _ equal] at found
    exact .inr (gather_of_worker found inside)

theorem gather_delete (same : next.workers = state.workers.delete worker) :
    other ∈ state.gather keep := by
  rcases mem_gather.mp member with waiting | ⟨holder, stored, found, inside⟩
  · exact parked other waiting
  rw [same] at found
  by_cases equal : worker = holder
  · rw [equal, get_delete_self] at found
    cases found
  · rw [get_delete_of_ne _ equal] at found
    exact gather_of_worker found inside

end

theorem gather_parked (state : Projector) (call : Submission)
    (waiting : call ∈ state.cache.pendingRetries.values) : call ∈ state.gather keep :=
  mem_gather.mpr (.inl waiting)

end Gather

end Projector

/-- A stage filter that, once left, is not entered again within a call. -/
structure Lasting (keep : Stage → Bool) : Prop where
  parking : keep .parking = true
  locking : keep .comparing = true → keep .locking = true
  back : ∀ {call cache backoff stage move progress next},
    Submission.Section call cache backoff stage move progress →
      progress.next.stage = some next → keep next = true → keep stage = true

theorem lasting_unsigned : Lasting Stage.unsigned := by
  refine ⟨rfl, fun _ => rfl, ?_⟩
  intro call cache backoff stage move progress next moved going unsigned
  cases moved with
  | refused =>
    cases going
    cases unsigned
  | sent path =>
    cases going
    rcases path with same | same <;> rw [same] at unsigned <;> cases unsigned
  | reset path =>
    rcases path with same | ⟨_, same⟩ <;> rw [same] at going <;> cases going
    cases unsigned
  | rejected | remembered => cases going
  | _ => rfl

theorem lasting_any : Lasting fun _ => true := ⟨rfl, fun _ => rfl, fun _ _ _ => rfl⟩

theorem section_parked (moved : Submission.Section call cache backoff stage move progress)
    (member : other ∈ progress.cache.pendingRetries.values) :
    other ∈ cache.pendingRetries.values ∨ (other = call ∧ stage = .parking) := by
  cases moved with
  | loaded kept | unavailable kept => exact .inl (kept.pending ▸ member)
  | parked =>
    rcases mem_values_put member with same | waiting
    · exact .inr ⟨same, rfl⟩
    · exact .inl waiting
  | remembered =>
    rw [Cache.remember_pending] at member
    exact .inl member
  | _ => exact .inl member

namespace Projector

section Steps
variable {Value : Type} {config : Config Value} {keep : Stage → Bool}

variable {state next : Projector} {other : Submission} {action : Action}

theorem apply_workers (state : Projector) (worker : Nat) (owner : Owner) (call : Submission)
    (stage : Stage) (progress : Progress) :
    (state.apply worker owner call stage progress).workers = match progress.next.stage with
      | some next => state.workers.put worker (.calling owner call next)
      | none => resume state.workers worker owner := by
  unfold apply
  cases progress.next <;> rfl

theorem gather_apply (lasting : Lasting keep)
    (standing : state.workers.get worker = some (.calling owner call stage))
    (moved : Submission.Section call state.cache state.backoff stage move progress)
    (member : other ∈ (state.apply worker owner call stage progress).gather keep) :
    other ∈ state.gather keep := by
  have own : keep stage = true → call ∈ state.gather keep := by
    intro kept
    exact gather_of_worker standing (mem_holds_calling.mpr (.inl ⟨kept, rfl⟩))
  have todo : ∀ waiting ∈ owner.todo, waiting ∈ state.gather keep := by
    intro waiting inside
    exact gather_of_worker standing (mem_holds_calling.mpr (.inr inside))
  have parked : ∀ waiting ∈ (state.apply worker owner call stage progress).cache.pendingRetries.values,
      waiting ∈ state.gather keep := by
    intro waiting inside
    rw [apply_cache] at inside
    rcases section_parked moved inside with before | ⟨same, suppressed⟩
    · exact gather_parked state waiting before
    · rw [same]
      exact own (suppressed ▸ lasting.parking)
  have entered : ∀ next, progress.next.stage = some next →
      other ∈ (Worker.calling owner call next).holds keep → other ∈ state.gather keep := by
    intro next going inside
    rcases mem_holds_calling.mp inside with ⟨kept, rfl⟩ | waiting
    · exact own (lasting.back moved going kept)
    · exact todo other waiting
  have workers := apply_workers state worker owner call stage progress
  cases going : progress.next.stage with
  | some next =>
    rw [going] at workers
    rcases gather_put member parked workers with inside | before
    · exact entered next going inside
    · exact before
  | none =>
    rw [going] at workers
    cases owner with
    | caller => exact gather_delete member parked workers
    | flush =>
      rcases gather_put member parked workers with inside | before
      · exact todo other inside
      · exact before

structure Made (state next : Projector) (call : Submission) : Prop where
  origin : call.origin = state.submissions
  submissions : next.submissions = state.submissions + 1
  history : next.history = .submitted call :: state.history

/-- No step brings a submission back: what is in hand after it was in hand before, or is
the one just made. -/
theorem gather_step (lasting : Lasting keep) (takes : Takes config state action next)
    (member : other ∈ next.gather keep) :
    other ∈ state.gather keep ∨ Made state next other := by
  cases takes with
  | submitted idle fresh =>
    rcases gather_put member (gather_parked state) rfl with inside | before
    · right
      rcases mem_holds_calling.mp inside with ⟨_, rfl⟩ | waiting
      · exact ⟨by rw [fresh], rfl, rfl⟩
      · cases waiting
    · exact .inl before
  | locked waiting =>
    left
    rcases gather_put member (gather_parked state) rfl with inside | before
    · apply gather_of_worker waiting
      rcases mem_holds_calling.mp inside with ⟨kept, rfl⟩ | later
      · exact mem_holds_calling.mpr (.inl ⟨lasting.locking kept, rfl⟩)
      · exact mem_holds_calling.mpr (.inr later)
    · exact before
  | advanced standing moved =>
    exact .inl (gather_apply lasting standing (Submission.advance_section config moved) member)
  | fired =>
    rcases gather_put member (gather_parked state) rfl with inside | before
    · cases inside
    · exact .inl before
  | drained =>
    left
    have none_parked : ∀ call ∈ (∅ : Bucket ProjectionKey Submission).values,
        call ∈ state.gather keep := by
      intro call waiting
      simp [mem_values] at waiting
    rcases gather_put member none_parked rfl with inside | before
    · exact gather_parked state other inside
    · exact before
  | chosen choosing picked =>
    left
    rcases gather_put member (gather_parked state) rfl with inside | before
    · apply gather_of_worker choosing
      rcases mem_holds_calling.mp inside with ⟨_, rfl⟩ | waiting
      · exact mem_of_getElem? picked
      · exact mem_of_mem_eraseIdx waiting
    · exact before
  | ended => exact .inl (gather_delete member (gather_parked state) rfl)
  | forgotten =>
    left
    rename_i event
    have kept := (forgetAbandoned_loaded config state.cache event).pending
    rcases mem_gather.mp member with waiting | running
    · exact gather_parked state other (kept ▸ waiting)
    · exact mem_gather.mpr (.inr running)

variable (config) in
/-- The call that returns nil in this step. -/
def returnsNil (state : Projector) : Action → Option Submission
  | .advance worker move =>
    match state.workers.get worker with
    | some (.calling _ call stage) =>
      match call.advance config state.cache state.backoff stage move with
      | some ⟨_, _, .ret none⟩ => some call
      | _ => none
    | _ => none
  | _ => none

variable (config) in
/-- When a call returns nil, no older submission on its coordinate is parked, waiting in a
flush, or in flight and unsigned. -/
def leavesNothingOlder (state : Projector) (action : Action) : Bool :=
  match state.returnsNil config action with
  | some call =>
    state.outstanding.all fun other => other.key != call.key || decide (call.origin ≤ other.origin)
  | none => true

variable (config) in
def LeavesNothingOlder (state : Projector) (action : Action) : Prop :=
  state.leavesNothingOlder config action = true

theorem nothing_older (guarded : state.LeavesNothingOlder config action)
    (returns : state.returnsNil config action = some call) (member : other ∈ state.outstanding)
    (same : other.key = call.key) : call.origin ≤ other.origin := by
  simp only [LeavesNothingOlder, leavesNothingOlder, returns, all_eq_true] at guarded
  have checked := guarded other member
  simpa [same] using checked

variable (config) in
/-- What a step adds to the history. -/
inductive Tells (state : Projector) (action : Action) : Moment → Prop where
  | submitted {call} (fresh : call.origin = state.submissions) : Tells state action (.submitted call)
  | signed {call createdAt signature} (unsigned : call ∈ state.outstanding) :
      Tells state action (.signed call (call.signedEvent createdAt signature))
  | refused {call event} : Tells state action (.refused call event)
  | returned {call err} (inHand : call ∈ state.held)
      (returns : err = none → state.returnsNil config action = some call) :
      Tells state action (.returned call err)

theorem apply_history (state : Projector) (worker : Nat) (owner : Owner) (call : Submission)
    (stage : Stage) (progress : Progress) :
    (state.apply worker owner call stage progress).history =
      (progress.next.moment call).toList ++ state.history := by
  unfold apply
  cases progress.next <;> rfl

theorem advance_tells (standing : state.workers.get worker = some (.calling owner call stage))
    (moved : call.advance config state.cache state.backoff stage move = some progress)
    (told : progress.next.moment call = some moment) :
    Tells config state (.advance worker move) moment := by
  have inHand : call ∈ state.held := gather_of_worker standing (by simp [Worker.holds])
  have returned : ∀ err, progress.next = .ret err →
      Tells config state (.advance worker move) (.returned call err) := by
    intro err going
    refine .returned inHand ?_
    intro success
    subst success
    obtain ⟨cache, backoff, next⟩ := progress
    cases going
    simp only [returnsNil, standing, moved]
  cases Submission.advance_section config moved with
  | signed stamped =>
    cases told
    subst stamped
    exact .signed (gather_of_worker standing (by simp [Worker.holds, Stage.unsigned]))
  | refused =>
    cases told
    exact .refused
  | reset path =>
    rcases path with same | ⟨_, same⟩ <;> subst same <;> cases told
    exact returned none rfl
  | unavailable | unchanged | dropped | parked | rejected | remembered =>
    cases told; exact returned _ rfl
  | _ => cases told

theorem step_history (takes : Takes config state action next) :
    next.history = state.history ∨
      ∃ moment, next.history = moment :: state.history ∧ Tells config state action moment := by
  cases takes with
  | submitted idle fresh => exact .inr ⟨_, rfl, .submitted (by rw [fresh])⟩
  | advanced standing moved =>
    rename_i worker owner call stage move progress
    have history := apply_history state worker owner call stage progress
    cases told : progress.next.moment call with
    | none =>
      rw [told] at history
      exact .inl history
    | some moment =>
      rw [told] at history
      exact .inr ⟨moment, history, advance_tells standing moved told⟩
  | _ => exact .inl rfl

theorem submissions_le
    (takes : Takes config state action next) : state.submissions ≤ next.submissions := by
  cases takes with
  | submitted => exact Nat.le_succ _
  | advanced =>
    unfold apply
    split <;> exact le_refl _
  | _ => exact le_refl _

/-- Every event comes from a submission made no earlier than any that returned nil before
it on the coordinate. -/
def Follows (later earlier : Moment) : Prop :=
  match later, earlier with
  | .signed second _, .returned first none => second.key = first.key → first.origin ≤ second.origin
  | _, _ => True

/-- Submissions in hand are numbered and recorded, and every event is stamped for one. -/
structure Recorded (state : Projector) : Prop where
  numbered : ∀ call ∈ state.held, call.origin < state.submissions
  submitted : ∀ call ∈ state.held, .submitted call ∈ state.history
  signed : ∀ call event, .signed call event ∈ state.history → .submitted call ∈ state.history ∧
    ∃ createdAt signature, event = call.signedEvent createdAt signature

theorem recorded_fresh : Recorded fresh := by
  have idle : ∀ call, call ∉ fresh.held := by
    intro call member
    simp [held, gather, fresh, Cache.empty, Bucket.values, keys_empty] at member
  refine ⟨?_, ?_, ?_⟩
  · intro call member
    exact absurd member (idle call)
  · intro call member
    exact absurd member (idle call)
  · intro call event member
    cases member

theorem outstanding_held (member : call ∈ state.outstanding) : call ∈ state.held := by
  rcases mem_gather.mp member with parked | ⟨worker, entry, found, inside⟩
  · exact gather_parked state call parked
  apply gather_of_worker found
  cases entry with
  | draining => cases inside
  | choosing => exact inside
  | calling =>
    rcases mem_append.mp inside with here | waiting
    · split at here
      · exact mem_append_left _ here
      · cases here
    · exact mem_append_right _ waiting

theorem history_grows (takes : Takes config state action next) (member : moment ∈ state.history) :
    moment ∈ next.history := by
  rcases step_history takes with same | ⟨added, grown, _⟩
  · rw [same]
    exact member
  · rw [grown]
    exact mem_cons_of_mem _ member

theorem step_recorded (recorded : Recorded state)
    (takes : Takes config state action next) : Recorded next := by
  refine ⟨?_, ?_, ?_⟩
  · intro call member
    rcases gather_step lasting_any takes member with before | made
    · exact (recorded.numbered call before).trans_le (submissions_le takes)
    · rw [made.origin, made.submissions]
      exact Nat.lt_succ_self _
  · intro call member
    rcases gather_step lasting_any takes member with before | made
    · exact history_grows takes (recorded.submitted call before)
    · rw [made.history]
      exact mem_cons_self
  · intro call event member
    have before : ∀ call event, .signed call event ∈ state.history →
        .submitted call ∈ next.history ∧
          ∃ createdAt signature, event = call.signedEvent createdAt signature := by
      intro call event earlier
      obtain ⟨submitted, stamped⟩ := recorded.signed call event earlier
      exact ⟨history_grows takes submitted, stamped⟩
    rcases step_history takes with same | ⟨moment, grown, tells⟩
    · exact before call event (same ▸ member)
    rw [grown] at member
    rcases mem_cons.mp member with here | earlier
    · subst here
      cases tells with
      | signed unsigned =>
        have submitted := recorded.submitted call (outstanding_held unsigned)
        exact ⟨history_grows takes submitted, _, _, rfl⟩
    · exact before call event earlier

structure Ordered (state : Projector) : Prop where
  recorded : Recorded state
  counted : ∀ first, .returned first none ∈ state.history → first.origin < state.submissions
  ahead : ∀ first, .returned first none ∈ state.history → ∀ other ∈ state.outstanding,
    other.key = first.key → first.origin ≤ other.origin
  follows : state.history.Pairwise Follows

theorem ordered_fresh : Ordered fresh := by
  refine ⟨recorded_fresh, ?_, ?_, List.Pairwise.nil⟩
  · intro first member
    cases member
  · intro first member
    cases member

theorem ahead_step {first : Submission}
    (takes : Takes config state action next) (counted : first.origin < state.submissions)
    (before : ∀ other ∈ state.outstanding, other.key = first.key → first.origin ≤ other.origin)
    (member : other ∈ next.outstanding) (same : other.key = first.key) :
    first.origin ≤ other.origin := by
  rcases gather_step lasting_unsigned takes member with kept | made
  · exact before other kept same
  · exact made.origin ▸ counted.le

theorem tells_follows (ordered : Ordered state) (tells : Tells config state action moment) :
    ∀ earlier ∈ state.history, Follows moment earlier := by
  intro earlier member
  cases tells with
  | signed unsigned =>
    cases earlier with
    | returned first err =>
      cases err with
      | none => exact fun same => ordered.ahead first member _ unsigned same
      | some => trivial
    | _ => trivial
  | _ => trivial

theorem step_ordered (ordered : Ordered state) (guarded : state.LeavesNothingOlder config action)
    (taken : state.step config action = some next) : Ordered next := by
  have takes := step_takes config taken
  have more := submissions_le takes
  have recorded := step_recorded ordered.recorded takes
  have counted : ∀ first, .returned first none ∈ state.history →
      first.origin < next.submissions := by
    intro first member
    exact (ordered.counted first member).trans_le more
  have ahead : ∀ first, .returned first none ∈ state.history → ∀ other ∈ next.outstanding,
      other.key = first.key → first.origin ≤ other.origin := by
    intro first member other
    exact ahead_step takes (ordered.counted first member) (ordered.ahead first member)
  rcases step_history takes with same | ⟨moment, grown, tells⟩
  · exact ⟨recorded, same ▸ counted, same ▸ ahead, same ▸ ordered.follows⟩
  refine ⟨recorded, ?_, ?_, ?_⟩
  · intro first member
    rw [grown] at member
    rcases mem_cons.mp member with here | earlier
    · subst here
      cases tells with
      | returned inHand => exact (ordered.recorded.numbered first inHand).trans_le more
    · exact counted first earlier
  · intro first member
    rw [grown] at member
    rcases mem_cons.mp member with here | earlier
    · subst here
      cases tells with
      | returned inHand returns =>
        intro other
        refine ahead_step takes (ordered.recorded.numbered first inHand) ?_
        intro other unsigned same
        exact nothing_older guarded (returns rfl) unsigned same
    · exact ahead first earlier
  · rw [grown]
    exact pairwise_cons.mpr ⟨tells_follows ordered tells, ordered.follows⟩

/-- In a run where a call returns nil only once nothing older on its coordinate is left,
every event signed after the return carries the tags and the content of a submission made
no earlier than the returned one. -/
theorem replay_never_overwrites {actions : List Action} {final : Projector}
    (guarded : Along (step config) (LeavesNothingOlder config) fresh actions)
    (executed : run (step config) fresh actions = some final)
    {late early : List Moment} {returned call : Submission} {event : Event}
    (history : final.history = late ++ .returned returned none :: early)
    (signed : .signed call event ∈ late) (same : call.key = returned.key) :
    returned.origin ≤ call.origin ∧ event.kind = call.args.kind ∧ event.tags = call.args.tags ∧
      event.content = call.args.content := by
  have ordered : Ordered final :=
    run_invariant (fun state action next => step_ordered) ordered_fresh guarded executed
  have follows := history ▸ ordered.follows
  have apart := (pairwise_append.mp follows).2.2
  have inHistory : .signed call event ∈ final.history := by
    rw [history]
    exact mem_append_left _ signed
  obtain ⟨_, createdAt, signature, stamped⟩ := ordered.recorded.signed call event inHistory
  refine ⟨apart _ signed _ mem_cons_self same, ?_⟩
  rw [stamped]
  exact ⟨rfl, rfl, rfl⟩

end Steps

end Projector

def publish (worker : Nat) (args : PublishArgs) (now : Int) (second : Timestamp) (id : Byte) :
    List Action :=
  approach worker .signed args now ++ signAt worker second id ++
    [.advance worker (.send .accepted), .advance worker .reset, .advance worker .remember]

/-- The service is up, the window opens on another coordinate, and the service's next
state is parked. -/
def degradedParked : List Action :=
  publish 0 (serviceState "api" "up") 0 100 1 ++
    approach 1 .signed (serviceState "web" "up") 0 ++ signAt 1 100 2 ++
    [.advance 1 (.send (.failed "outbox unavailable")), .advance 1 (.reject 0 0)] ++
    approach 2 .signed (serviceState "api" "degraded") 1000 ++ [.advance 2 .park]

def replay (worker : Nat) (now : Int) (second : Timestamp) (id : Byte) : List Action :=
  [.fire worker, .drain worker, .choose worker 0] ++
    (approach worker .signed (serviceState "api" "degraded") now).tail ++
    signAt worker second id ++
    [.advance worker (.send .accepted), .advance worker .reset, .advance worker .remember]

def upAgain : List Action :=
  [.submit 3 .signed (serviceState "api" "up"),
    .advance 3 (.hydrate ⟨1500, .ok [], .ok none, .ok none⟩), .lock 3, .advance 3 .compare]

def Moment.submits (args : PublishArgs) : Moment → Bool
  | .submitted call => call.args == args
  | _ => false

namespace Projector

theorem replay_never_overwrites_degraded :
    ∃ final late early returned call event, run (step .plain) fresh
        (degradedParked ++ replay 4 3000000000 103 3 ++
          publish 5 (serviceState "api" "up") 4000000000 104 4) = some final ∧
      final.history = late ++ .returned returned none :: early ∧
      returned.args = serviceState "api" "degraded" ∧ .signed call event ∈ late ∧
      returned.origin ≤ call.origin ∧ event.kind = call.args.kind ∧
      event.tags = call.args.tags ∧ event.content = call.args.content := by
  have guarded : Along (step .plain) (LeavesNothingOlder .plain) fresh
      (degradedParked ++ replay 4 3000000000 103 3 ++
        publish 5 (serviceState "api" "up") 4000000000 104 4) := along_of_check rfl
  have signed : ∀ first second third : Moment, second ∈ [first, second, third] :=
    fun first second third => mem_cons_of_mem _ mem_cons_self
  refine ⟨_, [_, _, _], _, _, ⟨3, .signed, serviceState "api" "up"⟩, _, rfl, rfl, rfl,
    signed _ _ _, ?_⟩
  exact replay_never_overwrites guarded rfl rfl (signed _ _ _) rfl

/-- The parked degraded state is signed over the newer state whose publish had returned,
and nobody had submitted it again. -/
theorem parked_state_overwrites_newer :
    ∃ final older newer event late early, run (step .plain) fresh
        (degradedParked ++ upAgain ++ replay 4 3000000000 103 3) = some final ∧
      final.history = late ++ .returned newer none :: early ∧ .signed older event ∈ late ∧
      older.key = newer.key ∧ older.origin < newer.origin ∧
      event.content = "degraded" ∧ newer.args.content = "up" ∧
      final.history.countP (Moment.submits older.args) = 1 := by
  refine ⟨_, ⟨2, .signed, serviceState "api" "degraded"⟩, ⟨3, .signed, serviceState "api" "up"⟩,
    _, [_, _], _, rfl, rfl, mem_cons_of_mem _ mem_cons_self, rfl, ?_, rfl, rfl, ?_⟩
  · decide
  · decide

end Projector

end Bahia.Projection
