import Bahia.Projector.PublishOrder

/-! The `created_at` order of the events signed on one coordinate. The coordinate's lock
carries it from the stamp to the floor; an event whose publish failed leaves no floor. -/

namespace Bahia.Projection
open Foundation Nostr Bucket

/-- The coordinate relays resolve by, for the projector's own key. -/
def PublishArgs.coordinate (args : PublishArgs) : Kind × String :=
  (args.kind, Tags.value args.tags "d")

variable {call : Submission} {stage : Stage}

theorem dedupable_of_key (same : call.key = key) (regular : key.wireKind ≠ kindCASAudit) :
    call.dedupable = true := by
  subst same
  have other : call.args.kind ≠ kindCASAudit := regular
  simp [Submission.dedupable, other]

theorem event_locked (signed : stage.event = some event) : stage.locked = true := by
  cases stage with
  | sending | resetting | remembering => rfl
  | _ => cases signed

variable {cache : Cache} {backoff : Backoff} {move : Move} {progress : Progress}

theorem section_locked (moved : Submission.Section call cache backoff stage move progress)
    (going : progress.next.stage = some next) (locked : next.locked = true) :
    stage.locked = true := by
  cases moved with
  | loaded =>
    cases going
    cases locked
  | unavailable => cases going
  | _ => rfl

theorem section_floor
    (moved : Submission.Section call cache backoff stage move progress) (key : ProjectionKey) :
    cache.floor key ≤ progress.cache.floor key := by
  cases moved with
  | loaded kept | unavailable kept => exact kept.floor key
  | remembered => exact Cache.floor_le_remember _ _ key _ _
  | _ => exact le_refl _

section Sections
variable (moved : Submission.Section call cache backoff stage move progress)
include moved

theorem section_signs (told : progress.next.moment call = some (.signed signer event)) :
    signer = call ∧ stage = .signing event.createdAt ∧
      progress.next.stage = some (.sending event) := by
  cases moved with
  | signed stamped =>
    cases told
    subst stamped
    exact ⟨rfl, rfl, rfl⟩
  | reset path =>
    rcases path with same | ⟨_, same⟩ <;> subst same <;> cases told
  | _ => cases told

/-- A signed event stays with its call until it is refused or under the floor. -/
theorem section_settles (signed : stage.event = some event) (dedupable : call.dedupable = true) :
    event.createdAt ≤ progress.cache.floor call.key ∨
      progress.next.moment call = some (.refused call event) ∨
      ∃ next, progress.next.stage = some next ∧ next.event = some event := by
  cases moved with
  | refused =>
    cases signed
    exact .inr (.inl rfl)
  | sent path =>
    cases signed
    rcases path with same | same
    · exact .inr (.inr ⟨_, rfl, by rw [same]; rfl⟩)
    · exact .inr (.inr ⟨_, rfl, by rw [same]; rfl⟩)
  | reset path =>
    cases signed
    rcases path with same | ⟨audit, _⟩
    · exact .inr (.inr ⟨_, by rw [same]; rfl, rfl⟩)
    · rw [dedupable] at audit
      cases audit
  | remembered =>
    cases signed
    exact .inl (Cache.floor_raiseFloor_self _ _ _)
  | _ => cases signed

theorem section_stamps (going : progress.next.stage = some (.signing createdAt))
    (dedupable : call.dedupable = true) :
    stage = .stamping ∧ progress.next.moment call = none ∧
      ∃ now, move = .stamp now ∧ createdAt = cache.nextProjectionCreatedAt call.key now := by
  cases moved with
  | stamped stamp =>
    cases going
    exact ⟨rfl, rfl, _, rfl, stamp dedupable⟩
  | changed path | sent path =>
    rcases path with same | same <;> subst same <;> cases going
  | reset path =>
    rcases path with same | ⟨_, same⟩ <;> subst same <;> cases going
  | _ => cases going

theorem section_submits
    (other : Submission) : progress.next.moment call ≠ some (.submitted other) := by
  intro told
  cases moved with
  | reset path => rcases path with same | ⟨_, same⟩ <;> subst same <;> cases told
  | _ => cases told

end Sections

namespace Projector

section Locks
variable {Value : Type}

def Locked (state : Projector) : Prop :=
  ∀ worker owner call stage, state.workers.get worker = some (.calling owner call stage) →
    stage.locked = true → call.dedupable = true → state.keyLocks.get call.key = some worker

variable {state next : Projector} {worker : Nat} {call : Submission}

theorem Locked.same_worker (locked : state.Locked)
    (one : state.workers.get first = some (.calling firstOwner firstCall firstStage))
    (two : state.workers.get second = some (.calling secondOwner secondCall secondStage))
    (oneLocked : firstStage.locked = true) (twoLocked : secondStage.locked = true)
    (oneDedupable : firstCall.dedupable = true) (twoDedupable : secondCall.dedupable = true)
    (same : firstCall.key = secondCall.key) : first = second := by
  have held := locked first firstOwner firstCall firstStage one oneLocked oneDedupable
  have alsoHeld := locked second secondOwner secondCall secondStage two twoLocked twoDedupable
  rw [same, alsoHeld] at held
  exact (Option.some.inj held).symm

theorem locked_put (locked : state.Locked) (workers : next.workers = state.workers.put worker entry)
    (locks : next.keyLocks = state.keyLocks)
    (outside : ∀ owner call stage, entry = .calling owner call stage → stage.locked = true →
      call.dedupable = true → state.keyLocks.get call.key = some worker) : next.Locked := by
  intro holder owner call stage found inside dedupable
  rw [workers] at found
  rw [locks]
  rcases get_put_cases found with ⟨same, equal⟩ | ⟨_, before⟩
  · rw [same]
    exact outside owner call stage equal inside dedupable
  · exact locked holder owner call stage before inside dedupable

theorem start_unlocked (dedupable : call.dedupable = true) :
    call.start.locked = false := by
  simp [Submission.start, dedupable, Stage.locked]

theorem locked_return (locked : state.Locked)
    (standing : state.workers.get worker = some (.calling owner call stage))
    (workers : next.workers = resume state.workers worker owner)
    (locks : next.keyLocks = unlock state.keyLocks call stage) : next.Locked := by
  intro holder holderOwner holderCall holderStage found inside dedupable
  have before : holder ≠ worker ∧
      state.workers.get holder = some (.calling holderOwner holderCall holderStage) := by
    rw [workers] at found
    cases owner with
    | caller => exact get_delete_cases found
    | flush =>
      rcases get_put_cases found with ⟨_, equal⟩ | kept
      · cases equal
      · exact kept
  have held := locked holder holderOwner holderCall holderStage before.2 inside dedupable
  rw [locks, unlock]
  split
  · rename_i freed
    obtain ⟨stageLocked, callDedupable⟩ := Bool.and_eq_true_iff.mp freed
    -- The freed lock is another coordinate's: this worker held it.
    have different : call.key ≠ holderCall.key := by
      intro same
      exact before.1 (locked.same_worker standing before.2 stageLocked inside callDedupable
        dedupable same).symm
    rw [get_delete_of_ne _ different]
    exact held
  · exact held

theorem locked_apply (locked : state.Locked)
    (standing : state.workers.get worker = some (.calling owner call stage))
    (moved : Submission.Section call state.cache state.backoff stage move progress) :
    (state.apply worker owner call stage progress).Locked := by
  have entered : ∀ next, progress.next.stage = some next → ∀ owner' call' stage',
      Worker.calling owner call next = .calling owner' call' stage' → stage'.locked = true →
      call'.dedupable = true → state.keyLocks.get call'.key = some worker := by
    intro next going owner' call' stage' same inside dedupable
    cases same
    exact locked worker owner call stage standing (section_locked moved going inside) dedupable
  unfold apply
  cases going : progress.next with
  | goto next | log moment next =>
    exact locked_put locked rfl rfl (entered next (by rw [going]; rfl))
  | ret => exact locked_return locked standing rfl rfl

theorem step_locked (locked : state.Locked) (takes : Takes config state action next) :
    next.Locked := by
  cases takes with
  | submitted | chosen =>
    refine locked_put locked rfl rfl ?_
    intro owner call stage same inside dedupable
    cases same
    rw [start_unlocked dedupable] at inside
    cases inside
  | locked waiting free =>
    rename_i call
    intro holder holderOwner holderCall holderStage found inside dedupable
    rcases get_put_cases found with ⟨same, equal⟩ | ⟨_, before⟩
    · cases equal
      rw [same]
      exact get_put_self _ _ _
    · have held := locked holder holderOwner holderCall holderStage before inside dedupable
      have different : call.key ≠ holderCall.key := by
        intro same
        exact free (mem_of_get (same ▸ held))
      exact (get_put_of_ne _ different _).trans held
  | advanced standing moved =>
    exact locked_apply locked standing (Submission.advance_section config moved)
  | fired | drained =>
    refine locked_put locked rfl rfl ?_
    intro owner call stage same
    cases same
  | ended =>
    intro holder owner call stage found
    exact locked holder owner call stage (get_delete_cases found).2
  | forgotten => exact locked

end Locks

section Stamps
variable {Value : Type} {config : Config Value}

/-- The event is signed and its call has yet to settle it. -/
def InFlight (state : Projector) (call : Submission) (event : Event) : Prop :=
  ∃ worker owner stage, state.workers.get worker = some (.calling owner call stage) ∧
    stage.event = some event

def Quiet (entry : Option Worker) : Prop :=
  ∀ owner call stage, entry = some (.calling owner call stage) →
    stage.event = none ∧ ∀ createdAt, stage ≠ .signing createdAt

theorem quiet_stage (unsigned : stage.event = none)
    (unstamped : ∀ createdAt, stage ≠ .signing createdAt) :
    Quiet (some (.calling owner call stage)) := by
  intro _ _ _ same
  cases same
  exact ⟨unsigned, unstamped⟩

theorem quiet_start (owner : Owner) (call : Submission) :
    Quiet (some (.calling owner call call.start)) := by
  unfold Submission.start
  split
  · exact quiet_stage rfl fun _ => nofun
  · exact quiet_stage rfl fun _ => nofun

theorem quiet_other (other : ∀ owner call stage, entry ≠ some (.calling owner call stage)) :
    Quiet entry := by
  intro owner call stage same
  exact absurd same (other owner call stage)

/-- The worker stands where it stood, or is quiet before and after. -/
def StandsOrQuiet (state next : Projector) (worker : Nat) : Prop :=
  next.workers.get worker = state.workers.get worker ∨
    (Quiet (state.workers.get worker) ∧ Quiet (next.workers.get worker))

variable {state next : Projector} {worker : Nat} {action : Action} {call : Submission}
  {event : Event} {owner : Owner} {stage : Stage} {move : Move} {progress : Progress}

theorem stands_put (workers : next.workers = state.workers.put worker entry)
    (before : Quiet (state.workers.get worker)) (after : Quiet (some entry)) (other : Nat) :
    StandsOrQuiet state next other := by
  unfold StandsOrQuiet
  rw [workers]
  by_cases same : worker = other
  · subst same
    rw [get_put_self]
    exact .inr ⟨before, after⟩
  · exact .inl (get_put_of_ne _ same _)

theorem stands_delete (workers : next.workers = state.workers.delete worker)
    (before : Quiet (state.workers.get worker)) (other : Nat) : StandsOrQuiet state next other := by
  unfold StandsOrQuiet
  rw [workers]
  by_cases same : worker = other
  · subst same
    rw [get_delete_self]
    exact .inr ⟨before, quiet_other fun _ _ _ => nofun⟩
  · exact .inl (get_delete_of_ne _ same)

/-- A step outside the sections of a call: no stamp, no signature, no settlement. -/
structure Aside (state next : Projector) : Prop where
  workers : ∀ worker, StandsOrQuiet state next worker
  floor : ∀ key, state.cache.floor key ≤ next.cache.floor key
  history : next.history = state.history ∨ ∃ call, next.history = .submitted call :: state.history

/-- The step is one section of the worker's call. -/
structure Advanced (state next : Projector) (action : Action) (worker : Nat) (owner : Owner)
    (call : Submission) (stage : Stage) (move : Move) (progress : Progress) : Prop where
  action : action = .advance worker move
  standing : state.workers.get worker = some (.calling owner call stage)
  moved : Submission.Section call state.cache state.backoff stage move progress
  next : next = state.apply worker owner call stage progress

/-- Every step is a section of a call or leaves the stamps aside. -/
theorem step_aside (takes : Takes config state action next) :
    Aside state next ∨ ∃ worker owner call stage move progress,
      Advanced state next action worker owner call stage move progress := by
  have outside {worker : Nat} {entry : Option Worker} (found : state.workers.get worker = entry)
      (other : ∀ owner call stage, entry ≠ some (.calling owner call stage)) :
      Quiet (state.workers.get worker) := by
    rw [found]
    exact quiet_other other
  cases takes with
  | submitted idle =>
    left
    exact ⟨stands_put rfl (outside idle fun _ _ _ => nofun) (quiet_start _ _), fun _ => le_refl _,
      .inr ⟨_, rfl⟩⟩
  | locked waiting free =>
    rename_i worker owner call
    have before : Quiet (state.workers.get worker) := by
      rw [waiting]
      exact quiet_stage rfl fun _ => nofun
    left
    exact ⟨stands_put rfl before (quiet_stage rfl fun _ => nofun), fun _ => le_refl _, .inl rfl⟩
  | advanced standing moved =>
    right
    exact ⟨_, _, _, _, _, _, rfl, standing, Submission.advance_section config moved, rfl⟩
  | fired scheduled idle =>
    left
    exact ⟨stands_put rfl (outside idle fun _ _ _ => nofun) (quiet_other fun _ _ _ => nofun),
      fun _ => le_refl _, .inl rfl⟩
  | drained draining =>
    left
    exact ⟨stands_put rfl (outside draining fun _ _ _ => nofun) (quiet_other fun _ _ _ => nofun),
      fun _ => le_refl _, .inl rfl⟩
  | chosen choosing =>
    left
    exact ⟨stands_put rfl (outside choosing fun _ _ _ => nofun) (quiet_start _ _),
      fun _ => le_refl _, .inl rfl⟩
  | ended choosing =>
    left
    exact ⟨stands_delete rfl (outside choosing fun _ _ _ => nofun), fun _ => le_refl _, .inl rfl⟩
  | forgotten =>
    left
    exact ⟨fun _ => .inl rfl, (forgetAbandoned_loaded config _ _).floor, .inl rfl⟩

theorem Aside.signed_before (aside : Aside state next)
    (member : .signed call event ∈ next.history) :
    .signed call event ∈ state.history := by
  rcases aside.history with same | ⟨added, grown⟩
  · exact same ▸ member
  rw [grown] at member
  rcases List.mem_cons.mp member with here | earlier
  · cases here
  · exact earlier

/-- The publish of an earlier event on the coordinate failed, and neither the clock nor
the floor is past it. -/
def blindTo (state : Projector) (call : Submission) (now : Timestamp) : Moment → Bool
  | .refused other event =>
    other.key == call.key && !decide (event.createdAt < now) &&
      !decide (event.createdAt ≤ state.cache.floor call.key)
  | _ => false

/-- A submission keeps the coordinate's `legacy_kind`, and a stamp is taken with room above
the floor and past every event of the coordinate whose publish failed. -/
def stampsForward (state : Projector) : Action → Bool
  | .submit _ _ args => state.history.all fun moment =>
    match moment with
    | .submitted other =>
      other.args.coordinate != args.coordinate || other.key == projectionKeyOf args.kind args.tags
    | _ => true
  | .advance worker (.stamp now) =>
    match state.workers.get worker with
    | some (.calling _ call .stamping) =>
      !call.dedupable ||
        (decide (state.cache.floor call.key < now) ||
            decide ((state.cache.floor call.key).val + 1 < 2 ^ 63)) &&
          !state.history.any (state.blindTo call now)
    | _ => true
  | _ => true

def StampsForward (state : Projector) (action : Action) : Prop := state.stampsForward action = true

theorem stamp_past (other : Submission)
    (guarded : state.StampsForward (.advance worker (.stamp now)))
    (standing : state.workers.get worker = some (.calling owner call .stamping))
    (dedupable : call.dedupable = true) (behind : event.createdAt ≤ state.cache.floor call.key ∨
      (.refused other event ∈ state.history ∧ other.key = call.key)) :
    event.createdAt < state.cache.nextProjectionCreatedAt call.key now := by
  simp only [StampsForward, stampsForward, standing, dedupable, Bool.not_true, Bool.false_or,
    Bool.and_eq_true, Bool.or_eq_true, decide_eq_true_eq, Bool.not_eq_true',
    List.any_eq_false] at guarded
  obtain ⟨space, seen⟩ := guarded
  have room : now ≤ state.cache.floor call.key →
      (state.cache.floor call.key).val + 1 < 2 ^ 63 := by
    intro late
    rcases space with ahead | room
    · exact absurd ahead (not_lt.mpr late)
    · exact room
  have aboveFloor := Cache.floor_lt_next room
  rcases behind with low | ⟨refused, same⟩
  · exact low.trans_lt aboveFloor
  have known := seen _ refused
  simp only [blindTo, same, beq_self_eq_true, Bool.true_and, Bool.and_eq_true,
    Bool.not_eq_true', decide_eq_false_iff_not, not_and, not_not] at known
  by_cases past : event.createdAt < now
  · exact past.trans_le (Cache.now_le_next room)
  · exact (known past).trans_lt aboveFloor

variable {key : ProjectionKey}

def Newer (key : ProjectionKey) (later earlier : Moment) : Prop :=
  match later, earlier with
  | .signed second newer, .signed first older =>
    second.key = key → first.key = key → older.createdAt < newer.createdAt
  | _, _ => True

/-- Every event signed on the coordinate is under its floor, refused, or still with the
lock's holder; a stamp taken is past all of them. -/
structure Stamped (key : ProjectionKey) (state : Projector) : Prop where
  locked : state.Locked
  settled : ∀ call event, .signed call event ∈ state.history → call.key = key →
    event.createdAt ≤ state.cache.floor key ∨ .refused call event ∈ state.history ∨
      state.InFlight call event
  ahead : ∀ worker owner call createdAt,
    state.workers.get worker = some (.calling owner call (.signing createdAt)) → call.key = key →
      ∀ other event, .signed other event ∈ state.history → other.key = key →
        event.createdAt < createdAt
  newer : state.history.Pairwise (Newer key)

theorem stamped_fresh (key : ProjectionKey) : Stamped key fresh := by
  have idle : ∀ worker, fresh.workers.get worker = none := get_empty
  refine ⟨?_, ?_, ?_, List.Pairwise.nil⟩
  · intro worker owner call stage found
    cases found
  · intro call event member
    cases member
  · intro worker owner call createdAt found
    rw [idle] at found
    cases found

theorem aside_stamped (stamped : Stamped key state)
    (takes : Takes config state action next) (aside : Aside state next) : Stamped key next := by
  refine ⟨step_locked stamped.locked takes, ?_, ?_, ?_⟩
  · intro call event member same
    rcases stamped.settled call event (aside.signed_before member) same with low | refused | flying
    · exact .inl (low.trans (aside.floor key))
    · exact .inr (.inl (history_grows takes refused))
    · obtain ⟨worker, owner, stage, standing, signed⟩ := flying
      right
      right
      rcases aside.workers worker with stands | ⟨before, _⟩
      · exact ⟨worker, owner, stage, stands.trans standing, signed⟩
      · rw [(before owner call stage standing).1] at signed
        cases signed
  · intro worker owner call createdAt standing same other event member
    rcases aside.workers worker with stands | ⟨_, after⟩
    · exact stamped.ahead worker owner call createdAt (stands.symm.trans standing) same other event
        (aside.signed_before member)
    · exact absurd rfl ((after owner call _ standing).2 createdAt)
  · rcases aside.history with same | ⟨call, grown⟩
    · exact same ▸ stamped.newer
    · rw [grown]
      exact List.pairwise_cons.mpr ⟨fun _ _ => trivial, stamped.newer⟩

section Apply
variable (state : Projector) (worker : Nat) (owner : Owner) (call : Submission) (stage : Stage)
  (progress : Progress)

theorem apply_others (different : other ≠ worker) :
    (state.apply worker owner call stage progress).workers.get other =
      state.workers.get other := by
  rw [apply_workers]
  cases progress.next.stage with
  | some => exact get_put_of_ne _ (Ne.symm different) _
  | none =>
    cases owner with
    | caller => exact get_delete_of_ne _ (Ne.symm different)
    | flush => exact get_put_of_ne _ (Ne.symm different) _

variable {next : Stage}

theorem apply_stage (going : progress.next.stage = some next) :
    (state.apply worker owner call stage progress).workers.get worker =
      some (.calling owner call next) := by
  rw [apply_workers, going]
  exact get_put_self _ _ _

theorem apply_own (found : (state.apply worker owner call stage progress).workers.get worker =
      some (.calling owner' call' next)) : call' = call ∧ progress.next.stage = some next := by
  rw [apply_workers] at found
  cases going : progress.next.stage with
  | some =>
    rw [going, get_put_self] at found
    cases found
    exact ⟨rfl, rfl⟩
  | none =>
    rw [going] at found
    cases owner with
    | caller => exact nomatch (get_delete_self _ _).symm.trans found
    | flush => exact nomatch (get_put_self _ _ _).symm.trans found

end Apply

theorem Advanced.signed_before
    (advanced : Advanced state next action worker owner call stage move progress)
    (member : .signed other event ∈ next.history) :
    .signed other event ∈ state.history ∨
      progress.next.moment call = some (.signed other event) := by
  rw [advanced.next, apply_history] at member
  rcases List.mem_append.mp member with here | earlier
  · exact .inr (Option.mem_toList.mp here)
  · exact .inl earlier

theorem advanced_settled
    (regular : key.wireKind ≠ kindCASAudit) (stamped : Stamped key state)
    (takes : Takes config state action next)
    (advanced : Advanced state next action worker owner call stage move progress)
    (other : Submission) (event : Event) (member : .signed other event ∈ next.history)
    (same : other.key = key) :
    event.createdAt ≤ next.cache.floor key ∨ .refused other event ∈ next.history ∨
      next.InFlight other event := by
  rcases advanced.signed_before member with earlier | here
  · rcases stamped.settled other event earlier same with low | refused | flying
    · left
      rw [advanced.next, apply_cache]
      exact low.trans (section_floor advanced.moved key)
    · exact .inr (.inl (history_grows takes refused))
    · obtain ⟨holder, holderOwner, holderStage, standing, signed⟩ := flying
      by_cases own : holder = worker
      · subst own
        rw [advanced.standing] at standing
        cases standing
        rcases section_settles advanced.moved signed (dedupable_of_key same regular)
          with low | refused | ⟨entered, going, kept⟩
        · left
          rw [advanced.next, apply_cache, ← same]
          exact low
        · right
          left
          rw [advanced.next, apply_history, refused]
          exact List.mem_cons_self
        · right
          right
          exact ⟨holder, owner, entered,
            advanced.next ▸ apply_stage state holder owner call stage progress going, kept⟩
      · right
        right
        refine ⟨holder, holderOwner, holderStage, ?_, signed⟩
        rw [advanced.next, apply_others _ _ _ _ _ _ own]
        exact standing
  · obtain ⟨signer, _, going⟩ := section_signs advanced.moved here
    subst signer
    right
    right
    exact ⟨worker, owner, _, advanced.next ▸ apply_stage state worker owner other stage progress going,
      rfl⟩

theorem advanced_ahead (regular : key.wireKind ≠ kindCASAudit) (stamped : Stamped key state)
    (guarded : state.StampsForward action)
    (advanced : Advanced state next action worker owner call stage move progress)
    (found : next.workers.get holder = some (.calling holderOwner holding (.signing createdAt)))
    (holdingKey : holding.key = key) (member : .signed other event ∈ next.history)
    (otherKey : other.key = key) : event.createdAt < createdAt := by
  rw [advanced.next] at found
  have holdingDedupable := dedupable_of_key holdingKey regular
  by_cases own : holder = worker
  · -- The stamp is taken in this very step.
    subst own
    obtain ⟨equal, going⟩ := apply_own _ _ _ _ _ _ found
    subst equal
    obtain ⟨here, silent, now, moves, stamp⟩ :=
      section_stamps advanced.moved going holdingDedupable
    subst here
    have standing := advanced.standing
    rw [advanced.action, moves] at guarded
    rw [stamp]
    rcases advanced.signed_before member with earlier | signs
    · rcases stamped.settled other event earlier otherKey with low | refused | flying
      · exact stamp_past other guarded standing holdingDedupable (.inl (holdingKey ▸ low))
      · exact stamp_past other guarded standing holdingDedupable
          (.inr ⟨refused, otherKey.trans holdingKey.symm⟩)
      · obtain ⟨flier, flierOwner, flierStage, flierStanding, signed⟩ := flying
        have alone := stamped.locked.same_worker standing flierStanding rfl (event_locked signed)
          holdingDedupable (dedupable_of_key otherKey regular) (holdingKey.trans otherKey.symm)
        subst alone
        rw [standing] at flierStanding
        cases flierStanding
        cases signed
    · rw [silent] at signs
      cases signs
  · rw [apply_others _ _ _ _ _ _ own] at found
    rcases advanced.signed_before member with earlier | signs
    · exact stamped.ahead holder holderOwner holding createdAt found holdingKey other event earlier
        otherKey
    -- Another call signs on the coordinate: it would hold the same lock.
    obtain ⟨signer, here, _⟩ := section_signs advanced.moved signs
    subst signer
    subst here
    exact absurd (stamped.locked.same_worker found advanced.standing rfl rfl holdingDedupable
      (dedupable_of_key otherKey regular) (holdingKey.trans otherKey.symm)) own

theorem advanced_newer
    (stamped : Stamped key state)
    (advanced : Advanced state next action worker owner call stage move progress) :
    next.history.Pairwise (Newer key) := by
  rw [advanced.next, apply_history]
  cases told : progress.next.moment call with
  | none => exact stamped.newer
  | some moment =>
    refine List.pairwise_cons.mpr ⟨?_, stamped.newer⟩
    intro earlier member
    cases moment with
    | signed signer event =>
      obtain ⟨same, here, _⟩ := section_signs advanced.moved told
      subst same
      subst here
      cases earlier with
      | signed other older =>
        intro signerKey otherKey
        exact stamped.ahead worker owner signer event.createdAt advanced.standing signerKey other older
          member otherKey
      | _ => trivial
    | _ => trivial

theorem step_stamped (regular : key.wireKind ≠ kindCASAudit) (stamped : Stamped key state)
    (guarded : state.StampsForward action) (taken : state.step config action = some next) :
    Stamped key next := by
  have takes := step_takes config taken
  rcases step_aside takes with aside | ⟨worker, owner, call, stage, move, progress, advanced⟩
  · exact aside_stamped stamped takes aside
  refine ⟨step_locked stamped.locked takes, ?_, ?_, advanced_newer stamped advanced⟩
  · exact advanced_settled regular stamped takes advanced
  · intro holder holderOwner holding createdAt found holdingKey other event member otherKey
    exact advanced_ahead regular stamped guarded advanced found holdingKey member otherKey

structure Families (state : Projector) : Prop where
  recorded : Recorded state
  family : ∀ first second, .submitted first ∈ state.history → .submitted second ∈ state.history →
    first.args.coordinate = second.args.coordinate → first.key = second.key

theorem families_fresh : Families fresh := by
  refine ⟨recorded_fresh, ?_⟩
  intro first second member
  cases member

theorem submit_family (guarded : state.StampsForward (.submit worker path args))
    (earlier : .submitted first ∈ state.history) (same : first.args.coordinate = args.coordinate) :
    first.key = projectionKeyOf args.kind args.tags := by
  have checked := List.all_eq_true.mp guarded _ earlier
  simpa [same] using checked

theorem step_families (families : Families state)
    (guarded : state.StampsForward action) (taken : state.step config action = some next) :
    Families next := by
  have takes := step_takes config taken
  refine ⟨step_recorded families.recorded takes, ?_⟩
  intro first second firstMember secondMember same
  cases takes with
  | submitted idle fresh =>
    rename_i args call
    have key : call.key = projectionKeyOf args.kind args.tags := by rw [fresh]; rfl
    have coordinate : call.args.coordinate = args.coordinate := by rw [fresh]
    rcases List.mem_cons.mp firstMember with here | earlier
    · cases here
      rcases List.mem_cons.mp secondMember with here | older
      · cases here
        rfl
      · rw [key, submit_family guarded older (same.symm.trans coordinate)]
    · rcases List.mem_cons.mp secondMember with here | older
      · cases here
        rw [key, submit_family guarded earlier (same.trans coordinate)]
      · exact families.family first second earlier older same
  | advanced standing moved =>
    rename_i worker owner call stage move progress
    have before : ∀ other, .submitted other ∈ (state.apply worker owner call stage progress).history →
        .submitted other ∈ state.history := by
      intro other member
      rw [apply_history] at member
      rcases List.mem_append.mp member with here | earlier
      · have silent := section_submits (Submission.advance_section config moved) other
        exact absurd (Option.mem_toList.mp here) silent
      · exact earlier
    exact families.family first second (before first firstMember) (before second secondMember) same
  | _ => exact families.family first second firstMember secondMember same

/-- In a run that keeps one `legacy_kind` per coordinate and stamps past every event whose
publish failed, two events on an addressable coordinate are strictly ordered by
`created_at` as they were signed. -/
theorem created_at_increases {actions : List Action} {final : Projector}
    (guarded : Along (step config) StampsForward fresh actions)
    (executed : run (step config) fresh actions = some final)
    {late early : List Moment} {first second : Submission} {earlier later : Event}
    (history : final.history = late ++ .signed first earlier :: early)
    (signed : .signed second later ∈ late)
    (addressable : Kind.isAddressable earlier.kind = true) (sameKind : earlier.kind = later.kind)
    (sameD : Tags.getD earlier.tags = Tags.getD later.tags) :
    earlier.createdAt < later.createdAt := by
  have families : Families final :=
    run_invariant (fun state action next => step_families) families_fresh guarded executed
  have firstSigned : .signed first earlier ∈ final.history := by
    rw [history]
    exact List.mem_append_right _ List.mem_cons_self
  have secondSigned : .signed second later ∈ final.history := by
    rw [history]
    exact List.mem_append_left _ signed
  obtain ⟨firstMade, _, _, firstEvent⟩ := families.recorded.signed first earlier firstSigned
  obtain ⟨secondMade, _, _, secondEvent⟩ := families.recorded.signed second later secondSigned
  have coordinate : first.args.coordinate = second.args.coordinate := by
    rw [firstEvent, secondEvent] at sameKind sameD
    exact Prod.ext sameKind sameD
  have sameKey := families.family first second firstMade secondMade coordinate
  have regular : first.key.wireKind ≠ kindCASAudit := by
    intro audit
    have kind : earlier.kind = kindCASAudit := by
      rw [firstEvent]
      exact audit
    rw [kind] at addressable
    cases addressable
  have stamped : Stamped first.key final :=
    run_invariant (fun state action next => step_stamped regular) (stamped_fresh first.key) guarded
      executed
  have apart := (List.pairwise_append.mp (history ▸ stamped.newer)).2.2
  exact apart _ signed _ List.mem_cons_self sameKey.symm rfl

end Stamps

end Projector

def belowQuorum (worker : Nat) (args : PublishArgs) (second : Timestamp) (id : Byte) :
    List Action :=
  [.submit worker .relayFirst args, .advance worker (.hydrate ⟨0, .ok [], .ok none, .ok none⟩),
    .lock worker, .advance worker .compare] ++ signAt worker second id ++
    [.advance worker (.send (.failed "1 of 2 relays accepted")), .advance worker (.reject 0 0)]

namespace Projector

theorem third_mem (a b c d e f : Moment) : c ∈ [a, b, c, d, e, f] := by simp

theorem created_at_increases_next_second :
    ∃ final late early first second earlier later, run (step .plain) fresh
        (belowQuorum 0 (serviceState "api" "one") 100 1 ++
          belowQuorum 1 (serviceState "api" "two") 101 2) = some final ∧
      final.history = late ++ .signed first earlier :: early ∧ .signed second later ∈ late ∧
      earlier.createdAt < later.createdAt := by
  have guarded : Along (step .plain) StampsForward fresh
      (belowQuorum 0 (serviceState "api" "one") 100 1 ++
        belowQuorum 1 (serviceState "api" "two") 101 2) := along_of_check rfl
  refine ⟨_, [_, _, _, _, _, _], _, _, ⟨1, .relayFirst, serviceState "api" "two"⟩, _, _, rfl, rfl,
    third_mem _ _ _ _ _ _, ?_⟩
  exact created_at_increases guarded rfl rfl (third_mem _ _ _ _ _ _) rfl rfl rfl

/-- The first record was signed and sent but refused below the quorum, so it left no floor:
the second one, in the same second, is not newer. -/
theorem refused_record_leaves_no_floor :
    ∃ final late early first second earlier later, run (step .plain) fresh
        (belowQuorum 0 (serviceState "api" "one") 100 1 ++
          belowQuorum 1 (serviceState "api" "two") 100 2) = some final ∧
      final.history = late ++ .signed first earlier :: early ∧ .signed second later ∈ late ∧
      Kind.isAddressable earlier.kind = true ∧ earlier.kind = later.kind ∧
      Tags.getD earlier.tags = Tags.getD later.tags ∧ earlier.pubKey = later.pubKey ∧
      ¬ earlier.createdAt < later.createdAt := by
  refine ⟨_, [_, _, _, _, _, _], _, _, ⟨1, .relayFirst, serviceState "api" "two"⟩, _, _, rfl, rfl,
    third_mem _ _ _ _ _ _, rfl, rfl, rfl, rfl, ?_⟩
  exact lt_irrefl _

end Projector

end Bahia.Projection
