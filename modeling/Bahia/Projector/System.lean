import Bahia.Projector.Model

/-! Any number of callers and timer flushes at work on one projector. Every section
under a mutex, every answer of a relay and every reading of a clock is one step, so a run
is an interleaving the locks allow. -/

namespace Bahia.Projection
open Foundation Nostr

inductive Stage where
  | hydrating
  | locking
  | comparing
  | gating
  | parking
  | stamping
  | signing (createdAt : Timestamp)
  | sending (event : Event)
  | rejecting (err : String)
  | resetting (event : Event)
  | remembering (event : Event)
  deriving DecidableEq

/-- The coordinate's lock is held. -/
def Stage.locked : Stage → Bool
  | .hydrating | .locking => false
  | _ => true

/-- Nothing has been signed yet and something still may be. -/
def Stage.unsigned : Stage → Bool
  | .sending _ | .rejecting _ | .resetting _ | .remembering _ => false
  | _ => true

def Stage.event : Stage → Option Event
  | .sending event | .resetting event | .remembering event => some event
  | _ => none

inductive SendAnswer where
  | accepted
  | queued (err : String)
  | failed (err : String)
  deriving DecidableEq

/-- One section of a call with the answers its surroundings give it. -/
inductive Move where
  | hydrate (answers : HistoryAnswers)
  | compare
  | gate (now : Int)
  | park
  | stamp (now : Timestamp)
  | sign (answer : Except String (ID × PubKey × Signature))
  | send (answer : SendAnswer)
  | reject (now : Int) (draw : Nat)
  | reset
  | remember

/-- What callers and relays see of a run. -/
inductive Moment where
  | submitted (call : Submission)
  | signed (call : Submission) (event : Event)
  | refused (call : Submission) (event : Event)
  | returned (call : Submission) (err : Option String)
  deriving DecidableEq

inductive Next where
  | goto (stage : Stage)
  | log (moment : Moment) (stage : Stage)
  | ret (err : Option String)

structure Progress where
  cache : Cache
  backoff : Backoff
  next : Next

namespace Submission

def start (call : Submission) : Stage := if call.dedupable then .hydrating else .gating

def signedEvent (call : Submission) (createdAt : Timestamp)
    (signature : ID × PubKey × Signature) : Event where
  id := signature.1
  pubKey := signature.2.1
  createdAt := createdAt
  kind := call.args.kind
  tags := call.args.tags
  content := call.args.content
  sig := signature.2.2

def signError (call : Submission) (err : String) : String :=
  if call.path = .relayFirst then "sign relay-first record: " ++ err else err

def sendError (call : Submission) (err : String) : String :=
  if call.path = .relayFirst then "publish relay-first record: " ++ err
  else "publish event: " ++ err

/-- The outbox keeps a queued event; a relay-first writer needs the quorum now. -/
def sendFailure (call : Submission) : SendAnswer → Option String
  | .accepted => none
  | .queued err => if call.path = .relayFirst then some (call.sendError err) else none
  | .failed err => some (call.sendError err)

variable {Value : Type} (config : Config Value)

def fingerprint (call : Submission) : String :=
  config.fingerprint call.args.kind call.args.tags call.args.content

def unchanged (call : Submission) (cache : Cache) : Bool :=
  call.dedupes && cache.projectionUnchanged call.key (call.fingerprint config)

/-- `publishSignedWithTombstoneDedupe`, `publishSignedRelayFirstRecord` and
`publishAuthoritative`, section by section. The last two neither honour nor open the
backoff window. -/
def advance (call : Submission) (cache : Cache) (backoff : Backoff) :
    Stage → Move → Option Progress
  | .hydrating, .hydrate answers =>
    match config.hydrate cache call answers with
    | (loaded, none) => some ⟨loaded, backoff, .goto .locking⟩
    | (loaded, some err) => some ⟨loaded, backoff, .ret (some err)⟩
  | .comparing, .compare =>
    if call.unchanged config cache then some ⟨cache, backoff, .ret none⟩
    else some ⟨cache, backoff, .goto (if call.path = .signed then .gating else .stamping)⟩
  | .gating, .gate now =>
    if backoff.projectionBackoffActive now then
      if call.dedupable then some ⟨cache, backoff, .goto .parking⟩
      else some ⟨cache, backoff, .ret (some errProjectorBackoff)⟩
    else some ⟨cache, backoff, .goto .stamping⟩
  | .parking, .park =>
    some ⟨cache.savePendingRetry call, backoff, .ret (some errProjectorBackoff)⟩
  | .stamping, .stamp now =>
    let createdAt := if call.dedupable then cache.nextProjectionCreatedAt call.key now else now
    some ⟨cache, backoff, .goto (.signing createdAt)⟩
  | .signing createdAt, .sign answer =>
    match answer with
    | .ok signature =>
      let event := call.signedEvent createdAt signature
      some ⟨cache, backoff, .log (.signed call event) (.sending event)⟩
    | .error err => some ⟨cache, backoff, .goto (.rejecting (call.signError err))⟩
  | .sending event, .send answer =>
    match call.sendFailure answer with
    | some err => some ⟨cache, backoff, .log (.refused call event) (.rejecting err)⟩
    | none =>
      if call.path = .signed then some ⟨cache, backoff, .goto (.resetting event)⟩
      else some ⟨cache, backoff, .goto (.remembering event)⟩
  | .rejecting err, .reject now draw =>
    if call.path = .signed then
      some ⟨cache, backoff.noteProjectionRejection now draw, .ret (some err)⟩
    else some ⟨cache, backoff, .ret (some err)⟩
  | .resetting event, .reset =>
    if call.dedupable then
      some ⟨cache, backoff.resetProjectionBackoff, .goto (.remembering event)⟩
    else some ⟨cache, backoff.resetProjectionBackoff, .ret none⟩
  | .remembering event, .remember =>
    some ⟨cache.rememberProjection call.key (call.fingerprint config) event.createdAt, backoff,
      .ret none⟩
  | _, _ => none

/-- What one section can do, with what it leaves and where the call stands next. -/
inductive Section (call : Submission) (cache : Cache) (backoff : Backoff) :
    Stage → Move → Progress → Prop where
  | loaded {answers loaded} (kept : Loaded cache loaded) :
      Section call cache backoff .hydrating (.hydrate answers) ⟨loaded, backoff, .goto .locking⟩
  | unavailable {answers loaded err} (kept : Loaded cache loaded) :
      Section call cache backoff .hydrating (.hydrate answers) ⟨loaded, backoff, .ret (some err)⟩
  | unchanged : Section call cache backoff .comparing .compare ⟨cache, backoff, .ret none⟩
  | changed {next} (path : next = .gating ∨ next = .stamping) :
      Section call cache backoff .comparing .compare ⟨cache, backoff, .goto next⟩
  | suppressed {now} :
      Section call cache backoff .gating (.gate now) ⟨cache, backoff, .goto .parking⟩
  | dropped {now err} :
      Section call cache backoff .gating (.gate now) ⟨cache, backoff, .ret (some err)⟩
  | admitted {now} :
      Section call cache backoff .gating (.gate now) ⟨cache, backoff, .goto .stamping⟩
  | parked {err} :
      Section call cache backoff .parking .park
        ⟨cache.savePendingRetry call, backoff, .ret (some err)⟩
  | stamped {now createdAt} (stamp : call.dedupable = true →
        createdAt = cache.nextProjectionCreatedAt call.key now) :
      Section call cache backoff .stamping (.stamp now)
        ⟨cache, backoff, .goto (.signing createdAt)⟩
  | signed {createdAt signature event} (stamped : event = call.signedEvent createdAt signature) :
      Section call cache backoff (.signing createdAt) (.sign (.ok signature))
        ⟨cache, backoff, .log (.signed call event) (.sending event)⟩
  | unsigned {createdAt err text} :
      Section call cache backoff (.signing createdAt) (.sign (.error err))
        ⟨cache, backoff, .goto (.rejecting text)⟩
  | refused {event answer err} :
      Section call cache backoff (.sending event) (.send answer)
        ⟨cache, backoff, .log (.refused call event) (.rejecting err)⟩
  | sent {event answer next} (path : next = .resetting event ∨ next = .remembering event) :
      Section call cache backoff (.sending event) (.send answer) ⟨cache, backoff, .goto next⟩
  | rejected {err now draw opened}
      (timer : opened = backoff ∨ opened.retryTimer = some .scheduled) :
      Section call cache backoff (.rejecting err) (.reject now draw)
        ⟨cache, opened, .ret (some err)⟩
  | reset {event next} (path : next = .goto (.remembering event) ∨
        call.dedupable = false ∧ next = .ret none) :
      Section call cache backoff (.resetting event) .reset ⟨cache, .closed, next⟩
  | remembered {event fingerprint} :
      Section call cache backoff (.remembering event) .remember
        ⟨cache.rememberProjection call.key fingerprint event.createdAt, backoff, .ret none⟩

theorem advance_section (moved : call.advance config cache backoff stage move = some progress) :
    Section call cache backoff stage move progress := by
  unfold advance at moved
  split at moved
  · rename_i answers
    have kept := hydrate_loaded config cache call answers
    split at moved
    · rename_i result
      rw [result] at kept
      cases moved
      exact .loaded kept
    · rename_i result
      rw [result] at kept
      cases moved
      exact .unavailable kept
  · split at moved
    · cases moved
      exact .unchanged
    cases moved
    apply Section.changed
    split
    · exact .inl rfl
    · exact .inr rfl
  · split at moved
    · split at moved
      · cases moved
        exact .suppressed
      · cases moved
        exact .dropped
    · cases moved
      exact .admitted
  · cases moved
    exact .parked
  · cases moved
    apply Section.stamped
    intro dedupable
    simp [dedupable]
  · split at moved
    · cases moved
      exact .signed rfl
    · cases moved
      exact .unsigned
  · split at moved
    · cases moved
      exact .refused
    split at moved
    · cases moved
      exact .sent (.inl rfl)
    · cases moved
      exact .sent (.inr rfl)
  · split at moved
    · cases moved
      exact .rejected (.inr rfl)
    · cases moved
      exact .rejected (.inl rfl)
  · split at moved
    · cases moved
      exact .reset (.inl rfl)
    · rename_i audit
      cases moved
      exact .reset (.inr ⟨Bool.eq_false_iff.mpr audit, rfl⟩)
  · cases moved
    exact .remembered
  · cases moved

end Submission

/-- A call runs for its caller or for a flush with publishes left to replay. -/
inductive Owner where
  | caller
  | flush (todo : List Submission)
  deriving DecidableEq

/-- A goroutine at work. A flush first takes the parked publishes, then replays them in
the order its map yields. -/
inductive Worker where
  | draining
  | choosing (todo : List Submission)
  | calling (owner : Owner) (call : Submission) (stage : Stage)
  deriving DecidableEq

/-- The projector with everything in progress on it. `submissions` and `history` are
bookkeeping: no section reads them. -/
structure Projector where
  cache : Cache
  backoff : Backoff
  keyLocks : Bucket ProjectionKey Nat
  workers : Bucket Nat Worker
  submissions : Nat
  /-- Newest first. -/
  history : List Moment

def Projector.fresh : Projector := ⟨.empty, .closed, ∅, ∅, 0, []⟩

inductive Action where
  | submit (worker : Nat) (path : Path) (args : PublishArgs)
  | lock (worker : Nat)
  | advance (worker : Nat) (move : Move)
  | fire (worker : Nat)
  | drain (worker : Nat)
  | choose (worker : Nat) (index : Nat)
  | forgetAbandoned (event : Event)

/-- `ForgetAbandonedProjection`: the outbox gave up on the event. -/
def Cache.forgetAbandonedProjection {Value : Type} (config : Config Value) (cache : Cache)
    (event : Event) : Cache :=
  let key := projectionKeyOf event.kind event.tags
  let fingerprint := config.fingerprint event.kind event.tags event.content
  if event.kind == kindCASAudit then cache
  else if cache.floor key == event.createdAt && cache.projectionUnchanged key fingerprint then
    { cache with published := cache.published.delete key }
  else cache

namespace Projector

def resume (workers : Bucket Nat Worker) (worker : Nat) : Owner → Bucket Nat Worker
  | .caller => workers.delete worker
  | .flush todo => workers.put worker (.choosing todo)

def unlock (keyLocks : Bucket ProjectionKey Nat) (call : Submission) (stage : Stage) :
    Bucket ProjectionKey Nat :=
  if stage.locked && call.dedupable then keyLocks.delete call.key else keyLocks

def apply (state : Projector) (worker : Nat) (owner : Owner) (call : Submission) (stage : Stage)
    (progress : Progress) : Projector :=
  let entered := { state with cache := progress.cache, backoff := progress.backoff }
  match progress.next with
  | .goto next => { entered with workers := state.workers.put worker (.calling owner call next) }
  | .log moment next =>
    { entered with
      workers := state.workers.put worker (.calling owner call next)
      history := moment :: state.history }
  | .ret err =>
    { entered with
      keyLocks := unlock state.keyLocks call stage
      workers := resume state.workers worker owner
      history := .returned call err :: state.history }

variable {Value : Type} (config : Config Value)

def step (state : Projector) : Action → Option Projector
  | .submit worker path args =>
    let call : Submission := ⟨state.submissions, path, args⟩
    match state.workers.get worker with
    | some _ => none
    | none =>
      some { state with
        workers := state.workers.put worker (.calling .caller call call.start)
        submissions := state.submissions + 1
        history := .submitted call :: state.history }
  | .lock worker =>
    match state.workers.get worker with
    | some (.calling owner call .locking) =>
      if call.key ∈ state.keyLocks then none
      else
        some { state with
          keyLocks := state.keyLocks.put call.key worker
          workers := state.workers.put worker (.calling owner call .comparing) }
    | _ => none
  | .advance worker move =>
    match state.workers.get worker with
    | some (.calling owner call stage) =>
      (call.advance config state.cache state.backoff stage move).map
        (state.apply worker owner call stage)
    | _ => none
  | .fire worker =>
    if state.backoff.retryTimer = some .scheduled ∧ state.workers.get worker = none then
      some { state with
        backoff := { state.backoff with retryTimer := some .fired }
        workers := state.workers.put worker .draining }
    else none
  | .drain worker =>
    match state.workers.get worker with
    | some .draining =>
      some { state with
        cache := { state.cache with pendingRetries := ∅ }
        workers := state.workers.put worker (.choosing state.cache.pendingRetries.values) }
    | _ => none
  | .choose worker index =>
    match state.workers.get worker with
    | some (.choosing todo) =>
      match todo[index]? with
      | some call =>
        some { state with
          workers := state.workers.put worker
            (.calling (.flush (todo.eraseIdx index)) call call.start) }
      | none =>
        if todo = [] then some { state with workers := state.workers.delete worker } else none
    | _ => none
  | .forgetAbandoned event =>
    some { state with cache := state.cache.forgetAbandonedProjection config event }

/-- What a step can be, with the state it leaves. -/
inductive Takes (state : Projector) : Action → Projector → Prop where
  | submitted {worker path args call} (idle : state.workers.get worker = none)
      (fresh : call = ⟨state.submissions, path, args⟩) :
      Takes state (.submit worker path args)
        { state with
          workers := state.workers.put worker (.calling .caller call call.start)
          submissions := state.submissions + 1
          history := .submitted call :: state.history }
  | locked {worker owner call}
      (waiting : state.workers.get worker = some (.calling owner call .locking))
      (free : call.key ∉ state.keyLocks) :
      Takes state (.lock worker)
        { state with
          keyLocks := state.keyLocks.put call.key worker
          workers := state.workers.put worker (.calling owner call .comparing) }
  | advanced {worker owner call stage move progress}
      (standing : state.workers.get worker = some (.calling owner call stage))
      (moved : call.advance config state.cache state.backoff stage move = some progress) :
      Takes state (.advance worker move) (state.apply worker owner call stage progress)
  | fired {worker} (scheduled : state.backoff.retryTimer = some .scheduled)
      (idle : state.workers.get worker = none) :
      Takes state (.fire worker)
        { state with
          backoff := { state.backoff with retryTimer := some .fired }
          workers := state.workers.put worker .draining }
  | drained {worker} (draining : state.workers.get worker = some .draining) :
      Takes state (.drain worker)
        { state with
          cache := { state.cache with pendingRetries := ∅ }
          workers := state.workers.put worker (.choosing state.cache.pendingRetries.values) }
  | chosen {worker index todo call}
      (choosing : state.workers.get worker = some (.choosing todo))
      (picked : todo[index]? = some call) :
      Takes state (.choose worker index)
        { state with
          workers := state.workers.put worker
            (.calling (.flush (todo.eraseIdx index)) call call.start) }
  | ended {worker index} (choosing : state.workers.get worker = some (.choosing [])) :
      Takes state (.choose worker index) { state with workers := state.workers.delete worker }
  | forgotten {event} :
      Takes state (.forgetAbandoned event)
        { state with cache := state.cache.forgetAbandonedProjection config event }

theorem step_takes (taken : state.step config action = some next) :
    Takes config state action next := by
  cases action with
  | submit =>
    simp only [step] at taken
    split at taken
    · cases taken
    rename_i idle
    cases taken
    exact .submitted idle rfl
  | lock =>
    simp only [step] at taken
    split at taken
    · rename_i waiting
      split at taken
      · cases taken
      rename_i free
      cases taken
      exact .locked waiting free
    · cases taken
  | advance =>
    simp only [step] at taken
    split at taken
    · rename_i standing
      obtain ⟨progress, moved, same⟩ := Option.map_eq_some_iff.mp taken
      subst same
      exact .advanced standing moved
    · cases taken
  | fire =>
    simp only [step] at taken
    split at taken
    · rename_i ready
      cases taken
      exact .fired ready.1 ready.2
    · cases taken
  | drain =>
    simp only [step] at taken
    split at taken
    · rename_i draining
      cases taken
      exact .drained draining
    · cases taken
  | choose =>
    simp only [step] at taken
    split at taken
    · rename_i choosing
      split at taken
      · rename_i picked
        cases taken
        exact .chosen choosing picked
      split at taken
      · rename_i empty
        subst empty
        cases taken
        exact .ended choosing
      · cases taken
    · cases taken
  | forgetAbandoned =>
    cases taken
    exact .forgotten

end Projector

namespace Projector
variable (state : Projector) (worker : Nat) (owner : Owner) (call : Submission) (stage : Stage)
  (progress : Progress)

@[simp] theorem apply_cache :
    (state.apply worker owner call stage progress).cache = progress.cache := by
  unfold apply
  split <;> rfl

@[simp] theorem apply_backoff :
    (state.apply worker owner call stage progress).backoff = progress.backoff := by
  unfold apply
  split <;> rfl

end Projector

theorem forgetAbandoned_loaded (config : Config Value) (cache : Cache) (event : Event) :
    Loaded cache (cache.forgetAbandonedProjection config event) := by
  unfold Cache.forgetAbandonedProjection
  dsimp only
  split
  · exact Loaded.refl _
  split
  · exact ⟨fun _ => le_refl _, rfl⟩
  · exact Loaded.refl _

end Bahia.Projection
