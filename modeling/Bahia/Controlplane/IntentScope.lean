import Bahia.Foundation.Execution
import Bahia.Controlplane.IntentProcessor

/-! Intents one after another: which of them the processed cache suppresses, and what it answers. -/

namespace Bahia.Controlplane
open Foundation Nostr

structure Call where
  task : Task
  outside : (request : Request) → Outside request

variable (env : Environment)

/-- The intent that a call brings before the cache. -/
def Task.intent : Task → Option Intent
  | .relay event =>
    match parseIntent env.decoders event with
    | .ok (parsed, none) => some { parsed with actor := PubKey.hex event.pubKey }
    | _ => none
  | .inProcess intent =>
    match intent.content.expectedUpdatedAt with
    | none => some intent
    | some (.ok revision) => some { intent with expectedUpdatedAt := some revision }
    | some (.error _) => none

/-- The same request: what it is, where it goes and who made it. -/
def SameRequest (first second : Intent) : Prop :=
  first.intentID = second.intentID ∧ first.actor = second.actor ∧ first.orgID = second.orgID ∧
    first.domain = second.domain ∧ first.op = second.op ∧ first.coordinate = second.coordinate ∧
    first.content = second.content

instance (first second : Intent) : Decidable (SameRequest first second) := by
  unfold SameRequest
  infer_instance

def Reply.Fresh (reply : Reply) : Prop := ∀ result failure, reply ≠ .replayed result failure

theorem recordOf_result (kept : (recordOf contentHash intent result).result = some data) :
    result = some data := by
  unfold recordOf at kept
  dsimp only at kept
  split at kept
  · cases kept
  · exact kept

namespace State

def reply (state : State) (call : Call) : Reply :=
  ((call.task.body env).exec (serve env) call.outside state).1

def next (state : State) (call : Call) : State :=
  ((call.task.body env).exec (serve env) call.outside state).2

/-- An answer from the cache is owed to an earlier processing of the same request, and a result that
goes with it was produced by an intent of the same actor. -/
def Scoped (state : State) (call : Call) : Prop :=
  ∀ result failure, state.reply env call = .replayed result failure →
    ∃ intent ∈ call.task.intent env,
      (∃ earlier ∈ state.processed, SameRequest earlier.1 intent) ∧
        ∀ data ∈ result, ∃ earlier ∈ state.processed,
          earlier.1.actor = intent.actor ∧ earlier.2 = some data

/-- An id whose marker cannot be told from that of an id processed before comes with the same request
only, or with a strict intent that differs in what a strict replay compares. -/
def Careful (state : State) (call : Call) : Prop :=
  ∀ intent ∈ call.task.intent env, ∀ earlier ∈ state.processed,
    env.markerKey earlier.1.intentID = env.markerKey intent.intentID → SameRequest earlier.1 intent ∨
      requiresStrictIntentReplay intent = true ∧
        replayConflicts env.contentHash intent (recordOf env.contentHash earlier.1 earlier.2) = true

/-- Every marker is the record of an intent that was processed with its key. -/
def Recorded (state : State) : Prop :=
  ∀ key marker, state.markers.get key = some marker →
    ∃ earlier ∈ state.processed, env.markerKey earlier.1.intentID = key ∧
      marker.record = recordOf env.contentHash earlier.1 earlier.2

theorem recorded_empty : initial.Recorded env := by
  intro key marker found
  rw [initial, Bucket.get_empty] at found
  cases found

section
variable {state : State} (recorded : state.Recorded env)
include recorded

theorem recorded_markProcessed (intent : Intent)
    (result : Option Data) (createdAt : Timestamp) (id : ID) :
    (state.markProcessed env intent result
      ⟨createdAt, id, recordOf env.contentHash intent result⟩).Recorded env := by
  unfold State.markProcessed
  split
  · exact recorded
  have kept : ∀ key marker, state.markers.get key = some marker →
      ∃ earlier ∈ (intent, result) :: state.processed, env.markerKey earlier.1.intentID = key ∧
        marker.record = recordOf env.contentHash earlier.1 earlier.2 := by
    intro key marker found
    obtain ⟨earlier, member, same⟩ := recorded key marker found
    exact ⟨earlier, List.mem_cons_of_mem _ member, same⟩
  intro key marker found
  dsimp only at found
  split at found
  · rcases Bucket.get_put_cases found with ⟨rfl, rfl⟩ | ⟨_, old⟩
    · exact ⟨(intent, result), List.mem_cons_self, rfl, rfl⟩
    · exact kept key marker old
  · exact kept key marker found

theorem recorded_serve (request : Request)
    (given : Outside request) : (serve env state request given).1.Recorded env := by
  cases request with
  | handle => cases given <;> exact recorded
  | markProcessed intent result => exact recorded_markProcessed env recorded intent result given.1 given.2
  | _ => exact recorded

theorem recorded_next (call : Call) : (state.next env call).Recorded env := by
  have kept : ∀ (state : State) (request : Request) (given : Outside request), state.Recorded env →
      (serve env state request given).1.Recorded env :=
    fun _ request given holds => recorded_serve env holds request given
  exact Program.exec_invariant kept (call.task.body env) recorded

end

end State

/-! ### Answers that are not from the cache -/

section
variable (intent : Intent)

theorem returns_notifyChecked (status : Status) (text label unavailable : String) :
    (notifyChecked env intent status text label unavailable).Returns Reply.Fresh := by
  unfold notifyChecked
  split
  · apply Program.returns_bind
    intro answer
    cases answer <;> exact nofun
  · exact nofun

theorem returns_handlerFailed (inProcess : Bool) (error : HandlerError) :
    (handlerFailed env intent inProcess error).Returns Reply.Fresh := by
  unfold handlerFailed
  split
  · cases inProcess <;> exact nofun
  split
  · exact nofun
  split
  · exact nofun
  split
  · exact nofun
  split
  · exact returns_notifyChecked env _ _ _ _ _
  split
  · split <;> exact returns_notifyChecked env _ _ _ _ _
  · exact Program.returns_bind fun _ => nofun

theorem returns_conclude (result : Option Data) (evaluated : Bool) :
    (conclude env intent result evaluated).Returns Reply.Fresh := by
  apply Program.returns_bind
  intro _
  split
  · exact nofun
  split
  · apply Program.returns_bind
    intro answer
    cases answer with
    | some => exact nofun
    | none => exact Program.returns_bind fun _ => nofun
  · split
    · exact nofun
    · exact Program.returns_bind fun _ => nofun

theorem returns_reconcile (inProcess : Bool) :
    (reconcile env intent inProcess).Returns Reply.Fresh := by
  apply Program.returns_bind
  intro outcome
  cases outcome with
  | error error => exact returns_handlerFailed env intent inProcess error
  | ok handled =>
    dsimp only
    split
    · split
      · apply Program.returns_bind
        intro answer
        cases answer with
        | some => exact nofun
        | none => exact returns_conclude env intent handled.result true
      · exact nofun
    · exact returns_conclude env intent handled.result false

theorem returns_authorizeAndReconcile (inProcess : Bool) :
    (authorizeAndReconcile env intent inProcess).Returns Reply.Fresh := by
  unfold authorizeAndReconcile
  split
  · cases inProcess <;> exact nofun
  apply Program.returns_bind
  intro answer
  cases answer with
  | granted => exact returns_reconcile env intent inProcess
  | refused | lacking => exact Program.returns_bind fun _ => nofun
  | untrusted => cases inProcess <;> exact nofun

end

/-! ### Answers from the cache -/

section Suppressed
variable {env} {outside : (request : Request) → Outside request} {state : State} {intent : Intent}
variable {inProcess : Bool} {result : Option Data} {failure : Option String}

theorem replay_replayed {record : ProcessedIntentRecord}
    (found : state.processedIntent env intent.intentID = some record)
    (replayed : ((replay env intent inProcess).exec (serve env) outside state).1 =
      .replayed result failure) :
    (requiresStrictIntentReplay intent = true → replayConflicts env.contentHash intent record = false) ∧
      ∀ data ∈ result, record.result = some data := by
  simp only [replay, Processor.processedIntent, Program.exec_bind, Program.exec_request, serve,
    found] at replayed
  split at replayed
  · split at replayed
    · rw [Program.exec_bind] at replayed
      cases replayed
    rename_i _ agrees
    rw [Program.exec_bind, Program.exec_pure] at replayed
    cases replayed
    exact ⟨fun _ => Bool.eq_false_of_not_eq_true agrees, fun _ member => member⟩
  · rename_i lax
    rw [Program.exec_pure] at replayed
    cases replayed
    refine ⟨fun strict => absurd strict lax, ?_⟩
    intro data member
    cases inProcess with
    | true => exact member
    | false => cases member

theorem virtualizationReplay_state :
    ((virtualizationReplay env intent).exec (serve env) outside state).2 = state := by
  unfold virtualizationReplay
  split
  · rw [Program.exec_bind]
    split <;> rfl
  · rfl

theorem deduplicate_replayed
    (replayed : ((deduplicate env intent inProcess).exec (serve env) outside state).1 =
      .replayed result failure) :
    state.isProcessed env intent.intentID = true ∧
      ((replay env intent inProcess).exec (serve env) outside state).1 = .replayed result failure := by
  rw [deduplicate, Program.exec_bind, virtualizationReplay_state] at replayed
  split at replayed
  · cases replayed
  split at replayed
  · rw [Program.exec_bind] at replayed
    split at replayed
    · rename_i processed
      exact ⟨processed, replayed⟩
    · exact absurd replayed ((returns_authorizeAndReconcile env intent inProcess).exec _ _ _)
  · exact absurd replayed ((returns_authorizeAndReconcile env intent inProcess).exec _ _ _)

theorem process_replayed
    (replayed : ((process env intent inProcess).exec (serve env) outside state).1 =
      .replayed result failure) :
    ((deduplicate env intent inProcess).exec (serve env) outside state).1 = .replayed result failure := by
  rw [process, Program.exec_bind] at replayed
  split at replayed
  · cases inProcess <;> cases replayed
  split at replayed
  · cases inProcess <;> cases replayed
  split at replayed
  · cases replayed
  · exact replayed

theorem plaintextRefusal_returns :
    (plaintextRefusal env intent).Returns fun refusal => ∀ reply ∈ refusal, reply.Fresh := by
  unfold plaintextRefusal
  split
  · apply Program.returns_bind
    intro known
    cases known with
    | true =>
      apply Program.returns_bind
      rintro _ _ ⟨⟩
      exact nofun
    | false =>
      rintro _ ⟨⟩
      exact nofun
  · rintro _ ⟨⟩

theorem plaintextRefusal_state :
    ((plaintextRefusal env intent).exec (serve env) outside state).2 = state := by
  unfold plaintextRefusal
  split
  · rw [Program.exec_bind]
    split
    · unfold notify
      split <;> rfl
    · rfl
  · rfl

theorem rejectMalformed_returns (text : String) :
    (rejectMalformed env intent text).Returns Reply.Fresh := by
  unfold rejectMalformed
  split
  · exact nofun
  apply Program.returns_bind
  intro known
  cases known with
  | false => exact nofun
  | true =>
    rw [if_pos rfl]
    split
    · exact Program.returns_bind fun _ => nofun
    · exact nofun

theorem relay_replayed
    (replayed : ((processRelayIntent env event).exec (serve env) outside state).1 =
      .replayed result failure) :
    ∃ intent ∈ (Task.relay event).intent env,
      ((deduplicate env intent false).exec (serve env) outside state).1 = .replayed result failure := by
  rw [processRelayIntent, Program.exec_bind] at replayed
  split at replayed
  · cases replayed
  split at replayed
  · cases replayed
  rename_i decoded
  dsimp only at replayed
  split at replayed
  · exact absurd replayed ((rejectMalformed_returns _).exec _ _ _)
  split at replayed
  · cases replayed
  rw [Program.exec_bind, plaintextRefusal_state] at replayed
  split at replayed
  · rename_i refused
    exact absurd replayed ((plaintextRefusal_returns.exec _) _ refused _ _)
  · refine ⟨_, ?_, process_replayed replayed⟩
    rw [Task.intent, decoded]
    rfl

theorem inProcess_replayed
    (replayed : ((processInProcess env intent).exec (serve env) outside state).1 =
      .replayed result failure) :
    ∃ brought ∈ (Task.inProcess intent).intent env,
      ((deduplicate env brought true).exec (serve env) outside state).1 = .replayed result failure := by
  rw [processInProcess, Program.exec_bind] at replayed
  split at replayed
  · cases replayed
  split at replayed
  · cases replayed
  split at replayed
  · cases replayed
  split at replayed
  · rw [Program.exec_bind] at replayed
    cases replayed
  · rename_i expected
    refine ⟨_, ?_, process_replayed replayed⟩
    rw [Task.intent, expected]
    rfl
  · rename_i expected
    refine ⟨_, ?_, process_replayed replayed⟩
    rw [Task.intent, expected]
    rfl

end Suppressed

theorem State.reply_replayed {state : State} {call : Call} {result : Option Data}
    {failure : Option String} (replayed : state.reply env call = .replayed result failure) :
    ∃ intent ∈ call.task.intent env, ∃ marker,
      state.markers.get (env.markerKey intent.intentID) = some marker ∧
      (requiresStrictIntentReplay intent = true →
        replayConflicts env.contentHash intent marker.record = false) ∧
      ∀ data ∈ result, marker.record.result = some data := by
  have brought : ∃ intent ∈ call.task.intent env, ∃ inProcess,
      ((deduplicate env intent inProcess).exec (serve env) call.outside state).1 =
        .replayed result failure := by
    obtain ⟨task, outside⟩ := call
    cases task with
    | relay =>
      obtain ⟨intent, member, same⟩ := relay_replayed replayed
      exact ⟨intent, member, false, same⟩
    | inProcess intent =>
      obtain ⟨intent, member, same⟩ := inProcess_replayed replayed
      exact ⟨intent, member, true, same⟩
  obtain ⟨intent, member, inProcess, suppressed⟩ := brought
  obtain ⟨processed, answered⟩ := deduplicate_replayed suppressed
  obtain ⟨named, known⟩ := Bool.and_eq_true_iff.mp processed
  obtain ⟨marker, found⟩ := Option.isSome_iff_exists.mp known
  have record : state.processedIntent env intent.intentID = some marker.record := by
    rw [State.processedIntent, if_neg (by simpa using named), found]
    rfl
  exact ⟨intent, member, marker, found, replay_replayed record answered⟩

/-- As long as no key comes back with another request, except in a strict intent that shows it, every
answer from the cache is owed to the same request and to the same actor. -/
theorem suppression_scoped (calls : List Call)
    (careful : Throughout (State.next env) (State.Careful env) State.initial calls) :
    Throughout (State.next env) (State.Scoped env) State.initial calls := by
  have keeps : ∀ (state : State) (call : Call), state.Recorded env → state.Careful env call →
      (state.next env call).Recorded env :=
    fun _ call recorded _ => State.recorded_next env recorded call
  refine throughout_of_guarded keeps ?_ (State.recorded_empty env) careful
  intro state call recorded careful result failure replayed
  obtain ⟨intent, brought, marker, found, agrees, returned⟩ := State.reply_replayed env replayed
  obtain ⟨earlier, member, same, record⟩ := recorded _ marker found
  rw [record] at agrees returned
  rcases careful intent brought earlier member same with request | ⟨strict, conflicts⟩
  · refine ⟨intent, brought, ⟨earlier, member, request⟩, ?_⟩
    intro data held
    exact ⟨earlier, member, request.2.1, recordOf_result (returned data held)⟩
  · rw [agrees strict] at conflicts
    cases conflicts

instance (state : State) (call : Call) : Decidable (state.Careful env call) := by
  unfold State.Careful
  infer_instance

/-- A request to one service, and its retry. -/
theorem suppression_scoped_retried :
    let env := Environment.permissive
    let intent : Intent := ⟨none, "service", "update", "org", "1", "api", { data := "scale" }, none, "alice"⟩
    let calls := [⟨.inProcess intent, calmly (some "done") 1 zeroID⟩,
      ⟨.inProcess intent, calmly none 2 zeroID⟩]
    Throughout (State.next env) (State.Scoped env) State.initial calls :=
  suppression_scoped .permissive _
    (throughout_cons.mpr ⟨by decide +kernel, throughout_cons.mpr ⟨by decide +kernel, trivial⟩⟩)

/-- An intent of another actor, for another organisation and coordinate, is answered with the result of
the first one, because it has the same id. So is one from a relay, without the result. -/
theorem foreign_id_suppressed :
    let env := Environment.permissive
    let first : Intent := ⟨none, "service", "update", "north", "1", "api", { data := "scale" }, none, "alice"⟩
    let second : Intent := ⟨none, "service", "update", "south", "1", "web", { data := "stop" }, none, "bob"⟩
    let event : Event := ⟨zeroID, FixedBytes.ofByte 31 2, 9, 30900,
      [["t", "bahia-intent"], ["d", "web"], ["domain", "service"], ["org", "south"], ["intent_id", "1"]],
      "stop", .zero 64⟩
    let state := State.initial.next env ⟨.inProcess first, calmly (some "done") 1 zeroID⟩
    state.processed = [(first, some "done")] ∧
      state.reply env ⟨.inProcess second, calmly none 2 zeroID⟩ = .replayed (some "done") none ∧
      (State.next env state ⟨.inProcess second, calmly none 2 zeroID⟩).applied = [first] ∧
      state.reply env ⟨.relay event, calmly none 2 zeroID⟩ = .replayed none none := by
  decide +kernel

end Bahia.Controlplane
