import Bahia.Controlplane.IntentScope

/-! Calls of the processor in any interleaving: how often the handler of one intent id succeeds. -/

namespace Bahia.Controlplane
open Foundation Nostr

/-- Where a call stands with an intent id: it has found the id unprocessed, or its handler has
succeeded and the id is not marked yet. -/
inductive Phase where
  | out
  | checked
  | handled
  deriving DecidableEq

def Phase.step (id : String) (phase : Phase) (event : Foundation.Event Request Response) : Phase :=
  match event with
  | ⟨.isProcessed asked, found⟩ => if asked = id ∧ found = false ∧ phase = .out then .checked else phase
  | ⟨.handle intent, .ok _⟩ => if intent.intentID = id then .handled else phase
  | ⟨.markProcessed intent _, _⟩ => if intent.intentID = id then .out else phase
  | _ => phase

/-- What a call has asked so far says where it stands. -/
def phase (id : String) (trace : List (Foundation.Event Request Response)) : Phase :=
  trace.foldl (Phase.step id) .out

def callPhase (id : String) (call : Ongoing Request Response Reply) : Phase :=
  match call.rest with
  | .done _ => .out
  | .ask _ _ => phase id call.trace

variable (env : Environment) (id : String)

/-- The handler's success leaves no mark when its decision is not published. -/
def Lost : Foundation.Event Request Response → Prop
  | ⟨.handle intent, .ok handled⟩ =>
    intent.intentID = id ∧ handled.evaluated = true ∧ env.statusSet = false
  | ⟨.publish intent .evaluated _, some _⟩ => intent.intentID = id
  | _ => False

/-- What every call keeps to, whatever the others do: the handler is called after a check that found
nothing, and the mark follows the handler. -/
def conduct : Contract Request Response Outside State where
  serve := serve env
  rely := fun _ _ => True
  guard := fun trace _ request =>
    match request with
    | .handle intent => intent.intentID = id → phase id trace = .checked
    | .markProcessed intent _ => intent.intentID = id → phase id trace = .handled
    | _ => True

/-- A call that returns after its handler's success has marked the id, or lost the decision. -/
def Settled (trace : List (Foundation.Event Request Response)) : Prop :=
  phase id trace = .handled → ∃ event ∈ trace, Lost env id event

/-- The requests that change nothing of where a call stands. -/
def Plain : Request → Prop
  | .handle _ | .markProcessed _ _ | .isProcessed _ => False
  | _ => True

/-- A program that asks only such requests. -/
def Still {Result : Type} (program : Processor Result) : Prop :=
  ∀ trace state, program.Obeys (conduct env id) (fun after _ _ => phase id after = phase id trace)
    trace state

variable {env id}

theorem phase_append (trace : List (Foundation.Event Request Response))
    (event : Foundation.Event Request Response) :
    phase id (trace ++ [event]) = (phase id trace).step id event := by
  simp [phase]

theorem still_pure (result : Result) : Still env id (pure result) :=
  fun _ _ _ _ => rfl

variable {First : Type} {program : Processor First} {outside : Answers Request Outside}
  {pool : Calls}

theorem still_bind (first : Still env id program) (later : ∀ result, Still env id (rest result)) :
    Still env id (program >>= rest) := by
  intro trace state
  refine Program.Obeys.bind (fun _ => trivial) (first trace state) ?_
  intro after state result _ same
  refine (later result after state).weaken ?_
  intro _ _ _ kept
  exact kept.trans same

theorem still_request (plain : Plain request) : Still env id (Program.request request) := by
  intro trace state
  refine Program.Obeys.request fun later _ => ⟨?_, fun outside after _ => ?_⟩
  · cases request <;> first | exact plain.elim | trivial
  · rw [phase_append]
    cases request <;> first | exact plain.elim | rfl

section
variable (intent : Intent)

theorem still_notify (status : Status) (data : Option Data) :
    Still env id (notify env intent status data) := by
  unfold notify
  split
  · exact still_bind (still_request trivial) fun _ => still_pure _
  · exact still_pure _

theorem still_notifyChecked (status : Status) (text label unavailable : String) :
    Still env id (notifyChecked env intent status text label unavailable) := by
  unfold notifyChecked
  split
  · refine still_bind (still_request trivial) fun answer => ?_
    cases answer <;> exact still_pure _
  · exact still_pure _

theorem still_handlerFailed (inProcess : Bool) (error : HandlerError) :
    Still env id (handlerFailed env intent inProcess error) := by
  unfold handlerFailed
  split
  · exact still_pure _
  split
  · exact still_pure _
  split
  · exact still_pure _
  split
  · exact still_pure _
  split
  · exact still_notifyChecked _ _ _ _ _
  split
  · split <;> exact still_notifyChecked _ _ _ _ _
  · exact still_bind (still_notify _ _ _) fun _ => still_pure _

theorem still_replay (inProcess : Bool) : Still env id (replay env intent inProcess) := by
  refine still_bind (still_request trivial) fun answer => ?_
  cases answer with
  | none => exact still_pure _
  | some =>
    dsimp only
    split
    · split
      · exact still_bind (still_notify _ _ _) fun _ => still_pure _
      · exact still_bind (still_request trivial) fun _ => still_pure _
    · exact still_pure _

theorem still_virtualizationReplay : Still env id (virtualizationReplay env intent) := by
  unfold virtualizationReplay
  split
  · refine still_bind (still_request trivial) fun answer => ?_
    cases answer <;> exact still_pure _
  · exact still_pure _

theorem still_rejectMalformed (text : String) : Still env id (rejectMalformed env intent text) := by
  unfold rejectMalformed
  split
  · exact still_pure _
  refine still_bind (still_request trivial) fun answer => ?_
  cases answer with
  | false => exact still_pure _
  | true =>
    rw [if_pos rfl]
    split
    · exact still_bind (still_notify _ _ _) fun _ => still_pure _
    · exact still_pure _

theorem still_plaintextRefusal : Still env id (plaintextRefusal env intent) := by
  unfold plaintextRefusal
  split
  · refine still_bind (still_request trivial) fun answer => ?_
    cases answer with
    | false => exact still_pure _
    | true => exact still_bind (still_notify _ _ _) fun _ => still_pure _
  · exact still_pure _

end

/-! ### What each part of a call keeps to -/

/-- From here on the call keeps to its conduct, and settles what it does. -/
abbrev Settles (env : Environment) (id : String) (program : Processor Reply)
    (trace : List (Foundation.Event Request Response)) : Prop :=
  ∀ state, program.Obeys (conduct env id) (fun after _ _ => Settled env id after) trace state

variable {trace : List (Foundation.Event Request Response)} {intent : Intent} {inProcess : Bool}

theorem settles_still {program : Processor Reply} (still : Still env id program)
    (free : phase id trace ≠ .handled) : Settles env id program trace := by
  intro state
  refine (still trace state).weaken ?_
  intro after _ _ same handled
  exact absurd (same.symm.trans handled) free

theorem settles_bind (still : Still env id program)
    (later : ∀ result after, phase id after = phase id trace → Settles env id (rest result) after) :
    Settles env id (program >>= rest) trace := by
  intro state
  refine Program.Obeys.bind (fun _ => trivial) (still trace state) ?_
  intro after state result _ same
  exact later result after same state

/-- Where a call of this intent stands, seen from the id. -/
def standing (id : String) (intent : Intent) (phase : Phase) : Phase :=
  if intent.intentID = id then phase else .out

theorem standing_checked_ne (id : String) (intent : Intent) : standing id intent .checked ≠ .handled := by
  unfold standing
  split <;> nofun

theorem settles_conclude (result : Option Data) (evaluated : Bool)
    (stands : phase id trace = standing id intent .handled) :
    Settles env id (conclude env intent result evaluated) trace := by
  intro state
  have marked : (Processor.markProcessed intent result).Obeys (conduct env id)
      (fun after _ _ => phase id after = .out) trace state := by
    refine Program.Obeys.request fun later _ => ⟨?_, fun outside after _ => ?_⟩
    · intro same
      rw [stands, standing, if_pos same]
    · rw [phase_append, Phase.step, stands, standing]
      split <;> rfl
  refine Program.Obeys.bind (fun _ => trivial) marked ?_
  intro after state _ _ out
  refine settles_still ?_ (by rw [out]; nofun) state
  split
  · exact still_pure _
  split
  · refine still_bind (still_request trivial) fun answer => ?_
    cases answer with
    | some => exact still_pure _
    | none => exact still_bind (still_request trivial) fun _ => still_pure _
  · split
    · exact still_pure _
    · exact still_bind (still_notify _ _ _) fun _ => still_pure _

def Answered (env : Environment) (id : String) (intent : Intent)
    (after : List (Foundation.Event Request Response)) : Except HandlerError Handled → Prop
  | .error _ => phase id after ≠ .handled
  | .ok handled => phase id after = standing id intent .handled ∧
      (intent.intentID = id → handled.evaluated = true → env.statusSet = false →
        ∃ event ∈ after, Lost env id event)

theorem obeys_handle (stands : phase id trace = standing id intent .checked) (state : State) :
    (Processor.handle intent).Obeys (conduct env id)
      (fun after _ outcome => Answered env id intent after outcome) trace state := by
  refine Program.Obeys.request fun later _ => ⟨?_, fun outside after _ => ?_⟩
  · intro same
    rw [stands, standing, if_pos same]
  · cases outside with
    | error error =>
      have same : phase id (trace ++ [⟨.handle intent, .error error⟩]) = phase id trace :=
        phase_append _ _
      exact fun handled => standing_checked_ne id intent (stands.symm.trans (same.symm.trans handled))
    | ok handled =>
      refine ⟨?_, ?_⟩
      · show phase id (trace ++ [⟨.handle intent, .ok handled⟩]) = _
        rw [phase_append, Phase.step, stands, standing, standing]
        split <;> rfl
      · intro same evaluated unset
        exact ⟨⟨.handle intent, .ok handled⟩, List.mem_append_right _ List.mem_cons_self,
          same, evaluated, unset⟩

theorem obeys_evaluated (stands : phase id trace = standing id intent .handled) (state : State) :
    (Processor.publish intent .evaluated none).Obeys (conduct env id)
      (fun after _ failure => phase id after = standing id intent .handled ∧
        (failure ≠ none → intent.intentID = id → ∃ event ∈ after, Lost env id event)) trace state := by
  refine Program.Obeys.request fun later _ => ⟨trivial, fun outside after _ => ⟨?_, ?_⟩⟩
  · rw [phase_append]
    exact stands
  · intro failed same
    refine ⟨⟨.publish intent .evaluated none, outside⟩, List.mem_append_right _ List.mem_cons_self, ?_⟩
    cases outside with
    | none => exact absurd rfl failed
    | some => exact same

theorem settled_of_lost (stands : phase id trace = standing id intent .handled)
    (lost : intent.intentID = id → ∃ event ∈ trace, Lost env id event) : Settled env id trace := by
  intro handled
  by_cases same : intent.intentID = id
  · exact lost same
  · rw [stands, standing, if_neg same] at handled
    cases handled

theorem settles_reconcile (stands : phase id trace = standing id intent .checked) :
    Settles env id (reconcile env intent inProcess) trace := by
  intro state
  refine Program.Obeys.bind (fun _ => trivial) (obeys_handle stands state) ?_
  intro after state outcome _ answered
  cases outcome with
  | error => exact settles_still (still_handlerFailed _ _ _) answered state
  | ok =>
    obtain ⟨stands, lost⟩ := answered
    dsimp only
    split
    · rename_i evaluated
      split
      · refine Program.Obeys.bind (fun _ => trivial) (obeys_evaluated stands state) ?_
        rintro later state failure _ ⟨stands, lost⟩
        cases failure with
        | none => exact settles_conclude _ _ stands state
        | some => exact fun _ _ => settled_of_lost stands (lost nofun)
      · rename_i unset
        exact fun _ _ => settled_of_lost stands fun same =>
          lost same evaluated (Bool.eq_false_of_not_eq_true unset)
    · exact settles_conclude _ _ stands state

theorem settles_authorizeAndReconcile (stands : phase id trace = standing id intent .checked) :
    Settles env id (authorizeAndReconcile env intent inProcess) trace := by
  have free : phase id trace ≠ .handled := by
    rw [stands]
    exact standing_checked_ne id intent
  unfold authorizeAndReconcile
  split
  · exact settles_still (still_pure _) free
  refine settles_bind (still_request trivial) fun answer after same => ?_
  cases answer with
  | granted => exact settles_reconcile (same.trans stands)
  | refused | lacking =>
    exact settles_still (still_bind (still_notify _ _ _) fun _ => still_pure _) (by rwa [same])
  | untrusted => exact settles_still (still_pure _) (by rwa [same])

theorem obeys_isProcessed (out : phase id trace = .out) (state : State) :
    (Processor.isProcessed intent.intentID).Obeys (conduct env id)
      (fun after _ found => phase id after = if found then .out else standing id intent .checked)
      trace state := by
  refine Program.Obeys.request fun later _ => ⟨trivial, fun outside after _ => ?_⟩
  rw [phase_append, Phase.step, out, standing]
  dsimp only [conduct, serve]
  by_cases found : later.isProcessed env intent.intentID = true <;> simp [found]

section
variable (out : phase id trace = .out)
  (caches : intent.intentID = id → usesProcessedCache intent = true)
include out caches

theorem settles_deduplicate : Settles env id (deduplicate env intent inProcess) trace := by
  refine settles_bind (still_virtualizationReplay intent) fun fault after same => ?_
  rw [out] at same
  cases fault with
  | some => exact settles_still (still_pure _) (by rw [same]; nofun)
  | none =>
    dsimp only
    split
    · intro state
      refine Program.Obeys.bind (fun _ => trivial) (obeys_isProcessed same state) ?_
      intro later state found _ stands
      cases found with
      | true => exact settles_still (still_replay _ _) (by rw [stands]; nofun) state
      | false => exact settles_authorizeAndReconcile stands state
    · rename_i uncached
      refine settles_authorizeAndReconcile ?_
      rw [same, standing, if_neg fun this => uncached (caches this)]

theorem settles_process : Settles env id (process env intent inProcess) trace := by
  refine settles_bind (still_request trivial) fun incident after same => ?_
  rw [out] at same
  have free : phase id after ≠ .handled := by
    rw [same]
    nofun
  cases incident with
  | some => exact settles_still (still_pure _) free
  | none =>
    dsimp only
    split
    · exact settles_still (still_pure _) free
    split
    · exact settles_still (still_pure _) free
    · exact settles_deduplicate same caches

end

/-- Every call keeps to the conduct, if an intent with the id uses the cache. -/
theorem settles_body (task : Task)
    (caches : ∀ intent ∈ task.intent env, intent.intentID = id → usesProcessedCache intent = true) :
    Settles env id (task.body env) [] := by
  cases task with
  | relay =>
    refine settles_bind (still_request trivial) fun incident after same => ?_
    have free : phase id after ≠ .handled := by
      rw [same]
      nofun
    cases incident with
    | some => exact settles_still (still_pure _) free
    | none =>
      dsimp only
      split
      · exact settles_still (still_pure _) free
      rename_i decoded
      split
      · exact settles_still (still_rejectMalformed _ _) free
      split
      · exact settles_still (still_pure _) free
      refine settles_bind (still_plaintextRefusal _) fun refusal later kept => ?_
      cases refusal with
      | some => exact settles_still (still_pure _) (by rwa [kept])
      | none =>
        refine settles_process (kept.trans same) (caches _ ?_)
        rw [Task.intent, decoded]
        rfl
  | inProcess =>
    refine settles_bind (still_request trivial) fun incident after same => ?_
    have free : phase id after ≠ .handled := by
      rw [same]
      nofun
    cases incident with
    | some => exact settles_still (still_pure _) free
    | none =>
      dsimp only
      split
      · exact settles_still (still_pure _) free
      split
      · exact settles_still (still_pure _) free
      split
      · exact settles_still (still_bind (still_notify _ _ _) fun _ => still_pure _) free
      all_goals
        rename_i expected
        refine settles_process same (caches _ ?_)
        rw [Task.intent, expected]
        rfl

/-! ### Interleavings -/

def State.applications (id : String) (state : State) : Nat :=
  state.applied.countP (·.intentID = id)

abbrev Calls := Pool Request Response Reply State

/-- An id is checked only while no call is between its check and its mark, and every decision on it is
published. -/
def SerialAnswer (env : Environment) (id : String) (pool : Calls) (outside : Answers Request Outside) :
    Processor Reply → Prop
  | .done _ => True
  | .ask request _ => ∀ given ∈ outside request,
      (request = .isProcessed id → ∀ other ∈ pool.calls, callPhase id other = .out) ∧
        ¬ Lost env id ⟨request, (serve env pool.state request given).2⟩

/-- What keeps one application from being followed by another: every intent with the id uses the
cache, its calls are serial, and none is lost. -/
def Serial (env : Environment) (id : String) (pool : Calls) : Happening Task Request Outside → Prop
  | .start task => ∀ intent ∈ task.intent env, intent.intentID = id → usesProcessedCache intent = true
  | .answer index outside => ∀ call ∈ pool.calls[index]?, SerialAnswer env id pool outside call.rest
  | .crash _ => False

instance (env : Environment) (id : String) (event : Foundation.Event Request Response) :
    Decidable (Lost env id event) := by
  unfold Lost
  split <;> infer_instance

instance (env : Environment) (id : String) (pool : Calls) (outside : Answers Request Outside)
    (rest : Processor Reply) : Decidable (SerialAnswer env id pool outside rest) := by
  unfold SerialAnswer
  split <;> infer_instance

instance (env : Environment) (id : String) (pool : Calls) (happening : Happening Task Request Outside) :
    Decidable (Serial env id pool happening) := by
  cases happening <;> unfold Serial <;> infer_instance

theorem applications_markProcessed (state : State) (intent : Intent) (result : Option Data)
    (marker : Marker) :
    (state.markProcessed env intent result marker).applications id = state.applications id := by
  unfold State.markProcessed
  split <;> rfl

/-- What one answer does to a call and to the state; `asked` says that it answers a check. An id that is
processed stays so, and the mark of another id with its key makes it so. -/
inductive Move (env : Environment) (id : String) (asked : Prop) (before after : Phase)
    (state changed : State) : Prop
  | stay (processed : state.isProcessed env id = true → changed.isProcessed env id = true)
      (applied : changed.applications id = state.applications id)
      (same : after = before ∨ before = .checked ∧ after = .out)
  | check (checks : asked) (unprocessed : state.isProcessed env id = false) (unchanged : changed = state)
      (free : before = .out) (checked : after ≠ .handled)
  | handle (processed : changed.isProcessed env id = state.isProcessed env id)
      (applied : changed.applications id = state.applications id + 1)
      (checked : before = .checked) (handled : after = .handled)
  | mark (processed : changed.isProcessed env id = true)
      (applied : changed.applications id = state.applications id)
      (handled : before = .handled) (left : after = .out)

variable {call : Ongoing Request Response Reply} {state : State}

theorem callPhase_cases
    (settles : call.rest.Obeys (conduct env id) (fun after _ _ => Settled env id after) call.trace state)
    (kept : ∀ event ∈ call.trace, ¬ Lost env id event) :
    callPhase id call = phase id call.trace ∨
      callPhase id call = .out ∧ phase id call.trace ≠ .handled := by
  unfold callPhase
  split
  · rename_i returned
    right
    refine ⟨rfl, fun handled => ?_⟩
    rw [returned] at settles
    obtain ⟨event, member, lost⟩ := settles state trivial handled
    exact kept event member lost
  · exact .inl rfl

section Advance

theorem Move.of_same (processed : state.isProcessed env id = true → changed.isProcessed env id = true)
    (applied : changed.applications id = state.applications id)
    (reached : after = before ∨ after = .out ∧ before ≠ .handled) :
    Move env id asked before after state changed := by
  refine .stay processed applied ?_
  rcases reached with same | ⟨left, free⟩
  · exact .inl same
  cases before with
  | out => exact .inl left
  | checked => exact .inr ⟨rfl, left⟩
  | handled => exact absurd rfl free

theorem move_of_serve (named : id ≠ "") (guarded : (conduct env id).guard trace state request)
    (stepped : (phase id trace).step id ⟨request, (serve env state request given).2⟩ = moved)
    (reached : after = moved ∨ after = .out ∧ moved ≠ .handled) :
    Move env id (request = .isProcessed id) (phase id trace) after state
      (serve env state request given).1 := by
  cases request with
  | handle intent =>
    cases given with
    | error =>
      subst stepped
      exact .of_same (fun held => held) rfl reached
    | ok =>
      by_cases same : intent.intentID = id
      · obtain rfl : moved = .handled := stepped.symm.trans (if_pos same)
        refine .handle rfl ?_ (guarded same) (reached.resolve_right fun wrong => wrong.2 rfl)
        simp [serve, State.applications, same]
      · obtain rfl : moved = phase id trace := stepped.symm.trans (if_neg same)
        refine .of_same (fun held => held) ?_ reached
        simp [serve, State.applications, same]
  | markProcessed intent =>
    by_cases same : intent.intentID = id
    · obtain rfl : moved = .out := stepped.symm.trans (if_pos same)
      refine .mark ?_ (applications_markProcessed _ _ _ _) (guarded same)
        (reached.elim (fun left => left) And.left)
      rw [serve, State.isProcessed_markProcessed _ named]
      simp [same, named]
    · obtain rfl : moved = phase id trace := stepped.symm.trans (if_neg same)
      refine .of_same (fun held => ?_) (applications_markProcessed _ _ _ _) reached
      rw [serve, State.isProcessed_markProcessed _ named, held, Bool.or_true]
  | isProcessed asked =>
    by_cases found : asked = id ∧ state.isProcessed env asked = false ∧ phase id trace = .out
    · obtain rfl : moved = .checked := stepped.symm.trans (if_pos found)
      obtain ⟨rfl, unprocessed, out⟩ := found
      refine .check rfl unprocessed rfl out ?_
      rcases reached with checked | ⟨left, _⟩
      · rw [checked]
        rintro ⟨⟩
      · rw [left]
        rintro ⟨⟩
    · obtain rfl : moved = phase id trace := stepped.symm.trans (if_neg found)
      exact .of_same (fun held => held) rfl reached
  | _ =>
    subst stepped
    exact .of_same (fun held => held) rfl reached

end Advance

theorem advance_move (named : id ≠ "")
    (settles : call.rest.Obeys (conduct env id) (fun after _ _ => Settled env id after) call.trace state)
    (kept : ∀ event ∈ (call.advance (serve env) state outside).2.trace, ¬ Lost env id event) :
    Move env id (∃ next, call.rest = .ask (.isProcessed id) next ∧ (outside (.isProcessed id)).isSome)
      (callPhase id call) (callPhase id (call.advance (serve env) state outside).2) state
      (call.advance (serve env) state outside).1 := by
  have settled := callPhase_cases (Ongoing.obeys_advance (fun _ => trivial) settles outside) kept
  obtain ⟨trace, rest⟩ := call
  cases rest with
  | done => exact .stay (fun held => held) rfl (.inl rfl)
  | ask request next =>
    cases answered : outside request with
    | none =>
      simp only [Ongoing.advance, answered]
      exact .stay (fun held => held) rfl (.inl rfl)
    | some =>
      simp only [Ongoing.advance, conduct, answered, phase_append] at settled ⊢
      have moved := move_of_serve named (settles state trivial).1 rfl settled
      cases moved with
      | stay processed applied same => exact .stay processed applied same
      | handle processed applied checked handled => exact .handle processed applied checked handled
      | mark processed applied handled left => exact .mark processed applied handled left
      | check checks unprocessed unchanged free checked =>
        subst checks
        exact .check ⟨next, rfl, by rw [answered]; rfl⟩ unprocessed unchanged free checked

/-- The invariant of the pool: the handler has succeeded or a call is about to run it, and not both or
twice; while the id is unprocessed, its successes are those of the calls that are about to mark it. -/
structure Once (env : Environment) (id : String) (pool : Calls) : Prop where
  settles : ∀ call ∈ pool.calls,
    call.rest.Obeys (conduct env id) (fun after _ _ => Settled env id after) call.trace pool.state
  kept : ∀ call ∈ pool.calls, ∀ event ∈ call.trace, ¬ Lost env id event
  few : pool.state.applications id + pool.calls.countP (callPhase id · = .checked) ≤ 1
  unmarked : pool.state.isProcessed env id = false →
    pool.state.applications id = pool.calls.countP (callPhase id · = .handled)

theorem once_start (once : Once env id pool) (task : Task)
    (caches : ∀ intent ∈ task.intent env, intent.intentID = id → usesProcessedCache intent = true) :
    Once env id { pool with calls := pool.calls ++ [⟨[], task.body env⟩] } := by
  have free : callPhase id ⟨[], task.body env⟩ = .out := by
    unfold callPhase
    split <;> rfl
  refine ⟨?_, ?_, ?_, ?_⟩
  · intro call member
    rcases List.mem_append.mp member with old | new
    · exact once.settles call old
    · cases List.mem_singleton.mp new
      exact settles_body task caches pool.state
  · intro call member
    rcases List.mem_append.mp member with old | new
    · exact once.kept call old
    · cases List.mem_singleton.mp new
      exact fun _ absent => nomatch absent
  · simpa [List.countP_append, free] using once.few
  · simpa [List.countP_append, free] using once.unmarked

theorem once_counts {calls : List (Ongoing Request Response Reply)}
    (found : calls[index]? = some call)
    (moved : Move env id asked (callPhase id call) (callPhase id advanced) state changed)
    (alone : asked → ∀ other ∈ calls, callPhase id other = .out)
    (few : state.applications id + calls.countP (callPhase id · = .checked) ≤ 1)
    (unmarked : state.isProcessed env id = false →
      state.applications id = calls.countP (callPhase id · = .handled)) :
    changed.applications id + (calls.set index advanced).countP (callPhase id · = .checked) ≤ 1 ∧
      (changed.isProcessed env id = false →
        changed.applications id = (calls.set index advanced).countP (callPhase id · = .handled)) := by
  obtain ⟨bound, here⟩ := List.getElem?_eq_some_iff.mp found
  have member : call ∈ calls := List.mem_of_getElem? found
  have counted (phase : Phase) (stands : callPhase id call = phase) :
      0 < calls.countP (callPhase id · = phase) :=
    List.countP_pos_iff.mpr ⟨call, member, by simpa using stands⟩
  rw [List.countP_set bound, List.countP_set bound, here]
  cases moved with
  | stay processed applied same =>
    rw [applied]
    have unheld : changed.isProcessed env id = false → state.isProcessed env id = false := by
      simpa using mt processed
    rcases same with same | ⟨checked, left⟩
    · rw [same]
      cases stands : callPhase id call <;> have busy := counted _ stands <;> simp <;> grind
    · simp [checked, left]
      grind
  | check checks unprocessed unchanged free checked =>
    have idle (phase : Phase) (busy : phase ≠ .out) : calls.countP (callPhase id · = phase) = 0 := by
      rw [List.countP_eq_zero]
      intro other listed
      simp [alone checks other listed, Ne.symm busy]
    have none := idle .checked nofun
    have unheld := idle .handled nofun
    rw [unchanged, unprocessed, free]
    cases reached : callPhase id advanced <;> simp [reached] at checked ⊢ <;> grind
  | handle processed applied checked handled =>
    have busy := counted _ checked
    rw [processed, applied]
    simp [checked, handled]
    grind
  | mark processed applied handled left =>
    rw [processed, applied]
    simp [handled, left]
    omega

theorem kept_advance
    (kept : ∀ event ∈ call.trace, ¬ Lost env id event)
    (answered : ∀ request next, call.rest = .ask request next → ∀ given ∈ outside request,
      ¬ Lost env id ⟨request, (serve env state request given).2⟩) :
    ∀ event ∈ (call.advance (serve env) state outside).2.trace, ¬ Lost env id event := by
  unfold Ongoing.advance
  split
  · exact kept
  rename_i request next asks
  split
  · exact kept
  rename_i given answer
  intro event member
  rcases List.mem_append.mp member with old | new
  · exact kept event old
  · cases List.mem_singleton.mp new
    exact answered request next asks given answer

theorem once_next (named : id ≠ "") (once : Once env id pool)
    (serial : Serial env id pool happening) :
    Once env id (pool.next (serve env) (Task.body env) happening) := by
  cases happening with
  | start task => exact once_start once task serial
  | crash => exact serial.elim
  | answer index outside =>
    rw [Pool.next, Pool.answer]
    split
    · exact once
    rename_i call found
    have member := List.mem_of_getElem? found
    have settles := once.settles call member
    have ordered := serial call found
    have kept := kept_advance (once.kept call member) fun request next asks given answer => by
      rw [asks] at ordered
      exact (ordered given answer).2
    have counts := once_counts found (advance_move named settles kept) ?_ once.few once.unmarked
    · refine ⟨?_, ?_, counts.1, counts.2⟩
      · intro other listed
        rcases List.mem_or_eq_of_mem_set listed with old | rfl
        · exact (once.settles other old).later (fun _ _ _ _ _ => trivial) trivial
        · exact Ongoing.obeys_advance (fun _ => trivial) settles outside
      · intro other listed
        rcases List.mem_or_eq_of_mem_set listed with old | rfl
        · exact once.kept other old
        · exact kept
    · rintro ⟨next, asks, answered⟩
      obtain ⟨given, answer⟩ := Option.isSome_iff_exists.mp answered
      rw [asks] at ordered
      exact (ordered given answer).1 rfl

/-- As long as the calls of an id are serial, its handler succeeds at most once. -/
theorem applied_at_most_once (env : Environment) (id : String) (named : id ≠ "")
    (happenings : List (Happening Task Request Outside))
    (serial : Throughout (Pool.next (serve env) (Task.body env)) (Serial env id) ⟨State.initial, []⟩
      happenings) :
    (happenings.foldl (Pool.next (serve env) (Task.body env)) ⟨State.initial, []⟩).state.applications id
      ≤ 1 := by
  have once : Once env id
      (happenings.foldl (Pool.next (serve env) (Task.body env)) ⟨State.initial, []⟩) := by
    have keeps : ∀ (pool : Calls) (happening : Happening Task Request Outside), Once env id pool →
        Serial env id pool happening → Once env id (pool.next (serve env) (Task.body env) happening) :=
      fun _ _ once serial => once_next named once serial
    refine foldl_guarded keeps ?_ serial
    refine ⟨fun _ absent => (nomatch absent), fun _ absent => (nomatch absent), ?_, ?_⟩ <;>
      simp [State.applications, State.initial]
  exact le_of_add_le_left once.few

def answered (index times : Nat) : List (Happening Task Request Outside) :=
  List.replicate times (.answer index fun request => some (calmly none 1 zeroID request))

def scaleIntent : Intent :=
  ⟨none, "service", "update", "org", "1", "api", { data := "scale" }, none, "alice"⟩

/-- An intent and its retry, one after the other. -/
theorem applied_at_most_once_retried :
    let env := Environment.permissive
    let happenings := .start (.inProcess scaleIntent) :: answered 0 7 ++
      .start (.inProcess scaleIntent) :: answered 1 7
    (happenings.foldl (Pool.next (serve env) (Task.body env)) ⟨State.initial, []⟩).state.applications "1"
      ≤ 1 :=
  applied_at_most_once .permissive "1" (by decide) _ (by decide +kernel)

/-- A relay event and an in-process call of one intent: both check before either is handled. -/
theorem relay_and_inProcess_applied_twice :
    let env := Environment.permissive
    let event : Event := ⟨zeroID, FixedBytes.ofByte 31 2, 9, 30900,
      [["t", "bahia-intent"], ["d", "api"], ["domain", "service"], ["org", "org"], ["intent_id", "1"]],
      "scale", .zero 64⟩
    let happenings := [.start (.relay event), .start (.inProcess scaleIntent)] ++ answered 0 3 ++
      answered 1 3 ++ answered 0 4 ++ answered 1 4
    let pool : Calls := happenings.foldl (Pool.next (serve env) (Task.body env)) ⟨State.initial, []⟩
    usesProcessedCache scaleIntent = true ∧ pool.state.isProcessed env "1" = true ∧
      pool.state.applications "1" = 2 := by
  decide +kernel

end Bahia.Controlplane
