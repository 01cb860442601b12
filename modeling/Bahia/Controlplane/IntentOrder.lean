import Bahia.Foundation.Latest
import Bahia.LocalStore.Replica
import Bahia.LocalStore.Undelivered
import Bahia.Controlplane.IntentScope

/-! Intents from many authors for one coordinate, through the store's latest-wins gate: which one the
handler gets last. -/

namespace Bahia.Controlplane
open Foundation Nostr Boltcoord List

structure Node where
  store : Localstore.Store
  processor : State

def Node.initial : Node := ⟨.empty, .initial⟩

variable (env : Environment) (gate : Localstore.Environment) (own : String)

def applyEvent (event : Event) : Processor Reply :=
  if PubKey.hex event.pubKey = own then return .dropped
  else do
    if ← Processor.known (PubKey.hex event.pubKey) then processRelayIntent env event
    else return .dropped

/-- An event arrives; the processor sees it only if the store reports it as new. -/
def Node.arrive (node : Node) (event : Event) (outside : (request : Request) → Outside request) : Node :=
  match gate.saveEvent node.store event with
  | (store, .ok true) => ⟨store, ((applyEvent env own event).exec (serve env) outside node.processor).2⟩
  | (store, _) => ⟨store, node.processor⟩

/-- A valid and authorised intent for the coordinate, whose handler succeeds. -/
structure Arrival (coordinate : String) where
  event : Event
  outside : (request : Request) → Outside request
  intent : Intent
  kind : event.kind = 30900
  foreign : PubKey.hex event.pubKey ≠ own
  brought : (Task.relay event).intent env = some intent
  placed : intent.coordinate = coordinate
  admitted : validateAdmission env intent = none
  plain : env.sensitive.contains intent.domain = false
  enabled : env.enabled intent.domain = true
  registered : env.registered intent.domain = true
  checked : precheck env intent = none
  uncontained : ∀ again, outside (.contained again) = none
  known : outside (.known (PubKey.hex event.pubKey)) = true
  granted : outside (.authorize intent) = .granted
  succeeds : ∃ handled, outside (.handle intent) = .ok handled

variable {env gate own} {coordinate : String}

variable {intent : Intent}
  {last : Option (Arrival env own coordinate)} {node : Node}

theorem tagged_coordinate (read : Intent.tagged decoders intent tag = .ok tagged) :
    tagged.coordinate = intent.coordinate ∨ Tags.containsAny [tag] "d" [tagged.coordinate] = true := by
  unfold Intent.tagged at read
  split at read
  · cases read
    exact .inr (by simp [Tags.containsAny])
  · cases read
    exact .inl rfl
  · cases read
    exact .inl rfl
  · obtain ⟨orgID, _, rfl⟩ := map_ok_iff.mp read
    exact .inl rfl
  · cases read
    exact .inl rfl
  · cases read
    exact .inl rfl

theorem containsAny_mem (member : tag ∈ tags) (carries : Tags.containsAny [tag] name [value] = true) :
    Tags.containsAny tags name [value] = true := by
  rw [Tags.containsAny, any_eq_true] at carries ⊢
  obtain ⟨same, single, carried⟩ := carries
  cases mem_singleton.mp single
  exact ⟨tag, member, carried⟩

theorem parseIntent_read (parsed : parseIntent decoders event = .ok (intent, fault)) :
    intent.intentID ≠ "" ∧ Tags.containsAny event.tags "d" [intent.coordinate] = true := by
  simp only [parseIntent, bind_ok_iff, refuse_ok_iff] at parsed
  obtain ⟨_, _, _, _, tagged, folded, _, placed, _, _, _, named, _, _, finished⟩ := parsed
  have read : tagged.coordinate = "" ∨ Tags.containsAny event.tags "d" [tagged.coordinate] = true := by
    refine (foldlM_ok_induction (fun state rest => rest ⊆ event.tags ∧ (state.coordinate = "" ∨
      Tags.containsAny event.tags "d" [state.coordinate] = true)) ?_ ⟨List.Subset.refl _, .inl rfl⟩
      folded).2
    rintro state tag rest next ⟨inside, held⟩ stepped
    refine ⟨fun _ member => inside (mem_cons_of_mem _ member), ?_⟩
    rcases tagged_coordinate stepped with same | carries
    · rwa [same]
    · exact .inr (containsAny_mem (inside mem_cons_self) carries)
  have kept : intent.intentID = tagged.intentID ∧ intent.coordinate = tagged.coordinate := by
    split at finished
    all_goals
      obtain ⟨content, _, finished⟩ := bind_ok_iff.mp finished
      split at finished <;> cases finished <;> exact ⟨rfl, rfl⟩
  rw [kept.1, kept.2]
  exact ⟨by simpa using named, read.resolve_left (by simpa using placed)⟩

namespace Arrival
variable (arrival : Arrival env own coordinate)

theorem parsed : ∃ parsed, parseIntent env.decoders arrival.event = .ok (parsed, none) ∧
    arrival.intent = { parsed with actor := PubKey.hex arrival.event.pubKey } := by
  have brought := arrival.brought
  unfold Task.intent at brought
  dsimp only at brought
  split at brought
  · rename_i parsed decoded
    exact ⟨parsed, decoded, (Option.some.inj brought).symm⟩
  · cases brought

section
variable (single : SingleD arrival.event.tags)
include single

theorem getD_tags : Tags.getD arrival.event.tags = coordinate := by
  obtain ⟨parsed, decoded, same⟩ := arrival.parsed
  have read := single _ (parseIntent_read decoded).2
  rw [read, ← arrival.placed, same]

theorem coordinateOf_event :
    coordinateOf arrival.event = newCoordinate 30900 arrival.event.pubKey coordinate := by
  have read := arrival.getD_tags single
  rw [Tags.getD] at read
  rw [coordinateOf, arrival.kind, Tags.getD, read]

end

end Arrival

/-! ### The handler's turn -/

section Handed
variable {outside : (request : Request) → Outside request} {state : State} {intent : Intent}

theorem exec_notify (status : Status) (data : Option Data) :
    ((notify env intent status data).exec (serve env) outside state).2 = state := by
  unfold notify
  split <;> rfl

theorem conclude_state (outside : (request : Request) → Outside request) (state : State)
    (intent : Intent) (result : Option Data) (evaluated : Bool) :
    ((conclude env intent result evaluated).exec (serve env) outside state).2 =
      state.markProcessed env intent result ⟨(outside (.markProcessed intent result)).1,
        (outside (.markProcessed intent result)).2, recordOf env.contentHash intent result⟩ := by
  rw [conclude, Program.exec_bind]
  split
  · rfl
  split
  · rw [Program.exec_bind]
    split <;> rfl
  split
  · rfl
  · rw [Program.exec_bind, exec_notify]
    rfl

/-- What a call leaves whose handler succeeded: the intent is applied, and no other key is marked. -/
def Applied (env : Environment) (intent : Intent) (state after : State) : Prop :=
  after.applied = intent :: state.applied ∧ ∀ id, after.isProcessed env id = true →
    env.markerKey intent.intentID = env.markerKey id ∨ state.isProcessed env id = true

theorem applied_conclude (result : Option Data) (evaluated : Bool) :
    Applied env intent state ((conclude env intent result evaluated).exec (serve env) outside
      { state with applied := intent :: state.applied }).2 := by
  rw [conclude_state]
  constructor
  · unfold State.markProcessed
    split <;> rfl
  · intro id processed
    by_cases named : id = ""
    · rw [named] at processed
      cases processed
    · rw [State.isProcessed_markProcessed env named, Bool.or_eq_true, decide_eq_true_eq] at processed
      exact processed.imp And.right fun old => old

theorem applied_reconcile (succeeds : outside (.handle intent) = .ok handled) :
    Applied env intent state ((reconcile env intent false).exec (serve env) outside state).2 := by
  have unmarked : Applied env intent state { state with applied := intent :: state.applied } :=
    ⟨rfl, fun _ processed => .inr processed⟩
  simp only [reconcile, Processor.handle, Program.exec_bind, Program.exec_request, serve, succeeds]
  split
  · split
    · rw [Program.exec_bind]
      split
      · exact unmarked
      · exact applied_conclude _ _
    · exact unmarked
  · exact applied_conclude _ _

theorem virtualizationReplay_fresh (fresh : state.isProcessed env intent.intentID = false) :
    (virtualizationReplay env intent).exec (serve env) outside state = (none, state) := by
  unfold virtualizationReplay
  split
  · simp only [Processor.alreadyProcessed, Program.exec_bind, Program.exec_request, serve, fresh,
      Bool.false_eq_true, if_false, Program.exec_pure]
  · rfl

/-- The intent is not processed yet and passes every check before its handler. -/
structure Ready (env : Environment) (outside : (request : Request) → Outside request) (state : State)
    (intent : Intent) : Prop where
  fresh : state.isProcessed env intent.intentID = false
  registered : env.registered intent.domain = true
  granted : outside (.authorize intent) = .granted
  succeeds : ∃ handled, outside (.handle intent) = .ok handled

section
variable (ready : Ready env outside state intent)
include ready

theorem Ready.authorized :
    Applied env intent state ((authorizeAndReconcile env intent false).exec (serve env) outside state).2 := by
  obtain ⟨handled, succeeds⟩ := ready.succeeds
  simp only [authorizeAndReconcile, ready.registered, Bool.true_eq_false, if_false, Program.exec_bind,
    Processor.authorize, Program.exec_request, serve, ready.granted]
  exact applied_reconcile succeeds

theorem Ready.deduplicated :
    Applied env intent state ((deduplicate env intent false).exec (serve env) outside state).2 := by
  rw [deduplicate, Program.exec_bind, virtualizationReplay_fresh ready.fresh]
  dsimp only
  split
  · simp only [Processor.isProcessed, Program.exec_bind, Program.exec_request, serve, ready.fresh,
      Bool.false_eq_true, if_false]
    exact ready.authorized
  · exact ready.authorized

theorem Ready.processed
    (uncontained : outside (.contained true) = none) (enabled : env.enabled intent.domain = true)
    (checked : precheck env intent = none) :
    Applied env intent state ((process env intent false).exec (serve env) outside state).2 := by
  simp only [process, Processor.contained, Program.exec_bind, Program.exec_request, serve, uncontained,
    enabled, Bool.true_eq_false, if_false, checked]
  exact ready.deduplicated

end

end Handed

theorem Arrival.applied (arrival : Arrival env own coordinate)
    (fresh : state.isProcessed env arrival.intent.intentID = false) :
    Applied env arrival.intent state
      ((applyEvent env own arrival.event).exec (serve env) arrival.outside state).2 := by
  obtain ⟨parsed, decoded, same⟩ := arrival.parsed
  have ready : Ready env arrival.outside state arrival.intent :=
    ⟨fresh, arrival.registered, arrival.granted, arrival.succeeds⟩
  have turn := ready.processed (arrival.uncontained true) arrival.enabled arrival.checked
  have unrefused : (plaintextRefusal env arrival.intent).exec (serve env) arrival.outside state =
      (none, state) := by
    rw [plaintextRefusal, arrival.plain, if_neg Bool.false_ne_true]
    rfl
  have admitted := arrival.admitted
  rw [same] at turn unrefused admitted ⊢
  simp only [applyEvent, if_neg arrival.foreign, Processor.known, Program.exec_bind,
    Program.exec_request, serve, arrival.known, if_true, processRelayIntent, Processor.contained,
    arrival.uncontained, decoded, admitted, unrefused]
  exact turn

/-! ### The gate -/

/-- Every earlier arrival of the same author is older, so that the store lets this one through. -/
def Arrival.Passes (arrival : Arrival env own coordinate) (seen : List (Arrival env own coordinate)) :
    Prop :=
  ∀ earlier ∈ seen, earlier.event.pubKey = arrival.event.pubKey →
    earlier.event.rank < arrival.event.rank

instance (arrival : Arrival env own coordinate) (seen : List (Arrival env own coordinate)) :
    Decidable (arrival.Passes seen) := by
  unfold Arrival.Passes
  infer_instance

def lastHanded : List (Arrival env own coordinate) → List (Arrival env own coordinate) →
    Option (Arrival env own coordinate) → Option (Arrival env own coordinate)
  | _, [], last => last
  | seen, arrival :: rest, last =>
    lastHanded (seen ++ [arrival]) rest (if arrival.Passes seen then some arrival else last)

def eventsOf (arrivals : List (Arrival env own coordinate)) : Set Event :=
  {event | ∃ arrival ∈ arrivals, arrival.event = event}

theorem eventsOf_snoc (arrivals : List (Arrival env own coordinate))
    (arrival : Arrival env own coordinate) :
    eventsOf (arrivals ++ [arrival]) = insert arrival.event (eventsOf arrivals) := by
  ext event
  simp [eventsOf, or_and_right, exists_or, or_comm, eq_comm]

variable {arrivals seen rest : List (Arrival env own coordinate)}

theorem eventsOf_admissible (readable : Localstore.Readable gate (eventsOf arrivals))
    (distinct : (arrivals.map (·.event.id)).Nodup) : Localstore.Admissible (eventsOf arrivals) := by
  have plain : ∀ event ∈ eventsOf arrivals, event.kind ≠ kindDeletion := by
    rintro _ ⟨arrival, _, rfl⟩
    rw [arrival.kind]
    decide
  refine ⟨?_, readable.single, ?_, ?_⟩
  · rintro _ ⟨first, one, rfl⟩ _ ⟨second, other, rfl⟩ same
    rw [inj_on_of_nodup_map distinct one other same]
  · exact fun request member deletes => absurd deletes (plain request member)
  · exact fun request member deletes => absurd deletes (plain request member)

theorem requestsOf_events (arrivals : List (Arrival env own coordinate)) :
    Localstore.requestsOf (eventsOf arrivals) = ∅ := by
  ext event
  simp only [Localstore.requestsOf, Set.mem_ofPred_eq, Set.mem_empty_iff_false, iff_false, not_and]
  rintro ⟨arrival, _, rfl⟩
  rw [arrival.kind]
  decide

structure Following (gate : Localstore.Environment) (seen : List (Arrival env own coordinate))
    (last : Option (Arrival env own coordinate)) (node : Node) : Prop where
  replica : Localstore.Replica gate (eventsOf seen) node.store
  processed : ∀ id, node.processor.isProcessed env id = true → ∃ arrival ∈ seen,
    env.markerKey arrival.intent.intentID = env.markerKey id
  handed : node.processor.applied.head? = last.map (·.intent)

theorem Following.start :
    Following gate ([] : List (Arrival env own coordinate)) none Node.initial := by
  refine ⟨?_, ?_, rfl⟩
  · have none : eventsOf ([] : List (Arrival env own coordinate)) = ∅ := by simp [eventsOf]
    rw [none]
    exact Localstore.replica_empty gate
  · intro id processed
    simp [Node.initial, State.isProcessed, State.initial] at processed

section Arrivals
variable (ids : (arrivals.map (·.event.id)).Nodup)
  (intents : (arrivals.map (env.markerKey ·.intent.intentID)).Nodup)

section Next
variable {last : Option (Arrival env own coordinate)} {arrival : Arrival env own coordinate}
variable (following : Following gate seen last node) (inside : seen ⊆ arrivals)
  (here : arrival ∈ arrivals) (unseen : arrival ∉ seen)
include following inside here unseen

include intents in
theorem Following.unprocessed : node.processor.isProcessed env arrival.intent.intentID = false := by
  rw [Bool.eq_false_iff]
  intro processed
  obtain ⟨other, member, same⟩ := following.processed _ processed
  rw [inj_on_of_nodup_map intents (inside member) here same] at member
  exact unseen member

include ids in
/-- The store takes an arrival for new exactly if it passes. -/
theorem Following.new_iff (readable : Localstore.Readable gate (eventsOf arrivals))
    (admitting : ∀ event, gate.admission event = none) :
    (gate.saveEvent node.store arrival.event).2 = .ok true ↔ arrival.Passes seen := by
  have subset : eventsOf seen ⊆ eventsOf arrivals := by
    rintro _ ⟨other, member, rfl⟩
    exact ⟨other, inside member, rfl⟩
  have state : Kind.isState arrival.event.kind = true := by
    rw [arrival.kind]
    decide
  have single {arrival : Arrival env own coordinate} (listed : arrival ∈ arrivals) :
      SingleD arrival.event.tags :=
    readable.single _ ⟨arrival, listed, rfl⟩ (by rw [arrival.kind]; decide)
  have placed {earlier : Arrival env own coordinate} (member : earlier ∈ seen) :
      coordinateOf earlier.event = coordinateOf arrival.event ↔
        earlier.event.pubKey = arrival.event.pubKey := by
    rw [earlier.coordinateOf_event (single (inside member)), arrival.coordinateOf_event (single here)]
    exact ⟨congrArg Coordinate.author, fun same => by rw [same]⟩
  rw [following.replica.save_new_iff readable admitting (eventsOf_admissible readable ids) subset
    ⟨arrival, here, rfl⟩ state ?_ (requestsOf_events seen)]
  · constructor
    · exact fun newest earlier member same => newest _ ⟨earlier, member, rfl⟩ ((placed member).mpr same)
    · rintro passes _ ⟨earlier, member, rfl⟩ same
      exact passes earlier member ((placed member).mp same)
  · rintro ⟨other, member, same⟩
    rw [inj_on_of_nodup_map ids (inside member) here (congrArg Event.id same)] at member
    exact unseen member

end Next

variable (readable : Localstore.Readable gate (eventsOf arrivals))
  (admitting : ∀ event, gate.admission event = none)
include readable admitting ids intents

theorem Following.arrive (following : Following gate seen last node)
    (split : arrivals = seen ++ arrival :: rest) :
    Following gate (seen ++ [arrival]) (if arrival.Passes seen then some arrival else last)
      (node.arrive env gate own arrival.event arrival.outside) := by
  have inside : seen ⊆ arrivals := by
    rw [split]
    exact subset_append_left _ _
  have here : arrival ∈ arrivals := by
    rw [split]
    exact mem_append_right _ mem_cons_self
  have unseen : arrival ∉ seen := by
    intro member
    have apart := Nodup.of_map _ ids
    rw [split] at apart
    exact (disjoint_of_nodup_append apart) member mem_cons_self
  have subset : eventsOf seen ⊆ eventsOf arrivals := by
    rintro _ ⟨other, member, rfl⟩
    exact ⟨other, inside member, rfl⟩
  have replica := following.replica.save readable admitting (eventsOf_admissible readable ids) subset
    ⟨arrival, here, rfl⟩
  rw [← eventsOf_snoc] at replica
  have passes := following.new_iff ids inside here unseen readable admitting
  have fresh := following.unprocessed intents inside here unseen
  cases saved : gate.saveEvent node.store arrival.event with
  | mk store outcome =>
    rw [saved] at replica passes
    by_cases holds : arrival.Passes seen
    · obtain rfl : outcome = .ok true := passes.mpr holds
      obtain ⟨applied, processed⟩ := arrival.applied fresh
      rw [if_pos holds, Node.arrive, saved]
      refine ⟨replica, ?_, by simp [applied]⟩
      intro id marked
      rcases processed id marked with same | old
      · exact ⟨arrival, mem_append_right _ mem_cons_self, same⟩
      · obtain ⟨other, member, same⟩ := following.processed id old
        exact ⟨other, mem_append_left _ member, same⟩
    · have kept : node.arrive env gate own arrival.event arrival.outside = ⟨store, node.processor⟩ := by
        rw [Node.arrive, saved]
        split
        · rename_i same
          cases same
          exact absurd (passes.mp rfl) holds
        · rename_i same
          cases same
          rfl
      rw [if_neg holds, kept]
      refine ⟨replica, ?_, following.handed⟩
      intro id marked
      obtain ⟨other, member, same⟩ := following.processed id marked
      exact ⟨other, mem_append_left _ member, same⟩

/-- The handler's last intent is that of the last arrival that passes. -/
theorem Following.arriveAll (following : Following gate seen last node) (whole : arrivals = seen ++ rest) :
    Following gate arrivals (lastHanded seen rest last)
      (rest.foldl (fun node arrival => node.arrive env gate own arrival.event arrival.outside) node) := by
  induction rest generalizing seen last node with
  | nil =>
    rw [append_nil] at whole
    rw [whole]
    exact following
  | cons arrival rest ih =>
    exact ih (following.arrive ids intents readable admitting whole) (by simp [whole])

end Arrivals

/-! ### Which arrival is the last -/

theorem lastHanded_append (seen first second : List (Arrival env own coordinate))
    (last : Option (Arrival env own coordinate)) :
    lastHanded seen (first ++ second) last =
      lastHanded (seen ++ first) second (lastHanded seen first last) := by
  induction first generalizing seen last with
  | nil => simp [lastHanded]
  | cons arrival rest ih => simp [lastHanded, ih]

theorem lastHanded_mem
    {last found : Arrival env own coordinate} (handed : lastHanded seen rest (some last) = some found) :
    found = last ∨ found ∈ rest := by
  induction rest generalizing seen last with
  | nil => exact .inl (Option.some.inj handed).symm
  | cons arrival rest ih =>
    rw [lastHanded] at handed
    split at handed
    · rcases ih handed with rfl | member
      · exact .inr mem_cons_self
      · exact .inr (mem_cons_of_mem _ member)
    · exact (ih handed).imp_right (mem_cons_of_mem _)

theorem lastHanded_eq_iff {last : Arrival env own coordinate} (gone : last ∉ rest) :
    lastHanded seen rest (some last) = some last ↔
      ∀ first arrival second, rest = first ++ arrival :: second → ¬ arrival.Passes (seen ++ first) := by
  induction rest generalizing seen with
  | nil => simp [lastHanded]
  | cons arrival rest ih =>
    rw [mem_cons, not_or] at gone
    rw [lastHanded]
    by_cases passes : arrival.Passes seen
    · rw [if_pos passes]
      refine iff_of_false ?_ fun none => none [] arrival rest rfl (by simpa using passes)
      intro handed
      exact (lastHanded_mem handed).elim gone.1 gone.2
    · rw [if_neg passes, ih gone.2]
      constructor
      · intro none first other second split
        cases first with
        | nil =>
          cases split
          simpa using passes
        | cons head first =>
          cases split
          simpa using none first other second rfl
      · intro none first other second split
        simpa using none (arrival :: first) other second (by rw [split]; rfl)

def serviceEvent (author : Byte) (createdAt : Timestamp) (intentID : String) : Event :=
  ⟨sampleID author, FixedBytes.ofByte 31 author, createdAt, 30900,
    [["t", "bahia-intent"], ["d", "api"], ["domain", "service"], ["org", "org"], ["intent_id", intentID]],
    "", .zero 64⟩

def serviceIntent (author : Byte) (createdAt : Timestamp) (intentID : String) : Intent :=
  ⟨some (serviceEvent author createdAt intentID), "service", "update", "org", intentID, "api",
    { data := "" }, none, PubKey.hex (FixedBytes.ofByte 31 author)⟩

def serviceArrival (author : Byte) (createdAt : Timestamp) (intentID : String)
    (brought : (Task.relay (serviceEvent author createdAt intentID)).intent .permissive =
      some (serviceIntent author createdAt intentID)) : Arrival .permissive "daemon" "api" where
  event := serviceEvent author createdAt intentID
  outside := calmly none 1 zeroID
  intent := serviceIntent author createdAt intentID
  kind := rfl
  foreign := by
    intro same
    have size := congrArg String.utf8ByteSize same
    rw [PubKey.hex, hex_utf8ByteSize, (serviceEvent author createdAt intentID).pubKey.property] at size
    exact absurd size (by decide)
  brought := brought
  placed := rfl
  admitted := rfl
  plain := rfl
  enabled := rfl
  registered := rfl
  checked := rfl
  uncontained := fun _ => rfl
  known := rfl
  granted := rfl
  succeeds := ⟨_, rfl⟩

end Bahia.Controlplane
