import Bahia.Foundation.Calls
import Bahia.Controlplane.Intent

/-! The pipeline of signed relay and in-process intents. A call is a program that asks the trust set,
the processed cache, the domain handler and the status publisher. -/

namespace Bahia.Controlplane
open Foundation Nostr

inductive Reason where
  | virtualizationPending
  | backupRunPending
  | backupRunAdmissionConflict
  | toolApprovalAuthority
  | superseded
  | revisionConflict
  | stateConflict
  | other
  deriving DecidableEq

/-- A handler's error, with the reason that may be published of it for a secret. -/
structure HandlerError where
  reason : Reason
  text : String
  publicReason : String

def HandlerError.isConflict (error : HandlerError) : Bool :=
  error.reason == .revisionConflict || error.reason == .stateConflict

/-- What a handler leaves in its intent: a result, and a decision if it computed one. -/
structure Handled where
  result : Option Data
  evaluated : Bool

inductive Authorization where
  | granted
  | refused (text : String)
  | lacking (permission : String)
  | untrusted

inductive Status where
  | accepted
  | evaluated
  | rejected (reason : String)
  | conflict (reason : String)
  | superseded (reason : String)
  deriving DecidableEq

inductive Request where
  | contained (again : Bool)
  | known (actor : String)
  | alreadyProcessed (intentID : String)
  | isProcessed (intentID : String)
  | processedIntent (intentID : String)
  | authorize (intent : Intent)
  | handle (intent : Intent)
  | publish (intent : Intent) (status : Status) (data : Option Data)
  | markProcessed (intent : Intent) (result : Option Data)
  | afterAccepted (intent : Intent)
  deriving DecidableEq

abbrev Response : Request → Type
  | .contained _ => Option String
  | .known _ => Bool
  | .alreadyProcessed _ => Bool
  | .isProcessed _ => Bool
  | .processedIntent _ => Option ProcessedIntentRecord
  | .authorize _ => Authorization
  | .handle _ => Except HandlerError Handled
  | .publish _ _ _ => Option String
  | .markProcessed _ _ => Unit
  | .afterAccepted _ => Unit

abbrev Processor := Program Request Response

namespace Processor

def contained (again : Bool) : Processor (Option String) := Program.request (Request.contained again)

def known (actor : String) : Processor Bool := Program.request (Request.known actor)

def alreadyProcessed (intentID : String) : Processor Bool :=
  Program.request (Request.alreadyProcessed intentID)

def isProcessed (intentID : String) : Processor Bool := Program.request (Request.isProcessed intentID)

def processedIntent (intentID : String) : Processor (Option ProcessedIntentRecord) :=
  Program.request (Request.processedIntent intentID)

def authorize (intent : Intent) : Processor Authorization := Program.request (Request.authorize intent)

def handle (intent : Intent) : Processor (Except HandlerError Handled) :=
  Program.request (Request.handle intent)

def publish (intent : Intent) (status : Status) (data : Option Data) : Processor (Option String) :=
  Program.request (Request.publish intent status data)

def markProcessed (intent : Intent) (result : Option Data) : Processor Unit :=
  Program.request (Request.markProcessed intent result)

def afterAccepted (intent : Intent) : Processor Unit := Program.request (Request.afterAccepted intent)

end Processor

inductive Reply where
  | failed (text : String)
  | dropped
  | replayed (result : Option Data) (failure : Option String)
  | pending
  | accepted (result : Option Data)
  deriving DecidableEq

structure Environment where
  decoders : Decoders
  contentHash : Data → String
  enabled : String → Bool
  registered : String → Bool
  /-- The status publisher is set, and it has a publisher and a signer. -/
  statusSet : Bool
  statusReady : Bool
  /-- The domains that must come gift-wrapped, when the ingress is set. -/
  sensitive : List String
  hiveCIPolicyEnvelope : Intent → Option String
  toolEnvelope : Intent → Option String
  requestObserved : Intent → Bool
  llmSignedRequest : Intent → Option String
  virtualizationIntent : Intent → Option String
  /-- The key by which the event store finds the marker of an intent id; it may keep less than the id. -/
  markerKey : String → String

variable (env : Environment)

/-- A status whose publication is not checked; there is none without a publisher. -/
def notify (intent : Intent) (status : Status) (data : Option Data := none) : Processor Unit :=
  if env.statusSet then do
    let _ ← Processor.publish intent status data
  else return ()

def incidentRefusal : String := "identity incident containment active; mutation refused"

def statusUnconfigured : String := "intent outcome status publisher is not configured"

/-- A checked status, whose failure is the answer. -/
def notifyChecked (intent : Intent) (status : Status) (text label unavailable : String) :
    Processor Reply :=
  if env.statusSet then do
    match ← Processor.publish intent status none with
    | some cause => return .failed (text ++ ": " ++ label ++ " status publication failed: " ++ cause)
    | none => return .failed text
  else return .failed (text ++ ": " ++ unavailable)

def failureStatus (intent : Intent) (error : HandlerError) : Status :=
  match error.reason with
  | .stateConflict => .conflict error.text
  | .revisionConflict => .conflict "stale expected_updated_at"
  | _ => .rejected (if intent.domain = "secret" then error.publicReason else error.text)

def handlerFailed (intent : Intent) (inProcess : Bool) (error : HandlerError) : Processor Reply :=
  if intent.domain = virtualizationDomain ∧ error.reason = .virtualizationPending then
    return if inProcess then .failed error.text else .pending
  else if error.reason = .backupRunPending ∧ intent.domain = "backup" ∧ intent.op = "run" then
    return .pending
  else if error.reason = .backupRunAdmissionConflict ∧ intent.domain = "backup" ∧ intent.op = "run" then
    return .failed error.text
  else if intent.domain = "tool" ∧ error.reason = .toolApprovalAuthority then return .failed error.text
  else if intent.domain = "hostname" ∧ error.reason = .superseded then
    notifyChecked env intent (.superseded error.text) error.text "superseded"
      "status publisher unavailable"
  else if intent.domain = virtualizationDomain ∨ intent.domain = "hostname" ∨ isToolRequest intent then
    if error.isConflict then
      notifyChecked env intent (.conflict error.text) error.text "conflict"
        "rejection status publisher is unavailable"
    else
      notifyChecked env intent (.rejected error.text) error.text "rejection"
        "rejection status publisher is unavailable"
  else do
    notify env intent (failureStatus intent error)
    return .failed error.text

/-- The end of an intent whose handler succeeded: it is marked, and then accepted. -/
def conclude (intent : Intent) (result : Option Data) (evaluated : Bool) : Processor Reply := do
  Processor.markProcessed intent result
  if intent.domain = "backup" ∧ intent.op = "run" then return .accepted result
  else if requiresStrictIntentReplay intent then
    match ← Processor.publish intent .accepted result with
    | some cause => return .failed cause
    | none =>
      Processor.afterAccepted intent
      return .accepted result
  else
    if evaluated then return .accepted result
    else
      notify env intent .accepted result
      return .accepted result

/-- Steps 4 to 7: the handler, the decision it computed, the mark and the acceptance. -/
def reconcile (intent : Intent) (inProcess : Bool) : Processor Reply := do
  match ← Processor.handle intent with
  | .error error => handlerFailed env intent inProcess error
  | .ok handled =>
    if handled.evaluated then
      if env.statusSet then
        match ← Processor.publish intent .evaluated none with
        | some cause => return .failed cause
        | none => conclude env intent handled.result true
      else return .failed statusUnconfigured
    else conclude env intent handled.result false

/-- Steps 2 and 3: the handler must exist and the actor must be authorised. -/
def authorizeAndReconcile (intent : Intent) (inProcess : Bool) : Processor Reply := do
  if env.registered intent.domain = false then
    return if inProcess then .failed ("intent domain " ++ quote intent.domain ++ " has no handler")
      else .dropped
  else
    match ← Processor.authorize intent with
    | .granted => reconcile env intent inProcess
    | .refused text =>
      notify env intent (.rejected text)
      return .failed text
    | .lacking permission =>
      notify env intent (.rejected ("insufficient permission: " ++ permission))
      return .failed ("insufficient permission: " ++ permission)
    | .untrusted =>
      return if inProcess then .failed ("untrusted intent actor " ++ quote intent.actor) else .dropped

def replayConflictText (intent : Intent) : String :=
  "intent_id " ++ intent.intentID ++ " conflicts with previously accepted content"

def corruptMarker : String := "bahia-4f10q.1: processed virtualization marker is corrupt"

/-- Step 1 for an intent id that was processed before. The stored result goes back in-process, and
with the status of a strict replay. -/
def replay (intent : Intent) (inProcess : Bool) : Processor Reply := do
  match ← Processor.processedIntent intent.intentID with
  | none =>
    return if intent.domain = virtualizationDomain then .failed corruptMarker else .replayed none none
  | some record =>
    if requiresStrictIntentReplay intent then
      if replayConflicts env.contentHash intent record then
        notify env intent (.conflict (replayConflictText intent))
        return .failed (replayConflictText intent)
      else
        let failure ← Processor.publish intent .accepted record.result
        return .replayed record.result failure
    else return .replayed (if inProcess then record.result else none) none

/-- The early look into the cache: a virtualization intent that reuses an id must be well formed. -/
def virtualizationReplay (intent : Intent) : Processor (Option String) := do
  if intent.domain = virtualizationDomain then
    if ← Processor.alreadyProcessed intent.intentID then
      return env.virtualizationIntent intent
    else return none
  else return none

def precheck (intent : Intent) : Option String :=
  match if isToolRequest intent then env.toolEnvelope intent else none with
  | some text => some text
  | none =>
    if requiresStrictIntentReplay intent && !(env.statusSet && env.statusReady) then
      some statusUnconfigured
    else none

def deduplicate (intent : Intent) (inProcess : Bool) : Processor Reply := do
  match ← virtualizationReplay env intent with
  | some text => return .failed text
  | none =>
    if usesProcessedCache intent then
      if ← Processor.isProcessed intent.intentID then replay env intent inProcess
      else authorizeAndReconcile env intent inProcess
    else authorizeAndReconcile env intent inProcess

def process (intent : Intent) (inProcess : Bool) : Processor Reply := do
  match ← Processor.contained true with
  | some _ => return if inProcess then .failed incidentRefusal else .dropped
  | none =>
    if env.enabled intent.domain = false then
      return if inProcess then .failed ("intent domain " ++ quote intent.domain ++ " is disabled")
        else .dropped
    else
      match precheck env intent with
      | some text => return .failed text
      | none => deduplicate env intent inProcess

def validateAdmission (intent : Intent) : Option String :=
  match if intent.domain = "hiveci-policy" then env.hiveCIPolicyEnvelope intent else none with
  | some text => some text
  | none =>
    if isLLMLifecycleIntent intent then
      match env.llmSignedRequest intent with
      | some text => some text
      | none =>
        if env.requestObserved intent then none
        else some "LLM lifecycle request is not observed in the local relay event store"
    else none

/-- An event that does not parse is dropped, unless a known author is to be told. -/
def rejectMalformed (intent : Intent) (text : String) : Processor Reply := do
  if isLLMLifecycleIntent intent then return .failed text
  else if ← Processor.known intent.actor then
    if env.statusSet then
      notify env intent (.rejected text)
      return .failed text
    else return .dropped
  else return .dropped

/-- A sensitive domain takes no plaintext; an unknown author is not told so. -/
def plaintextRefusal (intent : Intent) : Processor (Option Reply) := do
  if env.sensitive.contains intent.domain then
    if ← Processor.known intent.actor then
      notify env intent (.rejected ("domain " ++ quote intent.domain ++
        " requires gift-wrapped delivery (kind 1059); plaintext 30900 intents are rejected"))
      return some (.failed ("plaintext intent rejected for sensitive domain " ++ quote intent.domain))
    else return some .dropped
  else return none

def processRelayIntent (event : Event) : Processor Reply := do
  match ← Processor.contained false with
  | some _ => return .dropped
  | none =>
    match parseIntent env.decoders event with
    | .error _ => return .dropped
    | .ok (parsed, fault) =>
      let intent := { parsed with actor := PubKey.hex event.pubKey }
      match fault with
      | some text => rejectMalformed env intent text
      | none =>
        match validateAdmission env intent with
        | some text => return .failed text
        | none =>
          match ← plaintextRefusal env intent with
          | some reply => return reply
          | none => process env intent false

/-- The envelope of a tool intent, whose request must have been observed. -/
def toolAdmission (intent : Intent) : Option String :=
  if isToolRequest intent then
    match env.toolEnvelope intent with
    | some text => some text
    | none =>
      if intent.op = "request" ∧ env.requestObserved intent = false then
        some "tool request is not observed in the local relay event store"
      else none
  else none

def processInProcess (intent : Intent) : Processor Reply := do
  match ← Processor.contained false with
  | some _ => return .failed incidentRefusal
  | none =>
    match validateAdmission env intent with
    | some text => return .failed text
    | none =>
      match toolAdmission env intent with
      | some text => return .failed text
      | none =>
        match intent.content.expectedUpdatedAt with
        | some (.error text) =>
          notify env intent (.rejected text)
          return .failed text
        | some (.ok revision) => process env { intent with expectedUpdatedAt := some revision } true
        | none => process env intent true

/-- The marker of a processed intent, an addressable event of which the latest is kept. -/
structure Marker where
  createdAt : Timestamp
  id : ID
  record : ProcessedIntentRecord

/-- The processed cache by the keys of the intent ids. `applied` has the intents whose handler succeeded and
`processed` those that were marked, each with its result, the latest first. -/
structure State where
  markers : Bucket String Marker
  applied : List Intent
  processed : List (Intent × Option Data)

/-- What is answered from outside: the surroundings of a call, and the time and event id of a marker. -/
abbrev Outside : Request → Type
  | .contained _ => Option String
  | .known _ => Bool
  | .alreadyProcessed _ => Unit
  | .isProcessed _ => Unit
  | .processedIntent _ => Unit
  | .authorize _ => Authorization
  | .handle _ => Except HandlerError Handled
  | .publish _ _ _ => Option String
  | .markProcessed _ _ => Timestamp × ID
  | .afterAccepted _ => Unit

/-- A marker replaces an older one, and one of the same time that has a higher id. -/
def Marker.supersedes (marker current : Marker) : Bool :=
  current.createdAt < marker.createdAt ||
    (marker.createdAt == current.createdAt && marker.id < current.id)

namespace State

def initial : State := ⟨∅, [], []⟩

/-- The cache knows nothing of an empty id. -/
def isProcessed (state : State) (intentID : String) : Bool :=
  intentID != "" && (state.markers.get (env.markerKey intentID)).isSome

def processedIntent (state : State) (intentID : String) : Option ProcessedIntentRecord :=
  if intentID = "" then none else (state.markers.get (env.markerKey intentID)).map (·.record)

def markProcessed (state : State) (intent : Intent) (result : Option Data) (marker : Marker) : State :=
  if intent.intentID = "" then state
  else
    let key := env.markerKey intent.intentID
    { state with
      markers :=
        if (state.markers.get key).all fun current => marker.supersedes current then
          state.markers.put key marker
        else state.markers
      processed := (intent, result) :: state.processed }

theorem isProcessed_markProcessed {id : String} (named : id ≠ "") (state : State) (intent : Intent)
    (result : Option Data) (marker : Marker) :
    (state.markProcessed env intent result marker).isProcessed env id =
      (decide (intent.intentID ≠ "" ∧ env.markerKey intent.intentID = env.markerKey id) ||
        state.isProcessed env id) := by
  have present : (id != "") = true := by simpa using named
  unfold markProcessed
  split
  · rename_i nameless
    simp [nameless]
  rename_i marked
  simp only [isProcessed, present, Bool.true_and]
  by_cases same : env.markerKey intent.intentID = env.markerKey id
  · rw [same]
    split
    · simp [marked]
    rename_i newer
    cases held : state.markers.get (env.markerKey id) with
    | none => simp [held] at newer
    | some => simp
  · split
    · rw [Bucket.get_put_of_ne _ same]
      simp [same]
    · simp [same]

end State

def serve (state : State) : (request : Request) → Outside request → State × Response request
  | .contained _, incident => (state, incident)
  | .known _, answer => (state, answer)
  | .alreadyProcessed intentID, _ => (state, state.isProcessed env intentID)
  | .isProcessed intentID, _ => (state, state.isProcessed env intentID)
  | .processedIntent intentID, _ => (state, state.processedIntent env intentID)
  | .authorize _, answer => (state, answer)
  | .handle intent, outcome =>
    match outcome with
    | .ok handled => ({ state with applied := intent :: state.applied }, .ok handled)
    | .error error => (state, .error error)
  | .publish _ _ _, failure => (state, failure)
  | .markProcessed intent result, (createdAt, id) =>
    (state.markProcessed env intent result ⟨createdAt, id, recordOf env.contentHash intent result⟩, ())
  | .afterAccepted _, _ => (state, ())

inductive Task where
  | relay (event : Event)
  | inProcess (intent : Intent)

def Task.body : Task → Processor Reply
  | .relay event => processRelayIntent env event
  | .inProcess intent => processInProcess env intent

/-- A processor whose domains are all enabled and object to nothing. -/
def Environment.permissive : Environment where
  decoders := ⟨.ok, fun data => .ok { data }⟩
  contentHash := id
  enabled := fun _ => true
  registered := fun _ => true
  statusSet := true
  statusReady := true
  sensitive := []
  hiveCIPolicyEnvelope := fun _ => none
  toolEnvelope := fun _ => none
  requestObserved := fun _ => true
  llmSignedRequest := fun _ => none
  virtualizationIntent := fun _ => none
  markerKey := id

def calmly (result : Option Data) (createdAt : Timestamp) (id : ID) :
    (request : Request) → Outside request
  | .contained _ => none
  | .known _ => true
  | .alreadyProcessed _ => ()
  | .isProcessed _ => ()
  | .processedIntent _ => ()
  | .authorize _ => .granted
  | .handle _ => .ok ⟨result, false⟩
  | .publish _ _ _ => none
  | .markProcessed _ _ => (createdAt, id)
  | .afterAccepted _ => ()

end Bahia.Controlplane
