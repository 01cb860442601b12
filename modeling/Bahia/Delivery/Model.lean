import Bahia.Outbox.System

/-! One delivery round of a publisher: the relays it contacts, what it makes of their
answers in its own memory, and the round it commits to the shared outbox. -/

namespace Bahia.Publisher
open Foundation Nostr Localstore

inductive AdmissionRefusal where
  | budgetExceeded
  | circuitOpen
  | killSwitch
  | capacity
  | inFlight
  deriving DecidableEq

/-- A transport error: its text, the admission refusal it wraps, and the dial failure
and retry times of the reconnect backoff it wraps. -/
structure PublishError where
  text : String
  admission : Option AdmissionRefusal
  reconnect : Option (Time × Time)
  deriving DecidableEq

def isAdmissionRejection (error : PublishError) : Bool := error.admission.isSome

def isAdmissionHalt (error : PublishError) : Bool :=
  error.admission == some .killSwitch || error.admission == some .circuitOpen ||
    error.admission == some .capacity

structure PublishResult where
  relayURL : String
  accepted : Bool
  reason : String
  error : Option PublishError
  deriving DecidableEq

def PublishResult.isDuplicate (result : PublishResult) : Bool := hasPrefix result.reason "duplicate:"

def PublishResult.isRateLimited (result : PublishResult) : Bool :=
  hasPrefix (trimSpace result.reason) "rate-limited:"

/-- Every frame was refused by the controller, and whether a process-wide gate was
among the refusals. -/
def allAdmissionRefusals (results : List PublishResult) : Bool × Bool :=
  let refusal (result : PublishResult) : Bool :=
    result.reason == "" && result.error.any isAdmissionRejection
  if results.isEmpty || !results.all refusal then (false, false)
  else (true, results.any fun result => result.error.any isAdmissionHalt)

def isPermanentRejectionReason (reason : String) : Bool :=
  ["blocked:", "invalid:", "pow:"].any fun start => hasPrefix (toLower (trimSpace reason)) start

inductive RelayPublishOutcome where
  | retry
  | accepted
  | rejected
  deriving DecidableEq

def classifyPublishResult (result : PublishResult) : RelayPublishOutcome :=
  if result.accepted || result.isDuplicate then .accepted
  else if result.error.isNone && isPermanentRejectionReason result.reason then .rejected
  else .retry

def describePublishFailure (result : PublishResult) : String :=
  match result.error with
  | some error => error.text
  | none => if trimSpace result.reason ≠ "" then trimSpace result.reason else "OK false"

def joinDetail (parts : List String) : String :=
  join "; " (parts.filter fun part => trimSpace part != "")

structure OutboxDelivery where
  event : Event
  relays : RelayDeliveries
  rounds : Int
  settled : Bool
  delivered : Bool
  reportedDelivered : Bool

def newDelivery (event : Event) (rounds : Int) : OutboxDelivery :=
  ⟨event, ∅, rounds, false, false, false⟩

def OutboxDelivery.restore (d : OutboxDelivery) (entry : OutboxEntry) : OutboxDelivery :=
  { d with
    rounds := entry.rounds
    relays := entry.relays.keys.foldl (fun relays url =>
      match entry.relays.get url with
      | some state => relays.put url state
      | none => relays) d.relays }

/-- `syncRelays` drops relays that are no longer configured and starts new ones. -/
def OutboxDelivery.syncRelays (d : OutboxDelivery) (configured : List String) : OutboxDelivery :=
  let kept := d.relays.keys.foldl (fun relays url =>
    if configured.contains url then relays else relays.delete url) d.relays
  { d with relays := configured.foldl (fun relays url =>
      if (relays.get url).isSome then relays else relays.put url .fresh) kept }

def OutboxDelivery.retryableRelays (d : OutboxDelivery) (configured : List String) : List String :=
  configured.filter fun url =>
    match d.relays.get url with
    | some state => !state.accepted && state.rejected == ""
    | none => true

def OutboxDelivery.acceptedCount (d : OutboxDelivery) (configured : List String) : Nat :=
  configured.countP fun url =>
    match d.relays.get url with
    | some state => state.accepted
    | none => false

def OutboxDelivery.failureDetail (d : OutboxDelivery) (configured : List String) : String :=
  join "; " (configured.filterMap fun url =>
    match d.relays.get url with
    | none => none
    | some state =>
      if state.accepted then none
      else if state.rejected ≠ "" then
        some (url ++ " rejected permanently: " ++ state.rejected)
      else if state.lastError ≠ "" then some (url ++ ": " ++ state.lastError)
      else some (url ++ ": not accepted"))

/-- The caller-facing quorum: `-1` stands for every relay, other values below one for
one relay. -/
def requiredAcceptances (quorum : Int) (configured : Nat) : Int :=
  let required := if quorum = -1 then (configured : Int) else if quorum ≤ 0 then 1 else quorum
  min required configured

/-- What `applyRound` accumulates over the results. -/
structure Applied where
  relays : RelayDeliveries
  answered : List String
  countable : Bool
  backoffUntil : Time
  rateLimited : Bool

/-- The reconnect part of one result: a dial failure counts once. -/
def Applied.noteReconnect (applied : Applied) (state : RelayDelivery) (result : PublishResult) :
    Applied × RelayDelivery :=
  match result.error.bind PublishError.reconnect with
  | some (failedAt, retryAt) =>
    let unseen := Time.after failedAt state.seenDialFailure
    let sooner := applied.backoffUntil.isNone || Time.after applied.backoffUntil retryAt
    ({ applied with
        countable := applied.countable || unseen
        backoffUntil := if sooner then retryAt else applied.backoffUntil },
      if unseen then { state with seenDialFailure := failedAt } else state)
  | none => ({ applied with countable := true }, state)

def Applied.note (applied : Applied) (result : PublishResult) : Applied :=
  match applied.relays.get result.relayURL with
  | none => applied
  | some state =>
    let (noted, seen) := applied.noteReconnect state result
    let answered := { noted with answered := result.relayURL :: noted.answered }
    match classifyPublishResult result with
    | .accepted =>
      { answered with
        relays := answered.relays.put result.relayURL { seen with accepted := true, lastError := "" } }
    | .rejected =>
      { answered with
        relays := answered.relays.put result.relayURL { seen with rejected := result.reason } }
    | .retry =>
      { answered with
        rateLimited := answered.rateLimited || result.isRateLimited
        relays := answered.relays.put result.relayURL
          { seen with lastError := describePublishFailure result } }

def Applied.noteMissing (callErr : Option PublishError) (applied : Applied) (url : String) :
    Applied :=
  if applied.answered.contains url then applied
  else
    let missing := match callErr with
      | some error => error.text
      | none => "no publish result"
    let state := (applied.relays.get url).getD .fresh
    { applied with
      countable := true
      relays := applied.relays.put url { state with lastError := missing } }

def OutboxDelivery.applyRound (d : OutboxDelivery) (targets : List String)
    (results : List PublishResult) (callErr : Option PublishError) : Applied :=
  let start : Applied := ⟨d.relays, [], targets.isEmpty || results.isEmpty, none, false⟩
  targets.foldl (Applied.noteMissing callErr) (results.foldl Applied.note start)

def abandonmentDetail (exhausted : Bool) (maxAttempts : Int) (detail : String) : String :=
  let reason :=
    if exhausted then "abandoned after " ++ toString maxAttempts ++ " publish attempts"
    else "abandoned: required relay acceptance is unreachable"
  joinDetail [reason, detail]

/-- What a round reads from its surroundings: the publisher's target, write relays,
quorum and attempt budget, and what the relays answered. -/
structure RoundInput where
  target : String
  configured : List String
  quorum : Int
  maxAttempts : Int
  results : List PublishResult
  callErr : Option PublishError
  callerWaiting : Bool
  now : SInt64

structure RoundPlan where
  delivery : OutboxDelivery
  accepted : Nat
  required : Int
  delivered : Bool
  settled : Bool
  exhausted : Bool
  skipped : Bool
  detail : String
  rateLimited : Bool
  admissionRefused : Bool
  admissionHalt : Bool

/-- The relays a round contacts, with the answers it gets: none without a target. -/
def OutboxDelivery.answers (d : OutboxDelivery) (input : RoundInput) :
    List PublishResult × Option PublishError :=
  if (d.retryableRelays input.configured).isEmpty then ([], none)
  else (input.results, input.callErr)

/-- The controller refused the whole publication before any relay was contacted. -/
def OutboxDelivery.refusedOutright (d : OutboxDelivery) (input : RoundInput) : Bool :=
  let (results, callErr) := d.answers input
  callErr.any isAdmissionRejection && results.isEmpty &&
    !(d.retryableRelays input.configured).isEmpty

/-- The relay states after the answers, whether the round counts, and whether the
controller refused it. -/
def OutboxDelivery.digest (d : OutboxDelivery) (input : RoundInput) : Applied × Bool × Bool :=
  let (results, callErr) := d.answers input
  if d.refusedOutright input then
    (⟨d.relays, [], false, none, false⟩, true, callErr.any isAdmissionHalt)
  else
    let applied := d.applyRound (d.retryableRelays input.configured) results callErr
    if applied.countable && (allAdmissionRefusals results).1 then
      ({ applied with countable := false }, true, (allAdmissionRefusals results).2)
    else (applied, false, false)

/-- `deliverRound` up to the point where it persists. -/
def OutboxDelivery.plan (d : OutboxDelivery) (input : RoundInput) : RoundPlan :=
  let configured := input.configured
  let required := requiredAcceptances input.quorum configured.length
  let synced := d.syncRelays configured
  let (results, callErr) := synced.answers input
  let (applied, refused, halted) := synced.digest input
  let advanced := { synced with
    relays := applied.relays
    rounds := if applied.countable then synced.rounds + 1 else synced.rounds }
  let accepted := advanced.acceptedCount configured
  let retryable := (advanced.retryableRelays configured).length
  let exhausted := decide (input.maxAttempts ≤ advanced.rounds)
  let unreachable := decide (((accepted + retryable : Nat) : Int) < required)
  let failures := advanced.failureDetail configured
  let named := if configured.isEmpty then joinDetail ["no write relays configured", failures]
    else failures
  let detail := match callErr with
    | some error =>
      if results.isEmpty && !(synced.retryableRelays configured).isEmpty then
        joinDetail [error.text, named]
      else named
    | none => named
  { delivery := advanced
    accepted
    required
    delivered := !configured.isEmpty && decide (required ≤ (accepted : Int))
    settled := exhausted || (!configured.isEmpty && (retryable == 0 || unreachable))
    exhausted
    skipped := !applied.countable
    detail
    rateLimited := applied.rateLimited
    admissionRefused := refused
    admissionHalt := refused && halted }

def RoundPlan.state (plan : RoundPlan) : EntryState :=
  if plan.settled && plan.delivered then .published else if plan.settled then .failed else .pending

def RoundPlan.round (plan : RoundPlan) (input : RoundInput) : OutboxRound where
  target := input.target
  rounds := plan.delivery.rounds
  relays := plan.delivery.relays
  delivered := plan.delivered
  policy := ⟨input.configured, plan.required⟩
  state := .reported plan.state
  detail := if plan.settled && !plan.delivered then
      abandonmentDetail plan.exhausted input.maxAttempts plan.detail
    else plan.detail
  atTime := some input.now

inductive OwnerNotice where
  | clearOwnEventUndelivered
  | notifyDelivered
  | forgetOwnEvent
  | markOwnEventUndelivered (detail : String)
  | notifyAbandoned
  deriving DecidableEq

inductive PublishFailure where
  | incomplete (accepted : Nat) (required : Int) (detail : String)
  | abandoned (accepted : Nat) (required : Int) (detail : String)
  | unrecorded (accepted : Nat) (required : Int) (detail cause : String)
  deriving DecidableEq

structure DeliveryReport where
  detail : String
  results : List PublishResult
  accepted : Nat
  required : Int
  delivered : Bool
  settled : Bool
  rateLimited : Bool
  admissionRefused : Bool
  admissionHalt : Bool
  err : Option PublishFailure

structure RoundOutcome where
  outbox : Outbox
  delivery : OutboxDelivery
  report : DeliveryReport
  notices : List OwnerNotice

/-- A delivery another round has already settled. -/
def OutboxDelivery.settledReport (d : OutboxDelivery) (input : RoundInput) : DeliveryReport :=
  let accepted := d.acceptedCount input.configured
  let required := requiredAcceptances input.quorum input.configured.length
  let abandoned := if d.delivered then none
    else some (PublishFailure.abandoned accepted required (d.failureDetail input.configured))
  ⟨"", [], accepted, required, d.delivered, true, false, false, false, abandoned⟩

def RoundPlan.report (plan : RoundPlan) (results : List PublishResult)
    (persisted : Except String Outbox) : DeliveryReport :=
  let failure : Option PublishFailure :=
    if plan.delivered then none
    else match persisted with
      | .error cause => some (.unrecorded plan.accepted plan.required plan.detail cause)
      | .ok _ =>
        if plan.settled then some (.abandoned plan.accepted plan.required plan.detail)
        else some (.incomplete plan.accepted plan.required plan.detail)
  let settled := match persisted with
    | .error _ => false
    | .ok _ => plan.settled
  ⟨plan.detail, results, plan.accepted, plan.required, plan.delivered, settled, plan.rateLimited,
    plan.admissionRefused, plan.admissionHalt, failure⟩

def RoundPlan.notices (plan : RoundPlan) (input : RoundInput) (reports : Bool) : List OwnerNotice :=
  (if reports then [.clearOwnEventUndelivered, .notifyDelivered] else []) ++
    if plan.settled && !plan.delivered then
      [if input.callerWaiting then .forgetOwnEvent
        else .markOwnEventUndelivered
          (abandonmentDetail plan.exhausted input.maxAttempts plan.detail), .notifyAbandoned]
    else []

/-- The outbox after the round is persisted; a skipped round that does not settle
records nothing. -/
def OutboxDelivery.persist (d : OutboxDelivery) (checks : Checks) (handle : Handle)
    (outbox : Outbox) (input : RoundInput) : Except String Outbox :=
  let plan := d.plan input
  if plan.skipped && !plan.settled then .ok outbox
  else (checks.commitPublisherRound handle outbox d.event.id (plan.round input) input.now).map
    Prod.fst

/-- `deliverRound`. A settled delivery does nothing, and a failed commit keeps the
delivery open. -/
def deliverRound (checks : Checks) (handle : Handle) (outbox : Outbox) (d : OutboxDelivery)
    (input : RoundInput) : RoundOutcome :=
  if d.settled then ⟨outbox, d, d.settledReport input, []⟩
  else
    let plan := d.plan input
    let results := ((d.syncRelays input.configured).answers input).1
    match d.persist checks handle outbox input with
    | .error cause =>
      ⟨outbox, { plan.delivery with settled := false, delivered := plan.delivered },
        plan.report results (.error cause), []⟩
    | .ok next =>
      let reports := plan.delivered && !d.reportedDelivered
      ⟨next,
        { plan.delivery with
          settled := plan.settled
          delivered := plan.delivered
          reportedDelivered := d.reportedDelivered || reports },
        plan.report results (.ok next), plan.notices input reports⟩

end Bahia.Publisher
