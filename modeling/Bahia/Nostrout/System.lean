import Bahia.Nostrout.Slots

/-! The controller and its callers. A step is one section under the admission lock; a call
that waits gives the lock up and is resumed by a later step. The section that reserves and
the first try that follows it are separate steps, so a run may also put other calls between
them. -/

namespace Bahia.Nostrout
open Nostr

/-- Where the call that began a publication stands. Only an operation's call waits. -/
inductive PermitStage where
  | waiting (wakeAt : Instant)
  | returned
  | dropped
  deriving DecidableEq

structure Permit where
  publication : Publication
  stage : PermitStage

/-- A `BeforeAttempt` call of an operation's publication. -/
structure Attempt where
  permit : Nat
  relay : String
  wakeAt : Instant
  waiting : Bool

/-- An `AdmitOpaque` call past its reservation. -/
structure Opaque where
  purpose : Purpose
  relays : Destinations
  deadline : Instant
  wakeAt : Instant
  waiting : Bool

structure System where
  admission : Admission
  clock : Instant
  slots : Slots
  permits : List Permit
  attempts : List Attempt
  opaques : List Opaque

structure Frame where
  relay : String
  priority : Bool
  deriving DecidableEq

inductive Reply where
  | ignored
  | done
  | failed (failure : Failure)
  | waiting (id : Nat)
  | operation (id : Nat)
  | publication (id : Nat)
  | authorised (frames : List Frame)
  | panicked
  deriving DecidableEq

def Reply.frames : Reply → List Frame
  | .authorised frames => frames
  | _ => []

/-- The calls, and the steps at which a waiting one goes on. `releaseOperation` is the `Close`
that ends an abandoned `BeginOperation`. -/
inductive Call where
  | advance (time : Nat)
  | begin (event : Event) (urls : List String)
  | beforeAttempt (permit : Nat) (url : String)
  | resumeAttempt (attempt : Nat)
  | observe (permit : Nat) (result : Result)
  | close (permit : Nat)
  | beginOperation (maxEvents : Int) (maxWait : Duration)
  | operationReady (operation : Nat)
  | abandonOperation (operation : Nat)
  | releaseOperation (operation : Nat)
  | operationBegin (operation : Nat) (event : Event) (urls : List String)
  | resumeBegin (permit : Nat)
  | closeOperation (operation : Nat)
  | admitAuth (url : String)
  | admitOpaque (purpose : String) (urls : List String)
  | resumeOpaque (opaque' : Nat)
  | reportRateLimited
  | runtimeKillSwitch (killed : Bool)

structure Action where
  call : Call
  meets : Meets

structure Env where
  normalizeRelayURL : String → String

namespace System

def start (config : Config) (now : Instant) : System where
  admission := newAdmission config now
  clock := now
  slots := .fresh
  permits := []
  attempts := []
  opaques := []

def replied (s : System) (admission : Admission) (reply : Reply) : System × Reply :=
  ({ s with admission }, reply)

def begin (env : Env) (s : System) (meets : Meets) (event : Event) (urls : List String) :
    System × Reply :=
  let relays := normalizeRelayList env.normalizeRelayURL urls
  if meets.cancelled then (s, .failed .context)
  else if relays.val = [] then (s, .failed .noDestinations)
  else
    match s.admission.beginLocked s.clock meets none event relays with
    | (a, .error failure) => s.replied a (.failed failure)
    | (a, .ok publication) =>
      if publication.closed then
        ({ s with admission := a, permits := s.permits ++ [⟨publication, .returned⟩] },
          .publication s.permits.length)
      else
        let waited := a.laneWaitLocked s.clock publication.purpose
        if 0 < waited.2 then
          s.replied (publication.unregisterLocked waited.1) (.failed (.budgetExceeded ""))
        else
          ({ s with
              admission := waited.1
              permits := s.permits ++
                [⟨{ publication with generation := waited.1.breakerGeneration }, .returned⟩] },
            .publication s.permits.length)

def operationBegin (env : Env) (s : System) (meets : Meets) (id : Nat) (event : Event)
    (urls : List String) : System × Reply :=
  let relays := normalizeRelayList env.normalizeRelayURL urls
  match s.slots.operations[id]? with
  | none => (s, .ignored)
  | some operation =>
    if operation.stage ≠ .returned then (s, .ignored)
    else if meets.cancelled then (s, .failed .context)
    else if relays.val = [] then (s, .failed .noDestinations)
    else
      match s.slots.claim id operation with
      | .error failure => (s, .failed failure)
      | .ok claimed =>
        match s.admission.beginLocked s.clock meets (some (id, operation.deadline)) event relays with
        | (a, .error failure) =>
          ({ s with admission := a, slots := claimed.unclaim id }, .failed failure)
        | (a, .ok publication) =>
          if publication.closed then
            ({ s with
                admission := a
                slots := claimed.finish id none
                permits := s.permits ++ [⟨publication, .returned⟩] },
              .publication s.permits.length)
          else
            ({ s with
                admission := a
                slots := claimed
                permits := s.permits ++ [⟨publication, .waiting s.clock⟩] },
              .waiting s.permits.length)

/-- The operation of a publication; one that is missing counts as closed. -/
def operationOf (s : System) (publication : Publication) : Option (Nat × Operation) :=
  publication.op.bind fun id => (s.slots.operations[id]?).map fun operation => (id, operation)

def resumeBegin (s : System) (meets : Meets) (index : Nat) : System × Reply :=
  match s.permits[index]? with
  | some ⟨publication, .waiting wake⟩ =>
    match s.operationOf publication with
    | none => (s, .ignored)
    | some (id, operation) =>
      if !meets.cancelled && s.clock < wake then (s, .ignored)
      else
        match s.admission.awaitLocked meets operation.deadline s.clock
          (s.admission.tryBulk s.clock meets operation.closed) with
        | (a, .wait time) =>
          ({ s with
              admission := a
              permits := s.permits.set index
                ⟨publication, .waiting (wakeAt s.clock operation.deadline time)⟩ },
            .waiting index)
        | (a, .admitted) =>
          ({ s with
              admission := a
              slots := s.slots.finish id (some index)
              permits := s.permits.set index
                ⟨{ publication with generation := a.breakerGeneration }, .returned⟩ },
            .publication index)
        | (a, .failed failure) =>
          ({ s with
              admission := publication.unregisterLocked a
              slots := s.slots.unclaim id
              permits := s.permits.set index ⟨{ publication with registered := false }, .dropped⟩ },
            .failed (operationDeadlineError failure))
        | (a, .panicked) => s.replied a .panicked
  | _ => (s, .ignored)

def beforeAttempt (env : Env) (s : System) (meets : Meets) (index : Nat) (url : String) :
    System × Reply :=
  let relay := env.normalizeRelayURL url
  match s.permits[index]? with
  | some ⟨publication, .returned⟩ =>
    if publication.closed then (s, .failed (.operation "publication already closed"))
    else if !publication.hasRelay relay then
      (s, .failed (.operation ("relay " ++ relay ++ " was not admitted for this publication")))
    else if publication.op.isSome then
      ({ s with attempts := s.attempts ++ [⟨index, relay, s.clock, true⟩] },
        .waiting s.attempts.length)
    else if meets.cancelled then (s, .failed .context)
    else
      match s.admission.tryAttempt s.clock meets publication false relay with
      | (a, .admitted) => s.replied a (.authorised [⟨relay, publication.purpose.isPriority⟩])
      | (a, .failed failure) => s.replied a (.failed failure)
      | (a, .wait _) => s.replied a .done
      | (a, .panicked) => s.replied a .panicked
  | _ => (s, .ignored)

def resumeAttempt (s : System) (meets : Meets) (index : Nat) : System × Reply :=
  match s.attempts[index]? with
  | some ⟨permit, relay, wake, true⟩ =>
    match s.permits[permit]? with
    | some ⟨publication, .returned⟩ =>
      match s.operationOf publication with
      | none => (s, .ignored)
      | some (_, operation) =>
        if !meets.cancelled && s.clock < wake then (s, .ignored)
        else
          match s.admission.awaitLocked meets operation.deadline s.clock
            (s.admission.tryAttempt s.clock meets publication operation.closed relay) with
          | (a, .wait time) =>
            ({ s with
                admission := a
                attempts := s.attempts.set index
                  ⟨permit, relay, wakeAt s.clock operation.deadline time, true⟩ },
              .waiting index)
          | (a, .admitted) =>
            ({ s with
                admission := a
                attempts := s.attempts.set index ⟨permit, relay, wake, false⟩ },
              .authorised [⟨relay, publication.purpose.isPriority⟩])
          | (a, .failed failure) =>
            ({ s with
                admission := a
                attempts := s.attempts.set index ⟨permit, relay, wake, false⟩ },
              .failed (operationDeadlineError failure))
          | (a, .panicked) => s.replied a .panicked
    | _ => (s, .ignored)
  | _ => (s, .ignored)

def observe (env : Env) (s : System) (meets : Meets) (index : Nat) (result : Result) :
    System × Reply :=
  match s.permits[index]? with
  | some ⟨publication, .returned⟩ =>
    let relay := env.normalizeRelayURL result.relayURL
    if result.cached then (s, .done)
    else if result.isRateLimited then
      s.replied (s.admission.openBreakerLocked s.clock meets.jitter) .done
    else if !result.succeeded then (s, .done)
    else
      let stored :=
        if publication.eventID ≠ "" ∧ publication.hasRelay relay then
          s.admission.storeReceiptLocked s.clock ⟨publication.eventID, relay⟩
        else s.admission
      s.replied (stored.closeBreakerLocked s.clock publication.generation) .done
  | _ => (s, .ignored)

def close (s : System) (index : Nat) : System × Reply :=
  match s.permits[index]? with
  | some ⟨publication, .returned⟩ =>
    if publication.closed then (s, .done)
    else
      ({ s with
          admission := publication.unregisterLocked s.admission
          slots := match publication.op with
            | none => s.slots
            | some id => s.slots.settle id index
          permits := s.permits.set index
            ⟨{ publication with closed := true, registered := false }, .returned⟩ },
        .done)
  | _ => (s, .ignored)

def beginOperation (s : System) (meets : Meets) (maxEvents : Int) (maxWait : Duration) :
    System × Reply :=
  if maxEvents < 1 ∨ s.admission.limits.maxOperationEvents < maxEvents then
    (s, .failed (.operation ("operation declares " ++ toString maxEvents ++
      " events; allowed range is 1.." ++ toString s.admission.limits.maxOperationEvents)))
  else if meets.cancelled then (s, .failed .context)
  else
    match s.admission.killSwitchLocked meets.killSwitch with
    | .error failure => (s, .failed failure)
    | .ok () =>
      match s.slots.enter s.admission.limits s.clock maxEvents maxWait with
      | .error failure => (s, .failed failure)
      | .ok slots =>
        ({ s with slots },
          if s.slots.operation = none ∧ s.slots.operationQueue = [] then
            .operation s.slots.operations.length
          else .waiting s.slots.operations.length)

/-- The wait of `BeginOperation` sees its `ready` channel closed. -/
def operationReady (s : System) (id : Nat) : System × Reply :=
  match s.slots.operations[id]? with
  | none => (s, .ignored)
  | some operation =>
    match operation.stage with
    | .queued _ =>
      if operation.activated then
        ({ s with slots := s.slots.update id fun operation => { operation with stage := .returned } },
          .operation id)
      else (s, .ignored)
    | _ => (s, .ignored)

/-- The wait of `BeginOperation` ends by cancellation or by its timer, whether or not the
operation has just been activated. -/
def abandonOperation (s : System) (meets : Meets) (id : Nat) : System × Reply :=
  match s.slots.operations[id]? with
  | none => (s, .ignored)
  | some operation =>
    match operation.stage with
    | .queued wake =>
      let cause := if meets.cancelled then .context else .queueTimeout
      if !meets.cancelled && s.clock < wake then (s, .ignored)
      else
        ({ s with slots := s.slots.abandon id operation cause },
          if operation.activated then .done else .failed cause)
    | _ => (s, .ignored)

/-- The `Close` of an operation that was activated too late for its caller. -/
def releaseOperation (s : System) (id : Nat) : System × Reply :=
  match s.slots.operations[id]? with
  | none => (s, .ignored)
  | some operation =>
    match operation.stage with
    | .abandoning cause =>
      ({ s with
          slots := (s.slots.close s.admission.limits s.clock id).update id
            fun operation => { operation with stage := .refused } },
        .failed cause)
    | _ => (s, .ignored)

def closeOperation (s : System) (id : Nat) : System × Reply :=
  match s.slots.operations[id]? with
  | none => (s, .ignored)
  | some operation =>
    if operation.stage ≠ .returned then (s, .ignored)
    else ({ s with slots := s.slots.close s.admission.limits s.clock id }, .done)

def admitAuth (env : Env) (s : System) (meets : Meets) (url : String) : System × Reply :=
  let relay := env.normalizeRelayURL url
  if meets.cancelled then (s, .failed .context)
  else if relay = "" then (s, .failed .noDestinations)
  else
    match s.admission.authLocked s.clock meets relay with
    | (a, .admitted) => s.replied a (.authorised [⟨relay, true⟩])
    | (a, .failed failure) => s.replied a (.failed failure)
    | (a, .wait _) => s.replied a .done
    | (a, .panicked) => s.replied a .panicked

def admitOpaque (env : Env) (s : System) (meets : Meets) (purpose : String) (urls : List String) :
    System × Reply :=
  let relays := normalizeRelayList env.normalizeRelayURL urls
  if meets.cancelled then (s, .failed .context)
  else if relays.val = [] then (s, .failed .noDestinations)
  else
    match s.admission.killSwitchLocked meets.killSwitch with
    | .error failure => (s, .failed failure)
    | .ok () =>
      match Purpose.ofText purpose with
      | none => (s, .failed (.operation ("unknown purpose " ++ Foundation.quote purpose)))
      | some lane =>
        if s.admission.limits.maxOpaqueWaiters ≤ s.admission.opaqueWaiters then
          (s, .failed (.queueFull (toString s.admission.opaqueWaiters ++
            " opaque publications waiting")))
        else
          match Registry.reserve s.admission.limits s.clock meets.orders [] relays.val
            s.admission.relays with
          | (registry, false) =>
            s.replied { s.admission with relays := registry }
              (.failed (.capacity "relay identity registry full"))
          | (registry, true) =>
            ({ s with
                admission :=
                  { s.admission with
                    relays := registry, opaqueWaiters := s.admission.opaqueWaiters + 1 }
                opaques := s.opaques ++
                  [⟨lane, relays, s.clock + s.admission.limits.maxQueueWait, s.clock, true⟩] },
              .waiting s.opaques.length)

def leaveOpaque (a : Admission) (relays : Destinations) : Admission :=
  { a with
    relays := relays.val.foldl Registry.dropRef a.relays, opaqueWaiters := a.opaqueWaiters - 1 }

def resumeOpaque (s : System) (meets : Meets) (index : Nat) : System × Reply :=
  match s.opaques[index]? with
  | some ⟨purpose, relays, deadline, wake, true⟩ =>
    if !meets.cancelled && s.clock < wake then (s, .ignored)
    else
      match s.admission.awaitLocked meets deadline s.clock
        (s.admission.tryOpaque s.clock meets purpose relays) with
      | (a, .wait time) =>
        ({ s with
            admission := a
            opaques := s.opaques.set index
              ⟨purpose, relays, deadline, wakeAt s.clock deadline time, true⟩ },
          .waiting index)
      | (a, .admitted) =>
        ({ s with
            admission := leaveOpaque a relays
            opaques := s.opaques.set index ⟨purpose, relays, deadline, wake, false⟩ },
          .authorised (relays.val.map fun relay => ⟨relay, purpose.isPriority⟩))
      | (a, .failed failure) =>
        ({ s with
            admission := leaveOpaque a relays
            opaques := s.opaques.set index ⟨purpose, relays, deadline, wake, false⟩ },
          .failed failure)
      | (a, .panicked) => s.replied a .panicked
  | _ => (s, .ignored)

def perform (env : Env) (s : System) (action : Action) : System × Reply :=
  match action.call with
  | .advance time => ({ s with clock := s.clock + time }, .done)
  | .begin event urls => s.begin env action.meets event urls
  | .beforeAttempt permit url => s.beforeAttempt env action.meets permit url
  | .resumeAttempt attempt => s.resumeAttempt action.meets attempt
  | .observe permit result => s.observe env action.meets permit result
  | .close permit => s.close permit
  | .beginOperation maxEvents maxWait => s.beginOperation action.meets maxEvents maxWait
  | .operationReady id => s.operationReady id
  | .abandonOperation id => s.abandonOperation action.meets id
  | .releaseOperation id => s.releaseOperation id
  | .operationBegin id event urls => s.operationBegin env action.meets id event urls
  | .resumeBegin permit => s.resumeBegin action.meets permit
  | .closeOperation id => s.closeOperation id
  | .admitAuth url => s.admitAuth env action.meets url
  | .admitOpaque purpose urls => s.admitOpaque env action.meets purpose urls
  | .resumeOpaque index => s.resumeOpaque action.meets index
  | .reportRateLimited =>
    s.replied (s.admission.openBreakerLocked s.clock action.meets.jitter) .done
  | .runtimeKillSwitch killed => s.replied { s.admission with runtimeKilled := killed } .done

def after (env : Env) (s : System) (action : Action) : System := (s.perform env action).1

def run (env : Env) (s : System) (actions : List Action) : System := actions.foldl (after env) s

end System

end Bahia.Nostrout
