import Bahia.Delivery.Model

/-! Any number of publishers delivering from one outbox. A round counts at its commit:
what it read before, its own memory and the relays' answers, no other party can touch. -/

namespace Bahia.Publisher
open Foundation Nostr Localstore

/-- A `PublishBeforeCommit` that has been admitted and not yet recorded its round. -/
structure PreCommit where
  delivery : OutboxDelivery
  round : OutboxRound

structure Fleet where
  outbox : Outbox
  deliveries : Nat → ID → Option OutboxDelivery
  preCommits : Nat → ID → Option PreCommit

def Fleet.fresh : Fleet := ⟨Outbox.fresh, fun _ _ => none, fun _ _ => none⟩

def Fleet.remember (fleet : Fleet) (publisher : Nat) (id : ID) (d : Option OutboxDelivery) : Fleet :=
  { fleet with deliveries := fun other otherID =>
      if other = publisher ∧ otherID = id then d else fleet.deliveries other otherID }

def Fleet.holdPreCommit (fleet : Fleet) (publisher : Nat) (id : ID) (held : Option PreCommit) :
    Fleet :=
  { fleet with preCommits := fun other otherID =>
      if other = publisher ∧ otherID = id then held else fleet.preCommits other otherID }

/-- The first round of `PublishBeforeCommit`, before anything is queued. -/
def preCommitDelivery (event : Event) (input : RoundInput) : OutboxDelivery :=
  let d := (newDelivery event 0).syncRelays input.configured
  let applied := d.applyRound input.configured input.results input.callErr
  { d with relays := applied.relays, rounds := if applied.countable then 1 else 0, delivered := true }

/-- The round it records once the event is admitted. -/
def preCommitRound (d : OutboxDelivery) (input : RoundInput) : OutboxRound where
  target := input.target
  rounds := d.rounds
  relays := d.relays
  delivered := true
  policy := ⟨input.configured, requiredAcceptances input.quorum input.configured.length⟩
  state := .reported (if (d.retryableRelays input.configured).isEmpty then .published else .pending)
  detail := d.failureDetail input.configured
  atTime := some input.now

/-- The entry it admits, with the outcomes of that round. -/
def preCommitEntry (d : OutboxDelivery) (input : RoundInput) (entityType entityID : String) :
    OutboxEntry where
  event := d.event
  target := input.target
  entityType := entityType
  entityID := entityID
  enqueuedAt := some input.now
  state := .pending
  rounds := d.rounds
  delivered := true
  policy := ⟨input.configured, requiredAcceptances input.quorum input.configured.length⟩
  lastError := ""
  settledAt := none
  relays := d.relays

inductive FleetAction where
  /-- `Enqueue` of a signed event. -/
  | enqueue (handle : Handle) (entry : OutboxEntry) (now : SInt64)
  /-- `trackDelivery` by an inline publish. -/
  | track (publisher : Nat) (event : Event)
  /-- `discoverLocal` resumes a pending entry of the outbox. -/
  | discover (publisher : Nat) (id : ID)
  /-- `deliverRound`. -/
  | round (publisher : Nat) (id : ID) (handle : Handle) (input : RoundInput)
  /-- `forgetDelivery`. -/
  | forget (publisher : Nat) (id : ID)
  /-- `PublishBeforeCommit` up to the admission of its event. -/
  | admitPreCommit (publisher : Nat) (handle : Handle) (event : Event) (input : RoundInput)
      (entityType entityID : String)
  /-- The round `PublishBeforeCommit` records after it. -/
  | recordPreCommit (publisher : Nat) (id : ID) (handle : Handle) (now : SInt64)

/-- `PublishBeforeCommit` queues its event only once the quorum accepted it. -/
def Fleet.admitPreCommit (checks : Checks) (fleet : Fleet) (publisher : Nat) (handle : Handle)
    (event : Event) (input : RoundInput) (entityType entityID : String) : Option Fleet :=
  let d := preCommitDelivery event input
  let required := requiredAcceptances input.quorum input.configured.length
  if !checks.signed event || input.configured.isEmpty ||
      decide ((d.acceptedCount input.configured : Int) < required) ||
      (fleet.deliveries publisher event.id).isSome then none
  else
    match checks.enqueuePublisherDelivery handle fleet.outbox
      (preCommitEntry d input entityType entityID) input.now with
    | .error _ => none
    | .ok (next, _) =>
      some (({ fleet with outbox := next }.remember publisher event.id (some d)).holdPreCommit
        publisher event.id (some ⟨d, preCommitRound d input⟩))

def Fleet.recordPreCommit (checks : Checks) (fleet : Fleet) (publisher : Nat) (id : ID)
    (handle : Handle) (now : SInt64) : Option Fleet :=
  match fleet.preCommits publisher id with
  | none => none
  | some held =>
    let released := fleet.holdPreCommit publisher id none
    match checks.commitPublisherRound handle fleet.outbox id held.round now with
    | .error _ => some (released.remember publisher id none)
    | .ok (next, _) =>
      some ({ released with outbox := next }.remember publisher id (some
        { held.delivery with
          settled := decide (held.round.state = RoundState.reported .published)
          reportedDelivered := true }))

/-- One step of the fleet. A delivery whose `PublishBeforeCommit` is still running is
locked, so no round of it starts. -/
def Fleet.step (checks : Checks) (fleet : Fleet) : FleetAction → Option Fleet
  | .enqueue handle entry now =>
    match checks.enqueue handle fleet.outbox entry now with
    | .error _ => none
    | .ok (next, _) => some { fleet with outbox := next }
  | .track publisher event =>
    if (fleet.deliveries publisher event.id).isSome then none
    else some (fleet.remember publisher event.id (some (newDelivery event 0)))
  | .discover publisher id =>
    match fleet.outbox.entries.get id with
    | none => none
    | some entry =>
      if entry.state ≠ .pending ∨ (fleet.deliveries publisher entry.event.id).isSome then none
      else some (fleet.remember publisher entry.event.id
        (some ((newDelivery entry.event entry.rounds).restore entry)))
  | .round publisher id handle input =>
    match fleet.deliveries publisher id with
    | none => none
    | some d =>
      if (fleet.preCommits publisher id).isSome then none
      else
        let outcome := deliverRound checks handle fleet.outbox d input
        some ({ fleet with outbox := outcome.outbox }.remember publisher id (some outcome.delivery))
  | .forget publisher id => some (fleet.remember publisher id none)
  | .admitPreCommit publisher handle event input entityType entityID =>
    fleet.admitPreCommit checks publisher handle event input entityType entityID
  | .recordPreCommit publisher id handle now =>
    fleet.recordPreCommit checks publisher id handle now

end Bahia.Publisher
