import Bahia.Outbox.Outcomes

/-! The owners of staged statuses. The status index maps a status event to an intent, which
readers look up among the admissions first and among the requests after that. The lookup
finds the record that staged the event as long as no run is admitted under the intent of a
request for another coordinate. -/

namespace Bahia.Localstore
open Foundation Nostr Bucket

/-- The record of `intentID` that readers find has this status event. -/
def Outbox.Resolves (tx : Outbox) (key intentID : String) : Prop :=
  (tx.intents.get intentID = none ∧
    ∃ request, tx.backupPending.get intentID = some request ∧ request.statusEventID = key) ∨
  ∃ record, tx.intents.get intentID = some record ∧ record.statusEventID = key

def StatusOwnersResolve (tx : Outbox) : Prop :=
  ∀ key intentID, tx.statusEvents.get key = some intentID → tx.Resolves key intentID

/-- A run is admitted under an intent without a request, or on the coordinate of its
request. -/
def Outbox.pairsIntent (tx : Outbox) (call : Call) : Bool :=
  match call.operation with
  | .enqueueBackupRun _ intentID coordinate _ _ =>
    (tx.backupPending.get intentID).all fun request => request.coordinate == coordinate
  | _ => true

/-- No event that was staged as a status is enqueued anew. -/
def Outbox.sparesStatuses (tx : Outbox) (call : Call) : Bool :=
  (call.operation.enqueued).all fun entry => (tx.statusEvents.get (ID.hex entry.event.id)).isNone

/-- What the reader of a status row finds: an admission credited for its state, or a refused
request without an admission. -/
inductive Owner (ledger : Ledger) (key intentID target : String) : Prop
  | accepted {record : BackupRunAdmission} (found : ledger.intents.get intentID = some record)
    (staged : record.statusEventID = key) (aimed : record.statusTarget = target)
    (delivered : record.delivered = true) (outcome : record.statusOutcome = "accepted")
  | refused {request : BackupRunPending} (unadmitted : ledger.intents.get intentID = none)
    (found : ledger.backupPending.get intentID = some request) (settled : request.state = .refused)
    (staged : request.statusEventID = key) (aimed : request.statusTarget = target)

variable {id : ID} {intentID target : String} {entry : OutboxEntry} {call : Call}

theorem Owner.kept
    (owner : Owner before (ID.hex id) intentID target) (records : RecordsKept before after)
    (old : before.intents.get intentID = none → after.intents.get intentID = none) :
    Owner after (ID.hex id) intentID target := by
  cases owner with
  | @accepted record found staged aimed delivered outcome =>
    have present : record.statusEventID ≠ "" := staged ▸ ID.hex_ne_empty id
    obtain ⟨later, held, kept⟩ := records.admissions intentID record found
    obtain ⟨event, target, verdict⟩ := kept.status present
    exact .accepted held (event.trans staged) (target.trans aimed) (kept.delivered delivered)
      (verdict.trans outcome)
  | @refused request unadmitted found settled staged aimed =>
    have present : request.statusEventID ≠ "" := staged ▸ ID.hex_ne_empty id
    obtain ⟨later, held, kept⟩ := records.requests intentID request found
    obtain ⟨event, target⟩ := kept.status present
    refine .refused (old unadmitted) held ?_ (event.trans staged) ((target settled).trans aimed)
    exact (kept.state (by rw [settled]; decide)).trans settled

theorem Owner.steady
    (owner : Owner before (ID.hex id) intentID target) (steady : Steady before after) :
    Owner after (ID.hex id) intentID target :=
  owner.kept steady.toRecordsKept (steady.oldAdmissions intentID)

/-- Every status row has its owner, and the two records of one intent share a coordinate. -/
structure Ledger.Owned (ledger : Ledger) : Prop where
  owners : ∀ key intentID, ledger.statusEvents.get key = some intentID →
    ∃ id target, key = ID.hex id ∧ Owner ledger key intentID target
  paired : ∀ intentID record request, ledger.intents.get intentID = some record →
    ledger.backupPending.get intentID = some request → request.coordinate = record.coordinate

theorem owned_fresh : Outbox.fresh.ledger.Owned where
  owners key intentID found := by
    rw [show Outbox.fresh.ledger.statusEvents.get key = none from get_empty key] at found
    cases found
  paired intentID record request found := by
    rw [show Outbox.fresh.ledger.intents.get intentID = none from get_empty intentID] at found
    cases found

theorem ProofWritten.statusEvents {round : OutboxRound}
    (written : ProofWritten checks entry round publisher before after) :
    after.statusEvents = before.statusEvents := by
  cases written <;> rfl

theorem AdmissionWritten.statusEvents (written : AdmissionWritten checks entry before after) :
    after.statusEvents = before.statusEvents := by
  cases written <;> rfl

theorem StatusWritten.statusEvents (written : StatusWritten checks entry before after) :
    after.statusEvents = before.statusEvents := by
  cases written <;> rfl

variable {tx : Outbox} {operation : Operation}

theorem Effect.status_cases (effect : Effect checks now tx next operation) :
    next.statusEvents = tx.statusEvents ∨
      (∃ record event target current,
        Accepts checks now tx next record event target current) ∨
      ∃ record event target current, Refuses checks now tx next record event target current := by
  cases effect with
  | untouched same => exact .inl (congrArg Ledger.statusEvents same.2)
  | enqueue enqueues | enqueuePublisherDelivery enqueues =>
    exact .inl (congrArg Ledger.statusEvents enqueues.ledger)
  | enqueueBackupRun admits => exact .inl (congrArg Ledger.statusEvents admits.ledger)
  | stageAccepted accepts => exact .inr (.inl ⟨_, _, _, _, accepts⟩)
  | stageRefused refuses => exact .inr (.inr ⟨_, _, _, _, refuses⟩)
  | lateRound late => exact .inl (late.status.statusEvents.trans late.proof.statusEvents)
  | liveRound live =>
    exact .inl ((live.status.statusEvents.trans live.admission.statusEvents).trans
      live.proof.statusEvents)
  | requeue requeues => exact .inl (congrArg Ledger.statusEvents requeues.ledger)
  | remove removes => exact .inl (congrArg Ledger.statusEvents removes.ledger)
  | put files => exact .inl (congrArg Ledger.statusEvents files.ledger)
  | reschedule reschedules =>
    left
    rw [reschedules.rows]
    unfold Outbox.reschedule
    split <;> rfl
  | compact compacts => exact .inl (congrArg Ledger.statusEvents compacts.ledger)

variable {coordinate requestEventID actor : String}

theorem Accepts.statusEvents (accepts : Accepts checks now tx next record event target current) :
    next.ledger.statusEvents =
      tx.ledger.statusEvents.put (ID.hex event.id) current.intentID := by
  have written := accepts.ledger
  generalize next.ledger = after at written ⊢
  cases written <;> rfl

theorem Accepts.owner (accepts : Accepts checks now tx next record event target current) :
    Owner next.ledger (ID.hex event.id) current.intentID target := by
  have stored : next.ledger.intents.get current.intentID =
      some (acceptedRecord current event target) := by
    rw [accepts.ledger.intents]
    exact get_put_self _ _ _
  exact .accepted stored rfl rfl accepts.delivered rfl

theorem Refuses.owner (refuses : Refuses checks now tx next record event target current)
    (sound : tx.ledger.Sound) (owned : tx.ledger.Owned) :
    Owner next.ledger (ID.hex event.id) current.intentID target := by
  have key : current.intentID = record.intentID := (sound.requests _ _ refuses.found).key
  have unadmitted : tx.intents.get current.intentID = none := by
    cases held : tx.intents.get current.intentID with
    | none => rfl
    | some =>
      rw [key] at held
      have same := owned.paired _ _ _ held refuses.found
      have bound := (sound.admissions _ _ held).bound
      rw [← same, refuses.coordinate] at bound
      exact nomatch bound.symm.trans refuses.free
  have stored : next.ledger.backupPending.get current.intentID =
      some (refusedRecord current event target) := by
    rw [refuses.ledger]
    exact get_put_self _ _ _
  have intents : next.ledger.intents = tx.ledger.intents := by rw [refuses.ledger]
  exact .refused (by rw [intents]; exact unadmitted) stored refuses.refused rfl rfl

theorem Admits.owner
    (admits : Admits checks now tx next entry intentID coordinate requestEventID actor)
    (sound : tx.ledger.Sound) (paired : ∀ request, tx.backupPending.get intentID = some request →
      request.coordinate = coordinate) (owner : Owner tx.ledger (ID.hex id) other target) :
    Owner next.ledger (ID.hex id) other target := by
  refine owner.kept admits.records ?_
  intro unadmitted
  have apart : intentID ≠ other := by
    intro same
    subst same
    cases owner with
    | accepted found => exact nomatch found.symm.trans unadmitted
    | @refused request unadmitted found settled =>
      have held : tx.backupPending.get intentID = some request := found
      have claimed : tx.pendingCoords.get coordinate = some intentID := by
        rw [← paired request held]
        exact (sound.requests _ _ found).claimed
      have admissible := admits.admissible
      simp [Outbox.admissible, claimed, held, settled] at admissible
  rw [admits.ledger]
  exact (get_put_of_ne _ apart _).trans unadmitted

theorem pairs_of_guard
    (same : call.operation = .enqueueBackupRun entry intentID coordinate requestEventID actor)
    (guarded : tx.pairsIntent call = true) (request : BackupRunPending)
    (found : tx.backupPending.get intentID = some request) : request.coordinate = coordinate := by
  simpa [Outbox.pairsIntent, same, found] using guarded

theorem Ledger.Owned.paired_after (owned : tx.ledger.Owned)
    (effect : Effect checks now tx next call.operation) (sound : tx.ledger.Sound)
    (guarded : tx.pairsIntent call = true) (intentID : String) (record : BackupRunAdmission)
    (request : BackupRunPending) (found : next.ledger.intents.get intentID = some record)
    (held : next.ledger.backupPending.get intentID = some request) :
    request.coordinate = record.coordinate := by
  rcases effect.steady_cases sound with
    steady | ⟨entry, intent, coordinate, requestEventID, actor, same, admits⟩ | ⟨filed, _, files⟩
  · obtain ⟨oldRecord, stored, kept⟩ := steady.admission_of found
    obtain ⟨oldRequest, waiting, still⟩ := steady.request_of held
    rw [kept.coordinate, still.coordinate]
    exact owned.paired intentID oldRecord oldRequest stored waiting
  · rw [admits.ledger] at found held
    rcases get_put_cases found with ⟨own, written⟩ | ⟨_, kept⟩
    · subst own written
      exact pairs_of_guard same guarded request held
    · exact owned.paired intentID record request kept held
  · rw [files.ledger] at found held
    rcases get_put_cases held with ⟨own, written⟩ | ⟨_, kept⟩
    · subst own
      exact nomatch files.unadmitted.symm.trans found
    · exact owned.paired intentID record request found kept

theorem Owner.effect (owner : Owner tx.ledger (ID.hex id) intentID target)
    (effect : Effect checks now tx next call.operation) (sound : tx.ledger.Sound)
    (guarded : tx.pairsIntent call = true) : Owner next.ledger (ID.hex id) intentID target := by
  rcases effect.steady_cases sound with
    steady | ⟨entry, intent, coordinate, requestEventID, actor, same, admits⟩ | ⟨filed, _, files⟩
  · exact owner.steady steady
  · exact admits.owner sound (pairs_of_guard same guarded) owner
  · refine owner.kept files.records ?_
    intro unadmitted
    rw [files.ledger]
    exact unadmitted

theorem Effect.status_row (effect : Effect checks now tx next operation) (sound : tx.ledger.Sound)
    (owned : tx.ledger.Owned) (found : next.ledger.statusEvents.get key = some intentID) :
    tx.ledger.statusEvents.get key = some intentID ∨
      ∃ event target, key = ID.hex event.id ∧
        next.entries.get event.id = some (statusEntry event target now) ∧
        Owner next.ledger key intentID target := by
  rcases effect.status_cases with
    same | ⟨record, event, target, current, accepts⟩ | ⟨record, event, target, current, refuses⟩
  · have rows : next.ledger.statusEvents = tx.ledger.statusEvents := same
    exact .inl (rows ▸ found)
  · rw [accepts.statusEvents] at found
    rcases get_put_cases found with ⟨own, written⟩ | ⟨_, old⟩
    · subst own written
      refine .inr ⟨event, target, rfl, ?_, accepts.owner⟩
      rw [accepts.entries]
      exact get_put_self _ _ _
    · exact .inl old
  · have rows : next.ledger.statusEvents =
        tx.ledger.statusEvents.put (ID.hex event.id) current.intentID := by rw [refuses.ledger]; rfl
    rw [rows] at found
    rcases get_put_cases found with ⟨own, written⟩ | ⟨_, old⟩
    · subst own written
      refine .inr ⟨event, target, rfl, ?_, refuses.owner sound owned⟩
      rw [refuses.entries]
      exact get_put_self _ _ _
    · exact .inl old

theorem Ledger.Owned.effect (owned : tx.ledger.Owned)
    (effect : Effect checks now tx next call.operation) (sound : tx.ledger.Sound)
    (guarded : tx.pairsIntent call = true) : next.ledger.Owned := by
  refine ⟨?_, owned.paired_after effect sound guarded⟩
  intro key intentID found
  rcases effect.status_row sound owned found with old | ⟨event, target, same, _, owner⟩
  · obtain ⟨id, target, same, owner⟩ := owned.owners key intentID old
    subst same
    exact ⟨id, target, rfl, owner.effect effect sound guarded⟩
  · exact ⟨event.id, target, same, owner⟩

theorem Ledger.Owned.resolve (owned : tx.ledger.Owned) : StatusOwnersResolve tx := by
  intro key intentID found
  obtain ⟨id, target, _, owner⟩ := owned.owners key intentID found
  cases owner with
  | accepted found staged => exact .inr ⟨_, found, staged⟩
  | refused unadmitted found settled staged => exact .inl ⟨unadmitted, _, found, staged⟩

end Bahia.Localstore
