import Bahia.Outbox.RoundEffects
import Bahia.Outbox.IndexInvariant

/-! What a successful call does to the entries and to the ledger beside them, one case for
each way to succeed. Later invariants are proved from these cases alone. -/

namespace Bahia.Localstore
open Foundation Nostr
variable {checks : Checks} {tx next : Outbox} {now : SInt64}

/-! ### Operator requests -/

def filedRecord (record : BackupRunPending) : BackupRunPending :=
  { record with state := .pending, nextAttemptAt := record.receivedAt, lastFailure := "" }

structure Files (checks : Checks) (tx next : Outbox) (record : BackupRunPending) : Prop where
  valid : checks.validBackupRunPendingIdentity record = true
  fresh : tx.backupPending.get record.intentID = none
  unclaimed : tx.pendingCoords.get record.coordinate = none
  free : tx.coords.get record.coordinate = none
  unadmitted : tx.intents.get record.intentID = none
  entries : next.entries = tx.entries
  ledger : next.ledger =
    { tx.ledger with
      backupPending := tx.backupPending.put record.intentID (filedRecord record)
      pendingCoords := tx.pendingCoords.put record.coordinate record.intentID
      pendingEvents := tx.pendingEvents.put (ID.hex record.requestEvent.id) record.intentID
      due := tx.due.put (backupRunDueKey (filedRecord record)) () }

variable {record : BackupRunPending} {intentID requestEventID : String} {entry : OutboxEntry}

theorem putBackupRunPending_effect
    (success : checks.putBackupRunPending handle tx record = .ok (next, result)) :
    SameRows tx next ∧ (Untouched tx next ∨ Files checks tx next record) := by
  simp only [Checks.putBackupRunPending, bind_ok_iff, refuse_ok_iff] at success
  obtain ⟨_, _, _, valid, _, _, success⟩ := success
  split at success
  · simp only [bind_ok_iff, pure_ok_iff] at success
    obtain ⟨_, _, same⟩ := success
    cases same
    exact ⟨SameRows.refl tx, .inl (Untouched.refl tx)⟩
  · rename_i fresh
    simp only [bind_ok_iff, refuse_ok_iff, pure_ok_iff, Bool.or_eq_false_iff,
      Option.isSome_eq_false_iff, Option.isNone_iff_eq_none] at success
    obtain ⟨_, owners, same⟩ := success
    cases same
    refine ⟨⟨rfl, rfl, rfl, rfl, rfl⟩, .inr ?_⟩
    exact
      { valid := by simpa using valid
        fresh := fresh
        unclaimed := owners.1.1.1
        free := owners.1.2
        unadmitted := owners.2
        entries := rfl
        ledger := rfl }

/-- A pending request on a coordinate that was never admitted gets a new deadline or is
refused; its identity and its status fields stay. -/
structure Reschedules (tx next : Outbox) (intentID : String) (old new : BackupRunPending) :
    Prop where
  found : tx.backupPending.get intentID = some old
  waiting : old.state = .pending
  free : tx.coords.get old.coordinate = none
  intent : new.intentID = old.intentID
  coordinate : new.coordinate = old.coordinate
  received : new.receivedAt = old.receivedAt
  status : new.statusEventID = old.statusEventID
  state : new.state = .pending ∨ new.state = .refused
  rows : next = tx.reschedule intentID old new

theorem pendingRequest_ok (success : tx.pendingRequest intentID requestEventID text = .ok record) :
    tx.backupPending.get intentID = some record := by
  simp only [Outbox.pendingRequest, bind_ok_iff, require_ok_iff, pure_ok_iff] at success
  obtain ⟨found, stored, _, _, same⟩ := success
  rw [← same]
  exact stored

theorem recordAttempt_effect
    (success : recordBackupRunPendingAttempt handle tx intentID requestEventID at' next' reason =
      .ok next) :
    SameRows tx next ∧ (Untouched tx next ∨ ∃ old new, Reschedules tx next intentID old new) := by
  simp only [recordBackupRunPendingAttempt, bind_ok_iff] at success
  obtain ⟨_, _, record, found, success⟩ := success
  split at success
  · cases Except.ok.inj success
    exact ⟨SameRows.refl tx, .inl (Untouched.refl tx)⟩
  rename_i live
  obtain ⟨waiting, free⟩ := not_or.mp live
  obtain ⟨new, shape⟩ : ∃ new, new = (if !Time.after record.expiresAt at' then
      { record with
        attempts := record.attempts + 1, lastFailure := reason, state := .refused
        nextAttemptAt := none }
    else if next'.isNone || Time.after next' record.expiresAt then
      { record with
        attempts := record.attempts + 1, lastFailure := reason
        nextAttemptAt := record.expiresAt }
    else
      { record with
        attempts := record.attempts + 1, lastFailure := reason
        nextAttemptAt := next' } : BackupRunPending) := ⟨_, rfl⟩
  have pending : record.state = .pending := not_not.mp waiting
  have rows : next = tx.reschedule intentID record new := by
    rw [shape]
    exact (Except.ok.inj success).symm
  refine ⟨rows ▸ reschedule_same _ _ _, .inr ⟨record, new, ?_⟩⟩
  have vacant : tx.coords.get record.coordinate = none := by simpa using free
  split at shape
  · subst shape
    exact ⟨pendingRequest_ok found, pending, vacant, rfl, rfl, rfl, rfl, .inr rfl, rows⟩
  split at shape
  · subst shape
    exact ⟨pendingRequest_ok found, pending, vacant, rfl, rfl, rfl, rfl, .inl pending, rows⟩
  · subst shape
    exact ⟨pendingRequest_ok found, pending, vacant, rfl, rfl, rfl, rfl, .inl pending, rows⟩

theorem refusePending_effect
    (success : refuseBackupRunPending handle tx intentID requestEventID reason = .ok next) :
    SameRows tx next ∧ (Untouched tx next ∨ ∃ old new, Reschedules tx next intentID old new) := by
  simp only [refuseBackupRunPending, bind_ok_iff] at success
  obtain ⟨_, _, record, found, success⟩ := success
  split at success
  · cases Except.ok.inj success
    exact ⟨SameRows.refl tx, .inl (Untouched.refl tx)⟩
  rename_i live
  obtain ⟨waiting, free⟩ := not_or.mp live
  cases Except.ok.inj success
  refine ⟨reschedule_same _ _ _, .inr ⟨record,
    { record with state := .refused, lastFailure := reason, nextAttemptAt := none }, ?_⟩⟩
  exact ⟨pendingRequest_ok found, not_not.mp waiting, by simpa using free, rfl, rfl, rfl, rfl,
    .inr rfl, rfl⟩

structure Compacts (tx next : Outbox) (record : BackupRunPending) (intentID : String) : Prop where
  found : tx.backupPending.get intentID = some record
  accepted : record.state = .accepted
  entries : next.entries = tx.entries
  ledger : next.ledger =
    { tx.ledger with
      backupPending := tx.backupPending.put record.intentID (compactBackupRunPending record) }

theorem compactAccepted_effect
    (success : checks.compactBackupRunAccepted handle tx intentID coordinate requestEventID terminal
      target = .ok next) :
    SameRows tx next ∧ (Untouched tx next ∨ ∃ record, Compacts tx next record intentID) := by
  unfold Checks.compactBackupRunAccepted at success
  split at success
  · cases Except.ok.inj success
    exact ⟨SameRows.refl tx, .inl (Untouched.refl tx)⟩
  simp only [bind_ok_iff] at success
  obtain ⟨_, _, success⟩ := success
  split at success
  · cases Except.ok.inj success
    exact ⟨SameRows.refl tx, .inl (Untouched.refl tx)⟩
  simp only [bind_ok_iff, require_ok_iff, refuse_ok_iff] at success
  obtain ⟨record, found, _, compactable, admission, _, _, _, _, _, success⟩ := success
  split at success
  · cases Except.ok.inj success
    exact ⟨SameRows.refl tx, .inl (Untouched.refl tx)⟩
  cases Except.ok.inj success
  simp only [Checks.compactable, Bool.not_eq_false', Bool.and_eq_true, beq_iff_eq] at compactable
  exact ⟨⟨rfl, rfl, rfl, rfl, rfl⟩,
    .inr ⟨record, found, compactable.1.1.1.1.2, rfl, rfl⟩⟩

/-! ### Calls -/

inductive Effect (checks : Checks) (now : SInt64) (tx next : Outbox) : Operation → Prop
  | untouched {operation : Operation} (same : Untouched tx next) :
    Effect checks now tx next operation
  | enqueue {entry : OutboxEntry} (enqueues : Enqueues now tx next entry) :
    Effect checks now tx next (.enqueue entry)
  | enqueuePublisherDelivery {entry : OutboxEntry} (enqueues : Enqueues now tx next entry) :
    Effect checks now tx next (.enqueuePublisherDelivery entry)
  | enqueueBackupRun {entry : OutboxEntry} {intentID coordinate requestEventID actor : String}
    (admits : Admits checks now tx next entry intentID coordinate requestEventID actor) :
    Effect checks now tx next (.enqueueBackupRun entry intentID coordinate requestEventID actor)
  | stageAccepted {record : BackupRunAdmission} {event : Event} {target : String}
    {current : BackupRunAdmission}
    (accepts : Accepts checks now tx next record event target current) :
    Effect checks now tx next (.stageBackupRunAcceptedStatus record event target)
  | stageRefused {record : BackupRunPending} {event : Event} {target : String}
    {current : BackupRunPending}
    (refuses : Refuses checks now tx next record event target current) :
    Effect checks now tx next (.stageBackupRunRefusedStatus record event target)
  | lateRound {id : ID} {round : OutboxRound} {publisher : Bool} {stored : OutboxEntry}
    {proven : Ledger} (late : LateRound checks tx next id round publisher stored proven) :
    Effect checks now tx next
      (if publisher then .commitPublisherRound id round else .commitRound id round)
  | liveRound {id : ID} {round : OutboxRound} {publisher : Bool} {stored updated : OutboxEntry}
    {proven credited : Ledger}
    (live : LiveRound checks tx next id round publisher stored updated proven credited) :
    Effect checks now tx next
      (if publisher then .commitPublisherRound id round else .commitRound id round)
  | requeue {operation : Operation} (requeues : Requeues tx next) :
    Effect checks now tx next operation
  | remove {operation : Operation} (removes : Removes tx next) :
    Effect checks now tx next operation
  | put {record : BackupRunPending} (files : Files checks tx next record) :
    Effect checks now tx next (.putBackupRunPending record)
  | reschedule {operation : Operation} {intentID : String} {old new : BackupRunPending}
    (reschedules : Reschedules tx next intentID old new) : Effect checks now tx next operation
  | compact {operation : Operation} {record : BackupRunPending} {intentID : String}
    (compacts : Compacts tx next record intentID) : Effect checks now tx next operation

theorem enqueue_effect (success : checks.enqueue handle tx entry now = .ok (next, inserted)) :
    (Untouched tx next ∨ Enqueues now tx next entry) ∧ (Indexed tx → Indexed next) := by
  simp only [Checks.enqueue, bind_ok_iff] at success
  obtain ⟨_, _, success⟩ := success
  exact enqueueEntry_effect success

theorem enqueuePublisherDelivery_effect
    (success : checks.enqueuePublisherDelivery handle tx entry now = .ok (next, inserted)) :
    (Untouched tx next ∨ Enqueues now tx next entry) ∧ (Indexed tx → Indexed next) := by
  simp only [Checks.enqueuePublisherDelivery, bind_ok_iff] at success
  obtain ⟨_, _, success⟩ := success
  exact enqueueEntry_effect success

/-- The one kind of call that stores an entry without its coordinate row. -/
def Call.admitsPackageRun (call : Call) : Bool :=
  match call.operation with
  | .enqueueBackupRun _ _ coordinate _ _ => packageCoordinate coordinate
  | _ => false

/-- A successful call has one of these effects, and keeps the indexes exact unless it admits a run
on a package coordinate. -/
theorem perform_effect (success : checks.perform tx call = .ok next) :
    Effect checks call.now tx next call.operation ∧
      (call.admitsPackageRun = false → Indexed tx → Indexed next) := by
  obtain ⟨handle, now, operation⟩ := call
  cases operation with
  | enqueue =>
    obtain ⟨_, performed⟩ := performed_of_fst success
    obtain ⟨same | enqueues, keeps⟩ := enqueue_effect performed
    · exact ⟨.untouched same, fun _ => keeps⟩
    · exact ⟨.enqueue enqueues, fun _ => keeps⟩
  | enqueuePublisherDelivery =>
    obtain ⟨_, performed⟩ := performed_of_fst success
    obtain ⟨same | enqueues, keeps⟩ := enqueuePublisherDelivery_effect performed
    · exact ⟨.untouched same, fun _ => keeps⟩
    · exact ⟨.enqueuePublisherDelivery enqueues, fun _ => keeps⟩
  | enqueueBackupRun =>
    obtain ⟨_, performed⟩ := performed_of_fst success
    obtain ⟨⟨_, same⟩ | ⟨_, admits⟩, keeps⟩ := enqueueBackupRun_effect performed
    · exact ⟨.untouched same, keeps⟩
    · exact ⟨.enqueueBackupRun admits, keeps⟩
  | stageBackupRunAcceptedStatus =>
    obtain ⟨_, performed⟩ := performed_of_fst success
    obtain ⟨⟨_, same⟩ | ⟨_, current, accepts⟩, keeps⟩ := stageAccepted_effect performed
    · exact ⟨.untouched same, fun _ => keeps⟩
    · exact ⟨.stageAccepted accepts, fun _ => keeps⟩
  | stageBackupRunRefusedStatus =>
    obtain ⟨_, performed⟩ := performed_of_fst success
    obtain ⟨⟨_, same⟩ | ⟨_, current, refuses⟩, keeps⟩ := stageRefused_effect performed
    · exact ⟨.untouched same, fun _ => keeps⟩
    · exact ⟨.stageRefused refuses, fun _ => keeps⟩
  | commitRound | commitPublisherRound =>
    obtain ⟨_, performed⟩ := performed_of_fst success
    obtain ⟨⟨_, _, late⟩ | ⟨_, _, _, live, _⟩, keeps⟩ := commitRoundWith_effect performed
    · exact ⟨.lateRound late, fun _ => keeps⟩
    · exact ⟨.liveRound live, fun _ => keeps⟩
  | retry =>
    obtain ⟨_, performed⟩ := performed_of_fst success
    exact ⟨.requeue (retry_effect performed), fun _ indexed => retry_indexed indexed performed⟩
  | retryAllFailed =>
    obtain ⟨_, performed⟩ := performed_of_fst success
    exact ⟨.requeue (retryAllFailed_effect performed),
      fun _ indexed => retryAllFailed_indexed indexed performed⟩
  | prune =>
    obtain ⟨_, performed⟩ := performed_of_fst success
    exact ⟨.remove (prune_effect performed), fun _ indexed => prune_indexed indexed performed⟩
  | purgeEvents =>
    obtain ⟨_, performed⟩ := performed_of_fst success
    exact ⟨.remove (purgeEvents_effect performed), fun _ indexed => purgeEvents_indexed indexed performed⟩
  | putBackupRunPending =>
    obtain ⟨_, performed⟩ := performed_of_fst success
    obtain ⟨rows, same | files⟩ := putBackupRunPending_effect performed
    · exact ⟨.untouched same, fun _ indexed => indexed.of_same rows⟩
    · exact ⟨.put files, fun _ indexed => indexed.of_same rows⟩
  | recordBackupRunPendingAttempt =>
    obtain ⟨rows, same | ⟨_, _, reschedules⟩⟩ := recordAttempt_effect success
    · exact ⟨.untouched same, fun _ indexed => indexed.of_same rows⟩
    · exact ⟨.reschedule reschedules, fun _ indexed => indexed.of_same rows⟩
  | refuseBackupRunPending =>
    obtain ⟨rows, same | ⟨_, _, reschedules⟩⟩ := refusePending_effect success
    · exact ⟨.untouched same, fun _ indexed => indexed.of_same rows⟩
    · exact ⟨.reschedule reschedules, fun _ indexed => indexed.of_same rows⟩
  | compactBackupRunAccepted =>
    obtain ⟨rows, same | ⟨_, compacts⟩⟩ := compactAccepted_effect success
    · exact ⟨.untouched same, fun _ indexed => indexed.of_same rows⟩
    · exact ⟨.compact compacts, fun _ indexed => indexed.of_same rows⟩

theorem after_effect (checks : Checks) (tx : Outbox) (call : Call) :
    Effect checks call.now tx (checks.after tx call) call.operation := by
  rcases after_cases checks tx call with success | unchanged
  · exact (perform_effect success).1
  · rw [unchanged]
    exact .untouched (Untouched.refl tx)

end Bahia.Localstore
