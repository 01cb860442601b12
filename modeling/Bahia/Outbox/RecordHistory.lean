import Bahia.Outbox.LedgerInvariant

/-! How the records of the backup-run ledger change over time: none is ever removed, each
keeps its identity, and a status once staged stays. -/

namespace Bahia.Localstore
open Foundation Nostr

structure AdmissionKept (old new : BackupRunAdmission) : Prop where
  coordinate : new.coordinate = old.coordinate
  state : new.stateEventID = old.stateEventID
  delivered : old.delivered = true → new.delivered = true
  status : old.statusEventID ≠ "" →
    new.statusEventID = old.statusEventID ∧ new.statusTarget = old.statusTarget ∧
      new.statusOutcome = old.statusOutcome

structure RequestKept (old new : BackupRunPending) : Prop where
  coordinate : new.coordinate = old.coordinate
  state : old.state ≠ .pending → new.state = old.state
  status : old.statusEventID ≠ "" →
    new.statusEventID = old.statusEventID ∧ (old.state = .refused → new.statusTarget = old.statusTarget)

theorem AdmissionKept.refl (record : BackupRunAdmission) : AdmissionKept record record :=
  ⟨rfl, rfl, id, fun _ => ⟨rfl, rfl, rfl⟩⟩

theorem RequestKept.refl (request : BackupRunPending) : RequestKept request request :=
  ⟨rfl, fun _ => rfl, fun _ => ⟨rfl, fun _ => rfl⟩⟩

theorem AdmissionKept.trans (early : AdmissionKept first second)
    (late : AdmissionKept second third) : AdmissionKept first third where
  coordinate := late.coordinate.trans early.coordinate
  state := late.state.trans early.state
  delivered credited := late.delivered (early.delivered credited)
  status present := by
    obtain ⟨event, target, outcome⟩ := early.status present
    obtain ⟨laterEvent, laterTarget, laterOutcome⟩ := late.status (by rw [event]; exact present)
    exact ⟨laterEvent.trans event, laterTarget.trans target, laterOutcome.trans outcome⟩

theorem RequestKept.trans (early : RequestKept first second) (late : RequestKept second third) :
    RequestKept first third where
  coordinate := late.coordinate.trans early.coordinate
  state decided := by
    have kept := early.state decided
    exact (late.state (by rw [kept]; exact decided)).trans kept
  status present := by
    obtain ⟨event, target⟩ := early.status present
    obtain ⟨laterEvent, laterTarget⟩ := late.status (by rw [event]; exact present)
    refine ⟨laterEvent.trans event, ?_⟩
    intro refused
    have kept : second.state = .refused := by
      rw [early.state (by rw [refused]; decide), refused]
    exact (laterTarget kept).trans (target refused)

structure RecordsKept (before after : Ledger) : Prop where
  admissions : ∀ intentID record, before.intents.get intentID = some record →
    ∃ later, after.intents.get intentID = some later ∧ AdmissionKept record later
  requests : ∀ intentID request, before.backupPending.get intentID = some request →
    ∃ later, after.backupPending.get intentID = some later ∧ RequestKept request later

structure Steady (before after : Ledger) : Prop extends RecordsKept before after where
  oldAdmissions : ∀ intentID, before.intents.get intentID = none →
    after.intents.get intentID = none
  oldRequests : ∀ intentID, before.backupPending.get intentID = none →
    after.backupPending.get intentID = none

theorem Steady.tables (steady : Steady before after) :
    Bucket.Evolves AdmissionKept before.intents after.intents ∧
      Bucket.Evolves RequestKept before.backupPending after.backupPending :=
  ⟨⟨steady.admissions, steady.oldAdmissions⟩, steady.requests, steady.oldRequests⟩

theorem Steady.of_tables (admissions : Bucket.Evolves AdmissionKept before.intents after.intents)
    (requests : Bucket.Evolves RequestKept before.backupPending after.backupPending) :
    Steady before after :=
  ⟨⟨admissions.lives, requests.lives⟩, admissions.absent, requests.absent⟩

theorem Steady.trans (early : Steady first second) (late : Steady second third) :
    Steady first third :=
  .of_tables (early.tables.1.trans AdmissionKept.trans late.tables.1)
    (early.tables.2.trans RequestKept.trans late.tables.2)

theorem Steady.admission_of (steady : Steady before after)
    (found : after.intents.get intentID = some record) :
    ∃ old, before.intents.get intentID = some old ∧ AdmissionKept old record :=
  steady.tables.1.source found

theorem Steady.request_of (steady : Steady before after)
    (found : after.backupPending.get intentID = some request) :
    ∃ old, before.backupPending.get intentID = some old ∧ RequestKept old request :=
  steady.tables.2.source found

theorem Steady.of_same (intents : after.intents = before.intents)
    (requests : after.backupPending = before.backupPending) : Steady before after :=
  .of_tables (intents ▸ .refl AdmissionKept.refl _) (requests ▸ .refl RequestKept.refl _)

theorem Steady.refl (ledger : Ledger) : Steady ledger ledger := .of_same rfl rfl

theorem Steady.putAdmission (found : before.intents.get key = some old)
    (kept : AdmissionKept old new) (intents : after.intents = before.intents.put key new)
    (requests : after.backupPending = before.backupPending) : Steady before after :=
  .of_tables (intents ▸ .put AdmissionKept.refl found kept) (requests ▸ .refl RequestKept.refl _)

theorem Steady.putRequest (found : before.backupPending.get key = some old)
    (kept : RequestKept old new) (intents : after.intents = before.intents)
    (requests : after.backupPending = before.backupPending.put key new) : Steady before after :=
  .of_tables (intents ▸ .refl AdmissionKept.refl _) (requests ▸ .put RequestKept.refl found kept)

theorem ProofWritten.steady {round : OutboxRound}
    (written : ProofWritten checks entry round publisher before after) : Steady before after := by
  cases written <;> exact Steady.of_same rfl rfl

theorem AdmissionWritten.steady
    (written : AdmissionWritten checks entry before after) : Steady before after := by
  cases written with
  | unowned | kept => exact Steady.refl before
  | credited owner found =>
    refine Steady.putAdmission found ?_ rfl rfl
    exact ⟨rfl, rfl, fun _ => rfl, fun _ => ⟨rfl, rfl, rfl⟩⟩

theorem StatusWritten.steady
    (written : StatusWritten checks entry before after) : Steady before after := by
  cases written with
  | kept => exact Steady.refl before
  | accepted owner found =>
    refine Steady.putAdmission found ?_ rfl rfl
    exact ⟨rfl, rfl, id, fun _ => ⟨rfl, rfl, rfl⟩⟩
  | refused owner found =>
    refine Steady.putRequest found ?_ rfl rfl
    exact ⟨rfl, fun _ => rfl, fun _ => ⟨rfl, fun _ => rfl⟩⟩

section
variable (accepted : PendingAccepted current before after)
include accepted

theorem PendingAccepted.steady : Steady before after := by
  cases accepted with
  | absent => exact Steady.refl before
  | moved found coordinate waiting =>
    refine Steady.putRequest found ?_ rfl rfl
    exact ⟨rfl, fun decided => absurd waiting decided, fun _ => ⟨rfl, fun _ => rfl⟩⟩

theorem PendingAccepted.intents : after.intents = before.intents := by
  cases accepted <;> rfl

theorem PendingAccepted.events : after.events = before.events := by
  cases accepted <;> rfl

end

theorem Accepts.steady (accepts : Accepts checks now tx next record event target current) :
    Steady tx.ledger next.ledger := by
  refine Steady.trans ?_ accepts.ledger.steady
  have found : tx.ledger.intents.get current.intentID = some current := by
    rw [accepts.intentID]
    exact accepts.found
  refine Steady.putAdmission found ?_ rfl rfl
  exact ⟨rfl, rfl, id, fun present => absurd accepts.vacant present⟩

theorem Refuses.steady (refuses : Refuses checks now tx next record event target current)
    (sound : tx.ledger.Sound) : Steady tx.ledger next.ledger := by
  have found : tx.ledger.backupPending.get current.intentID = some current := by
    rw [(sound.requests _ _ refuses.found).key]
    exact refuses.found
  rw [refuses.ledger]
  refine Steady.putRequest found ?_ rfl rfl
  exact ⟨rfl, fun _ => rfl, fun present => absurd refuses.vacant present⟩

theorem Reschedules.steady (reschedules : Reschedules tx next intentID old new) :
    Steady tx.ledger next.ledger := by
  have kept : RequestKept old new := by
    refine ⟨reschedules.coordinate, fun decided => absurd reschedules.waiting decided, ?_⟩
    intro _
    refine ⟨reschedules.status, ?_⟩
    intro refused
    rw [reschedules.waiting] at refused
    cases refused
  rw [reschedules.rows]
  unfold Outbox.reschedule
  split
  · exact Steady.putRequest reschedules.found kept rfl rfl
  · exact Steady.putRequest reschedules.found kept rfl rfl

theorem Compacts.steady (compacts : Compacts tx next record intentID) (sound : tx.ledger.Sound) :
    Steady tx.ledger next.ledger := by
  have found : tx.ledger.backupPending.get record.intentID = some record := by
    rw [(sound.requests _ _ compacts.found).key]
    exact compacts.found
  rw [compacts.ledger]
  refine Steady.putRequest found ?_ rfl rfl
  exact ⟨rfl, fun _ => rfl, fun _ => ⟨rfl, fun _ => rfl⟩⟩

theorem Effect.steady_cases (effect : Effect checks now tx next operation)
    (sound : tx.ledger.Sound) :
    Steady tx.ledger next.ledger ∨
      (∃ entry intentID coordinate requestEventID actor,
        operation = .enqueueBackupRun entry intentID coordinate requestEventID actor ∧
        Admits checks now tx next entry intentID coordinate requestEventID actor) ∨
      ∃ record, operation = .putBackupRunPending record ∧ Files checks tx next record := by
  cases effect with
  | untouched same => exact .inl (same.2 ▸ Steady.refl tx.ledger)
  | enqueue enqueues | enqueuePublisherDelivery enqueues =>
    exact .inl (enqueues.ledger ▸ Steady.refl tx.ledger)
  | enqueueBackupRun admits => exact .inr (.inl ⟨_, _, _, _, _, rfl, admits⟩)
  | stageAccepted accepts => exact .inl accepts.steady
  | stageRefused refuses => exact .inl (refuses.steady sound)
  | lateRound late => exact .inl (late.proof.steady.trans late.status.steady)
  | liveRound live =>
    exact .inl ((live.proof.steady.trans live.admission.steady).trans live.status.steady)
  | requeue requeues => exact .inl (requeues.ledger ▸ Steady.refl tx.ledger)
  | remove removes => exact .inl (removes.ledger ▸ Steady.refl tx.ledger)
  | put files => exact .inr (.inr ⟨_, rfl, files⟩)
  | reschedule reschedules => exact .inl reschedules.steady
  | compact compacts => exact .inl (compacts.steady sound)

theorem Admits.records
    (admits : Admits checks now tx next entry intentID coordinate requestEventID actor) :
    RecordsKept tx.ledger next.ledger := by
  rw [admits.ledger]
  refine ⟨?_, (Steady.refl tx.ledger).requests⟩
  intro other record found
  have apart : intentID ≠ other := by
    intro same
    subst same
    exact nomatch admits.fresh.symm.trans found
  exact ⟨record, (Bucket.get_put_of_ne _ apart _).trans found, AdmissionKept.refl record⟩

theorem Files.records (files : Files checks tx next record) :
    RecordsKept tx.ledger next.ledger := by
  rw [files.ledger]
  refine ⟨(Steady.refl tx.ledger).admissions, ?_⟩
  intro other request found
  have apart : record.intentID ≠ other := by
    intro same
    subst same
    exact nomatch files.fresh.symm.trans found
  exact ⟨request, (Bucket.get_put_of_ne _ apart _).trans found, RequestKept.refl request⟩

theorem Effect.records (effect : Effect checks now tx next operation) (sound : tx.ledger.Sound) :
    RecordsKept tx.ledger next.ledger := by
  rcases effect.steady_cases sound with steady | ⟨_, _, _, _, _, _, admits⟩ | ⟨_, _, files⟩
  · exact steady.toRecordsKept
  · exact admits.records
  · exact files.records

end Bahia.Localstore
