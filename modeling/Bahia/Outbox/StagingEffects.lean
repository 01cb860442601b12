import Bahia.Outbox.Indexes
import Bahia.Outbox.System

/-! What enqueueing and staging write: the entries, and the ledger beside them. The index buckets
stay exact, unless a backup run is admitted on a package coordinate: that stores the entry without
its coordinate row. -/

namespace Bahia.Localstore
open Foundation Nostr

/-- The buckets beside the delivery queue: proofs, run admissions and operator requests. -/
structure Ledger where
  deliveryProofs : Bucket ID DeliveryProof
  intents : Bucket String BackupRunAdmission
  coords : Bucket String String
  events : Bucket String String
  statusEvents : Bucket String String
  backupPending : Bucket String BackupRunPending
  pendingCoords : Bucket String String
  pendingEvents : Bucket String String
  due : Bucket Bytes Unit
  refusals : Bucket String Unit

def Outbox.ledger (tx : Outbox) : Ledger where
  deliveryProofs := tx.deliveryProofs
  intents := tx.intents
  coords := tx.coords
  events := tx.events
  statusEvents := tx.statusEvents
  backupPending := tx.backupPending
  pendingCoords := tx.pendingCoords
  pendingEvents := tx.pendingEvents
  due := tx.due
  refusals := tx.refusals

variable {checks : Checks} {tx next : Outbox} {now : SInt64}

/-! ### Writes that leave the ledger alone -/

section
variable (tx : Outbox)

section
variable (target : String) (event : Event)

@[simp] theorem indexCoordinate_ledger : (tx.indexCoordinate target event).ledger = tx.ledger := by
  unfold Outbox.indexCoordinate
  split <;> rfl

@[simp] theorem indexCoordinate_entries :
    (tx.indexCoordinate target event).entries = tx.entries := by
  unfold Outbox.indexCoordinate
  split <;> rfl

@[simp] theorem unindexCoordinate_ledger :
    (tx.unindexCoordinate target event).ledger = tx.ledger := by
  unfold Outbox.unindexCoordinate
  split <;> rfl

@[simp] theorem unindexCoordinate_entries :
    (tx.unindexCoordinate target event).entries = tx.entries := by
  unfold Outbox.unindexCoordinate
  split <;> rfl

end

@[simp] theorem unindexSettled_ledger (state : EntryState) (key : Bytes) :
    (tx.unindexSettled state key).ledger = tx.ledger := by
  unfold Outbox.unindexSettled
  split <;> rfl

@[simp] theorem unindexSettled_entries (state : EntryState) (key : Bytes) :
    (tx.unindexSettled state key).entries = tx.entries := by
  unfold Outbox.unindexSettled
  split <;> rfl

theorem raiseStatusClock_rows (key : Bytes) (createdAt : Timestamp) :
    SameRows tx (raiseStatusClock tx key createdAt) ∧
      (raiseStatusClock tx key createdAt).ledger = tx.ledger := by
  unfold raiseStatusClock
  split
  · exact ⟨SameRows.refl tx, rfl⟩
  · exact ⟨⟨rfl, rfl, rfl, rfl, rfl⟩, rfl⟩

theorem recordTimestamp_rows (event : Event) :
    SameRows tx (checks.recordBackupRunStatusTimestamp tx event) ∧
      (checks.recordBackupRunStatusTimestamp tx event).ledger = tx.ledger := by
  unfold Checks.recordBackupRunStatusTimestamp
  split
  · exact ⟨SameRows.refl tx, rfl⟩
  · exact raiseStatusClock_rows tx _ _

@[simp] theorem recordTimestamp_ledger (event : Event) :
    (checks.recordBackupRunStatusTimestamp tx event).ledger = tx.ledger :=
  (recordTimestamp_rows tx event).2

@[simp] theorem recordTimestamp_entries (event : Event) :
    (checks.recordBackupRunStatusTimestamp tx event).entries = tx.entries :=
  (recordTimestamp_rows tx event).1.entries

end

variable {event : Event}

variable {coordinate target : String} {entry : OutboxEntry} {record : BackupRunAdmission}

theorem recordCoordinateTimestamp_rows
    (success : recordBackupRunCoordinateStatusTimestamp tx event coordinate = .ok next) :
    SameRows tx next ∧ next.ledger = tx.ledger := by
  unfold recordBackupRunCoordinateStatusTimestamp at success
  split at success
  · cases success
  · cases Except.ok.inj success
    exact raiseStatusClock_rows tx _ _

theorem SameRows.indexCoordinate (same : SameRows tx next) (target : String) (event : Event) :
    SameRows (tx.indexCoordinate target event) (next.indexCoordinate target event) := by
  unfold Outbox.indexCoordinate
  split
  · exact ⟨same.entries, same.pending, same.published, same.failed, by rw [same.coordinates]⟩
  · exact same

theorem reschedule_same (intentID : String) (old new : BackupRunPending) :
    SameRows tx (tx.reschedule intentID old new) := by
  unfold Outbox.reschedule
  split <;> exact ⟨rfl, rfl, rfl, rfl, rfl⟩

/-! ### Enqueueing and staging -/

def Untouched (tx next : Outbox) : Prop := next.entries = tx.entries ∧ next.ledger = tx.ledger

theorem Untouched.refl (tx : Outbox) : Untouched tx tx := ⟨rfl, rfl⟩

structure Enqueues (now : SInt64) (tx next : Outbox) (entry : OutboxEntry) : Prop where
  absent : tx.entries.get entry.event.id = none
  entries : next.entries = tx.entries.put entry.event.id (entry.admitted now)
  ledger : next.ledger = tx.ledger

theorem enqueueEntry_effect
    (success : checks.enqueueEntry handle tx entry now = .ok (next, inserted)) :
    (Untouched tx next ∨ Enqueues now tx next entry) ∧ (Indexed tx → Indexed next) := by
  unfold Checks.enqueueEntry at success
  simp only [bind_ok_iff] at success
  obtain ⟨_, _, _, _, _, _, success⟩ := success
  split at success
  · cases Except.ok.inj success
    exact ⟨.inl (Untouched.refl tx), fun indexed => indexed⟩
  rename_i absent
  cases Except.ok.inj success
  refine ⟨.inr ⟨absent, ?_, ?_⟩, ?_⟩
  · rw [indexCoordinate_entries, recordTimestamp_entries]
    rfl
  · rw [indexCoordinate_ledger, recordTimestamp_ledger]
    rfl
  · intro indexed
    have inserted := indexed.insert absent rfl
    exact inserted.of_same ((recordTimestamp_rows _ _).1.indexCoordinate _ _)

def admissionRecord (entry : OutboxEntry) (intentID coordinate requestEventID actor : String) :
    BackupRunAdmission where
  intentID := intentID
  coordinate := coordinate
  requestEventID := requestEventID
  stateEventID := ID.hex entry.event.id
  target := entry.target
  actor := actor
  servicePubkey := PubKey.hex entry.event.pubKey
  delivered := false
  statusEventID := ""
  statusTarget := ""
  statusOutcome := ""
  statusDelivered := false

structure Admits (checks : Checks) (now : SInt64) (tx next : Outbox) (entry : OutboxEntry)
    (intentID coordinate requestEventID actor : String) : Prop where
  canonical : checks.canonicalRunState entry coordinate = true
  fresh : tx.intents.get intentID = none
  free : tx.coords.get coordinate = none
  admissible : tx.admissible intentID coordinate requestEventID = true
  absent : tx.entries.get entry.event.id = none
  entries : next.entries = tx.entries.put entry.event.id (entry.admitted now)
  ledger : next.ledger =
    { tx.ledger with
      intents := tx.intents.put intentID
        (admissionRecord entry intentID coordinate requestEventID actor)
      coords := tx.coords.put coordinate intentID
      events := tx.events.put (ID.hex entry.event.id) intentID }

theorem oneBackupRunTag_value (one : oneBackupRunTag tags key want = true) :
    Tags.value tags key = want := by
  have values : tagValues tags key = [want] := by simpa [oneBackupRunTag] using one
  have first : Tags.find tags key = (tagValues tags key).head? := by
    rw [tagValues, List.head?_filterMap]
    rfl
  rw [Tags.value, first, values]
  rfl

/-- The coordinate prefix of package entries, the only ones with a coordinate row. -/
def packageCoordinate (d : String) : Bool := hasPrefix d "artifact:sbom-package:"

theorem coordinateKey_of_other (other : packageCoordinate (Tags.getD event.tags) = false) :
    outboxCoordinateKey target event = none := by
  unfold outboxCoordinateKey
  split
  · rfl
  · rw [if_pos]
    simpa [packageCoordinate] using other

theorem canonicalRunState_d (canonical : checks.canonicalRunState entry coordinate = true) :
    Tags.getD entry.event.tags = coordinate := by
  simp only [Checks.canonicalRunState, Bool.and_eq_true] at canonical
  obtain ⟨⟨⟨⟨_, one⟩, _⟩, _⟩, _⟩ := canonical
  exact oneBackupRunTag_value one

theorem enqueueBackupRun_effect
    (success : checks.enqueueBackupRun handle tx entry intentID coordinate requestEventID actor now =
      .ok (next, record, inserted)) :
    ((inserted = false ∧ Untouched tx next) ∨
      (inserted = true ∧
        Admits checks now tx next entry intentID coordinate requestEventID actor)) ∧
      (packageCoordinate coordinate = false → Indexed tx → Indexed next) := by
  unfold Checks.enqueueBackupRun at success
  simp only [bind_ok_iff, refuse_ok_iff, context_ok_iff] at success
  obtain ⟨_, _, _, _, _, _, _, _, _, canonical, success⟩ := success
  split at success
  · simp only [bind_ok_iff, pure_ok_iff] at success
    obtain ⟨_, _, same⟩ := success
    cases same
    exact ⟨.inl ⟨rfl, Untouched.refl tx⟩, fun _ indexed => indexed⟩
  · rename_i fresh
    simp only [bind_ok_iff, refuse_ok_iff, pure_ok_iff] at success
    obtain ⟨_, free, _, admissible, _, absent, same⟩ := success
    cases same
    refine ⟨.inr ⟨rfl, ?_⟩, ?_⟩
    · exact
        { canonical := by simpa using canonical
          fresh := fresh
          free := by simpa using free
          admissible := by simpa using admissible
          absent := by simpa [OutboxEntry.admitted] using absent
          entries := rfl
          ledger := rfl }
    · intro other indexed
      have d : Tags.getD entry.event.tags = coordinate :=
        canonicalRunState_d (by simpa using canonical)
      -- Without a package coordinate the full insertion writes no coordinate row.
      have stored : Indexed ((tx.insertPending (entry.admitted now)).indexCoordinate entry.target
          entry.event) := indexed.insert (by simpa using absent) rfl
      rw [Outbox.indexCoordinate, coordinateKey_of_other (by rw [← other, ← d])] at stored
      exact stored.of_same ⟨rfl, rfl, rfl, rfl, rfl⟩

section
variable (checks : Checks) (tx : Outbox) (now : SInt64) (event : Event) (target intentID : String)

theorem stageStatus_entries : (checks.stageStatus tx event target intentID now).entries =
      tx.entries.put event.id (statusEntry event target now) := by
  unfold Checks.stageStatus
  rw [recordTimestamp_entries]
  exact indexCoordinate_entries _ _ _

theorem stageStatus_ledger : (checks.stageStatus tx event target intentID now).ledger =
      { tx.ledger with statusEvents := tx.statusEvents.put (ID.hex event.id) intentID } := by
  have indexed := indexCoordinate_ledger (tx.insertPending (statusEntry event target now)) target
    event
  unfold Checks.stageStatus
  rw [recordTimestamp_ledger]
  have rows : (tx.insertPending (statusEntry event target now)).ledger = tx.ledger := rfl
  rw [rows] at indexed
  simp only [Outbox.ledger, Ledger.mk.injEq] at indexed ⊢
  simp [indexed]

end

theorem stageStatus_indexed (checks : Checks) (now : SInt64) (indexed : Indexed tx)
    (target intentID : String) (absent : tx.entries.get event.id = none) :
    Indexed (checks.stageStatus tx event target intentID now) := by
  have stored : Indexed ((tx.insertPending (statusEntry event target now)).indexCoordinate target
      event) := indexed.insert absent rfl
  apply stored.of_same
  refine SameRows.trans ?_ (recordTimestamp_rows _ event).1
  exact ⟨rfl, rfl, rfl, rfl, rfl⟩

/-- The request of an admission, if there is one, turns accepted and leaves the due index. -/
inductive PendingAccepted (current : BackupRunAdmission) (before : Ledger) : Ledger → Prop
  | absent (none : before.backupPending.get current.intentID = none) :
    PendingAccepted current before before
  | moved {pending : BackupRunPending}
    (found : before.backupPending.get current.intentID = some pending)
    (coordinate : pending.coordinate = current.coordinate) (waiting : pending.state = .pending) :
    PendingAccepted current before
      { before with
        backupPending :=
          before.backupPending.put current.intentID { pending with state := .accepted }
        due := before.due.delete (backupRunDueKey pending) }

theorem acceptPending_effect (success : tx.acceptPending current = .ok next) :
    SameRows tx next ∧ PendingAccepted current tx.ledger next.ledger := by
  unfold Outbox.acceptPending at success
  split at success
  · rename_i absent
    cases Except.ok.inj success
    exact ⟨SameRows.refl tx, .absent absent⟩
  rename_i found
  simp only [bind_ok_iff, refuse_ok_iff, pure_ok_iff] at success
  obtain ⟨_, kept, same⟩ := success
  subst same
  simp only [Bool.or_eq_false_iff, bne_eq_false_iff_eq] at kept
  exact ⟨⟨rfl, rfl, rfl, rfl, rfl⟩, .moved found kept.1.1 kept.2⟩

def acceptedRecord (current : BackupRunAdmission) (event : Event) (target : String) :
    BackupRunAdmission :=
  { current with
    statusEventID := ID.hex event.id, statusTarget := target, statusOutcome := "accepted" }

structure Accepts (checks : Checks) (now : SInt64) (tx next : Outbox) (record : BackupRunAdmission)
    (event : Event) (target : String) (current : BackupRunAdmission) : Prop where
  signed : checks.signed event = true
  kind : event.kind = nip38Status
  found : tx.intents.get record.intentID = some current
  intentID : current.intentID = record.intentID
  coordinate : current.coordinate = record.coordinate
  vacant : current.statusEventID = ""
  delivered : current.delivered = true
  absent : tx.entries.get event.id = none
  entries : next.entries = tx.entries.put event.id (statusEntry event target now)
  ledger : PendingAccepted current
    { tx.ledger with
      statusEvents := tx.statusEvents.put (ID.hex event.id) current.intentID
      intents := tx.intents.put current.intentID (acceptedRecord current event target) }
    next.ledger

theorem stageAccepted_effect
    (success : checks.stageBackupRunAcceptedStatus handle tx record event target now =
      .ok (next, statusID, inserted)) :
    ((inserted = false ∧ Untouched tx next) ∨
      (inserted = true ∧ ∃ current, Accepts checks now tx next record event target current)) ∧
      (Indexed tx → Indexed next) := by
  unfold Checks.stageBackupRunAcceptedStatus at success
  simp only [bind_ok_iff, refuse_ok_iff, require_ok_iff] at success
  obtain ⟨_, _, _, correlated, _, _, current, found, _, same, success⟩ := success
  split at success
  · simp only [bind_ok_iff, pure_ok_iff] at success
    obtain ⟨_, _, unchanged⟩ := success
    cases unchanged
    exact ⟨.inl ⟨rfl, Untouched.refl tx⟩, fun indexed => indexed⟩
  · rename_i vacant
    simp only [bind_ok_iff, refuse_ok_iff, pure_ok_iff] at success
    obtain ⟨_, delivered, _, _, _, absent, accepted, pending, stored⟩ := success
    cases stored
    obtain ⟨rest, moved⟩ := acceptPending_effect pending
    have rows := stageStatus_ledger checks tx now event target current.intentID
    simp only [Bool.or_eq_false_iff, Bool.not_eq_false', bne_eq_false_iff_eq,
      Option.isSome_eq_false_iff, Option.isNone_iff_eq_none] at correlated same absent
    refine ⟨.inr ⟨rfl, current, ?_⟩, ?_⟩
    · refine
        { signed := correlated.1.1.1
          kind := correlated.1.1.2
          found := found
          intentID := same.1.1.1.1.1
          coordinate := same.1.1.1.1.2
          vacant := not_not.mp vacant
          delivered := by simpa using delivered
          absent := absent
          entries := rest.entries.trans (stageStatus_entries checks tx now event target _)
          ledger := ?_ }
      simp only [Outbox.ledger, Ledger.mk.injEq] at rows moved ⊢
      simp only [rows] at moved
      exact moved
    · intro indexed
      have staged := stageStatus_indexed checks now indexed target current.intentID absent
      refine staged.of_same (SameRows.trans ?_ rest)
      exact ⟨rfl, rfl, rfl, rfl, rfl⟩

def refusedRecord (current : BackupRunPending) (event : Event) (target : String) :
    BackupRunPending :=
  compactBackupRunPending
    { current with statusEventID := ID.hex event.id, statusTarget := target }

/-- The first refused status of a refused request whose coordinate was never admitted. -/
structure Refuses (checks : Checks) (now : SInt64) (tx next : Outbox) (record : BackupRunPending)
    (event : Event) (target : String) (current : BackupRunPending) : Prop where
  signed : checks.signed event = true
  kind : event.kind = nip38Status
  found : tx.backupPending.get record.intentID = some current
  refused : current.state = .refused
  coordinate : current.coordinate = record.coordinate
  free : tx.coords.get record.coordinate = none
  vacant : current.statusEventID = ""
  absent : tx.entries.get event.id = none
  entries : next.entries = tx.entries.put event.id (statusEntry event target now)
  ledger : next.ledger =
    { tx.ledger with
      statusEvents := tx.statusEvents.put (ID.hex event.id) current.intentID
      backupPending := tx.backupPending.put current.intentID (refusedRecord current event target)
      refusals := tx.refusals.delete current.intentID }

theorem refusedStatus_kind (refused : isBackupRunRefusedStatusEvent event = true) :
    event.kind = nip38Status := by
  simp only [isBackupRunRefusedStatusEvent, isBackupRunStatusEvent, Bool.and_eq_true,
    beq_iff_eq] at refused
  exact refused.1.1.1.1

theorem stageRefused_effect {record : BackupRunPending}
    (success : checks.stageBackupRunRefusedStatus handle tx record event target now =
      .ok (next, statusID, inserted)) :
    ((inserted = false ∧ Untouched tx next) ∨
      (inserted = true ∧ ∃ current, Refuses checks now tx next record event target current)) ∧
      (Indexed tx → Indexed next) := by
  unfold Checks.stageBackupRunRefusedStatus at success
  simp only [bind_ok_iff, refuse_ok_iff, require_ok_iff] at success
  obtain ⟨_, _, _, correlated, _, _, current, found, _, same, success⟩ := success
  split at success
  · cases Except.ok.inj success
    exact ⟨.inl ⟨rfl, Untouched.refl tx⟩, fun indexed => indexed⟩
  rename_i vacant
  simp only [bind_ok_iff, refuse_ok_iff, pure_ok_iff] at success
  obtain ⟨_, _, _, absent, clocked, clock, stored⟩ := success
  cases stored
  obtain ⟨clocks, ledger⟩ := recordCoordinateTimestamp_rows clock
  have rows := stageStatus_ledger checks tx now event target current.intentID
  simp only [Bool.or_eq_false_iff, Bool.not_eq_false', bne_eq_false_iff_eq,
    Option.isSome_eq_false_iff, Option.isNone_iff_eq_none] at correlated same absent
  refine ⟨.inr ⟨rfl, current, ?_⟩, ?_⟩
  · refine
      { signed := correlated.1.1.1.2
        kind := refusedStatus_kind correlated.1.2
        found := found
        refused := same.1.1.1.1.1.1
        coordinate := same.1.1.1.1.1.2
        free := same.2
        vacant := not_not.mp vacant
        absent := absent
        entries := clocks.entries.trans (stageStatus_entries checks tx now event target _)
        ledger := ?_ }
    rw [rows] at ledger
    simp only [Outbox.ledger, Ledger.mk.injEq] at ledger ⊢
    simp [ledger, refusedRecord]
  · intro indexed
    have staged := stageStatus_indexed checks now indexed target current.intentID absent
    exact (staged.of_same clocks).of_same ⟨rfl, rfl, rfl, rfl, rfl⟩

end Bahia.Localstore
