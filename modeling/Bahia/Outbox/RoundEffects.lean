import Bahia.Outbox.StagingEffects

/-! What a committed delivery round writes: the proof, the admission it credits and the
status it settles. -/

namespace Bahia.Localstore
open Foundation Nostr
variable {checks : Checks} {tx next : Outbox}

/-- The proof part of a round: a proof is written only by a publisher round that reports a
quorum for an event without one. -/
inductive ProofWritten (checks : Checks) (entry : OutboxEntry) (round : OutboxRound)
    (publisher : Bool) (before : Ledger) : Ledger → Prop
  | kept : ProofWritten checks entry round publisher before before
  | minted {proof : DeliveryProof} (fromPublisher : publisher = true)
    (delivered : round.delivered = true)
    (absent : before.deliveryProofs.get entry.event.id = none)
    (event : proof.event = entry.event) (target : proof.target = entry.target)
    (policy : proof.policy = round.policy)
    (outcomes : proof.relayOK = relayOutcomes round.relays round.policy)
    (valid : checks.validFor proof entry.event entry.target = true) :
    ProofWritten checks entry round publisher before
      { before with deliveryProofs := before.deliveryProofs.put entry.event.id proof }

variable {entry : OutboxEntry} {round : OutboxRound} {publisher : Bool} {id : ID}

theorem recordPublisherProof_effect
    (success : checks.recordPublisherProof tx entry round atTime publisher = .ok next) :
    SameRows tx next ∧ ProofWritten checks entry round publisher tx.ledger next.ledger := by
  unfold Checks.recordPublisherProof at success
  split at success
  · cases Except.ok.inj success
    exact ⟨SameRows.refl tx, .kept⟩
  rename_i reported
  split at success
  · cases Except.ok.inj success
    exact ⟨SameRows.refl tx, .kept⟩
  rename_i absent
  simp only [bind_ok_iff, pure_ok_iff, require_ok_iff] at success
  obtain ⟨proof, canonical, same⟩ := success
  subst same
  simp only [Checks.canonicalDeliveryProof] at canonical
  simp only [Bool.or_eq_true, Bool.not_eq_true', not_or, Bool.not_eq_false] at reported
  split at canonical
  · cases canonical
  split at canonical
  · rename_i valid
    cases Option.some.inj canonical
    have unproven : tx.deliveryProofs.get entry.event.id = none := by simpa using absent
    exact ⟨⟨rfl, rfl, rfl, rfl, rfl⟩, .minted reported.1.1 reported.1.2 unproven rfl rfl rfl rfl valid⟩
  · cases canonical

/-- The admission part of a round on a pending entry. -/
inductive AdmissionWritten (checks : Checks) (entry : OutboxEntry) (before : Ledger) :
    Ledger → Prop
  | unowned (none : before.events.get (ID.hex entry.event.id) = none) :
    AdmissionWritten checks entry before before
  | kept {intentID : String} {record : BackupRunAdmission}
    (owner : before.events.get (ID.hex entry.event.id) = some intentID)
    (found : before.intents.get intentID = some record)
    (settled : record.delivered = true ∨ entry.delivered = false) :
    AdmissionWritten checks entry before before
  | credited {intentID : String} {record : BackupRunAdmission} {proof : DeliveryProof}
    (owner : before.events.get (ID.hex entry.event.id) = some intentID)
    (found : before.intents.get intentID = some record)
    (state : record.stateEventID = ID.hex entry.event.id)
    (proven : before.deliveryProofs.get entry.event.id = some proof) :
    AdmissionWritten checks entry before
      { before with intents := before.intents.put intentID { record with delivered := true } }

theorem proven_iff :
    checks.proven tx event target = true ↔
      ∃ proof, tx.deliveryProofs.get event.id = some proof ∧
        checks.validFor proof event target = true := by
  unfold Checks.proven
  cases tx.deliveryProofs.get event.id with
  | none | some => simp

theorem updateAdmissionDelivery_effect
    (success : checks.updateBackupRunAdmissionDelivery tx entry = .ok next) :
    SameRows tx next ∧ AdmissionWritten checks entry tx.ledger next.ledger := by
  unfold Checks.updateBackupRunAdmissionDelivery at success
  split at success
  · rename_i unowned
    cases Except.ok.inj success
    exact ⟨SameRows.refl tx, .unowned unowned⟩
  rename_i owner
  simp only [bind_ok_iff, require_ok_iff, refuse_ok_iff] at success
  obtain ⟨record, found, _, state, success⟩ := success
  split at success
  · rename_i settled
    cases Except.ok.inj success
    exact ⟨SameRows.refl tx, .kept owner found (by simpa using settled)⟩
  · simp only [bind_ok_iff, refuse_ok_iff, pure_ok_iff] at success
    obtain ⟨_, proven, same⟩ := success
    subst same
    obtain ⟨proof, stored, _⟩ := proven_iff.mp (by simpa using proven)
    exact ⟨⟨rfl, rfl, rfl, rfl, rfl⟩, .credited owner found (by simpa using state) stored⟩

/-- The status part of a round: the record that staged this event as its status learns of
its delivery. -/
inductive StatusWritten (checks : Checks) (entry : OutboxEntry) (before : Ledger) : Ledger → Prop
  | kept : StatusWritten checks entry before before
  | accepted {intentID : String} {record : BackupRunAdmission}
    (owner : before.statusEvents.get (ID.hex entry.event.id) = some intentID)
    (found : before.intents.get intentID = some record) (admitted : record.delivered = true)
    (staged : record.statusEventID = ID.hex entry.event.id) :
    StatusWritten checks entry before
      { before with intents := before.intents.put intentID { record with statusDelivered := true } }
  | refused {intentID : String} {record : BackupRunPending}
    (owner : before.statusEvents.get (ID.hex entry.event.id) = some intentID)
    (found : before.backupPending.get intentID = some record) (settled : record.state = .refused)
    (staged : record.statusEventID = ID.hex entry.event.id) :
    StatusWritten checks entry before
      { before with
        backupPending := before.backupPending.put intentID { record with statusDelivered := true } }

theorem updateRefusalDelivery_effect
    (owner : tx.statusEvents.get (ID.hex entry.event.id) = some intentID)
    (success : checks.updateBackupRunRefusalDelivery tx entry intentID = .ok next) :
    SameRows tx next ∧ StatusWritten checks entry tx.ledger next.ledger := by
  unfold Checks.updateBackupRunRefusalDelivery at success
  split at success
  · cases Except.ok.inj success
    exact ⟨SameRows.refl tx, .kept⟩
  simp only [bind_ok_iff, require_ok_iff, refuse_ok_iff] at success
  obtain ⟨record, found, _, same, success⟩ := success
  split at success
  · cases Except.ok.inj success
    exact ⟨SameRows.refl tx, .kept⟩
  simp only [bind_ok_iff, pure_ok_iff] at success
  obtain ⟨_, _, stored⟩ := success
  subst stored
  simp only [Bool.or_eq_false_iff, bne_eq_false_iff_eq] at same
  exact ⟨⟨rfl, rfl, rfl, rfl, rfl⟩, .refused owner found same.1.1 same.1.2⟩

theorem updateStatusDelivery_effect
    (success : checks.updateBackupRunStatusDelivery tx entry = .ok next) :
    SameRows tx next ∧ StatusWritten checks entry tx.ledger next.ledger := by
  unfold Checks.updateBackupRunStatusDelivery at success
  split at success
  · cases Except.ok.inj success
    exact ⟨SameRows.refl tx, .kept⟩
  rename_i owner
  split at success
  · cases Except.ok.inj success
    exact ⟨SameRows.refl tx, .kept⟩
  split at success
  · exact updateRefusalDelivery_effect owner success
  rename_i found
  simp only [bind_ok_iff, refuse_ok_iff] at success
  obtain ⟨_, same, success⟩ := success
  split at success
  · cases Except.ok.inj success
    exact ⟨SameRows.refl tx, .kept⟩
  simp only [bind_ok_iff, pure_ok_iff] at success
  obtain ⟨_, _, stored⟩ := success
  subst stored
  simp only [Bool.or_eq_false_iff, bne_eq_false_iff_eq, Bool.not_eq_false'] at same
  exact ⟨⟨rfl, rfl, rfl, rfl, rfl⟩, .accepted owner found same.1.2 same.1.1.1⟩

structure SameEvent (before after : OutboxEntry) : Prop where
  event : after.event = before.event
  target : after.target = before.target

structure LateRound (checks : Checks) (tx next : Outbox) (id : ID) (round : OutboxRound)
    (publisher : Bool) (stored : OutboxEntry) (proven : Ledger) : Prop where
  found : tx.entries.get id = some stored
  settled : stored.state ≠ .pending
  target : publisher = true → round.target = stored.target
  proof : ProofWritten checks stored round publisher tx.ledger proven
  status : StatusWritten checks stored proven next.ledger
  entries : next.entries = tx.entries

structure LiveRound (checks : Checks) (tx next : Outbox) (id : ID) (round : OutboxRound)
    (publisher : Bool) (stored updated : OutboxEntry) (proven credited : Ledger) : Prop where
  found : tx.entries.get id = some stored
  pending : stored.state = .pending
  target : publisher = true → round.target = stored.target
  same : SameEvent stored updated
  delivered : updated.delivered = (stored.delivered || round.delivered)
  proof : ProofWritten checks updated round publisher tx.ledger proven
  admission : AdmissionWritten checks updated proven credited
  status : StatusWritten checks updated credited next.ledger
  entries : next.entries = tx.entries.put id updated

theorem settleRound_effect (success : tx.settleRound id stored state atTime = .ok settled) :
    settled.1.entries = tx.entries ∧ settled.1.ledger = tx.ledger ∧
      SameEvent stored settled.2 ∧ settled.2.delivered = stored.delivered := by
  cases state with
  | blank =>
    cases Except.ok.inj success
    exact ⟨rfl, rfl, ⟨rfl, rfl⟩, rfl⟩
  | unknown => cases success
  | reported state =>
    cases state with
    | pending | published | failed =>
      cases Except.ok.inj success
      exact ⟨rfl, rfl, ⟨rfl, rfl⟩, rfl⟩

theorem settleRound_indexed (indexed : Indexed tx) (found : tx.entries.get id = some stored)
    (pending : stored.state = .pending)
    (success : tx.settleRound id (stored.mergeRound round) round.state atTime = .ok settled) :
    Indexed { settled.1 with entries := settled.1.entries.put id settled.2 } := by
  have update : Indexed { tx with entries := tx.entries.put id (stored.mergeRound round) } :=
    indexed.update found ⟨rfl, rfl, rfl⟩ rfl rfl
  have settle (state : EntryState) (other : state ≠ .pending) :=
    indexed.settle found pending
      (show SameIdentity stored { stored.mergeRound round with state := state, settledAt := atTime }
        from ⟨rfl, rfl, rfl⟩) other
  cases outcome : round.state with
  | blank =>
    rw [outcome] at success
    cases Except.ok.inj success
    exact update
  | unknown =>
    rw [outcome] at success
    cases success
  | reported state =>
    rw [outcome] at success
    cases state with
    | pending =>
      cases Except.ok.inj success
      exact update
    | published =>
      cases Except.ok.inj success
      exact settle .published (by decide)
    | failed =>
      cases Except.ok.inj success
      exact settle .failed (by decide)

theorem commitRoundWith_effect
    (success : checks.commitRoundWith handle tx id round publisher now = .ok (next, result)) :
    ((∃ stored proven, LateRound checks tx next id round publisher stored proven) ∨
      ∃ stored proven credited, LiveRound checks tx next id round publisher stored result proven credited ∧
        ∃ rest atTime, tx.settleRound id (stored.mergeRound round) round.state atTime =
          .ok (rest, result)) ∧ (Indexed tx → Indexed next) := by
  unfold Checks.commitRoundWith at success
  simp only [bind_ok_iff, context_ok_iff, require_ok_iff, refuse_ok_iff] at success
  obtain ⟨_, _, stored, found, _, _, _, target, success⟩ := success
  have aimed : publisher = true → round.target = stored.target := by
    intro fromPublisher
    simpa [fromPublisher] using target
  split at success
  · rename_i settled
    simp only [bind_ok_iff, pure_ok_iff] at success
    obtain ⟨proven, proof, updated, status, same⟩ := success
    cases same
    obtain ⟨proofRows, proofLedger⟩ := recordPublisherProof_effect proof
    obtain ⟨statusRows, statusLedger⟩ := updateStatusDelivery_effect status
    refine ⟨.inl ⟨_, proven.ledger, found, settled, aimed, proofLedger, statusLedger,
      statusRows.entries.trans proofRows.entries⟩, ?_⟩
    exact fun indexed => indexed.of_same (proofRows.trans statusRows)
  · rename_i pending
    simp only [bind_ok_iff, pure_ok_iff] at success
    obtain ⟨settled, settle, proven, proof, credited, admission, updated, status, same⟩ := success
    cases same
    obtain ⟨rows, ledger, sameEvent, delivered⟩ := settleRound_effect settle
    obtain ⟨proofRows, proofLedger⟩ := recordPublisherProof_effect proof
    obtain ⟨admissionRows, admissionLedger⟩ := updateAdmissionDelivery_effect admission
    obtain ⟨statusRows, statusLedger⟩ := updateStatusDelivery_effect status
    have start : ({ settled.1 with entries := settled.1.entries.put id settled.2 } : Outbox).ledger =
        tx.ledger := ledger
    rw [start] at proofLedger
    have written := proofRows.trans (admissionRows.trans statusRows)
    refine ⟨.inr ⟨stored, proven.ledger, credited.ledger, ?_, settled.1, _, settle⟩, ?_⟩
    · exact
        { found := found
          pending := not_not.mp pending
          target := aimed
          same := ⟨sameEvent.event, sameEvent.target⟩
          delivered := delivered
          proof := proofLedger
          admission := admissionLedger
          status := statusLedger
          entries := by rw [written.entries, rows] }
    · intro indexed
      exact (settleRound_indexed indexed found (not_not.mp pending) settle).of_same written

end Bahia.Localstore
