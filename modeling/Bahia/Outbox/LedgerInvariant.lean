import Bahia.Outbox.Proofs

/-! What every run of outbox calls keeps of the backup-run ledger: records agree with the
bindings of their intents and coordinates, a delivered admission has its proof, and a refused
request holds a coordinate that was never admitted. -/

namespace Bahia.Localstore
open Foundation Nostr Bucket

/-- An admission is stored under its intent and owns its coordinate; it is credited only
with a proof, and carries a status only once credited. -/
structure AdmissionSound (coords : Bucket String String) (proofs : Bucket ID DeliveryProof)
    (intentID : String) (record : BackupRunAdmission) : Prop where
  key : record.intentID = intentID
  bound : coords.get record.coordinate = some intentID
  state : ∃ id, record.stateEventID = ID.hex id ∧ (record.delivered = true → id ∈ proofs)
  settled : record.statusDelivered = true → record.delivered = true
  staged : record.statusEventID ≠ "" → record.delivered = true

/-- A request is stored under its intent and claims its coordinate; once refused, the
coordinate has no admission. -/
structure RequestSound (coords claims : Bucket String String) (intentID : String)
    (request : BackupRunPending) : Prop where
  key : request.intentID = intentID
  claimed : claims.get request.coordinate = some intentID
  refused : request.state = .refused → coords.get request.coordinate = none

structure Ledger.Sound (ledger : Ledger) : Prop where
  admissions : ∀ intentID record, ledger.intents.get intentID = some record →
    AdmissionSound ledger.coords ledger.deliveryProofs intentID record
  requests : ∀ intentID request, ledger.backupPending.get intentID = some request →
    RequestSound ledger.coords ledger.pendingCoords intentID request

theorem sound_fresh : Outbox.fresh.ledger.Sound where
  admissions intentID record found := by
    rw [show Outbox.fresh.ledger.intents.get intentID = none from get_empty intentID] at found
    cases found
  requests intentID request found := by
    rw [show Outbox.fresh.ledger.backupPending.get intentID = none
      from get_empty intentID] at found
    cases found

variable {checks : Checks} {ledger : Ledger}

theorem Ledger.Sound.putAdmission (sound : ledger.Sound) (intentID : String)
    (record : BackupRunAdmission)
    (valid : AdmissionSound ledger.coords ledger.deliveryProofs intentID record) :
    Ledger.Sound { ledger with intents := ledger.intents.put intentID record } where
  admissions other stored found := by
    rcases get_put_cases found with ⟨same, written⟩ | ⟨_, kept⟩
    · subst same written
      exact valid
    · exact sound.admissions other stored kept
  requests := sound.requests

theorem Ledger.Sound.putRequest (sound : ledger.Sound) (intentID : String)
    (request : BackupRunPending)
    (valid : RequestSound ledger.coords ledger.pendingCoords intentID request) :
    Ledger.Sound { ledger with backupPending := ledger.backupPending.put intentID request } where
  admissions := sound.admissions
  requests other stored found := by
    rcases get_put_cases found with ⟨same, written⟩ | ⟨_, kept⟩
    · subst same written
      exact valid
    · exact sound.requests other stored kept

theorem ProofWritten.sound {round : OutboxRound}
    (written : ProofWritten checks entry round publisher ledger after)
    (sound : ledger.Sound) : after.Sound := by
  cases written with
  | kept => exact sound
  | minted =>
    refine ⟨?_, sound.requests⟩
    intro intentID record found
    have old := sound.admissions intentID record found
    obtain ⟨id, named, proven⟩ := old.state
    refine { old with state := ⟨id, named, ?_⟩ }
    intro delivered
    exact mem_put.mpr (.inr (proven delivered))

theorem AdmissionWritten.sound
    (written : AdmissionWritten checks entry ledger after) (sound : ledger.Sound) :
    after.Sound := by
  cases written with
  | unowned | kept => exact sound
  | credited owner found state proven =>
    have old := sound.admissions _ _ found
    apply sound.putAdmission
    exact
      { key := old.key
        bound := old.bound
        state := ⟨entry.event.id, state, fun _ => mem_of_get proven⟩
        settled := fun _ => rfl
        staged := fun _ => rfl }

theorem StatusWritten.sound
    (written : StatusWritten checks entry ledger after) (sound : ledger.Sound) : after.Sound := by
  cases written with
  | kept => exact sound
  | accepted owner found admitted =>
    have old := sound.admissions _ _ found
    exact sound.putAdmission _ _ { old with settled := fun _ => admitted }
  | refused owner found =>
    have old := sound.requests _ _ found
    exact sound.putRequest _ _ ⟨old.key, old.claimed, old.refused⟩

theorem PendingAccepted.sound
    (accepted : PendingAccepted current ledger after) (sound : ledger.Sound) : after.Sound := by
  cases accepted with
  | absent => exact sound
  | @moved pending found =>
    have old := sound.requests _ _ found
    have stored := sound.putRequest current.intentID { pending with state := .accepted }
      ⟨old.key, old.claimed, nofun⟩
    exact ⟨stored.admissions, stored.requests⟩

variable {tx next : Outbox}

/-- A new admission leaves the coordinates of refused requests free: the coordinate it takes
is unclaimed or claimed by a pending request. -/
theorem Admits.sound
    (admits : Admits checks now tx next entry intentID coordinate requestEventID actor)
    (sound : tx.ledger.Sound) : next.ledger.Sound := by
  rw [admits.ledger]
  refine ⟨?_, ?_⟩
  · intro other record found
    rcases get_put_cases found with ⟨same, written⟩ | ⟨_, kept⟩
    · subst same written
      exact
        { key := rfl
          bound := get_put_self _ _ _
          state := ⟨entry.event.id, rfl, nofun⟩
          settled := nofun
          staged := fun present => absurd rfl present }
    · have old := sound.admissions other record kept
      have apart : coordinate ≠ record.coordinate := by
        intro same
        have taken := old.bound
        rw [← same, show tx.ledger.coords.get coordinate = none from admits.free] at taken
        cases taken
      exact { old with bound := (get_put_of_ne _ apart _).trans old.bound }
  · intro other request found
    have old := sound.requests other request found
    refine { old with refused := ?_ }
    intro refused
    have apart : coordinate ≠ request.coordinate := by
      intro same
      have admissible := admits.admissible
      have claimed : tx.pendingCoords.get coordinate = some other := same ▸ old.claimed
      have stored : tx.backupPending.get other = some request := found
      simp [Outbox.admissible, claimed, stored, refused] at admissible
    exact (get_put_of_ne _ apart _).trans (old.refused refused)

theorem Accepts.sound (accepts : Accepts checks now tx next record event target current)
    (sound : tx.ledger.Sound) : next.ledger.Sound := by
  apply accepts.ledger.sound
  have old := sound.admissions _ _ accepts.found
  have stored := sound.putAdmission current.intentID (acceptedRecord current event target)
    { key := rfl
      bound := by rw [accepts.intentID]; exact old.bound
      state := old.state
      settled := old.settled
      staged := fun _ => accepts.delivered }
  exact ⟨stored.admissions, stored.requests⟩

theorem Refuses.sound (refuses : Refuses checks now tx next record event target current)
    (sound : tx.ledger.Sound) : next.ledger.Sound := by
  rw [refuses.ledger]
  have old := sound.requests _ _ refuses.found
  have stored := sound.putRequest current.intentID (refusedRecord current event target)
    ⟨rfl, by rw [old.key]; exact old.claimed, fun _ => refuses.coordinate ▸ refuses.free⟩
  exact ⟨stored.admissions, stored.requests⟩

theorem Files.sound (files : Files checks tx next record)
    (sound : tx.ledger.Sound) : next.ledger.Sound := by
  rw [files.ledger]
  refine ⟨sound.admissions, ?_⟩
  intro other request found
  rcases get_put_cases found with ⟨same, written⟩ | ⟨_, kept⟩
  · subst same written
    exact ⟨rfl, get_put_self _ _ _, nofun⟩
  have old := sound.requests other request kept
  have apart : record.coordinate ≠ request.coordinate := by
    intro same
    have claimed := old.claimed
    rw [← same, show tx.ledger.pendingCoords.get record.coordinate = none
      from files.unclaimed] at claimed
    cases claimed
  exact { old with claimed := (get_put_of_ne _ apart _).trans old.claimed }

theorem Reschedules.sound (reschedules : Reschedules tx next intentID old new)
    (sound : tx.ledger.Sound) : next.ledger.Sound := by
  have held := sound.requests _ _ reschedules.found
  have stored := sound.putRequest intentID new
    ⟨reschedules.intent.trans held.key, by rw [reschedules.coordinate]; exact held.claimed,
      fun _ => by rw [reschedules.coordinate]; exact reschedules.free⟩
  rw [reschedules.rows]
  unfold Outbox.reschedule
  split
  · exact ⟨stored.admissions, stored.requests⟩
  · exact ⟨stored.admissions, stored.requests⟩

theorem Compacts.sound (compacts : Compacts tx next record intentID) (sound : tx.ledger.Sound) :
    next.ledger.Sound := by
  rw [compacts.ledger]
  have held := sound.requests _ _ compacts.found
  apply sound.putRequest
  refine ⟨rfl, by rw [held.key]; exact held.claimed, ?_⟩
  intro refused
  have accepted : record.state = .refused := refused
  rw [compacts.accepted] at accepted
  cases accepted

theorem Effect.sound (effect : Effect checks now tx next operation) (sound : tx.ledger.Sound) :
    next.ledger.Sound := by
  cases effect with
  | untouched same => exact same.2 ▸ sound
  | enqueue enqueues | enqueuePublisherDelivery enqueues => exact enqueues.ledger ▸ sound
  | enqueueBackupRun admits => exact admits.sound sound
  | stageAccepted accepts => exact accepts.sound sound
  | stageRefused refuses => exact refuses.sound sound
  | lateRound late => exact late.status.sound (late.proof.sound sound)
  | liveRound live => exact live.status.sound (live.admission.sound (live.proof.sound sound))
  | requeue requeues => exact requeues.ledger ▸ sound
  | remove removes => exact removes.ledger ▸ sound
  | put files => exact files.sound sound
  | reschedule reschedules => exact reschedules.sound sound
  | compact compacts => exact compacts.sound sound

theorem Ledger.Sound.step (sound : tx.ledger.Sound) (taken : checks.step tx call = some next) :
    next.ledger.Sound := by
  cases Option.some.inj taken
  exact (after_effect checks tx call).sound sound

theorem run_sound (executed : run checks.step Outbox.fresh calls = some final) :
    final.ledger.Sound :=
  run_preserves (fun tx => tx.ledger.Sound) (fun _ _ _ => Ledger.Sound.step) sound_fresh executed

end Bahia.Localstore
