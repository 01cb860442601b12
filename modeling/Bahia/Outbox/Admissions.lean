import Bahia.Outbox.RecordHistory

/-! Admissions and the proofs of their run states. A round on a settled entry records its
proof without crediting the admission, and an admission of an already proven event starts
uncredited; apart from these two, `delivered` says exactly whether the proof exists. -/

namespace Bahia.Localstore
open Foundation Nostr Bucket

/-- An admission is marked delivered exactly when its run state has a proof. -/
def AdmissionsFollowProofs (tx : Outbox) : Prop :=
  ∀ intentID record, tx.intents.get intentID = some record →
    ∃ id, record.stateEventID = ID.hex id ∧ (record.delivered = true ↔ id ∈ tx.deliveryProofs)

/-- The call cannot put a proof beside an uncredited admission: a run is admitted before its
state has a proof, and the round that proves an admitted state finds its entry pending. -/
def Outbox.creditsProof (tx : Outbox) (call : Call) : Bool :=
  match call.operation with
  | .enqueueBackupRun entry _ _ _ _ => (tx.deliveryProofs.get entry.event.id).isNone
  | .commitPublisherRound id round =>
    match tx.entries.get id with
    | some stored =>
      stored.state == .pending || !round.delivered || (tx.events.get (ID.hex id)).isNone ||
        (tx.deliveryProofs.get id).isSome
    | none => true
  | _ => true

/-- The row of an admission in the event index, and why its entry may be gone. -/
structure Credited (entries : Bucket ID OutboxEntry) (ledger : Ledger) (intentID : String)
    (record : BackupRunAdmission) (id : ID) : Prop where
  owned : ledger.events.get (ID.hex id) = some intentID
  proven : id ∈ ledger.deliveryProofs → record.delivered = true
  present : id ∈ entries ∨ record.delivered = true

/-- Every admission is credited for its own state event. -/
def CreditedAll (entries : Bucket ID OutboxEntry) (ledger : Ledger) : Prop :=
  ∀ intentID record id, ledger.intents.get intentID = some record →
    record.stateEventID = ID.hex id → Credited entries ledger intentID record id

variable {checks : Checks} {tx : Outbox} {operation : Operation}
variable {entries : Bucket ID OutboxEntry} {ledger after : Ledger}

theorem credited_fresh : CreditedAll Outbox.fresh.entries Outbox.fresh.ledger := by
  intro intentID record id found
  cases found

theorem CreditedAll.of_same (credited : CreditedAll entries ledger)
    (intents : after.intents = ledger.intents) (events : after.events = ledger.events)
    (proofs : after.deliveryProofs = ledger.deliveryProofs)
    (grows : ∀ id, id ∈ entries → id ∈ later) : CreditedAll later after := by
  intro intentID record id found state
  rw [intents] at found
  have old := credited intentID record id found state
  refine ⟨by rw [events]; exact old.owned, by rw [proofs]; exact old.proven, ?_⟩
  exact old.present.imp_left (grows id)

variable {entry : OutboxEntry} {publisher : Bool}

theorem CreditedAll.putAdmission (credited : CreditedAll entries ledger)
    (found : ledger.intents.get intentID = some old) (kept : AdmissionKept old new) :
    CreditedAll entries { ledger with intents := ledger.intents.put intentID new } := by
  intro other record id held state
  rcases get_put_cases held with ⟨same, written⟩ | ⟨_, stored⟩
  · subst same written
    have before := credited other old id found (kept.state.symm.trans state)
    exact ⟨before.owned, fun proven => kept.delivered (before.proven proven),
      before.present.imp_right kept.delivered⟩
  · have before := credited other record id stored state
    exact ⟨before.owned, before.proven, before.present⟩

theorem StatusWritten.credited
    (written : StatusWritten checks entry ledger after) (credited : CreditedAll entries ledger) :
    CreditedAll entries after := by
  cases written with
  | kept => exact credited
  | accepted owner found =>
    exact credited.putAdmission found ⟨rfl, rfl, id, fun _ => ⟨rfl, rfl, rfl⟩⟩
  | refused =>
    exact credited.of_same rfl rfl rfl fun _ member => member

theorem ProofWritten.credited {round : OutboxRound}
    (written : ProofWritten checks entry round publisher ledger after)
    (credited : CreditedAll entries ledger)
    (unowned : publisher = true → round.delivered = true →
      ledger.deliveryProofs.get entry.event.id = none →
      ledger.events.get (ID.hex entry.event.id) = none) : CreditedAll entries after := by
  cases written with
  | kept => exact credited
  | minted fromPublisher delivered absent =>
    intro intentID record id found state
    have old := credited intentID record id found state
    refine ⟨old.owned, ?_, old.present⟩
    intro proven
    rcases mem_put.mp proven with same | before
    · have owned := old.owned
      rw [same, unowned fromPublisher delivered absent] at owned
      cases owned
    · exact old.proven before

theorem AdmissionWritten.credits {round : OutboxRound}
    (proof : ProofWritten checks entry round publisher ledger proven)
    (written : AdmissionWritten checks entry proven after)
    (delivered : round.delivered = true → entry.delivered = true)
    (credited : CreditedAll entries ledger) : CreditedAll entries after := by
  cases proof with
  | kept =>
    cases written with
    | unowned | kept => exact credited
    | credited owner found =>
      exact credited.putAdmission found ⟨rfl, rfl, fun _ => rfl, fun _ => ⟨rfl, rfl, rfl⟩⟩
  | @minted minted fromPublisher quorum =>
    intro intentID record id held state
    cases written with
    | unowned none =>
      have old := credited intentID record id held state
      refine ⟨old.owned, ?_, old.present⟩
      intro member
      rcases mem_put.mp member with same | before
      · have owned := old.owned
        rw [same] at owned
        exact nomatch owned.symm.trans none
      · exact old.proven before
    | @kept owner first owns found settled =>
      have old := credited intentID record id held state
      refine ⟨old.owned, ?_, old.present⟩
      intro member
      rcases mem_put.mp member with same | before
      · have owned := old.owned
        rw [same] at owned
        cases Option.some.inj (owned.symm.trans owns)
        cases Option.some.inj (held.symm.trans found)
        rcases settled with credit | undelivered
        · exact credit
        · rw [delivered quorum] at undelivered
          cases undelivered
      · exact old.proven before
    | @credited owner first stored owns found =>
      rcases get_put_cases held with ⟨same, new⟩ | ⟨different, kept⟩
      · subst same new
        have old := credited intentID first id found state
        exact ⟨old.owned, fun _ => rfl, .inr rfl⟩
      have old := credited intentID record id kept state
      refine ⟨old.owned, ?_, old.present⟩
      intro member
      rcases mem_put.mp member with same | before
      · have owned := old.owned
        rw [same] at owned
        exact absurd (Option.some.inj (owned.symm.trans owns)) different
      · exact old.proven before

theorem mem_put_grows (rows : later = entries.put key entry) (id : ID) (member : id ∈ entries) :
    id ∈ later := by
  rw [rows]
  exact mem_put.mpr (.inr member)

theorem Admits.credited
    (admits : Admits checks now tx next entry intentID coordinate requestEventID actor)
    (sound : tx.ledger.Sound) (credited : CreditedAll tx.entries tx.ledger)
    (unproven : tx.deliveryProofs.get entry.event.id = none) :
    CreditedAll next.entries next.ledger := by
  rw [admits.ledger, admits.entries]
  intro other record id found state
  rcases get_put_cases found with ⟨same, written⟩ | ⟨_, kept⟩
  · subst same written
    cases ID.hex_injective state
    refine ⟨get_put_self _ _ _, ?_, .inl (mem_put.mpr (.inl rfl))⟩
    intro proven
    obtain ⟨proof, stored⟩ := Bucket.mem_iff_get.mp proven
    exact nomatch unproven.symm.trans stored
  · have old := credited other record id kept state
    have apart : entry.event.id ≠ id := by
      -- An admission whose entry is gone was credited, so its state has a proof.
      intro same
      rcases old.present with held | delivered
      · obtain ⟨stored, present⟩ := Bucket.mem_iff_get.mp held
        rw [← same, admits.absent] at present
        cases present
      · obtain ⟨named, shape, proven⟩ := (sound.admissions other record kept).state
        cases ID.hex_injective (shape.symm.trans state)
        obtain ⟨proof, stored⟩ := Bucket.mem_iff_get.mp (proven delivered)
        rw [← same] at stored
        exact nomatch unproven.symm.trans stored
    have keys : ID.hex entry.event.id ≠ ID.hex id := fun same => apart (ID.hex_injective same)
    exact ⟨(get_put_of_ne _ keys _).trans old.owned, old.proven,
      old.present.imp_left fun member => mem_put.mpr (.inr member)⟩

theorem Removes.credited (removes : Removes tx next) (sound : tx.ledger.Sound)
    (credited : CreditedAll tx.entries tx.ledger) : CreditedAll next.entries next.ledger := by
  rw [removes.ledger]
  intro intentID record id found state
  have old := credited intentID record id found state
  refine ⟨old.owned, old.proven, ?_⟩
  rcases old.present with member | delivered
  · rcases removes.entries id with same | ⟨_, free⟩
    · left
      rw [mem_def, same]
      exact member
    right
    have owned : tx.events.get (ID.hex id) = some intentID := old.owned
    have stored : tx.intents.get intentID = some record := found
    simp only [Outbox.backupRunAdmissionUnresolved, owned, stored, Except.ok.injEq,
      Bool.not_eq_false'] at free
    exact (sound.admissions intentID record found).settled free
  · exact .inr delivered

theorem Requeues.credited (requeues : Requeues tx next)
    (credited : CreditedAll tx.entries tx.ledger) : CreditedAll next.entries next.ledger := by
  rw [requeues.ledger]
  refine credited.of_same rfl rfl rfl ?_
  intro id member
  rcases requeues.entries id with same | ⟨entry, _, reset⟩
  · rw [mem_def, same]
    exact member
  · exact mem_of_get reset

theorem reschedule_credits (tx : Outbox) (intentID : String) (old new : BackupRunPending) :
    (tx.reschedule intentID old new).intents = tx.intents ∧
      (tx.reschedule intentID old new).events = tx.events := by
  unfold Outbox.reschedule
  split
  · exact ⟨rfl, rfl⟩
  · exact ⟨rfl, rfl⟩

theorem Effect.credited (effect : Effect checks now tx next operation) (named : Named tx)
    (sound : tx.ledger.Sound) (credited : CreditedAll tx.entries tx.ledger)
    (guarded : ∀ handle, tx.creditsProof ⟨handle, now, operation⟩ = true) :
    CreditedAll next.entries next.ledger := by
  cases effect with
  | untouched same => rw [same.1, same.2]; exact credited
  | enqueue enqueues | enqueuePublisherDelivery enqueues =>
    rw [enqueues.ledger]
    exact credited.of_same rfl rfl rfl (mem_put_grows enqueues.entries)
  | enqueueBackupRun admits =>
    have unproven := guarded .writable
    simp only [Outbox.creditsProof, Option.isNone_iff_eq_none] at unproven
    exact admits.credited sound credited unproven
  | @stageAccepted record event target current accepts =>
    have found : tx.ledger.intents.get current.intentID = some current := by
      rw [accepts.intentID]
      exact accepts.found
    have stored := credited.putAdmission found
      (show AdmissionKept current (acceptedRecord current event target) from
        ⟨rfl, rfl, id, fun present => absurd accepts.vacant present⟩)
    exact stored.of_same accepts.ledger.intents accepts.ledger.events accepts.ledger.proofs
      (mem_put_grows accepts.entries)
  | stageRefused refuses =>
    rw [refuses.ledger]
    exact credited.of_same rfl rfl rfl (mem_put_grows refuses.entries)
  | @lateRound id round publisher stored proven late =>
    rw [late.entries]
    refine late.status.credited (late.proof.credited credited ?_)
    intro fromPublisher delivered absent
    have owner := named id stored late.found
    have checked := guarded .writable
    rw [owner] at absent ⊢
    have none : tx.deliveryProofs.get id = none := absent
    simp only [fromPublisher, if_true, Outbox.creditsProof, late.found, delivered, none,
      Option.isSome_none, Bool.or_false, Bool.or_eq_true, beq_iff_eq, late.settled, false_or,
      Bool.not_true, Option.isNone_iff_eq_none] at checked
    exact checked
  | liveRound live =>
    have rounded := AdmissionWritten.credits live.proof live.admission (by
      intro delivered
      rw [live.delivered, delivered, Bool.or_true]) credited
    exact (live.status.credited rounded).of_same rfl rfl rfl (mem_put_grows live.entries)
  | requeue requeues => exact requeues.credited credited
  | remove removes => exact removes.credited sound credited
  | put files =>
    rw [files.ledger, files.entries]
    exact credited.of_same rfl rfl rfl fun _ member => member
  | @reschedule _ intentID old new reschedules =>
    obtain ⟨intents, events⟩ := reschedule_credits tx intentID old new
    rw [reschedules.rows]
    exact credited.of_same intents events (reschedule_proofs tx intentID old new)
      fun _ member => by rw [reschedule_entries]; exact member
  | compact compacts =>
    rw [compacts.ledger, compacts.entries]
    exact credited.of_same rfl rfl rfl fun _ member => member

structure Followed (tx : Outbox) : Prop where
  named : Named tx
  sound : tx.ledger.Sound
  credited : CreditedAll tx.entries tx.ledger

theorem Followed.step (followed : Followed tx) (guarded : tx.creditsProof call = true)
    (taken : checks.step tx call = some next) : Followed next := by
  cases Option.some.inj taken
  have effect := after_effect checks tx call
  refine ⟨followed.named.effect effect, effect.sound followed.sound, ?_⟩
  refine effect.credited followed.named followed.sound followed.credited ?_
  intro handle
  exact guarded

theorem Followed.follows (followed : Followed tx) : AdmissionsFollowProofs tx := by
  intro intentID record found
  obtain ⟨id, state, proven⟩ := (followed.sound.admissions intentID record found).state
  exact ⟨id, state, proven, (followed.credited intentID record id found state).proven⟩

/-- In every run in which the proof of an admitted state comes on its pending entry, and no
already proven event is admitted, admissions follow proofs. -/
theorem run_admissions_follow_proofs (checks : Checks) (calls : List Call) {final : Outbox}
    (guarded : Along checks.step (fun tx call => tx.creditsProof call = true) Outbox.fresh calls)
    (executed : run checks.step Outbox.fresh calls = some final) : AdmissionsFollowProofs final :=
  (run_invariant (fun _ _ _ => Followed.step) ⟨named_fresh, sound_fresh, credited_fresh⟩ guarded
    executed).follows

def runStateEvent : Event :=
  sampleEvent (FixedBytes.ofByte 31 6) 1700000000 casControlState
    [["d", "backup-run:a"], ["domain", "backup"], ["t", "backup-run"], ["legacy_kind", "31996"],
      ["deleted", "false"]]

def runRequestID : String := ID.hex (FixedBytes.ofByte 31 7)

def runActor : String := PubKey.hex (FixedBytes.ofByte 31 4)

def runCall (operation : Operation) : Call := ⟨.writable, 1700000000000000000, operation⟩

def runStateEntry : OutboxEntry := statusEntry runStateEvent "control" 1700000000000000000

def runAdmitCall : Call :=
  runCall (.enqueueBackupRun runStateEntry "intent" "backup-run:a" runRequestID runActor)

def runQuorumCall : Call := runCall (.commitPublisherRound runStateEvent.id policyQuorumRound)

/-- The publisher gives the run state up before any relay has accepted it. -/
def runFailedCall : Call :=
  runCall (.commitPublisherRound runStateEvent.id
    { policyQuorumRound with relays := ∅, delivered := false, state := .reported .failed })

theorem run_admissions_follow_proofs_quorum :
    ∃ final, run Checks.trusting.step Outbox.fresh [runAdmitCall, runQuorumCall] = some final ∧
      runStateEvent.id ∈ final.deliveryProofs ∧ AdmissionsFollowProofs final := by
  have guarded : Along Checks.trusting.step (fun tx call => tx.creditsProof call = true) Outbox.fresh
      [runAdmitCall, runQuorumCall] := along_of_check (by decide +kernel)
  refine ⟨_, rfl, by decide +kernel, ?_⟩
  exact run_admissions_follow_proofs Checks.trusting [runAdmitCall, runQuorumCall] guarded rfl

/-- A quorum that comes after the entry has failed leaves a proof and no credit. -/
theorem late_quorum_not_credited :
    ∃ final, run Checks.trusting.step Outbox.fresh [runAdmitCall, runFailedCall, runQuorumCall] =
      some final ∧ ¬AdmissionsFollowProofs final := by
  let final := Checks.trusting.after (Checks.trusting.after
    (Checks.trusting.after Outbox.fresh runAdmitCall) runFailedCall) runQuorumCall
  refine ⟨final, rfl, ?_⟩
  intro follows
  have left : final.intents.get "intent" =
      some (admissionRecord runStateEntry "intent" "backup-run:a" runRequestID runActor) ∧
      runStateEvent.id ∈ final.deliveryProofs := by decide +kernel
  obtain ⟨id, state, credited⟩ := follows "intent" _ left.1
  cases ID.hex_injective (show ID.hex runStateEvent.id = ID.hex id from state)
  exact nomatch credited.mpr left.2

end Bahia.Localstore
