import Bahia.Outbox.Effects

/-! Delivery proofs: only a publisher round that reports a quorum leaves one, and no later
call changes it. -/

namespace Bahia.Localstore
open Foundation Nostr Bucket
variable {checks : Checks} {tx next : Outbox} {now : SInt64} {operation : Operation}

theorem SameEvent.refl (entry : OutboxEntry) : SameEvent entry entry := ⟨rfl, rfl⟩

def Operation.enqueued : Operation → Option OutboxEntry
  | .enqueue entry => some entry
  | .enqueuePublisherDelivery entry => some entry
  | .enqueueBackupRun entry _ _ _ _ => some entry
  | _ => none

/-- Where a stored entry comes from: an older version, the caller, or a staged status. -/
inductive EntryOrigin (checks : Checks) (now : SInt64) (tx next : Outbox) (operation : Operation) :
    ID → OutboxEntry → Prop
  | older {id : ID} {old entry : OutboxEntry} (found : tx.entries.get id = some old)
    (same : SameEvent old entry) : EntryOrigin checks now tx next operation id entry
  | enqueued {given : OutboxEntry} (asked : operation.enqueued = some given)
    (absent : tx.entries.get given.event.id = none) :
    EntryOrigin checks now tx next operation given.event.id (given.admitted now)
  | accepted {record : BackupRunAdmission} {event : Event} {target : String}
    {current : BackupRunAdmission}
    (accepts : Accepts checks now tx next record event target current) :
    EntryOrigin checks now tx next operation event.id (statusEntry event target now)
  | refused {record : BackupRunPending} {event : Event} {target : String}
    {current : BackupRunPending}
    (refuses : Refuses checks now tx next record event target current) :
    EntryOrigin checks now tx next operation event.id (statusEntry event target now)

theorem reschedule_entries (tx : Outbox) (intentID : String) (old new : BackupRunPending) :
    (tx.reschedule intentID old new).entries = tx.entries := by
  unfold Outbox.reschedule
  split <;> rfl

variable {id : ID} {entry : OutboxEntry} {calls : List Call} {final : Outbox}
  {before : Ledger} {proof : DeliveryProof}

theorem Effect.entry_origin (effect : Effect checks now tx next operation)
    (held : next.entries.get id = some entry) :
    EntryOrigin checks now tx next operation id entry := by
  have put {key : ID} {written : OutboxEntry} (rows : next.entries = tx.entries.put key written)
      (origin : EntryOrigin checks now tx next operation key written) :
      EntryOrigin checks now tx next operation id entry := by
    rw [rows] at held
    rcases get_put_cases held with ⟨same, stored⟩ | ⟨_, kept⟩
    · subst same stored
      exact origin
    · exact .older kept (SameEvent.refl entry)
  have kept (rows : next.entries = tx.entries) :
      EntryOrigin checks now tx next operation id entry :=
    .older (rows ▸ held) (SameEvent.refl entry)
  cases effect with
  | untouched same => exact kept same.1
  | enqueue enqueues | enqueuePublisherDelivery enqueues =>
    exact put enqueues.entries (.enqueued rfl enqueues.absent)
  | enqueueBackupRun admits => exact put admits.entries (.enqueued rfl admits.absent)
  | stageAccepted accepts => exact put accepts.entries (.accepted accepts)
  | stageRefused refuses => exact put refuses.entries (.refused refuses)
  | lateRound late => exact kept late.entries
  | liveRound live => exact put live.entries (.older live.found live.same)
  | requeue requeues =>
    rcases requeues.entries id with same | ⟨old, found, reset⟩
    · exact .older (same ▸ held) (SameEvent.refl entry)
    · cases Option.some.inj (held.symm.trans reset)
      exact .older found ⟨rfl, rfl⟩
  | remove removes =>
    rcases removes.entries id with same | ⟨absent, _⟩
    · exact .older (same ▸ held) (SameEvent.refl entry)
    · rw [absent] at held
      cases held
  | put files => exact kept files.entries
  | reschedule reschedules =>
    exact kept ((congrArg Outbox.entries reschedules.rows).trans (reschedule_entries tx _ _ _))
  | compact compacts => exact kept compacts.entries

def Named (tx : Outbox) : Prop :=
  ∀ id entry, tx.entries.get id = some entry → entry.event.id = id

theorem named_fresh : Named Outbox.fresh := by
  intro id entry found
  rw [show Outbox.fresh.entries.get id = none from get_empty id] at found
  cases found

theorem Named.effect (named : Named tx) (effect : Effect checks now tx next operation) :
    Named next := by
  intro id entry held
  cases effect.entry_origin held with
  | older found same =>
    rw [same.event]
    exact named _ _ found
  | enqueued | accepted | refused => rfl

theorem Named.step (named : Named tx) (taken : checks.step tx call = some next) : Named next := by
  cases Option.some.inj taken
  exact named.effect (after_effect checks tx call)

theorem run_named (executed : run checks.step Outbox.fresh calls = some final) : Named final :=
  run_preserves Named (fun _ _ _ => Named.step) named_fresh executed

/-- A publisher round of `id` that leaves this proof for the stored entry. -/
structure Mints (checks : Checks) (tx : Outbox) (operation : Operation) (id : ID)
    (proof : DeliveryProof) (round : OutboxRound) (entry : OutboxEntry) : Prop where
  publisher : operation = .commitPublisherRound id round
  found : tx.entries.get id = some entry
  aimed : round.target = entry.target
  delivered : round.delivered = true
  event : proof.event = entry.event
  target : proof.target = entry.target
  policy : proof.policy = round.policy
  outcomes : proof.relayOK = relayOutcomes round.relays round.policy
  valid : checks.validFor proof proof.event proof.target = true

theorem ProofWritten.proof_cases {round : OutboxRound}
    (written : ProofWritten checks entry round publisher before after)
    (named : stored.event.id = id) (same : SameEvent stored entry)
    (found : tx.entries.get id = some stored)
    (aimed : publisher = true → round.target = stored.target) (other : ID) :
    after.deliveryProofs.get other = before.deliveryProofs.get other ∨
      (before.deliveryProofs.get other = none ∧ ∃ proof,
        after.deliveryProofs.get other = some proof ∧
        Mints checks tx (if publisher then .commitPublisherRound id round else .commitRound id round)
          other proof round stored) := by
  cases written with
  | kept => exact .inl rfl
  | @minted proof fromPublisher delivered absent event target policy outcomes valid =>
    have owned : entry.event.id = id := by rw [same.event, named]
    by_cases own : entry.event.id = other
    · right
      subst own
      refine ⟨absent, proof, get_put_self _ _ _, ?_⟩
      rw [fromPublisher, owned]
      exact
        { publisher := rfl
          found := found
          aimed := aimed fromPublisher
          delivered := delivered
          event := event.trans same.event
          target := target.trans same.target
          policy := policy
          outcomes := outcomes
          valid := by rwa [event, target] }
    · exact .inl (get_put_of_ne _ own _)

theorem AdmissionWritten.proofs (written : AdmissionWritten checks entry before after) :
    after.deliveryProofs = before.deliveryProofs := by
  cases written <;> rfl

theorem StatusWritten.proofs (written : StatusWritten checks entry before after) :
    after.deliveryProofs = before.deliveryProofs := by
  cases written <;> rfl

theorem PendingAccepted.proofs (accepted : PendingAccepted current before after) :
    after.deliveryProofs = before.deliveryProofs := by
  cases accepted <;> rfl

theorem reschedule_proofs (tx : Outbox) (intentID : String) (old new : BackupRunPending) :
    (tx.reschedule intentID old new).deliveryProofs = tx.deliveryProofs := by
  unfold Outbox.reschedule
  split <;> rfl

/-- A proof row stays as it was, or a publisher round writes the first one. -/
theorem Effect.proof_cases (effect : Effect checks now tx next operation) (named : Named tx)
    (id : ID) :
    next.deliveryProofs.get id = tx.deliveryProofs.get id ∨
      (tx.deliveryProofs.get id = none ∧ ∃ proof round entry,
        next.deliveryProofs.get id = some proof ∧ Mints checks tx operation id proof round entry) := by
  have kept (same : next.ledger.deliveryProofs = tx.ledger.deliveryProofs) :
      next.deliveryProofs.get id = tx.deliveryProofs.get id ∨
        (tx.deliveryProofs.get id = none ∧ ∃ proof round entry,
          next.deliveryProofs.get id = some proof ∧
          Mints checks tx operation id proof round entry) :=
    .inl (congrArg (fun rows : Bucket ID DeliveryProof => rows.get id) same)
  cases effect with
  | untouched same => exact kept (by rw [same.2])
  | enqueue enqueues | enqueuePublisherDelivery enqueues => exact kept (by rw [enqueues.ledger])
  | enqueueBackupRun admits => exact kept (by rw [admits.ledger])
  | stageAccepted accepts => exact kept accepts.ledger.proofs
  | stageRefused refuses => exact kept (by rw [refuses.ledger])
  | lateRound late =>
    have rows := late.status.proofs
    rcases late.proof.proof_cases (named _ _ late.found) (SameEvent.refl _) late.found late.target
      id with same | ⟨absent, proof, stored, mints⟩
    · exact .inl ((congrArg (fun rows : Bucket ID DeliveryProof => rows.get id) rows).trans same)
    · refine .inr ⟨absent, proof, _, _, ?_, mints⟩
      exact (congrArg (fun rows : Bucket ID DeliveryProof => rows.get id) rows).trans stored
  | liveRound live =>
    have rows := live.status.proofs.trans live.admission.proofs
    rcases live.proof.proof_cases (named _ _ live.found) live.same live.found live.target
      id with same | ⟨absent, proof, stored, mints⟩
    · exact .inl ((congrArg (fun rows : Bucket ID DeliveryProof => rows.get id) rows).trans same)
    · refine .inr ⟨absent, proof, _, _, ?_, mints⟩
      exact (congrArg (fun rows : Bucket ID DeliveryProof => rows.get id) rows).trans stored
  | requeue requeues => exact kept (by rw [requeues.ledger])
  | remove removes => exact kept (by rw [removes.ledger])
  | put files => exact kept (by rw [files.ledger])
  | reschedule reschedules =>
    rw [reschedules.rows]
    exact .inl (by rw [reschedule_proofs])
  | compact compacts => exact kept (by rw [compacts.ledger])

theorem Effect.keeps_proof (effect : Effect checks now tx next operation) (named : Named tx)
    (held : tx.deliveryProofs.get id = some proof) :
    next.deliveryProofs.get id = some proof := by
  rcases effect.proof_cases named id with same | ⟨absent, _⟩
  · exact same.trans held
  · rw [absent] at held
    cases held

/-- The relays a round reports as accepted, among its distinct write relays, reach the
required number. -/
structure Quorum (round : OutboxRound) : Prop where
  nonempty : round.policy.writeRelays ≠ []
  distinct : round.policy.writeRelays.Nodup
  positive : 1 ≤ round.policy.required
  reached : round.policy.required ≤ (round.policy.writeRelays.filter fun relay =>
    (round.relays.get relay).any fun state => state.accepted).length

theorem relayOutcomes_get (named : relay ∈ policy.writeRelays) :
    (relayOutcomes relays policy).get relay =
      some ((relays.get relay).getD RelayDelivery.fresh).accepted := by
  unfold relayOutcomes
  rw [get_foldl_put _ fun relay => ((relays.get relay).getD RelayDelivery.fresh).accepted]
  exact if_pos named

theorem accepted_iff (relays : RelayDeliveries) (relay : String) :
    ((relays.get relay).getD RelayDelivery.fresh).accepted =
      (relays.get relay).any fun state => state.accepted := by
  cases relays.get relay with
  | none | some => rfl

theorem Mints.quorum {round : OutboxRound}
    (mints : Mints checks tx operation id proof round entry) : Quorum round := by
  have valid := mints.valid
  simp only [Checks.validFor, Bool.and_eq_true, decide_eq_true_eq, mints.policy] at valid
  obtain ⟨⟨⟨⟨⟨⟨⟨_, positive⟩, bounded⟩, _⟩, _⟩, distinct⟩, _⟩, reached⟩ := valid
  refine ⟨?_, distinct, positive, ?_⟩
  · intro empty
    rw [empty] at bounded
    exact absurd (positive.trans bounded) (by decide)
  · rw [List.countP_eq_length_filter] at reached
    have same : (round.policy.writeRelays.filter fun relay => proof.relayOK.get relay == some true) =
        round.policy.writeRelays.filter fun relay =>
          (round.relays.get relay).any fun state => state.accepted := by
      apply List.filter_congr
      intro relay named
      rw [mints.outcomes, relayOutcomes_get named, accepted_iff]
      simp
    rwa [same] at reached

/-- Some publisher round of the run, for this id and with the target of the entry it found,
reported the quorum the proof records. -/
def EarnedIn (checks : Checks) (calls : List Call) (id : ID) (proof : DeliveryProof) : Prop :=
  ∃ before call rest middle round entry, calls = before ++ call :: rest ∧
    run checks.step Outbox.fresh before = some middle ∧
    call.operation = .commitPublisherRound id round ∧ middle.entries.get id = some entry ∧
    round.target = entry.target ∧ round.delivered = true ∧ Quorum round ∧
    proof.event = entry.event ∧ proof.target = entry.target ∧ proof.policy = round.policy

theorem run_earned (executed : run checks.step Outbox.fresh calls = some final)
    (held : final.deliveryProofs.get id = some proof) :
    EarnedIn checks calls id proof ∧ proof.event.id = id ∧
      checks.validFor proof proof.event proof.target = true := by
  have unproven : Outbox.fresh.deliveryProofs.get id ≠ some proof := by
    rw [show Outbox.fresh.deliveryProofs.get id = none from get_empty id]
    exact nofun
  obtain ⟨before, call, rest, middle, after, split, reached, taken, _, missing, written⟩ :=
    run_switch (fun tx => tx.deliveryProofs.get id = some proof) executed unproven held
  have named := run_named reached
  cases Option.some.inj taken
  rcases (after_effect checks middle call).proof_cases named id with
    same | ⟨_, minted, round, entry, stored, mints⟩
  · exact absurd (same.symm.trans written) missing
  · cases Option.some.inj (written.symm.trans stored)
    refine ⟨⟨before, call, rest, middle, round, entry, split, reached, mints.publisher, mints.found,
      mints.aimed, mints.delivered, mints.quorum, mints.event, mints.target, mints.policy⟩, ?_,
      mints.valid⟩
    rw [mints.event]
    exact named id entry mints.found

theorem run_keeps_proof (named : Named start) (executed : run checks.step start calls = some final)
    (held : start.deliveryProofs.get id = some proof) :
    final.deliveryProofs.get id = some proof := by
  refine (run_preserves (fun tx => Named tx ∧ tx.deliveryProofs.get id = some proof) ?_
    ⟨named, held⟩ executed).2
  intro tx call next kept taken
  cases Option.some.inj taken
  have effect := after_effect checks tx call
  exact ⟨kept.1.effect effect, effect.keeps_proof kept.1 kept.2⟩

/-- A stored proof was earned by a publisher round that reported its quorum, is valid for
its own event and target, and stays through every later run. -/
theorem proofs_sound_and_permanent (checks : Checks) (calls : List Call) {final : Outbox}
    (executed : run checks.step Outbox.fresh calls = some final) (id : ID) (proof : DeliveryProof)
    (held : final.deliveryProofs.get id = some proof) :
    EarnedIn checks calls id proof ∧ proof.event.id = id ∧
      checks.validFor proof proof.event proof.target = true ∧
      ∀ later outbox, run checks.step final later = some outbox →
        outbox.deliveryProofs.get id = some proof := by
  obtain ⟨earned, named, valid⟩ := run_earned executed held
  refine ⟨earned, named, valid, ?_⟩
  intro later outbox continued
  exact run_keeps_proof (run_named executed) continued held

def policyEvent : Event :=
  sampleEvent (FixedBytes.ofByte 31 5) 1700000000 casControlState
    [["d", "policy:a"], ["domain", "policy"], ["t", "policy-registry"]]

def policyEnqueueCall : Call where
  handle := .writable
  now := 1700000000000000000
  operation := .enqueue (statusEntry policyEvent "control" 1700000000000000000)

def policyQuorumRound : OutboxRound where
  target := "control"
  rounds := 1
  relays := (∅ : RelayDeliveries).put "wss://a" { RelayDelivery.fresh with accepted := true }
  delivered := true
  policy := ⟨["wss://a", "wss://b"], 1⟩
  state := .reported .published
  detail := ""
  atTime := none

def policyQuorumCall : Call :=
  { policyEnqueueCall with operation := .commitPublisherRound policyEvent.id policyQuorumRound }

theorem proofs_sound_and_permanent_policy :
    ∃ final proof,
      run Checks.trusting.step Outbox.fresh [policyEnqueueCall, policyQuorumCall] = some final ∧
      final.deliveryProofs.get policyEvent.id = some proof ∧
      EarnedIn Checks.trusting [policyEnqueueCall, policyQuorumCall] policyEvent.id proof := by
  refine ⟨_, _, rfl, rfl, ?_⟩
  exact (proofs_sound_and_permanent Checks.trusting [policyEnqueueCall, policyQuorumCall] rfl
    policyEvent.id _ rfl).1

end Bahia.Localstore
