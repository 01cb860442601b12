import Bahia.Outbox.StatusOwners

/-! Rounds on staged statuses: while every status row resolves to its owner, committing a
round never meets an inconsistent status index. -/

namespace Bahia.Localstore
open Foundation Nostr Bucket

/-- The texts of the two index checks a status delivery makes. -/
def inconsistentStatusIndex : List String :=
  ["backup run accepted status index is inconsistent",
    "backup run refusal status index is inconsistent"]

/-- A cause of failure other than an inconsistent status index. -/
def Legitimate (text : String) : Prop := text ∉ inconsistentStatusIndex

def Starts (first : Char) (text : String) : Prop := text.toList.head? = some first

variable {call : Call} {entry : OutboxEntry} {start : Outbox}
  {id : ID}

theorem Starts.append (starts : Starts first text) (rest : String) :
    Starts first (text ++ rest) := by
  unfold Starts at starts ⊢
  rw [String.toList_append, List.head?_append, starts]
  rfl

theorem Starts.legitimate (starts : Starts first text) (other : first ≠ 'b') : Legitimate text := by
  intro member
  have start : Starts 'b' text := by
    rcases List.mem_pair.mp member with same | same
    · rw [same]
      rfl
    · rw [same]
      rfl
  exact other (Option.some.inj (starts.symm.trans start))

/-- The stored entry of a status row has the target its owner staged. -/
def OwnersAimed (entries : Bucket ID OutboxEntry) (ledger : Ledger) : Prop :=
  ∀ id intentID entry, ledger.statusEvents.get (ID.hex id) = some intentID →
    entries.get id = some entry → Owner ledger (ID.hex id) intentID entry.target

variable {checks : Checks} {tx : Outbox} {now : SInt64}

theorem aimed_fresh : OwnersAimed Outbox.fresh.entries Outbox.fresh.ledger := by
  intro id intentID entry found
  rw [show Outbox.fresh.ledger.statusEvents.get (ID.hex id) = none
    from get_empty (ID.hex id)] at found
  cases found

theorem Effect.aimed (effect : Effect checks now tx next call.operation)
    (sound : tx.ledger.Sound) (owned : tx.ledger.Owned)
    (aimed : OwnersAimed tx.entries tx.ledger) (pairs : tx.pairsIntent call = true)
    (spares : tx.sparesStatuses call = true) : OwnersAimed next.entries next.ledger := by
  intro id intentID entry found held
  rcases effect.status_row sound owned found with old | ⟨event, target, same, stored, owner⟩
  · cases effect.entry_origin held with
    | older present same =>
      rw [same.target]
      exact (aimed id intentID _ old present).effect effect sound pairs
    | @enqueued given asked =>
      have unstaged : tx.statusEvents.get (ID.hex given.event.id) = none := by
        simpa [Outbox.sparesStatuses, asked] using spares
      exact nomatch unstaged.symm.trans old
    | @accepted record event target current accepts =>
      rw [accepts.statusEvents, get_put_self] at found
      cases Option.some.inj found
      exact accepts.owner
    | @refused record event target current refuses =>
      have row : next.ledger.statusEvents.get (ID.hex event.id) = some current.intentID := by
        rw [refuses.ledger]
        exact get_put_self _ _ _
      cases Option.some.inj (row.symm.trans found)
      exact refuses.owner sound owned
  · cases ID.hex_injective same
    cases Option.some.inj (stored.symm.trans held)
    exact owner

theorem updateStatusDelivery_legitimate
    (owners : ∀ intentID, tx.ledger.statusEvents.get (ID.hex entry.event.id) = some intentID →
      Owner tx.ledger (ID.hex entry.event.id) intentID entry.target) :
    FailsOnly Legitimate (checks.updateBackupRunStatusDelivery tx entry) := by
  unfold Checks.updateBackupRunStatusDelivery
  split
  · exact .ok _
  rename_i intentID row
  have owner := owners intentID row
  split
  · exact .ok _
  split
  · rename_i unadmitted
    cases owner with
    | accepted found => exact nomatch unadmitted.symm.trans found
    | @refused request _ found settled staged aimed =>
      unfold Checks.updateBackupRunRefusalDelivery
      split
      · exact .ok _
      refine .bind (.require fun absent => nomatch absent.symm.trans found) ?_
      intro stored present
      cases Option.some.inj ((require_ok_iff.mp present).symm.trans found)
      refine .bind (.refuse fun mismatch => ?_) fun _ _ => ?_
      · simp [settled, staged, aimed] at mismatch
      · split
        · exact .ok _
        · exact .bind (.refuse fun _ => by unfold Legitimate; decide) fun _ _ => .ok _
  · rename_i found
    cases owner with
    | refused unadmitted => exact nomatch unadmitted.symm.trans found
    | accepted stored staged aimed delivered outcome =>
      cases Option.some.inj (stored.symm.trans found)
      refine .bind (.refuse fun mismatch => ?_) fun _ _ => ?_
      · simp [staged, aimed, delivered, outcome] at mismatch
      · split
        · exact .ok _
        · exact .bind (.refuse fun _ => by unfold Legitimate; decide) fun _ _ => .ok _

theorem recordPublisherProof_legitimate (entry : OutboxEntry) (round : OutboxRound) (atTime : Time)
    (publisher : Bool) :
    FailsOnly Legitimate (checks.recordPublisherProof tx entry round atTime publisher) := by
  unfold Checks.recordPublisherProof
  split
  · exact .ok _
  split
  · exact .ok _
  refine .bind (.require fun _ => ?_) fun _ _ => .ok _
  have starts : Starts 'c' "canonical event " := rfl
  exact ((starts.append _).append _).legitimate (by decide)

theorem updateAdmissionDelivery_legitimate (entry : OutboxEntry) :
    FailsOnly Legitimate (checks.updateBackupRunAdmissionDelivery tx entry) := by
  unfold Checks.updateBackupRunAdmissionDelivery
  split
  · exact .ok _
  refine .bind (.require fun _ => by unfold Legitimate; decide) fun _ _ => ?_
  refine .bind (.refuse fun _ => by unfold Legitimate; decide) fun _ _ => ?_
  split
  · exact .ok _
  · exact .bind (.refuse fun _ => by unfold Legitimate; decide) fun _ _ => .ok _

theorem settleRound_legitimate (id : ID) (stored : OutboxEntry) (state : RoundState)
    (atTime : Time) : FailsOnly Legitimate (tx.settleRound id stored state atTime) := by
  cases state with
  | blank => exact .ok _
  | unknown =>
    intro reason failed
    cases failed
    have starts : Starts 'u' "unknown outbox state " := rfl
    exact (starts.append _).legitimate (by decide)
  | reported state => cases state <;> exact .ok _

theorem OwnersAimed.round (aimed : OwnersAimed start.entries start.ledger)
    {stored : OutboxEntry} (found : start.entries.get id = some stored)
    (named : stored.event.id = id) (same : SameEvent stored entry)
    (rows : tx.ledger.statusEvents = start.ledger.statusEvents) (steady : Steady start.ledger tx.ledger)
    (intentID : String) (row : tx.ledger.statusEvents.get (ID.hex entry.event.id) = some intentID) :
    Owner tx.ledger (ID.hex entry.event.id) intentID entry.target := by
  rw [same.event, named] at row ⊢
  rw [same.target]
  rw [rows] at row
  exact (aimed id intentID stored row found).steady steady

theorem commitRoundWith_legitimate {round : OutboxRound} (named : Named tx)
    (aimed : OwnersAimed tx.entries tx.ledger) :
    FailsOnly (fun text => ∀ cause ∈ inconsistentStatusIndex,
      text ≠ "commit outbox round for " ++ ID.hex id ++ ": " ++ cause)
      (checks.commitRoundWith handle tx id round publisher now) := by
  refine .bind (.refuse fun _ cause member same => ?_) fun _ _ => ?_
  · have starts : Starts 'c' "commit outbox round for " := rfl
    have start := ((starts.append (ID.hex id)).append ": ").append cause
    rw [← same] at start
    exact absurd (Option.some.inj start) (by decide)
  · refine .context ?_
    have cancels : ∀ text, Legitimate text → ∀ cause ∈ inconsistentStatusIndex,
        "commit outbox round for " ++ ID.hex id ++ ": " ++ text ≠
          "commit outbox round for " ++ ID.hex id ++ ": " ++ cause := by
      intro text legitimate cause member same
      have equal := congrArg String.toList same
      simp only [String.toList_append, List.append_cancel_left_eq] at equal
      exact legitimate (String.toList_inj.mp equal ▸ member)
    intro text failed
    refine cancels text ?_
    revert failed
    suffices legitimate : FailsOnly Legitimate _ from legitimate text
    refine .bind (.require fun _ => ?_) fun stored found => ?_
    · have starts : Starts 'o' "outbox entry " := rfl
      exact ((starts.append _).append _).legitimate (by decide)
    have present := require_ok_iff.mp found
    have owner := named id stored present
    refine .bind (.refuse fun _ => by unfold Legitimate; decide) fun _ _ => ?_
    refine .bind (.refuse fun _ => ?_) fun _ _ => ?_
    · have starts : Starts 'p' "publisher round target " := rfl
      exact (((starts.append _).append _).append _).legitimate (by decide)
    split
    · refine .bind (recordPublisherProof_legitimate _ _ _ _) fun proven written => ?_
      obtain ⟨_, proof⟩ := recordPublisherProof_effect written
      refine .bind (updateStatusDelivery_legitimate ?_) fun _ _ => .ok _
      exact aimed.round present owner (SameEvent.refl stored) proof.statusEvents proof.steady
    · refine .bind (settleRound_legitimate _ _ _ _) fun settled settle => ?_
      obtain ⟨_, ledger, same, _⟩ := settleRound_effect settle
      refine .bind (recordPublisherProof_legitimate _ _ _ _) fun proven written => ?_
      obtain ⟨_, proof⟩ := recordPublisherProof_effect written
      refine .bind (updateAdmissionDelivery_legitimate _) fun credited credit => ?_
      obtain ⟨_, admission⟩ := updateAdmissionDelivery_effect credit
      refine .bind (updateStatusDelivery_legitimate ?_) fun _ _ => .ok _
      have start : ({ settled.1 with entries := settled.1.entries.put id settled.2 } : Outbox).ledger =
          tx.ledger := ledger
      rw [start] at proof
      exact aimed.round present owner ⟨same.event, same.target⟩
        (admission.statusEvents.trans proof.statusEvents) (proof.steady.trans admission.steady)

/-- What a run keeps whose admissions stay with their requests. -/
structure Resolved (tx : Outbox) : Prop where
  named : Named tx
  sound : tx.ledger.Sound
  owned : tx.ledger.Owned

theorem resolved_fresh : Resolved Outbox.fresh := ⟨named_fresh, sound_fresh, owned_fresh⟩

theorem Resolved.step (resolved : Resolved tx) (pairs : tx.pairsIntent call = true)
    (taken : checks.step tx call = some next) : Resolved next := by
  cases Option.some.inj taken
  have effect := after_effect checks tx call
  exact ⟨resolved.named.effect effect, effect.sound resolved.sound,
    resolved.owned.effect effect resolved.sound pairs⟩

theorem run_aimed (resolved : Resolved start) (aimed : OwnersAimed start.entries start.ledger)
    (paired : Along checks.step (fun tx call => tx.pairsIntent call = true) start calls)
    (spared : Along checks.step (fun tx call => tx.sparesStatuses call = true) start calls)
    (executed : run checks.step start calls = some final) :
    OwnersAimed final.entries final.ledger := by
  induction calls generalizing start with
  | nil =>
    cases Option.some.inj executed
    exact aimed
  | cons call rest ih =>
    obtain ⟨next, taken, remaining⟩ := run_cons_some executed
    have later := resolved.step paired.1 taken
    refine ih later ?_ (paired.2 next taken) (spared.2 next taken) remaining
    cases Option.some.inj taken
    exact (after_effect checks start call).aimed resolved.sound resolved.owned aimed paired.1 spared.1

/-- In every run in which runs are admitted only on the coordinate of their intent's request,
each status row resolves to the record that staged it; and unless a staged status is enqueued
anew, no round fails on an inconsistent status index. -/
theorem run_status_owners_resolve (checks : Checks) (calls : List Call) {final : Outbox}
    (paired : Along checks.step (fun tx call => tx.pairsIntent call = true) Outbox.fresh calls)
    (executed : run checks.step Outbox.fresh calls = some final) :
    StatusOwnersResolve final ∧
      (Along checks.step (fun tx call => tx.sparesStatuses call = true) Outbox.fresh calls →
        ∀ handle now id round, ∀ cause ∈ inconsistentStatusIndex,
          checks.commitPublisherRound handle final id round now ≠
            .error ("commit outbox round for " ++ ID.hex id ++ ": " ++ cause)) := by
  have resolved := run_invariant (fun _ _ _ => Resolved.step) resolved_fresh paired executed
  refine ⟨resolved.owned.resolve, ?_⟩
  intro spared handle now id round cause member failed
  have aimed := run_aimed resolved_fresh aimed_fresh paired spared executed
  exact commitRoundWith_legitimate resolved.named aimed _ failed cause member rfl

def runRequestEvent : Event :=
  { runStateEvent with
    id := FixedBytes.ofByte 31 7
    pubKey := FixedBytes.ofByte 31 4
    tags := [["d", "backup-run:b"], ["intent_id", "intent"], ["expiration", "1700000600"]] }

def runRequest : BackupRunPending where
  intentID := "intent"
  coordinate := "backup-run:b"
  requestEvent := runRequestEvent
  actor := runActor
  servicePubkey := PubKey.hex runStateEvent.pubKey
  receivedAt := some 1700000000000000000
  expiresAt := some 1700000600000000000
  nextAttemptAt := none
  attempts := 0
  lastFailure := ""
  state := .pending
  statusEventID := ""
  statusTarget := ""
  statusDelivered := false

def runRefusedBody : String :=
  "\x7b\"intent_id\":\"intent\",\"reason\":\"access_denied\",\"result\":\"rejected\"\x7d"

def refusalChecks : Checks :=
  { Checks.trusting with
    refusedContent := fun text => if text ≠ runRefusedBody then none else some
      { intentID := "intent", coordinate := "", result := "rejected", reason := "access_denied"
        namesCoordinate := false } }

def runRefusedEvent : Event :=
  { runStateEvent with
    id := FixedBytes.ofByte 31 9
    kind := nip38Status
    tags := [["d", intentPrivateStatusCoordinate runActor "backup" "intent"], ["domain", "intent"],
      ["t", "intent-status"], ["status", "rejected"], ["intent_id", "intent"], ["p", runActor],
      ["e", runRequestID]]
    content := runRefusedBody }

def runRefused : BackupRunPending :=
  { runRequest with state := .refused, nextAttemptAt := none, lastFailure := "conflict" }

def runFileCall : Call := runCall (.putBackupRunPending runRequest)

def runRefuseCall : Call := runCall (.refuseBackupRunPending "intent" runRequestID "conflict")

def runStageCall : Call :=
  runCall (.stageBackupRunRefusedStatus runRefused runRefusedEvent "control")

def runRefusalCalls : List Call := [runFileCall, runRefuseCall, runStageCall]

theorem refusal_run :
    ∃ final, run refusalChecks.step Outbox.fresh runRefusalCalls = some final ∧
      final.statusEvents.get (ID.hex runRefusedEvent.id) = some "intent" := by
  have staged : (run refusalChecks.step Outbox.fresh runRefusalCalls).map
      (fun final => final.statusEvents.get (ID.hex runRefusedEvent.id)) = some (some "intent") := by
    decide +kernel
  exact Option.map_eq_some_iff.mp staged

theorem run_status_owners_resolve_refusal :
    ∃ final, run refusalChecks.step Outbox.fresh runRefusalCalls = some final ∧
      final.statusEvents.get (ID.hex runRefusedEvent.id) = some "intent" ∧
      StatusOwnersResolve final := by
  have paired : Along refusalChecks.step (fun tx call => tx.pairsIntent call = true) Outbox.fresh
      runRefusalCalls := along_of_check rfl
  obtain ⟨final, executed, row⟩ := refusal_run
  exact ⟨final, executed, row,
    (run_status_owners_resolve refusalChecks runRefusalCalls paired executed).1⟩

/-- Admitting a run for another coordinate under the intent of the refused request hides the
owner of its status. -/
theorem admission_hides_status_owner :
    ∃ final, run refusalChecks.step Outbox.fresh (runRefusalCalls ++ [runAdmitCall]) = some final ∧
      ¬StatusOwnersResolve final := by
  have rows : (run refusalChecks.step Outbox.fresh (runRefusalCalls ++ [runAdmitCall])).map (fun final =>
      (final.statusEvents.get (ID.hex runRefusedEvent.id),
        (final.intents.get "intent").map (·.statusEventID))) = some (some "intent", some "") := by
    decide +kernel
  obtain ⟨final, executed, shown⟩ := Option.map_eq_some_iff.mp rows
  obtain ⟨row, admitted⟩ := Prod.mk.inj shown
  obtain ⟨record, found, unstaged⟩ := Option.map_eq_some_iff.mp admitted
  refine ⟨final, executed, ?_⟩
  intro resolve
  rcases resolve _ _ row with ⟨unadmitted, _⟩ | ⟨stored, held, staged⟩
  · exact nomatch found.symm.trans unadmitted
  · cases Option.some.inj (found.symm.trans held)
    exact ID.hex_ne_empty _ (staged.symm.trans unstaged)

end Bahia.Localstore
