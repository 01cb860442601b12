import Bahia.Delivery.Settlement

/-! Rounds that the outbound admission controller refuses. They say nothing about any relay and are
not counted, but the delivery is settled by the counts all the same. -/

namespace Bahia.Publisher
open Foundation Nostr Localstore List

/-- The controller refuses the whole publication, or every frame of it. -/
def OutboxDelivery.refused (d : OutboxDelivery) (input : RoundInput) : Bool :=
  !d.settled && !((d.syncRelays input.configured).retryableRelays input.configured).isEmpty &&
    (input.callErr.any isAdmissionRejection && input.results.isEmpty ||
      (allAdmissionRefusals input.results).1 && input.results.all (!·.accepted))

/-- Attempts are left, and the relays that have not refused the event for good can make the quorum. -/
def OutboxDelivery.canGoOn (d : OutboxDelivery) (input : RoundInput) : Bool :=
  let synced := d.syncRelays input.configured
  decide (d.rounds < input.maxAttempts) &&
    decide (requiredAcceptances input.quorum input.configured.length ≤
      ((synced.acceptedCount input.configured +
        (synced.retryableRelays input.configured).length : Nat) : Int))

/-- Nothing is recorded, counted, settled or marked. -/
structure Harmless (outbox : Outbox) (d : OutboxDelivery) (outcome : RoundOutcome) : Prop where
  entry : outcome.outbox = outbox
  rounds : outcome.delivery.rounds = d.rounds
  unsettled : outcome.delivery.settled = false
  unmarked : ∀ detail, .markOwnEventUndelivered detail ∉ outcome.notices

/-- Whether the relay has accepted the event, and whether it may still do so. -/
def verdict : Option RelayDelivery → Bool × Bool
  | some state => (state.accepted, !state.accepted && state.rejected == "")
  | none => (false, true)

def SameVerdicts (before after : RelayDeliveries) : Prop :=
  ∀ url, verdict (after.get url) = verdict (before.get url)

variable {d other : OutboxDelivery} {input : RoundInput}

theorem counts_of_sameVerdicts (same : SameVerdicts d.relays other.relays) (configured : List String) :
    other.acceptedCount configured = d.acceptedCount configured ∧
      other.retryableRelays configured = d.retryableRelays configured := by
  constructor
  · refine countP_congr fun url _ => ?_
    have here := congrArg Prod.fst (same url)
    cases one : d.relays.get url <;> cases two : other.relays.get url <;> simp_all [verdict]
  · refine filter_congr fun url _ => ?_
    have here := congrArg Prod.snd (same url)
    cases one : d.relays.get url <;> cases two : other.relays.get url <;> simp_all [verdict]

theorem note_sameVerdicts (applied : Applied) (plain : result.accepted = false)
    (silent : result.reason = "") (failed : result.error.isSome = true) :
    SameVerdicts applied.relays (applied.note result).relays := by
  have retry : classifyPublishResult result = .retry := by
    have other : hasPrefix "" "duplicate:" = false := by decide
    simp [classifyPublishResult, PublishResult.isDuplicate, plain, silent, other,
      Option.isSome_iff_ne_none.mp failed]
  intro url
  simp only [Applied.note, retry]
  cases known : applied.relays.get result.relayURL with
  | none => rfl
  | some state =>
    obtain ⟨rows, accepted, rejected⟩ := noteReconnect_keeps applied state result
    simp only [rows, Bucket.get_put]
    split
    case isTrue same => simp [← same, known, verdict, accepted, rejected]
    case isFalse => rfl

theorem noteMissing_sameVerdicts (callErr : Option PublishError) (applied : Applied) (url : String) :
    SameVerdicts applied.relays (applied.noteMissing callErr url).relays := by
  intro asked
  unfold Applied.noteMissing
  split
  · rfl
  rw [Bucket.get_put]
  split
  case isTrue same => subst same; cases applied.relays.get url <;> rfl
  case isFalse => rfl

theorem digest_of_refused (refused : d.refused input = true) :
    SameVerdicts (d.syncRelays input.configured).relays
        ((d.syncRelays input.configured).digest input).1.relays ∧
      ((d.syncRelays input.configured).digest input).1.countable = false := by
  simp only [OutboxDelivery.refused, Bool.and_eq_true, Bool.not_eq_true'] at refused
  obtain ⟨⟨_, targets⟩, refused⟩ := refused
  generalize d.syncRelays input.configured = synced at targets refused ⊢
  simp only [OutboxDelivery.digest, OutboxDelivery.refusedOutright, OutboxDelivery.answers, targets,
    Bool.not_false, Bool.and_true, Bool.false_eq_true, if_false]
  by_cases outright : (input.callErr.any isAdmissionRejection && input.results.isEmpty) = true
  · rw [if_pos outright]
    exact ⟨fun _ => rfl, rfl⟩
  rw [if_neg outright]
  simp only [outright, Bool.false_or, Bool.and_eq_true, all_eq_true, Bool.not_eq_true'] at refused
  obtain ⟨all, plain⟩ := refused
  have frames : ∀ result ∈ input.results, result.reason = "" ∧ result.error.isSome = true := by
    intro result member
    cases error : result.error <;> grind [allAdmissionRefusals]
  have unchanged : SameVerdicts synced.relays (synced.applyRound
      (synced.retryableRelays input.configured) input.results input.callErr).relays := by
    apply List.foldlRecOn (motive := fun (applied : Applied) => SameVerdicts synced.relays applied.relays)
    apply List.foldlRecOn (motive := fun (applied : Applied) => SameVerdicts synced.relays applied.relays)
    · exact fun _ => rfl
    · intro applied kept result member url
      exact (note_sameVerdicts applied (plain result member) (frames result member).1
        (frames result member).2 url).trans (kept url)
    · intro applied kept target _ url
      exact (noteMissing_sameVerdicts input.callErr applied target url).trans (kept url)
  cases counted : (synced.applyRound (synced.retryableRelays input.configured)
      input.results input.callErr).countable with
  | true => simpa [all] using unchanged
  | false => simpa [all, counted] using unchanged

variable (checks : Checks) (handle : Handle) (outbox : Outbox)

/-- A refused round is harmless where attempts are left and the quorum is in reach, and nowhere else
where its commit succeeds. -/
theorem refused_round_harmless_iff (refused : d.refused input = true) :
    (d.canGoOn input = true → Harmless outbox d (deliverRound checks handle outbox d input)) ∧
      ((∃ next, d.persist checks handle outbox input = .ok next) →
        Harmless outbox d (deliverRound checks handle outbox d input) → d.canGoOn input = true) := by
  obtain ⟨same, uncounted⟩ := digest_of_refused refused
  have unsettled : d.settled = false := by simp_all [OutboxDelivery.refused]
  have targets : (d.syncRelays input.configured).retryableRelays input.configured ≠ [] := by
    simp_all [OutboxDelivery.refused]
  have configured : input.configured ≠ [] := by
    intro none
    simp [none, OutboxDelivery.retryableRelays] at targets
  have rounds : (d.plan input).delivery.rounds = d.rounds := by
    simp [plan_rounds, uncounted]
  have skipped : (d.plan input).skipped = true := by
    simp [OutboxDelivery.plan, uncounted]
  have settles : (d.plan input).settled = !d.canGoOn input := by
    obtain ⟨accepted, retryable⟩ := counts_of_sameVerdicts
      (show SameVerdicts (d.syncRelays input.configured).relays (d.plan input).delivery.relays from same)
      input.configured
    have filled : ((d.syncRelays input.configured).retryableRelays input.configured).length ≠ 0 := by
      simpa using targets
    rw [plan_settled, accepted, retryable, rounds]
    simp [OutboxDelivery.canGoOn, ← decide_not, isEmpty_eq_false_iff.mpr configured,
      beq_eq_false_iff_ne.mpr filled]
  unfold deliverRound
  rw [if_neg (by simp [unsettled])]
  constructor
  · intro goesOn
    have kept : d.persist checks handle outbox input = .ok outbox := by
      simp [OutboxDelivery.persist, skipped, settles, goesOn]
    rw [kept]
    exact ⟨rfl, rounds, by simp [settles, goesOn], by simp [RoundPlan.notices, settles, goesOn]⟩
  · rintro ⟨next, kept⟩ harmless
    simpa [kept, settles] using harmless.unsettled

/-- A round of a publisher with one write relay, refused by the kill switch. -/
def heldRound (maxAttempts : Int) : RoundInput where
  target := "control"
  configured := ["wss://a"]
  quorum := 1
  maxAttempts
  results := []
  callErr := some ⟨"nostr outbound publication kill switch active", some .killSwitch, none⟩
  callerWaiting := false
  now := 1700000000000000000

theorem refused_round_harmless_first :
    ∃ queued inserted, Checks.trusting.enqueueEntry .writable Outbox.fresh
        (statusEntry noteEvent "control" 1700000000000000000) 1700000000000000000 =
          .ok (queued, inserted) ∧ (queued.entries.get noteEvent.id).isSome = true ∧
      Harmless queued (newDelivery noteEvent 0)
        (deliverRound .trusting .writable queued (newDelivery noteEvent 0) (heldRound 30)) :=
  ⟨_, _, rfl, rfl, (refused_round_harmless_iff .trusting .writable _ (by decide)).1 (by decide)⟩

/-- One round was counted before the budget was lowered to one: the kill switch abandons the queued
event. -/
theorem refused_round_abandons :
    ∃ queued inserted, Checks.trusting.enqueueEntry .writable Outbox.fresh
        (statusEntry noteEvent "control" 1700000000000000000) 1700000000000000000 =
          .ok (queued, inserted) ∧
      (newDelivery noteEvent 1).refused (heldRound 1) = true ∧
      let outcome := deliverRound .trusting .writable queued (newDelivery noteEvent 1) (heldRound 1)
      (outcome.outbox.entries.get noteEvent.id).map (·.state) = some .failed ∧
        outcome.delivery.settled = true ∧
        ∃ detail, .markOwnEventUndelivered detail ∈ outcome.notices := by
  refine ⟨_, _, rfl, by decide, rfl, rfl, _, mem_cons_self⟩

end Bahia.Publisher
