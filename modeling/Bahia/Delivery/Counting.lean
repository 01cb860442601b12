import Bahia.Delivery.Refusals

/-! Which rounds spend the attempt budget. A relay that was not dialed teaches nothing, whether its
frame was refused by the admission controller or it is still in reconnect backoff; the two are
recognised apart from each other. -/

namespace Bahia.Publisher
open Foundation Nostr Localstore List

namespace PublishResult
variable (result : PublishResult)

def refusal : Bool := result.reason == "" && result.error.any isAdmissionRejection

def backoff : Option (Time × Time) := result.error.bind PublishError.reconnect

/-- A backoff whose dial failure is newer than the one already counted. -/
def newer (seen : Time) : Bool := result.backoff.any fun (failedAt, _) => Time.after failedAt seen

def contacted : Bool := !result.refusal && result.backoff.isNone

end PublishResult

def seenAt (relays : RelayDeliveries) (url : String) : Time :=
  ((relays.get url).getD .fresh).seenDialFailure

/-- A relay was contacted, or a backoff reports a dial failure not counted yet. -/
def Informative (relays : RelayDeliveries) (results : List PublishResult) : Prop :=
  ∃ result ∈ results, result.contacted = true ∨ result.newer (seenAt relays result.relayURL) = true

/-- What `applyRound` counts: it does not look at admission refusals. -/
def Counts (relays : RelayDeliveries) (result : PublishResult) : Prop :=
  result.backoff.isNone = true ∨ result.newer (seenAt relays result.relayURL) = true

theorem note_known {applied : Applied} {result : PublishResult}
    (known : (applied.relays.get result.relayURL).isSome = true) :
    (applied.note result).answered = result.relayURL :: applied.answered ∧
      ((applied.note result).countable = true ↔ applied.countable = true ∨ Counts applied.relays result) ∧
      (∀ url, ((applied.note result).relays.get url).isSome = (applied.relays.get url).isSome) ∧
      ∀ url, seenAt (applied.note result).relays url = seenAt applied.relays url ∨
        Counts applied.relays result := by
  obtain ⟨state, found⟩ := Option.isSome_iff_exists.mp known
  simp only [Applied.note, found, Applied.noteReconnect, Counts, PublishResult.newer, PublishResult.backoff,
    seenAt]
  refine ⟨?_, ?_, fun url => ?_, fun url => ?_⟩ <;> cases classifyPublishResult result <;>
    cases backoff : result.error.bind PublishError.reconnect <;> grind [Bucket.get_put]

theorem foldl_note {results : List PublishResult} {applied : Applied}
    (known : ∀ result ∈ results, (applied.relays.get result.relayURL).isSome = true) :
    ((results.foldl Applied.note applied).countable = true ↔
        applied.countable = true ∨ ∃ result ∈ results, Counts applied.relays result) ∧
      ∀ url, url ∈ (results.foldl Applied.note applied).answered ↔
        url ∈ applied.answered ∨ ∃ result ∈ results, result.relayURL = url := by
  induction results generalizing applied with
  | nil => simp
  | cons result rest ih =>
    obtain ⟨answered, counted, kept, seen⟩ := note_known (known result mem_cons_self)
    obtain ⟨restCounted, restAnswered⟩ := @ih (applied.note result) fun other member =>
      (kept _).trans (known other (mem_cons_of_mem _ member))
    rw [foldl_cons]
    refine ⟨restCounted.trans ?_, fun url => (restAnswered url).trans (by rw [answered]; grind)⟩
    by_cases here : Counts applied.relays result
    · simp [counted, here]
    have same : ∀ url, seenAt (applied.note result).relays url = seenAt applied.relays url :=
      fun url => (seen url).resolve_right here
    simp [counted, Counts, same, or_assoc]

theorem foldl_noteMissing {targets : List String} {applied : Applied}
    (answered : ∀ url ∈ targets, url ∈ applied.answered) :
    targets.foldl (Applied.noteMissing callErr) applied = applied := by
  induction targets with
  | nil => rfl
  | cons url rest ih => simp_all [Applied.noteMissing]

variable {d : OutboxDelivery} {input : RoundInput}

/-- The round is run, and its results answer exactly the relays it is sent to. -/
structure Answered (d : OutboxDelivery) (input : RoundInput) : Prop where
  running : d.settled = false
  answers : ∀ url, url ∈ (d.syncRelays input.configured).retryableRelays input.configured ↔
    ∃ result ∈ input.results, result.relayURL = url

theorem digest_countable_iff (answered : Answered d input) (some : input.results ≠ []) :
    ((d.syncRelays input.configured).digest input).1.countable = true ↔
      (∃ result ∈ input.results, Counts (d.syncRelays input.configured).relays result) ∧
        ¬ ∀ result ∈ input.results, result.refusal = true := by
  have answers := answered.answers
  have known : ∀ result ∈ input.results,
      ((d.syncRelays input.configured).relays.get result.relayURL).isSome = true := fun result member =>
    Option.isSome_of_eq_some (syncRelays_get (mem_filter.mp ((answers _).mpr ⟨result, member, rfl⟩)).1)
  generalize d.syncRelays input.configured = synced at answers known ⊢
  have targets : synced.retryableRelays input.configured ≠ [] := by
    obtain ⟨result, member⟩ := exists_mem_of_ne_nil _ some
    exact ne_nil_of_mem ((answers _).mpr ⟨result, member, rfl⟩)
  obtain ⟨counted, noted⟩ := @foldl_note _ ⟨synced.relays, [], false, none, false⟩ known
  have applied : (synced.applyRound (synced.retryableRelays input.configured) input.results
      input.callErr).countable = true ↔ ∃ result ∈ input.results, Counts synced.relays result := by
    unfold OutboxDelivery.applyRound
    simp only [isEmpty_eq_false_iff.mpr targets, isEmpty_eq_false_iff.mpr some, Bool.or_self]
    rw [foldl_noteMissing fun url member => (noted url).mpr (.inr ((answers url).mp member)), counted]
    simp
  have refusals : (allAdmissionRefusals input.results).1 = true ↔
      ∀ result ∈ input.results, result.refusal = true := by
    unfold allAdmissionRefusals
    dsimp only
    split <;> simp_all [PublishResult.refusal]
  have sent : synced.answers input = (input.results, input.callErr) := if_neg (by simpa using targets)
  have heard : synced.refusedOutright input = false := by simp [OutboxDelivery.refusedOutright, sent, some]
  unfold OutboxDelivery.digest
  rw [heard, ← applied, sent, ← refusals]
  dsimp only
  rw [if_neg Bool.false_ne_true]
  split
  case isTrue both => simp [Bool.and_eq_true_iff.mp both]
  case isFalse one => simpa using one

/-- A round counts exactly when it is informative where it has a target, its admission refusals do not
come with stale backoffs only, and no refused frame reports a new dial failure. -/
theorem round_counts_iff_informative (checks : Checks) (handle : Handle) (outbox : Outbox)
    (answered : Answered d input) :
    let relays := (d.syncRelays input.configured).relays
    ((deliverRound checks handle outbox d input).delivery.rounds = d.rounds + 1 ↔
        Informative relays input.results) ↔
      input.results ≠ [] ∧
        ((∃ result ∈ input.results, result.refusal = true ∧ result.backoff = none) →
          (∀ result ∈ input.results, result.refusal = true) ∨ Informative relays input.results) ∧
        (Informative relays input.results → ¬ ∀ result ∈ input.results, result.refusal = true) := by
  intro relays
  have rounds : (deliverRound checks handle outbox d input).delivery.rounds = d.rounds + 1 ↔
      ((d.syncRelays input.configured).digest input).1.countable = true := by
    unfold deliverRound
    rw [if_neg (by simp [answered.running])]
    cases d.persist checks handle outbox input <;> dsimp only <;> rw [plan_rounds] <;> grind
  rw [rounds]
  by_cases none : input.results = []
  · have quiet : (d.syncRelays input.configured).retryableRelays input.configured = [] :=
      eq_nil_iff_forall_not_mem.mpr fun url member => by
        simpa [none] using (answered.answers url).mp member
    simp [none, Informative, OutboxDelivery.digest, OutboxDelivery.refusedOutright,
      OutboxDelivery.answers, quiet, OutboxDelivery.applyRound, allAdmissionRefusals]
  · have counted : (∃ result ∈ input.results, Counts relays result) ↔ Informative relays input.results ∨
        ∃ result ∈ input.results, result.refusal = true ∧ result.backoff = .none := by
      simp only [Informative, ← exists_or, ← and_or_left]
      refine exists_congr fun result => and_congr_right fun _ => ?_
      cases refused : result.refusal <;> simp [Counts, PublishResult.contacted, refused, or_comm]
    rw [digest_countable_iff answered none, counted]
    generalize Informative relays input.results = informed, (∀ result ∈ input.results, _) = all
    grind

/-- Two relays: the one is in reconnect backoff since `failedAt`, the other answers as given. -/
def halfRound (failedAt : SInt64) (error : Option PublishError) : RoundInput :=
  { heldRound 30 with
    configured := ["wss://a", "wss://b"]
    callErr := none
    results := [⟨"wss://a", false, "", error⟩,
      ⟨"wss://b", false, "", some ⟨"relay reconnect backoff", none, some (some failedAt, none)⟩⟩] }

def halfSeen : OutboxDelivery :=
  { newDelivery noteEvent 1 with
    relays := (∅ : RelayDeliveries).put "wss://b" { RelayDelivery.fresh with seenDialFailure := some 5 } }

theorem halfRound_answered (failedAt : SInt64) (error : Option PublishError) :
    Answered halfSeen (halfRound failedAt error) := by
  refine ⟨rfl, fun url => ?_⟩
  have targets : (halfSeen.syncRelays ["wss://a", "wss://b"]).retryableRelays ["wss://a", "wss://b"] =
    ["wss://a", "wss://b"] := by decide
  simp [halfRound, targets, eq_comm]

theorem round_counts_informative_contact :
    let input := halfRound 5 (some ⟨"connection reset", none, none⟩)
    (deliverRound .trusting .writable Outbox.fresh halfSeen input).delivery.rounds = 2 := by
  intro input
  have informed : Informative (halfSeen.syncRelays input.configured).relays input.results :=
    ⟨_, mem_cons_self, .inl (by decide)⟩
  exact ((round_counts_iff_informative .trusting .writable Outbox.fresh (halfRound_answered _ _)).mpr
    ⟨by decide, fun _ => .inr informed, fun _ => by decide⟩).mpr informed

/-- A refused frame and a dial failure already counted: nothing was learned, and the round counts. -/
theorem round_counts_uninformed :
    let input := halfRound 5 (some ⟨"relay budget exhausted", some .budgetExceeded, none⟩)
    Answered halfSeen input ∧
      (deliverRound .trusting .writable Outbox.fresh halfSeen input).delivery.rounds = halfSeen.rounds + 1 ∧
      ¬ Informative (halfSeen.syncRelays input.configured).relays input.results :=
  ⟨halfRound_answered _ _, by decide, by unfold Informative; decide⟩

end Bahia.Publisher
