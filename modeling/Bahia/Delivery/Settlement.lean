import Bahia.Delivery.System
import Bahia.Outbox.RoundEffects

/-! How a delivered entry settles. The store keeps `Delivered` for good, but a round
settles by its publisher's own relay view: a publisher whose view lacks the quorum can
still settle a delivered entry as failed. -/

namespace Bahia.Publisher
open Foundation Nostr Localstore Bucket

section CommitEffect
variable {checks : Checks} {handle : Handle} {tx next : Outbox} {id : ID} {round : OutboxRound}
  {recordProof : Bool} {now : SInt64} {stored : OutboxEntry}

def reportedState : RoundState → EntryState
  | .reported state => state
  | _ => .pending

theorem settleRound_state (pending : entry.state = .pending)
    (success : tx.settleRound id entry state atTime = .ok settled) :
    settled.2.state = reportedState state := by
  cases state with
  | blank =>
    cases Except.ok.inj success
    exact pending
  | unknown => cases success
  | reported state =>
    cases state with
    | pending =>
      cases Except.ok.inj success
      exact pending
    | _ =>
      cases Except.ok.inj success
      rfl

theorem commitRoundWith_effect
    (success : checks.commitRoundWith handle tx id round recordProof now = .ok (next, stored)) :
    ∃ entry, tx.entries.get id = some entry ∧
      ((entry.state ≠ .pending ∧ next.entries = tx.entries) ∨
        (entry.state = .pending ∧ next.entries = tx.entries.put id stored ∧
          stored.delivered = (entry.delivered || round.delivered) ∧
          stored.state = reportedState round.state)) := by
  rcases (Localstore.commitRoundWith_effect success).1 with
    ⟨entry, _, late⟩ | ⟨entry, _, _, live, _, _, settle⟩
  · exact ⟨entry, late.found, .inl ⟨late.settled, late.entries⟩⟩
  · have merged : (entry.mergeRound round).state = .pending := live.pending
    exact ⟨entry, live.found, .inr ⟨live.pending, live.entries, live.delivered,
      settleRound_state merged settle⟩⟩

end CommitEffect

def Flagged (outbox : Outbox) (id : ID) : Prop :=
  ∃ entry, outbox.entries.get id = some entry ∧ entry.delivered = true

def Healthy (outbox : Outbox) (id : ID) : Prop :=
  ∀ entry, outbox.entries.get id = some entry → entry.delivered = true → entry.state ≠ .failed

section Rows
variable {checks : Checks} {handle : Handle} {tx next : Outbox} {id other : ID} {now : SInt64}

variable {stored entry : OutboxEntry} {inserted : Bool}

theorem commit_flagged {round : OutboxRound} (flagged : Flagged tx id)
    (success : checks.commitPublisherRound handle tx other round now = .ok (next, stored)) :
    Flagged next id := by
  obtain ⟨entry, found, delivered⟩ := flagged
  obtain ⟨target, present, effect⟩ := commitRoundWith_effect success
  rcases effect with ⟨_, same⟩ | ⟨_, changed, merged, _⟩
  · exact ⟨entry, by rw [same]; exact found, delivered⟩
  by_cases same : other = id
  · subst same
    cases Option.some.inj (found.symm.trans present)
    refine ⟨stored, ?_, ?_⟩
    · rw [changed, get_put_self]
    · rw [merged, delivered, Bool.true_or]
  · refine ⟨entry, ?_, delivered⟩
    rw [changed, get_put_of_ne _ same]
    exact found

theorem commit_healthy {round : OutboxRound} (healthy : Healthy tx id)
    (success : checks.commitPublisherRound handle tx other round now = .ok (next, stored))
    (harmless : other = id → reportedState round.state = .failed → ∀ entry,
      tx.entries.get id = some entry → entry.state = .pending →
        entry.delivered = false ∧ round.delivered = false) :
    Healthy next id := by
  obtain ⟨target, present, effect⟩ := commitRoundWith_effect success
  intro entry found delivered failure
  rcases effect with ⟨_, same⟩ | ⟨pending, changed, merged, state⟩
  · rw [same] at found
    exact healthy entry found delivered failure
  by_cases same : other = id
  · subst same
    rw [changed, get_put_self] at found
    cases Option.some.inj found
    obtain ⟨before, reported⟩ := harmless rfl (state.symm.trans failure) target present pending
    rw [merged, before, reported] at delivered
    cases delivered
  · rw [changed, get_put_of_ne _ same] at found
    exact healthy entry found delivered failure

theorem enqueueEntry_keeps
    (success : checks.enqueueEntry handle tx entry now = .ok (next, inserted)) :
    (Flagged tx id → Flagged next id) ∧ (Healthy tx id → Healthy next id) := by
  rcases (enqueueEntry_effect success).1 with ⟨same, _⟩ | ⟨absent, changed, _⟩
  · unfold Flagged Healthy
    rw [same]
    exact ⟨fun flagged => flagged, fun healthy => healthy⟩
  refine ⟨?_, ?_⟩
  · intro flagged
    obtain ⟨stored, found, delivered⟩ := flagged
    have different : entry.event.id ≠ id := by
      intro same
      rw [same, found] at absent
      cases absent
    exact ⟨stored, by rw [changed, get_put_of_ne _ different]; exact found, delivered⟩
  · intro healthy stored found delivered failure
    rw [changed, get_put] at found
    split at found
    · cases Option.some.inj found
      cases failure
    · exact healthy stored found delivered failure

end Rows

/-- Before the round the relay had accepted the event, or it accepts it in its answer. -/
def OutboxDelivery.taken (d : OutboxDelivery) (answers : List PublishResult) (url : String) : Bool :=
  ((d.relays.get url).getD .fresh).accepted ||
    answers.any fun result => result.relayURL == url && classifyPublishResult result == .accepted

/-- Before the round the relay had refused the event for good, or it does so in its answer. -/
def OutboxDelivery.barred (d : OutboxDelivery) (answers : List PublishResult) (url : String) : Bool :=
  ((d.relays.get url).getD .fresh).rejected != "" ||
    answers.any fun result => result.relayURL == url && classifyPublishResult result == .rejected

/-- Enough of the configured relays have taken the event, or an attempt is left after this one and
enough of them have taken or not barred it. -/
def OutboxDelivery.quorumInReach (d : OutboxDelivery) (input : RoundInput) : Bool :=
  let answers := ((d.syncRelays input.configured).answers input).1
  let required := requiredAcceptances input.quorum input.configured.length
  let taken := input.configured.countP (d.taken answers)
  let unbarred := input.configured.countP fun url => d.taken answers url || !d.barred answers url
  (!input.configured.isEmpty && decide (required ≤ (taken : Int))) ||
    (decide (d.rounds + 1 < input.maxAttempts) &&
      (input.configured.isEmpty || decide (required ≤ (unbarred : Int))))

variable {d : OutboxDelivery} {input : RoundInput} {id : ID} {fleet : Fleet}

theorem syncRelays_get (member : url ∈ configured) :
    (d.syncRelays configured).relays.get url = some ((d.relays.get url).getD .fresh) := by
  have dropped : (d.relays.keys.foldl (fun relays url =>
      if configured.contains url then relays else relays.delete url) d.relays).get url =
        d.relays.get url :=
    List.foldlRecOn (motive := fun (relays : RelayDeliveries) => relays.get url = d.relays.get url)
      _ _ rfl fun relays kept other _ => by grind [get_delete]
  have filled : ∀ (configured : List String) (kept : RelayDeliveries),
      (configured.foldl (fun relays url =>
        if (relays.get url).isSome then relays else relays.put url .fresh) kept).get url =
      if url ∈ configured then some ((kept.get url).getD .fresh) else kept.get url := by
    intro configured
    induction configured with
    | nil => exact fun _ => rfl
    | cons first rest ih =>
      intro kept
      rw [List.foldl_cons, ih]
      clear ih dropped
      by_cases same : first = url
      · cases known : kept.get first <;> simp_all
      · have other : url ≠ first := Ne.symm same
        cases known : kept.get first <;> simp [get_put, same, other]
  dsimp only [OutboxDelivery.syncRelays]
  rw [filled, if_pos member, dropped]

theorem noteReconnect_keeps (applied : Applied) (state : RelayDelivery) (result : PublishResult) :
    (applied.noteReconnect state result).1.relays = applied.relays ∧
      (applied.noteReconnect state result).2.accepted = state.accepted ∧
      (applied.noteReconnect state result).2.rejected = state.rejected := by
  unfold Applied.noteReconnect
  split
  · exact ⟨rfl, by dsimp only; split <;> rfl, by dsimp only; split <;> rfl⟩
  · exact ⟨rfl, rfl, rfl⟩

theorem note_get {applied : Applied} (known : applied.relays.get url = some state)
    (result : PublishResult) :
    ∃ after, (applied.note result).relays.get url = some after ∧
      after.accepted = (state.accepted ||
        (result.relayURL == url && classifyPublishResult result == .accepted)) ∧
      (after.rejected ≠ "" → state.rejected ≠ "" ∨
        (result.relayURL == url && classifyPublishResult result == .rejected) = true) := by
  by_cases own : result.relayURL = url
  · subst own
    obtain ⟨_, accepted, rejected⟩ := noteReconnect_keeps applied state result
    simp only [Applied.note, known]
    cases classifyPublishResult result <;> simp [accepted, rejected]
  · refine ⟨state, ?_, by simp [own], .inl⟩
    rw [← known, Applied.note]
    split
    · rfl
    rename_i other _
    cases classifyPublishResult result <;>
      simp [get_put_of_ne _ own, (noteReconnect_keeps applied other result).1]

def Left (d : OutboxDelivery) (answers : List PublishResult) (relays : RelayDeliveries) (url : String) :
    Prop :=
  ∃ after, relays.get url = some after ∧ after.accepted = d.taken answers url ∧
    (after.rejected ≠ "" → d.barred answers url = true)

theorem notes_left (answers : List PublishResult) (applied : Applied)
    (known : applied.relays.get url = some ((d.relays.get url).getD .fresh)) :
    Left d answers (answers.foldl Applied.note applied).relays url := by
  induction answers using List.reverseRecOn with
  | nil => exact ⟨_, known, by simp [OutboxDelivery.taken], by simp [OutboxDelivery.barred]⟩
  | append_singleton earlier result ih =>
    obtain ⟨state, found, accepted, rejected⟩ := ih
    obtain ⟨after, stored, taken, barred⟩ := note_get found result
    rw [List.foldl_append]
    refine ⟨after, stored, ?_, ?_⟩
    · simp [taken, accepted, OutboxDelivery.taken, Bool.or_assoc]
    · intro refused
      rw [OutboxDelivery.barred, List.any_append, ← Bool.or_assoc, Bool.or_eq_true]
      rcases barred refused with before | here
      · exact .inl (rejected before)
      · exact .inr (by simp [here])

theorem missing_left {applied : Applied} (left : Left d answers applied.relays url) :
    Left d answers (applied.noteMissing callErr target).relays url := by
  obtain ⟨after, stored, taken, barred⟩ := left
  unfold Applied.noteMissing Left
  grind [get_put]

theorem plan_left (member : url ∈ input.configured) :
    Left d ((d.syncRelays input.configured).answers input).1 (d.plan input).delivery.relays url := by
  have known := syncRelays_get (d := d) member
  have digested : (d.plan input).delivery.relays = ((d.syncRelays input.configured).digest input).1.relays :=
    rfl
  have applied : Left d ((d.syncRelays input.configured).answers input).1
      ((d.syncRelays input.configured).applyRound ((d.syncRelays input.configured).retryableRelays
        input.configured) ((d.syncRelays input.configured).answers input).1
        ((d.syncRelays input.configured).answers input).2).relays url :=
    List.foldlRecOn (motive := fun (applied : Applied) => Left d _ applied.relays url) _ _
      (notes_left _ _ known) fun _ left _ _ => missing_left left
  rw [digested]
  unfold OutboxDelivery.digest
  dsimp only
  split
  case isTrue refused =>
    have none : ((d.syncRelays input.configured).answers input).1 = [] := by
      simp_all [OutboxDelivery.refusedOutright]
    rw [none]
    exact notes_left [] ⟨_, [], false, .none, false⟩ known
  case isFalse => split <;> exact applied

theorem plan_counts (d : OutboxDelivery) (input : RoundInput) :
    let answers := ((d.syncRelays input.configured).answers input).1
    (d.plan input).delivery.acceptedCount input.configured = input.configured.countP (d.taken answers) ∧
      (input.configured.countP fun url => d.taken answers url || !d.barred answers url) ≤
        (d.plan input).delivery.acceptedCount input.configured +
          ((d.plan input).delivery.retryableRelays input.configured).length := by
  intro answers
  have accepted : (d.plan input).delivery.acceptedCount input.configured =
      input.configured.countP (d.taken answers) := by
    refine List.countP_congr fun url member => ?_
    obtain ⟨after, stored, taken, _⟩ := plan_left (d := d) member
    simp [stored, taken, answers]
  refine ⟨accepted, ?_⟩
  -- A relay that has not taken the event and is not barred stays retryable.
  have waiting : input.configured.countP (fun url => !d.taken answers url && !d.barred answers url) ≤
      ((d.plan input).delivery.retryableRelays input.configured).length := by
    rw [OutboxDelivery.retryableRelays, ← List.countP_eq_length_filter]
    refine List.countP_mono_left fun url member free => ?_
    obtain ⟨after, stored, taken, barred⟩ := plan_left (d := d) member
    rw [stored]
    grind
  rw [accepted, List.countP_eq_countP_filter_add _ _ (d.taken answers), List.countP_filter,
    List.countP_filter]
  refine Nat.add_le_add (List.countP_mono_left ?_) (le_trans (List.countP_mono_left ?_) waiting)
  · grind
  · grind

theorem plan_settled : (d.plan input).settled =
    (decide (input.maxAttempts ≤ (d.plan input).delivery.rounds) || (!input.configured.isEmpty &&
      (((d.plan input).delivery.retryableRelays input.configured).length == 0 ||
        decide ((((d.plan input).delivery.acceptedCount input.configured +
          ((d.plan input).delivery.retryableRelays input.configured).length : Nat) : Int) <
            requiredAcceptances input.quorum input.configured.length)))) := rfl

theorem plan_rounds : (d.plan input).delivery.rounds =
    if ((d.syncRelays input.configured).digest input).1.countable then d.rounds + 1 else d.rounds := rfl

/-- A round that reports a failure had the quorum out of reach. -/
theorem plan_failed (failed : (d.plan input).state = .failed) :
    (d.plan input).delivered = false ∧ d.quorumInReach input = false := by
  have settled : (d.plan input).settled = true ∧ (d.plan input).delivered = false := by
    unfold RoundPlan.state at failed
    cases delivered : (d.plan input).delivered <;> cases settles : (d.plan input).settled <;>
      simp [delivered, settles] at failed ⊢
  refine ⟨settled.2, ?_⟩
  obtain ⟨settles, missed⟩ := settled
  have deliveredEq : (d.plan input).delivered = (!input.configured.isEmpty &&
    decide (requiredAcceptances input.quorum input.configured.length ≤
      ((d.plan input).delivery.acceptedCount input.configured : Int))) := rfl
  obtain ⟨accepted, unbarred⟩ := plan_counts d input
  have rounds : (d.plan input).delivery.rounds ≤ d.rounds + 1 := by
    rw [plan_rounds]
    split <;> omega
  rw [deliveredEq] at missed
  rw [plan_settled] at settles
  unfold OutboxDelivery.quorumInReach
  dsimp only
  rw [← accepted]
  cases empty : input.configured.isEmpty <;>
    simp only [empty, Bool.not_true, Bool.not_false, Bool.false_and, Bool.true_and, Bool.or_false,
      Bool.false_or, Bool.true_or, Bool.and_true, Bool.or_eq_true, Bool.or_eq_false_iff,
      Bool.and_eq_false_iff, decide_eq_true_eq, decide_eq_false_iff_not, beq_iff_eq]
      at missed settles ⊢
  · omega
  · omega

/-- A round on a pending, delivered entry has the quorum in reach. -/
def keepsQuorum (id : ID) (fleet : Fleet) : FleetAction → Bool
  | .round publisher tracked _ input =>
    match fleet.deliveries publisher tracked, fleet.outbox.entries.get id with
    | some d, some entry =>
      d.event.id != id || d.settled || entry.state != .pending || !entry.delivered ||
        d.quorumInReach input
    | _, _ => true
  | _ => true

def KeepsQuorum (id : ID) (fleet : Fleet) (action : FleetAction) : Prop :=
  keepsQuorum id fleet action = true

theorem KeepsQuorum.inReach (keeps : KeepsQuorum id fleet (.round publisher tracked handle input))
    (known : fleet.deliveries publisher tracked = some d) (own : d.event.id = id)
    (unsettled : d.settled = false) (found : fleet.outbox.entries.get id = some entry)
    (pending : entry.state = .pending) (delivered : entry.delivered = true) :
    d.quorumInReach input = true := by
  unfold KeepsQuorum keepsQuorum at keeps
  simpa [known, found, own, unsettled, pending, delivered] using keeps

/-- The round a `PublishBeforeCommit` still has to record reports no failure. -/
def PreCommitsDeliver (fleet : Fleet) : Prop :=
  ∀ publisher id held, fleet.preCommits publisher id = some held →
    reportedState held.round.state ≠ .failed

section Steps
variable {checks : Checks} {fleet next : Fleet} {id : ID}

theorem preCommitRound_delivers (d : OutboxDelivery) (input : RoundInput) :
    reportedState (preCommitRound d input).state ≠ .failed := by
  simp only [preCommitRound, reportedState]
  split <;> simp

theorem deliverRound_keeps (healthy : Healthy tx id)
    (keeps : ∀ entry, d.event.id = id → d.settled = false → tx.entries.get id = some entry →
      entry.state = .pending → entry.delivered = true → d.quorumInReach input = true) :
    Healthy (deliverRound checks handle tx d input).outbox id ∧
      (Flagged tx id → Flagged (deliverRound checks handle tx d input).outbox id) := by
  unfold deliverRound
  by_cases settled : d.settled = true
  · rw [if_pos settled]
    exact ⟨healthy, fun flagged => flagged⟩
  rw [if_neg settled]
  cases persisted : d.persist checks handle tx input with
  | error => exact ⟨healthy, fun flagged => flagged⟩
  | ok =>
    unfold OutboxDelivery.persist at persisted
    by_cases unrecorded : ((d.plan input).skipped && !(d.plan input).settled) = true
    · rw [if_pos unrecorded] at persisted
      cases Except.ok.inj persisted
      exact ⟨healthy, fun flagged => flagged⟩
    rw [if_neg unrecorded] at persisted
    obtain ⟨result, committed, same⟩ := map_ok_iff.mp persisted
    subst same
    refine ⟨commit_healthy healthy committed ?_, fun flagged => commit_flagged flagged committed⟩
    intro own failure entry found pending
    obtain ⟨missed, blind⟩ := plan_failed failure
    refine ⟨?_, missed⟩
    -- A delivered entry would have needed the quorum in this publisher's reach.
    cases delivered : entry.delivered with
    | false => rfl
    | true =>
      have inReach := keeps entry own (Bool.eq_false_iff.mpr settled) found pending delivered
      rw [blind] at inReach
      cases inReach

/-- Every round still to be recorded was already there, or reports no failure. -/
def PreCommitsKept (fleet next : Fleet) : Prop :=
  ∀ publisher id held, next.preCommits publisher id = some held →
    fleet.preCommits publisher id = some held ∨ reportedState held.round.state ≠ .failed

/-- What one step does to the outbox. -/
inductive FleetMove (checks : Checks) (fleet : Fleet) : FleetAction → Fleet → Prop where
  | quiet {action next} (outbox : next.outbox = fleet.outbox) : FleetMove checks fleet action next
  | admitted {action next handle entry now inserted}
      (success : checks.enqueueEntry handle fleet.outbox entry now = .ok (next.outbox, inserted)) :
      FleetMove checks fleet action next
  | delivered {publisher tracked handle input next d}
      (found : fleet.deliveries publisher tracked = some d)
      (outbox : next.outbox = (deliverRound checks handle fleet.outbox d input).outbox) :
      FleetMove checks fleet (.round publisher tracked handle input) next
  | recorded {action next publisher tracked handle now held stored}
      (present : fleet.preCommits publisher tracked = some held)
      (success : checks.commitPublisherRound handle fleet.outbox tracked held.round now =
        .ok (next.outbox, stored)) : FleetMove checks fleet action next

theorem holdPreCommit_some
    (present : (fleet.holdPreCommit publisher own held).preCommits other otherID = some found) :
    held = some found ∨ fleet.preCommits other otherID = some found := by
  simp only [Fleet.holdPreCommit] at present
  split at present
  · exact .inl present
  · exact .inr present

theorem step_moves (taken : fleet.step checks action = some next) :
    FleetMove checks fleet action next ∧ PreCommitsKept fleet next := by
  cases action with
  | enqueue =>
    simp only [Fleet.step] at taken
    split at taken
    · cases taken
    rename_i success
    cases Option.some.inj taken
    simp only [Checks.enqueue, bind_ok_iff] at success
    obtain ⟨_, _, success⟩ := success
    exact ⟨.admitted success, fun _ _ _ present => .inl present⟩
  | track =>
    simp only [Fleet.step] at taken
    split at taken
    · cases taken
    · cases Option.some.inj taken
      exact ⟨.quiet rfl, fun _ _ _ present => .inl present⟩
  | discover =>
    simp only [Fleet.step] at taken
    split at taken
    · cases taken
    split at taken
    · cases taken
    · cases Option.some.inj taken
      exact ⟨.quiet rfl, fun _ _ _ present => .inl present⟩
  | round =>
    simp only [Fleet.step] at taken
    split at taken
    · cases taken
    rename_i found
    split at taken
    · cases taken
    · cases Option.some.inj taken
      exact ⟨.delivered found rfl, fun _ _ _ present => .inl present⟩
  | forget =>
    cases Option.some.inj taken
    exact ⟨.quiet rfl, fun _ _ _ present => .inl present⟩
  | admitPreCommit publisher handle event input =>
    simp only [Fleet.step, Fleet.admitPreCommit] at taken
    split at taken
    · cases taken
    split at taken
    · cases taken
    rename_i success
    cases Option.some.inj taken
    simp only [Checks.enqueuePublisherDelivery, bind_ok_iff] at success
    obtain ⟨_, _, success⟩ := success
    refine ⟨.admitted success, ?_⟩
    intro other otherID found present
    rcases holdPreCommit_some present with own | kept
    · cases Option.some.inj own
      exact .inr (preCommitRound_delivers _ input)
    · exact .inl kept
  | recordPreCommit publisher tracked =>
    simp only [Fleet.step, Fleet.recordPreCommit] at taken
    split at taken
    · cases taken
    rename_i present
    have released : PreCommitsKept fleet (fleet.holdPreCommit publisher tracked none) := by
      intro other otherID found kept
      rcases holdPreCommit_some kept with absent | kept
      · cases absent
      · exact .inl kept
    split at taken
    · cases Option.some.inj taken
      exact ⟨.quiet rfl, released⟩
    · rename_i success
      cases Option.some.inj taken
      exact ⟨.recorded present success, released⟩

/-- What carries the run: no entry of the event is delivered and failed, and no round
still to be recorded will make it so. -/
structure Sound (id : ID) (fleet : Fleet) : Prop where
  delivers : PreCommitsDeliver fleet
  healthy : Healthy fleet.outbox id

section
variable (sound : Sound id fleet) (keeps : KeepsQuorum id fleet action)
  (taken : fleet.step checks action = some next)
include sound keeps taken

theorem step_outbox :
    Healthy next.outbox id ∧ (Flagged fleet.outbox id → Flagged next.outbox id) := by
  cases (step_moves taken).1 with
  | quiet outbox =>
    rw [outbox]
    exact ⟨sound.healthy, fun flagged => flagged⟩
  | admitted success =>
    obtain ⟨flag, health⟩ := enqueueEntry_keeps success
    exact ⟨health sound.healthy, flag⟩
  | delivered found outbox =>
    rw [outbox]
    exact deliverRound_keeps sound.healthy fun entry own unsettled stored pending delivered =>
      keeps.inReach found own unsettled stored pending delivered
  | recorded present success =>
    refine ⟨commit_healthy sound.healthy success ?_, fun flagged => commit_flagged flagged success⟩
    intro _ failure
    exact absurd failure (sound.delivers _ _ _ present)

theorem step_sound : Sound id next := by
  refine ⟨?_, (step_outbox sound keeps taken).1⟩
  intro publisher tracked held present
  rcases (step_moves taken).2 publisher tracked held present with kept | harmless
  · exact sound.delivers publisher tracked held kept
  · exact harmless

end

end Steps

section Runs
variable {checks : Checks} {id : ID} {final : Fleet}

theorem run_sound (sound : Sound id start)
    (guarded : Along (Fleet.step checks) (KeepsQuorum id) start actions)
    (executed : run (Fleet.step checks) start actions = some final) : Sound id final :=
  run_invariant (fun _ _ _ sound keeps taken => step_sound sound keeps taken) sound guarded executed

theorem run_flagged (sound : Sound id start) (flagged : Flagged start.outbox id)
    (guarded : Along (Fleet.step checks) (KeepsQuorum id) start actions)
    (executed : run (Fleet.step checks) start actions = some final) :
    Flagged final.outbox id := by
  induction actions generalizing start with
  | nil =>
    cases Option.some.inj executed
    exact flagged
  | cons action rest ih =>
    obtain ⟨next, taken, remaining⟩ := run_cons_some executed
    obtain ⟨keeps, later⟩ := guarded
    have flag := (step_outbox sound keeps taken).2 flagged
    exact ih (step_sound sound keeps taken) flag (later next taken) remaining

theorem sound_fresh (id : ID) : Sound id Fleet.fresh := by
  refine ⟨?_, ?_⟩
  · intro publisher tracked held present
    cases present
  · intro entry found
    rw [show Fleet.fresh.outbox.entries.get id = none from get_empty id] at found
    cases found

/-- In a run whose rounds on a delivered entry all have the quorum in reach, an entry once delivered
stays so and never settles as failed. -/
theorem delivered_entry_never_fails (checks : Checks) (id : ID) {before after : List FleetAction}
    {middle final : Fleet}
    (guarded : Along (Fleet.step checks) (KeepsQuorum id) Fleet.fresh (before ++ after))
    (reached : run (Fleet.step checks) Fleet.fresh before = some middle)
    (delivered : ∃ entry, middle.outbox.entries.get id = some entry ∧ entry.delivered = true)
    (executed : run (Fleet.step checks) middle after = some final) :
    ∃ entry, final.outbox.entries.get id = some entry ∧ entry.delivered = true ∧
      entry.state ≠ .failed := by
  obtain ⟨guardedBefore, guardedAfter⟩ := along_append guarded
  have guardedRest := guardedAfter middle reached
  have sound := run_sound (sound_fresh id) guardedBefore reached
  obtain ⟨entry, found, flag⟩ := run_flagged sound delivered guardedRest executed
  have healthy := (run_sound sound guardedRest executed).healthy
  exact ⟨entry, found, flag, healthy entry found flag⟩

end Runs

def noteEvent : Event := { sampleEvent (FixedBytes.ofByte 31 7) 1700000000 1 [] with content := "note" }

def answer (url : String) (accepted : Bool) (reason : String) : PublishResult :=
  ⟨url, accepted, reason, none⟩

/-- A round of a publisher with quorum one and a budget of thirty attempts. -/
def noteRound (configured : List String) (results : List PublishResult) : FleetAction :=
  .round 0 noteEvent.id .writable
    { target := "control", configured, quorum := 1, maxAttempts := 30, results, callErr := none
      callerWaiting := false, now := 1700000000000000000 }

def noteAccepted : List FleetAction :=
  [.enqueue .writable (statusEntry noteEvent "control" 1700000000000000000) 1700000000000000000,
    .track 0 noteEvent,
    noteRound ["wss://a", "wss://b"] [answer "wss://a" true "", answer "wss://b" false "busy"]]

def noteRefused : List FleetAction :=
  [noteRound ["wss://a", "wss://b"] [answer "wss://b" false "blocked: policy"]]

def noteRefusedAlone : List FleetAction :=
  [noteRound ["wss://b"] [answer "wss://b" false "blocked: policy"]]

def Fleet.outcome (fleet : Fleet) (id : ID) : Option (Bool × EntryState) :=
  (fleet.outbox.entries.get id).map fun entry => (entry.delivered, entry.state)

theorem outcome_stored (outcome : fleet.outcome id = some (true, state)) :
    ∃ entry, fleet.outbox.entries.get id = some entry ∧ entry.delivered = true ∧
      entry.state = state := by
  obtain ⟨entry, found, same⟩ := Option.map_eq_some_iff.mp outcome
  exact ⟨entry, found, congrArg Prod.fst same, congrArg Prod.snd same⟩

theorem outcome_delivered (outcome : fleet.outcome id = some (true, .pending)) :
    ∃ entry, fleet.outbox.entries.get id = some entry ∧ entry.delivered = true := by
  obtain ⟨entry, found, delivered, _⟩ := outcome_stored outcome
  exact ⟨entry, found, delivered⟩

theorem delivered_entry_never_fails_refused_relay :
    ∃ middle final, run (Fleet.step .trusting) Fleet.fresh noteAccepted = some middle ∧
      run (Fleet.step .trusting) middle noteRefused = some final ∧
      ∃ entry, final.outbox.entries.get noteEvent.id = some entry ∧ entry.delivered = true ∧
        entry.state ≠ .failed := by
  have guarded : Along (Fleet.step .trusting) (KeepsQuorum noteEvent.id) Fleet.fresh
      (noteAccepted ++ noteRefused) := along_of_check rfl
  refine ⟨_, _, rfl, rfl, ?_⟩
  apply delivered_entry_never_fails .trusting noteEvent.id guarded rfl ?_ rfl
  exact outcome_delivered rfl

/-- Relay `a` accepted the event, the quorum was one, and the entry still fails once `a`
is no longer configured and `b` refuses it. -/
theorem delivered_entry_failed_after_reconfiguration :
    ∃ middle final, run (Fleet.step .trusting) Fleet.fresh noteAccepted = some middle ∧
      (∃ entry, middle.outbox.entries.get noteEvent.id = some entry ∧ entry.delivered = true ∧
        entry.state = .pending) ∧
      run (Fleet.step .trusting) middle noteRefusedAlone = some final ∧
      ∃ entry, final.outbox.entries.get noteEvent.id = some entry ∧ entry.delivered = true ∧
        entry.state = .failed := by
  refine ⟨_, _, rfl, ?_, rfl, ?_⟩
  · exact outcome_stored rfl
  · exact outcome_stored rfl

end Bahia.Publisher
