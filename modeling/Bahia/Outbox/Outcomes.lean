import Bahia.Outbox.Admissions

/-! The terminal status of a backup run: over any run of calls each coordinate gets at most
one, and an accepted one only after the proof of its admitted state. -/

namespace Bahia.Localstore
open Foundation Nostr

inductive Verdict where
  | accepted
  | refused
  deriving DecidableEq

/-- A terminal status event written to the outbox for a run coordinate. -/
structure Staging where
  coordinate : String
  verdict : Verdict
  event : Event
  deriving DecidableEq

/-- The status a call stages: the two staging operations report whether it was new. -/
def Checks.staging (checks : Checks) (tx : Outbox) (call : Call) : Option Staging :=
  match call.operation with
  | .stageBackupRunAcceptedStatus record event target =>
    match checks.stageBackupRunAcceptedStatus call.handle tx record event target call.now with
    | .ok (_, _, true) => some ⟨record.coordinate, .accepted, event⟩
    | _ => none
  | .stageBackupRunRefusedStatus record event target =>
    match checks.stageBackupRunRefusedStatus call.handle tx record event target call.now with
    | .ok (_, _, true) => some ⟨record.coordinate, .refused, event⟩
    | _ => none
  | _ => none

def Checks.stagings (checks : Checks) : Outbox → List Call → List Staging
  | _, [] => []
  | tx, call :: rest =>
    (checks.staging tx call).toList ++ checks.stagings (checks.after tx call) rest

variable {checks : Checks} {tx next : Outbox} {call : Call} {staging : Staging}

/-- What a staged status found in the ledger. -/
inductive Stages (checks : Checks) (tx next : Outbox) (now : SInt64) : Staging → Prop
  | accepted {record : BackupRunAdmission} {event : Event} {target : String}
    {current : BackupRunAdmission}
    (accepts : Accepts checks now tx next record event target current) :
    Stages checks tx next now ⟨record.coordinate, .accepted, event⟩
  | refused {record : BackupRunPending} {event : Event} {target : String}
    {current : BackupRunPending}
    (refuses : Refuses checks now tx next record event target current) :
    Stages checks tx next now ⟨record.coordinate, .refused, event⟩

theorem staging_stages (staged : checks.staging tx call = some staging) :
    Stages checks tx (checks.after tx call) call.now staging := by
  obtain ⟨handle, now, operation⟩ := call
  cases operation with
  | stageBackupRunAcceptedStatus record event target =>
    cases outcome : checks.stageBackupRunAcceptedStatus handle tx record event target now with
    | error => simp [Checks.staging, outcome] at staged
    | ok result =>
      obtain ⟨written, statusID, inserted⟩ := result
      have after : checks.after tx
          ⟨handle, now, .stageBackupRunAcceptedStatus record event target⟩ = written := by
        simp [Checks.after, Checks.perform, outcome, Except.map]
      rcases (stageAccepted_effect outcome).1 with ⟨replay, _⟩ | ⟨fresh, current, accepts⟩
      · simp [Checks.staging, outcome, replay] at staged
      simp only [Checks.staging, outcome, fresh, Option.some.injEq] at staged
      rw [after, ← staged]
      exact .accepted accepts
  | stageBackupRunRefusedStatus record event target =>
    cases outcome : checks.stageBackupRunRefusedStatus handle tx record event target now with
    | error => simp [Checks.staging, outcome] at staged
    | ok result =>
      obtain ⟨written, statusID, inserted⟩ := result
      have after : checks.after tx
          ⟨handle, now, .stageBackupRunRefusedStatus record event target⟩ = written := by
        simp [Checks.after, Checks.perform, outcome, Except.map]
      rcases (stageRefused_effect outcome).1 with ⟨replay, _⟩ | ⟨fresh, current, refuses⟩
      · simp [Checks.staging, outcome, replay] at staged
      simp only [Checks.staging, outcome, fresh, Option.some.injEq] at staged
      rw [after, ← staged]
      exact .refused refuses
  | _ => cases staged

/-- The coordinate has a terminal status of this verdict, and this is its event. -/
def Ledger.Outcome (ledger : Ledger) (coordinate status : String) : Verdict → Prop
  | .accepted => ∃ intentID record, ledger.intents.get intentID = some record ∧
    record.coordinate = coordinate ∧ record.statusEventID = status ∧ status ≠ ""
  | .refused => ∃ intentID request, ledger.backupPending.get intentID = some request ∧
    request.coordinate = coordinate ∧ request.state = .refused ∧ request.statusEventID = status ∧
      status ≠ ""

variable {coordinate status : String} {calls : List Call} {verdict : Verdict}

theorem Stages.outcome (stages : Stages checks tx next now staging) :
    next.ledger.Outcome staging.coordinate (ID.hex staging.event.id) staging.verdict := by
  cases stages with
  | @accepted record event target current accepts =>
    refine ⟨current.intentID, acceptedRecord current event target, ?_, accepts.coordinate, rfl,
      ID.hex_ne_empty _⟩
    rw [accepts.ledger.intents]
    exact Bucket.get_put_self _ _ _
  | @refused record event target current refuses =>
    refine ⟨current.intentID, refusedRecord current event target, ?_, refuses.coordinate,
      refuses.refused, rfl, ID.hex_ne_empty _⟩
    rw [refuses.ledger]
    exact Bucket.get_put_self _ _ _

theorem Stages.not_outcome (stages : Stages checks tx next now staging)
    (sound : tx.ledger.Sound) : ¬tx.ledger.Outcome staging.coordinate status verdict := by
  intro outcome
  cases stages with
  | @accepted record event target current accepts =>
    have bound : tx.ledger.coords.get record.coordinate = some record.intentID := by
      rw [← accepts.coordinate]
      exact (sound.admissions _ _ accepts.found).bound
    cases verdict with
    | accepted =>
      obtain ⟨other, stored, found, same, rfl, present⟩ := outcome
      have taken := (sound.admissions other stored found).bound
      rw [same] at taken
      cases Option.some.inj (bound.symm.trans taken)
      cases Option.some.inj (accepts.found.symm.trans found)
      exact present accepts.vacant
    | refused =>
      obtain ⟨other, request, found, same, refused, _⟩ := outcome
      have free := (sound.requests other request found).refused refused
      rw [same] at free
      exact nomatch bound.symm.trans free
  | @refused record event target current refuses =>
    have free : tx.ledger.coords.get record.coordinate = none := refuses.free
    have claimed : tx.ledger.pendingCoords.get record.coordinate = some record.intentID := by
      rw [← refuses.coordinate]
      exact (sound.requests _ _ refuses.found).claimed
    cases verdict with
    | accepted =>
      obtain ⟨other, stored, found, same, _⟩ := outcome
      have taken := (sound.admissions other stored found).bound
      rw [same] at taken
      exact nomatch taken.symm.trans free
    | refused =>
      obtain ⟨other, request, found, same, _, rfl, present⟩ := outcome
      have owned := (sound.requests other request found).claimed
      rw [same] at owned
      cases Option.some.inj (claimed.symm.trans owned)
      cases Option.some.inj (refuses.found.symm.trans found)
      exact present refuses.vacant

/-- A terminal status is never taken back. -/
theorem Ledger.Outcome.kept (outcome : before.Outcome coordinate status verdict)
    (records : RecordsKept before after) : after.Outcome coordinate status verdict := by
  cases verdict with
  | accepted =>
    obtain ⟨intentID, record, found, same, rfl, present⟩ := outcome
    obtain ⟨later, held, kept⟩ := records.admissions intentID record found
    exact ⟨intentID, later, held, kept.coordinate.trans same, (kept.status present).1, present⟩
  | refused =>
    obtain ⟨intentID, request, found, same, refused, rfl, present⟩ := outcome
    obtain ⟨later, held, kept⟩ := records.requests intentID request found
    refine ⟨intentID, later, held, kept.coordinate.trans same, ?_, (kept.status present).1, present⟩
    rw [kept.state (by rw [refused]; decide), refused]

theorem stagings_avoid_outcome
    (sound : tx.ledger.Sound) (outcome : tx.ledger.Outcome coordinate status verdict) :
    ∀ staging ∈ checks.stagings tx calls, staging.coordinate ≠ coordinate := by
  induction calls generalizing tx with
  | nil =>
    intro staging member
    cases member
  | cons call rest ih =>
    intro staging member same
    have effect := after_effect checks tx call
    rcases List.mem_append.mp member with now | later
    · have staged : checks.staging tx call = some staging := Option.mem_toList.mp now
      exact (staging_stages staged).not_outcome sound (same ▸ outcome)
    · exact ih (effect.sound sound) (outcome.kept (effect.records sound)) staging later same

theorem stagings_distinct (sound : tx.ledger.Sound) :
    ((checks.stagings tx calls).map Staging.coordinate).Nodup := by
  induction calls generalizing tx with
  | nil => exact List.nodup_nil
  | cons call rest ih =>
    have effect := after_effect checks tx call
    have later := ih (effect.sound sound)
    cases staged : checks.staging tx call with
    | none => simpa [Checks.stagings, staged] using later
    | some =>
      simp only [Checks.stagings, staged, Option.toList_some, List.singleton_append, List.map_cons]
      refine List.nodup_cons.mpr ⟨?_, later⟩
      intro member
      obtain ⟨other, held, same⟩ := List.mem_map.mp member
      exact stagings_avoid_outcome (effect.sound sound) (staging_stages staged).outcome other held same

/-- The admission whose state was proven before its accepted status was staged. -/
structure AdmittedWithProof (checks : Checks) (calls : List Call) (tx : Outbox)
    (coordinate : String) (record : BackupRunAdmission) (id : ID) (proof : DeliveryProof) :
    Prop where
  found : tx.intents.get record.intentID = some record
  bound : tx.coords.get coordinate = some record.intentID
  coordinate : record.coordinate = coordinate
  state : record.stateEventID = ID.hex id
  stored : tx.deliveryProofs.get id = some proof
  valid : checks.validFor proof proof.event proof.target = true
  earned : EarnedIn checks calls id proof

theorem accepted_with_proof (executed : run checks.step Outbox.fresh calls = some tx)
    (staged : checks.staging tx call = some staging) (accepted : staging.verdict = .accepted) :
    ∃ record id proof,
      AdmittedWithProof checks calls tx staging.coordinate record id proof := by
  have sound := run_sound executed
  have stages := staging_stages staged
  cases stages with
  | refused => cases accepted
  | @accepted record event target current accepts =>
    have admission := sound.admissions _ _ accepts.found
    obtain ⟨id, named, proven⟩ := admission.state
    obtain ⟨proof, stored⟩ := Bucket.mem_iff_get.mp (proven accepts.delivered)
    obtain ⟨earned, _, valid⟩ := run_earned executed stored
    refine ⟨current, id, proof, ?_⟩
    exact
      { found := by rw [accepts.intentID]; exact accepts.found
        bound := by rw [accepts.intentID, ← accepts.coordinate]; exact admission.bound
        coordinate := accepts.coordinate
        state := named
        stored := stored
        valid := valid
        earned := earned }

/-- Over every run of outbox calls: no two staged terminal statuses share a coordinate, an
accepted one follows the proof of its admitted state, and no coordinate is both admitted and
refused. -/
theorem one_terminal_outcome (checks : Checks) (calls : List Call) {final : Outbox}
    (executed : run checks.step Outbox.fresh calls = some final) :
    ((checks.stagings Outbox.fresh calls).map Staging.coordinate).Nodup ∧
      (∀ call staging, checks.staging final call = some staging → staging.verdict = .accepted →
        ∃ record id proof,
          AdmittedWithProof checks calls final staging.coordinate record id proof) ∧
      ∀ coordinate intentID request, final.backupPending.get intentID = some request →
        request.coordinate = coordinate → request.state = .refused →
        final.coords.get coordinate = none := by
  refine ⟨stagings_distinct sound_fresh, ?_, ?_⟩
  · intro call staging staged accepted
    exact accepted_with_proof executed staged accepted
  · intro coordinate intentID request found same refused
    rw [← same]
    exact ((run_sound executed).requests intentID request found).refused refused

def runAcceptedBody : String :=
  "\x7b\"intent_id\":\"intent\",\"coordinate\":\"backup-run:a\",\"result\":\"applied\"," ++
    "\"data\":\x7b\"run_id\":\"a\",\"state_event_id\":\"" ++ ID.hex runStateEvent.id ++
    "\",\"execution\":\"queued\"\x7d\x7d"

def runChecks : Checks :=
  { Checks.trusting with
    acceptedContent := fun text => if text ≠ runAcceptedBody then none else some
      { intentID := "intent", coordinate := "backup-run:a", result := "applied", runID := "a"
        stateEventID := ID.hex runStateEvent.id, execution := "queued" } }

def runAcceptedEvent : Event :=
  { runStateEvent with
    id := FixedBytes.ofByte 31 8
    kind := nip38Status
    tags := [["d", intentStatusCoordinate runActor "backup-run:a"], ["domain", "intent"],
      ["t", "intent-status"], ["status", "accepted"], ["intent_id", "intent"], ["p", runActor],
      ["e", runRequestID]]
    content := runAcceptedBody }

def runAcceptCall : Call :=
  runCall (.stageBackupRunAcceptedStatus
    (admissionRecord runStateEntry "intent" "backup-run:a" runRequestID runActor) runAcceptedEvent
    "control")

theorem one_terminal_outcome_accepted :
    ∃ final, run runChecks.step Outbox.fresh [runAdmitCall, runQuorumCall] = some final ∧
      runChecks.staging final runAcceptCall = some ⟨"backup-run:a", .accepted, runAcceptedEvent⟩ ∧
      ∃ record id proof, AdmittedWithProof runChecks [runAdmitCall, runQuorumCall] final
        "backup-run:a" record id proof := by
  have staged : runChecks.staging (runChecks.after (runChecks.after Outbox.fresh runAdmitCall)
      runQuorumCall) runAcceptCall = some ⟨"backup-run:a", .accepted, runAcceptedEvent⟩ := by
    decide +kernel
  refine ⟨_, rfl, staged, ?_⟩
  exact (one_terminal_outcome runChecks [runAdmitCall, runQuorumCall] rfl).2.1 runAcceptCall _ staged
    rfl

/-- No later call, be it a prune or a purge, takes back a terminal outcome or changes its verdict. -/
theorem terminal_accumulates (checks : Checks) (earlier later : List Call) (coordinate status : String) :
    {verdict | (earlier.foldl checks.after Outbox.fresh).ledger.Outcome coordinate status verdict} ⊆
      {verdict | ((earlier ++ later).foldl checks.after Outbox.fresh).ledger.Outcome coordinate status
        verdict} := by
  intro verdict outcome
  have sound (calls : List Call) : (calls.foldl checks.after Outbox.fresh).ledger.Sound :=
    List.foldlRecOn (motive := fun tx => tx.ledger.Sound) calls _ sound_fresh
      fun tx sound call _ => (after_effect checks tx call).sound sound
  induction later using List.reverseRecOn with
  | nil => rwa [List.append_nil]
  | append_singleton calls call ih =>
    rw [← List.append_assoc, List.foldl_concat]
    exact ih.kept ((after_effect checks _ call).records (sound _))

end Bahia.Localstore
