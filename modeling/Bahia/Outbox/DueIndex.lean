import Bahia.Outbox.LedgerInvariant

/-! The two indexes over operator requests: the deadlines of the requests that still wait,
and the refused requests whose status is not yet staged. -/

namespace Bahia.Localstore
open Foundation Nostr

def BackupRunPending.dueAt (request : BackupRunPending) : Time :=
  match request.nextAttemptAt with
  | some next => some next
  | none => request.receivedAt

theorem backupRunDueKey_eq (request : BackupRunPending) :
    backupRunDueKey request =
      bigEndian 8 ((request.dueAt.unixNano.toUint64 + 2 ^ 63) % 2 ^ 64) ++
        utf8 request.intentID := rfl

theorem backupRunDueKey_drop (request : BackupRunPending) :
    (backupRunDueKey request).drop 8 = utf8 request.intentID := by
  rw [backupRunDueKey_eq]
  exact List.drop_left' (bigEndian_length _ _)

variable {request record : BackupRunPending} {intentID : String} {before after : Ledger}

theorem backupRunDueKey_length (named : request.intentID ≠ "") :
    9 ≤ (backupRunDueKey request).length := by
  have size : request.intentID.utf8ByteSize ≠ 0 := by
    rwa [ne_eq, String.utf8ByteSize_eq_zero_iff]
  rw [backupRunDueKey_eq, List.length_append, bigEndian_length, utf8_length]
  omega

theorem dueAt_some (received : request.receivedAt.isSome = true) :
    ∃ nanos, request.dueAt = some nanos := by
  unfold BackupRunPending.dueAt
  split
  · exact ⟨_, rfl⟩
  · exact Option.isSome_iff_exists.mp received

theorem dueAt_le (firstIn : first.receivedAt.isSome = true)
    (secondIn : second.receivedAt.isSome = true)
    (less : backupRunDueKey first < backupRunDueKey second) :
    Time.after first.dueAt second.dueAt = false := by
  obtain ⟨firstDue, firstSome⟩ := dueAt_some firstIn
  obtain ⟨secondDue, secondSome⟩ := dueAt_some secondIn
  have fits (value : SInt64) : (value.toUint64 + 2 ^ 63) % 2 ^ 64 < 256 ^ 8 :=
    Nat.mod_lt _ (by norm_num)
  have firstFlip := firstDue.flip_toUint64
  have secondFlip := secondDue.flip_toUint64
  rw [backupRunDueKey_eq, backupRunDueKey_eq, firstSome, secondSome,
    append_lt_append_iff (by simp), Time.unixNano, Time.unixNano,
    bigEndian_lt_iff (fits _) (fits _)] at less
  rw [firstSome, secondSome]
  refine decide_eq_false ?_
  rw [SInt64.lt_iff]
  rcases less with before | ⟨same, _⟩
  · omega
  · have equal := bigEndian_injective (fits _) (fits _) same
    omega

/-- A waiting request is due under its own key. -/
def dueRule : IndexRule String BackupRunPending Bytes where
  key intentID request :=
    if request.state = .pending ∧ request.intentID = intentID then some (backupRunDueKey request)
    else none
  reserved _ := False
  owner := by
    intro first second firstRow secondRow shared firstMade secondMade
    simp only [Option.ite_none_right_eq_some, Option.some.injEq] at firstMade secondMade
    obtain ⟨⟨_, firstOwner⟩, firstKey⟩ := firstMade
    obtain ⟨⟨_, secondOwner⟩, secondKey⟩ := secondMade
    have same : utf8 firstRow.intentID = utf8 secondRow.intentID := by
      rw [← backupRunDueKey_drop, ← backupRunDueKey_drop, firstKey, secondKey]
    rw [← firstOwner, ← secondOwner]
    exact utf8_injective same
  apart := fun _ => not_false

/-- A refused request without a status event needs one. -/
def refusalRule : IndexRule String BackupRunPending String where
  key intentID request :=
    if request.state = .refused ∧ request.statusEventID = "" then some intentID else none
  reserved _ := False
  owner := by
    intro first second firstRow secondRow shared firstMade secondMade
    simp only [Option.ite_none_right_eq_some, Option.some.injEq] at firstMade secondMade
    exact firstMade.2.trans secondMade.2.symm
  apart := fun _ => not_false

theorem dueRule_waiting (waiting : request.state = .pending) (owner : request.intentID = intentID) :
    dueRule.key intentID request = some (backupRunDueKey request) := if_pos ⟨waiting, owner⟩

theorem dueRule_settled
    (settled : request.state ≠ .pending) : dueRule.key intentID request = none :=
  if_neg fun waiting => settled waiting.1

theorem refusalRule_open (intentID : String)
    (refused : request.state = .refused) (vacant : request.statusEventID = "") :
    refusalRule.key intentID request = some intentID := if_pos ⟨refused, vacant⟩

theorem refusalRule_state
    (settled : request.state ≠ .refused) : refusalRule.key intentID request = none :=
  if_neg fun refused => settled refused.1

theorem refusalRule_staged
    (staged : request.statusEventID ≠ "") : refusalRule.key intentID request = none :=
  if_neg fun vacant => staged vacant.2

/-- What a stored request keeps from the call that filed it. -/
structure Filed (intentID : String) (request : BackupRunPending) : Prop where
  owner : request.intentID = intentID
  named : request.intentID ≠ ""
  received : request.receivedAt.isSome = true
  unstaged : request.state = .pending → request.statusEventID = ""

structure Tracked (requests : Bucket String BackupRunPending) (due : Bucket Bytes Unit)
    (refusals : Bucket String Unit) : Prop where
  due : dueRule.Exact requests.get (· ∈ due)
  refusals : refusalRule.Exact requests.get (· ∈ refusals)
  filed : ∀ intentID request, requests.get intentID = some request → Filed intentID request

namespace Tracked
variable {requests : Bucket String BackupRunPending} {due : Bucket Bytes Unit}
variable {refusals : Bucket String Unit} {intentID : String} {old new : BackupRunPending}

theorem fresh : Tracked ∅ ∅ ∅ where
  due key := by simp [dueRule]
  refusals key := by simp [refusalRule]
  filed intentID request found := by simp at found

variable (tracked : Tracked requests due refusals)
include tracked

theorem filed_put (valid : Filed intentID new) (other : String) (request : BackupRunPending)
    (found : (requests.put intentID new).get other = some request) : Filed other request := by
  rcases Bucket.get_put_cases found with ⟨same, written⟩ | ⟨_, kept⟩
  · subst same written
    exact valid
  · exact tracked.filed other request kept

theorem keep (found : requests.get intentID = some old) (valid : Filed intentID new)
    (settled : old.state ≠ .pending) (state : new.state = old.state)
    (status : new.statusEventID = old.statusEventID) :
    Tracked (requests.put intentID new) due refusals where
  due := by
    apply tracked.due.put_keep
    rw [IndexRule.keyAt_found found, dueRule_settled settled, dueRule_settled (state ▸ settled)]
  refusals := by
    apply tracked.refusals.put_keep
    rw [IndexRule.keyAt_found found]
    simp only [refusalRule, state, status]
  filed := tracked.filed_put valid

theorem due_waiting (found : requests.get intentID = some old) (waiting : old.state = .pending) :
    dueRule.keyAt requests.get intentID = some (backupRunDueKey old) :=
  (IndexRule.keyAt_found found).trans (dueRule_waiting waiting (tracked.filed _ _ found).owner)

omit tracked in
theorem refusal_waiting (found : requests.get intentID = some old) (waiting : old.state = .pending) :
    refusalRule.keyAt requests.get intentID = none :=
  (IndexRule.keyAt_found found).trans (refusalRule_state (by rw [waiting]; decide))

section Waiting
variable (found : requests.get intentID = some old) (valid : Filed intentID new)
  (waiting : old.state = .pending)
include found valid waiting

theorem accept (accepted : new.state = .accepted) :
    Tracked (requests.put intentID new) (due.delete (backupRunDueKey old)) refusals where
  due := tracked.due.put_lose (tracked.due_waiting found waiting)
    (dueRule_settled (by rw [accepted]; decide))
  refusals := tracked.refusals.put_keep
    ((refusalRule_state (by rw [accepted]; decide)).trans (refusal_waiting found waiting).symm)
  filed := tracked.filed_put valid

theorem refuse (refused : new.state = .refused) (status : new.statusEventID = old.statusEventID) :
    Tracked (requests.put intentID new) (due.delete (backupRunDueKey old))
      (refusals.put intentID ()) where
  due := tracked.due.put_lose (tracked.due_waiting found waiting)
    (dueRule_settled (by rw [refused]; decide))
  refusals := tracked.refusals.put_gain (refusal_waiting found waiting)
    (refusalRule_open intentID refused (status.trans ((tracked.filed _ _ found).unstaged waiting)))
  filed := tracked.filed_put valid

theorem postpone (still : new.state = .pending) :
    Tracked (requests.put intentID new)
      ((due.delete (backupRunDueKey old)).put (backupRunDueKey new) ()) refusals where
  due := tracked.due.put_move (tracked.due_waiting found waiting) (dueRule_waiting still valid.owner)
  refusals := tracked.refusals.put_keep
    ((refusalRule_state (by rw [still]; decide)).trans (refusal_waiting found waiting).symm)
  filed := tracked.filed_put valid

end Waiting

theorem file (unknown : requests.get intentID = none)
    (valid : Filed intentID new) (waiting : new.state = .pending) :
    Tracked (requests.put intentID new) (due.put (backupRunDueKey new) ()) refusals where
  due := tracked.due.put_gain (IndexRule.keyAt_absent unknown) (dueRule_waiting waiting valid.owner)
  refusals := tracked.refusals.put_keep
    ((refusalRule_state (by rw [waiting]; decide)).trans (IndexRule.keyAt_absent unknown).symm)
  filed := tracked.filed_put valid

theorem stage (found : requests.get intentID = some old) (valid : Filed intentID new)
    (before : old.state = .refused) (vacant : old.statusEventID = "")
    (after : new.state = .refused) (staged : new.statusEventID ≠ "") :
    Tracked (requests.put intentID new) due (refusals.delete intentID) where
  due := by
    apply tracked.due.put_keep
    rw [IndexRule.keyAt_found found, dueRule_settled (by rw [after]; decide),
      dueRule_settled (by rw [before]; decide)]
  refusals := tracked.refusals.put_lose
    ((IndexRule.keyAt_found found).trans (refusalRule_open _ before vacant))
    (refusalRule_staged staged)
  filed := tracked.filed_put valid

end Tracked

def Ledger.Tracks (ledger : Ledger) : Prop :=
  Tracked ledger.backupPending ledger.due ledger.refusals

theorem PendingAccepted.tracks (accepted : PendingAccepted current before after)
    (tracked : before.Tracks) : after.Tracks := by
  cases accepted with
  | absent => exact tracked
  | moved found coordinate waiting =>
    have filed := tracked.filed _ _ found
    exact tracked.accept found ⟨filed.owner, filed.named, filed.received, nofun⟩ waiting rfl

theorem Refuses.tracks (refuses : Refuses checks now tx next record event target current)
    (tracked : tx.ledger.Tracks) : next.ledger.Tracks := by
  have filed := tracked.filed _ _ refuses.found
  have stored : tx.ledger.backupPending.get current.intentID = some current := by
    rw [filed.owner]
    exact refuses.found
  rw [refuses.ledger]
  refine tracked.stage stored ⟨rfl, filed.named, filed.received, ?_⟩ refuses.refused refuses.vacant
    refuses.refused (ID.hex_ne_empty event.id)
  intro waiting
  exact nomatch refuses.refused.symm.trans waiting

theorem ProofWritten.tracks {round : OutboxRound}
    (written : ProofWritten checks entry round publisher before after)
    (tracked : before.Tracks) : after.Tracks := by
  cases written with
  | kept | minted => exact tracked

theorem AdmissionWritten.tracks
    (written : AdmissionWritten checks entry before after) (tracked : before.Tracks) :
    after.Tracks := by
  cases written with
  | unowned | kept | credited => exact tracked

theorem StatusWritten.tracks
    (written : StatusWritten checks entry before after) (tracked : before.Tracks) :
    after.Tracks := by
  cases written with
  | kept | accepted => exact tracked
  | refused owner found settled =>
    have filed := tracked.filed _ _ found
    exact tracked.keep found ⟨filed.owner, filed.named, filed.received, filed.unstaged⟩
      (by rw [settled]; decide) rfl rfl

theorem Reschedules.tracks (reschedules : Reschedules tx next intentID old new)
    (tracked : tx.ledger.Tracks) : next.ledger.Tracks := by
  have filed := tracked.filed _ _ reschedules.found
  have valid : Filed intentID new :=
    { owner := reschedules.intent.trans filed.owner
      named := by rw [reschedules.intent]; exact filed.named
      received := by rw [reschedules.received]; exact filed.received
      unstaged := fun _ => reschedules.status.trans (filed.unstaged reschedules.waiting) }
  rw [reschedules.rows, Outbox.reschedule]
  rcases reschedules.state with still | refused
  · rw [if_neg (by rw [still]; decide)]
    exact tracked.postpone reschedules.found valid reschedules.waiting still
  · rw [if_pos refused]
    exact tracked.refuse reschedules.found valid reschedules.waiting refused reschedules.status

theorem Compacts.tracks (compacts : Compacts tx next record intentID) (tracked : tx.ledger.Tracks) :
    next.ledger.Tracks := by
  have filed := tracked.filed _ _ compacts.found
  have stored : tx.ledger.backupPending.get record.intentID = some record := by
    rw [filed.owner]
    exact compacts.found
  rw [compacts.ledger]
  exact tracked.keep stored ⟨rfl, filed.named, filed.received, filed.unstaged⟩
    (by rw [compacts.accepted]; decide) rfl rfl

/-- A request is filed without a status of its own. -/
def Operation.filesUnstaged : Operation → Bool
  | .putBackupRunPending record => record.statusEventID == ""
  | _ => true

/-- The instants of a filed request are in the range of nanosecond counts. -/
def Operation.timesInRange : Operation → Bool
  | .putBackupRunPending record => record.receivedAt.isSome
  | _ => true

theorem Files.tracks (files : Files checks tx next record)
    (unstaged : record.statusEventID = "") (received : record.receivedAt.isSome = true)
    (tracked : tx.ledger.Tracks) : next.ledger.Tracks := by
  have valid := files.valid
  simp only [Checks.validBackupRunPendingIdentity, Bool.and_eq_true, bne_iff_ne] at valid
  rw [files.ledger]
  exact tracked.file files.fresh
    ⟨rfl, valid.1.1.1.1.1.1.1.1.1.1, received, fun _ => unstaged⟩ rfl

theorem Effect.tracks (effect : Effect checks now tx next operation)
    (unstaged : operation.filesUnstaged = true) (inRange : operation.timesInRange = true)
    (tracked : tx.ledger.Tracks) : next.ledger.Tracks := by
  cases effect with
  | untouched same => exact same.2 ▸ tracked
  | enqueue enqueues | enqueuePublisherDelivery enqueues => exact enqueues.ledger ▸ tracked
  | enqueueBackupRun admits =>
    rw [admits.ledger]
    exact tracked
  | stageAccepted accepts => exact accepts.ledger.tracks tracked
  | stageRefused refuses => exact refuses.tracks tracked
  | lateRound late => exact late.status.tracks (late.proof.tracks tracked)
  | liveRound live => exact live.status.tracks (live.admission.tracks (live.proof.tracks tracked))
  | requeue requeues => exact requeues.ledger ▸ tracked
  | remove removes => exact removes.ledger ▸ tracked
  | put files => exact files.tracks (beq_iff_eq.mp unstaged) inRange tracked
  | reschedule reschedules => exact reschedules.tracks tracked
  | compact compacts => exact compacts.tracks tracked

end Bahia.Localstore
