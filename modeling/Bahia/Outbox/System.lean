import Bahia.Foundation.Runs
import Bahia.Outbox.BackupRun
import Bahia.Outbox.Retention

/-! The outbox as a state machine: one call is one transaction, and a call that fails
changes nothing. -/

namespace Bahia.Localstore
open Foundation Nostr

inductive Operation where
  | enqueue (entry : OutboxEntry)
  | enqueuePublisherDelivery (entry : OutboxEntry)
  | enqueueBackupRun (entry : OutboxEntry) (intentID coordinate requestEventID actor : String)
  | stageBackupRunAcceptedStatus (record : BackupRunAdmission) (event : Event) (target : String)
  | stageBackupRunRefusedStatus (record : BackupRunPending) (event : Event) (target : String)
  | commitRound (id : ID) (round : OutboxRound)
  | commitPublisherRound (id : ID) (round : OutboxRound)
  | retry (id : ID)
  | retryAllFailed
  | prune (publishedBefore failedBefore : Time) (publishedFirst : Bool)
  | purgeEvents (selects : Event → Bool)
  | putBackupRunPending (record : BackupRunPending)
  | recordBackupRunPendingAttempt (intentID requestEventID : String) (now next : Time)
      (reason : String)
  | refuseBackupRunPending (intentID requestEventID reason : String)
  | compactBackupRunAccepted (intentID coordinate requestEventID : String) (terminal : Event)
      (target : String)

structure Call where
  handle : Handle
  now : SInt64
  operation : Operation

def Checks.perform (checks : Checks) (tx : Outbox) (call : Call) : Except String Outbox :=
  let handle := call.handle
  let now := call.now
  match call.operation with
  | .enqueue entry => (checks.enqueue handle tx entry now).map Prod.fst
  | .enqueuePublisherDelivery entry =>
    (checks.enqueuePublisherDelivery handle tx entry now).map Prod.fst
  | .enqueueBackupRun entry intentID coordinate requestEventID actor =>
    (checks.enqueueBackupRun handle tx entry intentID coordinate requestEventID actor now).map
      Prod.fst
  | .stageBackupRunAcceptedStatus record event target =>
    (checks.stageBackupRunAcceptedStatus handle tx record event target now).map Prod.fst
  | .stageBackupRunRefusedStatus record event target =>
    (checks.stageBackupRunRefusedStatus handle tx record event target now).map Prod.fst
  | .commitRound id round => (checks.commitRound handle tx id round now).map Prod.fst
  | .commitPublisherRound id round =>
    (checks.commitPublisherRound handle tx id round now).map Prod.fst
  | .retry id => (retry handle tx id).map Prod.fst
  | .retryAllFailed => (retryAllFailed handle tx).map Prod.fst
  | .prune publishedBefore failedBefore publishedFirst =>
    (prune handle tx publishedBefore failedBefore publishedFirst).map Prod.fst
  | .purgeEvents selects => (purgeEvents handle tx selects).map Prod.fst
  | .putBackupRunPending record => (checks.putBackupRunPending handle tx record).map Prod.fst
  | .recordBackupRunPendingAttempt intentID requestEventID now next reason =>
    recordBackupRunPendingAttempt handle tx intentID requestEventID now next reason
  | .refuseBackupRunPending intentID requestEventID reason =>
    refuseBackupRunPending handle tx intentID requestEventID reason
  | .compactBackupRunAccepted intentID coordinate requestEventID terminal target =>
    checks.compactBackupRunAccepted handle tx intentID coordinate requestEventID terminal target

/-- The file after a call, rolled back when the call fails. -/
def Checks.after (checks : Checks) (tx : Outbox) (call : Call) : Outbox :=
  match checks.perform tx call with
  | .ok next => next
  | .error _ => tx

def Checks.step (checks : Checks) (tx : Outbox) (call : Call) : Option Outbox :=
  some (checks.after tx call)

theorem after_cases (checks : Checks) (tx : Outbox) (call : Call) :
    checks.perform tx call = .ok (checks.after tx call) ∨ checks.after tx call = tx := by
  unfold Checks.after
  cases checks.perform tx call with
  | ok => exact .inl rfl
  | error => exact .inr rfl

theorem performed_of_fst {outcome : Except String (Outbox × Result)}
    (success : outcome.map Prod.fst = .ok next) : ∃ result, outcome = .ok (next, result) := by
  obtain ⟨performed, same, first⟩ := map_ok_iff.mp success
  subst first
  exact ⟨performed.2, same⟩

end Bahia.Localstore
