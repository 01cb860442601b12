import Bahia.Foundation.Versions
import Bahia.Trustepoch.Generations

/-! No fallback after activation: whatever the head source answers, the key that speaks for a
service is the one of the last head of an unbroken chain. -/

namespace Bahia.Trustepoch
open Foundation Nostr

inductive Call where
  | serviceIdentity (v : Verifier) (meets : Meets) (source : Verifier.Head) (serviceID : String)
  | acceptHead (v : Verifier) (meets : Meets) (serviceID : String) (ev : Event)
  | judgeEvent (v : Verifier) (meets : Meets) (source : Verifier.Head) (serviceID : String)
      (ev : Event)

namespace Persistence
variable (env : Environment)

def after (state : Persistence) : Call → Persistence
  | .serviceIdentity v meets source serviceID =>
    (v.serviceIdentity env state meets source serviceID).1
  | .acceptHead v meets serviceID ev => (v.acceptHead env state meets serviceID ev).1
  | .judgeEvent v meets source serviceID ev => (v.judgeEvent env state meets source serviceID ev).1

def run (state : Persistence) (calls : List Call) : Persistence := calls.foldl (after env) state

def heads (serviceID : String) (state : Persistence) (calls : List Call) : List Accepted :=
  changes (after env) (Bucket.get · serviceID) state calls

end Persistence

/-- A later epoch whose old key is the current key of the one before. -/
def Accepted.Succeeds (prior next : Accepted) : Prop :=
  prior.epoch < next.epoch ∧ next.oldPubkey = prior.currentKey

namespace Verifier
variable {env : Environment} {v : Verifier} {state : Persistence} {meets : Meets}
variable {serviceID : String}

theorem last_ok (read : state.last fault serviceID = .ok last) : state.get serviceID = last := by
  unfold Persistence.last at read
  split at read
  · cases read
  split at read
  · cases read
    assumption
  split at read
  · cases read
    assumption
  · cases read

section
variable (env : Environment) (v : Verifier) (state : Persistence) (meets : Meets)

theorem acceptHead_row (serviceID : String) (ev : Event) (other : String) :
    (v.acceptHead env state meets serviceID ev).1.get other = state.get other ∨
      ∃ head, (v.acceptHead env state meets serviceID ev).1.get other = some head ∧
        ∀ prior, state.get other = some prior → prior.Succeeds head := by
  unfold acceptHead
  split
  · exact .inl rfl
  split
  · exact .inl rfl
  rename_i last read
  rcases (v.finishAccept_finished env state meets serviceID ev last).rows other with
    kept | ⟨rfl, head, written, checked, ahead⟩
  · exact .inl kept
  · refine .inr ⟨head, written, ?_⟩
    intro prior held
    have less := ahead prior held
    obtain ⟨_, linked⟩ := checkHead_ok checked
    rw [← last_ok read, held] at linked
    refine ⟨less, linked ?_⟩
    rintro _ ⟨⟩ same
    omega

theorem serviceIdentity_row (source : Head) (serviceID other : String) :
    (v.serviceIdentity env state meets source serviceID).1.get other = state.get other ∨
      ∃ head, (v.serviceIdentity env state meets source serviceID).1.get other = some head ∧
        ∀ prior, state.get other = some prior → prior.Succeeds head := by
  unfold serviceIdentity
  split
  · exact .inl rfl
  split
  · exact .inl rfl
  split
  · exact .inl rfl
  · split <;> exact .inl rfl
  · exact .inl rfl
  · exact acceptHead_row env v state meets serviceID _ other

theorem judgeEvent_state (source : Head) (serviceID : String) (ev : Event) :
    (v.judgeEvent env state meets source serviceID ev).1 =
      (v.serviceIdentity env state meets source serviceID).1 := by
  unfold judgeEvent
  split
  · rename_i result
    rw [result]
  · rename_i result
    rw [result]

end

variable {r : Resolution} {ev : Event}

/-- Once a head is accepted, a service is resolved only from a head that is then the mark. -/
theorem serviceIdentity_resolved (held : state.get serviceID ≠ none)
    (resolved : v.serviceIdentity env state meets source serviceID = (next, .ok r)) :
    ∃ ev body, source = .present ev ∧ parse env ev serviceID v.operatorRoot = .ok body ∧
      next.get serviceID = some (body.accepted ev) ∧
      r = resolution env serviceID ev body meets.inventory := by
  unfold serviceIdentity at resolved
  split at resolved
  · cases resolved
  split at resolved
  · cases resolved
  rename_i last read
  split at resolved
  · cases resolved
  · split at resolved
    · cases resolved
    rename_i unread
    have stored := last_ok read
    cases last with
    | none => exact absurd stored held
    | some => exact absurd rfl unread
  · cases resolved
  · rename_i ev
    obtain ⟨_, body, _, parsed, _, _, written, same⟩ := acceptHead_ok resolved
    exact ⟨ev, body, rfl, parsed, (Persistence.accept_ok written).1, same⟩

theorem judgeEvent_accept (judged : r.judgeEvent env ev = .accept) :
    PubKey.hex ev.pubKey = r.pubkey := by
  unfold Resolution.judgeEvent at judged
  split at judged
  · cases judged
  split at judged
  · assumption
  split at judged
  · split at judged <;> cases judged
  · cases judged

theorem judgeEvent_preEpoch (judged : r.judgeEvent env ev = .preEpochAccepted) :
    ∃ record verified, r.record = some record ∧ r.inventory = some verified ∧
      ev.createdAt.val ≤ record.activationBarrier ∧ ID.hex ev.id ∈ verified := by
  unfold Resolution.judgeEvent at judged
  split at judged
  · cases judged
  split at judged
  · cases judged
  split at judged
  · rename_i record verified recorded checked
    split at judged
    · rename_i passed
      simp only [Bool.and_eq_true, decide_eq_true_eq, List.contains_iff_mem] at passed
      exact ⟨record, verified, recorded, checked, passed.1.2, passed.2⟩
    · cases judged
  · cases judged

theorem resolution_inventory
    (checked : (resolution env serviceID ev body ids).inventory = some verified) :
    ∃ listed, ids = some listed ∧ verified = sortedIDs listed ∧
      (listed.length : Int) = body.inventoryCount ∧
      hex (env.sha256 (utf8 (join "\n" (sortedIDs listed)))).val = body.inventoryDigest := by
  unfold resolution at checked
  split at checked
  · cases result : checkInventory env ids body.inventoryDigest body.inventoryCount with
    | error =>
      rw [result] at checked
      cases checked
    | ok =>
      rw [result] at checked
      cases checked
      exact checkInventory_ok result
  · cases checked

end Verifier

namespace Persistence
variable (env : Environment)

theorem after_row (state : Persistence) (call : Call) (serviceID : String) :
    (after env state call).get serviceID = state.get serviceID ∨
      ∃ head, (after env state call).get serviceID = some head ∧
        ∀ prior, state.get serviceID = some prior → prior.Succeeds head := by
  cases call with
  | serviceIdentity v meets source service =>
    exact v.serviceIdentity_row env state meets source service serviceID
  | acceptHead v meets service ev => exact v.acceptHead_row env state meets service ev serviceID
  | judgeEvent v meets source service ev =>
    rw [after, v.judgeEvent_state env state meets source service ev]
    exact v.serviceIdentity_row env state meets source service serviceID

theorem after_stays (serviceID : String) (state : Persistence) (call : Call)
    (held : state.get serviceID ≠ none) : (after env state call).get serviceID ≠ none := by
  rcases after_row env state call serviceID with kept | ⟨head, written, _⟩
  · rw [kept]
    exact held
  · rw [written]
    exact nofun

theorem isChain_heads (held : state.get serviceID = some head) (calls : List Call) :
    List.IsChain Accepted.Succeeds (head :: heads env serviceID state calls) := by
  have related (state : Persistence) (call : Call) (_ : True) (old new : Accepted)
      (stored : state.get serviceID = some old)
      (written : (after env state call).get serviceID = some new) (different : old ≠ new) :
      old.Succeeds new := by
    rcases after_row env state call serviceID with kept | ⟨next, replaced, follows⟩
    · exact absurd (Option.some.inj (stored.symm.trans (kept.symm.trans written))) different
    · cases Option.some.inj (replaced.symm.trans written)
      exact follows old stored
  have chain := (isChain_changes_iff (after_stays env serviceID) state calls).mpr
    (throughout_of_invariant (fun _ _ _ => trivial) related trivial calls)
  rw [held] at chain
  exact chain

theorem run_mark (held : state.get serviceID = some head) (calls : List Call) :
    (run env state calls).get serviceID =
      (head :: heads env serviceID state calls).getLast? := by
  have last := read_foldl (after_stays env serviceID) state calls
  rw [held] at last
  exact last

end Persistence

/-- What `JudgeEvent` may answer when `state` is the persistence, `head` an activated head that was
accepted earlier and `since` what was accepted after it, by this call too. -/
structure FailsClosed (env : Environment) (v : Verifier) (meets : Meets) (source : Verifier.Head)
    (serviceID : String) (ev : Event) (head : Accepted) (since : List Accepted)
    (state : Persistence) : Prop where
  chained : List.IsChain Accepted.Succeeds (head :: since)
  accepts : (v.judgeEvent env state meets source serviceID ev).2.1 = .accept →
    since = [] ∧ PubKey.hex ev.pubKey = head.newPubkey ∨
      ∃ current, since.getLast? = some current ∧ PubKey.hex ev.pubKey = current.currentKey
  admits : (v.judgeEvent env state meets source serviceID ev).2.1 = .preEpochAccepted →
    ∃ record body listed, source = .present record ∧
      parse env record serviceID v.operatorRoot = .ok body ∧
      (head :: since).getLast? = some (body.accepted record) ∧
      meets.inventory = some listed ∧ ID.hex ev.id ∈ listed ∧
      (listed.length : Int) = body.inventoryCount ∧
      hex (env.sha256 (utf8 (join "\n" (sortedIDs listed)))).val = body.inventoryDigest ∧
      ev.createdAt.val ≤ body.activationBarrier

namespace Verifier
variable {env : Environment} {serviceID : String} {state : Persistence} {head : Accepted}

/-- However the calls after an activated head go, the judgement fails closed. -/
theorem judgeEvent_failsClosed (accepted : state.get serviceID = some head)
    (activated : head.activated = true) (later : List Call) (v : Verifier) (meets : Meets)
    (source : Head) (ev : Event) :
    FailsClosed env v meets source serviceID ev head
      (Persistence.heads env serviceID state (later ++ [.judgeEvent v meets source serviceID ev]))
      (Persistence.run env state later) := by
  have mark := Persistence.run_mark env accepted (later ++ [.judgeEvent v meets source serviceID ev])
  have present : (Persistence.run env state later).get serviceID ≠ none := by
    rw [Persistence.run_mark env accepted later]
    simp
  rw [Persistence.run, List.foldl_append, List.foldl_cons, List.foldl_nil] at mark
  change Bucket.get (v.judgeEvent env (Persistence.run env state later) meets source serviceID ev).1
    serviceID = _ at mark
  rw [judgeEvent_state] at mark
  refine ⟨Persistence.isChain_heads env accepted _, ?_, ?_⟩
  · intro judged
    unfold judgeEvent at judged
    split at judged
    · cases judged
    rename_i resolved
    obtain ⟨record, body, _, _, stored, rfl⟩ := serviceIdentity_resolved present resolved
    have author := judgeEvent_accept judged
    rw [resolved, stored] at mark
    cases taken : Persistence.heads env serviceID state
        (later ++ [.judgeEvent v meets source serviceID ev]) with
    | nil =>
      rw [taken] at mark
      cases Option.some.inj mark
      refine .inl ⟨rfl, author.trans ?_⟩
      exact if_pos activated
    | cons first rest =>
      rw [taken, List.getLast?_cons_cons] at mark
      exact .inr ⟨_, mark.symm, author⟩
  · intro judged
    unfold judgeEvent at judged
    split at judged
    · cases judged
    rename_i resolved
    obtain ⟨record, body, answered, parsed, stored, rfl⟩ :=
      serviceIdentity_resolved present resolved
    obtain ⟨_, verified, recorded, checked, barrier, listed⟩ := judgeEvent_preEpoch judged
    cases Option.some.inj recorded
    obtain ⟨ids, offered, rfl, count, digest⟩ := resolution_inventory checked
    rw [resolved, stored] at mark
    exact ⟨record, body, ids, answered, parsed, mark.symm, offered, List.mem_mergeSort.mp listed,
      count, digest, barrier⟩

/-- Two more heads are accepted, the first of them directly, and the head before them comes again. -/
def laterCalls : List Call :=
  [.acceptHead exampleVerifier calm "svc" (exampleHead 2 12 "b"),
    .acceptHead exampleVerifier calm "svc" (exampleHead 1 11 "a"),
    .judgeEvent exampleVerifier calm (.present (exampleHead 3 13 "c")) "svc" (exampleEvent 5)]

/-- After all of them a source that has lost the head does not bring the legacy key back. -/
theorem judgeEvent_failsClosed_absent :
    AcceptedChain rotations exampleVerifier "svc" [(exampleHead 1 11 "a", exampleBody 1 2 3)]
        firstMark ∧
      Persistence.heads rotations "svc" firstMark
        (laterCalls ++ [.judgeEvent exampleVerifier calm .absent "svc" (exampleEvent 2)]) =
          [(exampleBody 2 3 4).accepted (exampleHead 2 12 "b"),
            (exampleBody 3 4 5).accepted (exampleHead 3 13 "c")] ∧
      FailsClosed rotations exampleVerifier calm .absent "svc" (exampleEvent 2)
        ((exampleBody 1 2 3).accepted (exampleHead 1 11 "a"))
        (Persistence.heads rotations "svc" firstMark
          (laterCalls ++ [.judgeEvent exampleVerifier calm .absent "svc" (exampleEvent 2)]))
        (Persistence.run rotations firstMark laterCalls) :=
  ⟨firstRotation, by decide +kernel, judgeEvent_failsClosed (Bucket.get_put_self _ _ _) rfl laterCalls
    exampleVerifier calm .absent (exampleEvent 2)⟩

end Verifier

end Bahia.Trustepoch
