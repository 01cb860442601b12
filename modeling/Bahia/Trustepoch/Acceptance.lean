import Bahia.Trustepoch.Verifier

/-! What accepting a head may do: nothing, or advance the mark of its service to a head that
passed the checks. -/

namespace Bahia.Trustepoch
open Foundation Nostr Bucket
variable {state : Persistence} {serviceID : String} {head : Accepted} {epoch : Nat}

theorem Persistence.accept_ok (accepted : state.accept fault serviceID head = .ok next) :
    next.get serviceID = some head ∧
      (next = state ∨ next = state.put serviceID head ∧
        ∀ prior, state.get serviceID = some prior → prior.epoch < head.epoch) := by
  unfold accept at accepted
  split at accepted
  · cases accepted
  split at accepted
  · cases accepted
  split at accepted
  · rename_i absent
    cases accepted
    refine ⟨get_put_self _ _ _, .inr ⟨rfl, ?_⟩⟩
    intro prior held
    exact nomatch absent.symm.trans held
  · rename_i held
    split at accepted
    · cases accepted
    split at accepted
    · cases accepted
    rename_i ordered
    split at accepted
    · split at accepted
      · rename_i equal
        cases accepted
        exact ⟨equal ▸ held, .inl rfl⟩
      · cases accepted
    · cases accepted
      refine ⟨get_put_self _ _ _, .inr ⟨rfl, ?_⟩⟩
      intro stored also
      cases Option.some.inj (held.symm.trans also)
      have bound := not_or.mp ordered
      omega

theorem Persistence.accept_above (named : serviceID ≠ "") (valid : head.valid = true)
    (above : ∀ prior, state.get serviceID = some prior →
      prior.valid = true ∧ prior.epoch < head.epoch) :
    state.accept none serviceID head = .ok (state.put serviceID head) := by
  unfold accept
  rw [if_neg (by simp [named, valid])]
  cases held : state.get serviceID with
  | none => rfl
  | some prior =>
    obtain ⟨sound, less⟩ := above prior held
    simp only [sound, Bool.not_true, Bool.false_eq_true, if_false]
    rw [if_neg (by omega), if_neg (by omega)]

namespace Verifier
variable {env : Environment} {v : Verifier} {state next : Persistence} {meets : Meets}
variable {serviceID : String} {ev : Event} {last : Option Accepted}

/-- The key that a head must succeed, as far as the call has read. -/
def expectedKey (v : Verifier) (last : Option Accepted) : String :=
  match last with
  | some last => last.currentKey
  | none => v.legacyPubkey

variable {state next : Persistence} {ev : Event}

theorem checkHead_ok (checked : v.checkHead last head = .ok ()) :
    (∀ prior, last = some prior → prior.epoch ≤ head.epoch ∧
      (prior.epoch = head.epoch → head = prior)) ∧
      ((∀ prior, last = some prior → prior.epoch ≠ head.epoch) →
        head.oldPubkey = v.expectedKey last) := by
  unfold checkHead at checked
  split at checked
  · rename_i prior
    split at checked
    · cases checked
    split at checked
    · cases checked
    rename_i identified
    split at checked
    · cases checked
    rename_i alike
    split at checked
    · cases checked
    rename_i linked
    refine ⟨?_, ?_⟩
    · rintro _ ⟨⟩
      refine ⟨by omega, ?_⟩
      intro same
      obtain ⟨epoch, eventID, oldPubkey, newPubkey, activated⟩ := head
      obtain ⟨priorEpoch, priorID, priorOld, priorNew, priorActivated⟩ := prior
      simp only [not_and, not_or, not_not] at identified alike same
      obtain ⟨old, new, active⟩ := alike same.symm
      rw [Accepted.mk.injEq]
      exact ⟨same.symm, identified same.symm, old, new, active⟩
    · intro different
      have apart := different prior rfl
      by_contra broken
      exact linked ⟨by omega, broken⟩
  · split at checked
    · cases checked
    · rename_i legacy
      exact ⟨nofun, fun _ => not_not.mp legacy⟩

/-- What the second half of `AcceptHead` may do. -/
inductive Finished (env : Environment) (v : Verifier) (state : Persistence) (meets : Meets)
    (serviceID : String) (ev : Event) (last : Option Accepted) :
    Persistence × Except Failure Resolution → Prop
  | refused (failure : Failure) : Finished env v state meets serviceID ev last (state, .error failure)
  | resolved {body : Epoch} {next : Persistence}
      (parsed : parse env ev serviceID v.operatorRoot = .ok body)
      (checked : v.checkHead last (body.accepted ev) = .ok ())
      (accepted : state.accept meets.acceptFault serviceID (body.accepted ev) = .ok next) :
    Finished env v state meets serviceID ev last
      (next, .ok (resolution env serviceID ev body meets.inventory))

theorem finishAccept_finished (env : Environment) (v : Verifier) (state : Persistence)
    (meets : Meets) (serviceID : String) (ev : Event) (last : Option Accepted) :
    Finished env v state meets serviceID ev last
      (v.finishAccept env state meets serviceID ev last) := by
  unfold finishAccept
  split
  · exact .refused _
  rename_i parsed
  split
  · exact .refused _
  rename_i checked
  split
  · exact .refused _
  · rename_i accepted
    exact .resolved parsed checked accepted

theorem Finished.rows (finished : Finished env v state meets serviceID ev last result)
    (other : String) :
    result.1.get other = state.get other ∨
      other = serviceID ∧ ∃ head, result.1.get other = some head ∧
        v.checkHead last head = .ok () ∧
          ∀ prior, state.get other = some prior → prior.epoch < head.epoch := by
  cases finished with
  | refused => exact .inl rfl
  | resolved parsed checked accepted =>
    obtain ⟨held, same | ⟨written, ahead⟩⟩ := Persistence.accept_ok accepted
    · exact .inl (congrArg (·.get other) same)
    · by_cases here : serviceID = other
      · subst here
        exact .inr ⟨rfl, _, held, checked, ahead⟩
      left
      rw [written]
      exact get_put_of_ne _ here _

/-- Nothing fails; the inventory may answer anything. -/
def reachable (ids : Option (List String)) : Meets := ⟨none, none, none, ids⟩

theorem acceptHead_ok (accepted : v.acceptHead env state meets serviceID ev = (next, .ok r)) :
    ∃ last body, v.configured = true ∧ parse env ev serviceID v.operatorRoot = .ok body ∧
      state.last meets.lastFault serviceID = .ok last ∧
      v.checkHead last (body.accepted ev) = .ok () ∧
      state.accept meets.acceptFault serviceID (body.accepted ev) = .ok next ∧
      r = resolution env serviceID ev body meets.inventory := by
  unfold acceptHead at accepted
  split at accepted
  · cases accepted
  rename_i configured
  split at accepted
  · cases accepted
  rename_i last read
  have finished := v.finishAccept_finished env state meets serviceID ev last
  rw [accepted] at finished
  cases finished with
  | resolved parsed checked written =>
    exact ⟨last, _, by simpa using configured, parsed, read, checked, written, rfl⟩

theorem accept_valid (accepted : state.accept fault serviceID head = .ok next) :
    serviceID ≠ "" ∧ head.valid = true := by
  unfold Persistence.accept at accepted
  split at accepted
  · cases accepted
  · rename_i sound
    simpa using sound

theorem acceptHead_advances (configured : v.configured = true) (named : serviceID ≠ "")
    (parsed : parse env ev serviceID v.operatorRoot = .ok body)
    (valid : (body.accepted ev).valid = true)
    (linked : body.oldPubkey = v.expectedKey (state.get serviceID))
    (above : ∀ prior ∈ state.get serviceID, prior.valid = true ∧ prior.epoch < body.epoch)
    (ids : Option (List String)) :
    v.acceptHead env state (reachable ids) serviceID ev =
      (state.put serviceID (body.accepted ev), .ok (resolution env serviceID ev body ids)) := by
  have read : state.last none serviceID = .ok (state.get serviceID) := by
    rw [Persistence.last]
    cases held : state.get serviceID with
    | none => rfl
    | some prior => simp only [(above prior held).1, if_true]
  have checked : v.checkHead (state.get serviceID) (body.accepted ev) = .ok () := by
    unfold checkHead
    cases held : state.get serviceID with
    | none =>
      rw [held] at linked
      exact if_neg (not_not_intro linked)
    | some prior =>
      obtain ⟨_, less⟩ := above prior held
      rw [held] at linked
      have forward : prior.epoch < (body.accepted ev).epoch := less
      have succeeds : (body.accepted ev).oldPubkey = prior.currentKey := linked
      simp only [succeeds, ne_eq, not_true_eq_false, and_false, if_false]
      rw [if_neg (by omega), if_neg (by omega), if_neg (by omega)]
  have written : state.accept none serviceID (body.accepted ev) =
      .ok (state.put serviceID (body.accepted ev)) :=
    Persistence.accept_above named valid above
  simp only [acceptHead, configured, reachable, read, finishAccept, parsed, checked, written]
  rfl

end Verifier

/-! ### A configuration -/

def exampleKey (byte : Byte) : PubKey := ⟨List.replicate 32 byte, List.length_replicate⟩

def exampleBody (epoch : Nat) (old new : Byte) : Epoch where
  incidentID := "incident"
  epoch
  oldPubkey := PubKey.hex (exampleKey old)
  newPubkey := PubKey.hex (exampleKey new)
  controlledRelays := some []
  activationBarrier := 150
  inventoryDigest := PubKey.hex (exampleKey 0)
  inventoryCount := 0
  consumerRoster := some consumerIDs
  activated := true

def exampleHead (epoch : Nat) (id : Byte) (content : String) : Event where
  id := exampleKey id
  pubKey := exampleKey 1
  createdAt := ⟨100, by decide, by decide⟩
  kind := controlState
  tags := [["d", "trust-epoch:svc"], ["t", topic], ["domain", domain], ["schema", schema],
    ["legacy_kind", legacyKind], ["epoch", toString epoch], ["deleted", "false"]]
  content
  sig := FixedBytes.zero 64

def exampleVerifier : Verifier := ⟨PubKey.hex (exampleKey 1), PubKey.hex (exampleKey 2)⟩

/-- Every signature is good and the contents are the given ones. -/
def exampleEnvironment (bodies : List (String × Epoch)) : Environment where
  checkID _ := true
  verifySignature _ := true
  decode content := match bodies.lookup content with
    | some body => .epoch body
    | none => .malformed
  sha256 _ := FixedBytes.zero 32

def calm : Meets := ⟨none, none, none, none⟩

end Bahia.Trustepoch
