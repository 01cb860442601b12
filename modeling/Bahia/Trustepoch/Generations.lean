import Bahia.Trustepoch.Acceptance

/-! The generations of a service identity. Only the last head is kept, so what the verifier
knows of earlier generations is the configured legacy key and the key the last head retired. -/

namespace Bahia.Trustepoch
open Foundation Nostr

namespace Verifier
variable {env : Environment} {v : Verifier} {serviceID : String} {meets : Meets}

/-- Heads accepted one after another, each with what was parsed from it. -/
inductive AcceptedChain (env : Environment) (v : Verifier) (serviceID : String) :
    List (Event × Epoch) → Persistence → Prop
  | nil : AcceptedChain env v serviceID [] ∅
  | snoc {heads : List (Event × Epoch)} {state next : Persistence} {meets : Meets} {ev : Event}
      {body : Epoch} {r : Resolution} (earlier : AcceptedChain env v serviceID heads state)
      (accepted : v.acceptHead env state meets serviceID ev = (next, .ok r))
      (record : r.record = some body) : AcceptedChain env v serviceID (heads ++ [(ev, body)]) next

/-- The legacy key, and the old and the activated new key of every epoch. -/
def generations (v : Verifier) (heads : List (Event × Epoch)) : List String :=
  v.legacyPubkey :: heads.flatMap fun head =>
    head.2.oldPubkey :: if head.2.activated then [head.2.newPubkey] else []

variable {state : Persistence} {ev : Event} {body : Epoch} {heads : List (Event × Epoch)}

theorem acceptHead_again (configured : v.configured = true) (named : serviceID ≠ "")
    (parsed : parse env ev serviceID v.operatorRoot = .ok body)
    (stored : state.get serviceID = some (body.accepted ev))
    (valid : (body.accepted ev).valid = true) (ids : Option (List String)) :
    v.acceptHead env state (reachable ids) serviceID ev =
      (state, .ok (resolution env serviceID ev body ids)) := by
  have read : state.last none serviceID = .ok (some (body.accepted ev)) := by
    simp only [Persistence.last, stored, valid, if_true]
  have checked : v.checkHead (some (body.accepted ev)) (body.accepted ev) = .ok () := by
    simp [checkHead]
  have written : state.accept none serviceID (body.accepted ev) = .ok state := by
    simp [Persistence.accept, stored, valid, named]
  simp only [acceptHead, configured, reachable, read, finishAccept, parsed, checked, written]
  rfl

theorem AcceptedChain.current (chain : AcceptedChain env v serviceID (heads ++ [(ev, body)]) state)
    (ids : Option (List String)) :
    v.serviceIdentity env state (reachable ids) (.present ev) serviceID =
      (state, .ok (resolution env serviceID ev body ids)) := by
  generalize whole : heads ++ [(ev, body)] = all at chain
  cases chain with
  | nil => simp at whole
  | snoc earlier accepted record =>
    obtain ⟨_, last⟩ := List.append_inj' whole rfl
    cases last
    obtain ⟨_, parsedBody, configured, parsed, _, _, written, resolved⟩ := acceptHead_ok accepted
    rw [resolved] at record
    cases record
    obtain ⟨stored, _⟩ := Persistence.accept_ok written
    obtain ⟨named, valid⟩ := accept_valid written
    have read : state.last none serviceID = .ok (some (body.accepted ev)) := by
      simp only [Persistence.last, stored, valid, if_true]
    have again := acceptHead_again configured named parsed stored valid ids
    simp only [serviceIdentity, configured, named]
    simpa [reachable, read] using again

/-- What is claimed of an event by a key of some generation: it is one of the service, and
hostile unless the current key or the verified inventory speaks for it. -/
structure Judged (env : Environment) (ids : Option (List String)) (body : Epoch) (head ev : Event)
    (decision : Decision) (service : Bool) : Prop where
  service : service = true
  hostile : decision = .hostile ∨ PubKey.hex ev.pubKey = (body.accepted head).currentKey ∨
    ∃ verified, checkInventory env ids body.inventoryDigest body.inventoryCount = .ok verified ∧
      ID.hex ev.id ∈ verified ∧ ev.createdAt.val ≤ body.activationBarrier

theorem judgeEvent_hostile (env : Environment) (serviceID : String) (head ev : Event) (body : Epoch)
    (ids : Option (List String)) :
    (resolution env serviceID head body ids).judgeEvent env ev = .hostile ∨
      PubKey.hex ev.pubKey = (body.accepted head).currentKey ∨
      ∃ verified, checkInventory env ids body.inventoryDigest body.inventoryCount = .ok verified ∧
        ID.hex ev.id ∈ verified ∧ ev.createdAt.val ≤ body.activationBarrier := by
  unfold Resolution.judgeEvent
  split
  · exact .inl rfl
  split
  · rename_i author
    exact .inr (.inl author)
  split
  · rename_i inventory held verified
    cases held
    split
    · rename_i admitted
      simp only [Bool.and_eq_true, decide_eq_true_eq] at admitted
      obtain ⟨⟨⟨activated, _⟩, early⟩, listed⟩ := admitted
      right
      right
      have checked : (checkInventory env ids body.inventoryDigest
          body.inventoryCount).toOption = some inventory := by
        simpa [resolution, activated] using verified
      cases result : checkInventory env ids body.inventoryDigest body.inventoryCount with
      | error =>
        rw [result] at checked
        cases checked
      | ok =>
        rw [result] at checked
        cases checked
        exact ⟨_, rfl, by simpa using listed, early⟩
    · exact .inl rfl
  · exact .inl rfl

/-- An event is judged as one of the service exactly when its author is the legacy key or a key
of the current head, whatever generations came between them. -/
theorem judgeServiceEvent_iff {heads : List (Event × Epoch)} {head : Event} {body : Epoch}
    {state : Persistence} (chain : AcceptedChain env v serviceID (heads ++ [(head, body)]) state)
    (ids : Option (List String)) (ev : Event) :
    Judged env ids body head ev
        (v.judgeServiceEvent env state (reachable ids) (.present head) serviceID ev).2.1
        (v.judgeServiceEvent env state (reachable ids) (.present head) serviceID ev).2.2.1 ↔
      PubKey.hex ev.pubKey = v.legacyPubkey ∨ PubKey.hex ev.pubKey = body.oldPubkey ∨
        PubKey.hex ev.pubKey = (body.accepted head).currentKey := by
  have judged : v.judgeServiceEvent env state (reachable ids) (.present head) serviceID ev =
      if PubKey.hex ev.pubKey ≠ body.oldPubkey ∧ PubKey.hex ev.pubKey ≠ v.legacyPubkey ∧
          PubKey.hex ev.pubKey ≠ (body.accepted head).currentKey then
        (state, .accept, false, none)
      else (state, (resolution env serviceID head body ids).judgeEvent env ev, true, none) := by
    unfold judgeServiceEvent
    rw [chain.current ids]
    rfl
  rw [judged]
  split
  · rename_i unknown
    obtain ⟨old, legacy, now⟩ := unknown
    constructor
    · intro judged
      exact nomatch judged.service
    · rintro (same | same | same)
      · exact absurd same legacy
      · exact absurd same old
      · exact absurd same now
  · rename_i recognised
    refine ⟨fun _ => ?_, fun _ => ⟨rfl, judgeEvent_hostile env serviceID head ev body ids⟩⟩
    by_contra unknown
    simp only [not_or] at unknown
    exact recognised ⟨unknown.2.1, unknown.1, unknown.2.2⟩

/-! ### Three rotations -/

/-- Keys 2, 3, 4 and 5, each activated after the one before. -/
def rotations : Environment :=
  exampleEnvironment
    [("a", exampleBody 1 2 3), ("b", exampleBody 2 3 4), ("c", exampleBody 3 4 5)]

def firstMark : Persistence :=
  Bucket.put ∅ "svc" ((exampleBody 1 2 3).accepted (exampleHead 1 11 "a"))

def secondMark : Persistence :=
  firstMark.put "svc" ((exampleBody 2 3 4).accepted (exampleHead 2 12 "b"))

def thirdMark : Persistence :=
  secondMark.put "svc" ((exampleBody 3 4 5).accepted (exampleHead 3 13 "c"))

theorem rotation (chain : AcceptedChain rotations exampleVerifier "svc" heads state)
    (ready : parse rotations ev "svc" exampleVerifier.operatorRoot = .ok body ∧
      (body.accepted ev).valid = true ∧
      body.oldPubkey = exampleVerifier.expectedKey (state.get "svc") ∧
      ∀ prior ∈ state.get "svc", prior.valid = true ∧ prior.epoch < body.epoch) :
    AcceptedChain rotations exampleVerifier "svc" (heads ++ [(ev, body)])
      (state.put "svc" (body.accepted ev)) :=
  chain.snoc (acceptHead_advances (by decide +kernel) (by decide) ready.1 ready.2.1 ready.2.2.1
    ready.2.2.2 none) rfl

theorem firstRotation : AcceptedChain rotations exampleVerifier "svc"
    ([] ++ [(exampleHead 1 11 "a", exampleBody 1 2 3)]) firstMark :=
  rotation .nil (by decide +kernel)

theorem twoRotations : AcceptedChain rotations exampleVerifier "svc"
    ([] ++ [(exampleHead 1 11 "a", exampleBody 1 2 3)] ++ [(exampleHead 2 12 "b", exampleBody 2 3 4)])
    secondMark :=
  rotation firstRotation (by decide +kernel)

theorem threeRotations : AcceptedChain rotations exampleVerifier "svc"
    ([] ++ [(exampleHead 1 11 "a", exampleBody 1 2 3)] ++
      [(exampleHead 2 12 "b", exampleBody 2 3 4)] ++ [(exampleHead 3 13 "c", exampleBody 3 4 5)])
    thirdMark :=
  rotation twoRotations (by decide +kernel)

def exampleEvent (author : Byte) : Event := { exampleHead 1 21 "" with pubKey := exampleKey author }

/-- What is claimed of an event by this key after the third rotation. -/
def JudgedThird (author : Byte) : Prop :=
  let answer := exampleVerifier.judgeServiceEvent rotations thirdMark (reachable none)
    (.present (exampleHead 3 13 "c")) "svc" (exampleEvent author)
  Judged rotations none (exampleBody 3 4 5) (exampleHead 3 13 "c") (exampleEvent author) answer.2.1
    answer.2.2.1

/-- The keys of the first and of the last two generations are known. -/
theorem judgeServiceEvent_legacy :
    JudgedThird 2 ∧ ¬ JudgedThird 3 ∧ JudgedThird 4 ∧ JudgedThird 5 := by
  have known : ∀ author ∈ [(2 : Byte), 3, 4, 5], JudgedThird author ↔ author ≠ 3 := by
    intro author member
    rw [JudgedThird, judgeServiceEvent_iff threeRotations none (exampleEvent author)]
    revert author
    decide +kernel
  exact ⟨(known 2 (by decide)).mpr (by decide), fun judged => (known 3 (by decide)).mp judged rfl,
    (known 4 (by decide)).mpr (by decide), (known 5 (by decide)).mpr (by decide)⟩

/-- The key that the second rotation retired is no longer known after the third. -/
theorem judgeServiceEvent_retired :
    AcceptedChain rotations exampleVerifier "svc"
        ([] ++ [(exampleHead 1 11 "a", exampleBody 1 2 3)] ++
          [(exampleHead 2 12 "b", exampleBody 2 3 4)] ++
            [(exampleHead 3 13 "c", exampleBody 3 4 5)]) thirdMark ∧
      PubKey.hex (exampleEvent 3).pubKey ∈ exampleVerifier.generations
        ([] ++ [(exampleHead 1 11 "a", exampleBody 1 2 3)] ++
          [(exampleHead 2 12 "b", exampleBody 2 3 4)] ++
            [(exampleHead 3 13 "c", exampleBody 3 4 5)]) ∧
      exampleVerifier.judgeServiceEvent rotations thirdMark (reachable none)
        (.present (exampleHead 3 13 "c")) "svc" (exampleEvent 3) =
          (thirdMark, .accept, false, none) := by
  refine ⟨threeRotations, by simp [generations, exampleBody, exampleEvent], ?_⟩
  rw [judgeServiceEvent, threeRotations.current none]
  dsimp only
  exact if_pos (by decide +kernel)

end Verifier

end Bahia.Trustepoch
