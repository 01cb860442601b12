import Bahia.Foundation.Versions
import Bahia.Trustepoch.Generations

/-! The two gates that follow the trust epoch of a service: the daemon's admission and the sidecar's
judgement of writes. A head that a gate cannot accept fences everything after it. -/

namespace Bahia.Trustepoch
open Foundation Nostr Verifier List

/-- What a gate remembers; its service is the one of the resolution. -/
structure Gate where
  state : Persistence
  resolution : Resolution
  poisoned : Bool

inductive Verdict where
  | head (failure : Option Failure)
  | fenced
  | hostile
  | passed

namespace Gate
variable (env : Environment) (v : Verifier) (answers : Event → Option (List String))

def isHead (serviceID : String) (ev : Event) : Bool :=
  PubKey.hex ev.pubKey == v.operatorRoot && ev.kind == controlState &&
    Tags.getD ev.tags == "trust-epoch:" ++ serviceID

/-- What both gates do with an event; the inventory answers by the head that asks for it. -/
def judge (gate : Gate) (ev : Event) : Gate × Verdict :=
  if isHead v gate.resolution.serviceID ev then
    match v.acceptHead env gate.state (reachable (answers ev)) gate.resolution.serviceID ev with
    | (state, .error failure) => ({ gate with state, poisoned := true }, .head (some failure))
    | (state, .ok resolved) => ({ gate with state, resolution := resolved }, .head none)
  else if gate.poisoned then (gate, .fenced)
  else
    let old := match gate.resolution.record with
      | some record => record.oldPubkey
      | none => v.legacyPubkey
    let author := PubKey.hex ev.pubKey
    if author ≠ old ∧ author ≠ gate.resolution.pubkey then (gate, .passed)
    else if gate.resolution.judgeEvent env ev = .hostile then (gate, .hostile)
    else (gate, .passed)

/-- The daemon's `trustEpochAdmission.admit`. -/
def admits (gate : Gate) (ev : Event) : Gate × Except String Unit :=
  match gate.judge env v answers ev with
  | (gate, .head (some failure)) => (gate, .error failure.text)
  | (gate, .fenced) => (gate, .error "event rejected after unverifiable trust epoch head")
  | (gate, .hostile) => (gate, .error "hostile service event rejected at trust epoch admission")
  | (gate, _) => (gate, .ok ())

/-- The sidecar's `judgeWrite`: whether the event is refused, and why. -/
def judgeWrite (gate : Gate) (ev : Event) : Gate × Bool × Option String :=
  match gate.judge env v answers ev with
  | (gate, .head (some failure)) => (gate, true, some failure.text)
  | (gate, .fenced) => (gate, true, some "unverifiable trust epoch head")
  | (gate, .hostile) => (gate, true, some "hostile service event at trust epoch")
  | (gate, _) => (gate, false, none)

def decisions (gate : Gate) (ev : Event) : Except String Unit × Bool × Option String :=
  ((gate.admits env v answers ev).2, (gate.judgeWrite env v answers ev).2)

def deliver (gate : Gate) (deliveries : List Event) : Gate :=
  deliveries.foldl (fun gate ev => (gate.judge env v answers ev).1) gate

def older (serviceID : String) (epoch : Nat) (ev : Event) : Bool :=
  isHead v serviceID ev &&
    match parse env ev serviceID v.operatorRoot with
    | .ok body => body.epoch < epoch
    | .error _ => false

end Gate

variable {env : Environment} {v : Verifier} {serviceID : String} {state : Persistence}
variable {answers : Event → Option (List String)} {heads : List (Event × Epoch)}
variable {head : Event} {body : Epoch} {gate : Gate}

theorem parse_author (parsed : parse env ev serviceID v.operatorRoot = .ok body) :
    PubKey.hex ev.pubKey = v.operatorRoot ∧ ev.kind = controlState ∧
      body.wellFormed v.operatorRoot = true ∧ env.decode ev.content = .epoch body ∧
      rosterFault (body.consumerRoster.getD []) = none := by
  unfold parse at parsed
  split at parsed
  · cases parsed
  rename_i author
  split at parsed
  · cases parsed
  rename_i kind
  split at parsed
  · cases parsed
  split at parsed
  · cases parsed
  · cases parsed
  · rename_i decoded
    split at parsed
    · cases parsed
    rename_i fields
    split at parsed
    · cases parsed
    rename_i complete
    cases parsed
    simp only [Bool.or_eq_true, bne_iff_ne, ne_eq, not_or, not_not] at author kind
    simp only [Bool.or_eq_true, Bool.not_eq_true', not_or, Bool.not_eq_false] at fields
    exact ⟨author.2, kind.1.1, fields.1, decoded, complete⟩

theorem Verifier.AcceptedChain.ranked (chain : AcceptedChain env v serviceID heads state) :
    ∀ pair ∈ heads, parse env pair.1 serviceID v.operatorRoot = .ok pair.2 ∧
      ∃ mark, state.get serviceID = some mark ∧
        (pair.2.epoch < mark.epoch ∨ pair.2.accepted pair.1 = mark) := by
  induction chain with
  | nil =>
    intro pair member
    cases member
  | snoc earlier accepted record ih =>
    rename_i body r
    obtain ⟨last, read, configured, parsed, _, checked, written, resolved⟩ := acceptHead_ok accepted
    rw [resolved] at record
    cases record
    obtain ⟨stored, advanced⟩ := Persistence.accept_ok written
    intro pair member
    rcases mem_append.mp member with before | here
    · obtain ⟨own, mark, held, ranked⟩ := ih pair before
      refine ⟨own, _, stored, ?_⟩
      rcases advanced with same | ⟨_, ahead⟩
      · rw [same, held] at stored
        cases stored
        exact ranked
      · left
        have above : mark.epoch < body.epoch := ahead mark held
        rcases ranked with less | rfl
        · exact less.trans above
        · exact above
    · cases mem_singleton.mp here
      exact ⟨parsed, _, stored, .inr rfl⟩

namespace Gate

/-- A gate that holds the mark, with a head at the mark resolved. -/
structure Current (env : Environment) (v : Verifier) (serviceID : String) (state : Persistence)
    (mark : Accepted) (gate : Gate) : Prop where
  state : gate.state = state
  unpoisoned : gate.poisoned = false
  resolved : ∃ ev body ids, gate.resolution = Verifier.resolution env serviceID ev body ids ∧
    parse env ev serviceID v.operatorRoot = .ok body ∧ body.accepted ev = mark

theorem judge_poisoned (poisoned : gate.poisoned = true) (ev : Event) :
    (gate.judge env v answers ev).1.poisoned = true := by
  unfold judge
  split
  · split
    · rfl
    · exact poisoned
  · exact poisoned

theorem judge_other (other : isHead v gate.resolution.serviceID ev = false) :
    (gate.judge env v answers ev).1 = gate := by
  unfold judge
  rw [other, if_neg Bool.false_ne_true]
  dsimp only
  split_ifs <;> rfl

theorem admit_fenced (poisoned : gate.poisoned = true)
    (other : isHead v gate.resolution.serviceID ev = false) :
    (gate.admits env v answers ev).2 = .error "event rejected after unverifiable trust epoch head" := by
  simp [admits, judge, other, poisoned]

theorem admit_foreign (unpoisoned : gate.poisoned = false)
    (other : isHead v gate.resolution.serviceID ev = false)
    (known : gate.resolution.record = some record)
    (foreign : PubKey.hex ev.pubKey ≠ record.oldPubkey ∧ PubKey.hex ev.pubKey ≠ gate.resolution.pubkey) :
    (gate.admits env v answers ev).2 = .ok () := by
  simp [admits, judge, other, unpoisoned, known, foreign]

section Chain
variable (answers : Event → Option (List String))
variable (chain : AcceptedChain env v serviceID (heads ++ [(head, body)]) state)
include chain

theorem mark_of_chain : v.configured = true ∧ serviceID ≠ "" ∧
    state.get serviceID = some (body.accepted head) ∧ (body.accepted head).valid = true := by
  generalize whole : heads ++ [(head, body)] = all at chain
  cases chain with
  | nil => simp at whole
  | snoc earlier accepted record =>
    obtain ⟨_, last⟩ := append_inj' whole rfl
    cases last
    obtain ⟨_, _, configured, _, _, _, written, resolved⟩ := acceptHead_ok accepted
    rw [resolved] at record
    cases record
    obtain ⟨named, valid⟩ := accept_valid written
    exact ⟨configured, named, (Persistence.accept_ok written).1, valid⟩

section
variable (current : gate.Current env v serviceID state (body.accepted head))
include current

/-- A head of the chain is either older, and poisons the gate, or at the mark, and changes nothing
that matters. -/
theorem judge_head {ev : Event}
    (genuine : isHead v serviceID ev = true → ev ∈ (heads ++ [(head, body)]).map Prod.fst) :
    if older env v serviceID body.epoch ev then
      (gate.judge env v answers ev).1.poisoned = true
    else (gate.judge env v answers ev).1.Current env v serviceID state (body.accepted head) := by
  obtain ⟨configured, named, stored, valid⟩ := mark_of_chain chain
  obtain ⟨_, _, _, resolution, _, _⟩ := current.resolved
  have service : gate.resolution.serviceID = serviceID := by
    rw [resolution]
    rfl
  cases listed : isHead v serviceID ev with
  | false =>
    rw [judge_other (service.symm ▸ listed), older, listed, Bool.false_and, if_neg Bool.false_ne_true]
    exact current
  | true =>
    obtain ⟨pair, member, rfl⟩ := mem_map.mp (genuine listed)
    obtain ⟨parsed, mark, held, ranked⟩ := chain.ranked pair member
    rw [stored] at held
    cases held
    unfold judge
    rw [service, if_pos listed, current.state]
    simp only [older, listed, parsed, Bool.true_and, decide_eq_true_eq]
    rcases ranked with less | same
    · rw [if_pos (show pair.2.epoch < body.epoch from less)]
      cases outcome : v.acceptHead env state (reachable (answers pair.1)) serviceID pair.1 with
      | mk after result =>
        cases result with
        | error => rfl
        | ok =>
          obtain ⟨last, read, _, again, lastRead, checked, _⟩ := acceptHead_ok outcome
          rw [parsed] at again
          cases again
          simp only [reachable, Persistence.last, stored, valid, if_true] at lastRead
          cases lastRead
          have forward := ((checkHead_ok checked).1 _ rfl).1
          exact absurd forward (Nat.not_le.mpr less)
    · have level : pair.2.epoch = body.epoch := congrArg Accepted.epoch same
      rw [← same] at stored valid
      rw [if_neg (by omega), acceptHead_again configured named parsed stored valid]
      exact ⟨rfl, current.unpoisoned, _, _, _, rfl, parsed, same⟩

section
variable {deliveries : List Event}
  (genuine : ∀ ev ∈ deliveries, isHead v serviceID ev = true → ev ∈ (heads ++ [(head, body)]).map Prod.fst)
include genuine

theorem deliver_current (newest : ∀ ev ∈ deliveries, older env v serviceID body.epoch ev = false) :
    (gate.deliver env v answers deliveries).Current env v serviceID state (body.accepted head) := by
  induction deliveries generalizing gate with
  | nil => exact current
  | cons ev rest ih =>
    have kept := judge_head answers chain current (genuine ev mem_cons_self)
    rw [newest ev mem_cons_self, if_neg Bool.false_ne_true] at kept
    exact ih kept (fun other member => genuine other (mem_cons_of_mem _ member))
      fun other member => newest other (mem_cons_of_mem _ member)

theorem deliver_poisoned {replayed : Event}
    (delivered : replayed ∈ deliveries) (isOld : older env v serviceID body.epoch replayed = true) :
    (gate.deliver env v answers deliveries).poisoned = true := by
  induction deliveries generalizing gate with
  | nil => cases delivered
  | cons ev rest ih =>
    have step := judge_head answers chain current (genuine ev mem_cons_self)
    split at step
    · have stays (gate : Gate) (ev : Event) (poisoned : gate.poisoned = true) :
          (gate.judge env v answers ev).1.poisoned = true := judge_poisoned poisoned ev
      exact foldl_invariant stays step rest
    · rename_i harmless
      rcases mem_cons.mp delivered with rfl | later
      · exact absurd isOld harmless
      · exact ih step (fun other member => genuine other (mem_cons_of_mem _ member)) later

end

end

/-- Once the newest head is resolved, replays are without effect exactly if there are none: an older
head fences every later event. -/
theorem replays_harmless_iff (ids : Option (List String)) (deliveries : List Event)
    (genuine : ∀ ev ∈ deliveries, isHead v serviceID ev = true →
      ev ∈ (heads ++ [(head, body)]).map Prod.fst) :
    (∀ ev, older env v serviceID body.epoch ev = false →
      (deliver env v answers ⟨state, Verifier.resolution env serviceID head body ids, false⟩
          deliveries).decisions env v answers ev =
        (deliver env v answers ⟨state, Verifier.resolution env serviceID head body ids, false⟩
          (deliveries.filter fun ev => !older env v serviceID body.epoch ev)).decisions env v answers ev) ↔
      ∀ ev ∈ deliveries, older env v serviceID body.epoch ev = false := by
  obtain ⟨parsed, _⟩ := chain.ranked (head, body) (by simp)
  have current : Current env v serviceID state (body.accepted head)
      ⟨state, Verifier.resolution env serviceID head body ids, false⟩ :=
    ⟨rfl, rfl, head, body, ids, rfl, parsed, rfl⟩
  constructor
  · intro same replayed delivered
    by_contra isOld
    rw [Bool.not_eq_false] at isOld
    have poisoned := deliver_poisoned answers chain current genuine delivered isOld
    have kept := deliver_current answers chain current
      (fun ev member => genuine ev (mem_filter.mp member).1)
      fun ev (member : ev ∈ deliveries.filter fun ev => !older env v serviceID body.epoch ev) => by
        simpa using (mem_filter.mp member).2
    -- A note of the operator: no head, and by neither key of the service.
    have other (serviceID : String) : isHead v serviceID { head with kind := 1 } = false := by
      simp [isHead, controlState]
    have told := same { head with kind := 1 } (by rw [older, other, Bool.false_and])
    obtain ⟨newest, record, ids, resolution, read, _⟩ := kept.resolved
    have foreign : PubKey.hex head.pubKey ≠ record.oldPubkey ∧
        PubKey.hex head.pubKey ≠ (record.accepted newest).currentKey := by
      have fields := (parse_author read).2.2.1
      simp only [Epoch.wellFormed, Bool.and_eq_true, bne_iff_ne] at fields
      rw [(parse_author parsed).1]
      refine ⟨by tauto, ?_⟩
      unfold Accepted.currentKey
      split <;> exact (by tauto)
    have admitted := congrArg Prod.fst told
    rw [decisions, decisions, admit_fenced poisoned (other _),
      admit_foreign kept.unpoisoned (other _) (by rw [resolution]; rfl) (by rw [resolution]; exact foreign)]
      at admitted
    cases admitted
  · intro none ev _
    rw [filter_eq_self.mpr fun ev member => by simp [none ev member]]

end Chain

/-! ### After the second rotation -/

def rotatedGate : Gate where
  state := secondMark
  resolution := Verifier.resolution rotations "svc" (exampleHead 2 12 "b") (exampleBody 2 3 4) none
  poisoned := false

theorem replays_harmless_iff_newest :
    older rotations exampleVerifier "svc" 2 (exampleHead 2 12 "b") = false ∧
      ∀ ev, older rotations exampleVerifier "svc" 2 ev = false →
        (deliver rotations exampleVerifier (fun _ => none) rotatedGate [exampleHead 2 12 "b"]).decisions
            rotations exampleVerifier (fun _ => none) ev =
          (deliver rotations exampleVerifier (fun _ => none) rotatedGate
            ([exampleHead 2 12 "b"].filter fun ev => !older rotations exampleVerifier "svc" 2 ev)).decisions
            rotations exampleVerifier (fun _ => none) ev := by
  have newest : older rotations exampleVerifier "svc" 2 (exampleHead 2 12 "b") = false := by
    decide +kernel
  refine ⟨newest, (replays_harmless_iff _ twoRotations none [exampleHead 2 12 "b"] ?_).mpr ?_⟩
  · intro ev member _
    simpa using .inr (mem_singleton.mp member)
  · intro ev member
    rw [mem_singleton.mp member]
    exact newest

/-- The first head once more, and nothing is admitted any longer. -/
theorem older_head_fences :
    (rotatedGate.admits rotations exampleVerifier (fun _ => none) (exampleEvent 9)).2 = .ok () ∧
      ((deliver rotations exampleVerifier (fun _ => none) rotatedGate [exampleHead 1 11 "a"]).admits
        rotations exampleVerifier (fun _ => none) (exampleEvent 9)).2 =
          .error "event rejected after unverifiable trust epoch head" := by
  decide +kernel

end Gate

end Bahia.Trustepoch
