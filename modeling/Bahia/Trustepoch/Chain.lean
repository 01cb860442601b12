import Bahia.Foundation.Versions
import Bahia.Trustepoch.Acceptance

/-! Verifiers that share one persistence. The read of a call and its write are separate
transactions, and other calls may come between them. -/

namespace Bahia.Trustepoch
open Foundation Nostr List

/-- An `AcceptHead` call that has read the mark; `waiting` until it has written. -/
structure Reading where
  serviceID : String
  ev : Event
  last : Option Accepted
  waiting : Bool

structure System where
  state : Persistence
  calls : List Reading

inductive Action where
  | read (serviceID : String) (ev : Event) (fault : Option String)
  | persist (call : Nat) (meets : Meets)

namespace System

def start : System := ⟨∅, []⟩

variable (env : Environment) (v : Verifier)

def readMark (s : System) (serviceID : String) (ev : Event) (fault : Option String) : System :=
  if v.configured then
    match s.state.last fault serviceID with
    | .error _ => s
    | .ok last => { s with calls := s.calls ++ [⟨serviceID, ev, last, true⟩] }
  else s

def persist (s : System) (index : Nat) (meets : Meets) : System :=
  match s.calls[index]? with
  | some ⟨serviceID, ev, last, true⟩ =>
    { state := (v.finishAccept env s.state meets serviceID ev last).1
      calls := s.calls.set index ⟨serviceID, ev, last, false⟩ }
  | _ => s

def after (s : System) : Action → System
  | .read serviceID ev fault => s.readMark v serviceID ev fault
  | .persist index meets => s.persist env v index meets

def mark (serviceID : String) (s : System) : Option Accepted := s.state.get serviceID

/-- The heads ever persisted for a service, oldest first. -/
def heads (serviceID : String) (actions : List Action) : List Accepted :=
  changes (after env v) (mark serviceID) start actions

variable {s : System}

theorem readMark_state (serviceID : String) (ev : Event) (fault : Option String) :
    (s.readMark v serviceID ev fault).state = s.state := by
  unfold readMark
  split
  · split <;> rfl
  · rfl

theorem after_mark (serviceID : String) (s : System) (action : Action) :
    mark serviceID (after env v s action) = mark serviceID s ∨
      ∃ index meets call head, action = .persist index meets ∧ s.calls[index]? = some call ∧
        call.serviceID = serviceID ∧ mark serviceID (after env v s action) = some head ∧
          v.checkHead call.last head = .ok () ∧
            ∀ prior, mark serviceID s = some prior → prior.epoch < head.epoch := by
  cases action with
  | read => exact .inl (congrArg (Bucket.get · serviceID) (readMark_state v _ _ _))
  | persist index meets =>
    have step : after env v s (.persist index meets) = s.persist env v index meets := rfl
    rw [step, persist]
    split
    · rename_i other ev last held
      rcases (v.finishAccept_finished env s.state meets other ev last).rows serviceID with
        kept | ⟨here, head, written, checked, ahead⟩
      · exact .inl kept
      · exact .inr ⟨index, meets, _, head, rfl, held, here.symm, written, checked, ahead⟩
    · exact .inl rfl

theorem mark_stays (serviceID : String) (s : System) (action : Action)
    (held : mark serviceID s ≠ none) : mark serviceID (after env v s action) ≠ none := by
  rcases after_mark env v serviceID s action with kept | ⟨_, _, _, head, _, _, _, written, _⟩
  · rw [kept]
    exact held
  · rw [written]
    exact nofun

variable {serviceID : String} {last : Accepted} {s : System}

theorem mark_forward (held : mark serviceID s = some stored) (action : Action) :
    ∃ later, mark serviceID (after env v s action) = some later ∧ stored.epoch ≤ later.epoch := by
  rcases after_mark env v serviceID s action with kept | ⟨_, _, _, head, _, _, _, written, _, ahead⟩
  · exact ⟨stored, kept.trans held, le_refl _⟩
  · exact ⟨head, written, (ahead stored held).le⟩

/-- What a call has read is no further than the mark. -/
def Behind (s : System) : Prop :=
  ∀ call ∈ s.calls, ∀ last, call.last = some last →
    ∃ stored, mark call.serviceID s = some stored ∧ last.epoch ≤ stored.epoch

theorem last_some {state : Persistence} {fault : Option String}
    (read : state.last fault serviceID = .ok (some last)) :
    state.get serviceID = some last := by
  unfold Persistence.last at read
  split at read
  · cases read
  split at read
  · cases read
  rename_i held
  split at read
  · cases read
    exact held
  · cases read

theorem mem_after (member : call ∈ (after env v s action).calls) (read : call.last = some last) :
    (∃ earlier ∈ s.calls, earlier.serviceID = call.serviceID ∧ earlier.last = call.last) ∨
      mark call.serviceID s = some last := by
  cases action with
  | read serviceID ev fault =>
    change call ∈ (s.readMark v serviceID ev fault).calls at member
    unfold readMark at member
    split at member
    · split at member
      · exact .inl ⟨call, member, rfl, rfl⟩
      rename_i result
      rcases mem_append.mp member with earlier | new
      · exact .inl ⟨call, earlier, rfl, rfl⟩
      rw [mem_singleton.mp new] at read ⊢
      cases read
      exact .inr (last_some result)
    · exact .inl ⟨call, member, rfl, rfl⟩
  | persist index meets =>
    change call ∈ (s.persist env v index meets).calls at member
    unfold persist at member
    split at member
    · rename_i held
      rcases mem_or_eq_of_mem_set member with earlier | new
      · exact .inl ⟨call, earlier, rfl, rfl⟩
      · exact .inl ⟨_, mem_of_getElem? held, by rw [new], by rw [new]⟩
    · exact .inl ⟨call, member, rfl, rfl⟩

theorem Behind.after (behind : s.Behind) (action : Action) : (System.after env v s action).Behind := by
  intro call member last read
  have before : ∃ stored, mark call.serviceID s = some stored ∧ last.epoch ≤ stored.epoch := by
    rcases mem_after env v member read with ⟨earlier, waiting, service, same⟩ | just
    · rw [← service]
      exact behind earlier waiting last (same.trans read)
    · exact ⟨last, just, le_refl _⟩
  obtain ⟨stored, held, bound⟩ := before
  obtain ⟨later, written, more⟩ := mark_forward env v held action
  exact ⟨later, written, bound.trans more⟩

/-- A write that replaces a mark finds the key that its call has read. -/
def Undisturbed (serviceID : String) (s : System) : Action → Prop
  | .read _ _ _ => True
  | .persist index meets => ∀ call stored, s.calls[index]? = some call →
    call.serviceID = serviceID → mark serviceID s = some stored →
      mark serviceID (after env v s (.persist index meets)) ≠ some stored →
        stored.currentKey = v.expectedKey call.last

structure Unbroken (legacy : String) (heads : List Accepted) : Prop where
  increasing : heads.Pairwise fun earlier later => earlier.epoch < later.epoch
  first : ∀ head, heads.head? = some head → head.oldPubkey = legacy
  linked : heads.IsChain fun previous next => next.oldPubkey = previous.currentKey

/-- The chain link of one step is exactly that its call was not disturbed. -/
theorem linked_iff_undisturbed (behind : s.Behind) (serviceID : String) (action : Action) :
    (∀ old new, mark serviceID s = some old → mark serviceID (after env v s action) = some new →
      old ≠ new → new.oldPubkey = old.currentKey) ↔ Undisturbed env v serviceID s action := by
  rcases after_mark env v serviceID s action with
    kept | ⟨index, meets, call, head, rfl, found, here, written, checked, ahead⟩
  · constructor
    · intro _
      cases action with
      | read => trivial
      | persist =>
        intro call stored _ _ held moved
        exact absurd (kept.trans held) moved
    · intro _ old new held after different
      exact absurd (Option.some.inj (held.symm.trans (kept.symm.trans after))) different
  · have expected (stored : Accepted) (held : mark serviceID s = some stored) :
        head.oldPubkey = v.expectedKey call.last := by
      obtain ⟨_, linked⟩ := Verifier.checkHead_ok checked
      apply linked
      intro prior read same
      obtain ⟨current, stored', bound⟩ := behind call (mem_of_getElem? found) prior read
      rw [here] at stored'
      have less := ahead current stored'
      omega
    constructor
    · intro linked other stored also _ held _
      cases Option.some.inj (found.symm.trans also)
      have less := ahead stored held
      have different : stored ≠ head := by
        rintro rfl
        exact lt_irrefl _ less
      rw [← expected stored held, linked stored head held written different]
    · intro undisturbed old new held after different
      cases Option.some.inj (written.symm.trans after)
      have moved : mark serviceID (System.after env v s (.persist index meets)) ≠ some old := by
        rw [written]
        exact fun same => different (Option.some.inj same).symm
      rw [expected old held, undisturbed call old found here held moved]

/-- The heads ever persisted form an unbroken chain exactly when no write that replaces a
mark was overtaken by another key since its call read. -/
theorem heads_unbroken_iff (env : Environment) (v : Verifier) (serviceID : String)
    (actions : List Action) :
    Unbroken v.legacyPubkey (heads env v serviceID actions) ↔
      Throughout (after env v) (Undisturbed env v serviceID) start actions := by
  have keeps (s : System) (action : Action) (behind : s.Behind) :
      (after env v s action).Behind := behind.after env v action
  have initial : start.Behind := by
    intro call member
    cases member
  have chained {related : Accepted → Accepted → Prop} :
      (heads env v serviceID actions).IsChain related ↔ _ :=
    isChain_changes_iff (mark_stays env v serviceID) start actions
  have same := throughout_congr keeps
    (fun s action behind => linked_iff_undisturbed env v behind serviceID action)
    initial actions
  constructor
  · intro unbroken
    exact same.mp (chained.mp unbroken.linked)
  · intro undisturbed
    refine ⟨?_, ?_, chained.mpr (same.mpr undisturbed)⟩
    · have ordered : (heads env v serviceID actions).IsChain
          fun earlier later => earlier.epoch < later.epoch := by
        apply chained.mpr
        apply throughout_of_invariant keeps _ initial
        intro s action _ old new held written different
        rcases after_mark env v serviceID s action with
          kept | ⟨_, _, _, head, _, _, _, after, _, ahead⟩
        · exact absurd (Option.some.inj (held.symm.trans (kept.symm.trans written))) different
        · cases Option.some.inj (after.symm.trans written)
          exact ahead old held
      have transitive : IsTrans Accepted fun earlier later => earlier.epoch < later.epoch :=
        ⟨fun _ _ _ => lt_trans⟩
      exact ordered.pairwise
    · intro head first
      apply head_changes keeps ?_ initial rfl first
      intro s action new behind fresh written
      rcases after_mark env v serviceID s action with
        kept | ⟨_, _, call, head, _, found, here, after, checked, _⟩
      · exact nomatch fresh.symm.trans (kept.symm.trans written)
      · cases Option.some.inj (after.symm.trans written)
        -- nothing is stored, so the call has read nothing either
        have unread : call.last = none := by
          cases read : call.last with
          | none => rfl
          | some last =>
            obtain ⟨stored, held, _⟩ := behind call (mem_of_getElem? found) last read
            rw [here] at held
            exact nomatch fresh.symm.trans held
        obtain ⟨_, linked⟩ := Verifier.checkHead_ok checked
        rw [unread] at linked
        exact linked nofun

/-! ### Two rotations that overtake each other -/

def overtaken (serviceID : String) (first second : Event) : List Action :=
  [.read serviceID first none, .read serviceID second none, .persist 0 calm, .persist 1 calm]

def forkEnvironment : Environment :=
  exampleEnvironment [("first", exampleBody 1 2 3), ("second", exampleBody 2 2 4)]

/-- Both are persisted, although the second does not succeed the key of the first. -/
theorem fork_heads_broken :
    ¬Unbroken exampleVerifier.legacyPubkey
      (heads forkEnvironment exampleVerifier "svc"
        (overtaken "svc" (exampleHead 1 11 "first") (exampleHead 2 12 "second"))) := by
  have persisted : heads forkEnvironment exampleVerifier "svc"
      (overtaken "svc" (exampleHead 1 11 "first") (exampleHead 2 12 "second")) =
        [(exampleBody 1 2 3).accepted (exampleHead 1 11 "first"),
          (exampleBody 2 2 4).accepted (exampleHead 2 12 "second")] := by
    decide +kernel
  rw [persisted]
  intro unbroken
  have linked := isChain_pair.mp unbroken.linked
  exact absurd linked (by decide +kernel)

end System

end Bahia.Trustepoch
