import Bahia.Foundation.Outcome
import Bahia.Foundation.Runs
import Bahia.Lifecycle.Model

/-! The floor a head puts under its coordinate, and the one call that takes it away. -/

namespace Bahia.Nostrutil
open Foundation Nostr Bucket

def HeadsKept (before after : Lifecycle) : Prop :=
  ∀ address head, before.heads.get address = some head →
    ∃ kept, after.heads.get address = some kept ∧ kept.version = head.version ∧ kept.id = head.id

theorem HeadsKept.of_eq (same : after.heads = before.heads) : HeadsKept before after := by
  intro address head found
  exact ⟨head, same ▸ found, rfl, rfl⟩

theorem HeadsKept.trans (one : HeadsKept first second) (two : HeadsKept second third) :
    HeadsKept first third := by
  intro address head found
  obtain ⟨middle, present, version, id⟩ := one address head found
  obtain ⟨kept, there, sameVersion, sameID⟩ := two address middle present
  exact ⟨kept, there, sameVersion.trans version, sameID.trans id⟩

namespace Lifecycle

theorem retireHead_kept (l : Lifecycle) (entry : Entry) :
    HeadsKept l { l with heads := retireHead l.heads entry } := by
  intro address head found
  unfold retireHead
  split
  · rename_i retired _
    split
    · rename_i present
      split
      · by_cases same : retired = address
        · subst same
          rw [found] at present
          cases present
          exact ⟨_, get_put_self _ _ _, rfl, rfl⟩
        · exact ⟨head, (get_put_of_ne _ same _).trans found, rfl, rfl⟩
      · exact ⟨head, found, rfl, rfl⟩
    · exact ⟨head, found, rfl, rfl⟩
  · exact ⟨head, found, rfl, rfl⟩

theorem drop_kept (l : Lifecycle) (entry : Entry) : HeadsKept l (l.drop entry) :=
  retireHead_kept l entry

/-- Every head keeps its version, and no entry becomes live. -/
structure Winnows (before after : Lifecycle) : Prop where
  heads : HeadsKept before after
  live : ∀ id entry, after.live.get id = some entry → before.live.get id = some entry
  expiries : after.expiries = before.expiries

theorem Winnows.refl (l : Lifecycle) : Winnows l l :=
  ⟨HeadsKept.of_eq rfl, fun _ _ found => found, rfl⟩

theorem Winnows.trans (one : Winnows first second) (two : Winnows second third) :
    Winnows first third :=
  ⟨one.heads.trans two.heads, fun id entry found => one.live id entry (two.live id entry found),
    two.expiries.trans one.expiries⟩

theorem Winnows.marked (l : Lifecycle) (ids : Bucket (ID ×ₗ PubKey) Unit)
    (addresses : Bucket Address Timestamp) :
    Winnows l { l with deletedIDs := ids, deletedAddrs := addresses } :=
  ⟨HeadsKept.of_eq rfl, fun _ _ found => found, rfl⟩

theorem drop_winnows (l : Lifecycle) (entry : Entry) : Winnows l (l.drop entry) :=
  ⟨drop_kept l entry, fun _ _ found => (get_delete_cases found).2, rfl⟩

theorem deleteID_winnows (author : PubKey) (progress : Lifecycle × List Entry) (id : ID) :
    Winnows progress.1 (deleteID author progress id).1 := by
  have marked := Winnows.marked progress.1
    (progress.1.deletedIDs.put (toLex (id, author)) ()) progress.1.deletedAddrs
  unfold deleteID
  dsimp only
  split
  · split
    · exact marked.trans (drop_winnows _ _)
    · exact marked
  · exact marked

theorem deleteAddress_winnows (createdAt : Timestamp) (progress : Lifecycle × List Entry)
    (address : Address) : Winnows progress.1 (deleteAddress createdAt progress address).1 := by
  obtain ⟨l, removed⟩ := progress
  have marked : Winnows l (if (l.deletedAddrs.get address).getD 0 < createdAt then
      { l with deletedAddrs := l.deletedAddrs.put address createdAt } else l) := by
    split
    · exact .marked l _ _
    · exact .refl l
  unfold deleteAddress
  dsimp only
  split
  · split
    · exact marked
    split
    · exact marked.trans (drop_winnows _ _)
    · exact marked
  · exact marked

theorem applyDeletion_winnows (l : Lifecycle) (deletion : Deletion) :
    Winnows l (l.applyDeletion deletion).1 := by
  have byID : Winnows l (deletion.ids.foldl (deleteID deletion.author) (l, [])).1 := by
    apply foldl_induction fun (progress : Lifecycle × List Entry) (_ : List ID) =>
      Winnows l progress.1
    · intro progress id rest kept
      exact kept.trans (deleteID_winnows _ _ _)
    · exact .refl l
  apply foldl_induction fun (progress : Lifecycle × List Entry) (_ : List Address) =>
    Winnows l progress.1
  · intro progress address rest kept
    exact kept.trans (deleteAddress_winnows _ _ _)
  · exact byID

theorem expireDue_kept (cutoff : Timestamp) (items : List ExpiryItem) (l : Lifecycle)
    (gone : List Entry) : HeadsKept l (expireDue cutoff items l gone).1 := by
  induction items generalizing l gone with
  | nil => exact HeadsKept.of_eq rfl
  | cons item rest ih =>
    unfold expireDue
    split
    · split
      · split
        · exact (drop_kept l _).trans (ih _ _)
        · exact ih _ _
      · exact ih _ _
    · exact HeadsKept.of_eq rfl

/-- The head of a coordinate puts the event's version under a floor. -/
def Floors (l : Lifecycle) (event : Event) : Prop :=
  ∀ address, addressOf event = some address → ∃ head, l.heads.get address = some head ∧
    (head.version = versionOf event ∨ head.version.supersedes (versionOf event) = true)

theorem floors_kept (kept : HeadsKept before after) (floors : before.Floors event) :
    after.Floors event := by
  intro address located
  obtain ⟨head, found, below⟩ := floors address located
  obtain ⟨next, present, version, _⟩ := kept address head found
  exact ⟨next, present, version ▸ below⟩

/-- How `observe` moves the heads: a version is accepted over the head it supersedes, or
every head keeps its version. -/
inductive Observed (l : Lifecycle) (event : Event) : Lifecycle → Decision → Prop where
  | accepted {next decision address} (located : addressOf event = some address)
      (outcome : decision.outcome = .accept)
      (newer : ∀ head, l.heads.get address = some head →
        (versionOf event).supersedes head.version = true)
      (heads : next.heads = l.heads.put address ⟨versionOf event, event.id, true⟩) :
      Observed l event next decision
  | kept {next decision} (kept : HeadsKept l next)
      (outcome : ∀ address, addressOf event = some address → decision.outcome ≠ .accept) :
      Observed l event next decision

theorem observeState_observed (l : Lifecycle) (located : addressOf event = some address) :
    Observed l event (l.observeState event address).1 (l.observeState event address).2 := by
  unfold observeState
  split
  · exact .kept (HeadsKept.of_eq rfl) fun _ _ => nofun
  split
  · rename_i absent
    refine .accepted located rfl ?_ rfl
    intro head found
    rw [absent] at found
    cases found
  · rename_i found
    split
    · exact .kept (HeadsKept.of_eq rfl) fun _ _ => nofun
    split
    · exact .kept (HeadsKept.of_eq rfl) fun _ _ => nofun
    rename_i newer
    have supersedes : ∀ current, l.heads.get address = some current →
        (versionOf event).supersedes current.version = true := by
      intro current present
      rw [found] at present
      cases present
      simpa using newer
    split
    · exact .accepted located rfl supersedes rfl
    · exact .accepted located rfl supersedes rfl

theorem observe_observed (validKey : PubKey → Bool) (l : Lifecycle) (event : Event)
    (now : Timestamp) :
    Observed l event (l.observe validKey event now).1 (l.observe validKey event now).2 := by
  unfold observe
  split
  · exact .kept (HeadsKept.of_eq rfl) fun _ _ => nofun
  split
  · exact .kept (applyDeletion_winnows l _).heads fun _ _ => nofun
  split
  · exact .kept (HeadsKept.of_eq rfl) fun _ _ => nofun
  split
  · rename_i located
    exact observeState_observed l located
  rename_i regular
  have elsewhere : ∀ decision : Decision, ∀ address, addressOf event = some address →
      decision.outcome ≠ .accept := by
    intro decision address located
    rw [regular] at located
    cases located
  split
  · split
    · exact .kept (HeadsKept.of_eq rfl) (elsewhere _)
    · exact .kept (HeadsKept.of_eq rfl) (elsewhere _)
  · exact .kept (HeadsKept.of_eq rfl) (elsewhere _)

theorem floors_observed (observed : Observed l event next decision) (floors : l.Floors other) :
    next.Floors other := by
  cases observed with
  | accepted located outcome newer heads =>
    rename_i address
    intro place here
    obtain ⟨head, found, below⟩ := floors place here
    by_cases same : address = place
    · subst same
      refine ⟨_, by rw [heads]; exact get_put_self _ _ _, ?_⟩
      right
      rcases below with equal | above
      · exact equal ▸ newer head found
      · exact Version.supersedes_trans (newer head found) above
    · refine ⟨head, ?_, below⟩
      rw [heads, get_put_of_ne _ same]
      exact found
  | kept kept => exact floors_kept kept floors

theorem floors_accepted (observed : Observed l event next decision)
    (accepts : decision.outcome = .accept) : next.Floors event := by
  intro place here
  cases observed with
  | accepted located outcome newer heads =>
    rw [located] at here
    cases here
    exact ⟨_, by rw [heads]; exact get_put_self _ _ _, .inl rfl⟩
  | kept kept outcome => exact absurd accepts (outcome place here)

end Lifecycle

/-- A consumer: its lifecycle, and the events it was told to accept and did not release. -/
structure Consumer where
  lifecycle : Lifecycle
  accepted : List Event

inductive LifecycleCall where
  | observe (event : Event) (now : Timestamp)
  | release (id : ID)
  | expire (now : Timestamp)

namespace Consumer

def fresh : Consumer := ⟨.new, []⟩

variable (validKey : PubKey → Bool)

def step (consumer : Consumer) : LifecycleCall → Option Consumer
  | .observe event now =>
    let (next, decision) := consumer.lifecycle.observe validKey event now
    some ⟨next, if decision.outcome = .accept then event :: consumer.accepted
      else consumer.accepted⟩
  | .release id =>
    -- A release of an event that is not live does nothing.
    some ⟨consumer.lifecycle.release id, if id ∈ consumer.lifecycle.live then
      consumer.accepted.filter (·.id ≠ id) else consumer.accepted⟩
  | .expire now => some { consumer with lifecycle := (consumer.lifecycle.expire now).1 }

/-- A release forgets a head only when no other accepted version of its coordinate is
still with the consumer. -/
def keepsFloor (consumer : Consumer) : LifecycleCall → Bool
  | .release id =>
    match consumer.lifecycle.live.get id with
    | some entry =>
      consumer.accepted.all fun other =>
        entry.address == none || addressOf other != entry.address || other.id == id
    | none => true
  | _ => true

def KeepsFloor (consumer : Consumer) (call : LifecycleCall) : Prop :=
  consumer.keepsFloor call = true

/-- Every accepted version is at or below its coordinate's head. -/
def Floored (consumer : Consumer) : Prop :=
  ∀ event ∈ consumer.accepted, consumer.lifecycle.Floors event

theorem floored_fresh : Floored fresh := by
  intro event member
  cases member

theorem observe_floored (floored : Floored consumer)
    (taken : consumer.step validKey (.observe event now) = some next) : Floored next := by
  simp only [step, Option.some.injEq] at taken
  subst taken
  have observed := consumer.lifecycle.observe_observed validKey event now
  intro other member
  split at member
  · rename_i accepts
    rcases List.mem_cons.mp member with equal | earlier
    · rw [equal]
      exact Lifecycle.floors_accepted observed accepts
    · exact Lifecycle.floors_observed observed (floored other earlier)
  · exact Lifecycle.floors_observed observed (floored other member)

theorem release_floored {consumer next : Consumer} {id : ID} (floored : Floored consumer)
    (keeps : consumer.KeepsFloor (.release id))
    (taken : consumer.step validKey (.release id) = some next) : Floored next := by
  simp only [step, Option.some.injEq] at taken
  subst taken
  intro other member
  unfold Lifecycle.release
  cases found : consumer.lifecycle.live.get id with
  | none =>
    rw [if_neg (by simp [mem_def, found])] at member
    exact floored other member
  | some entry =>
    rw [if_pos (mem_of_get found)] at member
    obtain ⟨earlier, different⟩ := List.mem_filter.mp member
    have apart : entry.address ≠ none → addressOf other ≠ entry.address := by
      intro placed same
      simp only [KeepsFloor, keepsFloor, found, List.all_eq_true] at keeps
      have checked := keeps other earlier
      simp only [Bool.or_eq_true, beq_iff_eq, bne_iff_ne] at checked
      rcases checked with (unplaced | elsewhere) | equal
      · exact placed unplaced
      · exact elsewhere same
      · exact absurd equal (of_decide_eq_true different)
    intro place here
    obtain ⟨head, present, below⟩ := floored other earlier place here
    refine ⟨head, ?_, below⟩
    dsimp only
    split
    · rename_i address placed
      split
      · split
        · have elsewhere : address ≠ place := by
            intro same
            apply apart (by rw [placed]; exact nofun)
            rw [here, placed, same]
          rw [get_delete_of_ne _ elsewhere]
          exact present
        · exact present
      · exact present
    · exact present

theorem step_floored (floored : Floored consumer) (keeps : consumer.KeepsFloor call)
    (taken : consumer.step validKey call = some next) : Floored next := by
  cases call with
  | observe => exact observe_floored validKey floored taken
  | release => exact release_floored validKey floored keeps taken
  | expire now =>
    cases Option.some.inj taken
    intro other member
    exact Lifecycle.floors_kept (Lifecycle.expireDue_kept now _ _ _) (floored other member)

/-- In a run that releases a head only when nothing else accepted on its coordinate is
left, whatever is accepted after an accepted version on its coordinate supersedes it. -/
theorem accepted_supersedes_accepted {calls : List LifecycleCall} {consumer : Consumer}
    (guarded : Along (step validKey) KeepsFloor fresh calls)
    (executed : run (step validKey) fresh calls = some consumer)
    {earlier later : Event} (held : earlier ∈ consumer.accepted)
    {address : Address} (located : addressOf earlier = some address)
    (same : addressOf later = some address) (now : Timestamp)
    (accepted : (consumer.lifecycle.observe validKey later now).2.outcome = .accept) :
    (versionOf later).supersedes (versionOf earlier) = true := by
  have floored : Floored consumer :=
    run_invariant (fun state call next => step_floored validKey) floored_fresh guarded executed
  obtain ⟨head, found, below⟩ := floored earlier held address located
  cases consumer.lifecycle.observe_observed validKey later now with
  | accepted there outcome newer =>
    rw [same] at there
    cases there
    rcases below with equal | above
    · exact equal ▸ newer head found
    · exact Version.supersedes_trans (newer head found) above
  | kept kept outcome => exact absurd accepted (outcome address same)

end Consumer

def stateVersion (id : Byte) (createdAt : Timestamp) : Event :=
  sampleEvent (FixedBytes.ofByte 31 id) createdAt 30900 [["d", "api"]]

namespace Consumer

/-- The first version is released while nothing else is accepted, and an older one takes its place. -/
theorem accepted_supersedes_accepted_second :
    ∃ consumer, run (step fun _ => true) fresh
        [.observe (stateVersion 1 10) 100, .release (stateVersion 1 10).id,
          .observe (stateVersion 2 8) 100, .observe (stateVersion 4 20) 100] = some consumer ∧
      consumer.accepted = [stateVersion 4 20, stateVersion 2 8] ∧
      (consumer.lifecycle.observe (fun _ => true) (stateVersion 3 30) 100).2.outcome = .accept ∧
      (versionOf (stateVersion 3 30)).supersedes (versionOf (stateVersion 2 8)) = true := by
  have guarded : Along (step fun _ => true) KeepsFloor fresh
      [.observe (stateVersion 1 10) 100, .release (stateVersion 1 10).id,
        .observe (stateVersion 2 8) 100, .observe (stateVersion 4 20) 100] := along_of_check rfl
  have held : ∀ newer older : Event, older ∈ [newer, older] := fun newer older =>
    List.mem_cons_of_mem _ List.mem_cons_self
  refine ⟨_, rfl, rfl, rfl, ?_⟩
  exact accepted_supersedes_accepted (fun _ => true) guarded rfl (held _ _) rfl rfl 100 rfl

/-- The consumer keeps the first version, releases the second one it failed to apply, and
an event older than both is accepted. -/
theorem released_head_accepts_older :
    ∃ consumer, run (step fun _ => true) fresh
        [.observe (stateVersion 1 10) 100, .observe (stateVersion 2 20) 100,
          .release (stateVersion 2 20).id] = some consumer ∧
      stateVersion 1 10 ∈ consumer.accepted ∧
      addressOf (stateVersion 3 5) = addressOf (stateVersion 1 10) ∧
      (addressOf (stateVersion 1 10)).isSome = true ∧
      (consumer.lifecycle.observe (fun _ => true) (stateVersion 3 5) 100).2.outcome = .accept ∧
      (versionOf (stateVersion 3 5)).supersedes (versionOf (stateVersion 1 10)) = false := by
  refine ⟨_, rfl, ?_, rfl, rfl, rfl, ?_⟩
  · exact List.mem_singleton.mpr rfl
  · decide

end Consumer

end Bahia.Nostrutil
