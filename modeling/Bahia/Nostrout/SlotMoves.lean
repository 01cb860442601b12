import Bahia.Nostrout.Tallies

/-! What a step may do to the operations and their publications, and that it keeps the turns
fair and the tallies right. -/

namespace Bahia.Nostrout
open Foundation

/-- What a step may do to the operations and the publications. -/
inductive SlotMove (limits : Limits) (now : Instant) : Slots → List Permit → Slots → List Permit → Prop
  | same : SlotMove limits now slots permits slots permits
  | enters {maxEvents : Int} {maxWait : Duration} (positive : 1 ≤ maxEvents)
      (entered : slots.enter limits now maxEvents maxWait = .ok next) :
    SlotMove limits now slots permits next permits
  | readies {id : Nat} {operation : Operation}
      (found : slots.operations[id]? = some operation) (active : operation.activated = true) :
    SlotMove limits now slots permits
      (slots.update id fun operation => { operation with stage := .returned }) permits
  | abandons {id : Nat} {operation : Operation} (cause : Failure)
      (found : slots.operations[id]? = some operation) :
    SlotMove limits now slots permits (slots.abandon id operation cause) permits
  | releases {id : Nat} {operation : Operation} {cause : Failure}
      (found : slots.operations[id]? = some operation)
      (stage : operation.stage = .abandoning cause) :
    SlotMove limits now slots permits
      ((slots.close limits now id).update id fun operation => { operation with stage := .refused })
      permits
  | closes {id : Nat} {operation : Operation}
      (found : slots.operations[id]? = some operation) (stage : operation.stage = .returned) :
    SlotMove limits now slots permits (slots.close limits now id) permits
  | unclaims {id : Nat} {operation : Operation}
      (found : slots.operations[id]? = some operation)
      (claimed : slots.claim id operation = .ok next) :
    SlotMove limits now slots permits (next.unclaim id) permits
  | caches {id : Nat} {operation : Operation} {publication : Publication}
      (found : slots.operations[id]? = some operation)
      (claimed : slots.claim id operation = .ok next) (op : publication.op = some id) :
    SlotMove limits now slots permits (next.finish id none) (permits ++ [⟨publication, .returned⟩])
  | claims {id : Nat} {operation : Operation} {publication : Publication} {wake : Instant}
      (found : slots.operations[id]? = some operation)
      (claimed : slots.claim id operation = .ok next) (op : publication.op = some id) :
    SlotMove limits now slots permits next (permits ++ [⟨publication, .waiting wake⟩])
  | waits {publication : Publication} {wake : Instant} (index : Nat) (again : Instant)
      (held : permits[index]? = some ⟨publication, .waiting wake⟩) :
    SlotMove limits now slots permits slots (permits.set index ⟨publication, .waiting again⟩)
  | begins {id : Nat} {publication : Publication} {wake : Instant} (index generation : Nat)
      (held : permits[index]? = some ⟨publication, .waiting wake⟩) (op : publication.op = some id) :
    SlotMove limits now slots permits (slots.finish id (some index))
      (permits.set index ⟨{ publication with generation }, .returned⟩)
  | fails {id : Nat} {publication : Publication} {wake : Instant} (index : Nat)
      (held : permits[index]? = some ⟨publication, .waiting wake⟩) (op : publication.op = some id) :
    SlotMove limits now slots permits (slots.unclaim id)
      (permits.set index ⟨{ publication with registered := false }, .dropped⟩)
  | settles {publication : Publication} (index : Nat)
      (held : permits[index]? = some ⟨publication, .returned⟩) :
    SlotMove limits now slots permits
      (match publication.op with | none => slots | some id => slots.settle id index)
      (permits.set index ⟨{ publication with closed := true, registered := false }, .returned⟩)
  | alone {publication : Publication} (op : publication.op = none) :
    SlotMove limits now slots permits slots (permits ++ [⟨publication, .returned⟩])

variable {slots : Slots} {permits : List Permit}

namespace SlotMove

theorem fair (move : SlotMove limits now slots permits next later) (before : slots.Fair limits) :
    next.Fair limits := by
  cases move with
  | same | waits | alone => exact before
  | enters positive entered => exact before.enter entered
  | readies found active =>
    apply before.update_stage
    · intro row held
      exact Option.some.inj (held.symm.trans found) ▸ active
    · exact nofun
  | abandons cause found => exact before.abandon found cause
  | releases found stage =>
    have active := (before.turns _ _ found).abandoning _ stage
    apply (before.close found active).update_stage
    · intro row held
      exact (Slots.close_row found active held).2
    · intro _ row held
      exact (Slots.close_row found active held).1
  | closes found stage => exact before.close found ((before.turns _ _ found).returned stage)
  | unclaims found claimed => exact (before.claim claimed).unclaim
  | caches found claimed => exact (before.claim claimed).finish none
  | claims found claimed => exact before.claim claimed
  | begins index => exact before.finish (some index)
  | fails => exact before.unclaim
  | settles index =>
    split
    · exact before
    · exact before.settle index

variable {permit old : Permit} {index id : Nat}

theorem known_concat (before : Declared tallies permits)
    (new : ∀ id, permit.publication.op = some id → id < tallies.length) :
    ∀ other ∈ permits ++ [permit], ∀ id, other.publication.op = some id → id < tallies.length := by
  intro other member
  rcases List.mem_append.mp member with earlier | last
  · exact before.known other earlier
  · rw [List.mem_singleton.mp last]
    exact new

variable {new : Permit} {operation : Operation} {other : Nat}

theorem known_set (before : Declared tallies permits)
    (held : permits[index]? = some old) (same : new.publication.op = old.publication.op) :
    ∀ other ∈ permits.set index new, ∀ id, other.publication.op = some id → id < tallies.length := by
  intro other member
  rcases List.mem_or_eq_of_mem_set member with earlier | equal
  · exact before.known other earlier
  · rw [equal, same]
    exact before.known old (List.mem_of_getElem? held)

theorem tallies_of_found (found : slots.operations[id]? = some operation) :
    slots.tallies[id]? = some operation.tally := by
  rw [Slots.tallies, List.getElem?_map, found]
  rfl

theorem countP_concat (p : Permit → Bool) (permit : Permit) :
    (permits ++ [permit]).countP p = permits.countP p + if p permit then 1 else 0 := by
  rw [List.countP_append, List.countP_singleton]

theorem countP_set_same {p : Permit → Bool}
    (held : permits[index]? = some old) (same : p new = p old) :
    (permits.set index new).countP p = permits.countP p := by
  have counts := countP_set_of_get p held new
  rw [same] at counts
  exact Nat.add_right_cancel counts

theorem not_begunBy (op : permit.publication.op = some id)
    (different : id ≠ other) : ¬permit.begunBy other = true := by
  simp [Permit.begunBy, op, different]

theorem not_beginsFor (op : permit.publication.op = some id)
    (different : id ≠ other) : ¬permit.beginsFor other = true := by
  simp [Permit.beginsFor, op, different]

theorem replaced (before : Declared tallies permits)
    (held : permits[index]? = some old) (new : Permit)
    (op : new.publication.op = old.publication.op)
    (returned : (new.stage == .returned) = (old.stage == .returned))
    (waiting : new.stage.isWaiting = old.stage.isWaiting) :
    Declared tallies (permits.set index new) := by
  apply before.keep (known_set before held op)
  · intro id
    apply countP_set_same held
    rw [Permit.begunBy, op, returned, Permit.begunBy]
  · intro id
    apply countP_set_same held
    rw [Permit.beginsFor, op, waiting, Permit.beginsFor]

theorem joins (before : Declared tallies permits) (row : tallies[id]? = some tally)
    (idle : tally.busy = false) (room : tally.used < tally.maxEvents)
    (op : new.publication.op = some id) (either : new.stage.isWaiting = !(new.stage == .returned))
    (counts : (change tally).used = tally.used + (if (new.stage == .returned) = true then 1 else 0) ∧
      (change tally).busy = new.stage.isWaiting ∧ (change tally).maxEvents = tally.maxEvents) :
    Declared (tallies.modify id change) (permits ++ [new]) := by
  have begun : new.begunBy id = (new.stage == .returned) := by simp [Permit.begunBy, op]
  have begins : new.beginsFor id = new.stage.isWaiting := by simp [Permit.beginsFor, op]
  apply before.modify (known_concat before fun other named => ?_)
  · intro other different
    rw [countP_concat, if_neg (not_begunBy op different), Nat.add_zero]
  · intro other different
    rw [countP_concat, if_neg (not_beginsFor op different), Nat.add_zero]
  · intro held found balanced
    cases Option.some.inj (row.symm.trans found)
    obtain ⟨used, busy, most⟩ := counts
    refine ⟨?_, ?_, ?_⟩
    · rw [used, countP_concat, begun, balanced.used]
      push_cast
      rfl
    · rw [busy, countP_concat, begins, balanced.busy, idle]
      simp
    · rw [used, busy, most, either]
      cases new.stage == .returned <;> simp <;> omega
  · rw [← Option.some.inj (op.symm.trans named)]
    exact (List.getElem?_eq_some_iff.mp row).1

theorem beginEnds (before : Declared tallies permits)
    (held : permits[index]? = some ⟨publication, .waiting wake⟩) (op : publication.op = some id)
    (new : Permit) (same : new.publication.op = publication.op)
    (settled : new.stage.isWaiting = false) (counts : ∀ tally, (change tally).used =
        tally.used + (if (new.stage == .returned) = true then 1 else 0) ∧
      (change tally).busy = false ∧ (change tally).maxEvents = tally.maxEvents) :
    Declared (tallies.modify id change) (permits.set index new) := by
  have named : new.publication.op = some id := same.trans op
  apply before.modify (known_set before held same)
  · intro other different
    apply countP_set_same held
    rw [Bool.eq_false_iff.mpr (not_begunBy named different)]
    exact (Bool.eq_false_iff.mpr (not_begunBy op different)).symm
  · intro other different
    apply countP_set_same held
    rw [Bool.eq_false_iff.mpr (not_beginsFor named different)]
    exact (Bool.eq_false_iff.mpr (not_beginsFor op different)).symm
  · intro tally row balanced
    obtain ⟨used, free, most⟩ := counts tally
    have begins := countP_set_of_get (Permit.beginsFor id) held new
    have begun := countP_set_of_get (Permit.begunBy id) held new
    have was : Permit.beginsFor id ⟨publication, .waiting wake⟩ = true := by
      simp [Permit.beginsFor, op, PermitStage.isWaiting]
    have unbegun : ¬Permit.begunBy id ⟨publication, .waiting wake⟩ = true := by
      simp [Permit.begunBy]
    have isNot : ¬Permit.beginsFor id new = true := by
      simp [Permit.beginsFor, settled]
    have counted : Permit.begunBy id new = (new.stage == .returned) := by
      rw [Permit.begunBy, named, beq_self_eq_true, Bool.true_and]
    rw [if_pos was, if_neg isNot, balanced.busy] at begins
    rw [if_neg unbegun, counted] at begun
    have busy : tally.busy = true := by
      cases waits : tally.busy with
      | true => rfl
      | false =>
        rw [waits, if_neg Bool.false_ne_true] at begins
        omega
    have declared := balanced.declared
    rw [busy, if_pos rfl] at declared begins
    refine ⟨?_, ?_, ?_⟩
    · rw [used, balanced.used]
      split at begun
      · rename_i success
        rw [if_pos success]
        omega
      · rename_i failed
        rw [if_neg failed]
        omega
    · rw [free, if_neg Bool.false_ne_true]
      omega
    · rw [used, free, most, if_neg Bool.false_ne_true]
      split <;> omega

theorem declared (move : SlotMove limits now slots permits next later)
    (before : Declared slots.tallies permits) : Declared next.tallies later := by
  cases move with
  | same => exact before
  | enters positive entered =>
    rw [Slots.tallies_enter entered]
    exact before.concat positive
  | readies =>
    rw [Slots.tallies_update_same]
    · exact before
    · exact fun _ => rfl
  | abandons =>
    rw [Slots.tallies_abandon]
    exact before
  | releases =>
    rw [Slots.tallies_update_same, Slots.tallies_close]
    · exact before
    · exact fun _ => rfl
  | closes =>
    rw [Slots.tallies_close]
    exact before
  | unclaims found claimed =>
    obtain ⟨rfl, idle, _⟩ := Slots.claim_effect claimed
    rw [Slots.unclaim, Slots.tallies_update _ _ (fun tally => { tally with busy := false }) fun _ => rfl,
      Slots.tallies_update _ _ (fun tally => { tally with busy := true }) fun _ => rfl,
      List.modify_modify_eq]
    apply before.modify before.known (fun _ _ => rfl) fun _ _ => rfl
    intro tally row balanced
    have same := Option.some.inj ((tallies_of_found found).symm.trans row)
    have free : tally.busy = false := same ▸ idle
    exact ⟨balanced.used, by rw [balanced.busy, free]; rfl, by simpa [free] using balanced.declared⟩
  | caches found claimed op =>
    obtain ⟨rfl, idle, left⟩ := Slots.claim_effect claimed
    rw [Slots.finish, Slots.tallies_update _ _
      (fun tally => { tally with busy := false, used := tally.used + 1 }) fun _ => rfl,
      Slots.tallies_update _ _ (fun tally => { tally with busy := true }) fun _ => rfl,
      List.modify_modify_eq]
    exact joins before (tallies_of_found found) idle left op rfl ⟨rfl, rfl, rfl⟩
  | claims found claimed op =>
    obtain ⟨rfl, idle, left⟩ := Slots.claim_effect claimed
    rw [Slots.tallies_update _ _ (fun tally => { tally with busy := true }) fun _ => rfl]
    exact joins before (tallies_of_found found) idle left op rfl
      ⟨(Int.add_zero _).symm, rfl, rfl⟩
  | waits index again held => exact replaced before held _ rfl rfl rfl
  | begins index generation held op =>
    rw [Slots.finish, Slots.tallies_update _ _
      (fun tally => { tally with busy := false, used := tally.used + 1 }) fun _ => rfl]
    exact beginEnds before held op _ rfl rfl fun _ => ⟨rfl, rfl, rfl⟩
  | fails index held op =>
    rw [Slots.unclaim, Slots.tallies_update _ _ (fun tally => { tally with busy := false }) fun _ => rfl]
    exact beginEnds before held op _ rfl rfl fun _ => ⟨(Int.add_zero _).symm, rfl, rfl⟩
  | settles index held =>
    split
    · exact replaced before held _ rfl rfl rfl
    rw [Slots.settle, Slots.tallies_update_same]
    · exact replaced before held _ rfl rfl rfl
    · intro operation
      split <;> rfl
  | alone op =>
    apply before.keep (known_concat before (fun id named => by rw [op] at named; cases named))
    · intro id
      rw [countP_concat, if_neg (by simp [Permit.begunBy, op]), Nat.add_zero]
    · intro id
      rw [countP_concat, if_neg (by simp [Permit.beginsFor, op]), Nat.add_zero]

end SlotMove

end Bahia.Nostrout
