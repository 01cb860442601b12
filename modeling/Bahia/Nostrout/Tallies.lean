import Bahia.Nostrout.System
import Bahia.Nostrout.Turns

/-! What operations have begun, counted over the publications, and how the calls on the slot
change it. -/

namespace Bahia.Nostrout
open Foundation List

/-! ### What operations have begun -/

def PermitStage.isWaiting : PermitStage → Bool
  | .waiting _ => true
  | _ => false

def Permit.begunBy (id : Nat) (permit : Permit) : Bool :=
  permit.publication.op == some id && permit.stage == .returned

def Permit.beginsFor (id : Nat) (permit : Permit) : Bool :=
  permit.publication.op == some id && permit.stage.isWaiting

/-- What an operation counts of its publications. -/
structure Tally where
  used : Int
  busy : Bool
  maxEvents : Int

def Operation.tally (operation : Operation) : Tally :=
  ⟨operation.used, operation.busy, operation.maxEvents⟩

def Slots.tallies (slots : Slots) : List Tally := slots.operations.map Operation.tally

/-- A tally describes the publications and stays within what was declared. -/
structure Tally.Balanced (permits : List Permit) (id : Nat) (tally : Tally) : Prop where
  used : tally.used = permits.countP (Permit.begunBy id)
  busy : permits.countP (Permit.beginsFor id) = if tally.busy then 1 else 0
  declared : tally.used + (if tally.busy then 1 else 0) ≤ tally.maxEvents

structure Declared (tallies : List Tally) (permits : List Permit) : Prop where
  known : ∀ permit ∈ permits, ∀ id, permit.publication.op = some id → id < tallies.length
  balanced : ∀ (id : Nat) (tally : Tally), tallies[id]? = some tally → tally.Balanced permits id

namespace Declared
variable {tallies : List Tally} {permits later : List Permit} {id : Nat}

theorem keep (declared : Declared tallies permits)
    (known : ∀ permit ∈ later, ∀ id, permit.publication.op = some id → id < tallies.length)
    (begun : ∀ id, later.countP (Permit.begunBy id) = permits.countP (Permit.begunBy id))
    (begins : ∀ id, later.countP (Permit.beginsFor id) = permits.countP (Permit.beginsFor id)) :
    Declared tallies later where
  known := known
  balanced id tally found := by
    have before := declared.balanced id tally found
    refine ⟨?_, ?_, before.declared⟩
    · rw [begun]
      exact before.used
    · rw [begins]
      exact before.busy

theorem modify (declared : Declared tallies permits)
    (known : ∀ permit ∈ later, ∀ id, permit.publication.op = some id → id < tallies.length)
    (begun : ∀ other, id ≠ other →
      later.countP (Permit.begunBy other) = permits.countP (Permit.begunBy other))
    (begins : ∀ other, id ≠ other →
      later.countP (Permit.beginsFor other) = permits.countP (Permit.beginsFor other))
    (here : ∀ tally, tallies[id]? = some tally → tally.Balanced permits id →
      (change tally).Balanced later id) : Declared (tallies.modify id change) later := by
  refine ⟨?_, ?_⟩
  · intro permit member other op
    rw [length_modify]
    exact known permit member other op
  · intro other tally found
    rw [List.getElem?_modify] at found
    obtain ⟨before, old, equal⟩ := Option.map_eq_some_iff.mp found
    have balanced := declared.balanced other before old
    by_cases same : id = other
    · subst same
      rw [if_pos rfl] at equal
      exact equal ▸ here before old balanced
    rw [if_neg same] at equal
    rw [← equal]
    refine ⟨?_, ?_, balanced.declared⟩
    · rw [begun other same]
      exact balanced.used
    · rw [begins other same]
      exact balanced.busy

theorem concat (declared : Declared tallies permits) (positive : 1 ≤ maxEvents) :
    Declared (tallies ++ [⟨0, false, maxEvents⟩]) permits where
  known permit member id op := by
    rw [length_append]
    exact Nat.lt_add_right 1 (declared.known permit member id op)
  balanced id tally found := by
    rcases getElem?_concat_cases found with ⟨old, _⟩ | ⟨rfl, rfl⟩
    · exact declared.balanced id tally old
    have unknown : ∀ permit ∈ permits, (permit.publication.op == some tallies.length) = false := by
      intro permit member
      apply beq_eq_false_iff_ne.mpr
      intro named
      exact lt_irrefl _ (declared.known permit member _ named)
    have none (p : Permit → Bool)
        (only : ∀ permit, (permit.publication.op == some tallies.length) = false → p permit = false) :
        permits.countP p = 0 := by
      apply countP_eq_zero.mpr
      intro permit member
      rw [only permit (unknown permit member)]
      exact Bool.false_ne_true
    refine ⟨?_, ?_, by simpa using by omega⟩
    · rw [none _ fun permit other => by rw [Permit.begunBy, other, Bool.false_and]]
      rfl
    · rw [none _ fun permit other => by rw [Permit.beginsFor, other, Bool.false_and]]
      rfl

end Declared

namespace Slots
variable {slots next : Slots} {limits : Limits} {id : Nat} {operation : Operation}

theorem tallies_update (slots : Slots) (id : Nat) (count : Tally → Tally)
    (agree : ∀ operation, (change operation).tally = count operation.tally) :
    (slots.update id change).tallies = slots.tallies.modify id count := by
  apply ext_getElem?
  intro other
  unfold tallies
  rw [List.getElem?_map, get_update, List.getElem?_modify, List.getElem?_map]
  cases slots.operations[other]? with
  | none => simp
  | some =>
    by_cases same : id = other
    · simp [same, agree]
    · simp [same]

theorem tallies_update_same (slots : Slots) (id : Nat) (change : Operation → Operation)
    (same : ∀ operation, (change operation).tally = operation.tally) :
    (slots.update id change).tallies = slots.tallies := by
  have kept : (slots.tallies.modify id fun tally => tally) = slots.tallies := modify_id _ _
  rw [tallies_update slots id (fun tally => tally) same, kept]

theorem tallies_close (slots : Slots) (limits : Limits) (now : Instant) (id : Nat) :
    (slots.close limits now id).tallies = slots.tallies := by
  have closed := tallies_update_same slots id (fun operation => { operation with closed := true })
    fun _ => rfl
  unfold Slots.close
  split
  · rfl
  split
  · rfl
  split
  · exact closed
  split
  · exact closed
  · rw [tallies_update_same _ _ (Operation.activate limits now) fun _ => rfl]
    exact closed

theorem tallies_abandon (slots : Slots) (id : Nat) (operation : Operation) (cause : Failure) :
    (slots.abandon id operation cause).tallies = slots.tallies := by
  unfold Slots.abandon
  split
  · exact tallies_update_same _ _ _ fun _ => rfl
  · exact tallies_update_same slots id (fun operation => { operation with stage := .refused })
      fun _ => rfl

theorem tallies_enter (entered : slots.enter limits now maxEvents maxWait = .ok next) :
    next.tallies = slots.tallies ++ [⟨0, false, maxEvents⟩] := by
  unfold Slots.enter at entered
  split at entered
  · cases entered
    exact map_append
  split at entered
  · cases entered
  · cases entered
    exact map_append

theorem claim_effect (claimed : slots.claim id operation = .ok next) :
    next = slots.update id (fun operation => { operation with busy := true }) ∧
      operation.busy = false ∧ operation.used < operation.maxEvents := by
  unfold Slots.claim at claimed
  split at claimed
  · cases claimed
  split at claimed
  · cases claimed
  split at claimed
  · cases claimed
  rename_i idle
  split at claimed
  · cases claimed
  rename_i left
  cases claimed
  refine ⟨rfl, ?_, not_le.mp left⟩
  cases busy : operation.busy with
  | false => rfl
  | true => exact absurd (by rw [busy, Bool.true_or]) idle

section
variable (fair : slots.Fair limits)
include fair

theorem Fair.claim (claimed : slots.claim id operation = .ok next) : next.Fair limits := by
  obtain ⟨rfl, _⟩ := claim_effect claimed
  exact fair.update_sent (fun _ => rfl) (fun _ => rfl) fun _ => rfl

theorem Fair.unclaim : (slots.unclaim id).Fair limits :=
  fair.update_sent (fun _ => rfl) (fun _ => rfl) fun _ => rfl

theorem Fair.finish (outstanding : Option Nat) : (slots.finish id outstanding).Fair limits :=
  fair.update_sent (fun _ => rfl) (fun _ => rfl) fun _ => rfl

theorem Fair.settle (permit : Nat) : (slots.settle id permit).Fair limits := by
  apply fair.update_sent
  all_goals
    intro operation
    split <;> rfl

end

theorem close_row (found : slots.operations[id]? = some operation)
    (active : operation.activated = true)
    (held : (slots.close limits now id).operations[id]? = some row) :
    row.live = false ∧ row.activated = true := by
  have shut {row : Operation}
      (held : (slots.update id fun operation => { operation with closed := true }).operations[id]? =
        some row) : row.closed = true ∧ row.activated = true := by
    obtain ⟨before, old, equal⟩ := get_update_cases held
    rw [equal, if_pos rfl, Option.some.inj (old.symm.trans found)]
    exact ⟨rfl, active⟩
  have ended (result : row.closed = true ∧ row.activated = true) :
      row.live = false ∧ row.activated = true := by
    rw [Operation.live, result.1, Bool.not_true, Bool.and_false]
    exact ⟨rfl, result.2⟩
  apply ended
  unfold Slots.close at held
  rw [found] at held
  dsimp only at held
  split at held
  · rename_i closed
    rw [Option.some.inj (held.symm.trans found)]
    exact ⟨closed, active⟩
  split at held
  · exact shut held
  split at held
  · exact shut held
  obtain ⟨before, old, equal⟩ := get_update_cases held
  obtain ⟨closed, turned⟩ := shut old
  rw [equal]
  split
  · exact ⟨closed, rfl⟩
  · exact ⟨closed, turned⟩

end Slots

end Bahia.Nostrout
