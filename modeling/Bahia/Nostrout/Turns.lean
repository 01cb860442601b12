import Bahia.Nostrout.Slots

/-! The turns of operations: the slot holds the one live operation, the queue holds the ones
that have not had their turn, and ids tell who came first. -/

namespace Bahia.Nostrout
open Foundation

/-- An operation that holds the slot: activated and not yet closed. -/
def Operation.live (operation : Operation) : Bool := operation.activated && !operation.closed

/-- The turn of an operation agrees with the slot, the queue and the stage of its call. -/
structure Operation.Turn (holder : Option Nat) (queue : List Nat) (id : Nat)
    (operation : Operation) : Prop where
  live_iff : operation.live = true ↔ holder = some id
  waiting : id ∈ queue → operation.activated = false ∧ ∃ wake, operation.stage = .queued wake
  pending : operation.activated = false → id ∈ queue ∨ operation.stage = .refused
  ahead : operation.activated = true → ∀ next ∈ queue, id < next
  returned : operation.stage = .returned → operation.activated = true
  abandoning : ∀ cause, operation.stage = .abandoning cause → operation.activated = true
  refused : operation.stage = .refused → operation.live = false
  closed : operation.closed = true → operation.activated = true

variable {id : Nat} {operation : Operation}

section
variable (turn : operation.Turn holder queue id)
include turn

theorem Operation.Turn.shift
    (live : operation.live = true ↔ next = some id) (listed : id ∈ rest ↔ id ∈ queue)
    (ahead : operation.activated = true → ∀ other ∈ rest, id < other) :
    operation.Turn next rest id :=
  ⟨live, fun queued => turn.waiting (listed.mp queued),
    fun inactive => (turn.pending inactive).imp_left listed.mpr, ahead, turn.returned,
    turn.abandoning, turn.refused, turn.closed⟩

theorem Operation.Turn.beside (dead : operation.live = false)
    (passed : next ≠ some id) (shrunk : ∀ other ∈ rest, other ∈ queue)
    (stays : id ∈ queue → id ∈ rest) : operation.Turn next rest id := by
  refine turn.shift ?_ ⟨shrunk id, stays⟩ fun active other queued =>
    turn.ahead active other (shrunk other queued)
  rw [dead]
  exact ⟨nofun, fun same => absurd same passed⟩

theorem Operation.Turn.ended (active : operation.activated = true) (passed : next ≠ some id)
    (shrunk : ∀ other ∈ rest, other ∈ queue) :
    Operation.Turn next rest id { operation with closed := true } := by
  have dead : Operation.live { operation with closed := true } = false := by
    rw [Operation.live, Bool.not_true, Bool.and_false]
  refine ⟨?_, ?_, ?_, ?_, turn.returned, turn.abandoning, fun _ => dead, fun _ => active⟩
  · rw [dead]
    exact ⟨nofun, fun same => absurd same passed⟩
  · intro queued
    exact nomatch active.symm.trans (turn.waiting (shrunk id queued)).1
  · intro inactive
    exact nomatch active.symm.trans inactive
  · intro _ other queued
    exact turn.ahead active other (shrunk other queued)

end

theorem Operation.Turn.takeOver (turn : operation.Turn holder queue id) (listed : id ∈ queue)
    (first : ∀ other ∈ rest, id < other) :
    (operation.activate limits now).Turn (some id) rest id := by
  obtain ⟨inactive, wake, stage⟩ := turn.waiting listed
  have running : operation.closed = false := by
    apply Bool.eq_false_iff.mpr
    intro closed
    exact nomatch inactive.symm.trans (turn.closed closed)
  refine ⟨⟨fun _ => rfl, fun _ => ?_⟩, ?_, nofun, fun _ => first, fun _ => rfl, fun _ _ => rfl, ?_,
    fun _ => rfl⟩
  · rw [Operation.live, Operation.activate, running]
    rfl
  · intro queued
    exact absurd (first id queued) (lt_irrefl _)
  · intro refused
    exact nomatch stage.symm.trans refused

namespace Slots
variable {slots : Slots} {limits : Limits} {id other : Nat}
variable {operation row : Operation}

/-- Turns are taken in the order of entering, and the slot is never free while others wait. -/
structure Fair (limits : Limits) (slots : Slots) : Prop where
  turns : ∀ (id : Nat) (operation : Operation), slots.operations[id]? = some operation →
    operation.Turn slots.operation slots.operationQueue id
  known : ∀ id, slots.operation = some id ∨ id ∈ slots.operationQueue → id < slots.operations.length
  sorted : slots.operationQueue.Pairwise (· < ·)
  idle : slots.operation = none → slots.operationQueue = []
  bounded : (slots.operationQueue.length : Int) ≤ limits.maxQueuedOperations

theorem get_update (slots : Slots) (id : Nat) (change : Operation → Operation) (other : Nat) :
    (slots.update id change).operations[other]? =
      if id = other then (slots.operations[other]?).map change else slots.operations[other]? := by
  unfold update
  rw [List.getElem?_modify]
  split <;> simp

theorem get_update_cases (found : (slots.update id change).operations[other]? = some row) :
    ∃ operation, slots.operations[other]? = some operation ∧
      row = if id = other then change operation else operation := by
  rw [get_update] at found
  split at found
  · obtain ⟨operation, held, changed⟩ := Option.map_eq_some_iff.mp found
    rename_i same
    exact ⟨operation, held, by rw [if_pos same, changed]⟩
  · rename_i different
    exact ⟨row, found, by rw [if_neg different]⟩

theorem length_update (slots : Slots) (id : Nat) (change : Operation → Operation) :
    (slots.update id change).operations.length = slots.operations.length :=
  List.length_modify _ _ _

namespace Fair

theorem fresh (limits : Limits) : Fair limits Slots.fresh where
  turns _ _ found := by simp [Slots.fresh] at found
  known := by rintro id (held | queued) <;> contradiction
  sorted := .nil
  idle _ := rfl
  bounded := limits.maxQueuedOperations_pos.le

variable (fair : Fair limits slots)
include fair

section
variable (first : slots.operations[id]? = some operation)
  (second : slots.operations[other]? = some row)
include first second

theorem unique (live : operation.live = true) (also : row.live = true) : id = other :=
  Option.some.inj (((fair.turns id operation first).live_iff.mp live).symm.trans
    ((fair.turns other row second).live_iff.mp also))

/-- Whoever came before an operation that had its turn has had it too, or gave up. -/
theorem fifo (earlier : id < other)
    (taken : row.activated = true) : operation.activated = true ∨ operation.stage = .refused := by
  cases turn : operation.activated with
  | true => exact .inl rfl
  | false =>
    rcases (fair.turns id operation first).pending turn with waiting | refused
    · have before := (fair.turns other row second).ahead taken id waiting
      omega
    · exact .inr refused

end

theorem update (turn : ∀ operation, slots.operations[id]? = some operation →
      operation.Turn slots.operation slots.operationQueue id →
        (change operation).Turn slots.operation slots.operationQueue id) :
    Fair limits (slots.update id change) := by
  refine ⟨?_, ?_, fair.sorted, fair.idle, fair.bounded⟩
  · intro other row found
    obtain ⟨operation, held, equal⟩ := get_update_cases found
    have before := fair.turns other operation held
    rw [equal]
    split
    · rename_i same
      subst same
      exact turn operation held before
    · exact before
  · intro other
    rw [length_update]
    exact fair.known other

theorem update_sent (activated : ∀ operation, (change operation).activated = operation.activated)
    (closed : ∀ operation, (change operation).closed = operation.closed)
    (stage : ∀ operation, (change operation).stage = operation.stage) :
    Fair limits (slots.update id change) := by
  apply fair.update
  intro operation _ turn
  have live : (change operation).live = operation.live := by
    rw [Operation.live, activated, closed, Operation.live]
  constructor
  · rw [live]
    exact turn.live_iff
  · rw [activated, stage]
    exact turn.waiting
  · rw [activated, stage]
    exact turn.pending
  · rw [activated]
    exact turn.ahead
  · rw [activated, stage]
    exact turn.returned
  · rw [activated, stage]
    exact turn.abandoning
  · rw [live, stage]
    exact turn.refused
  · rw [activated, closed]
    exact turn.closed

theorem update_stage (stage : OperationStage)
    (turned : ∀ operation, slots.operations[id]? = some operation → operation.activated = true)
    (refusal : stage = .refused →
      ∀ operation, slots.operations[id]? = some operation → operation.live = false) :
    Fair limits (slots.update id fun operation => { operation with stage }) := by
  apply fair.update
  intro operation found turn
  have active := turned operation found
  refine ⟨turn.live_iff, ?_, ?_, turn.ahead, fun _ => active, fun _ _ => active, ?_, turn.closed⟩
  · intro queued
    exact nomatch active.symm.trans (turn.waiting queued).1
  · intro inactive
    exact nomatch active.symm.trans inactive
  · intro refused
    exact refusal refused operation found

theorem enter (entered : slots.enter limits now maxEvents maxWait = .ok next) :
    Fair limits next := by
  unfold Slots.enter at entered
  split at entered
  · rename_i free
    obtain ⟨none, empty⟩ := free
    cases entered
    refine ⟨?_, ?_, .nil, nofun, limits.maxQueuedOperations_pos.le⟩
    · intro other row found
      rcases getElem?_concat_cases found with ⟨old, inside⟩ | ⟨rfl, rfl⟩
      · have turn := fair.turns other row old
        rw [none, empty] at turn
        refine turn.shift ?_ Iff.rfl fun _ => nofun
        constructor
        · intro live
          exact nomatch turn.live_iff.mp live
        · intro same
          cases same
          exact absurd inside (lt_irrefl _)
      · exact ⟨⟨fun _ => rfl, fun _ => rfl⟩, nofun, nofun, fun _ => nofun, fun _ => rfl, nofun,
          nofun, nofun⟩
    · rintro other (held | queued)
      · cases held
        simp
      · exact nomatch queued
  · rename_i taken
    split at entered
    · cases entered
    rename_i room
    cases entered
    have older : ∀ id ∈ slots.operationQueue, id < slots.operations.length :=
      fun id queued => fair.known id (.inr queued)
    refine ⟨?_, ?_, ?_, ?_, ?_⟩
    · intro other row found
      rcases getElem?_concat_cases found with ⟨old, inside⟩ | ⟨rfl, rfl⟩
      · have turn := fair.turns other row old
        refine turn.shift turn.live_iff ⟨?_, List.mem_append_left _⟩ ?_
        · intro queued
          rcases List.mem_append.mp queued with before | last
          · exact before
          · exact absurd inside (by rw [List.mem_singleton.mp last]; exact lt_irrefl _)
        · intro active next queued
          rcases List.mem_append.mp queued with before | last
          · exact turn.ahead active next before
          · rw [List.mem_singleton.mp last]
            exact inside
      · refine ⟨?_, fun _ => ⟨rfl, _, rfl⟩, fun _ => .inl ?_, nofun, nofun, nofun, nofun, nofun⟩
        · constructor
          · nofun
          · intro held
            exact absurd (fair.known _ (.inl held)) (lt_irrefl _)
        · exact List.mem_append_right _ (List.mem_singleton_self _)
    · intro other known
      rw [List.length_append]
      rcases known with held | queued
      · exact Nat.lt_add_right 1 (fair.known other (.inl held))
      rcases List.mem_append.mp queued with before | last
      · exact Nat.lt_add_right 1 (older other before)
      · rw [List.mem_singleton.mp last]
        exact Nat.lt_succ_self _
    · rw [List.pairwise_append]
      refine ⟨fair.sorted, List.pairwise_singleton _ _, ?_⟩
      intro id queued last member
      rw [List.mem_singleton.mp member]
      exact older id queued
    · intro none
      exact absurd ⟨none, fair.idle none⟩ taken
    · rw [List.length_append, List.length_singleton]
      exact not_le.mp room

theorem abandon (found : slots.operations[id]? = some operation)
    (cause : Failure) : Fair limits (slots.abandon id operation cause) := by
  have same {row : Operation} (held : slots.operations[id]? = some row) : row = operation :=
    Option.some.inj (held.symm.trans found)
  unfold Slots.abandon
  split
  · rename_i active
    apply fair.update_stage
    · intro row held
      rw [same held]
      exact active
    · exact nofun
  · rename_i inactive
    have shrunk : ∀ next, next ∈ slots.operationQueue.erase id → next ∈ slots.operationQueue :=
      fun next => List.mem_of_mem_erase
    have unlisted : id ∉ slots.operationQueue.erase id := by
      have distinct : slots.operationQueue.Nodup := fair.sorted.imp fun less => less.ne
      exact distinct.not_mem_erase
    refine ⟨?_, ?_, fair.sorted.sublist List.erase_sublist, ?_, ?_⟩
    · intro other row held
      obtain ⟨before, old, equal⟩ := get_update_cases held
      have turn := fair.turns other before old
      rw [equal]
      split
      · rename_i here
        subst here
        rw [same old] at turn ⊢
        have dead : operation.live = false := by
          rw [Operation.live, Bool.eq_false_iff.mpr inactive, Bool.false_and]
        exact ⟨turn.live_iff, fun queued => absurd queued unlisted, fun _ => .inr rfl,
          fun active => absurd active inactive, nofun, nofun, fun _ => dead, turn.closed⟩
      · rename_i elsewhere
        exact turn.shift turn.live_iff (List.mem_erase_of_ne (Ne.symm elsewhere))
          fun active next queued => turn.ahead active next (shrunk _ queued)
    · intro other known
      rw [length_update]
      rcases known with held | queued
      · exact fair.known other (.inl held)
      · exact fair.known other (.inr (shrunk _ queued))
    · intro none
      rw [fair.idle none, List.erase_nil]
    · have shorter := List.length_erase_le (a := id) (l := slots.operationQueue)
      have bound := fair.bounded
      show ((slots.operationQueue.erase id).length : Int) ≤ _
      omega

theorem close (found : slots.operations[id]? = some operation)
    (active : operation.activated = true) : Fair limits (slots.close limits now id) := by
  unfold Slots.close
  rw [found]
  dsimp only
  split
  · exact fair
  rename_i running
  have live : operation.live = true := by
    rw [Operation.live, active, Bool.eq_false_iff.mpr running]
    rfl
  have turn := fair.turns id operation found
  have holds := turn.live_iff.mp live
  rw [if_neg (not_not_intro holds)]
  have dead {other : Nat} {row : Operation} (held : slots.operations[other]? = some row)
      (different : id ≠ other) : row.live = false := by
    apply Bool.eq_false_iff.mpr
    intro also
    exact different (fair.unique found held live also)
  cases queue : slots.operationQueue with
  | nil =>
    refine ⟨?_, ?_, ?_, fun _ => queue, ?_⟩
    · intro other row held
      obtain ⟨before, old, equal⟩ := get_update_cases held
      rw [equal]
      show Operation.Turn none slots.operationQueue other _
      split
      · rename_i same
        subst same
        rw [Option.some.inj (old.symm.trans found)]
        exact turn.ended active nofun fun _ queued => queued
      · rename_i different
        exact (fair.turns other before old).beside (dead old different) nofun
          (fun _ queued => queued) (fun queued => queued)
    · intro other known
      rw [length_update]
      rcases known with held | queued
      · cases held
      · exact fair.known other (.inr queued)
    · exact fair.sorted
    · exact fair.bounded
  | cons next rest =>
    have sorted := fair.sorted
    rw [queue, List.pairwise_cons] at sorted
    have listed : next ∈ slots.operationQueue := by rw [queue]; exact List.mem_cons_self
    have shrunk : ∀ other ∈ rest, other ∈ slots.operationQueue := by
      intro other queued
      rw [queue]
      exact List.mem_cons_of_mem _ queued
    have later := turn.ahead active next listed
    refine ⟨?_, ?_, sorted.2, nofun, ?_⟩
    · intro other row held
      obtain ⟨middle, updated, equal⟩ := get_update_cases held
      obtain ⟨before, old, changed⟩ := @get_update_cases slots id other middle _ updated
      show Operation.Turn (some next) rest other row
      rw [equal, changed]
      by_cases isNext : next = other
      · subst isNext
        rw [if_pos rfl, if_neg later.ne]
        exact (fair.turns next before old).takeOver listed sorted.1
      rw [if_neg isNext]
      have passed : some next ≠ some other := fun same => isNext (Option.some.inj same)
      split
      · rename_i same
        subst same
        rw [Option.some.inj (old.symm.trans found)]
        exact turn.ended active passed shrunk
      · rename_i different
        apply (fair.turns other before old).beside (dead old different) passed shrunk
        intro queued
        rw [queue] at queued
        exact List.mem_of_ne_of_mem (Ne.symm isNext) queued
    · intro other known
      rw [length_update]
      show other < (slots.update id _).operations.length
      rw [length_update]
      apply fair.known other
      rcases known with held | queued
      · cases held
        exact .inr listed
      · exact .inr (shrunk other queued)
    · have bound := fair.bounded
      rw [queue, List.length_cons] at bound
      push_cast at bound
      show (rest.length : Int) ≤ _
      omega

end Fair

end Slots

end Bahia.Nostrout
