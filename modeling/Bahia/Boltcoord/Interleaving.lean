import Bahia.Foundation.Runs
import Bahia.Boltcoord.TagReads

/-! Overlapping calls of `Save`, `Replace` and `Delete`: each is a sequence of transactions,
any of which may fail, and a crash drops the calls. -/

namespace Bahia.Boltcoord
open Foundation Nostr Boltdb Bucket List

inductive Transaction where
  | index (event : Event)
  | saveEvent (event : Event)
  /-- `unindexUnstored` reads whether the event is held. -/
  | held (event : Event)
  | unindex (event : Event)
  | deleteEvent (event : Event)
  /-- `Replace` reads the versions of the coordinate. -/
  | versions (event : Event)
  | replaceEvent (event : Event) (current : List Event)

inductive Request where
  | save (event : Event)
  | delete (event : Event)
  | replace (event : Event)

def Request.transactions : Request → List Transaction
  | .save event => [.index event, .saveEvent event]
  | .delete event => [.deleteEvent event, .unindex event]
  | .replace event => [.versions event]

def deleteEach (events : List Event) : List Transaction :=
  events.flatMap fun older => [.deleteEvent older, .unindex older]

section Model
variable (sha256 : Bytes → FixedBytes 32) (index : Index) (scan : Store → Scan)

/-- One transaction of a call with the ones after it: what is stored, and what the call has
left to do. A write fails unless it is `ok`. -/
def Store.perform (st : Store) (ok : Bool) (rest : List Transaction) :
    Transaction → Store × List Transaction
  | .index event => if ok then (st.indexTags sha256 event, rest) else (st, [])
  | .saveEvent event =>
    if ok then
      match st.backend.saveEvent event with
      | some backend => ({ st with backend := backend }, [])
      | none => (st, [])
    else (st, [.held event])
  | .held event => if event.id ∈ st.backend.events then (st, []) else (st, [.unindex event])
  | .unindex event => if ok then (st.unindexTags sha256 event, rest) else (st, [])
  | .deleteEvent event =>
    if ok then ({ st with backend := st.backend.deleteEvent event.id }, rest) else (st, [])
  | .versions event =>
    let c := coordinateOf event
    let current := versions (scan st) c 0 (if c.dIndexed then some 1 else none)
    if current.head?.any fun newest => !isOlder newest event then (st, [])
    else (st, [.index event, .replaceEvent event current])
  | .replaceEvent event current =>
    if ok then
      let (backend, replaced) := st.backend.replaceEvent index event
      ({ st with backend := backend }, replaced.map .unindex ++
        if (coordinateOf event).dIndexed then [] else deleteEach current)
    else (st, [.held event])

structure Call where
  request : Request
  left : List Transaction

structure System where
  store : Store
  calls : List Call

inductive Action where
  | start (request : Request)
  | advance (call : Nat) (ok : Bool)
  | crash

def System.step (system : System) : Action → Option System
  | .start request => some { system with calls := system.calls ++ [⟨request, request.transactions⟩] }
  | .advance call ok =>
    match system.calls[call]? with
    | some ⟨request, transaction :: rest⟩ =>
      let (store, left) := system.store.perform sha256 index scan ok rest transaction
      some ⟨store, system.calls.set call ⟨request, left⟩⟩
    | _ => none
  | .crash => some { system with calls := [] }

end Model

/-- Every held event has its rows in the tag index. -/
def Complete (sha256 : Bytes → FixedBytes 32) (st : Store) : Prop :=
  ∀ event, st.backend.Holds event → ∀ row ∈ tagKeys sha256 event, row ∈ st.tags

/-- The events a call is going to unindex without deleting them first. -/
def unindexes : List Transaction → List ID
  | [] => []
  | .unindex event :: rest => event.id :: unindexes rest
  | .deleteEvent event :: rest => (unindexes rest).filter (· ≠ event.id)
  | _ :: rest => unindexes rest

/-- The events a call is going to write without indexing them first. -/
def writes : List Transaction → List Event
  | [] => []
  | .saveEvent event :: rest => event :: writes rest
  | .replaceEvent event _ :: rest => event :: writes rest
  | .index event :: rest => (writes rest).filter (· ≠ event)
  | _ :: rest => writes rest

/-- The transaction does not meet another call on the same event: no event is written that
another call removed or missed and will unindex, and none is unindexed that another call
indexed and will write. -/
def Transaction.Apart (transaction : Transaction) (other : List Transaction) : Prop :=
  match transaction with
  | .saveEvent event => event.id ∉ unindexes other
  | .replaceEvent event _ => event.id ∉ unindexes other
  | .unindex event => ∀ written ∈ writes other, written.id ≠ event.id
  | _ => True

/-- Each step keeps apart from the other calls. -/
def System.Apart (system : System) : Action → Prop
  | .advance call _ => ∀ request transaction rest,
      system.calls[call]? = some ⟨request, transaction :: rest⟩ →
        ∀ position other, position ≠ call → system.calls[position]? = some other →
          transaction.Apart other.left
  | _ => True

/-- A `Replace` starts when no other on the coordinate is running. -/
def System.Serialised (system : System) : Action → Prop
  | .start (.replace event) => ∀ call ∈ system.calls, ∀ other, call.request = .replace other →
      coordinateOf other = coordinateOf event → call.left = []
  | _ => True

section Transactions
variable {sha256 : Bytes → FixedBytes 32} {index : Index} {scan : Store → Scan} {st : Store}

theorem id_of_row (one : row ∈ tagKeys sha256 first) (other : row ∈ tagKeys sha256 second) :
    first.id = second.id := by
  obtain ⟨_, _, _, _, firstShort, _, firstMade⟩ := mem_tagKeys.mp one
  obtain ⟨_, _, _, _, secondShort, _, secondMade⟩ := mem_tagKeys.mp other
  have ends := append_inj_right' (firstMade.symm.trans secondMade)
    (first.id.2.trans second.id.2.symm)
  exact Subtype.ext ends

theorem unindexes_append_each (replaced current : List Event) :
    unindexes (replaced.map .unindex ++ deleteEach current) = replaced.map Event.id := by
  have nothing : unindexes (deleteEach current) = [] := by
    induction current with
    | nil => rfl
    | cons older rest ih =>
      have step : deleteEach (older :: rest) =
          .deleteEvent older :: .unindex older :: deleteEach rest := rfl
      simp [step, unindexes, ih]
  induction replaced with
  | nil => exact nothing
  | cons older rest ih => simp [unindexes, ih]

def Transaction.removes : Transaction → Bool
  | .unindex _ => true
  | .deleteEvent _ => true
  | _ => false

theorem writes_of_removes (removing : ∀ transaction ∈ left, transaction.removes = true) :
    writes left = [] := by
  induction left with
  | nil => rfl
  | cons transaction rest ih =>
    have later := ih fun other member => removing other (mem_cons_of_mem _ member)
    have first := removing transaction mem_cons_self
    cases transaction with
    | unindex | deleteEvent => exact later
    | index | saveEvent | held | versions | replaceEvent => cases first

theorem replaceEvent_frame (index : Index) (b : BoltBackend) (event : Event) :
    (∀ other, (b.replaceEvent index event).1.Holds other → other = event ∨ b.Holds other) ∧
      ∀ older ∈ (b.replaceEvent index event).2, older.id ∉ (b.replaceEvent index event).1.events := by
  by_cases known : event.id ∈ b.events
  · have same : b.replaceEvent index event = (b, []) := if_pos known
    rw [same]
    exact ⟨fun _ held => .inr held, fun _ member => absurd member not_mem_nil⟩
  unfold BoltBackend.replaceEvent
  rw [if_neg known]
  dsimp only
  have stored : ∀ older ∈ (b.query index (BoltBackend.versionFilter event) 10).filter
      (isOlder · event), older.id ∈ b.events := by
    intro older member
    have read := mem_of_mem_take (mem_of_mem_filter member)
    exact (BoltBackend.mem_found.mp read).1.mem
  generalize (b.query index (BoltBackend.versionFilter event) 10).filter (isOlder · event) = deleted
    at stored ⊢
  have free : event.id ∉ (deleted.foldl (fun b older => b.deleteEvent older.id) b).events := by
    intro member
    obtain ⟨stored, same, held⟩ := BoltBackend.holds_of_mem member
    exact known (same ▸ (BoltBackend.deleteEvents_holds.mp held).1.mem)
  have cleared : ∀ other, (deleted.foldl (fun b older => b.deleteEvent older.id) b).Holds other →
      b.Holds other ∧ ∀ older ∈ deleted, older.id ≠ other.id :=
    fun other held => BoltBackend.deleteEvents_holds.mp held
  split
  · constructor
    · intro other held
      rcases (BoltBackend.put_holds free).mp held with same | before
      · exact .inl same
      · exact .inr (cleared other before).1
    · intro older member inside
      obtain ⟨found, same, held⟩ := BoltBackend.holds_of_mem inside
      rcases (BoltBackend.put_holds free).mp held with equal | before
      · rw [equal] at same
        exact known (same ▸ stored older member)
      · exact (cleared found before).2 older member same.symm
  · constructor
    · intro other held
      exact .inr (cleared other held).1
    · intro older member inside
      obtain ⟨stored, same, held⟩ := BoltBackend.holds_of_mem inside
      exact (cleared stored held).2 older member same.symm

/-- What a transaction can do to the store and to the rest of its call. -/
inductive Performed (sha256 : Bytes → FixedBytes 32) (index : Index) (st : Store)
    (rest : List Transaction) : Transaction → Store × List Transaction → Prop
  | stopped (transaction : Transaction) : Performed sha256 index st rest transaction (st, [])
  | indexed (event : Event) :
      Performed sha256 index st rest (.index event) (st.indexTags sha256 event, rest)
  | saved (event : Event) (fresh : event.id ∉ st.backend.events) :
      Performed sha256 index st rest (.saveEvent event) ({ st with backend := st.backend.put event }, [])
  | unsaved (event : Event) : Performed sha256 index st rest (.saveEvent event) (st, [.held event])
  | missed (event : Event) (gone : event.id ∉ st.backend.events) :
      Performed sha256 index st rest (.held event) (st, [.unindex event])
  | unindexed (event : Event) :
      Performed sha256 index st rest (.unindex event) (st.unindexTags sha256 event, rest)
  | deleted (event : Event) : Performed sha256 index st rest (.deleteEvent event)
      ({ st with backend := st.backend.deleteEvent event.id }, rest)
  | read (event : Event) (current : List Event) : Performed sha256 index st rest (.versions event)
      (st, [.index event, .replaceEvent event current])
  | replaced (event : Event) (current later : List Event) :
      Performed sha256 index st rest (.replaceEvent event current)
        ({ st with backend := (st.backend.replaceEvent index event).1 },
          (st.backend.replaceEvent index event).2.map .unindex ++ deleteEach later)
  | unreplaced (event : Event) (current : List Event) :
      Performed sha256 index st rest (.replaceEvent event current) (st, [.held event])

theorem perform_performed (ok : Bool) (rest : List Transaction) (transaction : Transaction) :
    Performed sha256 index st rest transaction (st.perform sha256 index scan ok rest transaction) := by
  cases transaction with
  | index event =>
    cases ok with
    | true => exact .indexed event
    | false => exact .stopped _
  | saveEvent event =>
    cases ok with
    | true =>
      simp only [Store.perform, BoltBackend.saveEvent, if_true]
      by_cases known : event.id ∈ st.backend.events
      · rw [if_pos known]
        exact .stopped _
      · rw [if_neg known]
        exact .saved event known
    | false => exact .unsaved event
  | held event =>
    simp only [Store.perform]
    split
    · exact .stopped _
    next gone => exact .missed event gone
  | unindex event =>
    cases ok with
    | true => exact .unindexed event
    | false => exact .stopped _
  | deleteEvent event =>
    cases ok with
    | true => exact .deleted event
    | false => exact .stopped _
  | versions event =>
    simp only [Store.perform]
    generalize versions (scan st) (coordinateOf event) 0
      (if (coordinateOf event).dIndexed then some 1 else none) = current
    split
    · exact .stopped _
    · exact .read event current
  | replaceEvent event current =>
    cases ok with
    | true =>
      simp only [Store.perform, if_true]
      split
      · exact .replaced event current []
      · exact .replaced event current current
    | false => exact .unreplaced event current

variable {transaction : Transaction}

section
variable (performed : Performed sha256 index st rest transaction result)
  (apart : transaction.Apart other)
include performed apart

theorem Performed.events {id : ID} (pending : id ∈ unindexes other)
    (gone : id ∉ st.backend.events) : id ∉ result.1.backend.events := by
  cases performed with
  | saved =>
    intro member
    rcases mem_put.mp member with same | before
    · exact apart (same ▸ pending)
    · exact gone before
  | deleted =>
    intro member
    exact gone (mem_delete.mp member).2
  | replaced event =>
    intro member
    obtain ⟨stored, same, held⟩ := BoltBackend.holds_of_mem member
    rcases (replaceEvent_frame _ st.backend event).1 stored held with equal | before
    · rw [equal] at same
      exact apart (same ▸ pending)
    · exact gone (same ▸ before.mem)
  | stopped | indexed | unsaved | missed | unindexed | read | unreplaced => exact gone

theorem Performed.rows (writing : event ∈ writes other) (listed : row ∈ tagKeys sha256 event)
    (stored : row ∈ st.tags) : row ∈ result.1.tags := by
  cases performed with
  | indexed => exact Store.mem_indexTags.mpr (.inl stored)
  | unindexed =>
    refine Store.mem_unindexTags.mpr ⟨stored, ?_⟩
    intro shared
    exact apart event writing (id_of_row listed shared)
  | stopped | saved | unsaved | missed | deleted | read | replaced | unreplaced => exact stored

end

/-- A running call: what it will unindex is not held, what it will write is indexed, and it
does not do both. -/
structure Sound (sha256 : Bytes → FixedBytes 32) (st : Store) (left : List Transaction) : Prop where
  gone : ∀ id ∈ unindexes left, id ∉ st.backend.events
  indexed : ∀ event ∈ writes left, ∀ row ∈ tagKeys sha256 event, row ∈ st.tags
  shaped : (∀ transaction ∈ left, transaction.removes = true) ∨
    ∀ transaction ∈ left, transaction.removes = false

theorem Sound.beside (sound : Sound sha256 st other)
    (performed : Performed sha256 index st rest transaction result) (apart : transaction.Apart other) :
    Sound sha256 result.1 other :=
  ⟨fun id pending => performed.events apart pending (sound.gone id pending),
    fun event writing row listed =>
      performed.rows apart writing listed (sound.indexed event writing row listed), sound.shaped⟩

theorem sound_nil : Sound sha256 st [] :=
  ⟨fun _ pending => absurd pending not_mem_nil,
    fun _ writing => absurd writing not_mem_nil, .inl fun _ member =>
      absurd member not_mem_nil⟩

theorem sound_held (event : Event) : Sound sha256 st [.held event] :=
  ⟨fun _ pending => absurd pending not_mem_nil,
    fun _ writing => absurd writing not_mem_nil, .inr (by simp [Transaction.removes])⟩

theorem Sound.tail (sound : Sound sha256 st (transaction :: rest)) :
    (∀ transaction ∈ rest, transaction.removes = true) ∨
      ∀ transaction ∈ rest, transaction.removes = false :=
  sound.shaped.imp (fun all other member => all other (mem_cons_of_mem _ member))
    fun all other member => all other (mem_cons_of_mem _ member)

/-- A transaction of a sound call leaves the call sound and every held event indexed. -/
theorem Sound.advance (sound : Sound sha256 st (transaction :: rest)) (complete : Complete sha256 st)
    (performed : Performed sha256 index st rest transaction result) :
    Sound sha256 result.1 result.2 ∧ Complete sha256 result.1 := by
  cases performed with
  | stopped => exact ⟨sound_nil, complete⟩
  | indexed event =>
    refine ⟨⟨sound.gone, ?_, sound.tail⟩, ?_⟩
    · intro written writing row listed
      by_cases same : written = event
      · exact Store.mem_indexTags.mpr (.inr (same ▸ listed))
      · refine Store.mem_indexTags.mpr (.inl (sound.indexed written ?_ row listed))
        exact mem_filter.mpr ⟨writing, decide_eq_true same⟩
    · intro held stored row listed
      exact Store.mem_indexTags.mpr (.inl (complete held stored row listed))
  | saved event fresh =>
    refine ⟨sound_nil, ?_⟩
    intro held stored row listed
    rcases (BoltBackend.put_holds fresh).mp stored with same | before
    · exact sound.indexed event mem_cons_self row (same ▸ listed)
    · exact complete held before row listed
  | unsaved event | unreplaced event => exact ⟨sound_held event, complete⟩
  | missed event gone =>
    refine ⟨⟨?_, fun _ writing => absurd writing not_mem_nil, .inl ?_⟩, complete⟩
    · intro id pending
      rw [mem_singleton.mp pending]
      exact gone
    · intro other member
      rw [mem_singleton.mp member]
      rfl
  | unindexed event =>
    -- A call that unindexes writes nothing, and the event it unindexes is not held.
    have removing : ∀ other ∈ Transaction.unindex event :: rest, other.removes = true := by
      rcases sound.shaped with removing | keeping
      · exact removing
      · cases keeping _ mem_cons_self
    have nothing : writes rest = [] :=
      writes_of_removes fun other member => removing other (mem_cons_of_mem _ member)
    refine ⟨⟨?_, ?_, sound.tail⟩, ?_⟩
    · intro id pending
      exact sound.gone id (mem_cons_of_mem _ pending)
    · rw [nothing]
      intro written writing
      cases writing
    · intro held stored row listed
      refine Store.mem_unindexTags.mpr ⟨complete held stored row listed, ?_⟩
      intro shared
      exact sound.gone event.id mem_cons_self (id_of_row listed shared ▸ stored.mem)
  | deleted =>
    refine ⟨⟨?_, sound.indexed, sound.tail⟩, ?_⟩
    · intro id pending member
      obtain ⟨different, before⟩ := mem_delete.mp member
      exact sound.gone id (mem_filter.mpr ⟨pending, decide_eq_true different⟩) before
    · intro held stored row listed
      exact complete held (BoltBackend.deleteEvent_holds.mp stored).1 row listed
  | read =>
    refine ⟨⟨?_, ?_, .inr ?_⟩, complete⟩
    · intro id pending
      cases pending
    · simp [writes]
    · simp [Transaction.removes]
  | replaced event current later =>
    obtain ⟨holds, gone⟩ := replaceEvent_frame _ st.backend event
    have removing : ∀ other ∈ (st.backend.replaceEvent index event).2.map Transaction.unindex ++
        deleteEach later, other.removes = true := by
      intro other member
      simp only [mem_append, mem_map, deleteEach, mem_flatMap, mem_pair] at member
      rcases member with ⟨older, _, same⟩ | ⟨older, _, same | same⟩
      · rw [← same]
        rfl
      · rw [same]
        rfl
      · rw [same]
        rfl
    refine ⟨⟨?_, ?_, .inl removing⟩, ?_⟩
    · rw [unindexes_append_each]
      intro id pending
      obtain ⟨older, member, same⟩ := mem_map.mp pending
      rw [← same]
      exact gone older member
    · rw [writes_of_removes removing]
      intro written writing
      cases writing
    · intro held stored row listed
      rcases holds held stored with same | before
      · exact sound.indexed event mem_cons_self row (same ▸ listed)
      · exact complete held before row listed

theorem sound_start (request : Request) : Sound sha256 st request.transactions := by
  cases request with
  | save | replace =>
    exact ⟨by simp [Request.transactions, unindexes], by simp [Request.transactions, writes],
      .inr (by simp [Request.transactions, Transaction.removes])⟩
  | delete =>
    exact ⟨by simp [Request.transactions, unindexes], by simp [Request.transactions, writes],
      .inl (by simp [Request.transactions, Transaction.removes])⟩

end Transactions

/-! A call that runs alone and meets no failure does what the store's function does at
once. -/

section Alone
variable {sha256 : Bytes → FixedBytes 32} {index : Index} {scan : Store → Scan}

theorem save_alone (st : Store) (event : Event) :
    run (System.step sha256 index scan) ⟨st, [⟨.save event, (Request.save event).transactions⟩]⟩
        [.advance 0 true, .advance 0 true] =
      some ⟨(st.save sha256 event).1, [⟨.save event, []⟩]⟩ := by
  by_cases known : event.id ∈ st.backend.events
  · have duplicate : st.backend.saveEvent event = none := if_pos known
    have again : (st.indexTags sha256 event).backend.saveEvent event = none := duplicate
    simp [run, System.step, Request.transactions, Store.perform, Store.save, again, duplicate]
  · have stored : st.backend.saveEvent event = some (st.backend.put event) := if_neg known
    have again : (st.indexTags sha256 event).backend.saveEvent event =
      some (st.backend.put event) := stored
    simp [run, System.step, Request.transactions, Store.perform, Store.save, again, stored]

theorem unindex_alone (replaced : List Event) :
    run (System.step sha256 index scan) ⟨st, [⟨request, replaced.map .unindex ++ rest⟩]⟩
        (List.replicate replaced.length (.advance 0 true)) =
      some ⟨replaced.foldl (fun st older => st.unindexTags sha256 older) st, [⟨request, rest⟩]⟩ := by
  induction replaced generalizing st with
  | nil => rfl
  | cons older others ih =>
    rw [length_cons, replicate_succ]
    exact ih

theorem deleteEach_alone (current : List Event) :
    run (System.step sha256 index scan) ⟨st, [⟨request, deleteEach current⟩]⟩
        (List.replicate (2 * current.length) (.advance 0 true)) =
      some ⟨current.foldl (fun st older => st.delete sha256 older) st, [⟨request, []⟩]⟩ := by
  induction current generalizing st with
  | nil => rfl
  | cons older others ih =>
    rw [length_cons, Nat.mul_succ, replicate_succ, replicate_succ]
    exact ih

theorem replace_alone (st : Store) (event : Event) :
    ∃ steps, run (System.step sha256 index scan)
        ⟨st, [⟨.replace event, (Request.replace event).transactions⟩]⟩
        (List.replicate steps (.advance 0 true)) =
      some ⟨(st.replace sha256 index (scan st) event).1, [⟨.replace event, []⟩]⟩ := by
  unfold Store.replace
  dsimp only
  generalize found : versions (scan st) (coordinateOf event) 0
    (if (coordinateOf event).dIndexed then some 1 else none) = current
  by_cases late : (current.head?.any fun newest => !isOlder newest event) = true
  · refine ⟨1, ?_⟩
    simp [run, System.step, Request.transactions, Store.perform, found, late]
  have written : run (System.step sha256 index scan)
      ⟨st, [⟨.replace event, (Request.replace event).transactions⟩]⟩
      (List.replicate 3 (.advance 0 true)) =
      some ⟨{ st.indexTags sha256 event with backend := (st.backend.replaceEvent index event).1 },
        [⟨.replace event, (st.backend.replaceEvent index event).2.map .unindex ++
          if (coordinateOf event).dIndexed then [] else deleteEach current⟩]⟩ := by
    simp [run, List.replicate, System.step, Request.transactions, Store.perform, found, late,
      Store.indexTags]
  rw [if_neg late]
  by_cases fast : (coordinateOf event).dIndexed = true
  · rw [if_pos fast] at written ⊢
    refine ⟨3 + (st.backend.replaceEvent index event).2.length, ?_⟩
    rw [replicate_add, run_append, written]
    exact unindex_alone _
  · rw [if_neg fast] at written ⊢
    refine ⟨3 + ((st.backend.replaceEvent index event).2.length + 2 * current.length), ?_⟩
    rw [replicate_add, run_append, written, Option.bind_some, replicate_add, run_append,
      unindex_alone, Option.bind_some]
    exact deleteEach_alone current

end Alone

section Runs
variable {sha256 : Bytes → FixedBytes 32} {index : Index} {scan : Store → Scan}

/-- Every held event is indexed and every running call is sound. -/
structure System.Consistent (sha256 : Bytes → FixedBytes 32) (system : System) : Prop where
  complete : Complete sha256 system.store
  sound : ∀ call ∈ system.calls, Sound sha256 system.store call.left

theorem System.Consistent.step {system next : System} {action : Action}
    (consistent : system.Consistent sha256) (apart : system.Apart action)
    (taken : system.step sha256 index scan action = some next) : next.Consistent sha256 := by
  cases action with
  | start request =>
    cases taken
    refine ⟨consistent.complete, ?_⟩
    intro call member
    rcases mem_append.mp member with running | started
    · exact consistent.sound call running
    · rw [mem_singleton.mp started]
      exact sound_start request
  | crash =>
    cases taken
    exact ⟨consistent.complete, fun call member => absurd member not_mem_nil⟩
  | advance call ok =>
    simp only [System.step] at taken
    split at taken
    next request transaction rest found =>
      cases taken
      have own := consistent.sound _ (mem_of_getElem? found)
      have performed : Performed sha256 index system.store rest transaction
          (system.store.perform sha256 index scan ok rest transaction) :=
        perform_performed ok rest transaction
      obtain ⟨sound, complete⟩ := own.advance consistent.complete performed
      refine ⟨complete, ?_⟩
      intro other member
      obtain ⟨position, listed⟩ := mem_iff_getElem?.mp member
      by_cases same : position = call
      · rw [same, List.getElem?_set_self (List.getElem?_eq_some_iff.mp found).1] at listed
        cases listed
        exact sound
      · rw [List.getElem?_set_ne (Ne.symm same)] at listed
        exact (consistent.sound other (mem_of_getElem? listed)).beside performed
          (apart request transaction rest found position other same listed)
    next => cases taken

end Runs

/-- In every interleaving whose steps keep apart from the other calls on the same event, every
held event has its rows in the tag index. -/
theorem interleaving_keeps_rows (sha256 : Bytes → FixedBytes 32) (index : Index) (scan : Store → Scan)
    (st : Store) (actions : List Action) (final : System) (complete : Complete sha256 st)
    (apart : Along (System.step sha256 index scan) System.Apart ⟨st, []⟩ actions)
    (executed : run (System.step sha256 index scan) ⟨st, []⟩ actions = some final) :
    Complete sha256 final.store := by
  have start : System.Consistent sha256 ⟨st, []⟩ :=
    ⟨complete, fun call member => absurd member not_mem_nil⟩
  exact (run_invariant (fun _ _ _ => System.Consistent.step) start apart executed).complete

/-- An event that only the tag index finds by its empty `r` tag. -/
def raceEvent : Event := sampleEvent (FixedBytes.ofByte 31 1) 10 1 [["r", ""]]

def emptyScan : Store → Scan := fun _ _ _ => []

def emptyStore : Store := ⟨BoltBackend.empty, ∅⟩

theorem emptyStore_complete (sha256 : Bytes → FixedBytes 32) : Complete sha256 emptyStore :=
  fun event held => absurd held (BoltBackend.not_empty_holds event)

def savedBeforeDelete : List Action :=
  [.start (.save raceEvent), .start (.delete raceEvent), .advance 0 true, .advance 0 true]

theorem System.apart_of_waiting (saving : ∀ transaction ∈ left, transaction.removes = false) :
    System.Apart ⟨st, [⟨request, left⟩, ⟨.delete raceEvent, (Request.delete raceEvent).transactions⟩]⟩
      (.advance 0 ok) := by
  intro own transaction rest found position other different listed
  have kept : transaction.removes = false := by
    cases found
    exact saving transaction mem_cons_self
  match position with
  | 0 => exact absurd rfl different
  | 1 =>
    cases listed
    cases transaction with
    | unindex => cases kept
    | saveEvent | replaceEvent => simp [Transaction.Apart, Request.transactions, unindexes]
    | index | held | deleteEvent | versions => trivial
  | position + 2 => cases listed

theorem interleaving_keeps_rows_saved :
    ∃ final, run (System.step sameHash BoltBackend.finds emptyScan) ⟨emptyStore, []⟩ savedBeforeDelete =
        some final ∧
      final.store.backend.events.get raceEvent.id = some raceEvent ∧ Complete sameHash final.store := by
  refine ⟨_, rfl, rfl, ?_⟩
  apply interleaving_keeps_rows sameHash BoltBackend.finds emptyScan emptyStore savedBeforeDelete _
    (emptyStore_complete sameHash) ?_ rfl
  refine ⟨trivial, ?_⟩
  rintro _ ⟨⟩
  refine ⟨trivial, ?_⟩
  rintro _ ⟨⟩
  refine ⟨System.apart_of_waiting (by simp [Request.transactions, Transaction.removes]), ?_⟩
  rintro _ ⟨⟩
  refine ⟨System.apart_of_waiting (by simp [Transaction.removes]), ?_⟩
  intro _ _
  trivial

/-- A delete that has yet to unindex, and a save of the event in between: the delete takes the
rows of the event the save stored. -/
theorem late_unindex_drops_rows :
    ¬ ∃ index : Index, ∀ (sha256 : Bytes → FixedBytes 32) (scan : Store → Scan) (st : Store)
        (actions : List Action) (final : System), Complete sha256 st →
      Along (System.step sha256 index scan) System.Serialised ⟨st, []⟩ actions →
      run (System.step sha256 index scan) ⟨st, []⟩ actions = some final → Complete sha256 final.store := by
  rintro ⟨index, claimed⟩
  let actions : List Action := [.start (.save raceEvent), .advance 0 true, .advance 0 true,
    .start (.delete raceEvent), .advance 1 true,
    .start (.save raceEvent), .advance 2 true, .advance 2 true, .advance 1 true]
  obtain ⟨final, executed, held, rows⟩ : ∃ final,
      run (System.step sameHash index emptyScan) ⟨emptyStore, []⟩ actions = some final ∧
        final.store.backend.events.get raceEvent.id = some raceEvent ∧ final.store.tags.keys = [] :=
    ⟨_, rfl, rfl, by decide +kernel⟩
  have serialised : Along (System.step sameHash index emptyScan) System.Serialised
      ⟨emptyStore, []⟩ actions := by
    refine ⟨trivial, fun _ _ => ⟨trivial, fun _ _ => ⟨trivial, fun _ _ => ⟨trivial, fun _ _ =>
      ⟨trivial, fun _ _ => ⟨trivial, fun _ _ => ⟨trivial, fun _ _ => ⟨trivial, fun _ _ =>
        ⟨trivial, fun _ _ => trivial⟩⟩⟩⟩⟩⟩⟩⟩⟩
  have complete := claimed sameHash emptyScan emptyStore actions final (emptyStore_complete sameHash)
    serialised executed
  obtain ⟨row, listed⟩ : ∃ row, row ∈ tagKeys sameHash raceEvent :=
    ⟨_, mem_tagKeys.mpr ⟨"r", "", [], mem_cons_self, rfl, rfl, rfl⟩⟩
  have stored := complete raceEvent held row listed
  rw [← Bucket.mem_keys, rows] at stored
  cases stored

end Bahia.Boltcoord
