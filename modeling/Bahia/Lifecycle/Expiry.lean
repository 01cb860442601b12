import Bahia.Lifecycle.Floor

/-! The expiry heap is cleaned lazily: items of entries that were dropped, replaced or
released stay in it. Every live entry that expires has an item of its own, which is enough
for `Expire` and `NextExpiry` to be exact. -/

namespace Bahia.Nostrutil
open Foundation Nostr Bucket List

def Entry.due (entry : Entry) (now : Timestamp) : Bool :=
  0 < entry.expiresAt && entry.expiresAt ≤ now

/-- The heap is ordered, and every live entry that expires has its item there. -/
structure Timed (live : Bucket ID Entry) (items : List ExpiryItem) : Prop where
  own : ∀ id entry, live.get id = some entry → entry.id = id
  ordered : items.Pairwise fun first second => first.atTime ≤ second.atTime
  set : ∀ item ∈ items, 0 < item.atTime
  queued : ∀ id entry, live.get id = some entry → 0 < entry.expiresAt →
    ⟨entry.expiresAt, id⟩ ∈ items

structure Expires (cutoff : Timestamp) (live left : Bucket ID Entry) (gone : List Entry) : Prop where
  left : left = live.filter fun entry => !entry.due cutoff
  once : gone.Nodup
  due : ∀ entry, entry ∈ gone ↔ entry ∈ live.values ∧ entry.due cutoff = true

section Items
variable {live left : Bucket ID Entry} {rest : List ExpiryItem}
  {cutoff : Timestamp} {gone : List Entry} {entry : Entry}

theorem Timed.winnowed (timed : Timed live items)
    (kept : ∀ id entry, fewer.get id = some entry → live.get id = some entry) :
    Timed fewer items := by
  obtain ⟨own, ordered, set, queued⟩ := timed
  refine ⟨?_, ordered, set, ?_⟩ <;> grind

theorem Timed.pop (timed : Timed live (item :: rest))
    (stale : ∀ entry, live.get item.id = some entry → entry.expiresAt ≠ item.atTime) :
    Timed live rest := by
  obtain ⟨own, ordered, set, queued⟩ := timed
  refine ⟨own, ordered.tail, by grind, ?_⟩
  intro id entry found positive
  have queued := queued id entry found positive
  grind

theorem Timed.track {l : Lifecycle} (timed : Timed l.live l.expiries) (entry : Entry) :
    Timed (l.track entry).live (l.track entry).expiries := by
  obtain ⟨own, ordered, set, queued⟩ := timed
  unfold Lifecycle.track
  split
  · refine ⟨?_, ordered, set, ?_⟩ <;> grind [get_put]
  · refine ⟨?_, ordered.orderedInsert _ _, ?_, ?_⟩ <;>
      grind [get_put, mem_orderedInsert]

theorem Timed.expires_nothing (timed : Timed live items)
    (later : ∀ item ∈ items, cutoff < item.atTime) : Expires cutoff live live [] := by
  have spared (id : ID) (entry : Entry) (found : live.get id = some entry) :
      entry.due cutoff = false := by
    have queued := timed.queued id entry found
    grind [Entry.due]
  refine ⟨?_, .nil, by grind [mem_values]⟩
  apply Bucket.ext
  intro id
  rw [get_filter]
  cases found : live.get id with
  | none => rfl
  | some entry => simp [Option.filter, spared id entry found]

theorem Expires.cons (own : ∀ id other, live.get id = some other → other.id = id)
    (found : live.get entry.id = some entry) (due : entry.due cutoff = true)
    (rest : Expires cutoff (live.delete entry.id) left gone) :
    Expires cutoff live left (entry :: gone) := by
  have others (other : Entry) : other ∈ (live.delete entry.id).values ↔
      other ∈ live.values ∧ other ≠ entry := by
    refine ⟨by grind [mem_values, get_delete], fun ⟨member, different⟩ => ?_⟩
    exact mem_values_delete_of_ne member (by grind)
  refine ⟨?_, by grind [rest.once, rest.due], by grind [rest.due, mem_values]⟩
  rw [rest.left]
  apply Bucket.ext
  intro id
  grind [get_filter, get_delete, Option.filter]

end Items

namespace Lifecycle
variable {l : Lifecycle}

theorem expireDue_exact (cutoff : Timestamp) (before : List Entry) (timed : Timed l.live items) :
    Timed (expireDue cutoff items l before).1.live (expireDue cutoff items l before).1.expiries ∧
      ∃ gone, (expireDue cutoff items l before).2 = before ++ gone ∧
        Expires cutoff l.live (expireDue cutoff items l before).1.live gone := by
  induction items generalizing l before with
  | nil => exact ⟨timed, [], by simp [expireDue], timed.expires_nothing (by simp)⟩
  | cons item rest ih =>
    unfold expireDue
    split
    · split
      · rename_i entry found
        split
        · have own : entry.id = item.id := timed.own item.id entry found
          have ends : entry.due cutoff = true := by grind [Entry.due, timed.set]
          have popped : Timed (l.drop entry).live rest :=
            (timed.winnowed (l.drop_winnows entry).live).pop fun _ there =>
              absurd own.symm (get_delete_cases there).1
          obtain ⟨after, gone, returned, expires⟩ := ih (before ++ [entry]) popped
          exact ⟨after, entry :: gone, by simp [returned], .cons timed.own (own ▸ found) ends expires⟩
        · exact ih before (timed.pop (by grind))
      · exact ih before (timed.pop (by grind))
    · refine ⟨timed, [], by simp, timed.expires_nothing ?_⟩
      have ordered := (pairwise_cons.mp timed.ordered).1
      grind

def expirations (l : Lifecycle) : Set Timestamp :=
  {time | 0 < time ∧ ∃ entry ∈ l.live.values, entry.expiresAt = time}

theorem expirations_queued (timed : Timed l.live items) (expires : time ∈ l.expirations) :
    ∃ id, ⟨time, id⟩ ∈ items := by
  obtain ⟨positive, entry, member, rfl⟩ := expires
  obtain ⟨id, found⟩ := mem_values.mp member
  exact ⟨id, timed.queued id entry found positive⟩

theorem earliest_exact (timed : Timed l.live items) :
    Timed (earliest items l).1.live (earliest items l).1.expiries ∧
      match (earliest items l).2 with
      | some time => IsLeast l.expirations time
      | none => l.expirations = ∅ := by
  induction items with
  | nil =>
    refine ⟨timed, Set.eq_empty_iff_forall_notMem.mpr fun time expires => ?_⟩
    simpa using expirations_queued timed expires
  | cons item rest ih =>
    unfold earliest
    split
    · rename_i entry found
      split
      · rename_i current
        have ordered := (pairwise_cons.mp timed.ordered).1
        refine ⟨timed, ⟨timed.set item mem_cons_self, entry,
          mem_values.mpr ⟨_, found⟩, current⟩, ?_⟩
        intro time expires
        obtain ⟨id, member⟩ := expirations_queued timed expires
        rcases mem_cons.mp member with here | behind
        · exact (congrArg ExpiryItem.atTime here).ge
        · exact ordered _ behind
      · exact ih (timed.pop (by grind))
    · exact ih (timed.pop (by grind))

variable (validKey : PubKey → Bool)

/-- The states that calls lead to; a deletion request is an observed event. -/
inductive Reachable : Lifecycle → Prop
  | new : Reachable .new
  | observe {l : Lifecycle} (event : Event) (now : Timestamp) (before : Reachable l) :
    Reachable (l.observe validKey event now).1
  | release {l : Lifecycle} (id : ID) (before : Reachable l) : Reachable (l.release id)
  | expire {l : Lifecycle} (now : Timestamp) (before : Reachable l) : Reachable (l.expire now).1
  | nextExpiry {l : Lifecycle} (before : Reachable l) : Reachable l.nextExpiry.1

theorem observe_timed (timed : Timed l.live l.expiries) (event : Event) (now : Timestamp) :
    Timed (l.observe validKey event now).1.live (l.observe validKey event now).1.expiries := by
  have accepted (live : Bucket ID Entry) (address : Address) (kept : Timed live l.expiries) :
      Timed ({ l with live := live }.accept event address).live
        ({ l with live := live }.accept event address).expiries :=
    Timed.track (l := { l with live := live, heads := _ }) kept _
  unfold observe
  split
  · exact timed
  split
  · rename_i deletion _
    have winnows := applyDeletion_winnows l deletion
    exact winnows.expiries ▸ timed.winnowed winnows.live
  split
  · exact timed
  split
  · unfold observeState
    split
    · exact timed
    split
    · exact accepted l.live _ timed
    split
    · exact timed
    split
    · exact timed
    split
    · exact accepted _ _ (timed.winnowed (by grind [get_delete]))
    · exact accepted l.live _ timed
  · split
    · split
      · exact timed
      · exact timed.track _
    · exact timed

theorem reachable_timed (reached : Reachable validKey l) : Timed l.live l.expiries := by
  induction reached with
  | new => refine ⟨?_, .nil, ?_, ?_⟩ <;> simp [Lifecycle.new]
  | observe event now _ ih => exact observe_timed validKey ih event now
  | release id _ ih =>
    unfold release
    split
    · exact ih
    · exact ih.winnowed (by grind [get_delete])
  | expire now _ ih => exact (expireDue_exact now [] ih).1
  | nextExpiry _ ih => exact (earliest_exact ih).1

/-- `Expire` removes and returns exactly the due entries, each once, and `NextExpiry` is the
least expiration of a live entry. -/
theorem expiry_exact (reached : Reachable validKey l) (now : Timestamp) :
    Expires now l.live (l.expire now).1.live (l.expire now).2 ∧
      match l.nextExpiry.2 with
      | some time => IsLeast l.expirations time
      | none => l.expirations = ∅ := by
  have timed := reachable_timed validKey reached
  obtain ⟨_, gone, returned, expires⟩ := expireDue_exact now [] timed
  rw [expire, returned]
  exact ⟨expires, (earliest_exact timed).2⟩

def expiringVersion (id : Byte) (createdAt : Timestamp) (d expiration : String) : Event :=
  { stateVersion id createdAt with tags := [["d", d], ["expiration", expiration]] }

/-- The heap still has the item of a version that was replaced. -/
def afterReplacement : Lifecycle :=
  [expiringVersion 1 10 "api" "40", expiringVersion 3 10 "web" "90", expiringVersion 2 11 "api" "50"].foldl
    (fun l event => (l.observe (fun _ => true) event 20).1) .new

theorem expiry_exact_brief : Reachable (fun _ => true) afterReplacement ∧
    afterReplacement.expiries.map (·.atTime) = [40, 50, 90] ∧
    Expires 60 afterReplacement.live (afterReplacement.expire 60).1.live
      [entryOf (expiringVersion 2 11 "api" "50")] ∧
    IsLeast afterReplacement.expirations 50 := by
  have reached : Reachable (fun _ => true) afterReplacement :=
    .observe _ 20 (.observe _ 20 (.observe _ 20 .new))
  have items : afterReplacement.expiries.map (·.atTime) = [40, 50, 90] ∧
      (afterReplacement.expire 60).2 = [entryOf (expiringVersion 2 11 "api" "50")] ∧
      afterReplacement.nextExpiry.2 = some 50 := by decide +kernel
  obtain ⟨expires, least⟩ := expiry_exact (fun _ => true) reached 60
  rw [items.2.1] at expires
  rw [items.2.2] at least
  exact ⟨reached, items.1, expires, least⟩

end Lifecycle

end Bahia.Nostrutil
