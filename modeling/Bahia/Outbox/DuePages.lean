import Bahia.Outbox.DueIndex
import Bahia.Outbox.StatusRounds

/-! The pages of requests that are due. A walk that hands every page's cursor to the next
call visits each request due by then once, in the order of the deadlines. -/

namespace Bahia.Localstore
open Foundation Nostr

/-- The instant a due key starts with; adding the sign bit back undoes the flip. -/
def backupRunDueAt (key : Bytes) : Time :=
  some (SInt64.wrap ((key.take 8).foldl (fun (total : Int) byte => total * 256 + byte.val) 0 +
    2 ^ 63))

/-- One page, the cursor after it and the first deadline still ahead. -/
structure DuePage where
  records : List BackupRunPending
  next : Bytes
  nextWake : Time

/-- The waiting request that a due key names, if the key is its current one. -/
def Outbox.dueRecord (tx : Outbox) (key : Bytes) : Option BackupRunPending := do
  let intentID ← tx.backupPending.keys.find? fun intentID => utf8 intentID == key.drop 8
  let record ← tx.backupPending.get intentID
  if record.state = .pending ∧ utf8 record.intentID = key.drop 8 ∧ backupRunDueKey record = key then
    some record
  else none

/-- The keys that a cursor visits once it is past `after`. -/
def seekPast (after : Bytes) (keys : List Bytes) : List Bytes :=
  match keys.dropWhile (· < after) with
  | [] => []
  | key :: rest => if key = after then rest else key :: rest

def Outbox.dueFrom (tx : Outbox) (after : Bytes) : List Bytes :=
  if after = [] then tx.due.keys else seekPast after tx.due.keys

def inconsistentDueKey (key : Bytes) : String :=
  "backup run due index " ++
    quote ((String.fromUTF8? ⟨((key.drop 8).map UInt8.ofFin).toArray⟩).getD "") ++
    " is inconsistent"

/-- The cursor loop: the remaining keys, the page so far and its last key. -/
def Outbox.duePage (tx : Outbox) (now : Time) (limit : Nat) :
    List Bytes → List BackupRunPending → Bytes → Except String DuePage
  | [], records, _ => .ok ⟨records, [], none⟩
  | key :: rest, records, next => do
    refuse (key.length < 9) "backup run due index has malformed key"
    if records.length < limit then
      if Time.after (backupRunDueAt key) now then
        -- the loop returns here without clearing the cursor
        return ⟨records, next, backupRunDueAt key⟩
      else do
        let record ← require (tx.dueRecord key) (inconsistentDueKey key)
        tx.duePage now limit rest (records ++ [record]) key
    else if Time.after (backupRunDueAt key) now then return ⟨records, [], backupRunDueAt key⟩
    else return ⟨records, next, none⟩

def duePageLimit (limit : Int) : Nat := if limit ≤ 0 ∨ 500 < limit then 100 else limit.toNat

def listBackupRunPendingDue (tx : Outbox) (after : Bytes) (now : Time) (limit : Int) :
    Except String DuePage :=
  tx.duePage now (duePageLimit limit) (tx.dueFrom after) [] []

/-- Listing from `after` and then from each returned cursor, until one is empty. -/
inductive DueWalk (tx : Outbox) (now : Time) (limit : Int) : Bytes → List BackupRunPending → Prop
  | last {after : Bytes} {page : DuePage}
    (listed : listBackupRunPendingDue tx after now limit = .ok page) (ended : page.next = []) :
    DueWalk tx now limit after page.records
  | more {after : Bytes} {page : DuePage} {later : List BackupRunPending}
    (listed : listBackupRunPendingDue tx after now limit = .ok page) (unfinished : page.next ≠ [])
    (walk : DueWalk tx now limit page.next later) :
    DueWalk tx now limit after (page.records ++ later)

theorem duePageLimit_pos (limit : Int) : 0 < duePageLimit limit := by
  unfold duePageLimit
  split <;> omega

/-! ### One page -/

variable {request : BackupRunPending} {key : Bytes}

theorem backupRunDueAt_key (received : request.receivedAt.isSome = true) :
    backupRunDueAt (backupRunDueKey request) = request.dueAt := by
  obtain ⟨nanos, due⟩ := dueAt_some received
  have fits : (request.dueAt.unixNano.toUint64 + 2 ^ 63) % 2 ^ 64 < 256 ^ 8 :=
    Nat.mod_lt _ (by norm_num)
  rw [backupRunDueAt, backupRunDueKey_eq, List.take_left' (bigEndian_length _ _),
    bigEndian_foldl _ _ fits, SInt64.wrap_flip, due]
  rfl

theorem seekPast_split (sorted : (before ++ key :: rest).Pairwise (· < ·)) :
    seekPast key (before ++ key :: rest) = rest := by
  have earlier : ∀ other ∈ before, decide (other < key) = true := by
    intro other member
    exact decide_eq_true ((List.pairwise_append.mp sorted).2.2 other member key (by simp))
  rw [seekPast, List.dropWhile_append_of_pos earlier,
    List.dropWhile_cons_of_neg (by simp)]
  exact if_pos rfl

variable {tx : Outbox} {now : Time}

/-- The keys a page returns, and where it leaves the cursor: at the last of them, or cleared
once no key that is due remains. -/
theorem duePage_split (keys : List Bytes)
    (sound : ∀ key ∈ keys, 9 ≤ key.length ∧ (tx.dueRecord key).isSome = true)
    (ordered : keys.Pairwise fun first second =>
      Time.after (backupRunDueAt first) now = true → Time.after (backupRunDueAt second) now = true)
    (records : List BackupRunPending) (next : Bytes)
    (started : next = [] → records.length < limit) :
    ∃ taken rest page, keys = taken ++ rest ∧
      tx.duePage now limit keys records next = .ok page ∧
      page.records = records ++ taken.filterMap tx.dueRecord ∧
      (∀ key ∈ taken, Time.after (backupRunDueAt key) now = false) ∧
      (page.next = [] → ∀ key ∈ rest, Time.after (backupRunDueAt key) now = true) ∧
      (page.next ≠ [] → page.next = taken.getLast?.getD next) := by
  induction keys generalizing records next with
  | nil =>
    exact ⟨[], [], ⟨records, [], none⟩, rfl, rfl, by simp, nofun, nofun,
      fun left => absurd rfl left⟩
  | cons key rest ih =>
    obtain ⟨⟨long, present⟩, later⟩ := List.forall_mem_cons.mp sound
    obtain ⟨first, restOrdered⟩ := List.pairwise_cons.mp ordered
    obtain ⟨record, found⟩ := Option.isSome_iff_exists.mp present
    have formed : decide (key.length < 9) = false := decide_eq_false (by omega)
    cases future : Time.after (backupRunDueAt key) now with
    | true =>
      have ahead : ∀ other ∈ key :: rest, Time.after (backupRunDueAt other) now = true := by
        intro other member
        rcases List.mem_cons.mp member with same | tail
        · rw [same]
          exact future
        · exact first other tail future
      by_cases room : records.length < limit
      · refine ⟨[], key :: rest, ⟨records, next, backupRunDueAt key⟩, rfl, ?_, by simp, nofun,
          fun _ => ahead, fun _ => rfl⟩
        simp [Outbox.duePage, refuse, formed, room, future, pure, Except.pure, bind, Except.bind]
      · refine ⟨[], key :: rest, ⟨records, [], backupRunDueAt key⟩, rfl, ?_, by simp, nofun,
          fun _ => ahead, fun left => absurd rfl left⟩
        simp [Outbox.duePage, refuse, formed, room, future, pure, Except.pure, bind, Except.bind]
    | false =>
      by_cases room : records.length < limit
      · have named : key = [] → (records ++ [record]).length < limit := by
          intro empty
          simp [empty] at long
        obtain ⟨taken, remaining, page, split, listed, filled, due, cleared, kept⟩ :=
          ih later restOrdered (records ++ [record]) key named
        refine ⟨key :: taken, remaining, page, by rw [split]; rfl, ?_, ?_, ?_, cleared, ?_⟩
        · simpa [Outbox.duePage, refuse, require, formed, room, future, found, pure, Except.pure, bind,
            Except.bind] using listed
        · rw [filled, List.filterMap_cons_some found, List.append_assoc]
          rfl
        · exact List.forall_mem_cons.mpr ⟨future, due⟩
        · intro unfinished
          rw [kept unfinished, List.getLast?_cons, Option.getD_some]
      · refine ⟨[], key :: rest, ⟨records, next, none⟩, rfl, ?_, by simp, nofun, ?_, fun _ => rfl⟩
        · simp [Outbox.duePage, refuse, formed, room, future, pure, Except.pure, bind, Except.bind]
        · intro cleared
          exact absurd (started cleared) room

/-! ### Walks -/

/-- Deadlines along the index, as a cursor meets them. -/
structure DueKeys (tx : Outbox) (now : Time) : Prop where
  sound : ∀ key ∈ tx.due.keys, 9 ≤ key.length ∧ (tx.dueRecord key).isSome = true
  ordered : tx.due.keys.Pairwise fun first second =>
    Time.after (backupRunDueAt first) now = true → Time.after (backupRunDueAt second) now = true

/-- The requests of the keys that are due. -/
def Outbox.dueAmong (tx : Outbox) (now : Time) (keys : List Bytes) : List BackupRunPending :=
  (keys.filter fun key => !Time.after (backupRunDueAt key) now).filterMap tx.dueRecord

theorem dueAmong_split (due : ∀ key ∈ taken, Time.after (backupRunDueAt key) now = false) :
    tx.dueAmong now (taken ++ rest) = taken.filterMap tx.dueRecord ++ tx.dueAmong now rest := by
  have all : taken.filter (fun key => !Time.after (backupRunDueAt key) now) = taken := by
    rw [List.filter_eq_self]
    intro key member
    simp [due key member]
  rw [Outbox.dueAmong, List.filter_append, all, List.filterMap_append]
  rfl

theorem dueAmong_ahead (ahead : ∀ key ∈ rest, Time.after (backupRunDueAt key) now = true) :
    tx.dueAmong now rest = [] := by
  have none : rest.filter (fun key => !Time.after (backupRunDueAt key) now) = [] := by
    rw [List.filter_eq_nil_iff]
    intro key member
    simp [ahead key member]
  rw [Outbox.dueAmong, none, List.filterMap_nil]

/-- From any cursor position a walk ends with the requests due among the keys ahead. -/
theorem DueKeys.walk (keys : DueKeys tx now) (limit : Int) (before ahead : List Bytes) (after : Bytes)
    (split : tx.due.keys = before ++ ahead) (position : tx.dueFrom after = ahead) :
    DueWalk tx now limit after (tx.dueAmong now ahead) := by
  -- each page with a cursor takes a key at least
  induction sizeEq : ahead.length using Nat.strong_induction_on generalizing before ahead after with
  | _ size ih =>
    have kept : ∀ key ∈ ahead, key ∈ tx.due.keys := by
      intro key member
      rw [split]
      exact List.mem_append_right _ member
    have ordered := keys.ordered
    rw [split] at ordered
    obtain ⟨taken, rest, page, parts, listed, filled, due, cleared, last⟩ :=
      duePage_split ahead (fun key member => keys.sound key (kept key member))
        (List.pairwise_append.mp ordered).2.1 [] [] (fun _ => duePageLimit_pos limit)
    have success : listBackupRunPendingDue tx after now limit = .ok page := by
      rw [listBackupRunPendingDue, position]
      exact listed
    have records : page.records = taken.filterMap tx.dueRecord := filled
    rw [parts, dueAmong_split due, ← records]
    by_cases ended : page.next = []
    · rw [dueAmong_ahead (cleared ended), List.append_nil]
      exact .last success ended
    refine .more success ended ?_
    have cursor := last ended
    rcases List.eq_nil_or_concat taken with none | ⟨init, key, shape⟩
    · rw [none] at cursor
      exact absurd cursor ended
    rw [shape, List.concat_eq_append, List.getLast?_concat, Option.getD_some] at cursor
    have whole : tx.due.keys = (before ++ init) ++ key :: rest := by
      rw [split, parts, shape]
      simp
    have tail : tx.dueFrom page.next = rest := by
      have sorted := tx.due.keys_sorted
      rw [whole] at sorted
      rw [Outbox.dueFrom, if_neg ended, cursor, whole]
      exact seekPast_split sorted
    have shorter : rest.length < size := by
      rw [← sizeEq, parts, shape]
      simp
      omega
    refine ih rest.length shorter (before ++ init ++ [key]) rest page.next ?_ tail rfl
    rw [whole]
    simp

theorem DueWalk.unique (one : DueWalk tx now limit after first)
    (other : DueWalk tx now limit after second) : first = second := by
  induction one generalizing second with
  | last listed ended =>
    cases other with
    | last again =>
      cases Except.ok.inj (listed.symm.trans again)
      rfl
    | more again unfinished =>
      cases Except.ok.inj (listed.symm.trans again)
      exact absurd ended unfinished
  | more listed unfinished _ ih =>
    cases other with
    | last again ended =>
      cases Except.ok.inj (listed.symm.trans again)
      exact absurd ended unfinished
    | more again _ walk =>
      cases Except.ok.inj (listed.symm.trans again)
      rw [ih walk]

/-! ### The whole ledger -/

/-- Each index holds the keys of the requests it is for, and no other. -/
structure PendingIndexesExact (tx : Outbox) : Prop where
  due : ∀ key, key ∈ tx.due ↔ ∃ intentID request, tx.backupPending.get intentID = some request ∧
    request.state = .pending ∧ backupRunDueKey request = key
  refusals : ∀ intentID, intentID ∈ tx.refusals ↔ ∃ request,
    tx.backupPending.get intentID = some request ∧ request.state = .refused ∧
      request.statusEventID = ""

/-- The list holds each waiting request due by `now` once, earlier deadlines first. -/
structure ListsDue (tx : Outbox) (now : Time) (records : List BackupRunPending) : Prop where
  once : records.Nodup
  ordered : records.Pairwise fun first second => Time.after first.dueAt second.dueAt = false
  complete : ∀ request, request ∈ records ↔ ∃ intentID,
    tx.backupPending.get intentID = some request ∧ request.state = .pending ∧
      Time.after request.dueAt now = false

theorem Ledger.Tracks.due_iff (tracked : tx.ledger.Tracks) (key : Bytes) :
    key ∈ tx.due ↔ ∃ intentID request, tx.backupPending.get intentID = some request ∧
      request.state = .pending ∧ backupRunDueKey request = key := by
  have exact := tracked.due key
  simp only [dueRule, false_or, Option.ite_none_right_eq_some, Option.some.injEq] at exact
  refine exact.trans ?_
  constructor
  · rintro ⟨intentID, request, found, ⟨waiting, _⟩, made⟩
    exact ⟨intentID, request, found, waiting, made⟩
  · rintro ⟨intentID, request, found, waiting, made⟩
    exact ⟨intentID, request, found, ⟨waiting, (tracked.filed _ _ found).owner⟩, made⟩

theorem Ledger.Tracks.exact (tracked : tx.ledger.Tracks) : PendingIndexesExact tx where
  due := tracked.due_iff
  refusals intentID := by
    have exact := tracked.refusals intentID
    simp only [refusalRule, false_or, Option.ite_none_right_eq_some, Option.some.injEq] at exact
    refine exact.trans ?_
    constructor
    · rintro ⟨_, request, found, ⟨refused, vacant⟩, rfl⟩
      exact ⟨request, found, refused, vacant⟩
    · rintro ⟨request, found, refused, vacant⟩
      exact ⟨intentID, request, found, ⟨refused, vacant⟩, rfl⟩

theorem dueRecord_some (found : tx.dueRecord key = some request) :
    ∃ intentID, tx.backupPending.get intentID = some request ∧ request.state = .pending ∧
      backupRunDueKey request = key := by
  simp only [Outbox.dueRecord, bind, Option.bind_eq_some_iff, Option.ite_none_right_eq_some,
    Option.some.injEq] at found
  obtain ⟨intentID, _, _, stored, ⟨waiting, _, made⟩, rfl⟩ := found
  exact ⟨intentID, stored, waiting, made⟩

theorem Ledger.Tracks.dueRecord_key (tracked : tx.ledger.Tracks)
    (found : tx.backupPending.get intentID = some request) (waiting : request.state = .pending) :
    tx.dueRecord (backupRunDueKey request) = some request := by
  have named : tx.backupPending.keys.find?
      (fun other => utf8 other == utf8 request.intentID) = some intentID := by
    rw [(tracked.filed _ _ found).owner]
    cases sought : tx.backupPending.keys.find? (fun other => utf8 other == utf8 intentID) with
    | none =>
      have missing := List.find?_eq_none.mp sought intentID
        (Bucket.mem_keys.mpr (Bucket.mem_of_get found))
      simp at missing
    | some =>
      have same := List.find?_some sought
      rw [utf8_injective (beq_iff_eq.mp same)]
  simp [Outbox.dueRecord, named, found, waiting, backupRunDueKey_drop]

theorem Time.after_of_later (ahead : Time.after first now = true)
    (later : Time.after first second = false) : Time.after second now = true := by
  cases first with
  | none => cases ahead
  | some first =>
    cases second with
    | none => cases later
    | some second =>
      cases now with
      | none => rfl
      | some now =>
        have passed : now < first := of_decide_eq_true ahead
        have order : ¬second < first := of_decide_eq_false later
        exact decide_eq_true (lt_of_lt_of_le passed (not_lt.mp order))

theorem Ledger.Tracks.dueKeys (tracked : tx.ledger.Tracks) (now : Time) : DueKeys tx now where
  sound key member := by
    obtain ⟨intentID, request, found, waiting, rfl⟩ :=
      (tracked.due_iff key).mp (Bucket.mem_keys.mp member)
    refine ⟨backupRunDueKey_length (tracked.filed _ _ found).named, ?_⟩
    rw [tracked.dueRecord_key found waiting]
    rfl
  ordered := by
    refine tx.due.keys_sorted.imp_of_mem ?_
    intro first second firstIn secondIn less ahead
    obtain ⟨_, one, oneFound, _, rfl⟩ := (tracked.due_iff first).mp (Bucket.mem_keys.mp firstIn)
    obtain ⟨_, other, otherFound, _, rfl⟩ :=
      (tracked.due_iff second).mp (Bucket.mem_keys.mp secondIn)
    have oneReceived := (tracked.filed _ _ oneFound).received
    have otherReceived := (tracked.filed _ _ otherFound).received
    rw [backupRunDueAt_key oneReceived] at ahead
    rw [backupRunDueAt_key otherReceived]
    exact Time.after_of_later ahead (dueAt_le oneReceived otherReceived less)

theorem Ledger.Tracks.listsDue (tracked : tx.ledger.Tracks) (now : Time) :
    ListsDue tx now (tx.dueAmong now tx.due.keys) where
  once := by
    refine List.pairwise_filterMap.mpr ((tx.due.keys_sorted.filter _).imp ?_)
    intro first second less one oneRead other otherRead same
    obtain ⟨_, _, _, oneKey⟩ := dueRecord_some oneRead
    obtain ⟨_, _, _, otherKey⟩ := dueRecord_some otherRead
    rw [← oneKey, ← otherKey, same] at less
    exact List.lt_irrefl _ less
  ordered := by
    refine List.pairwise_filterMap.mpr ((tx.due.keys_sorted.filter _).imp ?_)
    intro first second less one oneRead other otherRead
    obtain ⟨_, oneFound, _, oneKey⟩ := dueRecord_some oneRead
    obtain ⟨_, otherFound, _, otherKey⟩ := dueRecord_some otherRead
    rw [← oneKey, ← otherKey] at less
    exact dueAt_le (tracked.filed _ _ oneFound).received (tracked.filed _ _ otherFound).received less
  complete request := by
    simp only [Outbox.dueAmong, List.mem_filterMap, List.mem_filter, Bool.not_eq_true']
    constructor
    · rintro ⟨key, ⟨_, due⟩, read⟩
      obtain ⟨intentID, found, waiting, rfl⟩ := dueRecord_some read
      rw [backupRunDueAt_key (tracked.filed _ _ found).received] at due
      exact ⟨intentID, found, waiting, due⟩
    · rintro ⟨intentID, found, waiting, due⟩
      refine ⟨backupRunDueKey request, ⟨?_, ?_⟩, tracked.dueRecord_key found waiting⟩
      · exact Bucket.mem_keys.mpr
          ((tracked.due_iff _).mpr ⟨intentID, request, found, waiting, rfl⟩)
      · rw [backupRunDueAt_key (tracked.filed _ _ found).received]
        exact due

theorem tracks_fresh : Outbox.fresh.ledger.Tracks := Tracked.fresh

theorem run_tracks {checks : Checks} {calls : List Call} {final : Outbox}
    (unstaged : ∀ call ∈ calls, call.operation.filesUnstaged = true)
    (inRange : ∀ call ∈ calls, call.operation.timesInRange = true)
    (executed : run checks.step Outbox.fresh calls = some final) : final.ledger.Tracks := by
  have guarded : Along checks.step (fun _ call => call.operation.filesUnstaged = true ∧
      call.operation.timesInRange = true) Outbox.fresh calls :=
    along_of_forall fun call member => ⟨unstaged call member, inRange call member⟩
  have keeps (tx : Outbox) (call : Call) (next : Outbox) (tracked : tx.ledger.Tracks)
      (fine : call.operation.filesUnstaged = true ∧ call.operation.timesInRange = true)
      (taken : checks.step tx call = some next) : next.ledger.Tracks := by
    cases Option.some.inj taken
    exact (after_effect checks tx call).tracks fine.1 fine.2 tracked
  have reached := run_invariant keeps tracks_fresh guarded executed
  exact reached

/-- While no request is filed with a status of its own, every reachable ledger has exact
indexes, and every walk over its due requests ends with each of them once, in order. -/
theorem run_pending_indexes_exact (checks : Checks) (calls : List Call) {final : Outbox}
    (inRange : ∀ call ∈ calls, call.operation.timesInRange = true)
    (unstaged : ∀ call ∈ calls, call.operation.filesUnstaged = true)
    (executed : run checks.step Outbox.fresh calls = some final) :
    PendingIndexesExact final ∧
      ∀ (now : Time) (limit : Int), ∃ records, ListsDue final now records ∧
        ∀ walked, DueWalk final now limit [] walked ↔ walked = records := by
  have tracked := run_tracks unstaged inRange executed
  refine ⟨tracked.exact, ?_⟩
  intro now limit
  refine ⟨final.dueAmong now final.due.keys, tracked.listsDue now, ?_⟩
  have walk : DueWalk final now limit [] (final.dueAmong now final.due.keys) :=
    (tracked.dueKeys now).walk limit [] final.due.keys [] rfl (if_pos rfl)
  intro walked
  constructor
  · intro other
    exact other.unique walk
  · rintro rfl
    exact walk

def furtherRequest (number : Byte) (name : String) (received : SInt64) : BackupRunPending :=
  { runRequest with
    intentID := "intent-" ++ name
    coordinate := "backup-run:" ++ name
    requestEvent :=
      { runRequestEvent with
        id := FixedBytes.ofByte 31 number
        tags := [["d", "backup-run:" ++ name], ["intent_id", "intent-" ++ name],
          ["expiration", "1700000600"]] }
    receivedAt := some received }

/-- Three requests are filed, the latest first, and the one received in between is refused. -/
def threeFiled : List Call :=
  [runCall (.putBackupRunPending (furtherRequest 11 "c" 1700000000000000002)),
    runCall (.putBackupRunPending (furtherRequest 12 "d" 1700000000000000001)), runFileCall,
    runCall (.refuseBackupRunPending "intent-d" (ID.hex (FixedBytes.ofByte 31 12)) "conflict")]

/-- The other two are walked over, one a page. -/
theorem run_pending_indexes_exact_filed :
    ∃ final, run refusalChecks.step Outbox.fresh threeFiled = some final ∧
      PendingIndexesExact final ∧
      ∃ records, records.map (·.intentID) = ["intent", "intent-c"] ∧
        ListsDue final (some 1700000000000000002) records ∧
        DueWalk final (some 1700000000000000002) 1 [] records := by
  have inRange : ∀ call ∈ threeFiled, call.operation.timesInRange = true := by decide
  have unstaged : ∀ call ∈ threeFiled, call.operation.filesUnstaged = true := by decide
  have executed : run refusalChecks.step Outbox.fresh threeFiled =
      some (threeFiled.foldl refusalChecks.after Outbox.fresh) := rfl
  have due : ((threeFiled.foldl refusalChecks.after Outbox.fresh).dueAmong (some 1700000000000000002)
      (threeFiled.foldl refusalChecks.after Outbox.fresh).due.keys).map (·.intentID) =
        ["intent", "intent-c"] := by decide +kernel
  generalize threeFiled.foldl refusalChecks.after Outbox.fresh = final at executed due
  obtain ⟨exact, walks⟩ := run_pending_indexes_exact refusalChecks threeFiled inRange unstaged executed
  obtain ⟨records, lists, walked⟩ := walks (some 1700000000000000002) 1
  have tracked := run_tracks unstaged inRange executed
  have same := (walked _).mp
    ((tracked.dueKeys (some 1700000000000000002)).walk 1 [] final.due.keys [] rfl (if_pos rfl))
  exact ⟨final, executed, exact, records, same ▸ due, lists, (walked records).mpr rfl⟩

/-- A request filed with a status event of its own is indexed as lacking one once refused. -/
theorem filed_status_stays_indexed :
    ∃ calls final, (∀ call ∈ calls, call.operation.timesInRange = true) ∧
      run refusalChecks.step Outbox.fresh calls = some final ∧ ¬PendingIndexesExact final := by
  obtain ⟨staged, shape⟩ : ∃ staged, staged = { runRequest with statusEventID := "status" } :=
    ⟨_, rfl⟩
  obtain ⟨file, filed⟩ : ∃ file, file = runCall (.putBackupRunPending staged) := ⟨_, rfl⟩
  refine ⟨[file, runRefuseCall], refusalChecks.after (refusalChecks.after Outbox.fresh file)
    runRefuseCall, ?_, rfl, ?_⟩
  · intro call member
    rcases List.mem_pair.mp member with same | same
    · rw [same, filed, shape]
      rfl
    · rw [same]
      rfl
  · intro exact
    have rows : "intent" ∈ (refusalChecks.after (refusalChecks.after Outbox.fresh file)
        runRefuseCall).refusals ∧
        ((refusalChecks.after (refusalChecks.after Outbox.fresh file)
          runRefuseCall).backupPending.get "intent").all (·.statusEventID != "") = true := by
      rw [filed, shape]
      decide +kernel
    obtain ⟨request, found, _, vacant⟩ := (exact.refusals "intent").mp rows.1
    have named := rows.2
    rw [found, Option.all_some, vacant] at named
    cases named

end Bahia.Localstore
