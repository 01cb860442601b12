import Bahia.Foundation.Versions

/-! The resume cursor of one relay and filter: how it moves with the events of a REQ, and where the
next session resumes. -/

namespace Bahia.Inbound
open Foundation

def second : Int := 1000000000

def unix (instant : Int) : Int := instant / second

structure InboundSyncConfig where
  resumeOverlap : Int
  regularLookback : Int

def defaultInboundResumeOverlap : Int := 10 * 60 * second

def defaultInboundRegularLookback : Int := 24 * 60 * 60 * second

def defaultInboundSyncConfig : InboundSyncConfig :=
  ⟨defaultInboundResumeOverlap, defaultInboundRegularLookback⟩

def InboundSyncConfig.overlap (config : InboundSyncConfig) : Int := config.resumeOverlap.tdiv second

/-- Where a REQ resumes; a cursor of zero is none. -/
def InboundSyncConfig.resumeSince (config : InboundSyncConfig) (cursor now : Int) : Int :=
  if 0 < cursor then if cursor ≤ config.overlap then 0 else cursor - config.overlap
  else if config.regularLookback ≤ 0 then 0
  else unix (now - config.regularLookback)

def clampToClock (timestamp now : Int) : Int := min timestamp (unix now)

structure CursorGeneration where
  newest : Int := 0
  live : Bool := false
  dirty : Bool := false

/-- The two REQs of a session: the catch-up that resumes from the cursor, and the one that follows
live from shortly before the session's start. -/
inductive Req where
  | catchUp
  | follow
  deriving DecidableEq

/-- The tracker's generation and the stored cursor, with the REQ under way. `failed` has the
`created_at` of the events within a REQ's reach that failed to store since the last catch-up began. -/
structure Tracker where
  clock : Int
  cursor : Int := 0
  generation : CursorGeneration := {}
  session : Int := 0
  req : Req := .catchUp
  since : Int := 0
  failed : List Int := []

/-- What happens next; `persisted` says whether the store takes the cursor. -/
inductive Action where
  | tick (elapsed : Nat)
  | catchUp
  | follow
  | observe (createdAt : Int) (own stored persisted : Bool)
  | commit (persisted : Bool)

def advanceCursor (cursor target : Int) : Int :=
  if target ≤ 0 ∨ target ≤ cursor then cursor else target

namespace Tracker
variable (config : InboundSyncConfig)

def advance (s : Tracker) (target : Int) (persisted : Bool) : Tracker :=
  if persisted then { s with cursor := advanceCursor s.cursor target } else s

def begin (s : Tracker) (req : Req) (session since : Int) : Tracker :=
  { s with generation := {}, session, req, since }

def observe (s : Tracker) (createdAt : Int) (own stored persisted : Bool) : Tracker :=
  if stored = false then
    { s with
      generation := { s.generation with dirty := true }
      failed := if s.since ≤ createdAt then createdAt :: s.failed else s.failed }
  else if own then s
  else if s.generation.live = false then
    { s with generation := { s.generation with
      newest := max s.generation.newest (clampToClock createdAt s.clock) } }
  else if s.generation.dirty then s
  else s.advance (clampToClock createdAt s.clock) persisted

/-- A catch-up's commit has its `since` as a floor. -/
def floor (s : Tracker) : Int :=
  match s.req with
  | .catchUp => s.since
  | .follow => 0

def commit (s : Tracker) (persisted : Bool) : Tracker :=
  let t := { s with generation := { s.generation with live := true } }
  if s.generation.dirty then t
  else t.advance (clampToClock (max s.generation.newest s.floor) s.clock) persisted

def next (s : Tracker) : Action → Tracker
  | .tick elapsed => { s with clock := s.clock + elapsed }
  | .catchUp =>
    { s.begin .catchUp s.clock (config.resumeSince s.cursor s.clock) with failed := [] }
  | .follow =>
    s.begin .follow s.session
      (config.resumeSince (clampToClock (unix s.session) s.clock) s.session)
  | .observe createdAt own stored persisted => s.observe createdAt own stored persisted
  | .commit persisted => s.commit persisted

/-- A session that starts now fetches every event that failed. -/
def Refetched (s : Tracker) : Prop := ∀ createdAt ∈ s.failed, (s.next config .catchUp).since ≤ createdAt

/-- A cursor raised this far stays within the overlap of every event that failed. -/
def Within (s : Tracker) (target : Int) : Prop :=
  0 < target → s.cursor < target → ∀ createdAt ∈ s.failed, max 0 (target - config.overlap) ≤ createdAt

/-- An event is behind the cursor by no more than the overlap or, while there is no cursor, behind the
clock by no more than the lookback. -/
def Reaches (cursor now createdAt : Int) : Prop :=
  if 0 < cursor then max 0 (cursor - config.overlap) ≤ createdAt
  else if config.regularLookback ≤ 0 then 0 ≤ createdAt
  else unix (now - config.regularLookback) ≤ createdAt

/-- What keeps the failed events in reach of the next session. While there is no cursor, the lookback
does not pass them; an event that fails is not behind the cursor by more than the overlap, which a
catch-up that resumes from a cursor grants; and no event of a later REQ raises the cursor too far
beyond them. -/
def Careful (s : Tracker) : Action → Prop
  | .tick elapsed => s.cursor ≤ 0 →
      ∀ createdAt ∈ s.failed, Reaches config 0 (s.clock + elapsed) createdAt
  | .catchUp => True
  | .follow => True
  | .observe createdAt own stored persisted =>
    if stored = false then
      s.req = .catchUp ∧ s.generation.live = false ∧ 0 < s.cursor ∨ createdAt < s.since ∨
        Reaches config s.cursor s.clock createdAt
    else own = false → s.generation.live = true → s.generation.dirty = false → persisted = true →
      s.Within config (clampToClock createdAt s.clock)
  | .commit persisted => s.generation.dirty = false → persisted = true →
      s.Within config (clampToClock (max s.generation.newest s.floor) s.clock)

/-- The stored phase of a catch-up that resumed from a cursor leaves the cursor alone. -/
def Resumed (s : Tracker) : Prop :=
  s.req = .catchUp → s.generation.live = false → 0 < s.cursor → s.since = config.resumeSince s.cursor 0

variable {config}

variable {cursor : Int} {s : Tracker}

theorem resumeSince_of_pos (some : 0 < cursor) (now later : Int) :
    config.resumeSince cursor now = config.resumeSince cursor later := by
  simp [InboundSyncConfig.resumeSince, some]

theorem resumeSince_of_none (none : cursor ≤ 0) (now : Int) :
    config.resumeSince cursor now = config.resumeSince 0 now := by
  simp [InboundSyncConfig.resumeSince, not_lt.mpr none]

theorem reaches_iff {now createdAt : Int} : Reaches config cursor now createdAt ↔
    config.resumeSince cursor now ≤ createdAt := by
  unfold Reaches InboundSyncConfig.resumeSince
  grind

theorem refetched_iff : s.Refetched config ↔
    ∀ createdAt ∈ s.failed, config.resumeSince s.cursor s.clock ≤ createdAt := Iff.rfl

section
variable (kept : s.Refetched config)
include kept

theorem refetched_advance (generation : CursorGeneration) (target : Int) (persisted : Bool) :
    (({ s with generation } : Tracker).advance target persisted).Refetched config ↔
      (persisted = true → s.Within config target) := by
  cases persisted with
  | false => exact iff_of_true kept nofun
  | true =>
    simp only [advance, refetched_iff, Within, advanceCursor, forall_const, if_true]
    split
    case isTrue unmoved =>
      exact iff_of_true kept fun some raised => absurd unmoved (by omega)
    case isFalse moved =>
      have raised : 0 < target ∧ s.cursor < target := by omega
      simp only [← reaches_iff, Reaches, raised, if_true, forall_const]

theorem refetched_observe_failed (resumed : s.Resumed config)
    (createdAt : Int) (own persisted : Bool) :
    (s.observe createdAt own false persisted).Refetched config ↔
      s.Careful config (.observe createdAt own false persisted) := by
  simp only [Careful, observe, if_true, reaches_iff]
  by_cases reached : s.since ≤ createdAt
  · simp only [refetched_iff, if_pos reached, List.forall_mem_cons, not_lt.mpr reached, false_or]
    constructor
    · rintro ⟨here, _⟩
      exact .inr here
    · intro careful
      refine ⟨?_, kept⟩
      rcases careful with ⟨request, stored, some⟩ | here
      · rw [resumeSince_of_pos some s.clock 0, ← resumed request stored some]
        exact reached
      · exact here
  · simp only [refetched_iff, if_neg reached, not_le.mp reached, true_or, or_true, iff_true]
    exact kept

theorem refetched_observe_stored (createdAt : Int) (own persisted : Bool) :
    (s.observe createdAt own true persisted).Refetched config ↔
      s.Careful config (.observe createdAt own true persisted) := by
  have unmoved : ∀ generation : CursorGeneration,
      ({ s with generation := generation } : Tracker).Refetched config := fun _ => kept
  simp only [Careful, observe, Bool.true_eq_false, if_false]
  cases own with
  | true => simpa using kept
  | false =>
    cases live : s.generation.live with
    | false => simpa using unmoved _
    | true =>
      cases dirty : s.generation.dirty with
      | true => simpa using kept
      | false => simpa using refetched_advance kept s.generation _ persisted

theorem refetched_commit (persisted : Bool) :
    (s.commit persisted).Refetched config ↔ s.Careful config (.commit persisted) := by
  have unmoved : ({ s with generation := { s.generation with live := true } } : Tracker).Refetched
      config := kept
  simp only [Careful, commit]
  cases dirty : s.generation.dirty with
  | true => simpa [dirty] using unmoved
  | false =>
    rw [if_neg Bool.false_ne_true, refetched_advance kept]
    exact ⟨fun within _ => within, fun within => within rfl⟩

/-- A step keeps the failed events in reach exactly when it is careful. -/
theorem refetched_next_iff (resumed : s.Resumed config)
    (action : Action) : (s.next config action).Refetched config ↔ s.Careful config action := by
  cases action with
  | tick =>
    simp only [next, refetched_iff, Careful, reaches_iff]
    by_cases some : 0 < s.cursor
    · rw [resumeSince_of_pos some _ s.clock]
      exact iff_of_true kept fun none => absurd some (not_lt.mpr none)
    · rw [resumeSince_of_none (not_lt.mp some)]
      exact ⟨fun held _ => held, fun held => held (not_lt.mp some)⟩
  | catchUp => exact iff_of_true (fun _ absent => nomatch absent) trivial
  | follow => exact iff_of_true kept trivial
  | observe createdAt own stored persisted =>
    cases stored with
    | false => exact refetched_observe_failed kept resumed createdAt own persisted
    | true => exact refetched_observe_stored kept createdAt own persisted
  | commit persisted => exact refetched_commit kept persisted

end

@[simp] theorem advance_generation (s : Tracker) (target : Int) (persisted : Bool) :
    (s.advance target persisted).generation = s.generation := by
  cases persisted <;> rfl

theorem resumed_next (resumed : s.Resumed config) (action : Action) :
    (s.next config action).Resumed config := by
  cases action with
  | tick => exact resumed
  | catchUp => exact fun _ _ some => resumeSince_of_pos some s.clock 0
  | follow => exact fun request => nomatch request
  | observe createdAt own stored =>
    simp only [next, observe]
    split
    · exact resumed
    split
    · exact resumed
    split
    · exact resumed
    split
    · exact resumed
    rename_i live _
    intro _ stored
    rw [advance_generation] at stored
    exact absurd stored live
  | commit persisted =>
    intro _ stored
    have live : (s.commit persisted).generation.live = true := by
      unfold commit
      split <;> simp
    rw [next, live] at stored
    cases stored

def start (config : InboundSyncConfig) (clock cursor : Int) : Tracker :=
  ({ clock, cursor } : Tracker).next config .catchUp

/-- Every event that failed stays in reach of the next session exactly as long as the steps are
careful. -/
theorem failed_refetched_iff (config : InboundSyncConfig) (clock cursor : Int) (actions : List Action) :
    Throughout (next config) (fun s action => (s.next config action).Refetched config)
        (start config clock cursor) actions ↔
      Throughout (next config) (Careful config) (start config clock cursor) actions := by
  have keeps : ∀ (s : Tracker) (action : Action), s.Refetched config ∧ s.Resumed config →
      s.Careful config action →
        (s.next config action).Refetched config ∧ (s.next config action).Resumed config := by
    rintro s action ⟨kept, resumed⟩ careful
    exact ⟨(refetched_next_iff kept resumed action).mpr careful, resumed_next resumed action⟩
  refine throughout_congr_while keeps ?_ ⟨?_, ?_⟩ actions
  · rintro s action ⟨kept, resumed⟩
    exact refetched_next_iff kept resumed action
  · exact fun _ absent => nomatch absent
  · exact fun _ _ some => resumeSince_of_pos some clock 0

/-- An event of the catch-up fails to store. The live REQ of the session starts a clean generation,
whose commit takes the cursor past the event. -/
theorem catchUp_failure_skipped :
    let config := defaultInboundSyncConfig
    let session := [.observe 5000 false false true, .commit true, .follow,
      .observe 9990 false true true, .commit true]
    let before := start config (10000 * second) 5000
    let after := session.foldl (next config) before
    before.since ≤ 5000 ∧ after.failed = [5000] ∧ 5000 < (after.next config .catchUp).since := by
  decide

theorem cursor_next (config : InboundSyncConfig) (s : Tracker) (action : Action) :
    s.clock ≤ (s.next config action).clock ∧ s.cursor ≤ (s.next config action).cursor ∧
      (s.next config action).cursor ≤ max s.cursor (unix s.clock) := by
  cases action with
  | tick => simp [next]
  | catchUp | follow => simp [next, begin]
  | observe | commit =>
    simp only [next, observe, commit, advance, advanceCursor, clampToClock]
    grind

/-- The cursor never goes back, and no event takes it beyond the clock, however it is dated. -/
theorem cursor_follows_clock (config : InboundSyncConfig) (s : Tracker) (actions : List Action) :
    s.cursor ≤ (actions.foldl (next config) s).cursor ∧ (actions.foldl (next config) s).cursor ≤
      max s.cursor (unix (actions.foldl (next config) s).clock) := by
  induction actions using List.reverseRecOn with
  | nil => simp
  | append_singleton earlier last ih =>
    rw [List.foldl_concat]
    have step := cursor_next config (earlier.foldl (next config) s) last
    unfold unix second at step ih ⊢
    omega

end Tracker

end Bahia.Inbound
