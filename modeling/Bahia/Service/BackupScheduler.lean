import Bahia.Foundation.Outcome
import Bahia.Foundation.Text

/-! The backup scheduler: the occurrences of a schedule that are due, the run dispatched for the
last of them and the count of the missed ones. Instants are nanoseconds since the zero time. -/

namespace Bahia.Service
open Foundation List

def second : Int := 1000000000

def truncate (instant unit : Int) : Int := instant - instant % unit

/-- `backupSchedulePlan`: the next occurrence falls in a later second than the anchor. -/
structure SchedulePlan where
  next : Int → Except String Int
  later : next anchor = .ok occurrence → anchor / second < occurrence / second

def cadenceSchedulePlan (seconds : Nat) (positive : 0 < seconds) : SchedulePlan where
  next anchor := .ok (truncate (anchor + seconds * second) second)
  later := by
    rintro anchor _ ⟨⟩
    simp only [truncate, second]
    omega

/-- The minutes that fit the five cron fields, and how many minutes five years have from an
instant, are the calendar's. -/
def cronSchedulePlan (fits : Int → Bool) (fiveYears : Int → Nat) : SchedulePlan where
  next anchor :=
    let first := truncate anchor (60 * second) + 60 * second
    require (((List.range (fiveYears first)).map fun passed : Nat =>
      first + passed * (60 * second)).find? fits)
      "invalid value: cron schedule has no run within five years"
  later := by
    intro anchor occurrence found
    obtain ⟨passed, _, same⟩ := mem_map.mp (List.mem_of_find?_eq_some (require_ok_iff.mp found))
    subst same
    simp only [truncate, second]
    omega

structure BackupDefinition where
  scheduleEnabled : Bool
  scheduleExpression : String
  scheduleJitterWindow : String
  maintenanceWindow : String
  maintenanceWindowTimeZone : String
  createdAt : Option Int

structure BackupScheduleState where
  paused : Bool := false
  disabled : Bool := false
  nextScheduledRun : Option Int := none
  lastScheduledDispatch : Option Int := none
  lastScheduledRunDueAt : Option Int := none
  missedRunCount : Nat := 0

def BackupScheduleState.dispatched (state : BackupScheduleState) (dueAt : Int) (missed : Nat)
    (now next : Int) : BackupScheduleState :=
  { state with
    lastScheduledDispatch := some now
    lastScheduledRunDueAt := some dueAt
    missedRunCount := state.missedRunCount + missed
    nextScheduledRun := some next }

structure BackupScheduleDue where
  scheduledAt : Int
  effectiveAt : Int

structure BackupRun where
  scheduleDueAt : Int
  scheduleDispatchAfter : Int
  createdAt : Int

/-- The request coordinate of a scheduled run names the second in which it is due. -/
def BackupRun.requestDTag (run : BackupRun) : Int := run.scheduleDueAt / second

/-- The scheduler of one definition. The duration grammar, the digest of the definition and an
occurrence, the time zones and what the registry refuses are given. -/
structure BackupScheduler where
  maxCatchUp : Nat
  parseBackupSchedule : String → Except String SchedulePlan
  parseDuration : String → Option Int
  digest : Int → Nat
  applyMaintenanceWindow : Int → String → String → Except String Int
  refusal : BackupRun → Option String

structure BackupRepository where
  state : BackupScheduleState := {}
  runs : List BackupRun := []

namespace BackupScheduler
variable (service : BackupScheduler) (definition : BackupDefinition)

def stableJitter (scheduledAt : Int) (window : Int) : Int :=
  if window ≤ 0 then 0 else service.digest scheduledAt % (window + 1)

def effectiveScheduledTime (scheduledAt : Int) : Except String Int := do
  let jitterWindow := trimSpace definition.scheduleJitterWindow
  let invalid := "invalid value: invalid schedule_jitter_window " ++ quote definition.scheduleJitterWindow
  let effective := truncate scheduledAt second
  let effective ← if jitterWindow == "" then pure effective else do
    let jitter ← require (service.parseDuration jitterWindow) invalid
    refuse (jitter < 0) invalid
    pure (effective + service.stableJitter scheduledAt jitter)
  if definition.maintenanceWindow == "" then pure effective else
    service.applyMaintenanceWindow effective definition.maintenanceWindow
      definition.maintenanceWindowTimeZone

def scheduleAnchor (state : BackupScheduleState) (now : Int) : Int :=
  state.lastScheduledRunDueAt.getD (definition.createdAt.getD now)

/-- The loop of `dueRuns`, with the rounds left before the catch-up limit. -/
def dueAfter (plan : SchedulePlan) (now : Int) : Nat → Int → Except String (List BackupScheduleDue)
  | 0, _ => .error ("invalid value: backup schedule " ++ quote definition.scheduleExpression ++
      " exceeded catch-up limit " ++ toString service.maxCatchUp)
  | rounds + 1, anchor => do
    let scheduledAt ← plan.next anchor
    let effectiveAt ← service.effectiveScheduledTime definition scheduledAt
    if now < effectiveAt then pure [] else
      (⟨scheduledAt, effectiveAt⟩ :: ·) <$> dueAfter plan now rounds scheduledAt

def dueRuns (state : BackupScheduleState) (now : Int) : Except String (List BackupScheduleDue) := do
  let plan ← service.parseBackupSchedule definition.scheduleExpression
  service.dueAfter definition plan now service.maxCatchUp (scheduleAnchor definition state now)

/-- The occurrence of the definition's schedule that follows an instant. -/
def occurrenceAfter (anchor : Int) : Except String Int := do
  (← service.parseBackupSchedule definition.scheduleExpression).next anchor

def nextEffectiveRun (anchor : Int) : Except String Int := do
  service.effectiveScheduledTime definition (← service.occurrenceAfter definition anchor)

def nextEffectiveRunAfterState (state : BackupScheduleState) (now : Int) : Except String Int :=
  match state.nextScheduledRun.filter (now < ·) with
  | some next => .ok next
  | none => service.nextEffectiveRun definition (scheduleAnchor definition state now)

def createBackupRunIfAbsent (runs : List BackupRun) (run : BackupRun) : List BackupRun :=
  if runs.any (·.requestDTag == run.requestDTag) then runs else runs ++ [run]

/-- One pass for the definition; an error is logged by the caller and ends the pass. -/
def processDefinitionAt (stored : BackupRepository) (now : Int) : BackupRepository :=
  let state := stored.state
  if !definition.scheduleEnabled || trimSpace definition.scheduleExpression == "" || state.paused ||
      state.disabled then { stored with state.nextScheduledRun := none }
  else match service.dueRuns definition state now with
  | .error _ => stored
  | .ok due => match due.getLast? with
    | none => match service.nextEffectiveRunAfterState definition state now with
      | .error _ => stored
      | .ok next => { stored with state.nextScheduledRun := some next }
    | some selected =>
      let run := ⟨selected.scheduledAt, selected.effectiveAt, now⟩
      if (service.refusal run).isSome then stored else
        let runs := createBackupRunIfAbsent stored.runs run
        match service.nextEffectiveRun definition selected.scheduledAt with
        | .error _ => { stored with runs }
        | .ok next => ⟨state.dispatched selected.scheduledAt (due.length - 1) now next, runs⟩

def passes (times : List Int) : BackupRepository :=
  times.foldl (service.processDefinitionAt definition) {}

variable {service definition}

/-- A successful loop has walked the schedule from the anchor, and past its last due occurrence
it has already computed the next effective time. -/
theorem dueAfter_walks (found : service.dueAfter definition plan now rounds anchor = .ok due) :
    (anchor :: due.map (·.scheduledAt)).IsChain (plan.next · = .ok ·) ∧
      (∀ each ∈ due, service.effectiveScheduledTime definition each.scheduledAt = .ok each.effectiveAt ∧
        each.effectiveAt ≤ now) ∧
      ∃ next, (plan.next ((due.map (·.scheduledAt)).getLastD anchor) >>=
        service.effectiveScheduledTime definition) = .ok next := by
  induction rounds generalizing anchor due with
  | zero => cases found
  | succ rounds ih =>
    simp only [dueAfter, bind_ok_iff] at found
    obtain ⟨scheduledAt, occurs, effectiveAt, effective, rest⟩ := found
    split at rest
    · cases rest
      exact ⟨by simp, by simp, effectiveAt, bind_ok_iff.mpr ⟨scheduledAt, occurs, effective⟩⟩
    obtain ⟨later, walked, same⟩ := map_ok_iff.mp rest
    subst same
    obtain ⟨chain, ripe, ends⟩ := ih walked
    refine ⟨?_, ?_, ?_⟩
    · simpa using ⟨occurs, chain⟩
    · simp_all
    · rwa [map_cons, getLastD_cons]

/-- The runs are in order, none is early, and with the missed occurrences they are those of the
schedule since the creation, up to the last dispatched one. -/
structure Accounted (service : BackupScheduler) (definition : BackupDefinition) (created : Int)
    (stored : BackupRepository) : Prop where
  increasing : stored.runs.Pairwise (·.scheduleDueAt < ·.scheduleDueAt)
  ripe : ∀ run ∈ stored.runs,
    service.effectiveScheduledTime definition run.scheduleDueAt = .ok run.scheduleDispatchAfter ∧
      run.scheduleDispatchAfter ≤ run.createdAt
  anchored : stored.state.lastScheduledRunDueAt = stored.runs.getLast?.map (·.scheduleDueAt)
  covered : ∃ occurrences missed : List Int,
    (created :: occurrences).IsChain (service.occurrenceAfter definition · = .ok ·) ∧
      occurrences.getLast? = stored.state.lastScheduledRunDueAt ∧
      (stored.runs.map (·.scheduleDueAt) ++ missed).Perm occurrences ∧
      missed.length = stored.state.missedRunCount

theorem occurrences_increase {occurrences : List Int}
    (chain : occurrences.IsChain (service.occurrenceAfter definition · = .ok ·)) :
    occurrences.Pairwise fun earlier later => earlier / second < later / second := by
  refine pairwise_map.mp (isChain_iff_pairwise.mp ((isChain_map _).mpr ?_))
  refine chain.imp fun earlier later follows => ?_
  obtain ⟨plan, _, next⟩ := bind_ok_iff.mp follows
  exact plan.later next

theorem occurrences_append {occurrences due : List Int}
    (chain : (created :: occurrences).IsChain follows)
    (walked : (occurrences.getLast?.getD created :: due).IsChain follows) :
    (created :: (occurrences ++ due)).IsChain follows := by
  rcases occurrences.eq_nil_or_concat with none | ⟨earlier, last, same⟩
  · simpa [none] using walked
  subst same
  have joined : (created :: earlier ++ [last] ++ due).IsChain follows :=
    List.IsChain.append_overlap (by simpa using chain) (by simpa using walked) (by simp)
  simpa using joined

theorem Accounted.dispatch (accounted : Accounted service definition created stored)
    (dated : definition.createdAt = some created)
    (found : service.dueRuns definition stored.state now = .ok due)
    (last : due.getLast? = some selected) :
    ∃ next, service.nextEffectiveRun definition selected.scheduledAt = .ok next ∧
      Accounted service definition created
        ⟨stored.state.dispatched selected.scheduledAt (due.length - 1) now next,
          createBackupRunIfAbsent stored.runs ⟨selected.scheduledAt, selected.effectiveAt, now⟩⟩ := by
  obtain ⟨plan, parsed, walked⟩ := bind_ok_iff.mp found
  obtain ⟨chain, ripe, next, ends⟩ := dueAfter_walks walked
  obtain ⟨earlier, same⟩ := List.getLast?_eq_some_iff.mp last
  subst same
  obtain ⟨occurrences, missed, since, ended, shared, count⟩ := accounted.covered
  have anchor : scheduleAnchor definition stored.state now = occurrences.getLast?.getD created := by
    simp [scheduleAnchor, ended, dated]
  have extended := occurrences_append since (anchor ▸ chain.imp fun _ _ occurs => by
    simpa [occurrenceAfter, parsed] using occurs)
  -- the new occurrence falls in a later second than every stored run's
  have before : ∀ run ∈ stored.runs, run.requestDTag < selected.scheduledAt / second := by
    intro run member
    have held := shared.subset (mem_append_left missed (mem_map_of_mem member))
    have apart := (pairwise_append.mp (occurrences_increase extended).tail).2.2
    exact apart _ held _ (by simp)
  have absent : stored.runs.any (·.requestDTag == selected.scheduledAt / second) = false := by
    simpa using fun run member => (before run member).ne
  refine ⟨next, ?_, ?_⟩
  · simpa [nextEffectiveRun, occurrenceAfter, parsed] using ends
  · rw [createBackupRunIfAbsent, BackupRun.requestDTag, absent]
    refine ⟨?_, ?_, by simp [BackupScheduleState.dispatched], _, missed ++ earlier.map (·.scheduledAt),
      extended, by simp [BackupScheduleState.dispatched], ?_, by simp [count, BackupScheduleState.dispatched]⟩
    · refine pairwise_append.mpr ⟨accounted.increasing, by simp, ?_⟩
      intro run member
      have earlier := before run member
      simp only [BackupRun.requestDTag, second, mem_singleton, forall_eq] at earlier ⊢
      omega
    · refine forall_mem_append.mpr ⟨accounted.ripe, ?_⟩
      simpa using ripe selected (by simp)
    · refine perm_iff_count.mpr fun instant => ?_
      have same := perm_iff_count.mp shared instant
      simp only [map_append, count_append] at same ⊢
      simp
      omega

theorem Accounted.pass (accounted : Accounted service definition created stored)
    (dated : definition.createdAt = some created) (now : Int) :
    Accounted service definition created (service.processDefinitionAt definition stored now) := by
  simp only [processDefinitionAt]
  split
  · exact { accounted with }
  cases found : service.dueRuns definition stored.state now with
  | error => exact accounted
  | ok due =>
    cases last : due.getLast? with
    | none =>
      simp only [last]
      cases service.nextEffectiveRunAfterState definition stored.state now with
      | error => exact accounted
      | ok next => exact { accounted with }
    | some selected =>
      obtain ⟨next, computed, dispatched⟩ := accounted.dispatch dated found last
      simp only [last, computed]
      split
      · exact accounted
      · exact dispatched

/-- After any passes over a definition with a creation time, its schedule is accounted for. -/
theorem passes_accounted (service : BackupScheduler) (definition : BackupDefinition) (created : Int)
    (times : List Int) :
    let dated := { definition with createdAt := some created }
    Accounted service dated created (service.passes dated times) := by
  intro dated
  induction times using List.reverseRecOn with
  | nil => exact ⟨.nil, nofun, rfl, [], [], by simp, rfl, .nil, rfl⟩
  | append_singleton times now ih =>
    rw [passes, foldl_append]
    exact ih.pass rfl now

/-- Whole hours, written as a cadence or as a cron expression. -/
def hourly : BackupScheduler where
  maxCatchUp := 10
  parseBackupSchedule text := .ok <|
    if text = "1h" then cadenceSchedulePlan 3600 (by decide)
    else cronSchedulePlan (fun minute => minute % (3600 * second) = 0) fun _ => 5 * 365 * 24 * 60
  parseDuration _ := none
  digest _ := 0
  applyMaintenanceWindow effective _ _ := .ok effective
  refusal _ := none

/-- The second pass finds nothing due, and the third comes two occurrences late. -/
theorem passes_accounted_hourly :
    let definition : BackupDefinition := ⟨true, "1h", "", "", "", some 0⟩
    let stored := hourly.passes definition [3601 * second, 3602 * second, 4 * 3600 * second]
    Accounted hourly definition 0 stored ∧
      stored.runs.map (·.scheduleDueAt) = [3600 * second, 4 * 3600 * second] ∧
      stored.state.missedRunCount = 2 :=
  ⟨passes_accounted hourly ⟨true, "1h", "", "", "", none⟩ 0 _, by decide +kernel⟩

end BackupScheduler

end Bahia.Service
