import Bahia.Foundation.Metering
import Bahia.Nostrout.Bookkeeping

/-! The outbound rate bound. The level of a relay is what it may still be sent; it bounds the
frames of every window, also when the relay is evicted and comes back with a full bucket. -/

namespace Bahia.Nostrout
open Foundation

/-! ### One move -/

namespace Move
variable {now : Instant} {a b : Admission} {frames : List Frame}

theorem unregister_ebbs (publication : Publication) (a : Admission) :
    (publication.unregisterLocked a).limits = a.limits ∧
      Registry.Ebbs a.limits now a.relays (publication.unregisterLocked a).relays := by
  cases entered : publication.registered with
  | true =>
    obtain ⟨releases, _⟩ := unregister_effect now entered a
    exact ⟨releases.limits, releases.ebbs⟩
  | false =>
    rw [Publication.unregisterLocked, entered, if_neg Bool.false_ne_true]
    exact ⟨rfl, .refl _⟩

/-- What a move sends is paid for with wire tokens. -/
structure Pays (now : Instant) (frames : List Frame) (a b : Admission) : Prop where
  limits : b.limits = a.limits
  levels : a.relays.Sound a.limits now →
    b.relays.Sound a.limits now ∧ ∀ relay share,
      b.relays.level a.limits now relay share + frames.count ⟨relay, share⟩ ≤
        a.relays.level a.limits now relay share

theorem Pays.ebbs (pays : Pays now frames a b) (limits : c.limits = b.limits)
    (ebbs : Registry.Ebbs b.limits now b.relays c.relays) : Pays now frames a c := by
  rw [pays.limits] at ebbs
  refine ⟨limits.trans pays.limits, ?_⟩
  intro sound
  obtain ⟨kept, levels⟩ := pays.levels sound
  refine ⟨ebbs.sound kept, ?_⟩
  intro relay share
  have lower := ebbs.level kept relay share
  have paid := levels relay share
  linarith

theorem Pays.nothing (limits : b.limits = a.limits)
    (ebbs : Registry.Ebbs a.limits now a.relays b.relays) : Pays now [] a b := by
  refine ⟨limits, ?_⟩
  intro sound
  refine ⟨ebbs.sound sound, ?_⟩
  intro relay share
  simpa using ebbs.level sound relay share

theorem pays (move : Move now meets a permits waiters b later remaining frames) :
    Pays now frames a b := by
  cases move with
  | quiet quiet | caches closed unregistered quiet | restages index generation found kept quiet
  | looks index wakeAt found quiet => exact ⟨quiet.limits, quiet.levels⟩
  | sends gate charges => exact ⟨charges.limits, charges.levels⟩
  | enters begun => exact .nothing begun.registers.limits begun.registers.ebbs
  | drops index found quiet =>
    obtain ⟨limits, ebbs⟩ := unregister_ebbs _ _
    exact Pays.ebbs ⟨quiet.limits, quiet.levels⟩ limits ebbs
  | closes =>
    obtain ⟨limits, ebbs⟩ := unregister_ebbs _ a
    exact .nothing limits ebbs
  | waits waiter waiting registers =>
    exact .nothing registers.limits registers.ebbs
  | leaves index found waiting gate charges =>
    exact Pays.ebbs ⟨charges.limits, charges.levels⟩ (leaveOpaque_effect now _ _).limits
      (leaveOpaque_effect now _ _).ebbs

end Move

/-! ### Time -/

namespace Registry
variable {limits : Limits} {relays : Registry} {now : Instant}

theorem Sound.later (sound : relays.Sound limits now) {later : Instant} (after : now ≤ later) :
    relays.Sound limits later :=
  fun relay entry found priority => (sound relay entry found priority).later after

theorem Sound.level_nonneg (sound : relays.Sound limits now) (relay : String) (priority : Bool) :
    0 ≤ relays.level limits now relay priority := by
  unfold level
  split
  · exact_mod_cast (limits.wire priority).burst_pos.le
  · rename_i entry found
    exact (sound relay entry found priority).level_nonneg

theorem Sound.level_le_burst (sound : relays.Sound limits now) (relay : String) (priority : Bool) :
    relays.level limits now relay priority ≤ (limits.wire priority).burst := by
  unfold level
  split
  · exact le_refl _
  rename_i entry found
  rw [← (sound relay entry found priority).burst]
  exact TokenBucket.level_le_burst _ _

/-- The tokens a relay gains in a nanosecond. -/
def wireRate (limits : Limits) (priority : Bool) : ℚ :=
  (limits.wire priority).ratePerMinute / (minute : Int)

theorem wireRate_nonneg (limits : Limits) (priority : Bool) : 0 ≤ wireRate limits priority := by
  have positive : (0 : ℚ) < (limits.wire priority).ratePerMinute := by
    exact_mod_cast (limits.wire priority).rate_pos
  exact div_nonneg positive.le (by norm_num [minute, second])

theorem Sound.level_later (sound : relays.Sound limits now) {later : Instant} (after : now ≤ later)
    (relay : String) (priority : Bool) :
    relays.level limits later relay priority ≤
      relays.level limits now relay priority + wireRate limits priority * (later - now) := by
  have forward : (0 : ℚ) ≤ (later : ℚ) - now := sub_nonneg.mpr (by exact_mod_cast after)
  unfold level
  split
  · have gain := mul_nonneg (wireRate_nonneg limits priority) forward
    linarith
  rename_i entry found
  have bucket := sound relay entry found priority
  have risen := bucket.level_later after
  rw [bucket.rate] at risen
  have same : ((later : ℚ) - now) / 10 ^ 9 * ((limits.wire priority).ratePerMinute / 60) =
      wireRate limits priority * (later - now) := by
    unfold wireRate minute second
    ring
  rwa [same] at risen

end Registry

/-! ### Runs -/

namespace System

/-- How often a step lets a frame be sent. -/
def sent (env : Env) (frame : Frame) (s : System) (action : Action) : Nat :=
  (s.perform env action).2.frames.count frame

/-- The books are kept and every wire bucket is one of its relay's budget. -/
structure Paced (config : Config) (s : System) : Prop where
  kept : s.Kept
  limits : s.admission.limits = normalizeConfig config
  sound : s.admission.relays.Sound (normalizeConfig config) s.clock

def wireLevel (config : Config) (frame : Frame) (s : System) : ℚ :=
  s.admission.relays.level (normalizeConfig config) s.clock frame.relay frame.priority

variable {config : Config} {s : System}

theorem Paced.ticks (paced : s.Paced config) (time : Nat) (frame : Frame) :
    Paced config { s with clock := s.clock + time } ∧
      wireLevel config frame { s with clock := s.clock + time } ≤
        s.wireLevel config frame + Registry.wireRate (normalizeConfig config) frame.priority *
          (((s.clock + time : Int) : ℚ) - s.clock) := by
  have after : s.clock ≤ s.clock + time := le_add_of_nonneg_right (Int.natCast_nonneg time)
  exact ⟨⟨⟨paced.kept.booked, paced.kept.attempts⟩, paced.limits, paced.sound.later after⟩,
    paced.sound.level_later after frame.relay frame.priority⟩

theorem Paced.moves (paced : s.Paced config) (stepped : s.Stepped meets result)
    (kept : result.1.Kept) (frame : Frame) :
    result.1.Paced config ∧ (result.2.frames.count frame : ℚ) + result.1.wireLevel config frame ≤
      s.wireLevel config frame := by
  obtain ⟨limits, paid⟩ := stepped.move.pays
  rw [paced.limits] at limits paid
  obtain ⟨sound, levels⟩ := paid paced.sound
  refine ⟨⟨kept, limits, stepped.clock ▸ sound⟩, ?_⟩
  have lower := levels frame.relay frame.priority
  unfold wireLevel
  rw [stepped.clock, add_comm]
  exact lower

theorem Paced.wireLevel_nonneg (paced : s.Paced config) (frame : Frame) :
    0 ≤ s.wireLevel config frame := paced.sound.level_nonneg _ _

theorem sent_of_tick (ticked : s.perform env action = (t, .done)) :
    s.sent env frame action = 0 := by
  rw [sent, ticked]
  rfl

theorem metered (env : Env) (config : Config) (frame : Frame) :
    Metered (after env) clock (sent env frame) (Paced config) (wireLevel config frame)
      (Registry.wireRate (normalizeConfig config) frame.priority)
      ((normalizeConfig config).wire frame.priority).burst := by
  refine ⟨Registry.wireRate_nonneg _ _, ?_, ?_, fun _ paced => paced.wireLevel_nonneg frame,
    fun _ paced => paced.sound.level_le_burst _ _, ?_, ?_⟩
  all_goals
    intro s action paced
    have kept := paced.kept.perform env action
    unfold after at *
    rcases perform_stepped env paced.kept action with ⟨time, ticked⟩ | stepped
  · rw [ticked]
    exact (paced.ticks time frame).1
  · exact (paced.moves stepped kept frame).1
  · rw [ticked]
    exact le_add_of_nonneg_right (Int.natCast_nonneg time)
  · exact stepped.clock.ge
  · rw [sent_of_tick ticked, Nat.cast_zero]
    exact paced.wireLevel_nonneg frame
  · obtain ⟨next, paid⟩ := paced.moves stepped kept frame
    have rest := next.wireLevel_nonneg frame
    unfold sent
    linarith
  · rw [sent_of_tick ticked, ticked, Nat.cast_zero, zero_add]
    exact (paced.ticks time frame).2
  · obtain ⟨_, paid⟩ := paced.moves stepped kept frame
    rw [stepped.clock, sub_self, mul_zero, add_zero]
    exact paid

theorem paced_start (config : Config) (now : Instant) : (start config now).Paced config :=
  ⟨kept_start config now, rfl, nofun⟩

/-- In every window a relay is sent at most its burst and what the window refills, and no
frame is let through while the kill switch is active or before the breaker has cooled. -/
theorem run_rate_bounded (env : Env) (config : Config) (now : Instant) (actions : List Action) :
    (∀ (relay : String) (priority : Bool) (first : Instant) (length : Nat),
      (spentWithin (after env) clock (sent env ⟨relay, priority⟩) first (first + length)
          (start config now) actions : ℚ) ≤
        ((normalizeConfig config).wire priority).burst +
          length * ((normalizeConfig config).wire priority).ratePerMinute / (minute : Int)) ∧
      ∀ action, (((start config now).run env actions).perform env action).2.frames ≠ [] →
        GateOpen ((start config now).run env actions).admission
          ((start config now).run env actions).clock action.meets := by
  constructor
  · intro relay priority first length
    have window : first ≤ first + length := le_add_of_nonneg_right (Int.natCast_nonneg length)
    have bound := (metered env config ⟨relay, priority⟩).spent_le window (paced_start config now)
      actions
    have width : Registry.wireRate (normalizeConfig config) priority *
        (((first + length : Int) : ℚ) - first) =
          length * ((normalizeConfig config).wire priority).ratePerMinute / (minute : Int) := by
      rw [Registry.wireRate]
      push_cast
      ring
    rwa [width] at bound
  · intro action authorised
    obtain ⟨kept, _⟩ := run_kept env config now actions
    rcases perform_stepped env kept action with ⟨time, ticked⟩ | stepped
    · rw [ticked] at authorised
      exact absurd rfl authorised
    · exact stepped.move.gate authorised

end System

end Bahia.Nostrout
