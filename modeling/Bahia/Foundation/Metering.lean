import Mathlib

/-! Runs of a system that spends from a level while time refills it. The level is a
potential: what a run spends inside a window of time is bounded by the cap of the level and
by what can refill within the window. -/

namespace Bahia.Foundation

universe u v

variable {State : Type u} {Action : Type v} (next : State → Action → State)
variable (clock : State → Int) (spent : State → Action → Nat)

/-- What the steps of a run spend while the clock is between two instants. -/
def spentWithin (first last : Int) : State → List Action → Nat
  | _, [] => 0
  | state, action :: rest =>
    (if first ≤ clock state ∧ clock state ≤ last then spent state action else 0) +
      spentWithin first last (next state action) rest

/-- Steps that keep the invariant pay what they spend from the level, and the level rises
no faster than `rate` for each unit of time and never above `burst`. -/
structure Metered (invariant : State → Prop) (level : State → ℚ) (rate burst : ℚ) : Prop where
  rate_nonneg : 0 ≤ rate
  keeps : ∀ state action, invariant state → invariant (next state action)
  forward : ∀ state action, invariant state → clock state ≤ clock (next state action)
  nonneg : ∀ state, invariant state → 0 ≤ level state
  capped : ∀ state, invariant state → level state ≤ burst
  paid : ∀ state action, invariant state → (spent state action : ℚ) ≤ level state
  settles : ∀ state action, invariant state →
    spent state action + level (next state action) ≤
      level state + rate * (clock (next state action) - clock state)

namespace Metered
variable {next clock spent} {invariant : State → Prop} {level : State → ℚ}

variable (metered : Metered next clock spent invariant level rate burst)
include metered

theorem spent_after (holds : invariant state) (ended : last < clock state)
    (actions : List Action) : spentWithin next clock spent first last state actions = 0 := by
  induction actions generalizing state with
  | nil => rfl
  | cons action rest ih =>
    have later := metered.forward state action holds
    rw [spentWithin, if_neg (by omega), ih (metered.keeps state action holds) (by omega)]

/-- Inside the window the level and the time left bound what is still to be spent. -/
theorem spent_inside (first : Int) (holds : invariant state)
    (inside : clock state ≤ last) (actions : List Action) :
    (spentWithin next clock spent first last state actions : ℚ) ≤
      level state + rate * (last - clock state) := by
  induction actions generalizing state with
  | nil =>
    have left : (0 : ℚ) ≤ last - clock state := sub_nonneg.mpr (by exact_mod_cast inside)
    rw [spentWithin, Nat.cast_zero]
    exact add_nonneg (metered.nonneg state holds) (mul_nonneg metered.rate_nonneg left)
  | cons action rest ih =>
    have here : ((if first ≤ clock state ∧ clock state ≤ last then spent state action else 0 : Nat) :
        ℚ) ≤ spent state action := by
      split
      · exact le_refl _
      · exact_mod_cast Nat.zero_le _
    rw [spentWithin, Nat.cast_add]
    by_cases still : clock (next state action) ≤ last
    · have later := ih (metered.keeps state action holds) still
      have settles := metered.settles state action holds
      linarith
    · have left : (0 : ℚ) ≤ last - clock state := sub_nonneg.mpr (by exact_mod_cast inside)
      have refill := mul_nonneg metered.rate_nonneg left
      have paid := metered.paid state action holds
      rw [metered.spent_after (metered.keeps state action holds) (not_le.mp still) rest, Nat.cast_zero]
      linarith

/-- Over any window a run spends at most the cap and what the window refills. -/
theorem spent_le (window : first ≤ last) (holds : invariant state) (actions : List Action) :
    (spentWithin next clock spent first last state actions : ℚ) ≤ burst + rate * (last - first) := by
  have width : (0 : ℚ) ≤ last - first := sub_nonneg.mpr (by exact_mod_cast window)
  have refill := mul_nonneg metered.rate_nonneg width
  have cap : 0 ≤ burst := (metered.nonneg state holds).trans (metered.capped state holds)
  induction actions generalizing state with
  | nil =>
    rw [spentWithin, Nat.cast_zero]
    linarith
  | cons action rest ih =>
    by_cases early : clock state < first
    · rw [spentWithin, if_neg (by omega), Nat.zero_add]
      exact ih (metered.keeps state action holds)
    by_cases inside : clock state ≤ last
    · have bound := metered.spent_inside first holds inside (action :: rest)
      have capped := metered.capped state holds
      have shorter : rate * (last - clock state) ≤ rate * (last - first) := by
        apply mul_le_mul_of_nonneg_left _ metered.rate_nonneg
        have begun : (first : ℚ) ≤ clock state := by exact_mod_cast not_lt.mp early
        linarith
      linarith
    · rw [metered.spent_after holds (not_le.mp inside) (action :: rest), Nat.cast_zero]
      linarith

end Metered

end Bahia.Foundation
