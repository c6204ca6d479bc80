import Mathlib.Algebra.Order.Field.Basic
import Mathlib.Algebra.Order.Field.Rat
import Mathlib.Tactic.FieldSimp
import Mathlib.Tactic.Linarith
import Mathlib.Tactic.Ring
import TabNavigator.Fade

/-!
# The curve of a fade, exactly

A fade read over the rationals, where nothing is rounded. The seconds of a duration are
its nanoseconds over a fixed count (`seconds_eq`), so the progress of a fade that has
time is the elapsed part of that time, capped at one (`progress_eq_min`). All that is
said about when a fade ends comes from there: it is complete from the moment its time
is over, not before, and a fade that is complete rests at its target.

A fade without time would divide by zero. The laws that speak of the progress ask for a
duration for that reason, and the one that does not (`isAnimating_eq_false_iff`) holds
because what a division by zero gives is still capped.
-/

namespace TabNavigator

namespace Scalar

theorem one_rat : (one : Rat) = 1 := rfl

theorem below_rat (a b : Rat) : below a b = decide (a < b) := rfl

theorem capAtOne_rat (x : Rat) : capAtOne x = min x 1 := by
  rw [capAtOne, below_rat, one_rat]
  by_cases h : x < 1
  · rw [if_pos (decide_eq_true h), min_eq_left h.le]
  · rw [if_neg (by simpa using h), min_eq_right (not_lt.mp h)]

end Scalar

namespace Duration

theorem le_between_iff {start now : Int} {d : Nat} :
    d ≤ between start now ↔ start + d ≤ now ∨ d = 0 := by
  show d ≤ (now - start).toNat ↔ start + d ≤ now ∨ d = 0
  omega

theorem seconds_eq (d : Duration) : (d.seconds : Rat) = d / 1000000000 := by
  show ((d / second : Nat) : Rat) + ((d % second : Nat) : Rat) / ((second : Nat) : Rat) =
    d / 1000000000
  have hsplit : ((second * (d / second) + d % second : Nat) : Rat) = d := by
    rw [Nat.div_add_mod]
  rw [← hsplit]
  push_cast [second]
  field_simp

theorem seconds_ne_zero {d : Duration} (h : d ≠ 0) : (d.seconds : Rat) ≠ 0 := by
  have hcast : (d : Rat) ≠ 0 := by exact_mod_cast h
  rw [seconds_eq]
  exact div_ne_zero hcast (by norm_num)

end Duration

namespace Fade

/-! ## How far a fade is -/

theorem progress_of_settled {fade : Fade Rat} (hsettled : fade.started = none)
    (now : Moment) : fade.progress now = 1 := by
  rw [progress, hsettled]; rfl

/-- The progress of a fade that is under way: the elapsed part of its time, at most one. -/
theorem progress_eq_min {fade : Fade Rat} {start : Moment}
    (hstarted : fade.started = some start) (now : Moment) :
    fade.progress now = min ((Duration.between start now : Rat) / fade.duration) 1 := by
  have hunit : (1000000000 : Rat) ≠ 0 := by norm_num
  rw [progress, hstarted]
  simp only []
  rw [Scalar.capAtOne_rat, Duration.seconds_eq, Duration.seconds_eq]
  exact congrArg (min · 1) (div_div_div_cancel_right₀ hunit _ _)

theorem progress_le_one (fade : Fade Rat) (now : Moment) : fade.progress now ≤ 1 := by
  cases hstarted : fade.started with
  | none => rw [progress_of_settled hstarted]
  | some start =>
      rw [progress_eq_min hstarted]
      exact min_le_right _ _

/-- A fade is complete from the moment its time is over. -/
theorem progress_of_over {fade : Fade Rat} {start now : Moment}
    (hstarted : fade.started = some start) (htimed : fade.duration ≠ 0)
    (hended : start + fade.duration ≤ now) : fade.progress now = 1 := by
  have hpos : (0 : Rat) < fade.duration := by exact_mod_cast Nat.pos_of_ne_zero htimed
  have helapsed : fade.duration ≤ Duration.between start now :=
    Duration.le_between_iff.mpr (Or.inl hended)
  have hle : (fade.duration : Rat) ≤ Duration.between start now := by
    exact_mod_cast helapsed
  rw [progress_eq_min hstarted, min_eq_right]
  rw [le_div_iff₀ hpos, one_mul]
  exact hle

/-- And not before. -/
theorem over_of_progress {fade : Fade Rat} {start now : Moment}
    (hstarted : fade.started = some start) (htimed : fade.duration ≠ 0)
    (hcomplete : fade.progress now = 1) : start + fade.duration ≤ now := by
  have hpos : (0 : Rat) < fade.duration := by exact_mod_cast Nat.pos_of_ne_zero htimed
  rw [progress_eq_min hstarted, min_eq_right_iff, le_div_iff₀ hpos, one_mul] at hcomplete
  have helapsed : fade.duration ≤ Duration.between start now := by exact_mod_cast hcomplete
  exact (Duration.le_between_iff.mp helapsed).resolve_right htimed

/-! ## Where a fade ends -/

theorem isAnimating_eq_false_iff (fade : Fade Rat) (now : Moment) :
    fade.isAnimating now = false ↔ fade.progress now = 1 := by
  rw [isAnimating, Scalar.below_rat, Scalar.one_rat]
  cases hstarted : fade.started with
  | none =>
      rw [progress_of_settled hstarted]
      exact ⟨fun _ => rfl, fun _ => rfl⟩
  | some start =>
      rw [Option.isSome_some, Bool.true_and, decide_eq_false_iff_not, not_lt]
      exact ⟨fun h => le_antisymm (fade.progress_le_one now) h, fun h => h.ge⟩

/-- A fade that has the time it needs is under way until its time is over. -/
theorem isAnimating_eq_false_iff_over {fade : Fade Rat} {now : Moment}
    (htimed : ∀ start, fade.started = some start → fade.duration ≠ 0) :
    fade.isAnimating now = false ↔
      ∀ start, fade.started = some start → start + fade.duration ≤ now := by
  rw [isAnimating_eq_false_iff]
  constructor
  · intro hcomplete start hstarted
    exact over_of_progress hstarted (htimed start hstarted) hcomplete
  · intro hended
    cases hstarted : fade.started with
    | none => exact progress_of_settled hstarted now
    | some start =>
        exact progress_of_over hstarted (htimed start hstarted) (hended start hstarted)

theorem ease_one : ease (1 : Rat) = 1 := by
  show (1 : Rat) * 1 * (3 - 2 * 1) = 1
  norm_num

/-- A fade that is complete rests at its target. -/
theorem opacity_of_complete {fade : Fade Rat} {now : Moment}
    (hcomplete : fade.progress now = 1) : fade.opacity now = fade.target := by
  rw [opacity, hcomplete, ease_one]
  show fade.origin + (fade.target - fade.origin) * 1 = fade.target
  ring

end Fade

end TabNavigator
