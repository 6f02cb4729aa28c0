import Mathlib.Algebra.Order.Ring.Int
import Mathlib.Logic.Function.Iterate
import Mathlib.Tactic.Linarith
import Mathlib.Tactic.Ring

/-! An error accumulator spreads `delta` moves evenly over `distance` steps: each
step adds `delta` to the error, and a move takes `distance` away again. -/
namespace WeatherStation.Lib

structure Accumulator where
  error : ℤ
  moves : ℕ

namespace Accumulator

def init : Accumulator := ⟨0, 0⟩

def advance (delta distance : ℤ) (a : Accumulator) : Accumulator :=
  if a.error + delta > distance then ⟨a.error + delta - distance, a.moves + 1⟩
  else ⟨a.error + delta, a.moves⟩

/-- The state after so many steps. -/
def after (delta distance : ℤ) (steps : ℕ) : Accumulator := (advance delta distance)^[steps] init

variable {delta distance : ℤ}

theorem after_succ (steps : ℕ) :
    after delta distance (steps + 1) = advance delta distance (after delta distance steps) :=
  Function.iterate_succ_apply' ..

theorem moves_le_succ (steps : ℕ) :
    (after delta distance steps).moves ≤ (after delta distance (steps + 1)).moves ∧
      (after delta distance (steps + 1)).moves ≤ (after delta distance steps).moves + 1 := by
  rw [after_succ, advance]
  split <;> simp

/-- Nothing is lost: the error is what the moves have not yet made up for. -/
theorem error_eq (steps : ℕ) :
    (after delta distance steps).error =
      steps * delta - (after delta distance steps).moves * distance := by
  induction steps with
  | zero => simp [after, init]
  | succ steps ih =>
    rw [after_succ, advance]
    split
    · simp only [ih]
      push_cast
      ring
    · simp only [ih]
      push_cast
      ring

theorem moves_mono {earlier later : ℕ} (h : earlier ≤ later) :
    (after delta distance earlier).moves ≤ (after delta distance later).moves := by
  induction h with
  | refl => exact le_rfl
  | step _ ih => exact ih.trans (moves_le_succ _).1

theorem after_zero (hdistance : 0 ≤ distance) (steps : ℕ) : after 0 distance steps = init := by
  have hstep : advance 0 distance init = init := by
    simp [advance, init, not_lt.mpr hdistance]
  exact Function.iterate_fixed hstep steps

theorem error_pos_le (hpos : 0 < delta) (hle : delta ≤ distance) (steps : ℕ) :
    0 < (after delta distance (steps + 1)).error ∧
      (after delta distance (steps + 1)).error ≤ distance := by
  induction steps with
  | zero =>
    have hfirst : after delta distance 1 = ⟨delta, 0⟩ := by
      simp [after, advance, init, hle]
    rw [hfirst]
    exact ⟨hpos, hle⟩
  | succ steps ih =>
    rw [after_succ, advance]
    split <;> constructor <;> dsimp only <;> omega

section
variable (hnonneg : 0 ≤ delta) (hle : delta ≤ distance)
include hnonneg hle

/-- After a first step without a move, the moves stay within one of the even spread. -/
theorem moves_near (hdistance : 0 < distance) (steps : ℕ) :
    -distance < (after delta distance (steps + 1)).moves * distance - steps * delta ∧
      (after delta distance (steps + 1)).moves * distance - steps * delta < distance := by
  rcases hnonneg.eq_or_lt with rfl | hpos
  · rw [after_zero hdistance.le, init]
    constructor <;> simp [hdistance]
  · have herror := error_pos_le hpos hle steps
    rw [error_eq] at herror
    push_cast at herror
    constructor <;> linarith [herror.1, herror.2]

/-- Between steps the error stays within the distance, however many there are. -/
theorem error_bounds (steps : ℕ) :
    0 ≤ (after delta distance steps).error ∧ (after delta distance steps).error ≤ distance := by
  rcases hnonneg.eq_or_lt with rfl | hpos
  · rw [after_zero hle]
    exact ⟨le_rfl, hle⟩
  · cases steps with
    | zero => exact ⟨le_rfl, hpos.le.trans hle⟩
    | succ steps =>
      have herror := error_pos_le hpos hle steps
      exact ⟨herror.1.le, herror.2⟩

/-- All moves are made one step late. -/
theorem moves_last {n : ℕ} (hn : distance = n) :
    ((after delta distance (n + 1)).moves : ℤ) = delta := by
  rcases (hnonneg.trans hle).eq_or_lt with hzero | hdistance
  · obtain rfl : delta = 0 := le_antisymm (hle.trans hzero.symm.le) hnonneg
    rw [after_zero hzero.le]
    rfl
  · have hnear := moves_near hnonneg hle hdistance n
    rw [← hn] at hnear
    have hlow : -1 < ((after delta distance (n + 1)).moves : ℤ) - delta := by
      nlinarith [hnear.1]
    have hhigh : ((after delta distance (n + 1)).moves : ℤ) - delta < 1 := by
      nlinarith [hnear.2]
    omega

theorem moves_le {n steps : ℕ} (hn : distance = n) (hsteps : steps ≤ n + 1) :
    ((after delta distance steps).moves : ℤ) ≤ delta := by
  have hmono := @moves_mono delta distance steps (n + 1) hsteps
  have hlast := moves_last hnonneg hle hn
  omega

end

/-- The axis with the largest delta moves in every step but the first. -/
theorem moves_major (hdistance : 0 < distance) (steps : ℕ) :
    (after distance distance (steps + 1)).moves = steps := by
  have hnear := moves_near hdistance.le le_rfl hdistance steps
  have hlow : -1 < ((after distance distance (steps + 1)).moves : ℤ) - steps := by
    nlinarith [hnear.1]
  have hhigh : ((after distance distance (steps + 1)).moves : ℤ) - steps < 1 := by
    nlinarith [hnear.2]
  omega

end Accumulator
end WeatherStation.Lib
