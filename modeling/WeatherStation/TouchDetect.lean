import Mathlib.Algebra.Order.Ring.Nat
import Mathlib.Data.List.Induction
import WeatherStation.Lib.Runs
import WeatherStation.Lib.Streak

/-! `XPT2046_TouchDetect` debounces the pen interrupt line of the touch panel. -/
namespace WeatherStation.Xpt2046
open Lib

/-- `enumTouchState`; `touch_state` never holds another value. -/
inductive TouchState where
  | release | waiting | pressed
  deriving DecidableEq, Repr

def touchPressed : UInt8 := 1
def touchNotPressed : UInt8 := 0

/-- DURIATION_TIME. -/
def duriationTime : ℕ := 2

/-- The static variables. -/
structure Detector where
  touchState : TouchState
  i : UInt32
  deriving DecidableEq, Repr

def Detector.init : Detector := ⟨.release, 0⟩

/-- `XPT2046_TouchDetect` with DURIATION_TIME as a parameter; every branch reads
the line once. -/
def touchDetect (threshold : ℕ) (detector : Detector) (active : Bool) : UInt8 × Detector :=
  match detector.touchState with
  | .release =>
    if active then (touchNotPressed, { detector with touchState := .waiting })
    else (touchNotPressed, { detector with touchState := .release })
  | .waiting =>
    if active then
      let i := detector.i + 1
      if i.toNat > threshold then (touchPressed, ⟨.pressed, 0⟩)
      else (touchNotPressed, ⟨.waiting, i⟩)
    else (touchNotPressed, ⟨.release, 0⟩)
  | .pressed =>
    if active then (touchPressed, { detector with touchState := .pressed })
    else (touchNotPressed, { detector with touchState := .release })

def Detector.after (threshold : ℕ) (levels : List Bool) : Detector :=
  runs (fun detector active => (touchDetect threshold detector active).2) .init levels

/-- The result of the call that reads `active` after the calls that read the
earlier levels. -/
def detectResult (threshold : ℕ) (earlier : List Bool) (active : Bool) : UInt8 :=
  (touchDetect threshold (.after threshold earlier) active).1

/-- What debouncing should do: a press is reported when this level and as many
before it as the threshold and one more are active. -/
structure DebounceExact (threshold : ℕ) (earlier : List Bool) (active : Bool) : Prop where
  pressed : detectResult threshold earlier active = touchPressed ↔
    List.replicate (threshold + 2) true <:+ earlier ++ [active]
  idle : (Detector.after threshold (earlier ++ [active])).touchState ≠ .waiting →
    (Detector.after threshold (earlier ++ [active])).i = 0

/-- The state that belongs to a streak of active levels. -/
def Detector.of (threshold streak : ℕ) : Detector :=
  if streak = 0 then ⟨.release, 0⟩
  else if streak ≤ threshold + 1 then ⟨.waiting, .ofNat (streak - 1)⟩
  else ⟨.pressed, 0⟩

section
variable {threshold : ℕ}

theorem Detector.after_concat (earlier : List Bool) (active : Bool) :
    Detector.after threshold (earlier ++ [active]) =
      (touchDetect threshold (.after threshold earlier) active).2 := runs_append ..

theorem touchDetect_inactive (streak : ℕ) :
    touchDetect threshold (.of threshold streak) false = (touchNotPressed, .of threshold 0) := by
  unfold Detector.of
  split
  · rfl
  · split <;> rfl

/-- One more active level; the counter must be able to exceed the threshold. -/
theorem touchDetect_active (hthreshold : threshold < 2 ^ 32 - 1) (streak : ℕ) :
    touchDetect threshold (.of threshold streak) true =
      (if threshold + 2 ≤ streak + 1 then touchPressed else touchNotPressed,
        .of threshold (streak + 1)) := by
  by_cases hreleased : streak = 0
  · subst hreleased
    simp [Detector.of, touchDetect]
  · by_cases hwaiting : streak ≤ threshold + 1
    · have hi : UInt32.ofNat (streak - 1) + 1 = UInt32.ofNat streak := by
        rw [← UInt32.ofNat_one, ← UInt32.ofNat_add, Nat.sub_add_cancel (by omega)]
      have hsize : streak < 2 ^ 32 := by omega
      have hvalue : (UInt32.ofNat streak).toNat = streak := UInt32.toNat_ofNat_of_lt' hsize
      have hstate : Detector.of threshold streak = ⟨.waiting, .ofNat (streak - 1)⟩ := by
        simp [Detector.of, hreleased, hwaiting]
      rw [hstate]
      simp only [touchDetect, ↓reduceIte, hi, hvalue]
      by_cases hlast : streak = threshold + 1
      · subst hlast
        simp [Detector.of]
      · simp only [Detector.of]
        split <;> grind
    · simp only [Detector.of, hreleased, hwaiting, touchDetect]
      grind

theorem Detector.after_eq (hthreshold : threshold < 2 ^ 32 - 1) (levels : List Bool) :
    Detector.after threshold levels = .of threshold (streak true levels) := by
  induction levels using List.reverseRecOn with
  | nil => rfl
  | append_singleton earlier active ih =>
    rw [Detector.after_concat, ih]
    cases active with
    | false => simp [touchDetect_inactive]
    | true => simp [touchDetect_active hthreshold]

theorem Detector.after_idle (levels : List Bool) :
    (Detector.after threshold levels).touchState ≠ .waiting →
      (Detector.after threshold levels).i = 0 := by
  induction levels using List.reverseRecOn with
  | nil => exact fun _ => rfl
  | append_singleton earlier active ih =>
    rw [Detector.after_concat]
    unfold touchDetect
    cases active <;> grind

/-- Debouncing is exact for every threshold that the counter can exceed. -/
theorem debounceExact (hthreshold : threshold < 2 ^ 32 - 1) (earlier : List Bool)
    (active : Bool) : DebounceExact threshold earlier active where
  pressed := by
    rw [replicate_suffix_iff, streak_concat, detectResult, Detector.after_eq hthreshold]
    cases active with
    | false => simp [touchDetect_inactive, touchPressed, touchNotPressed]
    | true =>
      rw [touchDetect_active hthreshold]
      split <;> simp_all [touchPressed, touchNotPressed]
  idle := Detector.after_idle _

theorem debounceExact_duriationTime :
    DebounceExact duriationTime [false, true, true, true] true :=
  debounceExact (by decide) _ _

/-- A larger threshold is never exceeded. -/
theorem detectResult_of_le (hthreshold : 2 ^ 32 - 1 ≤ threshold) (levels : List Bool) :
    (Detector.after threshold levels).touchState ≠ .pressed ∧
      ∀ active, detectResult threshold levels active = touchNotPressed := by
  have hcounter : ∀ i : UInt32, i.toNat ≤ threshold := fun i => by
    have hsize := i.toNat_lt
    omega
  have hresult : ∀ detector : Detector, detector.touchState ≠ .pressed → ∀ active,
      (touchDetect threshold detector active).1 = touchNotPressed ∧
        (touchDetect threshold detector active).2.touchState ≠ .pressed := by
    intro detector hdetector active
    unfold touchDetect
    cases active <;> grind
  have hstate : (Detector.after threshold levels).touchState ≠ .pressed := by
    induction levels using List.reverseRecOn with
    | nil => exact nofun
    | append_singleton earlier active ih =>
      rw [Detector.after_concat]
      exact (hresult _ ih active).2
  exact ⟨hstate, fun active => (hresult _ hstate active).1⟩

/-- The line stays active, and the counter goes around below the threshold. -/
theorem uint32Max_neverPressed :
    ¬∀ threshold earlier active, DebounceExact threshold earlier active := by
  intro h
  obtain ⟨threshold, hthreshold⟩ : ∃ threshold, threshold = 2 ^ 32 - 1 := ⟨_, rfl⟩
  have hpressed := (h threshold (List.replicate (threshold + 1) true) true).pressed
  rw [← List.replicate_succ', (detectResult_of_le (Nat.le_of_eq hthreshold.symm) _).2] at hpressed
  exact absurd (hpressed.mpr List.suffix_rfl) (by decide)

end
end WeatherStation.Xpt2046
