import WeatherStation.MainLoop

/-! The guard `while (count++)` of `main`.  `count` is a signed 32-bit variable:
the increment of its largest value has no defined result. -/
namespace WeatherStation
open Lib

/-- `main` from its loop on. -/
inductive MainState where
  | looping (count : Int32) (w : World)
  | overflowed
  | returned (w : World)

def postIncrement (count : Int32) : Option Int32 :=
  if count = Int32.maxValue then none else some (count + 1)

/-- One evaluation of the guard and the pass behind it. -/
def mainStep : MainState → IterEnv → MainState
  | .looping count w, env =>
    match postIncrement count with
    | none => .overflowed
    | some next => if count ≠ 0 then .looping next (w.pass env) else .returned w
  | state, _ => state

/-- The next evaluation increments within range and lets the loop go on. -/
def MainState.GuardHolds : MainState → Prop
  | .looping count _ => (postIncrement count).isSome ∧ count ≠ 0
  | _ => False

theorem ofNat_toInt {n : Nat} (h : n < 2 ^ 31) : (Int32.ofNat n).toInt = n :=
  Int32.toInt_ofNat_of_lt h

theorem ofNat_eq_maxValue {n : Nat} (h : n < 2 ^ 31) :
    Int32.ofNat n = Int32.maxValue ↔ n + 1 = 2 ^ 31 := by
  rw [← Int32.toInt_inj, ofNat_toInt h, Int32.toInt_maxValue]
  omega

theorem ofNat_ne_zero {n : Nat} (hpos : 0 < n) (h : n < 2 ^ 31) : Int32.ofNat n ≠ 0 := by
  rw [Ne, ← Int32.toInt_inj, ofNat_toInt h, Int32.toInt_zero]
  omega

theorem postIncrement_ofNat {n : Nat} (h : n + 1 < 2 ^ 31) :
    postIncrement (Int32.ofNat n) = some (Int32.ofNat (n + 1)) := by
  have hmax : Int32.ofNat n ≠ Int32.maxValue := by
    rw [Ne, ofNat_eq_maxValue (by omega)]
    omega
  rw [postIncrement, if_neg hmax, Int32.ofNat_add]
  rfl

theorem postIncrement_last : postIncrement (Int32.ofNat (2 ^ 31 - 1)) = none := by decide

theorem mainStep_looping {n : Nat} (hpos : 0 < n) (h : n + 1 < 2 ^ 31) (w : World)
    (env : IterEnv) :
    mainStep (.looping (Int32.ofNat n) w) env = .looping (Int32.ofNat (n + 1)) (w.pass env) := by
  rw [mainStep, postIncrement_ofNat h]
  exact if_pos (ofNat_ne_zero hpos (by omega))

theorem runs_overflowed (envs : List IterEnv) :
    runs mainStep .overflowed envs = .overflowed := by
  induction envs with
  | nil => rfl
  | cons env envs ih => exact ih

/-- As long as the evaluations fit, `count` counts them. -/
theorem runs_looping {n : Nat} (hpos : 0 < n) (w : World) (envs : List IterEnv)
    (h : n + envs.length < 2 ^ 31) :
    ∃ w', runs mainStep (.looping (Int32.ofNat n) w) envs =
      .looping (Int32.ofNat (n + envs.length)) w' := by
  induction envs generalizing n w with
  | nil => exact ⟨w, rfl⟩
  | cons env envs ih =>
    rw [List.length_cons] at h
    rw [runs_cons, mainStep_looping hpos (by omega), List.length_cons,
      Nat.add_comm envs.length 1, ← Nat.add_assoc]
    exact ih (by omega) (w.pass env) (by omega)

/-- One evaluation too many, and everything after it is undefined. -/
theorem runs_too_long {n : Nat} (hpos : 0 < n) (hn : n < 2 ^ 31) (w : World)
    (envs : List IterEnv) (h : 2 ^ 31 ≤ n + envs.length) :
    runs mainStep (.looping (Int32.ofNat n) w) envs = .overflowed := by
  induction envs generalizing n w with
  | nil =>
    rw [List.length_nil] at h
    omega
  | cons env envs ih =>
    rw [List.length_cons] at h
    rw [runs_cons]
    by_cases hlast : n + 1 < 2 ^ 31
    · rw [mainStep_looping hpos hlast]
      exact ih (by omega) hlast (w.pass env) (by omega)
    · have hn : n = 2 ^ 31 - 1 := by omega
      rw [hn, mainStep, postIncrement_last]
      exact runs_overflowed envs

/-- The last value of `count` is tested, but it cannot be incremented. -/
theorem not_guardHolds_last (w : World) {envs : List IterEnv}
    (h : 1 + envs.length = 2 ^ 31 - 1) :
    ¬(runs mainStep (.looping (Int32.ofNat 1) w) envs).GuardHolds := by
  obtain ⟨w', hruns⟩ := runs_looping Nat.one_pos w envs (by omega)
  rw [hruns, h, MainState.GuardHolds, postIncrement_last]
  exact fun hguard => Bool.false_ne_true hguard.1

/-- The evaluation that comes after these passes is sound exactly when its number
is less than the largest value of the counter. -/
theorem guardHolds_iff (w : World) (envs : List IterEnv) :
    (runs mainStep (.looping 1 w) envs).GuardHolds ↔ envs.length + 1 < 2 ^ 31 - 1 := by
  have hone : (1 : Int32) = Int32.ofNat 1 := rfl
  rw [hone]
  by_cases hfits : 1 + envs.length + 1 < 2 ^ 31
  · obtain ⟨w', hruns⟩ := runs_looping Nat.one_pos w envs (by omega)
    rw [hruns, MainState.GuardHolds, postIncrement_ofNat hfits]
    exact iff_of_true ⟨rfl, ofNat_ne_zero (by omega) (by omega)⟩ (by omega)
  · by_cases hlast : 1 + envs.length = 2 ^ 31 - 1
    · exact iff_of_false (not_guardHolds_last w hlast) (by omega)
    · rw [runs_too_long Nat.one_pos (by decide) w envs (by omega)]
      exact iff_of_false id (by omega)

/-- The station runs idle for 2³¹ - 2 passes. -/
def idlePasses : List IterEnv := List.replicate (2 ^ 31 - 2) (silentPass 0)

theorem idlePasses_length : idlePasses.length = 2 ^ 31 - 2 := List.length_replicate

theorem idlePasses_overflow :
    ¬∀ (w : World) (envs : List IterEnv), (runs mainStep (.looping 1 w) envs).GuardHolds := by
  intro h
  -- the list stays opaque, or its two billion passes would be unfolded
  obtain ⟨envs, hlength⟩ : ∃ envs : List IterEnv, envs.length = 2 ^ 31 - 2 :=
    ⟨idlePasses, idlePasses_length⟩
  have hlast : 1 + envs.length = 2 ^ 31 - 1 := by omega
  exact not_guardHolds_last bootedWorld hlast (h bootedWorld envs)

end WeatherStation
