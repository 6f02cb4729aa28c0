import Mathlib.Data.Fin.VecNotation
import Mathlib.Tactic.Positivity
import Mathlib.Tactic.Ring
import Mathlib.Tactic.Tauto
import WeatherStation.Ili9341
import WeatherStation.Lib.IntTerm

/-! `XPT2046_Calculate_CalibrationFactor`: the factors interpolate the crosses of the
calibration as long as the sums for Cn and Fn stay in 32 bits. -/
namespace WeatherStation.Xpt2046
open Lib
open Ili9341 (Panel)

/-- `strType_XPT2046_Coordinate` without the previous position. -/
structure ScreenPoint where
  x : Int16
  y : Int16
  deriving DecidableEq, Repr

/-- `strType_XPT2046_Calibration`, its floats taken as exact. -/
structure Calibration where
  an : ℤ
  bn : ℤ
  cn : ℤ
  dn : ℤ
  en : ℤ
  fn : ℤ
  divider : ℤ
  deriving DecidableEq, Repr

/-! ### The factors -/

-- a name for the instance behind the indices of the four points
local instance fourPoints : NeZero 4 := ⟨by decide⟩

section
variable (x y d : Fin 4 → IntTerm)

def dividerTerm : IntTerm := (x 0 - x 2) * (y 1 - y 2) - (x 1 - x 2) * (y 0 - y 2)

/-- An for the display coordinates XD, Dn for YD. -/
def anTerm : IntTerm := (d 0 - d 2) * (y 1 - y 2) - (d 1 - d 2) * (y 0 - y 2)

/-- Bn and En. -/
def bnTerm : IntTerm := (x 0 - x 2) * (d 1 - d 2) - (d 0 - d 2) * (x 1 - x 2)

/-- Cn and Fn. -/
def cnTerm : IntTerm :=
  (x 2 * d 1 - x 1 * d 2) * y 0 + (x 0 * d 2 - x 2 * d 0) * y 1 + (x 1 * d 0 - x 0 * d 1) * y 2

end

def xTerm (points : Fin 4 → ScreenPoint) (i : Fin 4) : IntTerm := .const (points i).x.toInt

def yTerm (points : Fin 4 → ScreenPoint) (i : Fin 4) : IntTerm := .const (points i).y.toInt

/-- None if an intermediate result overflows; else the factors, or none of them if
Divider is 0. -/
def calculateCalibrationFactor (display sample : Fin 4 → ScreenPoint) :
    Option (Option Calibration) := do
  let x := xTerm sample
  let y := yTerm sample
  let divider ← (dividerTerm x y).eval
  if divider = 0 then return none
  else
    let an ← (anTerm y (xTerm display)).eval
    let bn ← (bnTerm x (xTerm display)).eval
    let cn ← (cnTerm x y (xTerm display)).eval
    let dn ← (anTerm y (yTerm display)).eval
    let en ← (bnTerm x (yTerm display)).eval
    let fn ← (cnTerm x y (yTerm display)).eval
    return some ⟨an, bn, cn, dn, en, fn, divider⟩

/-- The crosses of `XPT2046_Touch_Calibrate`. -/
def crossCoordinate (panel : Panel) : Fin 4 → ScreenPoint
  | 0 => ⟨.ofNat (panel.lcdXLength.toNat >>> 2), .ofNat (panel.lcdYLength.toNat >>> 2)⟩
  | 1 => ⟨.ofNat (panel.lcdXLength.toNat >>> 2), .ofNat ((panel.lcdYLength.toNat * 3) >>> 2)⟩
  | 2 => ⟨.ofNat ((panel.lcdXLength.toNat * 3) >>> 2), .ofNat ((panel.lcdYLength.toNat * 3) >>> 2)⟩
  | 3 => ⟨.ofNat ((panel.lcdXLength.toNat * 3) >>> 2), .ofNat (panel.lcdYLength.toNat >>> 2)⟩

/-! ### Interpolation -/

/-- The factors send the samples to the crosses. -/
def Calibration.Interpolates (factors : Calibration) (display sample : Fin 4 → ScreenPoint) : Prop :=
  ∀ i : Fin 3,
    factors.an * (sample i.castSucc).x.toInt + factors.bn * (sample i.castSucc).y.toInt +
        factors.cn = factors.divider * (display i.castSucc).x.toInt ∧
      factors.dn * (sample i.castSucc).x.toInt + factors.en * (sample i.castSucc).y.toInt +
        factors.fn = factors.divider * (display i.castSucc).y.toInt

/-- Nothing overflows, and the factors interpolate. -/
def CalibrationExact (panel : Panel) (sample : Fin 4 → ScreenPoint) : Prop :=
  ∃ factors, calculateCalibrationFactor (crossCoordinate panel) sample = some (some factors) ∧
    factors.Interpolates (crossCoordinate panel) sample

section
variable (panel : Panel) (sample : Fin 4 → ScreenPoint)

/-- The products of Cn and their sums that could overflow, with the position of the
first cross. -/
def CnSumsFit : Prop :=
  let (x0, x1, x2) := ((sample 0).x.toInt, (sample 1).x.toInt, (sample 2).x.toInt)
  let (y0, y1, y2) := ((sample 0).y.toInt, (sample 1).y.toInt, (sample 2).y.toInt)
  let a : ℤ := panel.lcdXLength.toNat / 4
  InInt32 (a * (x2 - 3 * x1) * y0) ∧ InInt32 (a * (3 * x0 - x2) * y1) ∧
    InInt32 (a * ((x2 - 3 * x1) * y0 + (3 * x0 - x2) * y1)) ∧
    InInt32 (a * ((x2 - 3 * x1) * y0 + (3 * x0 - x2) * y1 + (x1 - x0) * y2))

def FnSumsFit : Prop :=
  let (x0, x1, x2) := ((sample 0).x.toInt, (sample 1).x.toInt, (sample 2).x.toInt)
  let (y0, y1, y2) := ((sample 0).y.toInt, (sample 1).y.toInt, (sample 2).y.toInt)
  let b : ℤ := panel.lcdYLength.toNat / 4
  InInt32 (b * (3 * x2 - 3 * x1) * y0) ∧ InInt32 (b * (3 * x0 - x2) * y1) ∧
    InInt32 (b * (x1 - 3 * x0) * y2) ∧
    InInt32 (b * ((3 * x2 - 3 * x1) * y0 + (3 * x0 - x2) * y1)) ∧
    InInt32 (b * ((3 * x2 - 3 * x1) * y0 + (3 * x0 - x2) * y1 + (x1 - 3 * x0) * y2))

instance : Decidable (CnSumsFit panel sample) := inferInstanceAs (Decidable (_ ∧ _))

instance : Decidable (FnSumsFit panel sample) := inferInstanceAs (Decidable (_ ∧ _))

end

/-- A sample of the 12-bit converter. -/
def ScreenPoint.Sampled (point : ScreenPoint) : Prop :=
  (0 ≤ point.x.toInt ∧ point.x.toInt ≤ 4095) ∧ 0 ≤ point.y.toInt ∧ point.y.toInt ≤ 4095

instance (point : ScreenPoint) : Decidable point.Sampled := inferInstanceAs (Decidable (_ ∧ _))

theorem crossCoordinate_x (panel : Panel) :
    (crossCoordinate panel 0).x.toInt = panel.lcdXLength.toNat / 4 ∧
      (crossCoordinate panel 1).x.toInt = panel.lcdXLength.toNat / 4 ∧
      (crossCoordinate panel 2).x.toInt = 3 * (panel.lcdXLength.toNat / 4) := by
  unfold crossCoordinate
  rcases panel.oriented with ⟨hx, hy⟩ | ⟨hx, hy⟩ <;> rw [hx, hy] <;> decide

theorem crossCoordinate_y (panel : Panel) :
    (crossCoordinate panel 0).y.toInt = panel.lcdYLength.toNat / 4 ∧
      (crossCoordinate panel 1).y.toInt = 3 * (panel.lcdYLength.toNat / 4) ∧
      (crossCoordinate panel 2).y.toInt = 3 * (panel.lcdYLength.toNat / 4) := by
  unfold crossCoordinate
  rcases panel.oriented with ⟨hx, hy⟩ | ⟨hx, hy⟩ <;> rw [hx, hy] <;> decide

theorem castSucc_two : Fin.castSucc (2 : Fin 3) = 2 := rfl

theorem value_interpolates (x y d : Fin 4 → IntTerm) (i : Fin 3) :
    (anTerm y d).value * (x i.castSucc).value + (bnTerm x d).value * (y i.castSucc).value +
      (cnTerm x y d).value = (dividerTerm x y).value * (d i.castSucc).value := by
  simp only [anTerm, bnTerm, cnTerm, dividerTerm, IntTerm.value_sub, IntTerm.value_mul,
    IntTerm.value_add]
  match i with
  | 0 =>
    rw [Fin.castSucc_zero]
    ring
  | 1 =>
    rw [Fin.castSucc_one]
    ring
  | 2 =>
    rw [castSucc_two]
    ring

/-! ### Overflows -/

section
variable {x y d : Fin 4 → IntTerm} {bound : ℤ}
  (hx : ∀ i : Fin 3, (x i.castSucc).Within 4095) (hy : ∀ i : Fin 3, (y i.castSucc).Within 4095)
  (hd : ∀ i : Fin 3, (d i.castSucc).Within 240)
include hx hy

theorem dividerTerm_fits : (dividerTerm x y).Fits :=
  ((((hx 0).sub (hx 2) (by decide)).mul ((hy 1).sub (hy 2) (by decide)) (by decide)).sub
    (((hx 1).sub (hx 2) (by decide)).mul ((hy 0).sub (hy 2) (by decide)) (by decide))
    (by decide)).fits

include hd

omit hx in
theorem anTerm_fits : (anTerm y d).Fits :=
  ((((hd 0).sub (hd 2) (by decide)).mul ((hy 1).sub (hy 2) (by decide)) (by decide)).sub
    (((hd 1).sub (hd 2) (by decide)).mul ((hy 0).sub (hy 2) (by decide)) (by decide))
    (by decide)).fits

omit hy in
theorem bnTerm_fits : (bnTerm x d).Fits :=
  ((((hx 0).sub (hx 2) (by decide)).mul ((hd 1).sub (hd 2) (by decide)) (by decide)).sub
    (((hd 0).sub (hd 2) (by decide)).mul ((hx 1).sub (hx 2) (by decide)) (by decide))
    (by decide)).fits

omit hy in
/-- The differences in Cn fit. -/
theorem difference_fits (i j k l : Fin 3) :
    (x i.castSucc * d j.castSucc - x k.castSucc * d l.castSucc).Fits :=
  (((hx i).mul (hd j) (by decide)).sub ((hx k).mul (hd l) (by decide)) (by decide)).fits

theorem cnTerm_fits_iff : (cnTerm x y d).Fits ↔
    InInt32 ((x 2 * d 1 - x 1 * d 2) * y 0).value ∧
      InInt32 ((x 0 * d 2 - x 2 * d 0) * y 1).value ∧
      InInt32 ((x 1 * d 0 - x 0 * d 1) * y 2).value ∧
      InInt32 ((x 2 * d 1 - x 1 * d 2) * y 0 + (x 0 * d 2 - x 2 * d 0) * y 1).value ∧
      InInt32 (cnTerm x y d).value := by
  have hfirst : (x 2 * d 1 - x 1 * d 2).Fits := difference_fits hx hd 2 1 1 2
  have hsecond : (x 0 * d 2 - x 2 * d 0).Fits := difference_fits hx hd 0 2 2 0
  have hthird : (x 1 * d 0 - x 0 * d 1).Fits := difference_fits hx hd 1 0 0 1
  have hy0 : (y 0).Fits := (hy 0).fits
  have hy1 : (y 1).Fits := (hy 1).fits
  have hy2 : (y 2).Fits := (hy 2).fits
  simp only [cnTerm, IntTerm.fits_add, IntTerm.fits_mul, hfirst, hsecond, hthird, hy0, hy1, hy2,
    true_and, IntTerm.value_add, IntTerm.value_mul, and_assoc]
  tauto

end

section
variable {panel : Panel} {sample : Fin 4 → ScreenPoint}
  (hsample : ∀ i : Fin 3, (sample i.castSucc).Sampled)
include hsample

theorem xTerm_within (i : Fin 3) : (xTerm sample i.castSucc).Within 4095 := by
  have hx := (hsample i).1
  exact IntTerm.within_const (abs_le.mpr (by omega)) (by decide)

theorem yTerm_within (i : Fin 3) : (yTerm sample i.castSucc).Within 4095 := by
  have hy := (hsample i).2
  exact IntTerm.within_const (abs_le.mpr (by omega)) (by decide)

omit hsample

theorem crossCoordinate_within (panel : Panel) (i : Fin 3) :
    (xTerm (crossCoordinate panel) i.castSucc).Within 240 ∧
      (yTerm (crossCoordinate panel) i.castSucc).Within 240 := by
  have hlength := panel.length_le
  have hx := crossCoordinate_x panel
  have hy := crossCoordinate_y panel
  constructor <;> apply IntTerm.within_const (abs_le.mpr _) (by decide)
  · match i with
    | 0 => rw [Fin.castSucc_zero]; omega
    | 1 => rw [Fin.castSucc_one]; omega
    | 2 => rw [castSucc_two]; omega
  · match i with
    | 0 => rw [Fin.castSucc_zero]; omega
    | 1 => rw [Fin.castSucc_one]; omega
    | 2 => rw [castSucc_two]; omega

include hsample

/-- In Cn the last product cannot overflow. -/
theorem third_fits : InInt32 ((panel.lcdXLength.toNat / 4 : ℤ) *
    (((sample 1).x.toInt - (sample 0).x.toInt) * (sample 2).y.toInt)) := by
  have hlength := panel.length_le
  have hfirst : (sample 0).Sampled := hsample 0
  have hsecond : (sample 1).Sampled := hsample 1
  have hlast : (sample 2).Sampled := hsample 2
  unfold ScreenPoint.Sampled at hfirst hsecond hlast
  have ha : |(panel.lcdXLength.toNat / 4 : ℤ)| ≤ 80 := abs_le.mpr (by omega)
  have hdifference : |(sample 1).x.toInt - (sample 0).x.toInt| ≤ 4095 := abs_le.mpr (by omega)
  have hy : |(sample 2).y.toInt| ≤ 4095 := abs_le.mpr (by omega)
  have hproduct : |(panel.lcdXLength.toNat / 4 : ℤ) *
      (((sample 1).x.toInt - (sample 0).x.toInt) * (sample 2).y.toInt)| ≤ 80 * (4095 * 4095) := by
    rw [abs_mul, abs_mul]
    gcongr
  exact IntTerm.inInt32_of_abs_le hproduct (by decide)

theorem cn_fits_iff :
    (cnTerm (xTerm sample) (yTerm sample) (xTerm (crossCoordinate panel))).Fits ↔
      CnSumsFit panel sample := by
  have hcross := crossCoordinate_x panel
  have hthird := @third_fits panel sample hsample
  rw [cnTerm_fits_iff (xTerm_within hsample) (yTerm_within hsample)
    fun i => (crossCoordinate_within panel i).1]
  simp only [cnTerm, IntTerm.value_add, IntTerm.value_sub, IntTerm.value_mul, xTerm, yTerm,
    IntTerm.value_const, hcross, CnSumsFit]
  ring_nf at hthird ⊢
  tauto

theorem fn_fits_iff :
    (cnTerm (xTerm sample) (yTerm sample) (yTerm (crossCoordinate panel))).Fits ↔
      FnSumsFit panel sample := by
  have hcross := crossCoordinate_y panel
  rw [cnTerm_fits_iff (xTerm_within hsample) (yTerm_within hsample)
    fun i => (crossCoordinate_within panel i).2]
  simp only [cnTerm, IntTerm.value_add, IntTerm.value_sub, IntTerm.value_mul, xTerm, yTerm,
    IntTerm.value_const, hcross, FnSumsFit]
  ring_nf

end

theorem calculateCalibrationFactor_eq_some {display sample : Fin 4 → ScreenPoint}
    {factors : Calibration} :
    calculateCalibrationFactor display sample = some (some factors) ↔
      ((dividerTerm (xTerm sample) (yTerm sample)).eval = some factors.divider ∧
        factors.divider ≠ 0) ∧
      (anTerm (yTerm sample) (xTerm display)).eval = some factors.an ∧
      (bnTerm (xTerm sample) (xTerm display)).eval = some factors.bn ∧
      (cnTerm (xTerm sample) (yTerm sample) (xTerm display)).eval = some factors.cn ∧
      (anTerm (yTerm sample) (yTerm display)).eval = some factors.dn ∧
      (bnTerm (xTerm sample) (yTerm display)).eval = some factors.en ∧
      (cnTerm (xTerm sample) (yTerm sample) (yTerm display)).eval = some factors.fn := by
  obtain ⟨an, bn, cn, dn, en, fn, divider⟩ := factors
  unfold calculateCalibrationFactor
  simp only [Option.bind_eq_bind, Option.bind_eq_some_iff]
  constructor
  · rintro ⟨divider', hdivider, h⟩
    split at h
    · simp at h
    case isFalse hne =>
      simp only [Option.bind_eq_some_iff] at h
      obtain ⟨_, han, _, hbn, _, hcn, _, hdn, _, hen, _, hfn, h⟩ := h
      simp only [pure, Option.some.injEq, Calibration.mk.injEq] at h
      obtain ⟨rfl, rfl, rfl, rfl, rfl, rfl, rfl⟩ := h
      exact ⟨⟨hdivider, hne⟩, han, hbn, hcn, hdn, hen, hfn⟩
  · rintro ⟨⟨hdivider, hne⟩, han, hbn, hcn, hdn, hen, hfn⟩
    refine ⟨divider, hdivider, ?_⟩
    simp [if_neg hne, han, hbn, hcn, hdn, hen, hfn]

/-- For samples of the 12-bit converter that are not in line, the factors interpolate
the crosses exactly if the sums of Cn and Fn stay in range. -/
theorem calibrationExact_iff {panel : Panel} {sample : Fin 4 → ScreenPoint}
    (hsample : ∀ i : Fin 3, (sample i.castSucc).Sampled)
    (hdivider : (dividerTerm (xTerm sample) (yTerm sample)).eval ≠ some 0) :
    CalibrationExact panel sample ↔ CnSumsFit panel sample ∧ FnSumsFit panel sample := by
  rw [← cn_fits_iff hsample, ← fn_fits_iff hsample]
  have hx := xTerm_within hsample
  have hy := yTerm_within hsample
  have hxCross := fun i => (crossCoordinate_within panel i).1
  have hyCross := fun i => (crossCoordinate_within panel i).2
  have heval : ∀ term : IntTerm, term.Fits → term.eval = some term.value := fun term hfits =>
    IntTerm.eval_eq_some.mpr ⟨hfits, rfl⟩
  constructor
  · rintro ⟨factors, hfactors, -⟩
    obtain ⟨-, -, -, hcn, -, -, hfn⟩ := calculateCalibrationFactor_eq_some.mp hfactors
    exact ⟨(IntTerm.eval_eq_some.mp hcn).1, (IntTerm.eval_eq_some.mp hfn).1⟩
  · rintro ⟨hcn, hfn⟩
    rw [heval _ (dividerTerm_fits hx hy)] at hdivider
    refine ⟨⟨_, _, _, _, _, _, _⟩, calculateCalibrationFactor_eq_some.mpr
      ⟨⟨heval _ (dividerTerm_fits hx hy), fun hzero => hdivider (congrArg some hzero)⟩,
        heval _ (anTerm_fits hy hxCross), heval _ (bnTerm_fits hx hxCross), heval _ hcn,
        heval _ (anTerm_fits hy hyCross), heval _ (bnTerm_fits hx hyCross), heval _ hfn⟩, ?_⟩
    intro i
    exact ⟨value_interpolates (xTerm sample) (yTerm sample) (xTerm (crossCoordinate panel)) i,
      value_interpolates (xTerm sample) (yTerm sample) (yTerm (crossCoordinate panel)) i⟩

/-- Touches on a screen that mirrors the panel. -/
theorem calibrationExact_mirrored :
    CalibrationExact .init ![⟨3000, 3000⟩, ⟨3000, 1000⟩, ⟨1000, 1000⟩, ⟨1000, 3000⟩] :=
  (calibrationExact_iff (by decide) (by decide)).mpr (by decide)

/-- A little further apart on the turned panel, the first product of Cn overflows. -/
theorem calibration_overflows :
    ¬∀ (panel : Panel) (sample : Fin 4 → ScreenPoint), (∀ i : Fin 3, (sample i.castSucc).Sampled) →
      (dividerTerm (xTerm sample) (yTerm sample)).eval ≠ some 0 → CalibrationExact panel sample := by
  intro h
  obtain ⟨factors, hfactors, -⟩ := h (Ili9341.gramScan 3 .init)
    ![⟨3200, 3200⟩, ⟨3200, 900⟩, ⟨900, 900⟩, ⟨900, 3200⟩] (by decide) (by decide)
  have hnone : calculateCalibrationFactor (crossCoordinate (Ili9341.gramScan 3 .init))
      ![⟨3200, 3200⟩, ⟨3200, 900⟩, ⟨900, 900⟩, ⟨900, 3200⟩] = none := by decide
  simp [hnone] at hfactors

end WeatherStation.Xpt2046
