import Mathlib.Algebra.Order.Field.Basic
import Mathlib.Algebra.Order.Ring.Abs
import Mathlib.Data.List.Range
import Mathlib.Data.Rat.Cast.Order
import Mathlib.Tactic.FieldSimp
import WeatherStation.Lib.Accumulator
import WeatherStation.Ili9341

/-! `ILI9341_DrawLine` draws a straight line.  Its loop runs two steps more than the
distance of the end points, and every coordinate makes its moves one step late. -/
namespace WeatherStation.Ili9341
open Lib

section
variable (start : UInt16) (lIncrease lDelta lDistance : ℤ)

/-- A coordinate after so many steps, before it wraps around. -/
def coordinate (steps : ℕ) : ℤ :=
  start.toNat + lIncrease * (Accumulator.after lDelta lDistance steps).moves

theorem ofInt_toNat (x : UInt16) : UInt16.ofInt x.toNat = x := by
  have hsize := x.toNat_lt
  have hmod : ((x.toNat : ℤ) % 2 ^ 16).toNat = x.toNat := by omega
  rw [UInt16.ofInt, hmod, UInt16.ofNat_toNat]

theorem toNat_ofInt {value : ℤ} (hlow : 0 ≤ value) (hhigh : value < 2 ^ 16) :
    ((UInt16.ofInt value).toNat : ℤ) = value := by
  rw [UInt16.ofInt, UInt16.toNat_ofNat_of_lt' (by rw [UInt16.size]; omega)]
  omega

theorem advance_after (steps : ℕ) :
    advance lDelta lDistance lIncrease (Accumulator.after lDelta lDistance steps).error
        (.ofInt (coordinate start lIncrease lDelta lDistance steps)) =
      ((Accumulator.after lDelta lDistance (steps + 1)).error,
        .ofInt (coordinate start lIncrease lDelta lDistance (steps + 1))) := by
  rw [Accumulator.after_succ, coordinate, coordinate, Accumulator.after_succ, advance,
    Accumulator.advance]
  split
  · rw [UInt16.ofInt_add, ofInt_toNat, ← UInt16.ofInt_add]
    push_cast
    rw [mul_add, mul_one, add_assoc]
  · rfl

end

namespace Segment
variable (segment : Segment) (usX1 usY1 : UInt16)

def xAt (steps : ℕ) : ℤ :=
  coordinate usX1 segment.lIncreaseX segment.lDeltaX segment.lDistance steps

def yAt (steps : ℕ) : ℤ :=
  coordinate usY1 segment.lIncreaseY segment.lDeltaY segment.lDistance steps

/-- The variables of the loop after so many steps. -/
def plotterAt (steps : ℕ) : Plotter where
  us := .ofNat steps
  usXCurrent := .ofInt (segment.xAt usX1 steps)
  usYCurrent := .ofInt (segment.yAt usY1 steps)
  lErrorX := (Accumulator.after segment.lDeltaX segment.lDistance steps).error
  lErrorY := (Accumulator.after segment.lDeltaY segment.lDistance steps).error

theorem plotterAt_next (steps : ℕ) :
    (segment.plotterAt usX1 usY1 steps).next segment =
      segment.plotterAt usX1 usY1 (steps + 1) := by
  have hus : UInt16.ofNat steps + 1 = UInt16.ofNat (steps + 1) := by
    rw [UInt16.ofNat_add, UInt16.ofNat_one]
  have hx := advance_after usX1 segment.lIncreaseX segment.lDeltaX segment.lDistance steps
  have hy := advance_after usY1 segment.lIncreaseY segment.lDeltaY segment.lDistance steps
  simp only [Plotter.next, plotterAt, xAt, yAt, hx, hy, hus]

theorem plotterAt_zero : segment.plotterAt usX1 usY1 0 = ⟨0, usX1, usY1, 0, 0⟩ := by
  simp [plotterAt, xAt, yAt, coordinate, Accumulator.after, Accumulator.init, ofInt_toNat]

def pixelsAt (panel : Panel) (steps : ℕ) : List Point :=
  setPointPixel panel (.ofInt (segment.xAt usX1 steps)) (.ofInt (segment.yAt usY1 steps))

/-- The rest of the loop, when so many steps are left of the distance and two. -/
theorem drawLineLoop_rest (panel : Panel) {distance : ℕ} (hdistance : segment.lDistance = distance)
    (hcounter : distance + 2 < 2 ^ 16) (steps : ℕ) {left : ℕ} (hleft : steps + left = distance + 2) :
    drawLineLoop panel segment (left + 1) (segment.plotterAt usX1 usY1 steps) =
      some ((List.range' steps left).flatMap (segment.pixelsAt usX1 usY1 panel)) := by
  have hus : (segment.plotterAt usX1 usY1 steps).us.toNat = steps :=
    UInt16.toNat_ofNat_of_lt' (by rw [UInt16.size]; omega)
  induction left generalizing steps with
  | zero =>
    have hend : ¬(steps : ℤ) ≤ segment.lDistance + 1 := by omega
    rw [drawLineLoop, hus, if_neg hend]
    rfl
  | succ left ih =>
    have hgoes : (steps : ℤ) ≤ segment.lDistance + 1 := by omega
    have hnext : (segment.plotterAt usX1 usY1 (steps + 1)).us.toNat = steps + 1 :=
      UInt16.toNat_ofNat_of_lt' (by rw [UInt16.size]; omega)
    rw [drawLineLoop, hus, if_pos hgoes, plotterAt_next, ih (steps + 1) (by omega) hnext]
    rfl

end Segment

theorem drawLine_eq (panel : Panel) (usX1 usY1 usX2 usY2 : UInt16) {distance : ℕ}
    (hdistance : (Segment.of usX1 usY1 usX2 usY2).lDistance = distance)
    (hcounter : distance + 2 < 2 ^ 16) :
    drawLine panel usX1 usY1 usX2 usY2 (distance + 3) =
      some ((List.range (distance + 2)).flatMap
        ((Segment.of usX1 usY1 usX2 usY2).pixelsAt usX1 usY1 panel)) := by
  rw [drawLine, ← Segment.plotterAt_zero, List.range_eq_range']
  exact Segment.drawLineLoop_rest _ usX1 usY1 panel hdistance hcounter 0 (Nat.zero_add _)

/-! ### One coordinate -/

theorem direction_cases (lDelta : ℤ) :
    (direction lDelta = (1, lDelta) ∧ 0 < lDelta) ∨ (direction lDelta = (0, 0) ∧ lDelta = 0) ∨
      (direction lDelta = (-1, -lDelta) ∧ lDelta < 0) := by
  unfold direction
  grind

theorem direction_abs (lDelta : ℤ) : (direction lDelta).2 = |lDelta| := by
  rcases direction_cases lDelta with ⟨h, hsign⟩ | ⟨h, rfl⟩ | ⟨h, hsign⟩
  · rw [h, abs_of_pos hsign]
  · rw [h, abs_zero]
  · rw [h, abs_of_neg hsign]

theorem direction_mul (lDelta : ℤ) : (direction lDelta).1 * |lDelta| = lDelta := by
  rcases direction_cases lDelta with ⟨h, hsign⟩ | ⟨h, rfl⟩ | ⟨h, hsign⟩
  · rw [h, abs_of_pos hsign, one_mul]
  · rw [abs_zero, mul_zero]
  · rw [h, abs_of_neg hsign, neg_one_mul, neg_neg]

theorem direction_unit {lDelta : ℤ} (hne : lDelta ≠ 0) :
    (direction lDelta).1 = 1 ∨ (direction lDelta).1 = -1 := by
  rcases direction_cases lDelta with ⟨h, -⟩ | ⟨-, hzero⟩ | ⟨h, -⟩
  · exact .inl (by rw [h])
  · exact absurd hzero hne
  · exact .inr (by rw [h])

theorem direction_le_one (lDelta : ℤ) : |(direction lDelta).1| ≤ 1 := by
  rcases direction_cases lDelta with ⟨h, -⟩ | ⟨h, -⟩ | ⟨h, -⟩ <;> simp [h]

/-- A coordinate on its way between two values. -/
def between (start stop : UInt16) (lDistance : ℤ) (steps : ℕ) : ℤ :=
  coordinate start (direction (stop.toNat - start.toNat)).1
    (direction (stop.toNat - start.toNat)).2 lDistance steps

section
variable {start stop : UInt16} {lDistance : ℤ}

theorem between_zero : between start stop lDistance 0 = start.toNat := by
  simp [between, coordinate, Accumulator.after, Accumulator.init]

theorem between_adjacent (steps : ℕ) :
    |between start stop lDistance steps - between start stop lDistance (steps + 1)| ≤ 1 := by
  have hmoves := @Accumulator.moves_le_succ |(stop.toNat : ℤ) - start.toNat| lDistance steps
  unfold between coordinate
  rw [direction_abs, abs_le]
  rcases direction_cases ((stop.toNat : ℤ) - start.toNat) with ⟨h, -⟩ | ⟨h, -⟩ | ⟨h, -⟩ <;>
    rw [h] <;> dsimp only <;> constructor <;> omega

variable {distance : ℕ} (hdistance : lDistance = distance)
  (hle : |(stop.toNat : ℤ) - start.toNat| ≤ lDistance)
include hdistance hle

theorem between_last : between start stop lDistance (distance + 1) = stop.toNat := by
  rw [between, coordinate, direction_abs,
    Accumulator.moves_last (abs_nonneg _) hle hdistance, direction_mul]
  omega

theorem between_bounds {steps : ℕ} (hsteps : steps ≤ distance + 1) :
    min start.toNat stop.toNat ≤ between start stop lDistance steps ∧
      between start stop lDistance steps ≤ max start.toNat stop.toNat := by
  have hmoves := Accumulator.moves_le (abs_nonneg _) hle hdistance hsteps
  unfold between coordinate
  rw [direction_abs]
  rcases direction_cases ((stop.toNat : ℤ) - start.toNat) with ⟨h, hsign⟩ | ⟨h, hsign⟩ | ⟨h, hsign⟩
  · rw [abs_of_pos hsign] at hmoves ⊢
    rw [h]
    dsimp only
    omega
  · rw [h]
    dsimp only
    omega
  · rw [abs_of_neg hsign] at hmoves ⊢
    rw [h]
    dsimp only
    omega

theorem between_toNat {steps : ℕ} (hsteps : steps ≤ distance + 1) :
    ((UInt16.ofInt (between start stop lDistance steps)).toNat : ℤ) =
      between start stop lDistance steps := by
  have hbounds := between_bounds hdistance hle hsteps
  have hstart := start.toNat_lt
  have hstop := stop.toNat_lt
  apply toNat_ofInt <;> omega

end

/-! ### The distance from the straight line -/

/-- So far are a pixel and the straight line apart, along the axis on which the
line moves less. -/
def deviation (dx dy x y : ℚ) : ℚ := if |dy| ≤ |dx| then |y - x * (dy / dx)| else |x - y * (dx / dy)|

/-- With the larger coordinate one step late and the smaller one close to the even
spread, the smaller one is less than a pixel away from the line. -/
theorem abs_sub_mul_div_lt_one {major minor steps moves increase : ℤ} {increase' : ℤ}
    (hmajor : 0 < major) (hincrease : increase = 1 ∨ increase = -1)
    (hincrease' : |increase'| ≤ 1)
    (hnear : -major < moves * major - steps * minor ∧ moves * major - steps * minor < major) :
    |((increase' * moves : ℤ) : ℚ) -
      (increase * steps : ℤ) * ((increase' * minor : ℤ) / (increase * major : ℤ))| < 1 := by
  have hpos : (0 : ℚ) < major := by exact_mod_cast hmajor
  have hspread : ((increase' * moves : ℤ) : ℚ) -
      (increase * steps : ℤ) * ((increase' * minor : ℤ) / (increase * major : ℤ)) =
        increase' * (((moves * major - steps * minor : ℤ) : ℚ) / major) := by
    rcases hincrease with rfl | rfl <;> push_cast <;> field_simp
  have hquotient : |((moves * major - steps * minor : ℤ) : ℚ) / major| < 1 := by
    rw [abs_div, abs_of_pos hpos, div_lt_one hpos]
    exact_mod_cast abs_lt.mpr hnear
  have hsign : |(increase' : ℚ)| ≤ 1 := by exact_mod_cast hincrease'
  calc
    _ = |(increase' : ℚ)| * |((moves * major - steps * minor : ℤ) : ℚ) / major| := by
      rw [hspread, abs_mul]
    _ ≤ 1 * |((moves * major - steps * minor : ℤ) : ℚ) / major| :=
      mul_le_mul_of_nonneg_right hsign (abs_nonneg _)
    _ < 1 := by rwa [one_mul]

/-- The same for a coordinate that has the whole distance to go and another one. -/
theorem between_near {start stop start' stop' : UInt16} {distance steps : ℕ}
    (hmajor : |(stop.toNat : ℤ) - start.toNat| = distance)
    (hminor : |(stop'.toNat : ℤ) - start'.toNat| ≤ distance) (hsteps : steps ≤ distance + 1) :
    |((between start' stop' distance steps - start'.toNat : ℤ) : ℚ) -
      (between start stop distance steps - start.toNat : ℤ) *
        ((stop'.toNat - start'.toNat : ℤ) / (stop.toNat - start.toNat : ℤ))| < 1 := by
  cases steps with
  | zero => simp [between_zero]
  | succ steps =>
    rcases Nat.eq_zero_or_pos distance with rfl | hpos
    · have hbounds := @between_bounds start' stop' _ _ rfl hminor _ hsteps
      have hsame : stop'.toNat = start'.toNat := by
        have habs := abs_nonpos_iff.mp hminor
        omega
      have hstays : between start' stop' (0 : ℕ) (steps + 1) - start'.toNat = 0 := by omega
      rw [hstays, hsame]
      simp
    · have hdistance : (0 : ℤ) < distance := by omega
      have hmoves : between start stop distance (steps + 1) - start.toNat =
          (direction (stop.toNat - start.toNat)).1 * steps := by
        rw [between, coordinate, direction_abs, hmajor,
          Accumulator.moves_major hdistance, add_sub_cancel_left]
      have hmoves' : between start' stop' distance (steps + 1) - start'.toNat =
          (direction (stop'.toNat - start'.toNat)).1 *
            (Accumulator.after |(stop'.toNat : ℤ) - start'.toNat| distance (steps + 1)).moves := by
        rw [between, coordinate, direction_abs, add_sub_cancel_left]
      have hgoal := abs_sub_mul_div_lt_one hdistance
        (direction_unit (abs_pos.mp (hmajor ▸ hdistance))) (direction_le_one (stop'.toNat - start'.toNat))
        (Accumulator.moves_near (abs_nonneg _) hminor hdistance steps)
      have hdelta : (direction (stop.toNat - start.toNat)).1 * distance =
          stop.toNat - start.toNat := by
        rw [← hmajor, direction_mul]
      rwa [← hmoves, ← hmoves', direction_mul, hdelta] at hgoal

/-- The pixels of a line between two points. -/
structure LineDrawn (usX1 usY1 usX2 usY2 : UInt16) (pixels : List Point) : Prop where
  first : pixels.head? = some ⟨usX1, usY1⟩
  last : pixels.getLast? = some ⟨usX2, usY2⟩
  connected : pixels.IsChain fun p q =>
    |(p.x.toNat : ℤ) - q.x.toNat| ≤ 1 ∧ |(p.y.toNat : ℤ) - q.y.toNat| ≤ 1
  inBox : ∀ p ∈ pixels,
    (min usX1.toNat usX2.toNat ≤ p.x.toNat ∧ p.x.toNat ≤ max usX1.toNat usX2.toNat) ∧
      min usY1.toNat usY2.toNat ≤ p.y.toNat ∧ p.y.toNat ≤ max usY1.toNat usY2.toNat
  near : ∀ p ∈ pixels, deviation (usX2.toNat - usX1.toNat) (usY2.toNat - usY1.toNat)
    (p.x.toNat - usX1.toNat) (p.y.toNat - usY1.toNat) < 1

/-! ### The line on the panel -/

theorem lDistance_of (usX1 usY1 usX2 usY2 : UInt16) :
    (Segment.of usX1 usY1 usX2 usY2).lDistance =
      max |(usX2.toNat : ℤ) - usX1.toNat| |(usY2.toNat : ℤ) - usY1.toNat| := by
  simp only [Segment.lDistance, Segment.of, direction_abs]
  grind

section
variable (usX1 usY1 usX2 usY2 : UInt16) (distance : ℕ)

def linePoint (steps : ℕ) : Point :=
  ⟨.ofInt (between usX1 usX2 distance steps), .ofInt (between usY1 usY2 distance steps)⟩

def linePoints : List Point := (List.range (distance + 2)).map (linePoint usX1 usY1 usX2 usY2 distance)

variable {usX1 usY1 usX2 usY2 distance}
  (hx : |(usX2.toNat : ℤ) - usX1.toNat| ≤ distance)
  (hy : |(usY2.toNat : ℤ) - usY1.toNat| ≤ distance)
include hx hy

theorem linePoint_toInt {steps : ℕ} (hsteps : steps ≤ distance + 1) :
    ((linePoint usX1 usY1 usX2 usY2 distance steps).x.toNat : ℤ) =
        between usX1 usX2 distance steps ∧
      ((linePoint usX1 usY1 usX2 usY2 distance steps).y.toNat : ℤ) =
        between usY1 usY2 distance steps :=
  ⟨between_toNat rfl hx hsteps, between_toNat rfl hy hsteps⟩

theorem linePoint_last :
    linePoint usX1 usY1 usX2 usY2 distance (distance + 1) = ⟨usX2, usY2⟩ := by
  rw [linePoint, between_last rfl hx, between_last rfl hy, ofInt_toNat, ofInt_toNat]

theorem linePoint_inBox {steps : ℕ} (hsteps : steps ≤ distance + 1) :
    let point := linePoint usX1 usY1 usX2 usY2 distance steps
    (min usX1.toNat usX2.toNat ≤ point.x.toNat ∧ point.x.toNat ≤ max usX1.toNat usX2.toNat) ∧
      min usY1.toNat usY2.toNat ≤ point.y.toNat ∧
      point.y.toNat ≤ max usY1.toNat usY2.toNat := by
  have hpoint := linePoint_toInt hx hy hsteps
  have hxBounds := between_bounds rfl hx hsteps
  have hyBounds := between_bounds rfl hy hsteps
  dsimp only
  omega

theorem linePoint_near (hmax : (distance : ℤ) =
      max |(usX2.toNat : ℤ) - usX1.toNat| |(usY2.toNat : ℤ) - usY1.toNat|)
    {steps : ℕ} (hsteps : steps ≤ distance + 1) :
    deviation (usX2.toNat - usX1.toNat) (usY2.toNat - usY1.toNat)
      ((linePoint usX1 usY1 usX2 usY2 distance steps).x.toNat - usX1.toNat)
      ((linePoint usX1 usY1 usX2 usY2 distance steps).y.toNat - usY1.toNat) < 1 := by
  have hpoint := linePoint_toInt hx hy hsteps
  unfold deviation
  split
  case isTrue hle =>
    have hmajor : |(usX2.toNat : ℤ) - usX1.toNat| = distance := by
      rw [hmax, max_eq_left]
      exact_mod_cast hle
    have hnear := between_near hmajor hy hsteps
    rw [← hpoint.1, ← hpoint.2] at hnear
    exact_mod_cast hnear
  case isFalse hlt =>
    have hmajor : |(usY2.toNat : ℤ) - usY1.toNat| = distance := by
      rw [hmax, max_eq_right]
      exact_mod_cast (not_le.mp hlt).le
    have hnear := between_near hmajor hx hsteps
    rw [← hpoint.1, ← hpoint.2] at hnear
    exact_mod_cast hnear

theorem linePoints_drawn (hmax : (distance : ℤ) =
      max |(usX2.toNat : ℤ) - usX1.toNat| |(usY2.toNat : ℤ) - usY1.toNat|) :
    LineDrawn usX1 usY1 usX2 usY2 (linePoints usX1 usY1 usX2 usY2 distance) where
  first := by
    simp [linePoints, List.head?_range, linePoint, between_zero, ofInt_toNat]
  last := by
    simp [linePoints, List.getLast?_range, linePoint_last hx hy]
  connected := by
    rw [linePoints, List.isChain_map, List.isChain_range]
    intro steps hsteps
    have hpoint := linePoint_toInt hx hy (show steps ≤ distance + 1 by omega)
    have hnext := linePoint_toInt hx hy (show steps + 1 ≤ distance + 1 by omega)
    rw [hpoint.1, hpoint.2, hnext.1, hnext.2]
    exact ⟨between_adjacent steps, between_adjacent steps⟩
  inBox := by
    unfold linePoints
    rw [List.forall_mem_map]
    intro steps hsteps
    exact linePoint_inBox hx hy (Nat.le_of_lt_succ (List.mem_range.mp hsteps))
  near := by
    unfold linePoints
    rw [List.forall_mem_map]
    intro steps hsteps
    exact linePoint_near hx hy hmax (Nat.le_of_lt_succ (List.mem_range.mp hsteps))

/-- On the panel no pixel is dropped. -/
theorem drawLine_linePoints {panel : Panel} (hx1 : usX1 < panel.lcdXLength)
    (hy1 : usY1 < panel.lcdYLength) (hx2 : usX2 < panel.lcdXLength)
    (hy2 : usY2 < panel.lcdYLength)
    (hdistance : (Segment.of usX1 usY1 usX2 usY2).lDistance = distance)
    (hcounter : distance + 2 < 2 ^ 16) :
    drawLine panel usX1 usY1 usX2 usY2 (distance + 3) =
      some (linePoints usX1 usY1 usX2 usY2 distance) := by
  rw [drawLine_eq panel usX1 usY1 usX2 usY2 hdistance hcounter, linePoints,
    List.map_eq_flatMap]
  congr 1
  refine List.flatMap_congr fun steps hsteps => ?_
  have hinBox := linePoint_inBox hx hy (Nat.le_of_lt_succ (List.mem_range.mp hsteps))
  have hpixel : (Segment.of usX1 usY1 usX2 usY2).pixelsAt usX1 usY1 panel steps =
      setPointPixel panel (linePoint usX1 usY1 usX2 usY2 distance steps).x
        (linePoint usX1 usY1 usX2 usY2 distance steps).y := by
    unfold Segment.pixelsAt Segment.xAt Segment.yAt
    rw [hdistance]
    rfl
  rw [UInt16.lt_iff_toNat_lt] at hx1 hy1 hx2 hy2
  rw [hpixel, setPointPixel, if_pos]
  rw [UInt16.lt_iff_toNat_lt, UInt16.lt_iff_toNat_lt]
  exact ⟨hinBox.1.2.trans_lt (max_lt hx1 hx2), hinBox.2.2.trans_lt (max_lt hy1 hy2)⟩

end

theorem distance_lt {panel : Panel} {usX1 usY1 usX2 usY2 : UInt16} {distance : ℕ}
    (hx1 : usX1 < panel.lcdXLength) (hy1 : usY1 < panel.lcdYLength)
    (hx2 : usX2 < panel.lcdXLength) (hy2 : usY2 < panel.lcdYLength)
    (hmax : (distance : ℤ) =
      max |(usX2.toNat : ℤ) - usX1.toNat| |(usY2.toNat : ℤ) - usY1.toNat|) :
    distance < 320 := by
  have hlength := panel.length_le
  rw [UInt16.lt_iff_toNat_lt] at hx1 hy1 hx2 hy2
  have hxDistance : |(usX2.toNat : ℤ) - usX1.toNat| < 320 := abs_lt.mpr (by omega)
  have hyDistance : |(usY2.toNat : ℤ) - usY1.toNat| < 320 := abs_lt.mpr (by omega)
  exact_mod_cast hmax ▸ max_lt hxDistance hyDistance

/-- Between two points of the panel the loop ends and draws the line. -/
theorem drawLine_drawn {panel : Panel} {usX1 usY1 usX2 usY2 : UInt16}
    (hx1 : usX1 < panel.lcdXLength) (hy1 : usY1 < panel.lcdYLength)
    (hx2 : usX2 < panel.lcdXLength) (hy2 : usY2 < panel.lcdYLength) :
    ∃ fuel pixels, drawLine panel usX1 usY1 usX2 usY2 fuel = some pixels ∧
      LineDrawn usX1 usY1 usX2 usY2 pixels := by
  obtain ⟨distance, hmax⟩ := Int.eq_ofNat_of_zero_le
    (le_max_of_le_left (b := |(usX2.toNat : ℤ) - usX1.toNat|)
      (c := |(usY2.toNat : ℤ) - usY1.toNat|) (abs_nonneg _))
  have hx := hmax ▸ le_max_left |(usX2.toNat : ℤ) - usX1.toNat| |(usY2.toNat : ℤ) - usY1.toNat|
  have hy := hmax ▸ le_max_right |(usX2.toNat : ℤ) - usX1.toNat| |(usY2.toNat : ℤ) - usY1.toNat|
  have hdistance := (lDistance_of usX1 usY1 usX2 usY2).trans hmax
  have hcounter : distance + 2 < 2 ^ 16 := by
    have hlt := distance_lt hx1 hy1 hx2 hy2 hmax.symm
    omega
  exact ⟨distance + 3, _, drawLine_linePoints hx hy hx1 hy1 hx2 hy2 hdistance hcounter,
    linePoints_drawn hx hy hmax.symm⟩

/-- A line that falls over the width of the turned panel. -/
theorem drawLine_drawn_turned :
    ∃ fuel pixels, drawLine (gramScan 3 .init) 319 0 4 200 fuel = some pixels ∧
      LineDrawn 319 0 4 200 pixels :=
  drawLine_drawn (by decide) (by decide) (by decide) (by decide)

end WeatherStation.Ili9341
