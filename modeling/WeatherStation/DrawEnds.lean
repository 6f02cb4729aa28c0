import WeatherStation.DrawnLine
import WeatherStation.Lib.Loop
import WeatherStation.Palette

/-! When the drawing functions of bsp_lcd_ili9341.c return.  The 16-bit counter of
`ILI9341_DrawLine` has to pass the distance of the end points and one. -/
namespace WeatherStation.Ili9341
open Lib

/-! ### Lines -/

theorem drawLineLoop_collects (panel : Panel) (segment : Segment) :
    Collects (fun plotter => (plotter.us.toNat : ℤ) ≤ segment.lDistance + 1)
      (Plotter.next segment)
      (fun plotter => (setPointPixel panel plotter.usXCurrent plotter.usYCurrent ++ ·)) []
      (drawLineLoop panel segment) :=
  ⟨fun _ => rfl, fun _ _ => rfl⟩

theorem plotter_counted {segment : Segment} {distance : ℕ}
    (hdistance : segment.lDistance = distance) :
    Counted (fun plotter => (plotter.us.toNat : ℤ) ≤ segment.lDistance + 1)
      (Plotter.next segment) (fun plotter => plotter.us.toNat) (2 ^ 16) (distance + 2) where
  fits plotter := plotter.us.toNat_lt
  next plotter := UInt16.toNat_add plotter.us 1
  goes plotter := by
    rw [hdistance]
    omega

theorem iterate_next (segment : Segment) (usX1 usY1 : UInt16) (rounds : ℕ) :
    (Plotter.next segment)^[rounds] ⟨0, usX1, usY1, 0, 0⟩ = segment.plotterAt usX1 usY1 rounds := by
  induction rounds with
  | zero => exact (segment.plotterAt_zero usX1 usY1).symm
  | succ rounds ih => rw [Function.iterate_succ_apply', ih, segment.plotterAt_next]

/-- However long the loop goes on, its errors fit into the `int32_t` of the source, so
taking them for integers hides no overflow. -/
theorem errors_fit (usX1 usY1 usX2 usY2 : UInt16) (rounds : ℕ) :
    let segment := Segment.of usX1 usY1 usX2 usY2
    let plotter := (Plotter.next segment)^[rounds] ⟨0, usX1, usY1, 0, 0⟩
    (0 ≤ plotter.lErrorX ∧ plotter.lErrorX < 2 ^ 16) ∧
      0 ≤ plotter.lErrorY ∧ plotter.lErrorY < 2 ^ 16 := by
  intro segment plotter
  have hdistance : segment.lDistance < 2 ^ 16 := by
    have hx1 := usX1.toNat_lt
    have hy1 := usY1.toNat_lt
    have hx2 := usX2.toNat_lt
    have hy2 := usY2.toNat_lt
    rw [lDistance_of]
    exact max_lt (abs_lt.mpr (by omega)) (abs_lt.mpr (by omega))
  have hx : segment.lDeltaX = |(usX2.toNat : ℤ) - usX1.toNat| := direction_abs _
  have hy : segment.lDeltaY = |(usY2.toNat : ℤ) - usY1.toNat| := direction_abs _
  have hxError := Accumulator.error_bounds (abs_nonneg _)
    (le_max_left |(usX2.toNat : ℤ) - usX1.toNat| |(usY2.toNat : ℤ) - usY1.toNat|) rounds
  have hyError := Accumulator.error_bounds (abs_nonneg _)
    (le_max_right |(usX2.toNat : ℤ) - usX1.toNat| |(usY2.toNat : ℤ) - usY1.toNat|) rounds
  rw [← lDistance_of, ← hx] at hxError
  rw [← lDistance_of, ← hy] at hyError
  have hplotter : plotter = segment.plotterAt usX1 usY1 rounds := iterate_next segment usX1 usY1 rounds
  rw [hplotter]
  exact ⟨⟨hxError.1, hxError.2.trans_lt hdistance⟩, hyError.1, hyError.2.trans_lt hdistance⟩

theorem drawLine_isSome_iff (panel : Panel) (usX1 usY1 usX2 usY2 : UInt16) (fuel : ℕ)
    {distance : ℕ} (hdistance : (Segment.of usX1 usY1 usX2 usY2).lDistance = distance) :
    (drawLine panel usX1 usY1 usX2 usY2 fuel).isSome ↔
      distance + 2 < 2 ^ 16 ∧ distance + 2 < fuel :=
  (drawLineLoop_collects panel _).fueled.ended_iff_of_counted (plotter_counted hdistance) rfl fuel

/-- The coordinates are so close that the counter gets past their distance and one. -/
def InReach (start stop : UInt16) : Prop := |(stop.toNat : ℤ) - start.toNat| ≤ 65533

instance (start stop : UInt16) : Decidable (InReach start stop) :=
  inferInstanceAs (Decidable (_ ≤ _))

theorem inReach_self (start : UInt16) : InReach start start := by
  rw [InReach, sub_self, abs_zero]
  decide

section
variable (panel : Panel) (usX1 usY1 usX2 usY2 : UInt16)

theorem exists_distance : ∃ distance : ℕ,
    (Segment.of usX1 usY1 usX2 usY2).lDistance = distance ∧
      (distance + 2 < 2 ^ 16 ↔ InReach usX1 usX2 ∧ InReach usY1 usY2) := by
  have hmax := lDistance_of usX1 usY1 usX2 usY2
  obtain ⟨distance, hdistance⟩ := Int.eq_ofNat_of_zero_le
    (hmax ▸ le_max_of_le_left (abs_nonneg _))
  refine ⟨distance, hdistance, ?_⟩
  rw [InReach, InReach, ← max_le_iff, ← hmax, hdistance]
  omega

variable {usX1 usY1 usX2 usY2} in
/-- A line that ends at all makes fewer than 2¹⁶ steps. -/
theorem drawLine_isSome (hx : InReach usX1 usX2) (hy : InReach usY1 usY2) :
    (drawLine panel usX1 usY1 usX2 usY2 (2 ^ 16)).isSome := by
  obtain ⟨distance, hdistance, hreach⟩ := exists_distance usX1 usY1 usX2 usY2
  have hcounter := hreach.mpr ⟨hx, hy⟩
  exact (drawLine_isSome_iff panel _ _ _ _ _ hdistance).mpr ⟨hcounter, hcounter⟩

theorem drawLine_ends_iff :
    (∃ fuel, (drawLine panel usX1 usY1 usX2 usY2 fuel).isSome) ↔
      InReach usX1 usX2 ∧ InReach usY1 usY2 := by
  obtain ⟨distance, hdistance, hreach⟩ := exists_distance usX1 usY1 usX2 usY2
  constructor
  · rintro ⟨fuel, hsome⟩
    exact hreach.mp ((drawLine_isSome_iff panel _ _ _ _ fuel hdistance).mp hsome).1
  · rintro ⟨hx, hy⟩
    exact ⟨2 ^ 16, drawLine_isSome panel hx hy⟩

end

/-! ### Rectangles -/

theorem fillColorLoop_collects (ulAmoutPoint : UInt32) :
    Collects (fun i => i < ulAmoutPoint) (fun i => i + 1) (fun _ => (· + 1)) 0
      (fillColorLoop ulAmoutPoint) :=
  ⟨fun _ => rfl, fun _ _ => rfl⟩

/-- Here the counter is as wide as its limit, so the loop always ends. -/
theorem fillColor_isSome_iff (ulAmoutPoint : UInt32) (fuel : ℕ) :
    (fillColor ulAmoutPoint fuel).isSome ↔ ulAmoutPoint.toNat < fuel := by
  have hcounted : Counted (fun i => i < ulAmoutPoint) (fun i => i + 1) UInt32.toNat (2 ^ 32)
      ulAmoutPoint.toNat :=
    ⟨UInt32.toNat_lt, fun i => UInt32.toNat_add i 1, fun i => UInt32.lt_iff_toNat_lt⟩
  rw [fillColor, (fillColorLoop_collects ulAmoutPoint).fueled.ended_iff_of_counted hcounted rfl]
  exact and_iff_right ulAmoutPoint.toNat_lt

section
variable (panel : Panel) (usXStart usYStart usWidth usHeight : UInt16)

theorem outline_isSome_iff (fuel : ℕ) :
    (drawRectangle panel usXStart usYStart usWidth usHeight 0 fuel).isSome ↔
      (drawLine panel usXStart usYStart (usXStart + usWidth - 1) usYStart fuel).isSome ∧
      (drawLine panel usXStart (usYStart + usHeight - 1) (usXStart + usWidth - 1)
        (usYStart + usHeight - 1) fuel).isSome ∧
      (drawLine panel usXStart usYStart usXStart (usYStart + usHeight - 1) fuel).isSome ∧
      (drawLine panel (usXStart + usWidth - 1) usYStart (usXStart + usWidth - 1)
        (usYStart + usHeight - 1) fuel).isSome := by
  simp only [drawRectangle, ne_eq, not_true_eq_false, if_false, bind, Option.isSome_bind,
    Option.isSome_some, Option.any_eq_true]
  simp only [Option.isSome_iff_exists]
  grind

theorem outline_ends_iff :
    (∃ fuel, (drawRectangle panel usXStart usYStart usWidth usHeight 0 fuel).isSome) ↔
      InReach usXStart (usXStart + usWidth - 1) ∧ InReach usYStart (usYStart + usHeight - 1) := by
  constructor
  · rintro ⟨fuel, hsome⟩
    obtain ⟨htop, -, hleft, -⟩ := (outline_isSome_iff panel _ _ _ _ fuel).mp hsome
    exact ⟨((drawLine_ends_iff panel _ _ _ _).mp ⟨fuel, htop⟩).1,
      ((drawLine_ends_iff panel _ _ _ _).mp ⟨fuel, hleft⟩).2⟩
  · rintro ⟨hx, hy⟩
    refine ⟨2 ^ 16, (outline_isSome_iff panel _ _ _ _ _).mpr ⟨?_, ?_, ?_, ?_⟩⟩
    · exact drawLine_isSome panel hx (inReach_self _)
    · exact drawLine_isSome panel hx (inReach_self _)
    · exact drawLine_isSome panel (inReach_self _) hy
    · exact drawLine_isSome panel (inReach_self _) hy

end

/-- The starts and lengths whose last coordinate is out of reach, on one axis.  The
empty side at 0 is one of them, since its last coordinate is 65535. -/
def longSides : List (UInt16 × UInt16) :=
  [(0, 0), (0, 65535), (1, 65535), (65535, 2), (65534, 3), (65535, 3)]

theorem longSides_outOfReach {side : UInt16 × UInt16} (hside : side ∈ longSides) :
    ¬InReach side.1 (side.1 + side.2 - 1) := by
  simp only [longSides, List.mem_cons, List.not_mem_nil, or_false] at hside
  rcases hside with rfl | rfl | rfl | rfl | rfl | rfl <;> decide

/-- The last coordinate of a side, with the two ways in which it wraps around. -/
theorem last_cases (start length : UInt16) :
    (start.toNat + length.toNat = 0 ∧ (start + length - 1).toNat = 65535) ∨
      (start + length - 1).toNat + 1 = start.toNat + length.toNat ∨
      (start + length - 1).toNat + 65537 = start.toNat + length.toNat := by
  have hstart := start.toNat_lt
  have hlength := length.toNat_lt
  simp only [UInt16.toNat_sub, UInt16.toNat_add, UInt16.reduceToNat]
  omega

theorem mem_longSides {start length : UInt16} (hfar : ¬InReach start (start + length - 1)) :
    (start, length) ∈ longSides := by
  have hstart := start.toNat_lt
  have hlength := length.toNat_lt
  have hlast := (start + length - 1).toNat_lt
  rw [InReach, abs_le] at hfar
  simp only [longSides, List.mem_cons, Prod.mk.injEq, List.not_mem_nil, or_false,
    ← UInt16.toNat_inj, UInt16.reduceToNat]
  rcases last_cases start length with ⟨hempty, hwrapped⟩ | hinside | hwrapped
  · exact .inl (Nat.add_eq_zero_iff.mp hempty)
  · have hlong : length.toNat = 65535 := by omega
    have hleft : start.toNat = 0 ∨ start.toNat = 1 := by omega
    simp [hlong, hleft]
  · rcases (by omega : length.toNat = 2 ∨ length.toNat = 3) with hshort | hshort
    · have hright : start.toNat = 65535 := by omega
      simp [hshort, hright]
    · have hright : start.toNat = 65534 ∨ start.toNat = 65535 := by omega
      simp [hshort, hright]

theorem inReach_iff_notMem_longSides (start length : UInt16) :
    InReach start (start + length - 1) ↔ (start, length) ∉ longSides :=
  ⟨fun hreach hmem => longSides_outOfReach hmem hreach, fun hnotMem =>
    Decidable.not_imp_comm.mp mem_longSides hnotMem⟩

/-- When a line ends and when the outline of a rectangle does. -/
theorem draw_ends_iff (panel : Panel) :
    (∀ usX1 usY1 usX2 usY2, (∃ fuel, (drawLine panel usX1 usY1 usX2 usY2 fuel).isSome) ↔
      InReach usX1 usX2 ∧ InReach usY1 usY2) ∧
    ∀ usXStart usYStart usWidth usHeight,
      (∃ fuel, (drawRectangle panel usXStart usYStart usWidth usHeight 0 fuel).isSome) ↔
        (usXStart, usWidth) ∉ longSides ∧ (usYStart, usHeight) ∉ longSides := by
  constructor
  · exact drawLine_ends_iff panel
  · intro usXStart usYStart usWidth usHeight
    rw [outline_ends_iff, inReach_iff_notMem_longSides, inReach_iff_notMem_longSides]

/-- A line over the whole range of a coordinate, and an empty rectangle at the left border. -/
theorem draw_hangs :
    (¬∃ fuel, (drawLine .init 0 0 65535 0 fuel).isSome) ∧
      ¬∃ fuel, (drawRectangle .init 0 10 0 30 0 fuel).isSome := by
  rw [drawLine_ends_iff, outline_ends_iff]
  decide

/-! ### Callers

The lines that the firmware itself draws, those of the calibration cross and of a
stroke on the palette, and whether they are ever finished. -/

/-- `ILI9341_DrawCross` of bsp_lcd_xpt2046.c. -/
def drawCross (panel : Panel) (usX usY : UInt16) (fuel : ℕ) : Option (List Point) := do
  let horizontal ← drawLine panel (usX - 10) usY (usX + 10) usY fuel
  let vertical ← drawLine panel usX (usY - 10) usX (usY + 10) fuel
  some (horizontal ++ vertical)

/-- An arm that wraps around is still 20 short of the whole range. -/
theorem inReach_arm (centre : UInt16) : InReach (centre - 10) (centre + 10) := by
  have hcentre := centre.toNat_lt
  simp only [InReach, UInt16.toNat_sub, UInt16.toNat_add, UInt16.reduceToNat, abs_le]
  omega

/-- The cross is finished wherever its centre lies, also when an arm wraps around. -/
theorem drawCross_ends (panel : Panel) (usX usY : UInt16) :
    ∃ fuel, (drawCross panel usX usY fuel).isSome := by
  obtain ⟨horizontal, hhorizontal⟩ := Option.isSome_iff_exists.mp
    (drawLine_isSome panel (inReach_arm usX) (inReach_self usY))
  obtain ⟨vertical, hvertical⟩ := Option.isSome_iff_exists.mp
    (drawLine_isSome panel (inReach_self usX) (inReach_arm usY))
  refine ⟨2 ^ 16, ?_⟩
  rw [drawCross, hhorizontal, hvertical]
  rfl

end WeatherStation.Ili9341

namespace WeatherStation.Palette
open Ili9341 (InReach drawLine drawLine_ends_iff)

section
variable {panel : Ili9341.Panel} {preX preY x y : Int16} {brush : BrushStyle}
  {usX1 usY1 usX2 usY2 : UInt16}

theorem drawLine_notMem_drawThickTrail (thick : UInt8) :
    .drawLine usX1 usY1 usX2 usY2 ∉ drawThickTrail preX preY x y thick := by
  unfold drawThickTrail
  split <;> simp

theorem inReach_toUInt16 {start stop : Int16} (hstart : 0 ≤ start) (hstop : 0 ≤ stop) :
    InReach start.toUInt16 stop.toUInt16 := by
  have hstartLt := start.toNatClampNeg_lt
  have hstopLt := stop.toNatClampNeg_lt
  rw [InReach, Int16.toNat_toUInt16_of_le hstart, Int16.toNat_toUInt16_of_le hstop, abs_le]
  omega

/-- A line joins the last point to the new one, both of them right of the buttons. -/
theorem mem_drawTrail
    (hcall : .drawLine usX1 usY1 usX2 usY2 ∈ drawTrail panel preX preY x y brush) :
    (usX1 = preX.toUInt16 ∧ usY1 = preY.toUInt16 ∧ usX2 = x.toUInt16 ∧ usY2 = y.toUInt16) ∧
      0 ≤ preX ∧ 0 ≤ x ∧ 0 ≤ preY := by
  have hline (hx : x.toInt > paletteStartX) (hcontinued : ¬(preX < 0 ∨ preY < 0)) :
      0 ≤ preX ∧ 0 ≤ x ∧ 0 ≤ preY := by
    rw [not_or, Int16.not_lt, Int16.not_lt] at hcontinued
    refine ⟨hcontinued.1, ?_, hcontinued.2⟩
    rw [Int16.le_iff_toInt_le]
    exact Int.le_trans (by decide) hx.le
  unfold drawTrail at hcall
  split at hcall
  case isFalse => exact absurd hcall List.not_mem_nil
  case isTrue hright =>
    obtain ⟨color, shape⟩ := brush
    cases shape with
    | lineSinglePixcel =>
      dsimp only at hcall
      split at hcall
      · simp at hcall
      · rename_i hcontinued
        simp only [List.mem_singleton, Call.drawLine.injEq] at hcall
        exact ⟨hcall, hline hright.1 hcontinued⟩
    | lineWithCircle =>
      dsimp only at hcall
      split at hcall
      · simp at hcall
      · split at hcall
        · simp at hcall
        · rename_i hcontinued
          simp only [List.mem_cons, Call.drawLine.injEq, reduceCtorEq, List.not_mem_nil,
            or_false] at hcall
          exact ⟨hcall, hline hright.1 hcontinued⟩
    | rubber =>
      dsimp only at hcall
      split at hcall <;> simp at hcall
    | line2Pixcel | line4Pixcel | line6Pixcel | line8Pixcel | line16Pixcel | line20Pixcel =>
      exact absurd hcall (drawLine_notMem_drawThickTrail _)

/-- Every line of a stroke is finished, unless the new point has a negative `y`, which
turns into a large coordinate. -/
theorem drawTrail_line_ends (hy : 0 ≤ y)
    (hcall : .drawLine usX1 usY1 usX2 usY2 ∈ drawTrail panel preX preY x y brush) :
    ∃ fuel, (drawLine panel usX1 usY1 usX2 usY2 fuel).isSome := by
  obtain ⟨⟨rfl, rfl, rfl, rfl⟩, hpreX, hx, hpreY⟩ := mem_drawTrail hcall
  exact (drawLine_ends_iff panel _ _ _ _).mpr
    ⟨inReach_toUInt16 hpreX hx, inReach_toUInt16 hpreY hy⟩

end
end WeatherStation.Palette
