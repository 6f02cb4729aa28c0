import WeatherStation.Ili9341

/-! Text wraps around before it leaves the panel. -/
namespace WeatherStation.Ili9341

/-- Every character of the string is drawn in its turn, in a cell on the panel. -/
structure OnPanel (panel : Panel) (font : Font) (pStr : List UInt8) (cells : List Cell) : Prop where
  inside : ∀ cell ∈ cells,
    cell.usX.toNat + font.width.toNat ≤ panel.lcdXLength.toNat ∧
      cell.usY.toNat + font.height.toNat ≤ panel.lcdYLength.toNat
  inOrder : cells.map Cell.cChar = pStr.takeWhile (· ≠ 0)

def Axis.Fits (axis : Axis) (position : UInt16) : Prop :=
  position.toNat + axis.size.toNat ≤ axis.length.toNat

section
variable {along across : Axis}

theorem Axis.fits_of_not_exceeded {axis : Axis} {position : UInt16}
    (h : axis.exceeded position = false) : axis.Fits position := by
  simpa [exceeded, Fits] using h

/-- After the two tests the position fits on both axes: a new line begins at 0, and
so does a new page. -/
theorem dispString_fits (halong : along.Fits 0) (hacross : across.Fits 0)
    (position line : UInt16) (pStr : List UInt8) :
    ∀ cell ∈ dispString along across position line pStr,
      along.Fits cell.1 ∧ across.Fits cell.2.1 := by
  induction pStr generalizing position line with
  | nil => simp [dispString]
  | cons cChar pStr ih =>
    rw [dispString]
    split
    · simp
    · rw [List.forall_mem_cons]
      refine ⟨?_, ih _ _⟩
      cases hposition : along.exceeded position with
      | false =>
        cases hline : across.exceeded line with
        | false =>
          simp [hline, Axis.fits_of_not_exceeded hposition, Axis.fits_of_not_exceeded hline]
        | true => simp [hline, halong, hacross]
      | true =>
        -- the line may wrap around modulo 2¹⁶ here, and is tested afterwards
        cases hline : across.exceeded (line + across.size) with
        | false => simp [hline, halong, Axis.fits_of_not_exceeded hline]
        | true => simp [hline, halong, hacross]

theorem dispString_chars (position line : UInt16) (pStr : List UInt8) :
    (dispString along across position line pStr).map (·.2.2) = pStr.takeWhile (· ≠ 0) := by
  induction pStr generalizing position line with
  | nil => rfl
  | cons cChar pStr ih =>
    rw [dispString]
    by_cases hend : cChar = 0 <;> simp [hend, ih]

end

theorem xAxis_fits {panel : Panel} {font : Font} (h : font.width ≤ panel.lcdXLength) :
    (xAxis panel font).Fits 0 := by
  simpa [Axis.Fits, xAxis] using UInt16.le_iff_toNat_le.mp h

theorem yAxis_fits {panel : Panel} {font : Font} (h : font.height ≤ panel.lcdYLength) :
    (yAxis panel font).Fits 0 := by
  simpa [Axis.Fits, yAxis] using UInt16.le_iff_toNat_le.mp h

section
variable {panel : Panel} {font : Font} (hwidth : font.width ≤ panel.lcdXLength)
  (hheight : font.height ≤ panel.lcdYLength)
include hwidth hheight

theorem dispStringEn_onPanel (usX usY : UInt16) (pStr : List UInt8) :
    OnPanel panel font pStr (dispStringEn panel font usX usY pStr) where
  inside := by
    unfold dispStringEn
    rw [List.forall_mem_map]
    exact dispString_fits (xAxis_fits hwidth) (yAxis_fits hheight) usX usY pStr
  inOrder := by
    unfold dispStringEn
    rw [List.map_map, ← @dispString_chars (xAxis panel font)]
    rfl

theorem dispStringEnYDir_onPanel (usX usY : UInt16) (pStr : List UInt8) :
    OnPanel panel font pStr (dispStringEnYDir panel font usX usY pStr) where
  inside := by
    unfold dispStringEnYDir
    rw [List.forall_mem_map]
    intro cell hcell
    exact (dispString_fits (yAxis_fits hheight) (xAxis_fits hwidth) usY usX pStr
      cell hcell).symm
  inOrder := by
    unfold dispStringEnYDir
    rw [List.map_map, ← @dispString_chars (yAxis panel font)]
    rfl

/-- Text never leaves the panel, wherever it starts. -/
theorem text_onPanel (usX usY : UInt16) (pStr : List UInt8) :
    OnPanel panel font pStr (dispStringEn panel font usX usY pStr) ∧
      OnPanel panel font pStr (dispStringLineEn panel font usY pStr) ∧
      OnPanel panel font pStr (dispStringEnYDir panel font usX usY pStr) :=
  ⟨dispStringEn_onPanel hwidth hheight usX usY pStr,
    dispStringEn_onPanel hwidth hheight 0 usY pStr,
    dispStringEnYDir_onPanel hwidth hheight usX usY pStr⟩

end

/-- A string that starts behind the end of the panel. -/
theorem text_onPanel_outside :
    OnPanel (gramScan 3 .init) ⟨24, 32⟩ [69, 78, 86, 0]
        (dispStringEn (gramScan 3 .init) ⟨24, 32⟩ 65530 300 [69, 78, 86, 0]) ∧
      OnPanel (gramScan 3 .init) ⟨24, 32⟩ [69, 78, 86, 0]
        (dispStringLineEn (gramScan 3 .init) ⟨24, 32⟩ 300 [69, 78, 86, 0]) ∧
      OnPanel (gramScan 3 .init) ⟨24, 32⟩ [69, 78, 86, 0]
        (dispStringEnYDir (gramScan 3 .init) ⟨24, 32⟩ 65530 300 [69, 78, 86, 0]) :=
  text_onPanel (by decide) (by decide) 65530 300 [69, 78, 86, 0]

end WeatherStation.Ili9341
