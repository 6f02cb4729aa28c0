import WeatherStation.DrawEnds

/-! What `ILI9341_DrawRectangle` draws: inside the panel the border of the rectangle,
and filled as many pixels as it has. -/
namespace WeatherStation.Ili9341
open Lib

/-! ### Lines along an axis -/

/-- A coordinate that stays the same. -/
theorem between_self (start : UInt16) {distance steps : ℕ} (hsteps : steps ≤ distance + 1) :
    between start start distance steps = start.toNat := by
  have hle : |(start.toNat : ℤ) - start.toNat| ≤ (distance : ℤ) := by simp
  have hbounds := between_bounds rfl hle hsteps
  omega

/-- A coordinate that goes up meets everything between its ends. -/
theorem exists_between {start stop value : UInt16} {distance : ℕ}
    (hdistance : start.toNat + distance = stop.toNat) (hstart : start ≤ value)
    (hstop : value ≤ stop) :
    ∃ steps < distance + 2, UInt16.ofInt (between start stop distance steps) = value := by
  rw [UInt16.le_iff_toNat_le] at hstart hstop
  rcases hstart.eq_or_lt with hsame | hlater
  · refine ⟨0, Nat.succ_pos _, ?_⟩
    rw [between_zero, ofInt_toNat, UInt16.toNat_inj.mp hsame]
  · have hpos : (0 : ℤ) < distance := by omega
    have hdelta : (stop.toNat : ℤ) - start.toNat = distance := by omega
    have hdirection : direction (distance : ℤ) = (1, (distance : ℤ)) := if_pos hpos
    refine ⟨value.toNat - start.toNat + 1, by omega, ?_⟩
    rw [between, coordinate, hdelta, hdirection, Accumulator.moves_major hpos, one_mul]
    have hvalue : (start.toNat : ℤ) + (value.toNat - start.toNat : ℕ) = value.toNat := by omega
    rw [hvalue, ofInt_toNat]

section
variable {usX1 usX2 usY1 usY2 : UInt16} {distance : ℕ} {point : Point}

theorem mem_linePoints_horizontal (hdistance : usX1.toNat + distance = usX2.toNat) :
    point ∈ linePoints usX1 usY1 usX2 usY1 distance ↔
      (usX1 ≤ point.x ∧ point.x ≤ usX2) ∧ point.y = usY1 := by
  have hx : |(usX2.toNat : ℤ) - usX1.toNat| ≤ distance := abs_le.mpr (by omega)
  have hy : |(usY1.toNat : ℤ) - usY1.toNat| ≤ distance := by simp
  constructor
  · intro hmem
    obtain ⟨steps, hsteps, rfl⟩ := List.mem_map.mp hmem
    have hinBox := linePoint_inBox hx hy (Nat.le_of_lt_succ (List.mem_range.mp hsteps))
    rw [UInt16.le_iff_toNat_le, UInt16.le_iff_toNat_le, ← UInt16.toNat_inj]
    dsimp only at hinBox
    omega
  · rintro ⟨⟨hstart, hstop⟩, hsame⟩
    obtain ⟨steps, hsteps, hvalue⟩ := exists_between hdistance hstart hstop
    refine List.mem_map.mpr ⟨steps, List.mem_range.mpr hsteps, ?_⟩
    rw [linePoint, hvalue, between_self usY1 (Nat.le_of_lt_succ hsteps), ofInt_toNat, ← hsame]

theorem linePoints_swap :
    linePoints usX1 usY1 usX2 usY2 distance =
      (linePoints usY1 usX1 usY2 usX2 distance).map fun point => ⟨point.y, point.x⟩ := by
  rw [linePoints, linePoints, List.map_map]
  rfl

theorem mem_linePoints_vertical (hdistance : usY1.toNat + distance = usY2.toNat) :
    point ∈ linePoints usX1 usY1 usX1 usY2 distance ↔
      point.x = usX1 ∧ usY1 ≤ point.y ∧ point.y ≤ usY2 := by
  rw [linePoints_swap, List.mem_map]
  constructor
  · rintro ⟨swapped, hmem, rfl⟩
    exact ((mem_linePoints_horizontal hdistance).mp hmem).symm
  · intro h
    exact ⟨⟨point.y, point.x⟩, (mem_linePoints_horizontal hdistance).mpr h.symm, rfl⟩

end

/-- So much fuel is enough for every line on the panel. -/
theorem drawLine_eq_linePoints {panel : Panel} {usX1 usY1 usX2 usY2 : UInt16} {distance : ℕ}
    (hmax : max |(usX2.toNat : ℤ) - usX1.toNat| |(usY2.toNat : ℤ) - usY1.toNat| = distance)
    (hx1 : usX1 < panel.lcdXLength) (hy1 : usY1 < panel.lcdYLength)
    (hx2 : usX2 < panel.lcdXLength) (hy2 : usY2 < panel.lcdYLength) :
    drawLine panel usX1 usY1 usX2 usY2 (2 ^ 16) =
      some (linePoints usX1 usY1 usX2 usY2 distance) := by
  have hlt := distance_lt hx1 hy1 hx2 hy2 hmax.symm
  exact (drawLineLoop_collects panel _).mono (by omega) (drawLine_linePoints (hmax ▸ le_max_left _ _)
    (hmax ▸ le_max_right _ _) hx1 hy1 hx2 hy2 ((lDistance_of ..).trans hmax) (by omega))

section
variable {panel : Panel} {usX1 usX2 usY1 usY2 : UInt16}

theorem drawLine_horizontal {distance : ℕ} (hdistance : usX1.toNat + distance = usX2.toNat)
    (hx : usX2 < panel.lcdXLength) (hy : usY1 < panel.lcdYLength) :
    ∃ pixels, drawLine panel usX1 usY1 usX2 usY1 (2 ^ 16) = some pixels ∧
      ∀ point, point ∈ pixels ↔ (usX1 ≤ point.x ∧ point.x ≤ usX2) ∧ point.y = usY1 := by
  have hstart : usX1 < panel.lcdXLength := by
    rw [UInt16.lt_iff_toNat_lt] at hx ⊢
    omega
  have hdelta : (usX2.toNat : ℤ) - usX1.toNat = distance := by omega
  refine ⟨linePoints usX1 usY1 usX2 usY1 distance, drawLine_eq_linePoints ?_ hstart hy hx hy,
    fun point => mem_linePoints_horizontal hdistance⟩
  rw [hdelta, sub_self, abs_zero, Nat.abs_cast, max_eq_left (Int.natCast_nonneg distance)]

theorem drawLine_vertical {distance : ℕ} (hdistance : usY1.toNat + distance = usY2.toNat)
    (hx : usX1 < panel.lcdXLength) (hy : usY2 < panel.lcdYLength) :
    ∃ pixels, drawLine panel usX1 usY1 usX1 usY2 (2 ^ 16) = some pixels ∧
      ∀ point, point ∈ pixels ↔ point.x = usX1 ∧ usY1 ≤ point.y ∧ point.y ≤ usY2 := by
  have hstart : usY1 < panel.lcdYLength := by
    rw [UInt16.lt_iff_toNat_lt] at hy ⊢
    omega
  have hdelta : (usY2.toNat : ℤ) - usY1.toNat = distance := by omega
  refine ⟨linePoints usX1 usY1 usX1 usY2 distance, drawLine_eq_linePoints ?_ hx hstart hx hy,
    fun point => mem_linePoints_vertical hdistance⟩
  rw [hdelta, sub_self, abs_zero, Nat.abs_cast, max_eq_right (Int.natCast_nonneg distance)]

end

/-! ### The four sides -/

/-- The border of the rectangle between two corners. -/
def OnBorder (usX1 usY1 usX2 usY2 : UInt16) (point : Point) : Prop :=
  ((usX1 ≤ point.x ∧ point.x ≤ usX2) ∧ usY1 ≤ point.y ∧ point.y ≤ usY2) ∧
    (point.x = usX1 ∨ point.x = usX2 ∨ point.y = usY1 ∨ point.y = usY2)

/-- Inside the panel the last coordinate of a side does not wrap around. -/
theorem last_toNat {start length size : UInt16} (hlength : length ≠ 0)
    (hinside : start.toNat + length.toNat ≤ size.toNat) :
    0 < length.toNat ∧ start.toNat + (length.toNat - 1) = (start + length - 1).toNat := by
  have hsize := size.toNat_lt
  have hpos : 0 < length.toNat :=
    Nat.pos_of_ne_zero fun hzero => hlength (UInt16.toNat_inj.mp hzero)
  refine ⟨hpos, ?_⟩
  rcases last_cases start length with ⟨hempty, -⟩ | hlast | hwrapped <;> omega

/-- The outline of a rectangle inside the panel is its border. -/
theorem drawRectangle_drawn {panel : Panel} {usXStart usYStart usWidth usHeight : UInt16}
    (hwidth : usWidth ≠ 0) (hheight : usHeight ≠ 0)
    (hx : usXStart.toNat + usWidth.toNat ≤ panel.lcdXLength.toNat)
    (hy : usYStart.toNat + usHeight.toNat ≤ panel.lcdYLength.toNat) :
    ∃ fuel pixels, drawRectangle panel usXStart usYStart usWidth usHeight 0 fuel =
        some (.outline pixels) ∧
      ∀ point, point ∈ pixels ↔ OnBorder usXStart usYStart (usXStart + usWidth - 1)
        (usYStart + usHeight - 1) point := by
  obtain ⟨hxPos, hxLast⟩ := last_toNat hwidth hx
  obtain ⟨hyPos, hyLast⟩ := last_toNat hheight hy
  have hxStart : usXStart < panel.lcdXLength := UInt16.lt_iff_toNat_lt.mpr (by omega)
  have hyStart : usYStart < panel.lcdYLength := UInt16.lt_iff_toNat_lt.mpr (by omega)
  have hxEnd : usXStart + usWidth - 1 < panel.lcdXLength := UInt16.lt_iff_toNat_lt.mpr (by omega)
  have hyEnd : usYStart + usHeight - 1 < panel.lcdYLength := UInt16.lt_iff_toNat_lt.mpr (by omega)
  obtain ⟨top, htop, hmemTop⟩ := drawLine_horizontal hxLast hxEnd hyStart
  obtain ⟨bottom, hbottom, hmemBottom⟩ := drawLine_horizontal hxLast hxEnd hyEnd
  obtain ⟨left, hleft, hmemLeft⟩ := drawLine_vertical hyLast hxStart hyEnd
  obtain ⟨right, hright, hmemRight⟩ := drawLine_vertical hyLast hxEnd hyEnd
  refine ⟨2 ^ 16, top ++ bottom ++ left ++ right, ?_, fun point => ?_⟩
  · rw [drawRectangle, if_neg (not_not.mpr rfl), htop, hbottom, hleft, hright]
    rfl
  · simp only [List.mem_append, hmemTop, hmemBottom, hmemLeft, hmemRight, OnBorder,
      UInt16.le_iff_toNat_le, ← UInt16.toNat_inj]
    omega

example : drawRectangle .init 1 2 3 2 0 5 = some (.outline
    [⟨1, 2⟩, ⟨1, 2⟩, ⟨2, 2⟩, ⟨3, 2⟩, ⟨1, 3⟩, ⟨1, 3⟩, ⟨2, 3⟩, ⟨3, 3⟩, ⟨1, 2⟩, ⟨1, 2⟩, ⟨1, 3⟩,
      ⟨3, 2⟩, ⟨3, 2⟩, ⟨3, 3⟩]) := by decide

/-! ### The filled rectangle -/

theorem fillColorLoop_pixels {ulAmoutPoint i : UInt32} {fuel pixels : ℕ}
    (hi : i.toNat ≤ ulAmoutPoint.toNat) (h : fillColorLoop ulAmoutPoint fuel i = some pixels) :
    i.toNat + pixels = ulAmoutPoint.toNat := by
  induction fuel generalizing i pixels with
  | zero => nomatch h
  | succ fuel ih =>
    rw [fillColorLoop] at h
    split at h
    case isTrue hgoes =>
      rw [UInt32.lt_iff_toNat_lt] at hgoes
      obtain ⟨rest, hrest, rfl⟩ := Option.map_eq_some_iff.mp h
      have hlimit := ulAmoutPoint.toNat_lt
      have hnext : (i + 1).toNat = i.toNat + 1 := by
        rw [UInt32.toNat_add, UInt32.toNat_one]
        omega
      have hpixels := ih (hnext ▸ hgoes) hrest
      omega
    case isFalse hleaves =>
      rw [UInt32.lt_iff_toNat_lt] at hleaves
      obtain rfl := Option.some.inj h
      omega

theorem fillColor_eq (ulAmoutPoint : UInt32) :
    fillColor ulAmoutPoint (ulAmoutPoint.toNat + 1) = some ulAmoutPoint.toNat := by
  obtain ⟨pixels, hpixels⟩ := Option.isSome_iff_exists.mp
    ((fillColor_isSome_iff ulAmoutPoint _).mpr (Nat.lt_succ_self _))
  have hcount := fillColorLoop_pixels (Nat.zero_le _) hpixels
  rw [hpixels, ← hcount, UInt32.toNat_zero, Nat.zero_add]

/-- Whatever its sides, a filled rectangle writes as many pixels as it has. -/
theorem drawRectangle_filled (panel : Panel) (usXStart usYStart usWidth usHeight : UInt16)
    {ucFilled : UInt8} (hfilled : ucFilled ≠ 0) :
    ∃ fuel, drawRectangle panel usXStart usYStart usWidth usHeight ucFilled fuel =
      some (.filled usXStart usYStart usWidth usHeight (usWidth.toNat * usHeight.toNat)) := by
  have harea : usWidth.toNat * usHeight.toNat < 2 ^ 32 :=
    (Nat.mul_lt_mul'' usWidth.toNat_lt usHeight.toNat_lt).trans_eq rfl
  have hproduct : (usWidth.toUInt32 * usHeight.toUInt32).toNat =
      usWidth.toNat * usHeight.toNat := by
    rw [UInt32.toNat_mul, UInt16.toNat_toUInt32, UInt16.toNat_toUInt32, Nat.mod_eq_of_lt harea]
  refine ⟨(usWidth.toUInt32 * usHeight.toUInt32).toNat + 1, ?_⟩
  rw [drawRectangle, if_pos hfilled, fillColor_eq, hproduct]
  rfl

end WeatherStation.Ili9341
