import WeatherStation.FrameMemory
import WeatherStation.TextCells

/-! Text on the screen.  `ILI9341_DispChar_EN` opens a window of the size of a character
and writes the bits of its glyph into it, as colours. -/
namespace WeatherStation.Ili9341

/-- The colours, and the table of the current font. -/
structure Pen where
  textColor : UInt16
  backColor : UInt16
  table : ℕ → UInt8

def fontLength (font : Font) : UInt8 := UInt8.ofNat (font.width.toNat * font.height.toNat / 8)

/-- The byte of the table; characters before the blank have no glyph there. -/
def glyphByte (pen : Pen) (font : Font) (cChar : UInt8) (byteCount : ℕ) : UInt8 :=
  let ucRelativePositon := cChar.toUInt16 - 32
  pen.table (ucRelativePositon.toNat * (fontLength font).toNat + byteCount)

def bitColor (pen : Pen) (byte : UInt8) (bitCount : ℕ) : UInt16 :=
  if byte &&& ((0x80 : UInt8) >>> UInt8.ofNat bitCount) ≠ 0 then pen.textColor else pen.backColor

def glyphColors (pen : Pen) (font : Font) (cChar : UInt8) : List UInt16 :=
  (List.range (fontLength font).toNat).flatMap fun byteCount =>
    (List.range 8).map (bitColor pen (glyphByte pen font cChar byteCount))

def dispCharEn (pen : Pen) (font : Font) (cell : Cell) : List Write :=
  openWindow cell.usX cell.usY font.width font.height ++
    .cmd cmdSetPixel :: (glyphColors pen font cell.cChar).map .data

/-! ### Characters and cells -/

/-- The font is stored in whole bytes, and fewer than 256 of them. -/
def Font.Packed (font : Font) : Prop :=
  font.width.toNat * font.height.toNat = 8 * (fontLength font).toNat

/-- The colour of the i-th place of a character. -/
def glyphColor (pen : Pen) (font : Font) (cChar : UInt8) (i : ℕ) : UInt16 :=
  bitColor pen (glyphByte pen font cChar (i / 8)) (i % 8)

def Cell.Over (font : Font) (cell : Cell) (column row : ℕ) : Prop :=
  Covers cell.usX cell.usY font.width font.height column row

/-- The colour of a place in the cell of a character. -/
def Cell.colorAt (pen : Pen) (font : Font) (cell : Cell) (column row : ℕ) : UInt16 :=
  glyphColor pen font cell.cChar
    ((row - cell.usY.toNat) * font.width.toNat + (column - cell.usX.toNat))

/-- Every place shows the last character over it; the others stay. -/
structure Shown (pen : Pen) (font : Font) (cells : List Cell) (start stop : Controller) : Prop where
  glyph : ∀ before cell after, cells = before ++ cell :: after → ∀ column row,
    cell.Over font column row → (∀ later ∈ after, ¬later.Over font column row) →
      stop.pixel column row = cell.colorAt pen font column row
  rest : ∀ column row, (∀ cell ∈ cells, ¬cell.Over font column row) →
    stop.pixel column row = start.pixel column row

section
variable {α : Type} {pen : Pen} {font : Font} {panel : Panel} {controller : Controller}

/-- Bytes and their bits, as one sequence. -/
theorem flatMap_bits {f : ℕ → ℕ → α} (n : ℕ) :
    ((List.range n).flatMap fun byte => (List.range 8).map (f byte)) =
      (List.range (8 * n)).map fun i => f (i / 8) (i % 8) := by
  induction n with
  | zero => rfl
  | succ n ih =>
    rw [@List.range_succ n, List.flatMap_append, ih, Nat.mul_succ, List.range_add, List.map_append,
      List.map_map, List.flatMap_singleton]
    congr 1
    refine List.map_congr_left fun i hi => ?_
    have hlt := List.mem_range.mp hi
    rw [Function.comp_apply, Nat.mul_add_div (by decide), Nat.mul_add_mod,
      Nat.div_eq_of_lt hlt, Nat.mod_eq_of_lt hlt, Nat.add_zero]

theorem dispCharEn_pixel {cell : Cell} {column row : ℕ} (hfont : font.Packed)
    (hx : cell.usX.toNat + font.width.toNat ≤ panel.lcdXLength.toNat)
    (hy : cell.usY.toNat + font.height.toNat ≤ panel.lcdYLength.toNat) :
    (cell.Over font column row → (controller.receives (dispCharEn pen font cell)).pixel column row =
      cell.colorAt pen font column row) ∧
    (¬cell.Over font column row → (controller.receives (dispCharEn pen font cell)).pixel column row =
      controller.pixel column row) := by
  have hpanel := panel.length_le
  have hcolors : glyphColors pen font cell.cChar =
      (List.range (font.width.toNat * font.height.toNat)).map (glyphColor pen font cell.cChar) := by
    rw [glyphColors, flatMap_bits, hfont]
    rfl
  have hpixel := @draw_pixel controller cell.usX cell.usY font.width font.height column row
    (glyphColors pen font cell.cChar) (by simp [hcolors]) (by omega) (by omega)
  rw [dispCharEn, hpixel]
  refine ⟨fun hover => ?_, fun hnot => if_neg hnot⟩
  have hcovers : Covers cell.usX cell.usY font.width font.height column row := hover
  rw [if_pos hcovers, hcolors, List.getD_eq_getElem _ _ (by simpa using hcovers.index_lt)]
  simp [Cell.colorAt]

theorem cells_rest {cells : List Cell} {column row : ℕ} (hfont : font.Packed)
    (h : ∀ cell ∈ cells, cell.usX.toNat + font.width.toNat ≤ panel.lcdXLength.toNat ∧
      cell.usY.toNat + font.height.toNat ≤ panel.lcdYLength.toNat)
    (hnot : ∀ cell ∈ cells, ¬cell.Over font column row) :
    (controller.receives (cells.flatMap (dispCharEn pen font))).pixel column row =
      controller.pixel column row := by
  induction cells generalizing controller with
  | nil => rfl
  | cons cell cells ih =>
    rw [List.forall_mem_cons] at h hnot
    rw [List.flatMap_cons, Controller.receives_append, ih h.2 hnot.2]
    exact (dispCharEn_pixel hfont h.1.1 h.1.2).2 hnot.1

theorem cells_shown {cells : List Cell} (hfont : font.Packed)
    (h : ∀ cell ∈ cells, cell.usX.toNat + font.width.toNat ≤ panel.lcdXLength.toNat ∧
      cell.usY.toNat + font.height.toNat ≤ panel.lcdYLength.toNat) :
    Shown pen font cells controller (controller.receives (cells.flatMap (dispCharEn pen font))) where
  glyph before cell after hcells column row hover hlater := by
    subst hcells
    rw [List.forall_mem_append, List.forall_mem_cons] at h
    obtain ⟨-, ⟨hx, hy⟩, hafter⟩ := h
    rw [List.flatMap_append, List.flatMap_cons, Controller.receives_append,
      Controller.receives_append, cells_rest hfont hafter hlater]
    exact (dispCharEn_pixel hfont hx hy).1 hover
  rest _ _ hnot := cells_rest hfont h hnot

/-- Wherever a string starts, the screen shows its characters in their cells. -/
theorem text_on_screen (controller : Controller) (pen : Pen) (hfont : font.Packed)
    (hwidth : font.width ≤ panel.lcdXLength) (hheight : font.height ≤ panel.lcdYLength)
    (usX usY : UInt16) (pStr : List UInt8) :
    let draw (cells : List Cell) := controller.receives (cells.flatMap (dispCharEn pen font))
    let across := dispStringEn panel font usX usY pStr
    let line := dispStringLineEn panel font usY pStr
    let down := dispStringEnYDir panel font usX usY pStr
    Shown pen font across controller (draw across) ∧ Shown pen font line controller (draw line) ∧
      Shown pen font down controller (draw down) :=
  ⟨cells_shown hfont (dispStringEn_onPanel hwidth hheight usX usY pStr).inside,
    cells_shown hfont (dispStringEn_onPanel hwidth hheight 0 usY pStr).inside,
    cells_shown hfont (dispStringEnYDir_onPanel hwidth hheight usX usY pStr).inside⟩

end

theorem text_on_blankScreen :
    let pen : Pen := ⟨0xFFFF, 0, fun _ => 0x55⟩
    let draw (cells : List Cell) := blankScreen.receives (cells.flatMap (dispCharEn pen ⟨8, 16⟩))
    let across := dispStringEn .init ⟨8, 16⟩ 230 0 [72, 105, 0]
    let line := dispStringLineEn .init ⟨8, 16⟩ 0 [72, 105, 0]
    let down := dispStringEnYDir .init ⟨8, 16⟩ 230 0 [72, 105, 0]
    Shown pen ⟨8, 16⟩ across blankScreen (draw across) ∧
      Shown pen ⟨8, 16⟩ line blankScreen (draw line) ∧
      Shown pen ⟨8, 16⟩ down blankScreen (draw down) :=
  @text_on_screen ⟨8, 16⟩ .init blankScreen ⟨0xFFFF, 0, fun _ => 0x55⟩ rfl (by decide) (by decide)
    230 0 [72, 105, 0]

/-! ### A line of text -/

section
variable {pen : Pen} {font : Font} {panel : Panel} {along across : Axis} {position line : UInt16}
  {cChar : UInt8} {pStr : List UInt8}

/-- Inside the line the next character goes to the right of this one. -/
theorem dispString_straight (hchar : cChar ≠ 0) (halong : along.Fits position)
    (hacross : across.Fits line) :
    dispString along across position line (cChar :: pStr) =
      (position, line, cChar) :: dispString along across (position + along.size) line pStr := by
  have hposition : along.exceeded position = false := by simpa [Axis.exceeded, Axis.Fits] using halong
  have hline : across.exceeded line = false := by simpa [Axis.exceeded, Axis.Fits] using hacross
  simp [dispString, hchar, hposition, hline]

/-- A stretch of text that fits between a position and the end of the line. -/
def Axis.Holds (axis : Axis) (position : UInt16) (pStr : List UInt8) : Prop :=
  position.toNat + pStr.length * axis.size.toNat ≤ axis.length.toNat ∧ ∀ cChar ∈ pStr, cChar ≠ 0

theorem Axis.Holds.cons {axis : Axis} (h : axis.Holds position (cChar :: pStr)) :
    cChar ≠ 0 ∧ axis.Fits position ∧ (position + axis.size).toNat = position.toNat + axis.size.toNat ∧
      axis.Holds (position + axis.size) pStr := by
  obtain ⟨hlength, hchars⟩ := h
  rw [List.forall_mem_cons] at hchars
  rw [List.length_cons, Nat.add_mul, Nat.one_mul] at hlength
  have hlimit := axis.length.toNat_lt
  have hnext : (position + axis.size).toNat = position.toNat + axis.size.toNat := by
    rw [UInt16.toNat_add]
    omega
  exact ⟨hchars.1, by unfold Fits; omega, hnext, by omega, hchars.2⟩

theorem straight_later (h : along.Holds position pStr) (hacross : across.Fits line) :
    ∀ cell ∈ dispString along across position line pStr, position.toNat ≤ cell.1.toNat := by
  induction pStr generalizing position with
  | nil => simp [dispString]
  | cons cChar pStr ih =>
    obtain ⟨hchar, hfits, hnext, hrest⟩ := h.cons
    rw [dispString_straight hchar hfits hacross, List.forall_mem_cons]
    refine ⟨Nat.le_refl _, fun cell hcell => ?_⟩
    have hlater := ih hrest cell hcell
    omega

/-- A string that fits on its line is shown character by character. -/
theorem line_on_screen (controller : Controller) (pen : Pen) (hfont : font.Packed)
    {usX usY : UInt16} (hline : (xAxis panel font).Holds usX pStr) (hy : (yAxis panel font).Fits usY)
    {k column row : ℕ} (hk : k < pStr.length) (hcolumn : column < font.width.toNat)
    (hrow : row < font.height.toNat) :
    (controller.receives ((dispStringEn panel font usX usY pStr).flatMap
        (dispCharEn pen font))).pixel (usX.toNat + k * font.width.toNat + column)
        (usY.toNat + row) =
      glyphColor pen font (pStr.getD k 0) (row * font.width.toNat + column) := by
  induction pStr generalizing controller usX k with
  | nil => exact absurd hk (Nat.not_lt_zero k)
  | cons cChar pStr ih =>
    obtain ⟨hchar, hfits, hnext, hrest⟩ := hline.cons
    have hcells : dispStringEn panel font usX usY (cChar :: pStr) =
        ⟨usX, usY, cChar⟩ :: dispStringEn panel font (usX + font.width) usY pStr := by
      rw [dispStringEn, dispString_straight hchar hfits hy]
      rfl
    have hwidth : font.width ≤ panel.lcdXLength :=
      UInt16.le_iff_toNat_le.mpr (Nat.le_trans (Nat.le_add_left _ _) hfits)
    have hheight : font.height ≤ panel.lcdYLength :=
      UInt16.le_iff_toNat_le.mpr (Nat.le_trans (Nat.le_add_left _ _) hy)
    have hsize : (xAxis panel font).size = font.width := rfl
    rw [hsize] at hnext
    rw [hcells, List.flatMap_cons, Controller.receives_append]
    cases k with
    | zero =>
      have hapart : ∀ cell ∈ dispStringEn panel font (usX + font.width) usY pStr,
          ¬cell.Over font (usX.toNat + 0 * font.width.toNat + column) (usY.toNat + row) := by
        unfold dispStringEn
        rw [List.forall_mem_map]
        intro cell hcell hover
        have hlater := straight_later hrest hy cell hcell
        have hleft := hover.1.1
        dsimp only at hleft
        rw [hsize] at hlater
        omega
      have hover : Cell.Over font ⟨usX, usY, cChar⟩
          (usX.toNat + 0 * font.width.toNat + column) (usY.toNat + row) := by
        rw [Nat.zero_mul]
        exact ⟨⟨by dsimp only; omega, by dsimp only; omega⟩, by dsimp only; omega,
          by dsimp only; omega⟩
      rw [cells_rest hfont (dispStringEn_onPanel hwidth hheight _ _ _).inside hapart,
        (@dispCharEn_pixel pen font panel controller ⟨usX, usY, cChar⟩ _ _ hfont hfits hy).1 hover]
      simp [Cell.colorAt]
    | succ k =>
      have hplace : usX.toNat + (k + 1) * font.width.toNat + column =
          (usX + font.width).toNat + k * font.width.toNat + column := by
        rw [hnext, Nat.add_mul, Nat.one_mul]
        omega
      rw [hplace]
      exact ih _ hrest (Nat.lt_of_succ_lt_succ hk)

/-- "Hi" in the middle of the screen, with a font of blocks. -/
theorem line_on_blankScreen :
    (blankScreen.receives ((dispStringEn .init ⟨8, 16⟩ 100 40 [72, 105]).flatMap
        (dispCharEn ⟨0xFFFF, 0, fun _ => 0xF0⟩ ⟨8, 16⟩))).pixel (100 + 1 * 8 + 3) (40 + 2) =
      glyphColor ⟨0xFFFF, 0, fun _ => 0xF0⟩ ⟨8, 16⟩ 105 (2 * 8 + 3) :=
  @line_on_screen ⟨8, 16⟩ .init [72, 105] blankScreen ⟨0xFFFF, 0, fun _ => 0xF0⟩ rfl 100 40
    ⟨by decide, by simp⟩ (show 40 + 16 ≤ 320 by decide) 1 3 2 (by decide) (by decide) (by decide)

end
end WeatherStation.Ili9341
