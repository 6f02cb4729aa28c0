import WeatherStation.DrawnRectangle
import WeatherStation.Lib.Raster

/-! What the functions of bsp_lcd_ili9341.c leave on the screen.  They write commands
and data over the bus; the controller keeps a window and moves on inside it by itself. -/
namespace WeatherStation.Ili9341
open Lib

/-- `ILI9341_Write_Cmd` and `ILI9341_Write_Data`. -/
inductive Write where
  | cmd (usCmd : UInt16)
  | data (usData : UInt16)
  deriving DecidableEq, Repr

def cmdSetCoordinateX : UInt16 := 0x2A
def cmdSetCoordinateY : UInt16 := 0x2B
def cmdSetPixel : UInt16 := 0x2C

/-! ### The controller -/

/-- The current command and its parameters so far, the window and the pixels. -/
structure Controller where
  command : UInt16
  params : List ℕ
  raster : Raster UInt16

namespace Controller

/-- The fourth parameter completes the two ends of the window along one axis. -/
def setEnds (command : UInt16) (params : List ℕ) (window : Window) : Window :=
  match params with
  | [startHigh, startLow, endHigh, endLow] =>
    if command = cmdSetCoordinateX then
      { window with left := startHigh * 256 + startLow, right := endHigh * 256 + endLow }
    else if command = cmdSetCoordinateY then
      { window with top := startHigh * 256 + startLow, bottom := endHigh * 256 + endLow }
    else window
  | _ => window

/-- A parameter has eight bits; of the other commands only the parameters are kept. -/
def receive (controller : Controller) : Write → Controller
  | .cmd usCmd =>
    ⟨usCmd, [], if usCmd = cmdSetPixel then controller.raster.home else controller.raster⟩
  | .data usData =>
    if controller.command = cmdSetPixel then
      { controller with raster := controller.raster.put usData }
    else
      let params := controller.params ++ [usData.toNat % 256]
      { controller with
        params
        raster := { controller.raster with
          window := setEnds controller.command params controller.raster.window } }

def receives (controller : Controller) (writes : List Write) : Controller :=
  writes.foldl receive controller

def pixel (controller : Controller) (column row : ℕ) : UInt16 := controller.raster.pixel column row

end Controller

/-! ### The functions that draw -/

/-- The high and the low byte of a start, and of an end that is computed as an `int`. -/
def ends (start length : UInt16) : List Write :=
  let stop : ℤ := start.toNat + length.toNat - 1
  [.data (start >>> 8), .data (start &&& 0xFF), .data (UInt16.ofInt (stop / 256)),
    .data (UInt16.ofInt (stop % 256))]

def openWindow (usX usY usWidth usHeight : UInt16) : List Write :=
  .cmd cmdSetCoordinateX :: ends usX usWidth ++ .cmd cmdSetCoordinateY :: ends usY usHeight

/-- What `ILI9341_FillColor` writes; `fillColor` counts it. -/
def fillWrites (ulAmoutPoint : UInt32) (usColor : UInt16) : List Write :=
  .cmd cmdSetPixel :: List.replicate ulAmoutPoint.toNat (.data usColor)

/-- `ILI9341_Clear`, and `ILI9341_DrawRectangle` when it fills. -/
def fillWindow (usColor usX usY usWidth usHeight : UInt16) : List Write :=
  openWindow usX usY usWidth usHeight ++ fillWrites (usWidth.toUInt32 * usHeight.toUInt32) usColor

def pointWrites (usColor : UInt16) (point : Point) : List Write :=
  openWindow point.x point.y 1 1 ++ fillWrites 1 usColor

/-! ### The window -/

namespace Controller

section
variable {controller : Controller} {start length usX usY usWidth usHeight : UInt16}
  {column row : ℕ} {first second : List Write}

theorem receives_append :
    controller.receives (first ++ second) = (controller.receives first).receives second := by
  simp [receives]

theorem high_toNat : (start >>> 8).toNat % 256 = start.toNat / 256 := by
  have hlt := start.toNat_lt
  rw [UInt16.toNat_shiftRight, show (8 : UInt16).toNat % 16 = 8 from rfl, Nat.shiftRight_eq_div_pow]
  omega

theorem low_toNat : (start &&& 0xFF).toNat % 256 = start.toNat % 256 := by
  rw [UInt16.toNat_and, show (0xFF : UInt16).toNat = 2 ^ 8 - 1 from rfl,
    Nat.and_two_pow_sub_one_eq_mod, Nat.mod_mod]

/-- Four parameters set the ends along the axis of the command. -/
theorem ends_run (hcommand : controller.command ≠ cmdSetPixel) (hparams : controller.params = [])
    (hpos : 0 < length.toNat) (hfits : start.toNat + length.toNat ≤ 2 ^ 16) :
    (controller.receives (ends start length)).raster =
      { controller.raster with
        window :=
          if controller.command = cmdSetCoordinateX then
            { controller.raster.window with
              left := start.toNat, right := start.toNat + length.toNat - 1 }
          else if controller.command = cmdSetCoordinateY then
            { controller.raster.window with
              top := start.toNat, bottom := start.toNat + length.toNat - 1 }
          else controller.raster.window } := by
  have hhigh : (UInt16.ofInt ((start.toNat + length.toNat - 1 : ℤ) / 256)).toNat % 256 =
      (start.toNat + length.toNat - 1) / 256 := by
    have hvalue := @toNat_ofInt ((start.toNat + length.toNat - 1 : ℤ) / 256) (by omega) (by omega)
    omega
  have hlow : (UInt16.ofInt ((start.toNat + length.toNat - 1 : ℤ) % 256)).toNat % 256 =
      (start.toNat + length.toNat - 1) % 256 := by
    have hvalue := @toNat_ofInt ((start.toNat + length.toNat - 1 : ℤ) % 256) (by omega) (by omega)
    omega
  simp only [receives, ends, List.foldl, receive, if_neg hcommand, hparams, List.nil_append,
    List.cons_append, setEnds, high_toNat, low_toNat, hhigh, hlow, Nat.div_add_mod']

theorem openWindow_run (hwidth : 0 < usWidth.toNat) (hheight : 0 < usHeight.toNat)
    (hx : usX.toNat + usWidth.toNat ≤ 2 ^ 16) (hy : usY.toNat + usHeight.toNat ≤ 2 ^ 16) :
    (controller.receives (openWindow usX usY usWidth usHeight)).raster =
      { controller.raster with
        window := ⟨usX.toNat, usX.toNat + usWidth.toNat - 1, usY.toNat,
          usY.toNat + usHeight.toNat - 1⟩ } := by
  have hcolumns := @ends_run ⟨cmdSetCoordinateX, [], controller.raster⟩ usX usWidth
    (show cmdSetCoordinateX ≠ cmdSetPixel by decide) rfl hwidth hx
  have hrows (raster : Raster UInt16) := @ends_run ⟨cmdSetCoordinateY, [], raster⟩ usY usHeight
    (show cmdSetCoordinateY ≠ cmdSetPixel by decide) rfl hheight hy
  rw [if_pos rfl] at hcolumns
  have hsplit : controller.receives (openWindow usX usY usWidth usHeight) =
      receives ⟨cmdSetCoordinateY, [],
        (receives ⟨cmdSetCoordinateX, [], controller.raster⟩ (ends usX usWidth)).raster⟩
        (ends usY usHeight) := rfl
  rw [hsplit, hrows, if_neg (show cmdSetCoordinateY ≠ cmdSetCoordinateX by decide), if_pos rfl,
    hcolumns]

theorem data_run {values : List UInt16} (hcommand : controller.command = cmdSetPixel) :
    controller.receives (values.map .data) =
      { controller with raster := controller.raster.puts values } := by
  induction values generalizing controller with
  | nil => rfl
  | cons value values ih =>
    have hfirst : controller.receive (.data value) =
        { controller with raster := controller.raster.put value } := if_pos hcommand
    show (controller.receive (.data value)).receives _ = _
    rw [hfirst]
    exact ih hcommand

end

end Controller

/-! ### What is drawn -/

/-- The places of a window. -/
def Covers (usX usY usWidth usHeight : UInt16) (column row : ℕ) : Prop :=
  (usX.toNat ≤ column ∧ column < usX.toNat + usWidth.toNat) ∧
    usY.toNat ≤ row ∧ row < usY.toNat + usHeight.toNat

instance (usX usY usWidth usHeight : UInt16) (column row : ℕ) :
    Decidable (Covers usX usY usWidth usHeight column row) := inferInstanceAs (Decidable (_ ∧ _))

section
variable {controller : Controller} {usX usY usWidth usHeight usColor : UInt16} {column row : ℕ}

/-- Counted row by row, a place of the window comes before its end. -/
theorem Covers.index_lt (h : Covers usX usY usWidth usHeight column row) :
    (row - usY.toNat) * usWidth.toNat + (column - usX.toNat) < usWidth.toNat * usHeight.toNat := by
  obtain ⟨⟨hleft, hright⟩, htop, hbottom⟩ := h
  have hrows : (row - usY.toNat + 1) * usWidth.toNat ≤ usHeight.toNat * usWidth.toNat :=
    Nat.mul_le_mul_right _ (by omega)
  rw [Nat.add_mul, Nat.one_mul] at hrows
  rw [Nat.mul_comm usWidth.toNat]
  omega

/-- Values that were written to a window stand in it row by row. -/
theorem draw_pixel {values : List UInt16} (hlength : values.length ≤ usWidth.toNat * usHeight.toNat)
    (hx : usX.toNat + usWidth.toNat ≤ 2 ^ 16) (hy : usY.toNat + usHeight.toNat ≤ 2 ^ 16) :
    (controller.receives (openWindow usX usY usWidth usHeight ++
        .cmd cmdSetPixel :: values.map .data)).pixel column row =
      if Covers usX usY usWidth usHeight column row then
        values.getD ((row - usY.toNat) * usWidth.toNat + (column - usX.toNat))
          (controller.pixel column row)
      else controller.pixel column row := by
  by_cases hplaces : 0 < usWidth.toNat ∧ 0 < usHeight.toNat
  · have hopened := @Controller.openWindow_run controller usX usY _ _ hplaces.1 hplaces.2 hx hy
    rw [Controller.receives_append]
    generalize controller.receives (openWindow usX usY usWidth usHeight) = opened at hopened
    have hrun : opened.receives (.cmd cmdSetPixel :: values.map .data) =
        ⟨cmdSetPixel, [], opened.raster.home.puts values⟩ :=
      @Controller.data_run ⟨cmdSetPixel, [], opened.raster.home⟩ values rfl
    have hpixel := @Raster.puts_pixel _ { controller.raster with
        window := ⟨usX.toNat, usX.toNat + usWidth.toNat - 1, usY.toNat,
          usY.toNat + usHeight.toNat - 1⟩ } values usWidth.toNat usHeight.toNat column row hplaces.1
      (show usX.toNat + usWidth.toNat - 1 + 1 = usX.toNat + usWidth.toNat by omega)
      (show usY.toNat + usHeight.toNat - 1 + 1 = usY.toNat + usHeight.toNat by omega) hlength
    rw [hrun, Controller.pixel, hopened]
    refine hpixel.trans ?_
    dsimp only
    by_cases hbelow : row < usY.toNat + usHeight.toNat
    · exact if_congr (by simp only [Covers, hbelow, and_true, and_assoc]) rfl rfl
    · -- the values end with the last row
      have hrows : usHeight.toNat * usWidth.toNat ≤ (row - usY.toNat) * usWidth.toNat :=
        Nat.mul_le_mul_right _ (by omega)
      rw [Nat.mul_comm] at hlength
      have hnot : ¬Covers usX usY usWidth usHeight column row := fun hcovers => hbelow hcovers.2.2
      rw [if_neg hnot, List.getD_eq_default _ _ (by omega)]
      exact ite_self _
  · have hvalues : values = [] := by
      have hzero : usWidth.toNat = 0 ∨ usHeight.toNat = 0 := by omega
      rw [Nat.mul_eq_zero.mpr hzero, Nat.le_zero] at hlength
      exact List.eq_nil_of_length_eq_zero hlength
    rw [if_neg fun hcovers => hplaces (by unfold Covers at hcovers; omega), hvalues]
    rfl

end

section
variable {controller : Controller} {panel : Panel} {usX usY usWidth usHeight usColor : UInt16}
  {column row : ℕ}

/-- A filled window has one colour, and nothing else changes. -/
theorem fillWindow_pixel (hx : usX.toNat + usWidth.toNat ≤ panel.lcdXLength.toNat)
    (hy : usY.toNat + usHeight.toNat ≤ panel.lcdYLength.toNat) :
    (controller.receives (fillWindow usColor usX usY usWidth usHeight)).pixel column row =
      if Covers usX usY usWidth usHeight column row then usColor
      else controller.pixel column row := by
  have hpanel := panel.length_le
  have harea : (usWidth.toUInt32 * usHeight.toUInt32).toNat = usWidth.toNat * usHeight.toNat := by
    have hlt : usWidth.toNat * usHeight.toNat < 2 ^ 32 :=
      (Nat.mul_lt_mul'' usWidth.toNat_lt usHeight.toNat_lt).trans_eq rfl
    rw [UInt32.toNat_mul, UInt16.toNat_toUInt32, UInt16.toNat_toUInt32, Nat.mod_eq_of_lt hlt]
  rw [fillWindow, fillWrites, harea, ← List.map_replicate,
    draw_pixel (by simp) (by omega) (by omega)]
  exact if_ctx_congr Iff.rfl (fun hcovers => List.getD_replicate _ hcovers.index_lt) fun _ => rfl

/-- The pixels of a list are on the panel, and they are all that changes. -/
theorem points_pixel {points : List Point}
    (h : ∀ point ∈ points, point.x < panel.lcdXLength ∧ point.y < panel.lcdYLength) :
    (controller.receives (points.flatMap (pointWrites usColor))).pixel column row =
      if ∃ point ∈ points, point.x.toNat = column ∧ point.y.toNat = row then usColor
      else controller.pixel column row := by
  induction points generalizing controller with
  | nil => simp [Controller.receives]
  | cons point points ih =>
    rw [List.forall_mem_cons] at h
    obtain ⟨⟨hx, hy⟩, hrest⟩ := h
    rw [UInt16.lt_iff_toNat_lt] at hx hy
    have hpoint : (controller.receives (pointWrites usColor point)).pixel column row =
        if Covers point.x point.y 1 1 column row then usColor else controller.pixel column row :=
      @fillWindow_pixel controller panel _ _ 1 1 _ _ _ (by rw [UInt16.toNat_one]; omega)
        (by rw [UInt16.toNat_one]; omega)
    have hone : Covers point.x point.y 1 1 column row ↔
        point.x.toNat = column ∧ point.y.toNat = row := by
      rw [Covers, UInt16.toNat_one]
      omega
    rw [List.flatMap_cons, Controller.receives_append, ih hrest, hpoint]
    by_cases hlater : ∃ point ∈ points, point.x.toNat = column ∧ point.y.toNat = row
    · rw [if_pos hlater, if_pos (List.exists_mem_cons_of_exists hlater)]
    · rw [if_neg hlater]
      refine if_congr ?_ rfl rfl
      rw [hone, List.exists_mem_cons_iff, or_iff_left hlater]

end

/-! ### Rectangles -/

def rectangleWrites (usColor : UInt16) : Rectangle → List Write
  | .outline pixels => pixels.flatMap (pointWrites usColor)
  | .filled usX usY usWidth usHeight _ => fillWindow usColor usX usY usWidth usHeight

/-- The border of a window. -/
def Frames (usX usY usWidth usHeight : UInt16) (column row : ℕ) : Prop :=
  column = usX.toNat ∨ column + 1 = usX.toNat + usWidth.toNat ∨
    row = usY.toNat ∨ row + 1 = usY.toNat + usHeight.toNat

instance (usX usY usWidth usHeight : UInt16) (column row : ℕ) :
    Decidable (Frames usX usY usWidth usHeight column row) :=
  inferInstanceAs (Decidable (_ ∨ _ ∨ _ ∨ _))

section
variable {panel : Panel} {usXStart usYStart usWidth usHeight : UInt16}

theorem exists_onBorder_iff {column row : ℕ} (hwidth : usWidth ≠ 0) (hheight : usHeight ≠ 0)
    (hx : usXStart.toNat + usWidth.toNat ≤ panel.lcdXLength.toNat)
    (hy : usYStart.toNat + usHeight.toNat ≤ panel.lcdYLength.toNat) :
    (∃ point, OnBorder usXStart usYStart (usXStart + usWidth - 1) (usYStart + usHeight - 1) point ∧
      point.x.toNat = column ∧ point.y.toNat = row) ↔
      Covers usXStart usYStart usWidth usHeight column row ∧
        Frames usXStart usYStart usWidth usHeight column row := by
  have hpanel := panel.length_le
  obtain ⟨hxPos, hxLast⟩ := last_toNat hwidth hx
  obtain ⟨hyPos, hyLast⟩ := last_toNat hheight hy
  simp only [OnBorder, Covers, Frames, UInt16.le_iff_toNat_le, ← UInt16.toNat_inj, ← hxLast,
    ← hyLast]
  constructor
  · rintro ⟨point, hborder, rfl, rfl⟩
    omega
  · intro hplace
    have hcolumn : (UInt16.ofNat column).toNat = column :=
      UInt16.toNat_ofNat_of_lt' (show column < 65536 by omega)
    have hrow : (UInt16.ofNat row).toNat = row :=
      UInt16.toNat_ofNat_of_lt' (show row < 65536 by omega)
    refine ⟨⟨UInt16.ofNat column, UInt16.ofNat row⟩, ?_, hcolumn, hrow⟩
    simp only [hcolumn, hrow]
    omega

/-- On the screen a rectangle inside the panel is its window, or the border of it. -/
theorem rectangle_on_screen (controller : Controller) (usColor : UInt16) {ucFilled : UInt8}
    (hwidth : usWidth ≠ 0) (hheight : usHeight ≠ 0)
    (hx : usXStart.toNat + usWidth.toNat ≤ panel.lcdXLength.toNat)
    (hy : usYStart.toNat + usHeight.toNat ≤ panel.lcdYLength.toNat) :
    ∃ fuel rectangle,
      drawRectangle panel usXStart usYStart usWidth usHeight ucFilled fuel = some rectangle ∧
        ∀ column row, (controller.receives (rectangleWrites usColor rectangle)).pixel column row =
          if Covers usXStart usYStart usWidth usHeight column row ∧
              (ucFilled ≠ 0 ∨ Frames usXStart usYStart usWidth usHeight column row) then usColor
          else controller.pixel column row := by
  by_cases hfilled : ucFilled = 0
  · obtain ⟨fuel, pixels, hdrawn, hpixels⟩ := drawRectangle_drawn hwidth hheight hx hy
    obtain ⟨hxPos, hxLast⟩ := last_toNat hwidth hx
    obtain ⟨hyPos, hyLast⟩ := last_toNat hheight hy
    refine ⟨fuel, .outline pixels, hfilled ▸ hdrawn, fun column row => ?_⟩
    have hinside : ∀ point ∈ pixels, point.x < panel.lcdXLength ∧ point.y < panel.lcdYLength := by
      intro point hpoint
      have hborder := ((hpixels point).mp hpoint).1
      simp only [UInt16.le_iff_toNat_le, ← hxLast, ← hyLast] at hborder
      rw [UInt16.lt_iff_toNat_lt, UInt16.lt_iff_toNat_lt]
      omega
    rw [rectangleWrites, points_pixel hinside]
    refine if_congr ?_ rfl rfl
    simp only [hpixels, exists_onBorder_iff hwidth hheight hx hy, hfilled, ne_eq, not_true,
      false_or]
  · obtain ⟨fuel, hdrawn⟩ := drawRectangle_filled panel usXStart usYStart usWidth usHeight hfilled
    refine ⟨fuel, _, hdrawn, fun column row => ?_⟩
    rw [rectangleWrites, fillWindow_pixel hx hy]
    exact if_congr (by simp [hfilled]) rfl rfl

end

/-- A screen of zeros. -/
def blankScreen : Controller := ⟨0, [], ⟨⟨0, 0, 0, 0⟩, 0, 0, fun _ _ => 0⟩⟩

theorem rectangle_on_blankScreen :
    ∃ fuel rectangle, drawRectangle .init 1 2 3 2 0 fuel = some rectangle ∧
      ∀ column row, (blankScreen.receives (rectangleWrites 0xFFFF rectangle)).pixel column row =
        if Covers 1 2 3 2 column row ∧ ((0 : UInt8) ≠ 0 ∨ Frames 1 2 3 2 column row) then 0xFFFF
        else blankScreen.pixel column row :=
  @rectangle_on_screen .init 1 2 3 2 blankScreen 0xFFFF 0 (by decide) (by decide) (by decide)
    (by decide)

end WeatherStation.Ili9341
