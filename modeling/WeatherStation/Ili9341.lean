import Mathlib.Data.Int.Notation
import Mathlib.Data.Nat.Notation

/-! bsp_lcd_ili9341.c: the orientation of the panel, text, lines and rectangles.  Text
is kept as the calls of `ILI9341_DispChar_EN`, a line as the pixels that it plots. -/
namespace WeatherStation.Ili9341

def lessPixel : UInt16 := 240
def morePixel : UInt16 := 320

/-- LCD_SCAN_MODE and the lengths that go with it. -/
structure Panel where
  lcdScanMode : UInt8
  lcdXLength : UInt16
  lcdYLength : UInt16
  oriented : (lcdXLength = lessPixel ∧ lcdYLength = morePixel) ∨
    (lcdXLength = morePixel ∧ lcdYLength = lessPixel)

theorem Panel.length_le (panel : Panel) :
    panel.lcdXLength.toNat ≤ 320 ∧ panel.lcdYLength.toNat ≤ 320 := by
  rcases panel.oriented with ⟨hx, hy⟩ | ⟨hx, hy⟩ <;> rw [hx, hy] <;> decide

def Panel.init : Panel := ⟨6, lessPixel, morePixel, .inl ⟨rfl, rfl⟩⟩

/-- `ILI9341_GramScan`; the registers of the controller are left out. -/
def gramScan (ucOption : UInt8) (panel : Panel) : Panel :=
  if ucOption > 7 then panel
  else if ucOption % 2 = 0 then ⟨ucOption, lessPixel, morePixel, .inl ⟨rfl, rfl⟩⟩
  else ⟨ucOption, morePixel, lessPixel, .inr ⟨rfl, rfl⟩⟩

structure Point where
  x : UInt16
  y : UInt16
  deriving DecidableEq, Repr

/-- Pixels outside the panel are dropped. -/
def setPointPixel (panel : Panel) (usX usY : UInt16) : List Point :=
  if usX < panel.lcdXLength ∧ usY < panel.lcdYLength then [⟨usX, usY⟩] else []

/-! ### Text -/

/-- `struct sFONT` without its table. -/
structure Font where
  width : UInt16
  height : UInt16
  deriving DecidableEq, Repr

/-- A call of `ILI9341_DispChar_EN`. -/
structure Cell where
  usX : UInt16
  usY : UInt16
  cChar : UInt8
  deriving DecidableEq, Repr

/-- The size of a character and of the panel along one axis. -/
structure Axis where
  size : UInt16
  length : UInt16

/-- The sum is an `int`, so it does not wrap around. -/
def Axis.exceeded (axis : Axis) (position : UInt16) : Bool :=
  position.toNat + axis.size.toNat > axis.length.toNat

/-- The loop of the three functions: at the end of the line on to the next line,
at the end of the page back to the start, then the character. -/
def dispString (along across : Axis) : UInt16 → UInt16 → List UInt8 → List (UInt16 × UInt16 × UInt8)
  | _, _, [] => []
  | position, line, cChar :: pStr =>
    if cChar = 0 then []
    else
      let (position, line) :=
        if along.exceeded position then (0, line + across.size) else (position, line)
      let (position, line) := if across.exceeded line then (0, 0) else (position, line)
      (position, line, cChar) :: dispString along across (position + along.size) line pStr

section
variable (panel : Panel) (font : Font)

def xAxis : Axis := ⟨font.width, panel.lcdXLength⟩

def yAxis : Axis := ⟨font.height, panel.lcdYLength⟩

def dispStringEn (usX usY : UInt16) (pStr : List UInt8) : List Cell :=
  (dispString (xAxis panel font) (yAxis panel font) usX usY pStr).map
    fun (usX, usY, cChar) => ⟨usX, usY, cChar⟩

def dispStringLineEn (line : UInt16) (pStr : List UInt8) : List Cell :=
  (dispString (xAxis panel font) (yAxis panel font) 0 line pStr).map
    fun (usX, line, cChar) => ⟨usX, line, cChar⟩

def dispStringEnYDir (usX usY : UInt16) (pStr : List UInt8) : List Cell :=
  (dispString (yAxis panel font) (xAxis panel font) usY usX pStr).map
    fun (usY, usX, cChar) => ⟨usX, usY, cChar⟩

end

/-! ### Lines -/

/-- What `ILI9341_DrawLine` computes of the end points before its loop. -/
structure Segment where
  lDeltaX : ℤ
  lDeltaY : ℤ
  lIncreaseX : ℤ
  lIncreaseY : ℤ
  deriving DecidableEq, Repr

/-- The step direction and the absolute value of a coordinate difference. -/
def direction (lDelta : ℤ) : ℤ × ℤ :=
  if lDelta > 0 then (1, lDelta) else if lDelta = 0 then (0, lDelta) else (-1, -lDelta)

def Segment.of (usX1 usY1 usX2 usY2 : UInt16) : Segment :=
  let (lIncreaseX, lDeltaX) := direction (usX2.toNat - usX1.toNat)
  let (lIncreaseY, lDeltaY) := direction (usY2.toNat - usY1.toNat)
  ⟨lDeltaX, lDeltaY, lIncreaseX, lIncreaseY⟩

def Segment.lDistance (segment : Segment) : ℤ :=
  if segment.lDeltaX > segment.lDeltaY then segment.lDeltaX else segment.lDeltaY

/-- The variables of the loop.  The errors stay far below 2³¹. -/
structure Plotter where
  us : UInt16
  usXCurrent : UInt16
  usYCurrent : UInt16
  lErrorX : ℤ
  lErrorY : ℤ
  deriving DecidableEq, Repr

/-- One axis in the loop body: the error and the coordinate, to which a signed
increment is added modulo 2¹⁶. -/
def advance (lDelta lDistance lIncrease lError : ℤ) (current : UInt16) : ℤ × UInt16 :=
  let lError := lError + lDelta
  if lError > lDistance then (lError - lDistance, .ofInt (current.toNat + lIncrease))
  else (lError, current)

def Plotter.next (segment : Segment) (plotter : Plotter) : Plotter :=
  let (lErrorX, usXCurrent) := advance segment.lDeltaX segment.lDistance segment.lIncreaseX
    plotter.lErrorX plotter.usXCurrent
  let (lErrorY, usYCurrent) := advance segment.lDeltaY segment.lDistance segment.lIncreaseY
    plotter.lErrorY plotter.usYCurrent
  ⟨plotter.us + 1, usXCurrent, usYCurrent, lErrorX, lErrorY⟩

/-- The loop with fuel for so many evaluations of its condition: the pixels, or
none if it has not ended by then. -/
def drawLineLoop (panel : Panel) (segment : Segment) : ℕ → Plotter → Option (List Point)
  | 0, _ => none
  | fuel + 1, plotter =>
    if plotter.us.toNat ≤ segment.lDistance + 1 then
      (drawLineLoop panel segment fuel (plotter.next segment)).map
        (setPointPixel panel plotter.usXCurrent plotter.usYCurrent ++ ·)
    else some []

def drawLine (panel : Panel) (usX1 usY1 usX2 usY2 : UInt16) (fuel : ℕ) : Option (List Point) :=
  drawLineLoop panel (.of usX1 usY1 usX2 usY2) fuel ⟨0, usX1, usY1, 0, 0⟩

/-! ### Rectangles -/

/-- The loop of `ILI9341_FillColor`: how many pixels it writes. -/
def fillColorLoop (ulAmoutPoint : UInt32) : ℕ → UInt32 → Option ℕ
  | 0, _ => none
  | fuel + 1, i =>
    if i < ulAmoutPoint then (fillColorLoop ulAmoutPoint fuel (i + 1)).map (· + 1) else some 0

def fillColor (ulAmoutPoint : UInt32) (fuel : ℕ) : Option ℕ := fillColorLoop ulAmoutPoint fuel 0

/-- The pixels of the outline, or how many pixels are written into the window. -/
inductive Rectangle where
  | outline (pixels : List Point)
  | filled (usX usY usWidth usHeight : UInt16) (pixels : ℕ)
  deriving DecidableEq, Repr

/-- An end point is an `int` until it is passed on, and only then wraps around.  The
product of the lengths may not even fit into an `int`; it is taken modulo 2³². -/
def drawRectangle (panel : Panel) (usXStart usYStart usWidth usHeight : UInt16)
    (ucFilled : UInt8) (fuel : ℕ) : Option Rectangle :=
  if ucFilled ≠ 0 then
    (fillColor (usWidth.toUInt32 * usHeight.toUInt32) fuel).map
      (.filled usXStart usYStart usWidth usHeight)
  else do
    let top ← drawLine panel usXStart usYStart (usXStart + usWidth - 1) usYStart fuel
    let bottom ← drawLine panel usXStart (usYStart + usHeight - 1) (usXStart + usWidth - 1)
      (usYStart + usHeight - 1) fuel
    let left ← drawLine panel usXStart usYStart usXStart (usYStart + usHeight - 1) fuel
    let right ← drawLine panel (usXStart + usWidth - 1) usYStart (usXStart + usWidth - 1)
      (usYStart + usHeight - 1) fuel
    some (.outline (top ++ bottom ++ left ++ right))

end WeatherStation.Ili9341
