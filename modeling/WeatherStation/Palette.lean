import WeatherStation.Display
import WeatherStation.Ili9341
import WeatherStation.TouchDetect

/-! The buttons, the brush and the trail of palette.c with the handler of
bsp_lcd_xpt2046.c that feeds them.  What is drawn is kept as calls. -/
namespace WeatherStation.Palette
open Display (LedColor)
open Ili9341 (Panel)

/-- The macro RGB for RGB565. -/
def rgb (r g b : UInt32) : UInt32 := ((r >>> 3) <<< 11) ||| ((g >>> 2) <<< 5) ||| (b >>> 3)

def clWhite : UInt32 := rgb 255 255 255
def clBlack : UInt32 := rgb 0 0 0
def clRed : UInt32 := rgb 255 0 0
def clGreen : UInt32 := rgb 0 255 0
def clBlue : UInt32 := rgb 0 0 255
def clGrey : UInt32 := rgb 98 98 98
def clButtonGrey : UInt32 := rgb 195 195 195
def clMagenta : UInt32 := rgb 255 0 255
def clCyan : UInt32 := rgb 0 255 255

def colorBlockWidth : UInt16 := 40
def colorBlockHeight : UInt16 := 28
def buttonStartX : UInt16 := 0
def paletteStartX : Int := 40 * 2 + 1
def paletteStartY : Int := 0

inductive Shape where
  | lineSinglePixcel | line2Pixcel | line4Pixcel | line6Pixcel | line8Pixcel | line16Pixcel
  | line20Pixcel | lineWithCircle | rubber
  deriving DecidableEq, Repr

structure BrushStyle where
  color : UInt32
  shape : Shape
  deriving DecidableEq, Repr

/-- The functions draw_btn and btn_command of a button, with the `para` that they read. -/
inductive ButtonKind where
  | color (para : UInt32)
  | clear (para : UInt32)
  | shape (para : Shape)
  deriving DecidableEq, Repr

structure TouchButton where
  startX : UInt16
  startY : UInt16
  endX : UInt16
  endY : UInt16
  kind : ButtonKind
  touchFlag : UInt8
  deriving DecidableEq, Repr

/-- A call to the panel or to the light.  A button is drawn with the flag that it has then. -/
inductive Call where
  | ledEmbeddedColor (color : LedColor)
  | drawBtn (btn : TouchButton)
  | setColors (textColor backColor : UInt16)
  | setPointPixel (usX usY : UInt16)
  | drawLine (usX1 usY1 usX2 usY2 : UInt16)
  | drawRectangle (usXStart usYStart usWidth usHeight : UInt16) (ucFilled : Bool)
  | drawCircle (usXCenter usYCenter usRadius : UInt16) (ucFilled : Bool)
  | drawUniLineCircle (x1 y1 x2 y2 : UInt16) (thick : UInt8)
  deriving DecidableEq, Repr

/-- The variables of the module. -/
structure State where
  button : List TouchButton
  brush : BrushStyle
  deriving DecidableEq, Repr

section
variable (panel : Panel)

def touchButtonInit : List TouchButton :=
  let secondX := buttonStartX + colorBlockWidth
  let thirdX := buttonStartX + colorBlockWidth * 2
  -- the first column, mainly the colours
  [⟨buttonStartX, 0, secondX, colorBlockHeight, .color clBlack, 0⟩,
    ⟨buttonStartX, colorBlockHeight, secondX, colorBlockHeight * 2, .color clGrey, 0⟩,
    ⟨buttonStartX, colorBlockHeight * 2, secondX, colorBlockHeight * 3, .color clBlue, 0⟩,
    ⟨buttonStartX, colorBlockHeight * 3, secondX, colorBlockHeight * 4, .color clCyan, 0⟩,
    ⟨buttonStartX, colorBlockHeight * 4, secondX, colorBlockHeight * 5, .color clRed, 0⟩,
    ⟨buttonStartX, colorBlockHeight * 5, secondX, colorBlockHeight * 6, .color clMagenta, 0⟩,
    ⟨buttonStartX, colorBlockHeight * 6, secondX, colorBlockHeight * 7, .color clGreen, 0⟩,
    ⟨buttonStartX, colorBlockHeight * 7, secondX, panel.lcdYLength, .clear clButtonGrey, 0⟩,
    -- the second column, the brushes
    ⟨secondX, 0, thirdX, colorBlockHeight, .shape .lineSinglePixcel, 0⟩,
    ⟨secondX, colorBlockHeight, thirdX, colorBlockHeight * 2, .shape .line2Pixcel, 0⟩,
    ⟨secondX, colorBlockHeight * 2, thirdX, colorBlockHeight * 3, .shape .line4Pixcel, 0⟩,
    ⟨secondX, colorBlockHeight * 3, thirdX, colorBlockHeight * 4, .shape .line6Pixcel, 0⟩,
    ⟨secondX, colorBlockHeight * 4, thirdX, colorBlockHeight * 5, .shape .line8Pixcel, 0⟩,
    ⟨secondX, colorBlockHeight * 5, thirdX, colorBlockHeight * 6, .shape .line16Pixcel, 0⟩,
    ⟨secondX, colorBlockHeight * 6, thirdX, colorBlockHeight * 7, .shape .line20Pixcel, 0⟩,
    ⟨secondX, colorBlockHeight * 7, thirdX, panel.lcdYLength, .shape .rubber, 0⟩]

/-! ### Buttons -/

/-- The test of `Touch_Button_Down`. -/
def TouchButton.Touched (btn : TouchButton) (x y : UInt16) : Prop :=
  x ≤ btn.endX ∧ y ≤ btn.endY ∧ y ≥ btn.startY ∧ x ≥ btn.startX

/-- The test of `Touch_Button_Up`. -/
def TouchButton.Released (btn : TouchButton) (x y : UInt16) : Prop :=
  x < btn.endX ∧ x > btn.startX ∧ y < btn.endY ∧ y > btn.startY

instance (btn : TouchButton) (x y : UInt16) : Decidable (btn.Touched x y) :=
  inferInstanceAs (Decidable (_ ∧ _))

instance (btn : TouchButton) (x y : UInt16) : Decidable (btn.Released x y) :=
  inferInstanceAs (Decidable (_ ∧ _))

/-- The loop body of `Touch_Button_Down`. -/
def TouchButton.down (x y : UInt16) (btn : TouchButton) : TouchButton × List Call :=
  if btn.Touched x y then
    if btn.touchFlag = 0 then
      ({ btn with touchFlag := 1 }, [.drawBtn { btn with touchFlag := 1 }])
    else (btn, [])
  else if btn.touchFlag = 1 then
    ({ btn with touchFlag := 0 }, [.drawBtn { btn with touchFlag := 0 }])
  else (btn, [])

def touchButtonDown (x y : UInt16) (state : State) : State × List Call :=
  let steps := state.button.map (TouchButton.down x y)
  ({ state with button := steps.map (·.1) }, steps.flatMap (·.2))

def commandSelectColor (para : UInt32) (brush : BrushStyle) : BrushStyle × List Call :=
  ({ color := para, shape := if brush.shape = .rubber then .lineSinglePixcel else brush.shape },
    [.setColors para.toUInt16 clWhite.toUInt16])

def commandSelectBrush (para : Shape) (brush : BrushStyle) : BrushStyle × List Call :=
  ({ brush with shape := para }, [.setColors brush.color.toUInt16 clWhite.toUInt16])

def commandClearPalette (brush : BrushStyle) : BrushStyle × List Call :=
  (brush, [.setColors clWhite.toUInt16 clWhite.toUInt16,
    .drawRectangle (.ofInt paletteStartX) (.ofInt paletteStartY)
      (.ofInt (panel.lcdXLength.toNat - (paletteStartX + 1)))
      (.ofInt (panel.lcdYLength.toNat - paletteStartY)) true])

def btnCommand : ButtonKind → BrushStyle → BrushStyle × List Call
  | .color para => commandSelectColor para
  | .clear _ => commandClearPalette panel
  | .shape para => commandSelectBrush para

/-- The loop of `Touch_Button_Up` up to its break: the buttons, and the one that is released. -/
def releaseButton (x y : UInt16) : List TouchButton → List TouchButton × Option TouchButton
  | [] => ([], none)
  | btn :: rest =>
    if btn.Released x y then
      ({ btn with touchFlag := 0 } :: rest, some { btn with touchFlag := 0 })
    else
      let (rest, released) := releaseButton x y rest
      (btn :: rest, released)

def touchButtonUp (x y : UInt16) (state : State) : State × List Call :=
  match releaseButton x y state.button with
  | (button, none) => ({ state with button := button }, [])
  | (button, some btn) =>
    let (brush, calls) := btnCommand panel btn.kind state.brush
    (⟨button, brush⟩, .drawBtn btn :: calls)

/-! ### The trail -/

/-- A line of the given thickness, unless it comes too close to the buttons. -/
def drawThickTrail (preX preY x y : Int16) (thick : UInt8) : List Call :=
  if x.toInt - thick.toNat < paletteStartX ∨ preX.toInt - thick.toNat < paletteStartX then []
  else [.drawUniLineCircle preX.toUInt16 preY.toUInt16 x.toUInt16 y.toUInt16 thick]

def drawTrail (preX preY x y : Int16) (brush : BrushStyle) : List Call :=
  if x.toInt > paletteStartX ∧ preX.toInt > paletteStartX then
    match brush.shape with
    | .lineSinglePixcel =>
      if preX < 0 ∨ preY < 0 then [.setPointPixel x.toUInt16 y.toUInt16]
      else [.drawLine preX.toUInt16 preY.toUInt16 x.toUInt16 y.toUInt16]
    | .line2Pixcel => drawThickTrail preX preY x y 1
    | .line4Pixcel => drawThickTrail preX preY x y 2
    | .line6Pixcel => drawThickTrail preX preY x y 3
    | .line8Pixcel => drawThickTrail preX preY x y 4
    | .line16Pixcel => drawThickTrail preX preY x y 8
    | .line20Pixcel => drawThickTrail preX preY x y 10
    | .lineWithCircle =>
      if x.toInt - 3 < paletteStartX ∨ preX.toInt - 3 < paletteStartX then []
      else if preX < 0 ∨ preY < 0 then [.setPointPixel x.toUInt16 y.toUInt16]
      else [.drawLine preX.toUInt16 preY.toUInt16 x.toUInt16 y.toUInt16,
        .drawCircle x.toUInt16 y.toUInt16 3 true]
    | .rubber =>
      if x.toInt - 20 < paletteStartX ∨ x.toInt + 20 > panel.lcdXLength.toNat ∨
          x.toInt - 20 < 0 ∨ y.toInt + 20 > panel.lcdYLength.toNat ∨ y.toInt - 20 < 0 then []
      else [.setColors clWhite.toUInt16 clWhite.toUInt16,
        .drawRectangle (.ofInt (x.toInt - 20)) (.ofInt (y.toInt - 20)) 40 40 true]
  else []

/-! ### LCD_DrawUniLineCircle -/

/-- What the function computes of the end points before its loop. -/
structure UniLine where
  xinc1 : Int16
  xinc2 : Int16
  yinc1 : Int16
  yinc2 : Int16
  den : Int16
  numadd : Int16
  numpixels : Int16
  deriving DecidableEq, Repr

/-- The variables of its loop. -/
structure UniStep where
  x : Int16
  y : Int16
  num : Int16
  curpixel : Int16
  deriving DecidableEq, Repr

/-- The macro ABS. -/
def abs (x : Int) : Int := if x > 0 then x else -x

/-- All variables are `int16_t`, so the differences may wrap around. -/
def uniLine (x1 y1 x2 y2 : UInt16) : UniLine × UniStep :=
  let deltax : Int16 := .ofInt (abs (x2.toNat - x1.toNat))
  let deltay : Int16 := .ofInt (abs (y2.toNat - y1.toNat))
  let xinc : Int16 := if x2 ≥ x1 then 1 else -1
  let yinc : Int16 := if y2 ≥ y1 then 1 else -1
  if deltax ≥ deltay then
    (⟨0, xinc, yinc, 0, deltax, deltay, deltax⟩, ⟨x1.toInt16, y1.toInt16, deltax / 2, 0⟩)
  else (⟨xinc, 0, 0, yinc, deltay, deltax, deltay⟩, ⟨x1.toInt16, y1.toInt16, deltay / 2, 0⟩)

/-- The border test of the loop, negated. -/
def inRange (thick : UInt8) (x y : Int16) : Bool :=
  ¬(x.toInt + thick.toNat > panel.lcdXLength.toNat ∨ x.toInt - thick.toNat < 0 ∨
    y.toInt + thick.toNat > panel.lcdYLength.toNat ∨ y.toInt - thick.toNat < 0)

/-- The loop body after the border test. -/
def UniLine.advance (line : UniLine) (step : UniStep) : UniStep :=
  let num := step.num + line.numadd
  if num ≥ line.den then
    { step with
      x := step.x + line.xinc1 + line.xinc2
      y := step.y + line.yinc1 + line.yinc2
      num := num - line.den }
  else { step with x := step.x + line.xinc2, y := step.y + line.yinc2, num := num }

/-- The centres of the circles that at most `fuel` iterations draw; `continue` also
counts `curpixel` on. -/
def UniLine.centres (line : UniLine) (inside : Int16 → Int16 → Bool) :
    Nat → UniStep → List (Int16 × Int16)
  | 0, _ => []
  | fuel + 1, step =>
    if step.curpixel ≤ line.numpixels then
      if inside step.x step.y then
        let next := line.advance step
        (step.x, step.y) :: line.centres inside fuel { next with curpixel := next.curpixel + 1 }
      else line.centres inside fuel { step with curpixel := step.curpixel + 1 }
    else []

def lcdDrawUniLineCircle (x1 y1 x2 y2 : UInt16) (thick : UInt8) (fuel : Nat) :
    List (Int16 × Int16) :=
  let (line, step) := uniLine x1 y1 x2 y2
  line.centres (inRange panel thick) fuel step

end
end WeatherStation.Palette

namespace WeatherStation.Xpt2046
open Palette

/-- `strType_XPT2046_Coordinate`. -/
structure Coordinate where
  x : Int16
  y : Int16
  preX : Int16
  preY : Int16
  deriving DecidableEq, Repr

def Coordinate.init : Coordinate := ⟨-1, -1, -1, -1⟩

/-- What a call of the handler reads: the pen interrupt line and, if the touched
point can be acquired, its calibrated coordinates. -/
structure Touch where
  active : Bool
  acquired : Option (Int16 × Int16)
  deriving DecidableEq, Repr

/-- The static variables of the handler and of the functions that it calls. -/
structure Handler where
  detector : Detector
  cinfo : Coordinate
  palette : State
  deriving DecidableEq, Repr

def Handler.init (panel : Ili9341.Panel) (brush : BrushStyle) : Handler :=
  ⟨.init, .init, ⟨touchButtonInit panel, brush⟩⟩

def getTouchedPoint (acquired : Option (Int16 × Int16)) (cinfo : Coordinate) : Coordinate :=
  match acquired with
  | some (x, y) => { cinfo with x := x, y := y }
  | none => cinfo

section
variable (panel : Ili9341.Panel)

def touchDown (touch : Coordinate) (palette : State) : State × List Call :=
  if touch.preX = -1 ∧ touch.preY = -1 then (palette, [])
  else
    let (palette, calls) := touchButtonDown touch.x.toUInt16 touch.y.toUInt16 palette
    (palette, calls ++ drawTrail panel touch.preX touch.preY touch.x touch.y palette.brush)

def touchUp (touch : Coordinate) (palette : State) : State × List Call :=
  if touch.preX = -1 ∧ touch.preY = -1 then (palette, [])
  else touchButtonUp panel touch.preX.toUInt16 touch.preY.toUInt16 palette

def touchEvenHandler (handler : Handler) (touch : Touch) : Handler × List Call :=
  let (result, detector) := touchDetect duriationTime handler.detector touch.active
  if result = touchPressed then
    let cinfo := getTouchedPoint touch.acquired handler.cinfo
    let (palette, calls) := touchDown panel cinfo handler.palette
    (⟨detector, { cinfo with preX := cinfo.x, preY := cinfo.y }, palette⟩,
      .ledEmbeddedColor .green :: calls)
  else
    let (palette, calls) := touchUp panel handler.cinfo handler.palette
    (⟨detector, .init, palette⟩, .ledEmbeddedColor .blue :: calls)

end
end WeatherStation.Xpt2046
