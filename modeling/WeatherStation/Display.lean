/-! The writes to the LCD and the LED.  LINE(n) is kept as the number n; it
stands for n times the height of the current font. -/
namespace WeatherStation.Display

inductive Color where
  | black | blue4 | cyan | green | red | yellow | magenta | white | grey1 | grey3
  deriving DecidableEq, Repr

inductive Font where
  | font8x16 | font16x24 | font24x32
  deriving DecidableEq, Repr

inductive LcdOp where
  | setFont (font : Font)
  | setTextColor (color : Color)
  | setBackColor (color : Color)
  /-- `ILI9341_Clear` of the whole panel. -/
  | clearAll
  | clear (x line width height : Nat)
  | dispString (x line : Nat) (text : String)
  | dispStringLine (line : Nat) (text : String)
  deriving DecidableEq, Repr

inductive LedColor where
  | off | red | green | blue
  deriving DecidableEq, Repr

end WeatherStation.Display
