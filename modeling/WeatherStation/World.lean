import WeatherStation.Lib.BlockHeap
import WeatherStation.Ui
import WeatherStation.Hmc5883l
import WeatherStation.Bme280
import WeatherStation.Ltr390
import WeatherStation.Adc
import WeatherStation.Display

/-! The state of the firmware: the globals of main.c, the heap blocks and the
peripherals behind them, the file data.csv, and the history of what happened.
The debug output is left out. -/
namespace WeatherStation
open Lib Gpio Display

/-- The variables `x_prev_milli`, `x_curr_milli` and the period of `x`. -/
structure Timer where
  prevMilli : UInt32
  currMilli : UInt32
  delay : UInt32
  deriving DecidableEq

namespace Timer

def start (delay : UInt32) : Timer := ⟨0, 0, delay⟩

/-- The subtraction wraps around with the millisecond counter. -/
def due (timer : Timer) (tick : UInt32) : Bool := tick - timer.prevMilli ≥ timer.delay

def sample (timer : Timer) (tick : UInt32) : Timer := { timer with currMilli := tick }

def restart (timer : Timer) (tick : UInt32) : Timer := { timer.sample tick with prevMilli := tick }

@[simp] theorem sample_delay (timer : Timer) (tick : UInt32) :
    (timer.sample tick).delay = timer.delay := rfl

@[simp] theorem restart_delay (timer : Timer) (tick : UInt32) :
    (timer.restart tick).delay = timer.delay := rfl

end Timer

inductive Clock where
  | hmc5883l | bme280 | ltr390 | gp2y1014au0f | lm386 | data | dispData | mainOutput
  deriving DecidableEq, Repr

/-- The initial periods in milliseconds. -/
def Clock.initialDelay : Clock → UInt32
  | hmc5883l => 1000
  | bme280 => 1000
  | ltr390 => 1000
  | gp2y1014au0f => 1000
  | lm386 => 10
  | data => 5000
  | dispData => 1000
  | mainOutput => 10000

inductive Sensor where
  | hmc5883l | bme280 | ltr390
  deriving DecidableEq, Repr

/-- The latest readings. -/
structure Measured where
  hmc5883lRawData : Hmc5883l.Data
  hmc5883lHeading : ℚ
  bme280RawData : Bme280.Data
  ltr390RawData : Ltr390.Data
  gp2y1014au0fRawData : ℚ
  lm386RawData : ℚ

def Measured.init : Measured := ⟨⟨0, 0, 0⟩, 0, ⟨0, 0, 0⟩, ⟨0, 0⟩, 0, 0⟩

/-- Calls that results speak of, recorded when they are made. -/
inductive Call where
  /-- The entry action of a scene. -/
  | enter (scene : Scene)
  /-- `sdcard_saveCurrData`, from the scene DISP_DATA or from `my_sd_card_test`. -/
  | sdcardSaveCurrData (manual : Bool)
  | sdCardEject
  | configDelay (setting : SettingSelect) (delay : DelaySelect)
  | dispDataUpdateData
  | myOv7725Test
  deriving DecidableEq, Repr

inductive Event where
  | lcd (op : LcdOp)
  | led (color : LedColor)
  | irq (handler : Handler)
  | call (call : Call)
  /-- A `get_data` call, the block it is given, and whether that is allocated. -/
  | getData (sensor : Sensor) (block : Nat) (live : Bool)
  /-- `open` returned `fd`, and `write` accepted so many of the bytes. -/
  | append (buffer : List Char) (fd : Int) (accepted : Nat)
  | unmount (result : RtErr)
  deriving DecidableEq, Repr

structure World where
  ui : Ui
  pins : PinIrqTab Handler
  hmc5883l : Owner Hmc5883l.Device
  bme280 : Owner Bme280.Device
  ltr390 : Owner Ltr390.Device
  adc : Adc.Drivers
  measured : Measured
  timers : Clock → Timer
  isFirstSave : Bool
  dataCsv : List Char
  /-- Newest first. -/
  history : List Event

namespace World

/-- Power-on with a card that holds this data.csv, empty when it is missing. -/
def powerOn (dataCsv : List Char) : World where
  ui := Ui.init
  pins := PinIrqTab.init Handler
  hmc5883l := Owner.null
  bme280 := Owner.null
  ltr390 := Owner.null
  adc := Adc.Drivers.reset
  measured := Measured.init
  timers clock := Timer.start clock.initialDelay
  isFirstSave := true
  dataCsv
  history := []

variable (w : World)

/-- A reset of the board: RAM is gone, the card keeps its file. -/
def reboot : World := { powerOn w.dataCsv with history := w.history }

def record (event : Event) : World := { w with history := event :: w.history }

def lcd (ops : List LcdOp) : World := { w with history := (ops.map Event.lcd).reverse ++ w.history }

def led (color : LedColor) : World := w.record (.led color)

def setUi (update : Ui → Ui) : World := { w with ui := update w.ui }

def setTimer (clock : Clock) (update : Timer → Timer) : World :=
  { w with timers := Function.update w.timers clock (update (w.timers clock)) }

theorem setTimer_sample_restart (clock : Clock) (tick : UInt32) :
    (w.setTimer clock (·.sample tick)).setTimer clock (·.restart tick) =
      w.setTimer clock (·.restart tick) := by
  unfold setTimer
  simp only [Function.update_self, Function.update_idem]
  rfl

/-- A key interrupt runs the handler bound to the key, if there is one. -/
def press (key : Key) : World :=
  match w.pins.fires key.line with
  | none => w
  | some handler => { w with ui := handler.call w.ui, history := .irq handler :: w.history }

end World
end WeatherStation
