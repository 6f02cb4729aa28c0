import WeatherStation.Display
import WeatherStation.Gpio
import WeatherStation.Lib.Program

/-! The camera of bsp_ov7725.c: a FIFO between the sensor, which writes pixels at its
own pace, and the main loop, which reads them out.  The two sides meet in
`Ov7725_vsync`. -/
namespace WeatherStation.Ov7725
open Lib Gpio Display

/-- What the sensor sends. -/
inductive Signal where
  | vsync
  | pixel (rgb565 : UInt16)
  deriving DecidableEq

/-- The FIFO with its control lines, where `true` is high, and the variables around it.
The last two fields are not in the source: what the sensor has sent, newest first, and
whether `ImagDisp` is running. -/
structure Camera where
  vsync : UInt8
  irqEnabled : Bool
  oe : Bool
  we : Bool
  wrst : Bool
  rrst : Bool
  rclk : Bool
  memory : Nat → UInt16
  writePointer : Nat
  /-- Edges of the read clock since the read pointer was reset. -/
  readClock : Nat
  /-- The pixels written to the window of the panel. -/
  window : List UInt16
  led : LedColor
  sent : List Signal
  reading : Bool

namespace Camera

/-- The pixels from the reset write position on. -/
def contents (s : Camera) : List UInt16 := (List.range s.writePointer).map s.memory

def fifoOeL (s : Camera) : Camera := { s with oe := false }

def fifoWrstL (s : Camera) : Camera := { s with wrst := false, writePointer := 0 }

def fifoWrstH (s : Camera) : Camera := { s with wrst := true }

def fifoWeL (s : Camera) : Camera := { s with we := false }

def fifoWeH (s : Camera) : Camera := { s with we := true }

def fifoRrstL (s : Camera) : Camera := { s with rrst := false }

def fifoRrstH (s : Camera) : Camera := { s with rrst := true }

def fifoRclkL (s : Camera) : Camera := { s with rclk := false }

def fifoRclkH (s : Camera) : Camera :=
  { s with
    rclk := true
    readClock := if s.rclk then s.readClock else if s.rrst then s.readClock + 1 else 0 }

/-- The FIFO takes a pixel only while it is enabled. -/
def store (rgb565 : UInt16) (s : Camera) : Camera :=
  if s.we then
    { s with
      memory := Function.update s.memory s.writePointer rgb565
      writePointer := s.writePointer + 1 }
  else s

def myOv7725Interrupt (s : Camera) : Camera :=
  if s.vsync = 0 then
    fifoWrstH (fifoWeH { fifoWeH (fifoWrstL s) with vsync := 1 })
  else if s.vsync = 1 then { fifoWeL s with vsync := 2 }
  else s

/-- What can happen between two statements.  While WRST is low nothing is assumed of
the memory. -/
inductive Interferes : Camera → Camera → Prop
  | vsync {s : Camera} : s.irqEnabled = true →
    Interferes s { s.myOv7725Interrupt with sent := .vsync :: s.sent }
  | pixel (rgb565 : UInt16) {s : Camera} :
    Interferes s { s.store rgb565 with sent := .pixel rgb565 :: s.sent }
  | reset {s : Camera} (memory : Nat → UInt16) (writePointer : Nat) :
    s.we = true → s.wrst = false → Interferes s { s with memory, writePointer }

end Camera

open Camera

abbrev Prog := Program Unit Camera

inductive ErrorStatus where
  | error | success
  deriving DecidableEq

/-- The geometry in `cam_mode`. -/
structure CamMode where
  camWidth : UInt16
  camHeight : UInt16

/-- Messages to the sensor, on lines of their own. -/
def sccb : Prog Unit := Program.assign id

def fifoGpioConfig : Prog Unit := do
  Program.assign fifoOeL
  Program.assign fifoWeH

def vsyncGpioConfig : Prog Unit := Program.assign fun s => { s with irqEnabled := true }

def ov7725GpioConfig : Prog Unit := do
  sccb
  fifoGpioConfig
  vsyncGpioConfig

def ov7725Init (status : ErrorStatus) : Prog ErrorStatus := do
  sccb
  return status

/-- The loop around `OV7725_Init`, with so many retries left. -/
def initRetries (status : Nat → ErrorStatus) : Nat → Prog RtErr
  | 0 => do
    if (← ov7725Init (status 0)) = .success then return rtEok
    else return -rtError
  | left + 1 => do
    if (← ov7725Init (status (left + 1))) = .success then return rtEok
    else initRetries status left

def myOv7725TestInit (status : Nat → ErrorStatus) : Prog RtErr := do
  ov7725GpioConfig
  let err ← initRetries status 5
  if err = rtEok then
    -- effect, light, saturation, brightness, contrast, effect again, window
    Program.repeatTimes 7 sccb
    Program.assign fun s => { s with vsync := 0 }
    return rtEok
  else return err

section
-- what the data pins of the FIFO show after so many edges of the read clock
variable (idr : (Nat → UInt16) → Nat → UInt16)

def fifoPrepare : Prog Unit := do
  Program.assign fifoRrstL
  Program.assign fifoRclkL
  Program.assign fifoRclkH
  Program.assign fifoRrstH
  Program.assign fifoRclkL
  Program.assign fifoRclkH

def readFifoPixel : Prog UInt16 := do
  Program.assign fifoRclkL
  let high ← Program.read fun s => idr s.memory s.readClock &&& 0xff00
  Program.assign fifoRclkH
  Program.assign fifoRclkL
  let low ← Program.read fun s => (idr s.memory s.readClock >>> (8 : UInt16)) &&& 0x00ff
  Program.assign fifoRclkH
  return high ||| low

def showPixel : Prog Unit := do
  let cameraData ← readFifoPixel idr
  Program.assign fun s => { s with window := s.window ++ [cameraData] }

def imagDisp (width height : UInt16) : Prog Unit := do
  Program.assign fun s => { s with window := [], reading := true }
  Program.repeatTimes width.toNat (Program.repeatTimes height.toNat (showPixel idr))
  Program.assign fun s => { s with reading := false }

def myOv7725Test (mode : CamMode) : Prog Unit := do
  if (← Program.read fun s => s.vsync) = 2 then
    Program.assign fun s => { s with led := .blue }
    fifoPrepare
    imagDisp idr mode.camWidth mode.camHeight
    Program.assign fun s => { s with vsync := 0 }
    Program.assign fun s => { s with led := .green }

/-- One round of the boot: what `OV7725_Init` returns when so many retries are left,
and whether the other devices come up. -/
structure CameraRound where
  status : Nat → ErrorStatus
  others : Bool

/-- The boot rounds and then the main loop, as far as they concern the camera. -/
def cameraMain (mode : CamMode) (calls : Nat) : List CameraRound → Prog Unit
  | [] => return
  | round :: rounds => do
    if (← myOv7725TestInit round.status) = rtEok ∧ round.others = true then
      Program.repeatTimes calls (myOv7725Test idr mode)
    else cameraMain mode calls rounds

end

end WeatherStation.Ov7725
