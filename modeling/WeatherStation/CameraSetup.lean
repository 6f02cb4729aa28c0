import Mathlib.Data.Nat.Notation
import WeatherStation.Gpio

/-! The configuration of the camera sensor: bsp_ov7725_sccb.c and the functions of
bsp_ov7725.c that write the registers of the sensor. -/
namespace WeatherStation.CameraSetup
open Gpio

/-! ### The SCCB bus -/

inductive Request where
  | write (address value : UInt8)
  | read (address : UInt8)
  deriving DecidableEq, Repr

/-- What the lines show during a request: whether the bus is free at the start, and the
acknowledge bits of the bytes.  A read starts a second time and receives a value. -/
structure Answers where
  start : Bool
  device : Bool
  address : Bool
  data : Bool
  restart : Bool
  deviceRead : Bool
  value : UInt8
  deriving DecidableEq, Repr

/-- What answers on the bus. -/
structure Sccb (σ : Type) where
  transfer : Request → StateM σ Answers

section
variable {σ : Type} (sccb : Sccb σ)

/-- The acknowledge bits of the address and of the data are waited for, not looked at. -/
def sccbWriteByte (writeAddress sendByte : UInt8) : StateM σ Bool := do
  let answers ← sccb.transfer (.write writeAddress sendByte)
  if ¬answers.start then return false
  else if ¬answers.device then return false
  else return true

/-- `SCCB_ReadByte` of one byte, with what is in the buffer afterwards. -/
def sccbReadByte (pBuffer readAddress : UInt8) : StateM σ (Bool × UInt8) := do
  let answers ← sccb.transfer (.read readAddress)
  if ¬answers.start then return (false, pBuffer)
  else if ¬answers.device then return (false, pBuffer)
  else if ¬answers.restart then return (false, pBuffer)
  else if ¬answers.deviceRead then return (false, pBuffer)
  else return (true, answers.value)

end

/-! ### Registers -/

def regCom7 : UInt8 := 0x12
def regHstart : UInt8 := 0x17
def regHsize : UInt8 := 0x18
def regVstrt : UInt8 := 0x19
def regVsize : UInt8 := 0x1A
def regHOutSize : UInt8 := 0x29
def regExhch : UInt8 := 0x2A
def regVOutSize : UInt8 := 0x2C
def regHref : UInt8 := 0x32
def regBright : UInt8 := 0x9B
def regCnst : UInt8 := 0x9C
def regUsat : UInt8 := 0xA7
def regVsat : UInt8 := 0xA8
def regSign : UInt8 := 0xAB
def ov7725Id : UInt8 := 0x21

/-- Addresses and values. -/
def sensorConfig : List (UInt8 × UInt8) :=
  -- CLKRC, then the format and the window
  [(0x11, 0x00), (regCom7, 0x46), (regHstart, 0x3f), (regHsize, 0x50), (regVstrt, 0x03),
    (regVsize, 0x78), (regHref, 0x00), (regHOutSize, 0x50), (regVOutSize, 0x78), (regExhch, 0x00),
    -- TGT_B, FixGain, AWB_Ctrl0, DSP_Ctrl1 to DSP_Ctrl4
    (0x42, 0x7f), (0x4d, 0x09), (0x63, 0xe0), (0x64, 0xff), (0x65, 0x20), (0x66, 0x00), (0x67, 0x00),
    -- COM8, COM4, COM6, COM9, BDBase, BDMStep, AEW, AEB, VPT, EXHCL, AWBCtrl3, COM8, AWBCtrl1
    (0x13, 0xf0), (0x0d, 0x81), (0x0f, 0xc5), (0x14, 0x21), (0x22, 0xff), (0x23, 0x01), (0x24, 0x34),
    (0x25, 0x3c), (0x26, 0xa1), (0x2b, 0x00), (0x6b, 0xaa), (0x13, 0xff), (0x69, 0x5d),
    -- EDGE1, DNSOff, EDGE2, EDGE3, MTX1 to MTX6, MTX_Ctrl
    (0x90, 0x0a), (0x91, 0x01), (0x92, 0x01), (0x93, 0x01), (0x94, 0x5f), (0x95, 0x53), (0x96, 0x11),
    (0x97, 0x1a), (0x98, 0x3d), (0x99, 0x5a), (0x9a, 0x1e),
    -- contrast and saturation with UVADJ0 and SDE
    (regBright, 0x00), (regCnst, 0x25), (regUsat, 0x65), (regVsat, 0x65), (0x9e, 0x81), (0xa6, 0x06),
    -- GAM1 to GAM15, SLOP
    (0x7e, 0x0c), (0x7f, 0x16), (0x80, 0x2a), (0x81, 0x4e), (0x82, 0x61), (0x83, 0x6f), (0x84, 0x7b),
    (0x85, 0x86), (0x86, 0x8e), (0x87, 0x97), (0x88, 0xa4), (0x89, 0xaf), (0x8a, 0xc5), (0x8b, 0xd7),
    (0x8c, 0xe8), (0x8d, 0x20),
    -- HUECOS, HUESIN, DSPAuto, DM_LNL, BDBase, BDMStep
    (0xa9, 0x80), (0xaa, 0x80), (0xac, 0xff), (0x33, 0x00), (0x22, 0x99), (0x23, 0x03),
    -- LC_RADI, LC_COEF, LC_XC, LC_COEFB, LC_COEFR, LC_CTR, COM3, COM5
    (0x4a, 0x00), (0x49, 0x13), (0x47, 0x08), (0x4b, 0x14), (0x4c, 0x17), (0x46, 0x05), (0x0c, 0xd0),
    (0x0e, 0xf5)]

inductive ErrorStatus where
  | error | success
  deriving DecidableEq, Repr

/-- `cam_mode` without the place of the image on the panel. -/
structure CamMode where
  qvgaVga : UInt8
  camSx : UInt16
  camSy : UInt16
  camWidth : UInt16
  camHeight : UInt16
  lightMode : UInt8
  saturation : Int8
  brightness : Int8
  contrast : Int8
  effect : UInt8
  deriving DecidableEq, Repr

def camMode : CamMode := ⟨0, 0, 0, 320, 240, 0, 0, 0, 0, 0⟩

/-- What is in the local variables before they are assigned. -/
structure Locals where
  regRaw : UInt8
  brightValue : UInt8
  signValue : UInt8
  deriving DecidableEq, Repr

section
variable {σ : Type} (sccb : Sccb σ)

/-- The loop over `Sensor_Config`. -/
def writeConfig : List (UInt8 × UInt8) → StateM σ ErrorStatus
  | [] => return .success
  | (address, value) :: config => do
    if ¬(← sccbWriteByte sccb address value) then return .error
    else writeConfig config

def ov7725Init : StateM σ ErrorStatus := do
  if ¬(← sccbWriteByte sccb 0x12 0x80) then return .error
  else
    let (read, sensorIDCode) ← sccbReadByte sccb 0 0x0b
    if ¬read then return .error
    else if sensorIDCode = ov7725Id then writeConfig sccb sensorConfig
    else return .error

/-- Writes whose results are dropped. -/
def writeAll : List (UInt8 × UInt8) → StateM σ Unit
  | [] => return
  | (address, value) :: settings => do
    let _ ← sccbWriteByte sccb address value
    writeAll settings

def lightModeSettings (mode : UInt8) : List (UInt8 × UInt8) :=
  match mode with
  | 0 => [(0x13, 0xff), (0x0e, 0x65), (0x2d, 0x00), (0x2e, 0x00)]
  | 1 => [(0x13, 0xfd), (0x01, 0x5a), (0x02, 0x5c), (0x0e, 0x65), (0x2d, 0x00), (0x2e, 0x00)]
  | 2 => [(0x13, 0xfd), (0x01, 0x58), (0x02, 0x60), (0x0e, 0x65), (0x2d, 0x00), (0x2e, 0x00)]
  | 3 => [(0x13, 0xfd), (0x01, 0x84), (0x02, 0x4c), (0x0e, 0x65), (0x2d, 0x00), (0x2e, 0x00)]
  | 4 => [(0x13, 0xfd), (0x01, 0x96), (0x02, 0x40), (0x0e, 0x65), (0x2d, 0x00), (0x2e, 0x00)]
  | 5 => [(0x13, 0xff), (0x0e, 0xe5)]
  | _ => []

def ov7725LightMode (mode : UInt8) : StateM σ Unit := writeAll sccb (lightModeSettings mode)

def colorSaturationSettings (sat : Int8) : List (UInt8 × UInt8) :=
  if sat ≥ -4 ∧ sat ≤ 4 then
    [(regUsat, .ofInt ((sat.toInt + 4) <<< (4 : ℕ))),
      (regVsat, .ofInt ((sat.toInt + 4) <<< (4 : ℕ)))]
  else []

def ov7725ColorSaturation (sat : Int8) : StateM σ Unit := writeAll sccb (colorSaturationSettings sat)

/-- Without a case for the parameter the variables are written as they are. -/
def brightnessSettings (locals : Locals) (bri : Int8) : List (UInt8 × UInt8) :=
  let (brightValue, signValue) : UInt8 × UInt8 :=
    if bri = 4 then (0x48, 0x06)
    else if bri = 3 then (0x38, 0x06)
    else if bri = 2 then (0x28, 0x06)
    else if bri = 1 then (0x18, 0x06)
    else if bri = 0 then (0x08, 0x06)
    else if bri = -1 then (0x08, 0x0e)
    else if bri = -2 then (0x18, 0x0e)
    else if bri = -3 then (0x28, 0x0e)
    else if bri = -4 then (0x38, 0x0e)
    else (locals.brightValue, locals.signValue)
  [(regBright, brightValue), (regSign, signValue)]

def ov7725Brightness (locals : Locals) (bri : Int8) : StateM σ Unit :=
  writeAll sccb (brightnessSettings locals bri)

def contrastSettings (cnst : Int8) : List (UInt8 × UInt8) :=
  if cnst ≥ -4 ∧ cnst ≤ 4 then [(regCnst, .ofInt (0x30 - (4 - cnst.toInt) * 4))] else []

def ov7725Contrast (cnst : Int8) : StateM σ Unit := writeAll sccb (contrastSettings cnst)

def specialEffectSettings (eff : UInt8) : List (UInt8 × UInt8) :=
  match eff with
  | 0 => [(0xa6, 0x06), (0x60, 0x80), (0x61, 0x80)]
  | 1 => [(0xa6, 0x26), (0x60, 0x80), (0x61, 0x80)]
  | 2 => [(0xa6, 0x1e), (0x60, 0xa0), (0x61, 0x40)]
  | 3 => [(0xa6, 0x1e), (0x60, 0x40), (0x61, 0xa0)]
  | 4 => [(0xa6, 0x1e), (0x60, 0x80), (0x61, 0xc0)]
  | 5 => [(0xa6, 0x1e), (0x60, 0x60), (0x61, 0x60)]
  | 6 => [(0xa6, 0x46)]
  | _ => []

def ov7725SpecialEffect (eff : UInt8) : StateM σ Unit := writeAll sccb (specialEffectSettings eff)

/-- The parameters of `OV7725_Window_Set`. -/
structure Window where
  sx : UInt16
  sy : UInt16
  width : UInt16
  height : UInt16
  qvgaVga : UInt8
  deriving DecidableEq, Repr

/-- A failed read leaves `reg_raw` as it is. -/
def ov7725WindowSet (locals : Locals) (window : Window) : StateM σ Unit := do
  let _ ← sccbWriteByte sccb regCom7 (if window.qvgaVga = 0 then 0x46 else 0x06)
  let (_, regRaw) ← sccbReadByte sccb locals.regRaw regHstart
  let _ ← sccbWriteByte sccb regHstart (regRaw + (window.sx >>> 2).toUInt8)
  let _ ← sccbWriteByte sccb regHsize (window.width >>> 2).toUInt8
  let (_, regRaw) ← sccbReadByte sccb regRaw regVstrt
  let _ ← sccbWriteByte sccb regVstrt (regRaw + (window.sy >>> 1).toUInt8)
  let _ ← sccbWriteByte sccb regVsize (window.height >>> 1).toUInt8
  let (_, regRaw) ← sccbReadByte sccb regRaw regHref
  let _ ← sccbWriteByte sccb regHref (regRaw ||| (window.width &&& 0x03).toUInt8 |||
    ((window.height &&& 0x01) <<< 2).toUInt8 ||| ((window.sx &&& 0x03) <<< 4).toUInt8 |||
    ((window.sy &&& 0x01) <<< 6).toUInt8)
  let _ ← sccbWriteByte sccb regHOutSize (window.width >>> 2).toUInt8
  let _ ← sccbWriteByte sccb regVOutSize (window.height >>> 1).toUInt8
  let (_, regRaw) ← sccbReadByte sccb regRaw regExhch
  let _ ← sccbWriteByte sccb regExhch (regRaw ||| (window.width &&& 0x03).toUInt8 |||
    ((window.height &&& 0x01) <<< 2).toUInt8)
  return

/-- The loop around `OV7725_Init`, with so many retries left. -/
def initRetries : ℕ → StateM σ ErrorStatus
  | 0 => ov7725Init sccb
  | left + 1 => do
    if (← ov7725Init sccb) = .success then return .success
    else initRetries left

def settings (locals : Locals) (mode : CamMode) : StateM σ Unit := do
  ov7725SpecialEffect sccb mode.effect
  ov7725LightMode sccb mode.lightMode
  ov7725ColorSaturation sccb mode.saturation
  ov7725Brightness sccb locals mode.brightness
  ov7725Contrast sccb mode.contrast
  ov7725SpecialEffect sccb mode.effect
  ov7725WindowSet sccb locals ⟨mode.camSx, mode.camSy, mode.camWidth, mode.camHeight, mode.qvgaVga⟩

/-- `my_ov7725_test_init` without the pins. -/
def myOv7725TestInit (locals : Locals) (mode : CamMode) : StateM σ RtErr := do
  if (← initRetries sccb 5) = .success then
    settings sccb locals mode
    return rtEok
  else return -rtError

end
end WeatherStation.CameraSetup
