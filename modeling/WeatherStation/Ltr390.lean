import WeatherStation.I2c
import Mathlib.Data.Rat.Floor

/-! i2c_LTR390.c, the driver of the light sensor.  Doubles are exact
rationals. -/
namespace WeatherStation.Ltr390
open Gpio I2c

def ltr390Addr : UInt8 := 0x53
def registerMainCtrl : UInt8 := 0x00
def registerMeasRate : UInt8 := 0x04
def registerGain : UInt8 := 0x05
def registerMainStatus : UInt8 := 0x07
def registerAlsData : UInt8 := 0x0D
def registerUvsData : UInt8 := 0x10
def registerIntCfg : UInt8 := 0x19
def resolution16BitTime25Ms : UInt8 := 0x40
def rate25Ms : UInt8 := 0x00
def gain3 : UInt8 := 0x01

structure Data where
  lux : ℚ
  uvi : UInt8
  deriving DecidableEq

/-- `struct ltr390_device_struct`; nothing reads or writes its `config`. -/
structure Device where
  bus : RtDevice
  i2cAddr : UInt8
  deriving DecidableEq

/-- Least significant byte first. -/
def uint24OfBytes (buffer : List UInt8) : UInt32 :=
  (buffer.getD 2 0).toUInt32 <<< 16 ||| (buffer.getD 1 0).toUInt32 <<< 8 |||
    (buffer.getD 0 0).toUInt32

def luxOfAls (alsData : UInt32) : ℚ := (6 / 10 * alsData.toNat) / (3 * (25 / 100))

def sensitivity : ℚ := 1400 / 18 * 3 / 2 ^ (20 - 16)

/-- The quotient is truncated by the assignment to an 8-bit field. -/
def uviOfUvs (uvsData : UInt32) : UInt8 := UInt8.ofNat ⌊uvsData.toNat / sensitivity⌋₊

section
variable {β : Type} (bus : Bus β)

def readRegs (dev : Device) (reg : UInt8) (buf : List UInt8) : StateM β (RtErr × List UInt8) :=
  I2c.readRegs bus dev.bus dev.i2cAddr reg buf

def writeReg (dev : Device) (reg data : UInt8) : StateM β RtErr :=
  I2c.writeReg bus dev.bus dev.i2cAddr reg data

/-- `my_ltr390_init` after the allocation. -/
def myLtr390Init (find : Option RtDevice) (addr : UInt8) : StateM β (Option Device) := do
  match find with
  | none => return none
  | some found =>
    if found.type = .i2cBus then
      let ltr390 : Device := ⟨found, addr⟩
      if (← writeReg bus ltr390 registerMeasRate (resolution16BitTime25Ms ||| rate25Ms)) ≠ rtEok
      then return none
      if (← writeReg bus ltr390 registerGain gain3) ≠ rtEok then return none
      return some ltr390
    else return none

/-- `write_reg(..) && write_reg(..) != RT_EOK`: the second write is issued only
when the first one failed, and the condition holds when both failed. -/
def configureFails (dev : Device) (mode intCfg : UInt8) : StateM β Bool := do
  if (← writeReg bus dev registerMainCtrl mode) ≠ 0 then
    return (← writeReg bus dev registerIntCfg intCfg) ≠ rtEok
  else return false

/-- One of the two measurements: an error, no new data, or three data bytes. -/
def measure (dev : Device) (mode intCfg dataReg : UInt8) :
    StateM β (Except Unit (Option (List UInt8))) := do
  if (← configureFails bus dev mode intCfg) then return .error ()
  let (res, status) ← readRegs bus dev registerMainStatus [0x00]
  if res ≠ rtEok then return .error ()
  if status.getD 0 0 &&& 0x08 = 0x08 then
    let (res, buffer) ← readRegs bus dev dataReg [0, 0, 0]
    if res ≠ rtEok then return .error ()
    return .ok (some buffer)
  else return .ok none

/-- The ambient light is stored before the UV measurement begins. -/
def myLtr390GetData (ltr390 : Option Device) (data : Data) : StateM β (RtErr × Data) := do
  match ltr390 with
  | none => return (-rtError, data)
  | some dev =>
    match ← measure bus dev 0x02 0x14 registerAlsData with
    | .error () => return (-rtError, data)
    | .ok als =>
      let data := match als with
        | some buffer => { data with lux := luxOfAls (uint24OfBytes buffer) }
        | none => data
      match ← measure bus dev 0x0A 0x34 registerUvsData with
      | .error () => return (-rtError, data)
      | .ok uvs =>
        return (rtEok, match uvs with
          | some buffer => { data with uvi := uviOfUvs (uint24OfBytes buffer) }
          | none => data)

end
end WeatherStation.Ltr390
