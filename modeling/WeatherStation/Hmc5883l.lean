import WeatherStation.I2c

/-! i2c_HMC5883L.c, the driver of the compass. -/
namespace WeatherStation.Hmc5883l
open Gpio I2c

def hmc5883lAddr : UInt8 := 0x1E

structure Data where
  x : Int16
  y : Int16
  z : Int16
  deriving DecidableEq

structure Config where
  sampleNum : UInt8
  dor : UInt16
  range : UInt16
  operMode : UInt8
  deriving DecidableEq

structure Device where
  bus : RtDevice
  i2cAddr : UInt8
  config : Config
  deriving DecidableEq

/-- `(rt_int16_t)((msb << 8) | lsb)`. -/
def int16OfBytes (msb lsb : UInt8) : Int16 :=
  ((msb.toUInt16 <<< 8) ||| lsb.toUInt16).toInt16

/-- `enum hmc5883l_cmd`. -/
inductive Cmd where
  | sampleNum | dor | range | operMode
  deriving DecidableEq, Repr

/-- The amount `start_bit - len + 1` by which the field is shifted, an `int`; no
result is defined unless it is below the width of the operand and not negative. -/
def fieldShift (startBit len : UInt8) : Option Nat :=
  let amount : Int := startBit.toNat - len.toNat + 1
  if 0 ≤ amount ∧ amount < 32 ∧ len.toNat < 32 then some amount.toNat else none

def bitMask (shift : Nat) (len : UInt8) : UInt8 :=
  UInt8.ofNat (((1 <<< len.toNat) - 1) <<< shift)

/-- The register, the start bit and the length of a field. -/
structure Bits where
  reg : UInt8
  startBit : UInt8
  len : UInt8
  deriving DecidableEq

/-- The switch of `my_hmc5883l_get_param`. -/
def Cmd.readBits : Cmd → Bits
  | sampleNum => ⟨0x00, 5, 2⟩
  | dor => ⟨0x00, 2, 3⟩
  | range => ⟨0x01, 5, 3⟩
  | operMode => ⟨0x02, 0, 2⟩

/-- The switch of `my_hmc5883l_set_param`. -/
def Cmd.writeBits : Cmd → Bits
  | sampleNum => ⟨0x00, 5, 2⟩
  | dor => ⟨0x00, 2, 3⟩
  | range => ⟨0x01, 5, 3⟩
  | operMode => ⟨0x02, 1, 2⟩

def Config.set (config : Config) (param : UInt8) : Cmd → Config
  | .sampleNum => { config with sampleNum := param }
  | .dor => { config with dor := param.toUInt16 }
  | .range => { config with range := param.toUInt16 }
  | .operMode => { config with operMode := param }

section
variable {β : Type} (bus : Bus β)

def readRegs (dev : Device) (reg : UInt8) (buf : List UInt8) : StateM β (RtErr × List UInt8) :=
  I2c.readRegs bus dev.bus dev.i2cAddr reg buf

def writeReg (dev : Device) (reg data : UInt8) : StateM β RtErr :=
  I2c.writeReg bus dev.bus dev.i2cAddr reg data

/-- `read_bits`; none where a shift is undefined. -/
def readBits (dev : Device) (bits : Bits) (data : UInt8) : StateM β (Option (RtErr × UInt8)) := do
  let (res, buffer) ← readRegs bus dev bits.reg [0]
  if res ≠ rtEok then return some (res, data)
  match fieldShift bits.startBit bits.len with
  | none => return none
  | some shift =>
    let byte := buffer.getD 0 0 &&& bitMask shift bits.len
    return some (rtEok, UInt8.ofNat (byte.toNat >>> shift))

/-- `write_bits`. -/
def writeBits (dev : Device) (bits : Bits) (data : UInt8) : StateM β (Option RtErr) := do
  let (res, buffer) ← readRegs bus dev bits.reg [0]
  if res ≠ rtEok then return some res
  match fieldShift bits.startBit bits.len with
  | none => return none
  | some shift =>
    let mask := bitMask shift bits.len
    let data := UInt8.ofNat (data.toNat <<< shift) &&& mask
    let byte := buffer.getD 0 0 &&& ~~~mask ||| data
    return some (← writeReg bus dev bits.reg byte)

/-- The result and the parameter, which is 0 after a failed read. -/
def myHmc5883lGetParam (dev : Device) (cmd : Cmd) : StateM β (Option (RtErr × UInt8)) :=
  readBits bus dev cmd.readBits 0

/-- The result and the device, whose cached configuration is set in any case. -/
def myHmc5883lSetParam (dev : Device) (cmd : Cmd) (param : UInt8) :
    StateM β (Option (RtErr × Device)) := do
  match ← writeBits bus dev cmd.writeBits param with
  | none => return none
  | some res => return some (res, { dev with config := dev.config.set param cmd })

/-- The identification registers spell "H43"; the result of the read itself is
not looked at. -/
def selfTest (dev : Device) : StateM β RtErr := do
  let (_, data) ← readRegs bus dev 0x0A [0, 0, 0]
  return if data.getD 0 0 = 0x48 ∧ data.getD 1 0 = 0x34 ∧ data.getD 2 0 = 0x33 then rtEok
    else -rtError

/-- `my_hmc5883l_init` after the allocation: the configured device, or none on
the exits that free the block and return RT_NULL. -/
def myHmc5883lInit (find : Option RtDevice) (addr : UInt8) : StateM β (Option Device) := do
  match find with
  | none => return none
  | some found =>
    if found.type = .i2cBus then
      let hmc5883l : Device := ⟨found, addr, ⟨0, 0, 0, 0⟩⟩
      if (← selfTest bus hmc5883l) ≠ rtEok then return none
      if (← writeReg bus hmc5883l 0x00 0x70) ≠ rtEok then return none
      if (← writeReg bus hmc5883l 0x01 0xA0) ≠ rtEok then return none
      return some hmc5883l
    else return none

def myHmc5883lGetData (hmc5883l : Option Device) (data : Data) : StateM β (RtErr × Data) := do
  match hmc5883l with
  | none => return (-rtError, data)
  | some dev =>
    -- set single measure mode
    if (← writeReg bus dev 0x02 0x01) ≠ rtEok then return (-rtError, data)
    let (res, buffer) ← readRegs bus dev 0x03 (List.replicate 6 0)
    if res ≠ rtEok then return (-rtError, data)
    return (rtEok,
      { x := int16OfBytes (buffer.getD 0 0) (buffer.getD 1 0)
        y := int16OfBytes (buffer.getD 4 0) (buffer.getD 5 0)
        z := int16OfBytes (buffer.getD 2 0) (buffer.getD 3 0) })

end
end WeatherStation.Hmc5883l
