import WeatherStation.Lib.BitField
import WeatherStation.BusLog
import WeatherStation.Hmc5883l

/-! The parameters of the compass as fields of its three configuration registers:
what was set reads back, except that the mode is read with an impossible shift. -/
namespace WeatherStation.Hmc5883l
open Gpio I2c Lib

/-- A sensor at which every transfer goes through: the bytes behind the first one
of a write go into its registers. -/
def registerBus : Bus (UInt8 → UInt8) where
  rtI2cTransfer msgs registers :=
    match msgs with
    | [⟨_, _, [reg, data]⟩] => (⟨1, []⟩, Function.update registers reg data)
    | [⟨_, _, [reg]⟩, ⟨_, _, buf⟩] =>
      (⟨2, (List.range buf.length).map fun i => registers (reg + UInt8.ofNat i)⟩, registers)
    | _ => (⟨0, []⟩, registers)

section
variable {dev : Device} {registers : UInt8 → UInt8} {reg data : UInt8} {bits : Bits} {shift : Nat}

theorem readRegs_registers (hdev : dev.bus.type = .i2cBus) :
    readRegs registerBus dev reg [0] registers = ((rtEok, [registers reg]), registers) := by
  have htransfer : registerBus.rtI2cTransfer (readMsgs dev.i2cAddr reg [0]) registers =
      (⟨2, [registers (reg + 0)]⟩, registers) := rfl
  rw [readRegs, readRegs_run hdev htransfer, UInt8.add_zero]
  rfl

theorem writeReg_registers (hdev : dev.bus.type = .i2cBus) :
    writeReg registerBus dev reg data registers =
      (rtEok, Function.update registers reg data) := writeReg_run hdev rfl

theorem readBits_registers (hdev : dev.bus.type = .i2cBus)
    (hshift : fieldShift bits.startBit bits.len = some shift) :
    readBits registerBus dev bits data registers =
      (some (rtEok, UInt8.ofNat
        ((registers bits.reg &&& bitMask shift bits.len).toNat >>> shift)), registers) := by
  unfold readBits
  rw [bind_run (readRegs_registers hdev), hshift]
  rfl

theorem readBits_undefined (hdev : dev.bus.type = .i2cBus)
    (hshift : fieldShift bits.startBit bits.len = none) :
    readBits registerBus dev bits data registers = (none, registers) := by
  unfold readBits
  rw [bind_run (readRegs_registers hdev), hshift]
  rfl

theorem writeBits_registers (hdev : dev.bus.type = .i2cBus)
    (hshift : fieldShift bits.startBit bits.len = some shift) :
    writeBits registerBus dev bits data registers =
      (some rtEok, Function.update registers bits.reg
        (registers bits.reg &&& ~~~bitMask shift bits.len |||
          UInt8.ofNat (data.toNat <<< shift) &&& bitMask shift bits.len)) := by
  unfold writeBits
  rw [bind_run (readRegs_registers hdev), hshift]
  dsimp only
  rw [if_neg (by decide), bind_run (writeReg_registers hdev)]
  rfl

end

theorem toBitVec_bitMask (shift : Nat) (len : UInt8) :
    (bitMask shift len).toBitVec = fieldMask 8 shift len.toNat := by
  rw [bitMask, fieldMask, Nat.one_shiftLeft]
  rfl

theorem toBitVec_shiftRight (byte : UInt8) (shift : Nat) :
    (UInt8.ofNat (byte.toNat >>> shift)).toBitVec = byte.toBitVec >>> shift := by
  apply BitVec.eq_of_toNat_eq
  have hle : byte.toNat >>> shift ≤ byte.toNat := by
    rw [Nat.shiftRight_eq_div_pow]
    exact Nat.div_le_self _ _
  have hrange : byte.toNat >>> shift < 2 ^ 8 := hle.trans_lt byte.toNat_lt
  rw [BitVec.toNat_ushiftRight]
  exact Nat.mod_eq_of_lt hrange

theorem toBitVec_read (byte : UInt8) (shift : Nat) (len : UInt8) :
    (UInt8.ofNat ((byte &&& bitMask shift len).toNat >>> shift)).toBitVec =
      getField shift len.toNat byte.toBitVec := by
  rw [toBitVec_shiftRight, UInt8.toBitVec_and, toBitVec_bitMask]
  rfl

theorem toBitVec_write (byte data : UInt8) (shift : Nat) (len : UInt8) :
    (byte &&& ~~~bitMask shift len |||
      UInt8.ofNat (data.toNat <<< shift) &&& bitMask shift len).toBitVec =
      setField shift len.toNat byte.toBitVec data.toBitVec := by
  rw [UInt8.toBitVec_or, UInt8.toBitVec_and, UInt8.toBitVec_and, UInt8.toBitVec_not,
    toBitVec_bitMask]
  rfl

/-- Where the field of a parameter begins in its register. -/
def Cmd.low : Cmd → Nat
  | sampleNum => 4
  | dor => 0
  | range => 3
  | operMode => 0

def Cmd.width (cmd : Cmd) : Nat := cmd.writeBits.len.toNat

theorem Cmd.writeShift (cmd : Cmd) :
    fieldShift cmd.writeBits.startBit cmd.writeBits.len = some cmd.low := by
  cases cmd <;> rfl

theorem Cmd.room (cmd : Cmd) : cmd.low + cmd.width ≤ 8 := by cases cmd <;> decide

/-- Only the mode is read in another place than it is written. -/
theorem Cmd.readBits_eq {cmd : Cmd} (h : cmd ≠ .operMode) : cmd.readBits = cmd.writeBits := by
  cases cmd with
  | operMode => exact absurd rfl h
  | _ => rfl

theorem Cmd.disjoint {cmd other : Cmd} (h : other ≠ cmd)
    (hreg : other.writeBits.reg = cmd.writeBits.reg) :
    cmd.low + cmd.width ≤ other.low ∨ other.low + other.width ≤ cmd.low := by
  revert h hreg
  cases cmd <;> cases other <;> decide

def fieldValue (registers : UInt8 → UInt8) (cmd : Cmd) : BitVec 8 :=
  getField cmd.low cmd.width (registers cmd.writeBits.reg).toBitVec

section
variable {dev : Device} {registers : UInt8 → UInt8} {cmd other : Cmd} {param : UInt8}

theorem getParam_registers (hdev : dev.bus.type = .i2cBus) (hmode : cmd ≠ .operMode) :
    myHmc5883lGetParam registerBus dev cmd registers =
      (some (rtEok, ⟨fieldValue registers cmd⟩), registers) := by
  unfold myHmc5883lGetParam
  rw [Cmd.readBits_eq hmode, readBits_registers hdev cmd.writeShift, fieldValue, Cmd.width,
    ← toBitVec_read]

theorem getParam_operMode (hdev : dev.bus.type = .i2cBus) :
    myHmc5883lGetParam registerBus dev .operMode registers = (none, registers) :=
  readBits_undefined hdev rfl

def withParam (registers : UInt8 → UInt8) (cmd : Cmd) (param : UInt8) : UInt8 → UInt8 :=
  Function.update registers cmd.writeBits.reg
    ⟨setField cmd.low cmd.width (registers cmd.writeBits.reg).toBitVec param.toBitVec⟩

theorem setParam_registers (hdev : dev.bus.type = .i2cBus) :
    myHmc5883lSetParam registerBus dev cmd param registers =
      (some (rtEok, { dev with config := dev.config.set param cmd }),
        withParam registers cmd param) := by
  unfold myHmc5883lSetParam
  rw [bind_run (writeBits_registers hdev cmd.writeShift), withParam, Cmd.width, ← toBitVec_write]
  rfl

theorem fieldValue_withParam (hfits : param.toNat < 2 ^ cmd.width) :
    fieldValue (withParam registers cmd param) cmd = param.toBitVec := by
  rw [fieldValue, withParam, Function.update_self]
  exact getField_setField cmd.room hfits

theorem fieldValue_withParam_other (hother : other ≠ cmd) :
    fieldValue (withParam registers cmd param) other = fieldValue registers other := by
  rw [fieldValue, withParam]
  by_cases hreg : other.writeBits.reg = cmd.writeBits.reg
  · rw [hreg, Function.update_self, getField_setField_disjoint other.room
      (Cmd.disjoint hother hreg), fieldValue, hreg]
  · rw [Function.update_of_ne hreg, fieldValue]

/-- After a set the command `other` yields the value set, or what it yielded
before; none of the shifts is undefined. -/
def RoundTrip (dev : Device) (registers : UInt8 → UInt8) (cmd : Cmd) (param : UInt8)
    (other : Cmd) : Prop :=
  ∃ dev' registers' value,
    myHmc5883lSetParam registerBus dev cmd param registers = (some (rtEok, dev'), registers') ∧
      myHmc5883lGetParam registerBus dev' other registers' =
        (some (rtEok, value), registers') ∧
      if other = cmd then value = param
      else myHmc5883lGetParam registerBus dev other registers = (some (rtEok, value), registers)

/-- The mode cannot be read, whatever was set. -/
theorem not_roundTrip_operMode (hdev : dev.bus.type = .i2cBus) :
    ¬RoundTrip dev registers cmd param .operMode := by
  rintro ⟨dev', registers', value, hset, hget, -⟩
  rw [setParam_registers hdev] at hset
  cases hset
  have hundefined := hget.symm.trans (getParam_operMode hdev)
  cases hundefined

/-- Parameters round-trip and do not interfere, except that the mode cannot be
read at all. -/
theorem roundTrip_iff (dev : Device) (registers : UInt8 → UInt8) (cmd : Cmd) (param : UInt8)
    (other : Cmd) (hdev : dev.bus.type = .i2cBus) (hfits : param.toNat < 2 ^ cmd.width) :
    RoundTrip dev registers cmd param other ↔ other ≠ .operMode := by
  constructor
  · rintro h rfl
    exact not_roundTrip_operMode hdev h
  · intro hmode
    refine ⟨_, _, _, setParam_registers hdev, getParam_registers hdev hmode, ?_⟩
    split
    · rename_i hsame
      subst hsame
      rw [fieldValue_withParam hfits]
    · rename_i hother
      rw [fieldValue_withParam_other hother]
      exact getParam_registers hdev hmode

theorem roundTrip_iff_dor :
    RoundTrip ⟨⟨.i2cBus⟩, hmc5883lAddr, ⟨0, 0, 0, 0⟩⟩ (fun _ => 0xFF) .sampleNum 2 .dor :=
  (roundTrip_iff ⟨⟨.i2cBus⟩, hmc5883lAddr, ⟨0, 0, 0, 0⟩⟩ (fun _ => 0xFF) .sampleNum 2 .dor rfl
    (by decide)).mpr (by decide)

/-- Reading the mode back shifts by -1. -/
theorem operMode_unreadable :
    ¬RoundTrip ⟨⟨.i2cBus⟩, hmc5883lAddr, ⟨0, 0, 0, 0⟩⟩ (fun _ => 0) .operMode 1 .operMode :=
  not_roundTrip_operMode rfl

end
end WeatherStation.Hmc5883l
