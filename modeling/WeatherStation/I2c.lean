import WeatherStation.Gpio

/-! The I2C bus as the drivers see it: `rt_i2c_transfer` takes messages and
says how many of them went through.  What answers is a parameter, so a driver
result holds for every sensor and every pattern of bus failures. -/
namespace WeatherStation.I2c
open Gpio

def rtI2cWr : UInt16 := 0x0000
def rtI2cRd : UInt16 := 0x0001
def rtI2cNoStart : UInt16 := 0x0010
def rtI2cNoStop : UInt16 := 0x0080

/-- `struct rt_i2c_msg`; a read message carries the buffer it will overwrite. -/
structure Msg where
  addr : UInt16
  flags : UInt16
  buf : List UInt8
  deriving DecidableEq, Repr

/-- The messages that went through, and the bytes received. -/
structure Reply where
  num : Nat
  data : List UInt8
  deriving DecidableEq, Repr

structure Bus (β : Type) where
  rtI2cTransfer : List Msg → StateM β Reply

/-- A bus that replays given replies; when none is left nothing answers. -/
def Bus.replay : Bus (List Reply) where
  rtI2cTransfer _ replies :=
    match replies with
    | [] => (⟨0, []⟩, [])
    | reply :: rest => (reply, rest)

inductive DeviceClass where
  | i2cBus | other
  deriving DecidableEq, Repr

/-- What `rt_device_find` returns, as far as the drivers look at it. -/
structure RtDevice where
  type : DeviceClass
  deriving DecidableEq, Repr

/-- Received bytes overwrite the front of the buffer. -/
def receive (buf data : List UInt8) : List UInt8 :=
  data.take buf.length ++ buf.drop data.length

section
variable {β : Type} (bus : Bus β)

def transferRead (addr reg : UInt8) (buf : List UInt8) : StateM β (RtErr × List UInt8) := do
  let reply ← bus.rtI2cTransfer
    [⟨addr.toUInt16, rtI2cWr, [reg]⟩, ⟨addr.toUInt16, rtI2cRd, buf⟩]
  if reply.num = 2 then return (rtEok, receive buf reply.data)
  else return (-rtError, receive buf reply.data)

def transferWrite (addr reg : UInt8) (buf : List UInt8) : StateM β RtErr := do
  let reply ← bus.rtI2cTransfer
    [⟨addr.toUInt16, rtI2cWr ||| rtI2cNoStop, [reg]⟩,
      ⟨addr.toUInt16, rtI2cWr ||| rtI2cNoStart, buf⟩]
  return if reply.num = 2 then rtEok else -rtError

/-- `read_regs` of the HMC5883L and LTR390 drivers. -/
def readRegs (dev : RtDevice) (addr reg : UInt8) (buf : List UInt8) :
    StateM β (RtErr × List UInt8) :=
  if dev.type = .i2cBus then transferRead bus addr reg buf
  else return (-rtError, buf)

/-- `write_reg` of the HMC5883L and LTR390 drivers. -/
def writeReg (dev : RtDevice) (addr reg data : UInt8) : StateM β RtErr :=
  if dev.type = .i2cBus then do
    let reply ← bus.rtI2cTransfer [⟨addr.toUInt16, rtI2cWr, [reg, data]⟩]
    return if reply.num = 1 then rtEok else -rtError
  else return -rtError

end
end WeatherStation.I2c
