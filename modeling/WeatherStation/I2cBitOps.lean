import WeatherStation.I2c
import WeatherStation.Lib.Bits

/-! i2c-bit-ops.c and the transfer of i2c_core.c: messages made of whole bytes,
and bytes made of levels on the two pins.  The part that moves messages works
through `ByteOps`, so it also runs on a bus that has no pins. -/
namespace WeatherStation.I2c
open Gpio Lib

def rtI2cAddr10bit : UInt16 := 0x0004
def rtI2cIgnoreNack : UInt16 := 0x0020
def rtI2cNoReadAck : UInt16 := 0x0040

def rtEtimeout : RtErr := 2
def rtEio : RtErr := 8

def Msg.has (msg : Msg) (flag : UInt16) : Bool := msg.flags &&& flag ≠ 0

/-! ### Levels -/

/-- `struct rt_i2c_bit_ops`. -/
structure BitOps (σ : Type) where
  setSda : Bool → StateM σ Unit
  setScl : Bool → StateM σ Unit
  getSda : StateM σ Bool
  getScl : StateM σ Bool
  /-- How many times SCL is looked at again before the timeout is over. -/
  polls : ℕ

section
variable {σ : Type} (ops : BitOps σ)

def pollScl : ℕ → StateM σ RtErr
  | 0 => do if ← ops.getScl then return rtEok else return -rtEtimeout
  | polls + 1 => do if ← ops.getScl then return rtEok else pollScl polls

def sclH : StateM σ RtErr := do
  ops.setScl true
  pollScl ops ops.polls

def i2cStart : StateM σ Unit := do
  ops.setSda false
  ops.setScl false

def i2cRestart : StateM σ Unit := do
  ops.setSda true
  let _ ← sclH ops
  ops.setSda false
  ops.setScl false

def i2cStop : StateM σ Unit := do
  ops.setSda false
  let _ ← sclH ops
  ops.setSda true

/-- 1 for an acknowledgement, 0 for none. -/
def i2cWaitack : StateM σ Int := do
  ops.setSda true
  if (← sclH ops) < 0 then return -rtEtimeout
  else
    let ack := !(← ops.getSda)
    ops.setScl false
    return ack.toInt

/-- The loop of `i2c_writeb` with `i` bits to go. -/
def writeLoop (data : UInt8) : ℕ → StateM σ RtErr
  | 0 => return rtEok
  | i + 1 => do
    ops.setScl false
    ops.setSda (data.toNat.testBit i)
    if (← sclH ops) < 0 then return -rtEtimeout else writeLoop data i

def i2cWriteb (data : UInt8) : StateM σ Int := do
  if (← writeLoop ops data 8) < 0 then return -rtEtimeout
  else
    ops.setScl false
    i2cWaitack ops

/-- The loop of `i2c_readb` with `n` bits to go. -/
def readLoop : ℕ → UInt8 → StateM σ Int
  | 0, data => return data.toNat
  | n + 1, data => do
    if (← sclH ops) < 0 then return -rtEtimeout
    else
      let bit ← ops.getSda
      ops.setScl false
      readLoop n (if bit then data <<< 1 ||| 1 else data <<< 1)

def i2cReadb : StateM σ Int := do
  ops.setSda true
  readLoop ops 8 0

def i2cSendAckOrNack (ack : Bool) : StateM σ RtErr := do
  if ack then ops.setSda false
  if (← sclH ops) < 0 then return -rtEtimeout
  else
    ops.setScl false
    return rtEok

end

/-! ### Bytes -/

/-- What the functions below use of those above. -/
structure ByteOps (σ : Type) where
  start : StateM σ Unit
  restart : StateM σ Unit
  stop : StateM σ Unit
  writeb : UInt8 → StateM σ Int
  readb : StateM σ Int
  sendAckOrNack : Bool → StateM σ RtErr

def BitOps.bytes {σ : Type} (ops : BitOps σ) : ByteOps σ :=
  ⟨i2cStart ops, i2cRestart ops, i2cStop ops, i2cWriteb ops, i2cReadb ops, i2cSendAckOrNack ops⟩

section
variable {σ : Type} (ops : ByteOps σ)

/-- What is left of the message, and the bytes sent. -/
def i2cSendBytes (msg : Msg) : List UInt8 → ℕ → StateM σ Int
  | [], bytes => return bytes
  | data :: rest, bytes => do
    let ret ← ops.writeb data
    if 0 < ret ∨ msg.has rtI2cIgnoreNack ∧ ret = 0 then i2cSendBytes msg rest (bytes + 1)
    else if ret = 0 then return 0
    else return ret

/-- The bytes to go and those received, which are returned beside the result. -/
def i2cRecvBytes (msg : Msg) : ℕ → List UInt8 → StateM σ (Int × List UInt8)
  | 0, data => return (data.length, data)
  | count + 1, data => do
    let val ← ops.readb
    if val < 0 then return (data.length, data)
    else
      let data := data ++ [UInt8.ofNat val.toNat]
      if msg.has rtI2cNoReadAck then i2cRecvBytes msg count data
      else
        let val ← ops.sendAckOrNack (count ≠ 0)
        if val < 0 then return (val, data) else i2cRecvBytes msg count data

def i2cSendAddress (addr : UInt8) : ℕ → StateM σ Int
  | 0 => ops.writeb addr
  | retries + 1 => do
    let ret ← ops.writeb addr
    if ret = 1 then return ret
    else
      ops.stop
      ops.start
      i2cSendAddress addr retries

/-- The address of a message that is read from or written to, 7 bits of it. -/
def Msg.addr1 (msg : Msg) : UInt8 :=
  if msg.has rtI2cRd then (msg.addr <<< 1).toUInt8 ||| 1 else (msg.addr <<< 1).toUInt8

/-- The first byte of a 10-bit address. -/
def Msg.addr10 (msg : Msg) : UInt8 :=
  (0xf0 : UInt8) ||| (msg.addr >>> 7 &&& 0x06).toUInt8

def i2cBitSendAddress (retries : ℕ) (msg : Msg) : StateM σ RtErr := do
  let ignoreNack := msg.has rtI2cIgnoreNack
  let retries := if ignoreNack then 0 else retries
  if msg.has rtI2cAddr10bit then
    let ret ← i2cSendAddress ops msg.addr10 retries
    if ret ≠ 1 ∧ !ignoreNack then return -rtEio
    else
      let ret ← ops.writeb msg.addr.toUInt8
      if ret ≠ 1 ∧ !ignoreNack then return -rtEio
      else if msg.has rtI2cRd then
        ops.restart
        let ret ← i2cSendAddress ops (msg.addr10 ||| 0x01) retries
        if ret ≠ 1 ∧ !ignoreNack then return -rtEio else return rtEok
      else return rtEok
  else
    let ret ← i2cSendAddress ops msg.addr1 retries
    if ret ≠ 1 ∧ !ignoreNack then return -rtEio else return rtEok

/-- The start condition and the address, unless the message goes on with the one
before. -/
def i2cBegin (retries : ℕ) (first : Bool) (msg : Msg) : StateM σ RtErr :=
  if msg.has rtI2cNoStart then return rtEok
  else do
    if first then ops.start else ops.restart
    i2cBitSendAddress ops retries msg

/-- The body of the loop of `i2c_bit_xfer`: an error that ends the transfer, and
the bytes received. -/
def i2cMsgXfer (retries : ℕ) (first : Bool) (msg : Msg) :
    StateM σ (Option RtErr × List UInt8) := do
  let ret ← i2cBegin ops retries first msg
  if ret ≠ rtEok ∧ !msg.has rtI2cIgnoreNack then return (some ret, [])
  else if msg.has rtI2cRd then
    let (ret, data) ← i2cRecvBytes ops msg msg.buf.length []
    if ret < msg.buf.length then return (some (if 0 ≤ ret then -rtEio else ret), data)
    else return (none, data)
  else
    let ret ← i2cSendBytes ops msg msg.buf 0
    if ret < msg.buf.length then return (some (if 0 ≤ ret then -rtError else ret), [])
    else return (none, [])

/-- The label `out`. -/
def i2cOut (msg : Msg) : StateM σ Unit :=
  if msg.has rtI2cNoStop then return () else ops.stop

/-- The messages to go after `i` of them. -/
def i2cXferLoop (retries : ℕ) (i : ℕ) : List Msg → StateM σ (Int × List UInt8)
  | [] => return (i, [])
  | msg :: rest => do
    let (error, data) ← i2cMsgXfer ops retries (i = 0) msg
    match error with
    | some ret =>
      i2cOut ops msg
      return (ret, data)
    | none =>
      if rest = [] then
        i2cOut ops msg
        return ((i + 1 : ℕ), data)
      else
        let (ret, more) ← i2cXferLoop retries (i + 1) rest
        return (ret, data ++ more)

def i2cBitXfer (retries : ℕ) (msgs : List Msg) : StateM σ (Int × List UInt8) :=
  i2cXferLoop ops retries 0 msgs

/-- `rt_i2c_transfer` under the lock of the bus; a negative result comes back as
a large `rt_size_t`. -/
def bitBus (retries : ℕ) : Bus σ where
  rtI2cTransfer msgs := do
    let (ret, data) ← i2cBitXfer ops retries msgs
    return ⟨(ret % 2 ^ 32).toNat, data⟩

end

/-- `stm32_i2c_bus_unlock`, with its pulses to go. -/
def unlockLoop {σ : Type} (ops : BitOps σ) : ℕ → StateM σ Unit
  | 0 => return ()
  | i + 1 => do
    ops.setScl true
    ops.setScl false
    unlockLoop ops i

def stm32I2cBusUnlock {σ : Type} (ops : BitOps σ) : StateM σ RtErr := do
  if !(← ops.getSda) then unlockLoop ops 9
  if !(← ops.getSda) then return -rtError else return rtEok

end WeatherStation.I2c
