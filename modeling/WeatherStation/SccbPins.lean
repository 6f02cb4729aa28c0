import WeatherStation.CameraWindow
import WeatherStation.Lib.RegisterChips
import WeatherStation.Lib.Simulation

/-! bsp_ov7725_sccb.c on its two pins, and the functions of bsp_ov7725.c on top of
it.  A request is seen by any device as the bytes it is meant to be; the sensor is
a chip with registers. -/
namespace WeatherStation.CameraSetup
open Gpio Lib TwoWire

/-- PC6 and PC7, open-drain outputs. -/
structure Pins (σ : Type) where
  scl : Bool → StateM σ Unit
  sda : Bool → StateM σ Unit
  sdaRead : StateM σ Bool

/-! ### Levels -/

section
variable {σ : Type} (pins : Pins σ)

def sccbStart : StateM σ Bool := do
  pins.sda true
  pins.scl true
  if !(← pins.sdaRead) then return false
  else
    pins.sda false
    if ← pins.sdaRead then return false
    else
      pins.sda false
      return true

def sccbStop : StateM σ Unit := do
  pins.scl false
  pins.sda false
  pins.scl true
  pins.sda true

/-- `SCCB_Ack`, and `SCCB_NoAck` with the other level. -/
def sccbAnswer (level : Bool) : StateM σ Unit := do
  pins.scl false
  pins.sda level
  pins.scl true
  pins.scl false

def sccbAck : StateM σ Unit := sccbAnswer pins false

def sccbNoAck : StateM σ Unit := sccbAnswer pins true

def sccbWaitAck : StateM σ Bool := do
  pins.scl false
  pins.sda true
  pins.scl true
  if ← pins.sdaRead then
    pins.scl false
    return false
  else
    pins.scl false
    return true

/-- The loop of `SCCB_SendByte` with `i` bits to go. -/
def sendLoop : ℕ → UInt8 → StateM σ Unit
  | 0, _ => return ()
  | i + 1, sendByte => do
    pins.scl false
    pins.sda (sendByte &&& 0x80 ≠ 0)
    pins.scl true
    sendLoop i (sendByte <<< 1)

def sccbSendByte (sendByte : UInt8) : StateM σ Unit := do
  sendLoop pins 8 sendByte
  pins.scl false

/-- The loop of `SCCB_ReceiveByte` with `i` bits to go. -/
def receiveLoop : ℕ → UInt8 → StateM σ UInt8
  | 0, receiveByte => return receiveByte
  | i + 1, receiveByte => do
    pins.scl false
    pins.scl true
    let bit ← pins.sdaRead
    receiveLoop i (if bit then receiveByte <<< 1 ||| 0x01 else receiveByte <<< 1)

def sccbReceiveByte : StateM σ UInt8 := do
  pins.sda true
  let receiveByte ← receiveLoop pins 8 0
  pins.scl false
  return receiveByte

/-! ### Requests -/

def devAdr : UInt8 := 0x42

/-- `SCCB_WriteByte`. -/
def pinsWriteByte (writeAddress : UInt16) (sendByte : UInt8) : StateM σ Bool := do
  if !(← sccbStart pins) then return false
  else
    sccbSendByte pins devAdr
    if !(← sccbWaitAck pins) then
      sccbStop pins
      return false
    else
      sccbSendByte pins (writeAddress &&& 0x00FF).toUInt8
      let _ ← sccbWaitAck pins
      sccbSendByte pins sendByte
      let _ ← sccbWaitAck pins
      sccbStop pins
      return true

/-- The loop of `SCCB_ReadByte` with `length` bytes to go. -/
def receiveBytes : ℕ → StateM σ (List UInt8)
  | 0 => return []
  | length + 1 => do
    let receiveByte ← sccbReceiveByte pins
    if length = 0 then sccbNoAck pins else sccbAck pins
    return receiveByte :: (← receiveBytes length)

/-- `SCCB_ReadByte`, with the bytes that overwrite the front of the buffer. -/
def pinsReadByte (length : UInt16) (readAddress : UInt8) : StateM σ (Bool × List UInt8) := do
  if !(← sccbStart pins) then return (false, [])
  else
    sccbSendByte pins devAdr
    if !(← sccbWaitAck pins) then
      sccbStop pins
      return (false, [])
    else
      sccbSendByte pins readAddress
      let _ ← sccbWaitAck pins
      sccbStop pins
      if !(← sccbStart pins) then return (false, [])
      else
        sccbSendByte pins (devAdr + 1)
        if !(← sccbWaitAck pins) then
          sccbStop pins
          return (false, [])
        else
          let bytes ← receiveBytes pins length.toNat
          sccbStop pins
          return (true, bytes)

end

/-! ### On wires -/

section
variable {σ : Type} (device : Device σ)

def wirePins : Pins (Wires σ) where
  scl level := modify (Wires.setScl device level)
  sda level := modify (Wires.setSda device level)
  sdaRead := return (← get).line

variable {device} {wires : Wires σ} {line : Line σ} {byte : UInt8}

theorem sendLoop_run {i : ℕ} : (sendLoop (wirePins device) i byte wires).2.setScl device false =
    (pulses device (shiftOut i byte) (wires.setScl device false)).2 := by
  induction i generalizing wires byte with
  | zero => rfl
  | succ i ih => exact ih

theorem sendByte_run : sccbSendByte (wirePins device) byte wires =
    ((), (pulses device (byteBits byte) (wires.setScl device false)).2) := by
  rw [sccbSendByte, bind_apply, ← shiftOut_eight, ← sendLoop_run]
  rfl

theorem waitAck_run : sccbWaitAck (wirePins device) wires =
    (!(pulse device true (wires.setScl device false)).1,
      (pulse device true (wires.setScl device false)).2) := by
  have hread (w : Wires σ) : (do
      if ← (wirePins device).sdaRead then
        (wirePins device).scl false
        return false
      else
        (wirePins device).scl false
        return true) w = (!w.line, w.setScl device false) := by
    show (if w.line = true then _ else _ : StateM (Wires σ) Bool) w = _
    cases w.line <;> rfl
  exact hread _

theorem answer_run {level : Bool} : sccbAnswer (wirePins device) level wires =
    ((), (pulse device level (wires.setScl device false)).2) := rfl

theorem receiveLoop_run {i : ℕ} (hsda : wires.sda = true) :
    (receiveLoop (wirePins device) i byte wires).1 =
        (pulses device (List.replicate i true) (wires.setScl device false)).1.foldl shiftIn byte ∧
      (receiveLoop (wirePins device) i byte wires).2.setScl device false =
        (pulses device (List.replicate i true) (wires.setScl device false)).2 := by
  induction i generalizing wires byte with
  | zero => exact ⟨rfl, rfl⟩
  | succ i ih =>
    have hsame : (wires.setScl device false).setSda device true = wires.setScl device false :=
      setSda_same (by rw [setScl_sda, hsda])
    rw [List.replicate_succ, pulses, pulse, hsame]
    exact ih (show ((wires.setScl device false).setScl device true).sda = true by
      rw [setScl_sda, setScl_sda, hsda])

theorem receiveByte_run (hscl : wires.scl = false) : sccbReceiveByte (wirePins device) wires =
    (byteOf (pulses device (byteBits 0xFF) (wires.setSda device true)).1,
      (pulses device (byteBits 0xFF) (wires.setSda device true)).2) := by
  have hbits : byteBits 0xFF = List.replicate 8 true := by decide
  have hlow : (wires.setSda device true).setScl device false = wires.setSda device true :=
    setScl_same (by rw [setSda_scl, hscl])
  have ⟨hbyte, hafter⟩ := @receiveLoop_run σ device (wires.setSda device true) 0 8 setSda_sda
  rw [hlow, ← hbits] at hbyte hafter
  rw [foldl_shiftIn] at hbyte
  rw [← hbyte, ← hafter]
  rfl

/-! ### Seen by the device -/

/-- A byte with its acknowledge bit. -/
def sccbSend (pins : Pins σ) (byte : UInt8) : StateM σ Bool := do
  sccbSendByte pins byte
  sccbWaitAck pins

def sccbReceive (pins : Pins σ) (more : Bool) : StateM σ UInt8 := do
  let byte ← sccbReceiveByte pins
  if more then sccbAck pins else sccbNoAck pins
  return byte

variable (device) in
/-- Between two bytes as soon as the clock is low. -/
def Low (wires : Wires σ) (line : Line σ) : Prop :=
  ∃ sda, wires.setScl device false = line.port.wires device sda

/-- `SCCB_Start` lets the data wire rise first, so it is a restart in any case. -/
theorem start_run (h : At device Mode.Calm wires line) :
    (sccbStart (wirePins device) wires).1 = true ∧
      Low device (sccbStart (wirePins device) wires).2 (line.restart device) := by
  have hhigh : ∃ phase, phase.lets = true ∧
      (wires.setSda device true).setScl device true = ⟨true, true, phase, line.port.state⟩ := by
    obtain ⟨hcarries, hcalm⟩ := h
    cases hcarries with
    | held sda port => exact ⟨port.phase device, lets_of_calm hcalm, by rw [Port.wires, setSda_low]; rfl⟩
    | idle state =>
      refine ⟨.silent, rfl, ?_⟩
      rw [setSda_same (show (Wires.mk true true .silent state).sda = true from rfl)]
      rfl
  obtain ⟨phase, hlets, hwires⟩ := hhigh
  have hfall : (Wires.mk true true phase line.port.state).setSda device false =
      ⟨true, false, .started, device.start line.port.state⟩ := by
    simp [Wires.setSda, Wires.line, hlets]
  have hrun : sccbStart (wirePins device) wires =
      (true, ⟨true, false, .started, device.start line.port.state⟩) := by
    rw [sccbStart, bind_apply, bind_apply, bind_apply]
    show (if (!((wires.setSda device true).setScl device true).line) = true then _ else _ :
      StateM (Wires σ) Bool) ((wires.setSda device true).setScl device true) = _
    rw [hwires, show (Wires.mk true true phase line.port.state).line = true from hlets,
      Bool.not_true, if_neg Bool.false_ne_true, bind_apply]
    show (if ((Wires.mk true true phase line.port.state).setSda device false).line = true then _
      else _ : StateM (Wires σ) Bool) ((Wires.mk true true phase line.port.state).setSda device
        false) = _
    rw [hfall]
    show (true, (Wires.mk true false .started (device.start line.port.state)).setSda device false) = _
    rw [setSda_same (show (Wires.mk true false .started (device.start line.port.state)).sda = false
      from rfl)]
  rw [hrun]
  exact ⟨rfl, false, rfl⟩

theorem stop_run (h : At device Mode.Calm wires line) :
    Carries device (sccbStop (wirePins device) wires).2 (Line.stop device ⟨true, line.port⟩) := by
  obtain ⟨sda, hlow⟩ := h.1.low
  show Carries device ((((wires.setScl device false).setSda device false).setScl device
    true).setSda device true) _
  rw [hlow]
  exact (Carries.held sda line.port).stop h.2

theorem send_run (byte : UInt8) (h : Low device wires line) :
    (sccbSend (wirePins device) byte wires).1 = (line.send device byte).1 ∧
      Carries device (sccbSend (wirePins device) byte wires).2 (line.send device byte).2 := by
  obtain ⟨sda, hlow⟩ := h
  have ⟨hack, hafter⟩ := @pulses_send σ device sda line byte
  have hnine : sccbSend (wirePins device) byte wires =
      (!((pulses device (byteBits byte ++ [true]) (wires.setScl device false)).1.getLastD false),
        (pulses device (byteBits byte ++ [true]) (wires.setScl device false)).2) := by
    have hscl : (pulses device (byteBits byte) (wires.setScl device false)).2.scl = false :=
      pulses_scl setScl_low_scl
    rw [sccbSend, bind_apply, sendByte_run, waitAck_run, setScl_same hscl, pulses_append,
      pulses_singleton]
    simp
  rw [hnine, hlow, List.getLastD_eq_getLast?, hack]
  dsimp only at hafter ⊢
  exact ⟨by rw [Option.getD_some, Bool.not_not], hafter⟩

theorem receive_run (more : Bool) (h : Carries device wires line) (hheld : line.held = true) :
    (sccbReceive (wirePins device) more wires).1 = line.peek device ∧
      Carries device (sccbReceive (wirePins device) more wires).2 (line.answer device more) := by
  cases h with
  | idle state => nomatch hheld
  | held sda port =>
    have hlow : (port.wires device sda).setSda device true = port.wires device true := setSda_low
    have ⟨hbyte, hreceived⟩ := @pulses_peek σ device (port.wires device true) true ⟨true, port⟩ rfl
    have hbyte_run := @receiveByte_run σ device (port.wires device sda) rfl
    rw [hlow] at hbyte_run
    generalize pulses device (byteBits 0xFF) (port.wires device true) = after at *
    obtain ⟨-, hscl, hpulse⟩ := hreceived
    have hanswer (level : Bool) : sccbAnswer (wirePins device) level after.2 =
        ((), (device.exchange 0xFF level port).2.2.wires device level) := by
      rw [answer_run, setScl_same hscl, hpulse]
    have hrun : sccbReceive (wirePins device) more (port.wires device sda) =
        (Line.peek device ⟨true, port⟩,
          (device.exchange 0xFF (!more) port).2.2.wires device (!more)) := by
      rw [sccbReceive, bind_apply, hbyte_run, hbyte]
      cases more with
      | true => exact congrArg (fun r => (Line.peek device ⟨true, port⟩, r.2)) (hanswer false)
      | false => exact congrArg (fun r => (Line.peek device ⟨true, port⟩, r.2)) (hanswer true)
    rw [hrun]
    exact ⟨rfl, .held _ _⟩

/-! ### Requests, seen by the device -/

section
variable (device)

def lineStart : StateM (Line σ) Bool := do
  modify (Line.restart device)
  return true

def lineStop : StateM (Line σ) Unit := modify (Line.stop device)

def lineSend (byte : UInt8) : StateM (Line σ) Bool := fun line => line.send device byte

def lineReceive (more : Bool) : StateM (Line σ) UInt8 := fun line =>
  (line.peek device, line.answer device more)

/-- A write is a start, the address, and two bytes whatever becomes of the first. -/
def lineWriteByte (reg value : UInt8) : StateM (Line σ) Bool := do
  let _ ← lineStart device
  if !(← lineSend device devAdr) then
    lineStop device
    return false
  else
    let _ ← lineSend device reg
    let _ ← lineSend device value
    lineStop device
    return true

def fetchBytes : ℕ → StateM (Line σ) (List UInt8)
  | 0 => return []
  | length + 1 => do
    let byte ← lineReceive device (length ≠ 0)
    return byte :: (← fetchBytes length)

/-- A read is a write of the register alone and a second conversation. -/
def lineReadByte (length : ℕ) (reg : UInt8) : StateM (Line σ) (Bool × List UInt8) := do
  let _ ← lineStart device
  if !(← lineSend device devAdr) then
    lineStop device
    return (false, [])
  else
    let _ ← lineSend device reg
    lineStop device
    let _ ← lineStart device
    if !(← lineSend device (devAdr + 1)) then
      lineStop device
      return (false, [])
    else
      let bytes ← fetchBytes device length
      lineStop device
      return (true, bytes)

/-- Between two bytes of a request. -/
def Within (modes : Mode → Prop) (wires : Wires σ) (line : Line σ) : Prop :=
  At device modes wires line ∧ line.held = true

/-- Both wires are high. -/
def Idle (wires : Wires σ) (line : Line σ) : Prop :=
  ∃ state, wires = ⟨true, true, .silent, state⟩ ∧ line = ⟨false, .silent, state⟩

end

theorem start_simulates : Simulates Idle (sccbStart (wirePins device)) (lineStart device)
    fun ok wires line => ok = true ∧ Low device wires line := by
  rintro _ _ ⟨state, rfl, rfl⟩
  have ⟨hok, hlow⟩ := @start_run σ device _ _ ⟨.idle state, Mode.rests_silent.1⟩
  exact ⟨hok, hok, hlow⟩

theorem stop_simulates : Simulates (Within device Mode.Rests) (sccbStop (wirePins device))
    (lineStop device) fun _ => Idle := by
  rintro wires ⟨held, port⟩ ⟨⟨hcarries, hrests⟩, hheld⟩
  cases hheld
  have h := stop_run ⟨hcarries, hrests.1⟩
  refine ⟨rfl, device.stop port.state, ?_, rfl⟩
  generalize (sccbStop (wirePins device) wires).2 = after at h ⊢
  rw [Line.stop] at h
  cases h
  rfl

/-- After the address. -/
def Addressed (byte : UInt8) (ack : Bool) (mode : Mode) : Prop :=
  mode.Begun ∧ (byte.toNat.testBit 0 = false ∨ ack = false → mode.Rests)

theorem address_simulates : Simulates (Low device) (sccbSend (wirePins device) byte)
    (lineSend device byte) fun ack => Within device (Addressed byte ack) := by
  intro wires line h
  have ⟨hack, hcarries⟩ := send_run byte h
  refine ⟨hack, ⟨hcarries, send_begun, fun hrests => send_rests (.inr ?_)⟩, rfl⟩
  rwa [hack] at hrests

theorem data_simulates : Simulates (Within device Mode.Rests) (sccbSend (wirePins device) byte)
    (lineSend device byte) fun _ => Within device Mode.Rests := by
  intro wires line h
  have ⟨hack, hcarries⟩ := send_run byte h.1.1.low
  exact ⟨hack, ⟨hcarries, send_rests (.inl h.1.2.2)⟩, rfl⟩

theorem receive_simulates {more : Bool} : Simulates (Within device Mode.Begun)
    (sccbReceive (wirePins device) more) (lineReceive device more)
    fun _ => Within device fun mode => mode.Begun ∧ (more = false → mode.Rests) := by
  intro wires line h
  have ⟨hbyte, hcarries⟩ := receive_run more h.1.1 h.2
  refine ⟨hbyte, ⟨hcarries, answer_begun h.1.2, ?_⟩, rfl⟩
  rintro rfl
  exact answer_rests h.1.2

theorem rests_after_address {ack : Bool} (wires : Wires σ) (line : Line σ)
    (h : Within device (Addressed devAdr ack) wires line) : Within device Mode.Rests wires line :=
  ⟨⟨h.1.1, h.1.2.2 (.inl (by decide))⟩, h.2⟩

/-- A byte and the wait for its acknowledge bit are one step. -/
theorem send_bind {α : Type} (pins : Pins σ) (byte : UInt8) (next : Bool → StateM σ α) :
    (do sccbSendByte pins byte; next (← sccbWaitAck pins)) = sccbSend pins byte >>= next := rfl

theorem writeByte_simulates (device : Device σ) (writeAddress : UInt16) (sendByte : UInt8) :
    Simulates Idle (pinsWriteByte (wirePins device) writeAddress sendByte)
      (lineWriteByte device (writeAddress &&& 0x00FF).toUInt8 sendByte) fun _ => Idle := by
  refine .bind start_simulates fun ok => .of_and ?_
  rintro rfl
  rw [Bool.not_true, if_neg Bool.false_ne_true]
  simp only [send_bind]
  refine .bind address_simulates fun ack => .ite (fun _ => ?_) fun _ => ?_
  · refine .bind (stop_simulates.weaken rests_after_address fun _ _ _ => id) fun _ => ?_
    exact .pure fun _ _ => id
  · refine .bind (data_simulates.weaken rests_after_address fun _ _ _ => id) fun _ => ?_
    refine .bind data_simulates fun _ => .bind stop_simulates fun _ => ?_
    exact .pure fun _ _ => id

theorem receive_bind {α : Type} (pins : Pins σ) (length : ℕ) (next : UInt8 → StateM σ α) :
    (do
      let receiveByte ← sccbReceiveByte pins
      if length = 0 then sccbNoAck pins else sccbAck pins
      next receiveByte) = sccbReceive pins (length ≠ 0) >>= next := by
  cases length <;> rfl

theorem receiveBytes_simulates {length : ℕ} :
    Simulates (Within device fun mode => mode.Begun ∧ (length = 0 → mode.Rests))
      (receiveBytes (wirePins device) length) (fetchBytes device length)
      fun _ => Within device Mode.Rests := by
  induction length with
  | zero => exact .pure fun _ _ h => ⟨⟨h.1.1, h.1.2.2 rfl⟩, h.2⟩
  | succ length ih =>
    rw [receiveBytes, receive_bind]
    refine .bind (receive_simulates.weaken (fun _ _ h => ⟨⟨h.1.1, h.1.2.1⟩, h.2⟩) ?_) fun _ =>
      .bind ih fun _ => .pure fun _ _ => id
    exact fun _ _ _ h => ⟨⟨h.1.1, h.1.2.1, fun hlast => h.1.2.2 (by simp [hlast])⟩, h.2⟩

theorem readByte_simulates (device : Device σ) {length : UInt16} (hlength : length ≠ 0) (readAddress : UInt8) :
    Simulates Idle (pinsReadByte (wirePins device) length readAddress)
      (lineReadByte device length.toNat readAddress) fun _ => Idle := by
  refine .bind start_simulates fun ok => .of_and ?_
  rintro rfl
  rw [Bool.not_true, if_neg Bool.false_ne_true]
  simp only [send_bind]
  refine .bind address_simulates fun ack => .ite (fun _ => ?_) fun _ => ?_
  · refine .bind (stop_simulates.weaken rests_after_address fun _ _ _ => id) fun _ => ?_
    exact .pure fun _ _ => id
  refine .bind (data_simulates.weaken rests_after_address fun _ _ _ => id) fun _ => ?_
  refine .bind stop_simulates fun _ => .bind start_simulates fun ok => .of_and ?_
  rintro rfl
  rw [Bool.not_true, if_neg Bool.false_ne_true]
  refine .bind address_simulates fun ack => .ite (fun hack => ?_) fun _ => ?_
  · refine .bind (stop_simulates.weaken (fun _ _ h => ⟨⟨h.1.1, h.1.2.2 (.inr ?_)⟩, h.2⟩)
      fun _ _ _ => id) fun _ => .pure fun _ _ => id
    simpa using hack
  · refine .bind (receiveBytes_simulates.weaken (fun _ _ h => ⟨⟨h.1.1, h.1.2.1, ?_⟩, h.2⟩)
      fun _ _ _ => id) fun _ => .bind stop_simulates fun _ => .pure fun _ _ => id
    exact fun hzero => absurd (UInt16.toNat_inj.mp hzero) hlength

/-! ### The sensor on wires -/

section
variable {chips : Chips} {regs : Registers}

/-- The upper seven bits of `DEV_ADR`. -/
def sensorChip : UInt8 := 0x21

/-- The bus is idle and the sensor has these registers. -/
def Sensor (line : Line Chips) (regs : Registers) : Prop :=
  ∃ chips, line = ⟨false, .silent, chips⟩ ∧ chips.memory sensorChip = some regs

theorem lineStart_run {held : Bool} {mode : Mode} : lineStart Chips.device ⟨held, mode, chips⟩ =
    (true, ⟨true, .hearing true, chips⟩) := rfl

theorem lineSend_address (hregs : chips.memory sensorChip = some regs) :
    lineSend Chips.device devAdr ⟨true, .hearing true, chips⟩ =
      (true, ⟨true, .hearing false, chips.select sensorChip⟩) := by
  have hchip : devAdr >>> 1 = sensorChip := by decide
  rw [lineSend, Chips.send_address, hchip, hregs]
  rfl

theorem lineSend_readAddress (hregs : chips.memory sensorChip = some regs) :
    lineSend Chips.device (devAdr + 1) ⟨true, .hearing true, chips⟩ =
      (true, ⟨true, .talking, chips.select sensorChip⟩) := by
  have hchip : (devAdr + 1) >>> 1 = sensorChip := by decide
  rw [lineSend, Chips.send_address, hchip, hregs]
  rfl

theorem lineWriteByte_run (reg value : UInt8) (hregs : chips.memory sensorChip = some regs) :
    ∃ after, lineWriteByte Chips.device reg value ⟨false, .silent, chips⟩ =
      (true, ⟨false, .silent, after⟩) ∧
        after.memory sensorChip = some (Function.update regs reg value) := by
  refine ⟨([value].foldl (flip Chips.write) (chips.atRegister sensorChip reg)), ?_, ?_⟩
  · rw [lineWriteByte, bind_apply, lineStart_run, bind_apply, lineSend_address hregs]
    rfl
  · rw [Chips.memory_written hregs, Function.update_self]
    rfl

theorem lineReadByte_run (reg : UInt8) (hregs : chips.memory sensorChip = some regs) :
    ∃ after, lineReadByte Chips.device 1 reg ⟨false, .silent, chips⟩ =
      ((true, [regs reg]), ⟨false, .silent, after⟩) ∧ after.memory sensorChip = some regs := by
  have hselected : (((chips.atRegister sensorChip reg).select sensorChip).memory
      ((chips.atRegister sensorChip reg).select sensorChip).current) = some regs := hregs
  have hfetch : fetchBytes Chips.device 1
      ⟨true, .talking, (chips.atRegister sensorChip reg).select sensorChip⟩ =
      ([regs reg], ⟨true, .silent, ((chips.atRegister sensorChip reg).select sensorChip).advance⟩) := by
    rw [fetchBytes, bind_apply, lineReceive, Chips.peek_talking hselected, Chips.answer_talking]
    simp only [Chips.select, Chips.atRegister, Function.update_self]
    rfl
  refine ⟨((chips.atRegister sensorChip reg).select sensorChip).advance, ?_, hregs⟩
  rw [lineReadByte, bind_apply, lineStart_run, bind_apply, lineSend_address hregs, Bool.not_true,
    if_neg Bool.false_ne_true, bind_apply, bind_apply]
  show (lineStart Chips.device >>= _) ⟨false, .silent, chips.atRegister sensorChip reg⟩ = _
  rw [bind_apply, lineStart_run, bind_apply, lineSend_readAddress
    (show (chips.atRegister sensorChip reg).memory sensorChip = some regs from hregs), Bool.not_true,
    if_neg Bool.false_ne_true, bind_apply, hfetch]
  rfl

/-! ### The functions of bsp_ov7725.c on the pins -/

/-- What these functions see of a request that the pins carry out: whether it succeeds,
and the byte that is read. -/
def pinsSccb {σ : Type} (pins : Pins σ) : Sccb σ where
  transfer
    | .write address value => do
      let ok ← pinsWriteByte pins address.toUInt16 value
      return ⟨ok, ok, ok, ok, ok, ok, 0⟩
    | .read address => do
      let (ok, bytes) ← pinsReadByte pins 1 address
      return ⟨ok, ok, ok, ok, ok, ok, bytes.headD 0⟩

theorem transfer_write {σ : Type} (pins : Pins σ) (address value : UInt8) (s : σ) :
    (pinsSccb pins).transfer (.write address value) s =
      ((fun ok => ⟨ok, ok, ok, ok, ok, ok, 0⟩) (pinsWriteByte pins address.toUInt16 value s).1,
        (pinsWriteByte pins address.toUInt16 value s).2) := rfl

theorem transfer_read {σ : Type} (pins : Pins σ) (address : UInt8) (s : σ) :
    (pinsSccb pins).transfer (.read address) s =
      ((fun r => ⟨r.1, r.1, r.1, r.1, r.1, r.1, r.2.headD 0⟩) (pinsReadByte pins 1 address s).1,
        (pinsReadByte pins 1 address s).2) := rfl

theorem sccbWriteByte_pins {σ : Type} (pins : Pins σ) (writeAddress sendByte : UInt8) :
    sccbWriteByte (pinsSccb pins) writeAddress sendByte =
      pinsWriteByte pins writeAddress.toUInt16 sendByte := by
  funext s
  rw [sccbWriteByte, bind_apply, transfer_write]
  generalize pinsWriteByte pins writeAddress.toUInt16 sendByte s = result
  rcases result with ⟨_ | _, after⟩ <;> rfl

theorem sccbReadByte_pins {σ : Type} (pins : Pins σ) (pBuffer readAddress : UInt8) :
    sccbReadByte (pinsSccb pins) pBuffer readAddress = (do
      let (ok, bytes) ← pinsReadByte pins 1 readAddress
      return (ok, if ok then bytes.headD 0 else pBuffer)) := by
  funext s
  rw [sccbReadByte, bind_apply, transfer_read, bind_apply]
  generalize pinsReadByte pins 1 readAddress s = result
  rcases result with ⟨⟨_ | _, bytes⟩, after⟩ <;> rfl

/-- Idle wires with a sensor that has these registers. -/
def SensorWires (wires : Wires Chips) (regs : Registers) : Prop :=
  ∃ chips, wires = ⟨true, true, .silent, chips⟩ ∧ chips.memory sensorChip = some regs

theorem low_byte (address : UInt8) : (address.toUInt16 &&& 0x00FF).toUInt8 = address := by
  apply UInt8.toNat_inj.mp
  have h := Nat.and_two_pow_sub_one_eq_mod address.toNat 8
  rw [UInt16.toNat_toUInt8, UInt16.toNat_and, UInt8.toNat_toUInt16]
  have hlt := address.toNat_lt
  exact (congrArg (· % 2 ^ 8) h).trans (by omega)

theorem transfer_simulates (request : Request) :
    Simulates SensorWires ((pinsSccb (wirePins Chips.device)).transfer request)
      (sensor.transfer request) fun _ => SensorWires := by
  rintro _ regs ⟨chips, rfl, hregs⟩
  cases request with
  | write address value =>
    obtain ⟨after, hrun, hafter⟩ := lineWriteByte_run address value hregs
    have hpins := writeByte_simulates Chips.device address.toUInt16 value _ _ ⟨chips, rfl, rfl⟩
    rw [low_byte, hrun] at hpins
    obtain ⟨hok, _, hwires, hline⟩ := hpins
    cases hline
    rw [transfer_write, hok, hwires]
    exact ⟨rfl, after, rfl, hafter⟩
  | read address =>
    obtain ⟨after, hrun, hafter⟩ := lineReadByte_run address hregs
    have hpins := readByte_simulates Chips.device (show (1 : UInt16) ≠ 0 by decide) address _ _ ⟨chips, rfl, rfl⟩
    rw [show (1 : UInt16).toNat = 1 from rfl, hrun] at hpins
    obtain ⟨hok, _, hwires, hline⟩ := hpins
    cases hline
    rw [transfer_read, hok, hwires]
    exact ⟨rfl, after, rfl, hafter⟩

section
variable {σ τ : Type} {sccb : Sccb σ} {sccb' : Sccb τ} {R : σ → τ → Prop}
  (h : ∀ request, Simulates R (sccb.transfer request) (sccb'.transfer request) fun _ => R)
include h

theorem simulates_write (address value : UInt8) :
    Simulates R (sccbWriteByte sccb address value) (sccbWriteByte sccb' address value)
      fun _ => R := by
  refine .bind (h _) fun answers => .ite (fun _ => ?_) fun _ => .ite (fun _ => ?_) fun _ => ?_
  all_goals exact .pure fun _ _ => id

theorem simulates_read (pBuffer address : UInt8) :
    Simulates R (sccbReadByte sccb pBuffer address) (sccbReadByte sccb' pBuffer address)
      fun _ => R := by
  refine .bind (h _) fun answers => .ite (fun _ => ?_) fun _ => .ite (fun _ => ?_) fun _ =>
    .ite (fun _ => ?_) fun _ => .ite (fun _ => ?_) fun _ => ?_
  all_goals exact .pure fun _ _ => id

theorem simulates_config (config : List (UInt8 × UInt8)) :
    Simulates R (writeConfig sccb config) (writeConfig sccb' config) fun _ => R := by
  induction config with
  | nil => exact .pure fun _ _ => id
  | cons entry config ih =>
    exact .bind (simulates_write h _ _) fun _ => .ite (fun _ => .pure fun _ _ => id) fun _ => ih

theorem simulates_init : Simulates R (ov7725Init sccb) (ov7725Init sccb') fun _ => R := by
  refine .bind (simulates_write h _ _) fun _ => .ite (fun _ => .pure fun _ _ => id) fun _ => ?_
  refine .bind (simulates_read h _ _) fun _ => .ite (fun _ => .pure fun _ _ => id) fun _ => ?_
  exact .ite (fun _ => simulates_config h _) fun _ => .pure fun _ _ => id

theorem simulates_all (settings : List (UInt8 × UInt8)) :
    Simulates R (writeAll sccb settings) (writeAll sccb' settings) fun _ => R := by
  induction settings with
  | nil => exact .pure fun _ _ => id
  | cons setting settings ih => exact .bind (simulates_write h _ _) fun _ => ih

theorem simulates_window (locals : Locals) (window : Window) :
    Simulates R (ov7725WindowSet sccb locals window) (ov7725WindowSet sccb' locals window)
      fun _ => R := by
  refine .bind (simulates_write h _ _) fun _ => .bind (simulates_read h _ _) fun _ => ?_
  refine .bind (simulates_write h _ _) fun _ => .bind (simulates_write h _ _) fun _ => ?_
  refine .bind (simulates_read h _ _) fun _ => .bind (simulates_write h _ _) fun _ => ?_
  refine .bind (simulates_write h _ _) fun _ => .bind (simulates_read h _ _) fun _ => ?_
  refine .bind (simulates_write h _ _) fun _ => .bind (simulates_write h _ _) fun _ => ?_
  refine .bind (simulates_write h _ _) fun _ => .bind (simulates_read h _ _) fun _ => ?_
  exact .bind (simulates_write h _ _) fun _ => .pure fun _ _ => id

theorem simulates_retries (left : ℕ) :
    Simulates R (initRetries sccb left) (initRetries sccb' left) fun _ => R := by
  induction left with
  | zero => exact simulates_init h
  | succ left ih =>
    exact .bind (simulates_init h) fun _ => .ite (fun _ => .pure fun _ _ => id) fun _ => ih

theorem simulates_settings (locals : Locals) (mode : CamMode) :
    Simulates R (settings sccb locals mode) (settings sccb' locals mode) fun _ => R :=
  .bind (simulates_all h _) fun _ => .bind (simulates_all h _) fun _ =>
    .bind (simulates_all h _) fun _ => .bind (simulates_all h _) fun _ =>
      .bind (simulates_all h _) fun _ => .bind (simulates_all h _) fun _ => simulates_window h _ _

theorem simulates_testInit (locals : Locals) (mode : CamMode) :
    Simulates R (myOv7725TestInit sccb locals mode) (myOv7725TestInit sccb' locals mode)
      fun _ => R :=
  .bind (simulates_retries h 5) fun _ => .ite
    (fun _ => .bind (simulates_settings h _ _) fun _ => .pure fun _ _ => id)
    fun _ => .pure fun _ _ => id

end

/-! ### From idle wires -/

/-- The registers of a sensor that answers with its identification. -/
def idRegisters : Registers := fun reg => if reg = 0x0b then ov7725Id else 0

/-- The sensor alone on the pins. -/
def oneSensor : Chips :=
  ⟨fun addr => if addr = sensorChip then some idRegisters else none, fun _ => 0, 0, false⟩

/-- Whatever device is on the wires, a write shows it a start, the address, the two
bytes if the address was acknowledged, and a stop, and leaves both wires high. -/
theorem write_on_wires {σ : Type} (device : Device σ) (writeAddress : UInt16) (sendByte : UInt8)
    (state : σ) :
    ∃ after, pinsWriteByte (wirePins device) writeAddress sendByte ⟨true, true, .silent, state⟩ =
        ((lineWriteByte device (writeAddress &&& 0x00FF).toUInt8 sendByte
          ⟨false, .silent, state⟩).1, ⟨true, true, .silent, after⟩) ∧
      (lineWriteByte device (writeAddress &&& 0x00FF).toUInt8 sendByte
        ⟨false, .silent, state⟩).2 = ⟨false, .silent, after⟩ := by
  obtain ⟨hok, after, hwires, hline⟩ :=
    writeByte_simulates device writeAddress sendByte _ _ ⟨state, rfl, rfl⟩
  exact ⟨after, Prod.ext hok hwires, hline⟩

theorem read_on_wires {σ : Type} (device : Device σ) {length : UInt16} (hlength : length ≠ 0)
    (readAddress : UInt8) (state : σ) :
    ∃ after, pinsReadByte (wirePins device) length readAddress ⟨true, true, .silent, state⟩ =
        ((lineReadByte device length.toNat readAddress ⟨false, .silent, state⟩).1,
          ⟨true, true, .silent, after⟩) ∧
      (lineReadByte device length.toNat readAddress ⟨false, .silent, state⟩).2 =
        ⟨false, .silent, after⟩ := by
  obtain ⟨hresult, after, hwires, hline⟩ :=
    readByte_simulates device hlength readAddress _ _ ⟨state, rfl, rfl⟩
  exact ⟨after, Prod.ext hresult hwires, hline⟩

theorem read_two_on_wires :
    ∃ after, pinsReadByte (wirePins Chips.device) 2 0x0A ⟨true, true, .silent, oneSensor⟩ =
        ((lineReadByte Chips.device 2 0x0A ⟨false, .silent, oneSensor⟩).1,
          ⟨true, true, .silent, after⟩) ∧
      (lineReadByte Chips.device 2 0x0A ⟨false, .silent, oneSensor⟩).2 = ⟨false, .silent, after⟩ :=
  read_on_wires Chips.device (by decide) 0x0A oneSensor

/-- The initialization and then windows. -/
def setupAndWindows {σ : Type} (sccb : Sccb σ) (locals : Locals) (mode : CamMode)
    (windows : List Window) : StateM σ RtErr := do
  let ret ← myOv7725TestInit sccb locals mode
  let _ ← windows.mapM (ov7725WindowSet sccb locals)
  return ret

/-- On the two pins the functions of bsp_ov7725.c leave in the sensor what they leave
in its registers. -/
theorem setup_on_wires (locals : Locals) (mode : CamMode) (windows : List Window) {chips : Chips}
    {regs : Registers} (hregs : chips.memory sensorChip = some regs) :
    let onWires := setupAndWindows (pinsSccb (wirePins Chips.device)) locals mode windows
      ⟨true, true, .silent, chips⟩
    let onRegisters := setupAndWindows sensor locals mode windows regs
    onWires.1 = onRegisters.1 ∧ onWires.2.state.memory sensorChip = some onRegisters.2 ∧
      onWires.2.scl = true ∧ onWires.2.line = true := by
  have hsimulates : Simulates SensorWires
      (setupAndWindows (pinsSccb (wirePins Chips.device)) locals mode windows)
      (setupAndWindows sensor locals mode windows) fun _ => SensorWires :=
    .bind (simulates_testInit transfer_simulates _ _) fun _ =>
      .bind (.mapM fun window _ => simulates_window transfer_simulates _ window) fun _ =>
        .pure fun _ _ => id
  obtain ⟨hret, after, hwires, hafter⟩ := hsimulates _ _ ⟨chips, rfl, hregs⟩
  refine ⟨hret, ?_⟩
  rw [hwires]
  exact ⟨hafter, rfl, rfl⟩

theorem setup_oneSensor :
    let onWires := setupAndWindows (pinsSccb (wirePins Chips.device)) ⟨0, 0, 0⟩ camMode
      [⟨0, 0, 320, 240, 1⟩] ⟨true, true, .silent, oneSensor⟩
    let onRegisters := setupAndWindows sensor ⟨0, 0, 0⟩ camMode [⟨0, 0, 320, 240, 1⟩] idRegisters
    onWires.1 = onRegisters.1 ∧ onWires.2.state.memory sensorChip = some onRegisters.2 ∧
      onWires.2.scl = true ∧ onWires.2.line = true :=
  setup_on_wires _ _ _ rfl

end
end
end WeatherStation.CameraSetup
