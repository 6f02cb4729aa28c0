import WeatherStation.I2cBitOps
import WeatherStation.Lib.Simulation
import WeatherStation.Lib.TwoWire

/-! The bit-banged bus on wires with a device.  The two pins are open-drain
outputs, nobody else pulls the clock, and what the functions of i2c-bit-ops.c do
to the levels is, seen by the device, whole bytes. -/
namespace WeatherStation.I2c
open Gpio Lib TwoWire

section
variable {σ : Type} (device : Device σ) (polls : ℕ)

def wiresOps : BitOps (Wires σ) where
  setSda level := modify (Wires.setSda device level)
  setScl level := modify (Wires.setScl device level)
  getSda := return (← get).line
  getScl := return (← get).scl
  polls

/-- The same operations on whole bytes. -/
def lineOps : ByteOps (Line σ) where
  start := modify (Line.start device)
  restart := modify (Line.restart device)
  stop := modify (Line.stop device)
  writeb data := fun line => ((line.send device data).1.toInt, (line.send device data).2)
  readb := fun line => ((line.peek device).toNat, line)
  sendAckOrNack ack := fun line => (rtEok, line.answer device ack)

variable {device} {polls} {wires : Wires σ} {line : Line σ} {data : UInt8}

/-! ### What the functions do to the wires -/

theorem setScl_high_scl : (wires.setScl device true).scl = true := by
  rw [Wires.setScl, if_neg (by simp)]

theorem getScl_run : (wiresOps device polls).getScl wires = (wires.scl, wires) := rfl

theorem sclH_run : sclH (wiresOps device polls) wires = (rtEok, wires.setScl device true) := by
  have hpoll (n : ℕ) : pollScl (wiresOps device polls) n (wires.setScl device true) =
      (rtEok, wires.setScl device true) := by
    cases n <;> rw [pollScl, bind_apply, getScl_run, setScl_high_scl] <;> rfl
  exact hpoll polls

theorem i2cWaitack_run : i2cWaitack (wiresOps device polls) wires =
    ((!(pulse device true wires).1).toInt, (pulse device true wires).2) := by
  rw [i2cWaitack, bind_apply, bind_apply, sclH_run]
  rfl

theorem writeLoop_run {i : ℕ} : (writeLoop (wiresOps device polls) data i wires).1 = rtEok ∧
    (writeLoop (wiresOps device polls) data i wires).2.setScl device false =
      (pulses device (toBits i data.toNat) (wires.setScl device false)).2 := by
  induction i generalizing wires with
  | zero => exact ⟨rfl, rfl⟩
  | succ i ih =>
    rw [writeLoop, bind_apply, bind_apply, bind_apply, sclH_run]
    exact ih

/-- The nine pulses of a byte to the device. -/
theorem i2cWriteb_run : i2cWriteb (wiresOps device polls) data wires =
    ((!((pulses device (byteBits data ++ [true]) (wires.setScl device false)).1.getLastD
        false)).toInt,
      (pulses device (byteBits data ++ [true]) (wires.setScl device false)).2) := by
  have ⟨hret, hlow⟩ := @writeLoop_run σ device polls wires data 8
  rw [i2cWriteb, bind_apply, hret]
  show i2cWaitack _ (Wires.setScl device false _) = _
  rw [i2cWaitack_run, hlow, pulses_append, pulses_singleton, byteBits]
  simp

theorem readLoop_run {n : ℕ} {data : UInt8} (hsda : wires.sda = true) :
    readLoop (wiresOps device polls) n data wires =
      ((((pulses device (List.replicate n true) wires).1.foldl shiftIn data).toNat : ℤ),
        (pulses device (List.replicate n true) wires).2) := by
  induction n generalizing wires data with
  | zero => rfl
  | succ n ih =>
    have hpulse : ((wires.setScl device true).line, (wires.setScl device true).setScl device false) =
        pulse device true wires := by
      rw [pulse, setSda_same hsda]
    rw [readLoop, bind_apply, sclH_run, if_neg (show ¬rtEok < 0 by decide)]
    show readLoop _ n (shiftIn data (wires.setScl device true).line)
      ((wires.setScl device true).setScl device false) = _
    rw [ih (by rw [setScl_sda, setScl_sda, hsda]), List.replicate_succ, pulses, ← hpulse]
    rfl

/-- The eight pulses of a byte from the device. -/
theorem i2cReadb_run : i2cReadb (wiresOps device polls) wires =
    (((byteOf (pulses device (byteBits 0xFF) (wires.setSda device true)).1).toNat : ℤ),
      (pulses device (byteBits 0xFF) (wires.setSda device true)).2) := by
  have hbits : byteBits 0xFF = List.replicate 8 true := by decide
  rw [hbits, ← foldl_shiftIn]
  exact readLoop_run setSda_sda

/-! ### What they come to -/

variable (device) in
/-- A byte from the device is through, its acknowledgement is not. -/
def Unanswered (wires : Wires σ) (line : Line σ) : Prop :=
  Received device wires line ∧ line.port.mode.Begun

/-- After a byte to the device. -/
def Sent (data : UInt8) (ret : Int) (mode : Mode) : Prop :=
  mode.Begun ∧ (data.toNat.testBit 0 = false ∨ ret ≠ 1 → mode.Rests)

variable (device polls) in
abbrev wiresBytes : ByteOps (Wires σ) := (wiresOps device polls).bytes

theorem start_simulates : Simulates (At device Mode.Rests) (wiresBytes device polls).start
    (lineOps device).start fun _ => Carries device :=
  fun _ _ h => ⟨rfl, h.1.start⟩

theorem restart_simulates : Simulates (At device Mode.Rests) (wiresBytes device polls).restart
    (lineOps device).restart fun _ => Carries device := by
  intro wires line h
  refine ⟨rfl, ?_⟩
  show Carries device (i2cRestart (wiresOps device polls) wires).2 _
  rw [i2cRestart, bind_apply, bind_apply, sclH_run]
  exact h.1.restart h.2.1

theorem stop_simulates : Simulates (At device Mode.Rests) (wiresBytes device polls).stop
    (lineOps device).stop fun _ => At device Mode.Rests := by
  intro wires line h
  refine ⟨rfl, ?_, Mode.rests_silent⟩
  show Carries device (i2cStop (wiresOps device polls) wires).2 _
  rw [i2cStop, bind_apply, bind_apply, sclH_run]
  exact h.1.stop h.2.1

theorem lineWriteb : (lineOps device).writeb data line =
    ((line.send device data).1.toInt, (line.send device data).2) := rfl

theorem writeb_carries (polls : ℕ) (data : UInt8) (h : Carries device wires line) :
    (i2cWriteb (wiresOps device polls) data wires).1 = (line.send device data).1.toInt ∧
      Carries device (i2cWriteb (wiresOps device polls) data wires).2
        (line.send device data).2 := by
  obtain ⟨sda, hlow⟩ := h.low
  have ⟨hack, hafter⟩ := @pulses_send σ device sda line data
  rw [i2cWriteb_run, hlow, List.getLastD_eq_getLast?, hack]
  dsimp only at hafter ⊢
  exact ⟨by rw [Option.getD_some, Bool.not_not], hafter⟩

theorem writeb_simulates : Simulates (Carries device) ((wiresBytes device polls).writeb data)
    ((lineOps device).writeb data) fun ret => At device (Sent data ret) := by
  intro wires line h
  have ⟨hret, hcarries⟩ := writeb_carries polls data h
  rw [lineWriteb]
  refine ⟨hret, hcarries, send_begun, fun hrests => send_rests (.inr (hrests.imp_right ?_))⟩
  intro hne
  rw [show ((wiresBytes device polls).writeb data wires).1 = _ from hret] at hne
  cases hack : (line.send device data).1 with
  | false => rfl
  | true => exact absurd (by rw [hack]; rfl) hne

theorem writeb_data_simulates : Simulates (At device Mode.Rests)
    ((wiresBytes device polls).writeb data) ((lineOps device).writeb data)
    fun _ => At device Mode.Rests := by
  intro wires line h
  have ⟨hret, hcarries⟩ := writeb_carries polls data h.1
  rw [lineWriteb]
  exact ⟨hret, hcarries, send_rests (.inl h.2.2)⟩

theorem lineReadb : (lineOps device).readb line = (((line.peek device).toNat : ℤ), line) := rfl

theorem readb_simulates : Simulates (At device Mode.Begun) (wiresBytes device polls).readb
    (lineOps device).readb fun val wires line => 0 ≤ val ∧ Unanswered device wires line := by
  rintro wires line ⟨hcarries, hbegun⟩
  have hpeek : byteOf (pulses device (byteBits 0xFF) (wires.setSda device true)).1 =
      line.peek device ∧
      Received device (pulses device (byteBits 0xFF) (wires.setSda device true)).2 line := by
    cases hcarries with
    | held sda port => exact pulses_peek setSda_low
    | idle state => 
      -- the clock that is high already takes the place of the first rise
      exact @pulses_peek σ device (Port.wires device true ⟨.silent, state⟩) true
        ⟨false, .silent, state⟩ rfl
  have hrun := @i2cReadb_run σ device polls wires
  rw [hpeek.1] at hrun
  rw [lineReadb, show (wiresBytes device polls).readb wires = _ from hrun]
  exact ⟨rfl, Int.natCast_nonneg _, hpeek.2, hbegun⟩

theorem i2cSendAckOrNack_run {ack : Bool} (hsda : wires.sda = true) :
    i2cSendAckOrNack (wiresOps device polls) ack wires = (rtEok, (pulse device (!ack) wires).2) := by
  have hrest (w : Wires σ) : (do
      if (← sclH (wiresOps device polls)) < 0 then return -rtEtimeout
      else
        (wiresOps device polls).setScl false
        return rtEok : StateM (Wires σ) RtErr) w =
      (rtEok, (w.setScl device true).setScl device false) := by
    rw [bind_apply, sclH_run]
    rfl
  cases ack with
  | false =>
    rw [i2cSendAckOrNack, if_neg Bool.false_ne_true, Bool.not_false, pulse, setSda_same hsda]
    exact hrest wires
  | true =>
    rw [i2cSendAckOrNack, if_pos rfl]
    exact hrest (wires.setSda device false)

theorem sendAckOrNack_simulates {ack : Bool} : Simulates (Unanswered device)
    ((wiresBytes device polls).sendAckOrNack ack) ((lineOps device).sendAckOrNack ack)
    fun val wires line => val = rtEok ∧ At device Mode.Begun wires line ∧
      (ack = false → line.port.mode.Rests) := by
  rintro wires line ⟨⟨hsda, -, hpulse⟩, hbegun⟩
  have hrun := @i2cSendAckOrNack_run σ device polls wires ack hsda
  rw [show (wiresBytes device polls).sendAckOrNack ack wires = _ from hrun,
    show (lineOps device).sendAckOrNack ack line = (rtEok, line.answer device ack) from rfl]
  refine ⟨rfl, rfl, ⟨?_, answer_begun hbegun⟩, ?_⟩
  · rw [hpulse]
    exact .held _ _
  · rintro rfl
    exact answer_rests hbegun

/-! ### Messages -/

/-- Received bytes are acknowledged, and there are some. -/
def Msg.Regular (msg : Msg) : Prop :=
  msg.has rtI2cNoReadAck = false ∧ (msg.has rtI2cRd → msg.buf ≠ [])

instance (msg : Msg) : Decidable msg.Regular := inferInstanceAs (Decidable (_ ∧ _))

variable {msg : Msg}

theorem sendBytes_simulates {rest : List UInt8} {bytes : ℕ} :
    Simulates (At device Mode.Rests) (i2cSendBytes (wiresBytes device polls) msg rest bytes)
      (i2cSendBytes (lineOps device) msg rest bytes) fun _ => At device Mode.Rests := by
  induction rest generalizing bytes with
  | nil => exact .pure fun _ _ h => h
  | cons data rest ih =>
    refine .bind writeb_data_simulates fun ret => .ite (fun _ => ih) fun _ => .ite ?_ ?_
    · exact fun _ => .pure fun _ _ h => h
    · exact fun _ => .pure fun _ _ h => h

theorem recvBytes_simulates {count : ℕ} {data : List UInt8} (hmsg : msg.has rtI2cNoReadAck = false) :
    Simulates (At device fun mode => mode.Begun ∧ (count = 0 → mode.Rests))
      (i2cRecvBytes (wiresBytes device polls) msg count data)
      (i2cRecvBytes (lineOps device) msg count data) fun _ => At device Mode.Rests := by
  induction count generalizing data with
  | zero => exact .pure fun _ _ h => ⟨h.1, h.2.2 rfl⟩
  | succ count ih =>
    refine .bind (readb_simulates.weaken (fun _ _ h => ⟨h.1, h.2.1⟩) fun _ _ _ => id) fun val => ?_
    refine .ite (fun hval _ _ h => absurd h.1 (by omega)) fun _ => ?_
    rw [hmsg, if_neg Bool.false_ne_true, if_neg Bool.false_ne_true]
    refine .bind (sendAckOrNack_simulates.weaken (fun _ _ h => h.2) fun _ _ _ => id) fun ret => ?_
    refine .ite (fun hret _ _ h => absurd h.1 (by rintro rfl; exact absurd hret (by decide)))
      fun _ => ih.weaken (fun _ _ h => ⟨h.2.1.1, h.2.1.2, fun hcount => h.2.2 ?_⟩) fun _ _ _ => id
    simp [hcount]

theorem sendAddress_simulates {addr : UInt8} {retries : ℕ} :
    Simulates (Carries device) (i2cSendAddress (wiresBytes device polls) addr retries)
      (i2cSendAddress (lineOps device) addr retries) fun ret => At device (Sent addr ret) := by
  induction retries with
  | zero => exact writeb_simulates
  | succ retries ih =>
    refine .bind writeb_simulates fun ret => .ite (fun hret => ?_) fun hret => ?_
    · exact .pure fun _ _ h => h
    · refine .bind (stop_simulates.weaken (fun _ _ h => ⟨h.1, h.2.2 (.inr hret)⟩) fun _ _ _ => id)
        fun _ => .bind start_simulates fun _ => ih

theorem addr1_even (h : msg.has rtI2cRd = false) : msg.addr1.toNat.testBit 0 = false := by
  rw [Msg.addr1, h, if_neg Bool.false_ne_true, UInt16.toNat_toUInt8, UInt16.toNat_shiftLeft,
    UInt16.toNat_one, Nat.shiftLeft_eq, Nat.testBit_zero, show 2 ^ (1 % 16) = 2 from rfl]
  simp

theorem addr10_even : msg.addr10.toNat.testBit 0 = false := by
  rw [Msg.addr10, UInt8.toNat_or, Nat.testBit_or, UInt16.toNat_toUInt8, UInt16.toNat_and]
  simp

/-- The address of a message to read leaves the device talking, if it answers. -/
def Addressed (msg : Msg) (ret : RtErr) (mode : Mode) : Prop :=
  mode.Begun ∧ (msg.has rtI2cRd = false ∨ ret ≠ rtEok → mode.Rests)

theorem bitSendAddress_simulates {retries : ℕ} :
    Simulates (Carries device) (i2cBitSendAddress (wiresBytes device polls) retries msg)
      (i2cBitSendAddress (lineOps device) retries msg) fun ret => At device (Addressed msg ret) := by
  refine .ite (fun _ => ?_) fun _ => ?_
  · -- ten bits
    refine .bind sendAddress_simulates fun ret => .ite (fun _ => ?_) fun _ => ?_
    · exact .pure fun _ _ h => ⟨h.1, h.2.1, fun _ => h.2.2 (.inl addr10_even)⟩
    refine .bind (writeb_data_simulates.weaken (fun _ _ h => ⟨h.1, h.2.2 (.inl addr10_even)⟩)
      fun _ _ _ => id) fun ret => .ite (fun _ => ?_) fun _ => .ite (fun hrd => ?_) fun _ => ?_
    · exact .pure fun _ _ h => ⟨h.1, h.2.2, fun _ => h.2⟩
    · refine .bind restart_simulates fun _ => .bind sendAddress_simulates fun ret =>
        .ite (fun hret => ?_) fun _ => ?_
      · exact .pure fun _ _ h => ⟨h.1, h.2.1, fun _ => h.2.2 (.inr hret.1)⟩
      · exact .pure fun _ _ h => ⟨h.1, h.2.1, by simp [hrd]⟩
    · exact .pure fun _ _ h => ⟨h.1, h.2.2, fun _ => h.2⟩
  · -- seven
    refine .bind sendAddress_simulates fun ret => .ite (fun hret => ?_) fun _ => ?_
    · exact .pure fun _ _ h => ⟨h.1, h.2.1, fun _ => h.2.2 (.inr hret.1)⟩
    · refine .pure fun _ _ h => ⟨h.1, h.2.1, fun hrests => h.2.2 (.inl ?_)⟩
      exact addr1_even (hrests.resolve_right (by simp))

theorem begin_simulates {retries : ℕ} {first : Bool} :
    Simulates (At device Mode.Rests) (i2cBegin (wiresBytes device polls) retries first msg)
      (i2cBegin (lineOps device) retries first msg) fun ret => At device (Addressed msg ret) := by
  refine .ite (fun _ => .pure fun _ _ h => ⟨h.1, h.2.2, fun _ => h.2⟩) fun _ => ?_
  cases first with
  | true => exact .bind start_simulates fun _ => bitSendAddress_simulates
  | false => exact .bind restart_simulates fun _ => bitSendAddress_simulates

theorem msgXfer_simulates {retries : ℕ} {first : Bool} (hmsg : msg.Regular) :
    Simulates (At device Mode.Rests) (i2cMsgXfer (wiresBytes device polls) retries first msg)
      (i2cMsgXfer (lineOps device) retries first msg) fun _ => At device Mode.Rests := by
  refine .bind begin_simulates fun ret => .ite (fun hret => ?_) fun _ => .ite (fun hrd => ?_)
    fun hrd => ?_
  · exact .pure fun _ _ h => ⟨h.1, h.2.2 (.inr hret.1)⟩
  · refine .bind ((recvBytes_simulates hmsg.1).weaken (fun _ _ h => ⟨h.1, h.2.1, ?_⟩) fun _ _ _ => id)
      fun result => .ite ?_ ?_
    · exact fun hlen => absurd (List.length_eq_zero_iff.mp hlen) (hmsg.2 hrd)
    · exact fun _ => .pure fun _ _ h => h
    · exact fun _ => .pure fun _ _ h => h
  · refine .bind (sendBytes_simulates.weaken (fun _ _ h => ⟨h.1, h.2.2 (.inl ?_)⟩) fun _ _ _ => id)
      fun ret => .ite ?_ ?_
    · exact Bool.eq_false_iff.mpr hrd
    · exact fun _ => .pure fun _ _ h => h
    · exact fun _ => .pure fun _ _ h => h

theorem out_simulates : Simulates (At device Mode.Rests) (i2cOut (wiresBytes device polls) msg)
    (i2cOut (lineOps device) msg) fun _ => At device Mode.Rests :=
  .ite (fun _ => .pure fun _ _ h => h) fun _ => stop_simulates

theorem xferLoop_simulates {retries i : ℕ} {msgs : List Msg} (hmsgs : ∀ msg ∈ msgs, msg.Regular) :
    Simulates (At device Mode.Rests) (i2cXferLoop (wiresBytes device polls) retries i msgs)
      (i2cXferLoop (lineOps device) retries i msgs) fun _ => At device Mode.Rests := by
  induction msgs generalizing i with
  | nil => exact .pure fun _ _ h => h
  | cons msg rest ih =>
    obtain ⟨hmsg, hrest⟩ := List.forall_mem_cons.mp hmsgs
    refine .bind (msgXfer_simulates hmsg) ?_
    rintro ⟨_ | ret, data⟩
    · refine .ite (fun _ => ?_) fun _ => ?_
      · exact .bind out_simulates fun _ => .pure fun _ _ h => h
      · exact .bind (ih hrest) fun _ => .pure fun _ _ h => h
    · exact .bind out_simulates fun _ => .pure fun _ _ h => h

theorem transfer_simulates {retries : ℕ} {msgs : List Msg} (hmsgs : ∀ msg ∈ msgs, msg.Regular) :
    Simulates (At device Mode.Rests) ((bitBus (wiresBytes device polls) retries).rtI2cTransfer msgs)
      ((bitBus (lineOps device) retries).rtI2cTransfer msgs) fun _ => At device Mode.Rests :=
  .bind (xferLoop_simulates hmsgs) fun _ => .pure fun _ _ h => h

/-- From an idle bus a transfer returns on the wires, to the bit, what it returns on
whole bytes, and leaves the wires and the device as the bytes would. -/
theorem transfer_on_wires (device : Device σ) (polls retries : ℕ) (state : σ) {msgs : List Msg}
    (hmsgs : ∀ msg ∈ msgs, msg.Regular) :
    let wires := (bitBus (wiresBytes device polls) retries).rtI2cTransfer msgs
      ⟨true, true, .silent, state⟩
    let line := (bitBus (lineOps device) retries).rtI2cTransfer msgs ⟨false, ⟨.silent, state⟩⟩
    wires.1 = line.1 ∧ Carries device wires.2 line.2 :=
  have ⟨hresult, hat⟩ := transfer_simulates hmsgs _ _ ⟨.idle state, Mode.rests_silent⟩
  ⟨hresult, hat.1⟩

end
end WeatherStation.I2c
