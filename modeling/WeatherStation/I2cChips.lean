import WeatherStation.BusLog
import WeatherStation.I2cWires
import WeatherStation.Lib.RegisterChips

/-! Register accesses of the drivers on the wires.  What they come to, seen from the
chips: whole registers, and a clock that a failed write of the BME280 leaves low. -/
namespace WeatherStation.I2c
open Gpio Lib TwoWire

/-! ### Bytes for the chips -/

section
variable {chips : Chips} {held : Bool} {data : UInt8} {msg : Msg}

abbrev chipOps : ByteOps (Line Chips) := lineOps Chips.device

theorem writeb_hearing : chipOps.writeb data ⟨held, .hearing false, chips⟩ =
    (1, ⟨true, .hearing false, chips.write data⟩) := rfl

theorem sendBytes_hearing {rest : List UInt8} {bytes : ℕ} :
    i2cSendBytes chipOps msg rest bytes ⟨true, .hearing false, chips⟩ =
      (((bytes + rest.length : ℕ) : ℤ), ⟨true, .hearing false, rest.foldl (flip Chips.write) chips⟩) := by
  induction rest generalizing bytes chips with
  | nil => rfl
  | cons data rest ih =>
    rw [i2cSendBytes, bind_apply, writeb_hearing, if_pos (.inl Int.one_pos), ih, List.length_cons,
      Nat.add_right_comm, Nat.add_assoc]
    rfl

theorem readb_talking {regs : UInt8 → UInt8} (hregs : chips.memory chips.current = some regs) :
    chipOps.readb ⟨held, .talking, chips⟩ =
      (((regs (chips.pointer chips.current)).toNat : ℤ), ⟨held, .talking, chips⟩) := by
  rw [lineReadb, Chips.peek_talking hregs]

theorem sendAckOrNack_talking {ack : Bool} : chipOps.sendAckOrNack ack ⟨held, .talking, chips⟩ =
    (rtEok, ⟨true, if ack then .talking else .silent, chips.advance⟩) :=
  congrArg (rtEok, ·) Chips.answer_talking

theorem recvBytes_talking {count : ℕ} {received : List UInt8} {regs : UInt8 → UInt8}
    (hmsg : msg.has rtI2cNoReadAck = false) (hregs : chips.memory chips.current = some regs) :
    i2cRecvBytes chipOps msg (count + 1) received ⟨true, .talking, chips⟩ =
      ((((received.length + (count + 1) : ℕ) : ℤ),
        received ++ load regs (chips.pointer chips.current) (count + 1)),
        ⟨true, .silent, Chips.advance^[count + 1] chips⟩) := by
  induction count generalizing received chips with
  | zero =>
    rw [i2cRecvBytes, bind_apply, readb_talking hregs, if_neg (by simp), hmsg,
      if_neg Bool.false_ne_true, bind_apply, sendAckOrNack_talking]
    simp [i2cRecvBytes, load, rtEok, pure_apply]
  | succ count ih =>
    rw [i2cRecvBytes, bind_apply, readb_talking hregs, if_neg (by simp), hmsg,
      if_neg Bool.false_ne_true, bind_apply, sendAckOrNack_talking]
    dsimp only
    rw [if_neg (by decide), if_pos (by simp)]
    have hadvance : chips.advance.pointer chips.current = chips.pointer chips.current + 1 :=
      Function.update_self ..
    rw [ih (show chips.advance.memory chips.advance.current = some regs from hregs), show chips.advance.current = chips.current from rfl,
      hadvance, show load regs (chips.pointer chips.current) (count + 1 + 1) =
        regs (chips.pointer chips.current) ::
          load regs (chips.pointer chips.current + 1) (count + 1) from rfl]
    simp [Nat.add_assoc, Nat.add_comm 1, UInt8.ofNat_toNat]

/-! ### Addresses -/

theorem addr1_toNat : msg.addr1.toNat =
    2 * (msg.addr.toNat % 128) + (msg.has rtI2cRd).toNat := by
  have hshift : (msg.addr <<< 1).toUInt8.toNat = (msg.addr.toNat % 128) <<< 1 := by
    rw [UInt16.toNat_toUInt8, UInt16.toNat_shiftLeft, UInt16.toNat_one, Nat.shiftLeft_eq,
      Nat.shiftLeft_eq, show 2 ^ (1 % 16) = 2 from rfl]
    omega
  cases hrd : msg.has rtI2cRd with
  | false => rw [Msg.addr1, hrd, if_neg Bool.false_ne_true, hshift, Nat.shiftLeft_eq, Nat.mul_comm]; rfl
  | true =>
    rw [Msg.addr1, hrd, if_pos rfl, UInt8.toNat_or, hshift, UInt8.toNat_one,
      ← Nat.shiftLeft_add_eq_or_of_lt (by decide), Nat.shiftLeft_eq, Nat.mul_comm]
    rfl

/-- The address that the chips hear. -/
def Msg.chip (msg : Msg) : UInt8 := msg.addr.toUInt8 &&& 0x7F

theorem chip_toNat : msg.chip.toNat = msg.addr.toNat % 128 := by
  have h := Nat.and_two_pow_sub_one_eq_mod msg.addr.toUInt8.toNat 7
  rw [Msg.chip, UInt8.toNat_and]
  rw [UInt16.toNat_toUInt8] at h ⊢
  exact h.trans (by omega)

theorem addr1_shift : msg.addr1 >>> 1 = msg.chip := by
  apply UInt8.toNat_inj.mp
  rw [UInt8.toNat_shiftRight, addr1_toNat, chip_toNat, UInt8.toNat_one, Nat.shiftRight_eq_div_pow,
    show 2 ^ (1 % 8) = 2 from rfl]
  cases msg.has rtI2cRd
  · simp
  · simp
    omega

theorem addr1_testBit : msg.addr1.toNat.testBit 0 = msg.has rtI2cRd := by
  rw [Nat.testBit_zero, addr1_toNat]
  cases msg.has rtI2cRd <;> simp

/-- A 7-bit address, and what the chips answer is looked at. -/
def Msg.Plain (msg : Msg) : Prop :=
  msg.has rtI2cAddr10bit = false ∧ msg.has rtI2cIgnoreNack = false ∧
    msg.has rtI2cNoReadAck = false

instance (msg : Msg) : Decidable msg.Plain := inferInstanceAs (Decidable (_ ∧ _ ∧ _))

/-- Which way the data of a message goes. -/
def Msg.mode (msg : Msg) : Mode := if msg.has rtI2cRd then .talking else .hearing false

theorem bitSendAddress_seven (hmsg : msg.Plain) {line : Line Chips} :
    i2cBitSendAddress chipOps 0 msg line =
      (if (line.send Chips.device msg.addr1).1 then rtEok else -rtEio,
        (line.send Chips.device msg.addr1).2) := by
  rw [i2cBitSendAddress, hmsg.1, if_neg Bool.false_ne_true, hmsg.2.1, if_neg Bool.false_ne_true,
    bind_apply, i2cSendAddress, lineWriteb]
  cases (line.send Chips.device msg.addr1).1 <;> rfl

theorem bitSendAddress_hearing (hmsg : msg.Plain) :
    i2cBitSendAddress chipOps 0 msg ⟨true, .hearing true, chips⟩ =
      if (chips.memory msg.chip).isSome then (rtEok, ⟨true, msg.mode, chips.select msg.chip⟩)
      else (-rtEio, ⟨true, .silent, chips.select msg.chip⟩) := by
  have hsend : Line.send Chips.device msg.addr1 ⟨true, .hearing true, chips⟩ =
      ((chips.memory msg.chip).isSome, ⟨true,
        .afterHearing true msg.addr1 (chips.memory msg.chip).isSome, chips.select msg.chip⟩) := by
    rw [Chips.send_address, addr1_shift]
  rw [bitSendAddress_seven hmsg, hsend]
  cases (chips.memory msg.chip).isSome with
  | false => rfl
  | true =>
    simp only [Mode.afterHearing, if_true, Bool.true_and, addr1_testBit]
    rfl

/-- A start that the chips did not hear. -/
theorem bitSendAddress_silent (hmsg : msg.Plain) :
    i2cBitSendAddress chipOps 0 msg ⟨true, .silent, chips⟩ = (-rtEio, ⟨true, .silent, chips⟩) :=
  bitSendAddress_seven hmsg

/-! ### Messages -/

theorem begin_heard {first held : Bool} {mode : Mode} (hstart : msg.has rtI2cNoStart = false)
    (hheld : first = true → held = false) :
    i2cBegin chipOps 0 first msg ⟨held, mode, chips⟩ =
      i2cBitSendAddress chipOps 0 msg ⟨true, .hearing true, chips⟩ := by
  rw [i2cBegin, hstart]
  cases first with
  | true => rw [hheld rfl]; rfl
  | false => rfl

theorem begin_unheard (hstart : msg.has rtI2cNoStart = false) :
    i2cBegin chipOps 0 true msg ⟨true, .silent, chips⟩ =
      i2cBitSendAddress chipOps 0 msg ⟨true, .silent, chips⟩ := by
  rw [i2cBegin, hstart]
  rfl

theorem begin_noStart {first : Bool} {line : Line Chips} (hstart : msg.has rtI2cNoStart = true) :
    i2cBegin chipOps 0 first msg line = (rtEok, line) := by
  rw [i2cBegin, hstart]
  rfl

variable {first : Bool} {line line' : Line Chips} {ret : RtErr}

theorem msgXfer_error (h : i2cBegin chipOps 0 first msg line = (ret, line')) (hret : ret ≠ rtEok)
    (hmsg : msg.Plain) : i2cMsgXfer chipOps 0 first msg line = ((some ret, []), line') := by
  rw [i2cMsgXfer, bind_apply, h, if_pos ⟨hret, by simp [hmsg.2.1]⟩]
  rfl

theorem msgXfer_write (h : i2cBegin chipOps 0 first msg line = (rtEok, ⟨true, .hearing false, chips⟩))
    (hwr : msg.has rtI2cRd = false) :
    i2cMsgXfer chipOps 0 first msg line =
      ((none, []), ⟨true, .hearing false, msg.buf.foldl (flip Chips.write) chips⟩) := by
  rw [i2cMsgXfer, bind_apply, h, if_neg (by simp), hwr, if_neg Bool.false_ne_true, bind_apply,
    sendBytes_hearing, if_neg (by simp)]
  rfl

theorem msgXfer_read {regs : UInt8 → UInt8} (h : i2cBegin chipOps 0 first msg line =
      (rtEok, ⟨true, .talking, chips⟩)) (hrd : msg.has rtI2cRd = true) (hmsg : msg.Plain)
    (hbuf : msg.buf ≠ []) (hregs : chips.memory chips.current = some regs) :
    i2cMsgXfer chipOps 0 first msg line =
      ((none, load regs (chips.pointer chips.current) msg.buf.length),
        ⟨true, .silent, Chips.advance^[msg.buf.length] chips⟩) := by
  have ⟨count, hcount⟩ := Nat.exists_eq_succ_of_ne_zero
    (fun h => hbuf (List.length_eq_zero_iff.mp h))
  rw [i2cMsgXfer, bind_apply, h, if_neg (by simp), hrd, if_pos rfl, bind_apply, hcount,
    recvBytes_talking hmsg.2.2 hregs]
  dsimp only
  rw [if_neg (by simp)]
  rfl

/-! ### Transfers -/

theorem xferLoop_error {retries i : ℕ} {rest : List Msg} {received : List UInt8}
    (h : i2cMsgXfer chipOps retries (i = 0) msg line = ((some ret, received), line')) :
    i2cXferLoop chipOps retries i (msg :: rest) line =
      ((ret, received), (i2cOut chipOps msg line').2) := by
  rw [i2cXferLoop, bind_apply, h]
  rfl

theorem xferLoop_last {retries i : ℕ} {received : List UInt8}
    (h : i2cMsgXfer chipOps retries (i = 0) msg line = ((none, received), line')) :
    i2cXferLoop chipOps retries i [msg] line =
      ((((i + 1 : ℕ) : ℤ), received), (i2cOut chipOps msg line').2) := by
  rw [i2cXferLoop, bind_apply, h]
  rfl

theorem xferLoop_next {retries i : ℕ} {next : Msg} {rest : List Msg} {received : List UInt8}
    (h : i2cMsgXfer chipOps retries (i = 0) msg line = ((none, received), line')) :
    i2cXferLoop chipOps retries i (msg :: next :: rest) line =
      (((i2cXferLoop chipOps retries (i + 1) (next :: rest) line').1.1,
        received ++ (i2cXferLoop chipOps retries (i + 1) (next :: rest) line').1.2),
        (i2cXferLoop chipOps retries (i + 1) (next :: rest) line').2) := by
  rw [i2cXferLoop, bind_apply, h]
  rfl

theorem out_stop {mode : Mode} (hstop : msg.has rtI2cNoStop = false) :
    (i2cOut chipOps msg ⟨true, mode, chips⟩).2 = ⟨false, .silent, chips⟩ := by
  rw [i2cOut, hstop]
  rfl

theorem out_noStop {line : Line Chips} (hstop : msg.has rtI2cNoStop = true) :
    (i2cOut chipOps msg line).2 = line := by
  rw [i2cOut, hstop]
  rfl

theorem xferLoop_unheard {rest : List Msg} (hmsg : msg.Plain)
    (hstart : msg.has rtI2cNoStart = false) :
    i2cXferLoop chipOps 0 0 (msg :: rest) ⟨true, .silent, chips⟩ =
      ((-rtEio, []), (i2cOut chipOps msg ⟨true, .silent, chips⟩).2) := by
  apply xferLoop_error
  apply msgXfer_error _ (by decide) hmsg
  rw [decide_eq_true rfl, begin_unheard hstart, bitSendAddress_silent hmsg]

theorem xferLoop_absent {rest : List Msg} (hmsg : msg.Plain)
    (hstart : msg.has rtI2cNoStart = false) (habsent : chips.memory msg.chip = none) :
    i2cXferLoop chipOps 0 0 (msg :: rest) ⟨false, .silent, chips⟩ =
      ((-rtEio, []), (i2cOut chipOps msg ⟨true, .silent, chips.select msg.chip⟩).2) := by
  apply xferLoop_error
  apply msgXfer_error _ (by decide) hmsg
  rw [begin_heard hstart fun _ => rfl, bitSendAddress_hearing hmsg, habsent]
  rfl

theorem msgXfer_select {regs : UInt8 → UInt8} {first held : Bool} {mode : Mode} (hmsg : msg.Plain)
    (hstart : msg.has rtI2cNoStart = false) (hwr : msg.has rtI2cRd = false)
    (hheld : first = true → held = false) (hregs : chips.memory msg.chip = some regs) :
    i2cMsgXfer chipOps 0 first msg ⟨held, mode, chips⟩ = ((none, []), ⟨true, .hearing false,
      msg.buf.foldl (flip Chips.write) (chips.select msg.chip)⟩) := by
  apply msgXfer_write _ hwr
  rw [begin_heard hstart hheld, bitSendAddress_hearing hmsg, hregs, Msg.mode, hwr]
  rfl

/-! ### Accesses -/

/-- What the drivers know of the bus: the registers of the chips, and whether a
transfer has left the clock low. -/
structure Station where
  memory : Memory
  held : Bool

namespace Station
variable (addr reg : UInt8) (data buf : List UInt8)

/-- A transfer that ends with a stop.  After one that did not it fails, and frees
the clock. -/
def plain {α : Type} (failed : α) (access : (UInt8 → UInt8) → α × (UInt8 → UInt8)) :
    StateM Station α := fun s =>
  match s.held, s.memory (addr &&& 0x7F) with
  | true, _ => (failed, { s with held := false })
  | false, none => (failed, s)
  | false, some regs =>
    ((access regs).1,
      { s with memory := Function.update s.memory (addr &&& 0x7F) (some (access regs).2) })

def writeReg : StateM Station RtErr :=
  plain addr (-rtError) fun regs => (rtEok, store regs reg data)

def readRegs : StateM Station (RtErr × List UInt8) :=
  plain addr (-rtError, buf) fun regs => ((rtEok, load regs reg buf.length), regs)

/-- A transfer whose first message has no stop of its own. -/
def transferWrite : StateM Station RtErr := fun s =>
  match s.held, s.memory (addr &&& 0x7F) with
  | true, _ => (-rtError, s)
  | false, none => (-rtError, { s with held := true })
  | false, some regs =>
    (rtEok,
      { s with memory := Function.update s.memory (addr &&& 0x7F) (some (store regs reg data)) })

variable {addr reg data buf} {memory : Memory} {regs : UInt8 → UInt8} {α : Type} {failed : α}
  {access : (UInt8 → UInt8) → α × (UInt8 → UInt8)}

theorem plain_absent (h : memory (addr &&& 0x7F) = none) :
    plain addr failed access ⟨memory, false⟩ = (failed, ⟨memory, false⟩) := by
  simp only [plain, h]

theorem plain_present (h : memory (addr &&& 0x7F) = some regs) :
    plain addr failed access ⟨memory, false⟩ = ((access regs).1,
      ⟨Function.update memory (addr &&& 0x7F) (some (access regs).2), false⟩) := by
  simp only [plain, h]

theorem transferWrite_absent (h : memory (addr &&& 0x7F) = none) :
    transferWrite addr reg data ⟨memory, false⟩ = (-rtError, ⟨memory, true⟩) := by
  simp only [transferWrite, h]

theorem transferWrite_present (h : memory (addr &&& 0x7F) = some regs) :
    transferWrite addr reg data ⟨memory, false⟩ = (rtEok,
      ⟨Function.update memory (addr &&& 0x7F) (some (store regs reg data)), false⟩) := by
  simp only [transferWrite, h]

end Station

/-- Between two accesses. -/
def Settled (line : Line Chips) (s : Station) : Prop :=
  ∃ chips, line = ⟨s.held, .silent, chips⟩ ∧ chips.memory = s.memory

variable {addr reg data : UInt8} {dev : RtDevice} {buf : List UInt8}

theorem chip_addr {flags : UInt16} : (Msg.mk addr.toUInt16 flags buf).chip = addr &&& 0x7F := by
  rw [Msg.chip, UInt8.toUInt8_toUInt16]

theorem has_of {addr flags flag : UInt16} {b : Bool} (h : decide (flags &&& flag ≠ 0) = b) :
    (Msg.mk addr flags buf).has flag = b := h

theorem plain_wr : (Msg.mk addr.toUInt16 rtI2cWr buf).Plain :=
  ⟨has_of (by decide), has_of (by decide), has_of (by decide)⟩

theorem plain_rd : (Msg.mk addr.toUInt16 rtI2cRd buf).Plain :=
  ⟨has_of (by decide), has_of (by decide), has_of (by decide)⟩

theorem xferLoop_two {first second : Msg} {received : List UInt8} {line line' line'' : Line Chips}
    (hfirst : i2cMsgXfer chipOps 0 true first line = ((none, []), line'))
    (hsecond : i2cMsgXfer chipOps 0 false second line' = ((none, received), line'')) :
    i2cXferLoop chipOps 0 0 [first, second] line =
      ((2, received), (i2cOut chipOps second line'').2) := by
  have hlast := xferLoop_last (i := 1) hsecond
  rw [xferLoop_next hfirst, hlast]
  rfl

theorem transfer_run {msgs : List Msg} {ret : Int} {received : List UInt8} {line line' : Line Chips}
    (h : i2cXferLoop chipOps 0 0 msgs line = ((ret, received), line')) :
    (bitBus chipOps 0).rtI2cTransfer msgs line = (⟨(ret % 2 ^ 32).toNat, received⟩, line') := by
  show (i2cXferLoop chipOps 0 0 msgs >>= _) line = _
  rw [bind_apply, h]
  rfl

theorem writeReg_simulates (hdev : dev.type = .i2cBus) :
    Simulates Settled (writeReg (bitBus chipOps 0) dev addr reg data)
      (Station.writeReg addr reg [data]) fun _ => Settled := by
  rintro _ ⟨memory, held⟩ ⟨chips, rfl, rfl⟩
  cases held with
  | true =>
    rw [writeReg_run hdev (transfer_run (xferLoop_unheard plain_wr (has_of (by decide)))),
      out_stop (has_of (by decide))]
    exact ⟨rfl, chips, rfl, rfl⟩
  | false =>
    cases hregs : chips.memory (addr &&& 0x7F) with
    | none =>
      rw [writeReg_run hdev (transfer_run (xferLoop_absent plain_wr (has_of (by decide))
        (chip_addr ▸ hregs))), out_stop (has_of (by decide)), Station.writeReg,
        Station.plain_absent hregs]
      exact ⟨rfl, _, rfl, rfl⟩
    | some regs =>
      rw [writeReg_run hdev (transfer_run (xferLoop_last (msgXfer_select plain_wr
        (has_of (by decide)) (has_of (by decide)) (fun _ => rfl) (chip_addr ▸ hregs)))),
        out_stop (has_of (by decide)), Station.writeReg, Station.plain_present hregs]
      refine ⟨rfl, _, rfl, ?_⟩
      rw [Chips.foldl_select, chip_addr, Chips.memory_written hregs]

theorem readMsg_run {regs : UInt8 → UInt8} {held : Bool} {mode : Mode} (hbuf : buf ≠ [])
    (hregs : chips.memory (addr &&& 0x7F) = some regs) :
    i2cMsgXfer chipOps 0 false ⟨addr.toUInt16, rtI2cRd, buf⟩
        ⟨held, mode, chips.atRegister (addr &&& 0x7F) reg⟩ =
      ((none, load regs reg buf.length), ⟨true, .silent, Chips.advance^[buf.length]
        ((chips.atRegister (addr &&& 0x7F) reg).select
          (Msg.mk addr.toUInt16 rtI2cRd buf).chip)⟩) := by
  have hrd : (Msg.mk addr.toUInt16 rtI2cRd buf).has rtI2cRd = true := has_of (by decide)
  have hbegin : i2cBegin chipOps 0 false ⟨addr.toUInt16, rtI2cRd, buf⟩
      ⟨held, mode, chips.atRegister (addr &&& 0x7F) reg⟩ = (rtEok, ⟨true, .talking,
        (chips.atRegister (addr &&& 0x7F) reg).select (Msg.mk addr.toUInt16 rtI2cRd buf).chip⟩) := by
    rw [begin_heard (has_of (by decide)) (fun h => absurd h Bool.false_ne_true),
      bitSendAddress_hearing plain_rd, chip_addr, Msg.mode, hrd]
    simp only [Chips.atRegister, hregs]
    rfl
  have hcurrent : ((chips.atRegister (addr &&& 0x7F) reg).select
      (Msg.mk addr.toUInt16 rtI2cRd buf).chip).current = addr &&& 0x7F := chip_addr
  rw [msgXfer_read hbegin hrd plain_rd hbuf (hcurrent ▸ hregs), hcurrent]
  simp only [Chips.select, Chips.atRegister, Function.update_self]

theorem readRegs_simulates (hdev : dev.type = .i2cBus) (hbuf : buf ≠ []) :
    Simulates Settled (readRegs (bitBus chipOps 0) dev addr reg buf)
      (Station.readRegs addr reg buf) fun _ => Settled := by
  rintro _ ⟨memory, held⟩ ⟨chips, rfl, rfl⟩
  cases held with
  | true =>
    rw [readRegs_run hdev (transfer_run (xferLoop_unheard plain_wr (has_of (by decide)))),
      out_stop (has_of (by decide))]
    exact ⟨by simp [Station.readRegs, Station.plain, receive, rtEio], chips, rfl, rfl⟩
  | false =>
    cases hregs : chips.memory (addr &&& 0x7F) with
    | none =>
      rw [readRegs_run hdev (transfer_run (xferLoop_absent plain_wr (has_of (by decide))
        (chip_addr ▸ hregs))), out_stop (has_of (by decide)), Station.readRegs,
        Station.plain_absent hregs]
      exact ⟨by simp [receive, rtEio], _, rfl, rfl⟩
    | some regs =>
      have hselect : i2cMsgXfer chipOps 0 true ⟨addr.toUInt16, rtI2cWr, [reg]⟩
          ⟨false, .silent, chips⟩ =
          ((none, []), ⟨true, .hearing false, chips.atRegister (addr &&& 0x7F) reg⟩) := by
        rw [msgXfer_select plain_wr (has_of (by decide)) (has_of (by decide)) (fun _ => rfl)
          (chip_addr ▸ hregs), Chips.foldl_select, chip_addr, List.foldl_nil]
      rw [readRegs_run hdev (transfer_run (xferLoop_two hselect (readMsg_run hbuf hregs))),
        out_stop (has_of (by decide)), Station.readRegs, Station.plain_present hregs]
      refine ⟨?_, _, rfl, ?_⟩
      · simp [receive]
      · rw [Chips.advance_memory, ← hregs, Function.update_eq_self]
        rfl

theorem transferWrite_run {bus : Bus (Line Chips)} {reply : Reply} {line line' : Line Chips}
    (h : bus.rtI2cTransfer [⟨addr.toUInt16, rtI2cWr ||| rtI2cNoStop, [reg]⟩,
      ⟨addr.toUInt16, rtI2cWr ||| rtI2cNoStart, buf⟩] line = (reply, line')) :
    transferWrite bus addr reg buf line = (if reply.num = 2 then rtEok else -rtError, line') := by
  rw [transferWrite, bind_run h]
  rfl

theorem transferWrite_simulates :
    Simulates Settled (transferWrite (bitBus chipOps 0) addr reg buf)
      (Station.transferWrite addr reg buf) fun _ => Settled := by
  rintro _ ⟨memory, held⟩ ⟨chips, rfl, rfl⟩
  have hplain : (Msg.mk addr.toUInt16 (rtI2cWr ||| rtI2cNoStop) [reg]).Plain :=
    ⟨has_of (by decide), has_of (by decide), has_of (by decide)⟩
  cases held with
  | true =>
    rw [transferWrite_run (transfer_run (xferLoop_unheard hplain (has_of (by decide)))),
      out_noStop (has_of (by decide))]
    exact ⟨rfl, chips, rfl, rfl⟩
  | false =>
    cases hregs : chips.memory (addr &&& 0x7F) with
    | none =>
      rw [transferWrite_run (transfer_run (xferLoop_absent hplain (has_of (by decide))
        (chip_addr ▸ hregs))), out_noStop (has_of (by decide)),
        Station.transferWrite_absent hregs]
      exact ⟨rfl, _, rfl, rfl⟩
    | some regs =>
      have hselect : i2cMsgXfer chipOps 0 true
          ⟨addr.toUInt16, rtI2cWr ||| rtI2cNoStop, [reg]⟩ ⟨false, .silent, chips⟩ =
          ((none, []), ⟨true, .hearing false, chips.atRegister (addr &&& 0x7F) reg⟩) := by
        rw [msgXfer_select hplain (has_of (by decide)) (has_of (by decide)) (fun _ => rfl)
          (chip_addr ▸ hregs), Chips.foldl_select, chip_addr, List.foldl_nil]
      have hbegin : i2cBegin chipOps 0 false ⟨addr.toUInt16, rtI2cWr ||| rtI2cNoStart, buf⟩
          ⟨true, .hearing false, chips.atRegister (addr &&& 0x7F) reg⟩ =
          (rtEok, ⟨true, .hearing false, chips.atRegister (addr &&& 0x7F) reg⟩) :=
        begin_noStart (has_of (by decide))
      have hdata := msgXfer_write hbegin (has_of (by decide))
      rw [transferWrite_run (transfer_run (xferLoop_two hselect hdata)),
        out_stop (has_of (by decide)), Station.transferWrite_present hregs]
      exact ⟨rfl, _, rfl, Chips.memory_written hregs⟩

end
end WeatherStation.I2c
