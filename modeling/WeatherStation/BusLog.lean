import WeatherStation.I2c

/-! What the register accesses of the drivers put on the bus, and a bus that
keeps a log of it. -/
namespace WeatherStation.I2c
open Gpio

def writeMsgs (addr reg data : UInt8) : List Msg := [⟨addr.toUInt16, rtI2cWr, [reg, data]⟩]

def readMsgs (addr reg : UInt8) (buf : List UInt8) : List Msg :=
  [⟨addr.toUInt16, rtI2cWr, [reg]⟩, ⟨addr.toUInt16, rtI2cRd, buf⟩]

theorem bind_run {σ α γ : Type} {action : StateM σ α} {rest : α → StateM σ γ} {s s' : σ} {a : α}
    (h : action s = (a, s')) : (action >>= rest) s = rest a s' := by
  simp only [Bind.bind, StateT.bind, h]

theorem pure_run {σ α : Type} (a : α) (s : σ) : (pure a : StateM σ α) s = (a, s) := rfl

structure Transfer where
  msgs : List Msg
  reply : Reply
  deriving DecidableEq, Repr

/-- A write of a register that went through. -/
def Transfer.isWrite (transfer : Transfer) : Bool :=
  transfer.msgs.length = 1 && transfer.reply.num = 1

section
variable {β : Type} (bus : Bus β)

/-- The same bus with its transfers so far, oldest first. -/
def Bus.logged : Bus (β × List Transfer) where
  rtI2cTransfer msgs s :=
    let (reply, b) := bus.rtI2cTransfer msgs s.1
    (reply, (b, s.2 ++ [⟨msgs, reply⟩]))

variable {bus} {dev : RtDevice} {addr reg data : UInt8} {buf : List UInt8} {msgs : List Msg}
  {reply : Reply} {b b' : β} {log log' : List Transfer}

theorem logged_transfer :
    bus.logged.rtI2cTransfer msgs (b, log) =
      ((bus.rtI2cTransfer msgs b).1, ((bus.rtI2cTransfer msgs b).2,
        log ++ [⟨msgs, (bus.rtI2cTransfer msgs b).1⟩])) := rfl

theorem logged_transfer_iff :
    bus.logged.rtI2cTransfer msgs (b, log) = (reply, (b', log')) ↔
      bus.rtI2cTransfer msgs b = (reply, b') ∧ log' = log ++ [⟨msgs, reply⟩] := by
  constructor
  · intro h
    cases h
    exact ⟨rfl, rfl⟩
  · rintro ⟨h, rfl⟩
    rw [logged_transfer, h]

theorem writeReg_run (hdev : dev.type = .i2cBus)
    (h : bus.rtI2cTransfer (writeMsgs addr reg data) b = (reply, b')) :
    writeReg bus dev addr reg data b = (if reply.num = 1 then rtEok else -rtError, b') := by
  unfold writeReg
  rw [if_pos hdev, ← writeMsgs, bind_run h]
  rfl

theorem readRegs_run (hdev : dev.type = .i2cBus)
    (h : bus.rtI2cTransfer (readMsgs addr reg buf) b = (reply, b')) :
    readRegs bus dev addr reg buf b =
      ((if reply.num = 2 then rtEok else -rtError, receive buf reply.data), b') := by
  unfold readRegs transferRead
  rw [if_pos hdev, ← readMsgs, bind_run h]
  split <;> rfl

theorem writeReg_unsupported (hdev : dev.type ≠ .i2cBus) :
    writeReg bus dev addr reg data b = (-rtError, b) := by
  unfold writeReg
  rw [if_neg hdev]
  rfl

theorem readRegs_unsupported (hdev : dev.type ≠ .i2cBus) :
    readRegs bus dev addr reg buf b = ((-rtError, buf), b) := by
  unfold readRegs
  rw [if_neg hdev]
  rfl

end

def writes (log : List Transfer) : Nat := log.countP Transfer.isWrite

theorem writes_append (left right : List Transfer) :
    writes (left ++ right) = writes left + writes right := List.countP_append

theorem two_le_writes {log : List Transfer} {first second : Transfer} (hne : first ≠ second)
    (hfirst : first ∈ log) (hsecond : second ∈ log) (hwrite : first.isWrite = true)
    (hwrite' : second.isWrite = true) : 2 ≤ writes log := by
  obtain ⟨before, after, rfl⟩ := List.append_of_mem hfirst
  have hone : writes [first] = 1 := by
    rw [writes, List.countP_singleton, if_pos hwrite]
  have hother : 0 < writes before + writes after := by
    have hrest : second ∈ before ++ after := by
      rcases List.mem_append.mp hsecond with hbefore | hafter
      · exact List.mem_append_left _ hbefore
      · exact List.mem_append_right _ ((List.mem_cons.mp hafter).resolve_left hne.symm)
    rw [← writes_append]
    exact List.countP_pos_iff.mpr ⟨second, hrest, hwrite'⟩
  rw [writes_append, ← List.singleton_append, writes_append, hone]
  omega

end WeatherStation.I2c
