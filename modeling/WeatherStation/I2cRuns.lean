import WeatherStation.I2cChips

/-! Runs of register accesses on the wires, from an idle bus and after a reset in
the middle of a transfer. -/
namespace WeatherStation.I2c
open Gpio Lib TwoWire

/-- The register accesses of the drivers. -/
inductive Access where
  | writeReg (addr reg data : UInt8)
  | readRegs (addr reg : UInt8) (buf : List UInt8)
  /-- Of the BME280. -/
  | transferWrite (addr reg : UInt8) (buf : List UInt8)
  deriving DecidableEq

namespace Access

def i2cDevice : RtDevice := ⟨.i2cBus⟩

/-- The result and what is in the buffer. -/
def run {β : Type} (bus : Bus β) : Access → StateM β (RtErr × List UInt8)
  | writeReg addr reg data => do return (← I2c.writeReg bus i2cDevice addr reg data, [])
  | readRegs addr reg buf => I2c.readRegs bus i2cDevice addr reg buf
  | transferWrite addr reg buf => do return (← I2c.transferWrite bus addr reg buf, [])

def onStation : Access → StateM Station (RtErr × List UInt8)
  | writeReg addr reg data => do return (← Station.writeReg addr reg [data], [])
  | readRegs addr reg buf => Station.readRegs addr reg buf
  | transferWrite addr reg buf => do return (← Station.transferWrite addr reg buf, [])

/-- Something is read. -/
def Regular : Access → Prop
  | readRegs _ _ buf => buf ≠ []
  | _ => True

instance : DecidablePred Regular
  | readRegs _ _ buf => inferInstanceAs (Decidable (buf ≠ []))
  | writeReg .. | transferWrite .. => inferInstanceAs (Decidable True)

end Access

section
variable {polls : ℕ} {access : Access} {accesses : List Access}

abbrev wiresBus (polls : ℕ) : Bus (Wires Chips) := bitBus (wiresBytes Chips.device polls) 0

/-! ### From the wires to the station -/

/-- Between two accesses, on the wires. -/
def Holds (wires : Wires Chips) (s : Station) : Prop :=
  ∃ line, At Chips.device Mode.Rests wires line ∧ Settled line s

theorem regular_wr {addr flags : UInt16} {buf : List UInt8}
    (hack : decide (flags &&& rtI2cNoReadAck ≠ 0) = false)
    (hwr : decide (flags &&& rtI2cRd ≠ 0) = false) : (Msg.mk addr flags buf).Regular :=
  ⟨hack, fun hrd => absurd hrd (Bool.eq_false_iff.mp hwr)⟩

/-- Buses that run in step on messages run in step on accesses. -/
theorem run_simulates {β γ : Type} {bus : Bus β} {bus' : Bus γ} {R : β → γ → Prop}
    (hbus : ∀ msgs : List Msg, (∀ msg ∈ msgs, msg.Regular) →
      Simulates R (bus.rtI2cTransfer msgs) (bus'.rtI2cTransfer msgs) fun _ => R)
    (h : access.Regular) : Simulates R (access.run bus) (access.run bus') fun _ => R := by
  have hwr {addr : UInt16} {buf : List UInt8} : (Msg.mk addr rtI2cWr buf).Regular :=
    regular_wr (by decide) (by decide)
  cases access with
  | writeReg addr reg data =>
    refine .bind (.bind (hbus _ (by simpa using hwr)) fun _ => ?_) fun _ => .pure fun _ _ => id
    exact .pure fun _ _ => id
  | readRegs addr reg buf =>
    have hrd : (Msg.mk addr.toUInt16 rtI2cRd buf).Regular := ⟨by exact has_of (by decide), fun _ => h⟩
    refine .bind (hbus _ ?_) fun _ => .ite (fun _ => .pure fun _ _ => id) fun _ => .pure fun _ _ => id
    rintro msg (_ | ⟨_, _ | ⟨_, hmsg⟩⟩)
    · exact hwr
    · exact hrd
    · nomatch hmsg
  | transferWrite addr reg buf =>
    refine .bind (.bind (hbus _ ?_) fun _ => .pure fun _ _ => id) fun _ => .pure fun _ _ => id
    rintro msg (_ | ⟨_, _ | ⟨_, hmsg⟩⟩)
    · exact regular_wr (by decide) (by decide)
    · exact regular_wr (by decide) (by decide)
    · nomatch hmsg

theorem onStation_simulates (h : access.Regular) :
    Simulates Settled (access.run (bitBus chipOps 0)) access.onStation fun _ => Settled := by
  cases access with
  | writeReg addr reg data =>
    exact .bind (writeReg_simulates rfl) fun _ => .pure fun _ _ => id
  | readRegs addr reg buf => exact readRegs_simulates rfl h
  | transferWrite addr reg buf => exact .bind transferWrite_simulates fun _ => .pure fun _ _ => id

theorem access_simulates (polls : ℕ) (h : access.Regular) :
    Simulates Holds (access.run (wiresBus polls)) access.onStation fun _ => Holds :=
  (run_simulates (fun _ => transfer_simulates) h).trans (onStation_simulates h)

theorem accesses_simulate (polls : ℕ) (h : ∀ access ∈ accesses, access.Regular) :
    Simulates Holds (accesses.mapM (Access.run (wiresBus polls)))
      (accesses.mapM Access.onStation) fun _ => Holds :=
  .mapM fun access haccess => access_simulates polls (h access haccess)

theorem Holds.memory {wires : Wires Chips} {s : Station} (h : Holds wires s) :
    wires.state.memory = s.memory ∧ wires.scl = !s.held := by
  obtain ⟨_, ⟨hcarries, _⟩, chips, rfl, hmemory⟩ := h
  rw [← hmemory]
  generalize hheld : s.held = held at hcarries
  cases hcarries with
  | held sda port => exact ⟨rfl, rfl⟩
  | idle state => exact ⟨rfl, rfl⟩

/-- An idle bus with these chips. -/
def idleWires (chips : Chips) : Wires Chips := ⟨true, true, .silent, chips⟩

theorem holds_idle {chips : Chips} : Holds (idleWires chips) ⟨chips.memory, false⟩ :=
  ⟨_, ⟨.idle chips, Mode.rests_silent⟩, chips, rfl, rfl⟩

/-- On the wires every run of accesses returns what it returns on the registers. -/
theorem accesses_on_wires (polls : ℕ) (chips : Chips) (h : ∀ access ∈ accesses, access.Regular) :
    let onWires := accesses.mapM (Access.run (wiresBus polls)) (idleWires chips)
    let onStation := accesses.mapM Access.onStation ⟨chips.memory, false⟩
    onWires.1 = onStation.1 ∧ onWires.2.state.memory = onStation.2.memory ∧
      onWires.2.scl = !onStation.2.held := by
  have ⟨hresults, hholds⟩ := accesses_simulate polls h _ _ (@holds_idle chips)
  exact ⟨hresults, hholds.memory⟩

/-- A bus with one chip, its registers all zero. -/
def oneChip : Chips := ⟨fun addr => if addr = 0x1E then some fun _ => 0 else none, fun _ => 0, 0, false⟩

theorem transfer_on_oneChip :
    let msgs : List Msg := [⟨0x1E, rtI2cWr, [2, 0]⟩]
    let wires := (bitBus (wiresBytes Chips.device 0) 1).rtI2cTransfer msgs
      ⟨true, true, .silent, oneChip⟩
    let line := (bitBus (lineOps Chips.device) 1).rtI2cTransfer msgs ⟨false, ⟨.silent, oneChip⟩⟩
    wires.1 = line.1 ∧ Carries Chips.device wires.2 line.2 :=
  transfer_on_wires Chips.device 0 1 oneChip fun _ hmsg =>
    List.mem_singleton.mp hmsg ▸ regular_wr (by decide) (by decide)

theorem accesses_on_oneChip :
    let accesses := [.writeReg 0x1E 2 0, .readRegs 0x1E 3 [0, 0, 0], .transferWrite 0x76 0xF4 [7]]
    let onWires := accesses.mapM (Access.run (wiresBus 0)) (idleWires oneChip)
    let onStation := accesses.mapM Access.onStation ⟨oneChip.memory, false⟩
    onWires.1 = onStation.1 ∧ onWires.2.state.memory = onStation.2.memory ∧
      onWires.2.scl = !onStation.2.held :=
  accesses_on_wires 0 oneChip (by decide)

/-! ### A clock left low -/

def Access.isTransferWrite : Access → Bool
  | .transferWrite .. => true
  | _ => false

def Access.chip : Access → UInt8
  | .writeReg addr .. | .readRegs addr .. | .transferWrite addr .. => addr &&& 0x7F

/-- The chips that are there. -/
def present (memory : Memory) (chip : UInt8) : Bool := (memory chip).isSome

/-- A write without a stop of its own to a chip that is not there. -/
def Access.misses (there : UInt8 → Bool) (access : Access) : Bool :=
  access.isTransferWrite && !there access.chip

theorem present_update {memory : Memory} {chip : UInt8} {regs regs' : UInt8 → UInt8}
    (h : memory chip = some regs) :
    present (Function.update memory chip (some regs')) = present memory := by
  funext other
  rcases eq_or_ne other chip with rfl | hne
  · simp [present, h]
  · simp [present, hne]

theorem plain_step {α : Type} {addr : UInt8} {failed : α}
    {write : (UInt8 → UInt8) → α × (UInt8 → UInt8)} (s : Station) :
    present (Station.plain addr failed write s).2.memory = present s.memory ∧
      (Station.plain addr failed write s).2.held = false := by
  rcases s with ⟨memory, _ | _⟩
  · cases h : memory (addr &&& 0x7F) with
    | none => rw [Station.plain_absent h]; exact ⟨rfl, rfl⟩
    | some regs => rw [Station.plain_present h]; exact ⟨present_update h, rfl⟩
  · exact ⟨rfl, rfl⟩

/-- One access: the chips stay, and when the clock is low afterwards. -/
theorem onStation_step (access : Access) (s : Station) :
    present (access.onStation s).2.memory = present s.memory ∧
      (access.onStation s).2.held =
        (access.isTransferWrite && s.held || access.misses (present s.memory)) := by
  cases access with
  | writeReg addr reg data => exact plain_step s
  | readRegs addr reg buf => exact plain_step s
  | transferWrite addr reg buf =>
    show present (Station.transferWrite addr reg buf s).2.memory = _ ∧
      (Station.transferWrite addr reg buf s).2.held = _
    rcases s with ⟨memory, _ | _⟩
    · cases h : memory (addr &&& 0x7F) with
      | none =>
        rw [Station.transferWrite_absent h]
        exact ⟨rfl, by simp [Access.misses, Access.isTransferWrite, Access.chip, present, h]⟩
      | some regs =>
        rw [Station.transferWrite_present h]
        exact ⟨present_update h,
          by simp [Access.misses, Access.isTransferWrite, Access.chip, present, h]⟩
    · exact ⟨rfl, rfl⟩

/-- A write of this kind missed its chip, and only such writes came after it. -/
def Stuck (there : UInt8 → Bool) (accesses : List Access) : Prop :=
  ∃ before access after, accesses = before ++ access :: after ∧ access.misses there ∧
    ∀ later ∈ after, later.isTransferWrite

theorem stuck_cons {there : UInt8 → Bool} : Stuck there (access :: accesses) ↔
    (access.misses there ∧ ∀ later ∈ accesses, later.isTransferWrite) ∨ Stuck there accesses := by
  constructor
  · rintro ⟨_ | ⟨_, before⟩, failed, after, hsplit, hmiss, hafter⟩
    · cases hsplit
      exact .inl ⟨hmiss, hafter⟩
    · cases hsplit
      exact .inr ⟨before, failed, after, rfl, hmiss, hafter⟩
  · rintro (⟨hmiss, hafter⟩ | ⟨before, failed, after, rfl, hmiss, hafter⟩)
    · exact ⟨[], access, accesses, rfl, hmiss, hafter⟩
    · exact ⟨access :: before, failed, after, rfl, hmiss, hafter⟩

theorem mapM_cons_snd {s : Station} : ((access :: accesses).mapM Access.onStation s).2 =
    (accesses.mapM Access.onStation (access.onStation s).2).2 := by
  rw [List.mapM_cons]
  rfl

theorem held_iff (accesses : List Access) (s : Station) : (accesses.mapM Access.onStation s).2.held ↔
    (s.held ∧ ∀ access ∈ accesses, access.isTransferWrite) ∨
      Stuck (present s.memory) accesses := by
  induction accesses generalizing s with
  | nil => simp [Stuck, pure_apply]
  | cons access accesses ih =>
    have ⟨hpresent, hheld⟩ := onStation_step access s
    rw [mapM_cons_snd, ih, hpresent, hheld, stuck_cons, List.forall_mem_cons, Bool.or_eq_true,
      Bool.and_eq_true]
    tauto

/-- After a run from an idle bus the clock is low exactly if a register write of the
BME280 missed its chip and only such writes followed. -/
theorem clock_low_iff {chips : Chips} (h : ∀ access ∈ accesses, access.Regular) :
    (accesses.mapM (Access.run (wiresBus polls)) (idleWires chips)).2.scl = false ↔
      Stuck (present chips.memory) accesses := by
  have ⟨_, hholds⟩ := accesses_simulate polls h _ _ (@holds_idle chips)
  have ⟨_, hscl⟩ := hholds.memory
  have hheld := held_iff accesses ⟨chips.memory, false⟩
  rw [hscl, Bool.not_eq_false', hheld]
  simp

theorem clock_low_oneChip :
    ([.writeReg 0x1E 2 0, .transferWrite 0x76 0xF4 [7]].mapM (Access.run (wiresBus 0))
      (idleWires oneChip)).2.scl = false ↔
      Stuck (present oneChip.memory) [.writeReg 0x1E 2 0, .transferWrite 0x76 0xF4 [7]] :=
  clock_low_iff (by decide)

/-! ### What is written is read back -/

/-- The register from which an access writes, and the bytes. -/
def Access.written : Access → Option (UInt8 × List UInt8)
  | .writeReg _ reg data => some (reg, [data])
  | .readRegs .. => none
  | .transferWrite _ reg buf => some (reg, buf)

/-- Only a write to the chip itself touches its registers. -/
theorem onStation_frame {chip : UInt8} {s : Station} (h : access.chip = chip → access.written = none) :
    (access.onStation s).2.memory chip = s.memory chip := by
  rcases s with ⟨memory, _ | _⟩
  · cases access with
    | writeReg addr reg data =>
      have hne : chip ≠ addr &&& 0x7F := fun heq => Option.some_ne_none _ (h heq.symm)
      show (Station.writeReg addr reg [data] ⟨memory, false⟩).2.memory chip = _
      rw [Station.writeReg]
      cases hregs : memory (addr &&& 0x7F) with
      | none => rw [Station.plain_absent hregs]
      | some regs => rw [Station.plain_present hregs]; exact Function.update_of_ne hne _ _
    | readRegs addr reg buf =>
      show (Station.readRegs addr reg buf ⟨memory, false⟩).2.memory chip = _
      rw [Station.readRegs]
      cases hregs : memory (addr &&& 0x7F) with
      | none => rw [Station.plain_absent hregs]
      | some regs => rw [Station.plain_present hregs, ← hregs, Function.update_eq_self]
    | transferWrite addr reg buf =>
      have hne : chip ≠ addr &&& 0x7F := fun heq => Option.some_ne_none _ (h heq.symm)
      show (Station.transferWrite addr reg buf ⟨memory, false⟩).2.memory chip = _
      cases hregs : memory (addr &&& 0x7F) with
      | none => rw [Station.transferWrite_absent hregs]
      | some regs =>
        rw [Station.transferWrite_present hregs]
        exact Function.update_of_ne hne _ _
  · cases access <;> rfl

theorem run_frame {chip : UInt8} {s : Station}
    (h : ∀ access ∈ accesses, access.chip = chip → access.written = none) :
    (accesses.mapM Access.onStation s).2.memory chip = s.memory chip := by
  induction accesses generalizing s with
  | nil => rfl
  | cons access accesses ih =>
    obtain ⟨hfirst, hrest⟩ := List.forall_mem_cons.mp h
    rw [mapM_cons_snd, ih hrest, onStation_frame hfirst]

/-- A write that reports success has reached the chip. -/
theorem onStation_written {s : Station} {reg : UInt8} {data : List UInt8}
    (hwrite : access.written = some (reg, data)) (hok : (access.onStation s).1.1 = rtEok) :
    ∃ regs, (access.onStation s).2.memory access.chip = some (store regs reg data) := by
  rcases s with ⟨memory, _ | _⟩
  · cases hregs : memory access.chip with
    | none =>
      cases access with
      | writeReg addr _ byte =>
        have hfail : (Station.writeReg addr _ [byte] ⟨memory, false⟩).1 = rtEok := hok
        rw [Station.writeReg, Station.plain_absent hregs] at hfail
        exact absurd hfail (show ¬-rtError = rtEok by decide)
      | readRegs => cases hwrite
      | transferWrite addr _ buf =>
        have hfail : (Station.transferWrite addr _ buf ⟨memory, false⟩).1 = rtEok := hok
        rw [Station.transferWrite_absent hregs] at hfail
        exact absurd hfail (show ¬-rtError = rtEok by decide)
    | some regs =>
      refine ⟨regs, ?_⟩
      cases access with
      | writeReg addr _ byte =>
        cases hwrite
        show (Station.writeReg addr reg [byte] ⟨memory, false⟩).2.memory _ = _
        rw [Station.writeReg, Station.plain_present hregs]
        exact Function.update_self ..
      | readRegs => cases hwrite
      | transferWrite addr _ buf =>
        cases hwrite
        show (Station.transferWrite addr reg data ⟨memory, false⟩).2.memory _ = _
        rw [Station.transferWrite_present hregs]
        exact Function.update_self ..
  · cases access with
    | writeReg => exact absurd hok (show ¬-rtError = rtEok by decide)
    | readRegs => cases hwrite
    | transferWrite => exact absurd hok (show ¬-rtError = rtEok by decide)

theorem onStation_read {s : Station} {addr reg : UInt8} {buf : List UInt8} {regs : UInt8 → UInt8}
    (hregs : s.memory (addr &&& 0x7F) = some regs) :
    ((Access.readRegs addr reg buf).onStation s).1 =
      if s.held then (-rtError, buf) else (rtEok, load regs reg buf.length) := by
  show (Station.readRegs addr reg buf s).1 = _
  rcases s with ⟨memory, _ | _⟩
  · rw [Station.readRegs, Station.plain_present hregs]
    rfl
  · rfl

/-- Bytes that were written with success are read back, whatever the drivers do with
the other chips in between; a read meets a low clock or returns them. -/
theorem read_back (polls : ℕ) (chips : Chips) {before middle : List Access} {write : Access}
    {addr reg : UInt8} {data buf : List UInt8} (hbefore : ∀ access ∈ before, access.Regular)
    (hmiddle : ∀ access ∈ middle, access.Regular) (hwrite : write.written = some (reg, data))
    (hdata : data ≠ []) (hlength : data.length ≤ 256) (hbuf : buf.length = data.length)
    (hchip : write.chip = addr &&& 0x7F)
    (hother : ∀ access ∈ middle, access.chip = write.chip → access.written = none) :
    let bus := wiresBus polls
    let written := write.run bus (before.mapM (Access.run bus) (idleWires chips)).2
    let later := (middle.mapM (Access.run bus) written.2).2
    written.1.1 = rtEok → ((Access.readRegs addr reg buf).run bus later).1 =
      if later.scl then (rtEok, data) else (-rtError, buf) := by
  intro bus written later hok
  have hregular : write.Regular := by
    cases write with
    | readRegs => cases hwrite
    | writeReg | transferWrite => exact trivial
  have hread : (Access.readRegs addr reg buf).Regular :=
    fun hnil => hdata (List.length_eq_zero_iff.mp (by rw [← hbuf, hnil]; rfl))
  -- the same run on the registers
  have ⟨_, hstarted⟩ := accesses_simulate polls hbefore _ _ (@holds_idle chips)
  have ⟨hresult, hwritten⟩ := access_simulates polls hregular _ _ hstarted
  have ⟨_, hlater⟩ := accesses_simulate polls hmiddle _ _ hwritten
  have ⟨hreturned, _⟩ := access_simulates polls hread _ _ hlater
  obtain ⟨regs, hregs⟩ := onStation_written hwrite ((congrArg Prod.fst hresult).symm.trans hok)
  rw [← run_frame hother, hchip] at hregs
  refine hreturned.trans ((onStation_read hregs).trans ?_)
  rw [hbuf, load_store hlength, hlater.memory.2]
  generalize Station.held _ = held
  cases held <;> rfl

theorem oneChip_read_back :
    let bus := wiresBus 0
    let write := Access.writeReg 0x1E 2 0x55
    let written := write.run bus ([Access.readRegs 0x1E 3 [0]].mapM (Access.run bus) (idleWires oneChip)).2
    let later := ([Access.writeReg 0x1F 2 1].mapM (Access.run bus) written.2).2
    ((Access.readRegs 0x1E 2 [0]).run bus later).1 =
      if later.scl then (rtEok, [0x55]) else (-rtError, [0]) :=
  read_back 0 oneChip (by decide) (by decide) rfl (by decide) (by decide) rfl rfl (by decide) rfl

/-! ### A reset in the middle of a transfer -/

/-- The pins after `stm32_i2c_gpio_init`; the chips are where the reset found them. -/
def resetWires (phase : Phase) (chips : Chips) : Wires Chips := ⟨true, true, phase, chips⟩

section
variable {σ : Type} {device : Device σ} {phase : Phase} {state : σ}

theorem unlockLoop_run {n : ℕ} : unlockLoop (wiresOps device polls) n ⟨false, true, phase, state⟩ =
    ((), (pulses device (List.replicate n true) ⟨false, true, phase, state⟩).2) := by
  induction n generalizing phase state with
  | zero => rfl
  | succ n ih =>
    have hpulse : pulse device true ⟨false, true, phase, state⟩ = (phase.lets,
        ⟨false, true, (device.fall phase.lets phase state).1,
          (device.fall phase.lets phase state).2⟩) := by
      rw [pulse_low, Bool.true_and]
    rw [unlockLoop, bind_apply, bind_apply, List.replicate_succ, pulses, hpulse]
    exact ih

/-- The clock that is high already makes nine falls of the nine pulses. -/
theorem unlock_run (hlow : phase.lets = false) :
    let after := (pulses device (List.replicate 9 true) ⟨false, true, phase, state⟩).2
    stm32I2cBusUnlock (wiresOps device polls) ⟨true, true, phase, state⟩ =
      (if after.line then rtEok else -rtError, after) := by
  have hloop : unlockLoop (wiresOps device polls) 9 ⟨true, true, phase, state⟩ =
      ((), (pulses device (List.replicate 9 true) ⟨false, true, phase, state⟩).2) :=
    unlockLoop_run
  have hfirst : (wiresOps device polls).getSda ⟨true, true, phase, state⟩ =
      (false, ⟨true, true, phase, state⟩) := by
    show ((Wires.mk true true phase state).line, _) = _
    rw [Wires.line, hlow]
    rfl
  generalize (pulses device (List.replicate 9 true) ⟨false, true, phase, state⟩).2 = after at *
  rw [stm32I2cBusUnlock, bind_apply, hfirst, Bool.not_false, if_pos rfl, bind_apply, hloop]
  dsimp only
  rw [bind_apply, show (wiresOps device polls).getSda after = (after.line, after) from rfl]
  cases after.line <;> rfl

/-- The chip runs through the bits it has left and meets no acknowledgement. -/
theorem unlock_telling {bits : List Bool} (hbits : bits ≠ []) (hlength : bits.length ≤ 8) :
    (pulses device (List.replicate 9 true) ⟨false, true, .telling bits, state⟩).2 =
      ⟨false, true, .silent, device.answered false state⟩ := by
  have hsplit : List.replicate 9 true = List.replicate bits.length true ++
      ([true] ++ List.replicate (8 - bits.length) true) := by
    rw [← List.replicate_one, List.replicate_append_replicate, List.replicate_append_replicate]
    congr 1
    omega
  have hne : List.replicate bits.length true ≠ [] := by simpa using hbits
  have hfall : pulse device true
      ⟨false, (List.replicate bits.length true).getLastD true, .asking, state⟩ =
      (true, ⟨false, true, .silent, device.answered false state⟩) := by
    rw [pulse_low]
    rfl
  have hrest (n : ℕ) : (List.replicate n true).getLastD true = true := by
    cases n with
    | zero => rfl
    | succ n => rw [List.replicate_succ']; simp
  rw [hrest] at hfall
  rw [hsplit, pulses_append, pulses_append, pulses_telling (by simp) hne, pulses_singleton]
  simp only [hrest, hfall, pulses_silent]

/-- A chip that was acknowledging a byte of a write takes the pulses for another. -/
theorem unlock_acking :
    (pulses device (List.replicate 9 true) ⟨false, true, .acking true (.hearing false), state⟩).2 =
      ⟨false, true, .acking (device.write 0xFF state).1
        (.afterHearing false 0xFF (device.write 0xFF state).1), (device.write 0xFF state).2⟩ := by
  have hbyte : byteOf (List.replicate 8 true) = 0xFF := by decide
  have hrun : pulses device (List.replicate 8 true) ⟨false, true, .hearing false [], state⟩ = _ :=
    pulses_hearing rfl (by decide)
  rw [List.nil_append, hbyte] at hrun
  exact congrArg Prod.snd hrun

end

/-- After a reset in the middle of a byte from a chip the bus counts as unlocked, with
no register changed, but the clock stays low: the accesses run as after a write that
missed its chip. -/
theorem reset_while_sending (polls : ℕ) (chips : Chips) {bits : List Bool}
    (hlow : bits.head? = some false) (hlength : bits.length ≤ 8)
    (h : ∀ access ∈ accesses, access.Regular) :
    let unlocked := stm32I2cBusUnlock (wiresOps Chips.device polls) (resetWires (.telling bits) chips)
    let onWires := accesses.mapM (Access.run (wiresBus polls)) unlocked.2
    let onStation := accesses.mapM Access.onStation ⟨chips.memory, true⟩
    unlocked.1 = rtEok ∧ onWires.1 = onStation.1 ∧
      onWires.2.state.memory = onStation.2.memory ∧ onWires.2.scl = !onStation.2.held := by
  have hbits : bits ≠ [] := fun hnil => by simp [hnil] at hlow
  have hlets : (Phase.telling bits).lets = false := by
    cases bits with
    | nil => exact absurd rfl hbits
    | cons bit bits => simpa [Phase.lets] using hlow
  have hunlock : stm32I2cBusUnlock (wiresOps Chips.device polls) (resetWires (.telling bits) chips) =
      (rtEok, ⟨false, true, .silent, chips.advance⟩) := by
    rw [resetWires, unlock_run hlets, unlock_telling hbits hlength]
    rfl
  have hholds : Holds ⟨false, true, .silent, chips.advance⟩ ⟨chips.memory, true⟩ :=
    ⟨⟨true, .silent, chips.advance⟩, ⟨.held true ⟨.silent, chips.advance⟩,
      Mode.rests_silent⟩, chips.advance, rfl, rfl⟩
  rw [hunlock]
  obtain ⟨hresults, hafter⟩ := accesses_simulate polls h _ _ hholds
  exact ⟨rfl, hresults, hafter.memory⟩

theorem oneChip_reset_while_sending :
    let unlocked := stm32I2cBusUnlock (wiresOps Chips.device 0)
      (resetWires (.telling [false, true]) oneChip)
    let accesses := [.readRegs 0x1E 3 [0, 0, 0]]
    let onWires := accesses.mapM (Access.run (wiresBus 0)) unlocked.2
    let onStation := accesses.mapM Access.onStation ⟨oneChip.memory, true⟩
    unlocked.1 = rtEok ∧ onWires.1 = onStation.1 ∧
      onWires.2.state.memory = onStation.2.memory ∧ onWires.2.scl = !onStation.2.held :=
  reset_while_sending 0 oneChip rfl (by decide) (by decide)

/-- After a reset while a chip acknowledges a byte of a write, the pulses that are
meant to free the bus store 0xFF in the next register. -/
theorem reset_while_writing (polls : ℕ) (chips : Chips) {regs : UInt8 → UInt8}
    (hdata : chips.selecting = false) (hregs : chips.memory chips.current = some regs) :
    let unlocked := stm32I2cBusUnlock (wiresOps Chips.device polls)
      (resetWires (.acking true (.hearing false)) chips)
    unlocked.1 = -rtError ∧ unlocked.2.line = false ∧
      unlocked.2.state.memory = Function.update chips.memory chips.current
        (some (Function.update regs (chips.pointer chips.current) 0xFF)) := by
  intro unlocked
  have hunlock : unlocked = (-rtError, ⟨false, true, .acking true (.hearing false),
      chips.write 0xFF⟩) := by
    show stm32I2cBusUnlock _ (resetWires _ _) = _
    rw [resetWires, unlock_run rfl, unlock_acking]
    rfl
  rw [hunlock]
  refine ⟨rfl, rfl, ?_⟩
  show (chips.write 0xFF).memory = _
  rw [Chips.write, hdata, if_neg Bool.false_ne_true, hregs]
  rfl

theorem oneChip_reset_while_writing :
    let chips := { oneChip with current := 0x1E }
    let unlocked := stm32I2cBusUnlock (wiresOps Chips.device 0)
      (resetWires (.acking true (.hearing false)) chips)
    unlocked.1 = -rtError ∧ unlocked.2.line = false ∧
      unlocked.2.state.memory = Function.update oneChip.memory 0x1E
        (some (Function.update (fun _ => 0) 0 0xFF)) :=
  reset_while_writing 0 _ rfl rfl

end
end WeatherStation.I2c
