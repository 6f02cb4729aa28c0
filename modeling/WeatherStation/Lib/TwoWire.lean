import WeatherStation.Lib.Bits

/-! A two-wire bus.  The master has the clock to itself; the data wire is low
when the master or the device pulls it low.  A device starts over when the data
wire falls under a high clock, stops when it rises under one, and otherwise
takes in and gives out a bit for each pulse of the clock.  `exchange` is what
nine pulses come to. -/
namespace WeatherStation.Lib.TwoWire

/-- What a device makes of whole bytes; `true` is a byte it acknowledges, or one
of its own that was acknowledged. -/
structure Device (σ : Type) where
  start : σ → σ
  stop : σ → σ
  address : UInt8 → σ → Bool × σ
  write : UInt8 → σ → Bool × σ
  read : σ → UInt8
  answered : Bool → σ → σ

/-! ### Between two bytes -/

inductive Mode where
  | silent
  | hearing (isAddress : Bool)
  | talking
  deriving DecidableEq, Repr

structure Port (σ : Type) where
  mode : Mode
  state : σ

variable {σ : Type} (device : Device σ)

def Device.hear (isAddress : Bool) (byte : UInt8) (state : σ) : Bool × σ :=
  if isAddress then device.address byte state else device.write byte state

/-- An odd address asks the device to talk. -/
def Mode.afterHearing (isAddress : Bool) (byte : UInt8) (ack : Bool) : Mode :=
  if ack then if isAddress && byte.toNat.testBit 0 then .talking else .hearing false
  else .silent

/-- A byte and a ninth bit from the master: what the wire carried of both, and
the device afterwards. -/
def Device.exchange (byte : UInt8) (level : Bool) (port : Port σ) : UInt8 × Bool × Port σ :=
  match port.mode with
  | .silent => (byte, level, port)
  | .hearing isAddress =>
    let (ack, state) := device.hear isAddress byte port.state
    (byte, level && !ack, ⟨.afterHearing isAddress byte ack, state⟩)
  | .talking =>
    (byte &&& device.read port.state, level,
      ⟨if level then .silent else .talking, device.answered (!level) port.state⟩)

/-! ### Within a byte -/

inductive Phase where
  | silent
  | started
  | hearing (isAddress : Bool) (bits : List Bool)
  | acking (ack : Bool) (next : Mode)
  | telling (bits : List Bool)
  | asking
  deriving DecidableEq, Repr

structure Wires (σ : Type) where
  scl : Bool
  sda : Bool
  phase : Phase
  state : σ

/-- Whether the device lets go of the data wire. -/
def Phase.lets : Phase → Bool
  | .acking ack _ => !ack
  | .telling bits => bits.headD true
  | _ => true

def Wires.line (wires : Wires σ) : Bool := wires.sda && wires.phase.lets

def Port.phase (port : Port σ) : Phase :=
  match port.mode with
  | .silent => .silent
  | .hearing isAddress => .hearing isAddress []
  | .talking => .telling (byteBits (device.read port.state))

/-- The clock falls after a pulse in which the wire had this level. -/
def Device.fall (level : Bool) (phase : Phase) (state : σ) : Phase × σ :=
  match phase with
  | .silent => (.silent, state)
  | .started => (.hearing true [], state)
  | .hearing isAddress bits =>
    if bits.length < 7 then (.hearing isAddress (bits ++ [level]), state)
    else
      let byte := byteOf (bits ++ [level])
      let (ack, state) := device.hear isAddress byte state
      (.acking ack (.afterHearing isAddress byte ack), state)
  | .acking _ next => (Port.phase device ⟨next, state⟩, state)
  | .telling bits => (if bits.length ≤ 1 then .asking else .telling bits.tail, state)
  | .asking =>
    let state := device.answered (!level) state
    (Port.phase device ⟨if level then .silent else .talking, state⟩, state)

def Wires.setSda (level : Bool) (wires : Wires σ) : Wires σ :=
  let next := { wires with sda := level }
  if wires.scl && wires.line && !next.line then
    { next with phase := .started, state := device.start wires.state }
  else if wires.scl && !wires.line && next.line then
    { next with phase := .silent, state := device.stop wires.state }
  else next

def Wires.setScl (level : Bool) (wires : Wires σ) : Wires σ :=
  if wires.scl && !level then
    let (phase, state) := device.fall wires.line wires.phase wires.state
    { wires with scl := false, phase, state }
  else { wires with scl := level }

/-- The clock is low and the device is between two bytes. -/
def Port.wires (sda : Bool) (port : Port σ) : Wires σ := ⟨false, sda, port.phase device, port.state⟩

/-! ### Pulses -/

/-- One bit from the master: the level of the wire under the high clock, and the
wires when the clock is low again. -/
def pulse (level : Bool) (wires : Wires σ) : Bool × Wires σ :=
  let raised := ((wires.setSda device level).setScl device true)
  (raised.line, raised.setScl device false)

def pulses : List Bool → Wires σ → List Bool × Wires σ
  | [], wires => ([], wires)
  | level :: levels, wires =>
    let (heard, wires) := pulse device level wires
    let (rest, wires) := pulses levels wires
    (heard :: rest, wires)

variable {device} {wires : Wires σ} {phase : Phase} {state : σ} {level sda : Bool}
  {levels bits : List Bool} {isAddress : Bool} {port : Port σ}

theorem pulse_low : pulse device level ⟨false, sda, phase, state⟩ =
    (level && phase.lets, ⟨false, level, (device.fall (level && phase.lets) phase state).1,
      (device.fall (level && phase.lets) phase state).2⟩) := by
  simp [pulse, Wires.setSda, Wires.setScl, Wires.line]

theorem pulses_silent : pulses device levels ⟨false, sda, .silent, state⟩ =
    (levels, ⟨false, levels.getLastD sda, .silent, state⟩) := by
  induction levels generalizing sda with
  | nil => rfl
  | cons level levels ih =>
    simp only [pulses, pulse_low, Phase.lets, Bool.and_true, Device.fall, ih]
    cases levels <;> rfl

theorem pulses_hearing (h : bits.length + levels.length = 8) (hlevels : levels ≠ []) :
    pulses device levels ⟨false, sda, .hearing isAddress bits, state⟩ =
      (levels, ⟨false, levels.getLastD sda,
        .acking (device.hear isAddress (byteOf (bits ++ levels)) state).1
          (.afterHearing isAddress (byteOf (bits ++ levels))
            (device.hear isAddress (byteOf (bits ++ levels)) state).1),
        (device.hear isAddress (byteOf (bits ++ levels)) state).2⟩) := by
  induction levels generalizing sda bits with
  | nil => exact absurd rfl hlevels
  | cons level levels ih =>
    rw [List.length_cons] at h
    simp only [pulses, pulse_low, Phase.lets, Bool.and_true, Device.fall]
    cases levels with
    | nil =>
      rw [if_neg (by rw [List.length_nil] at h; omega)]
      rfl
    | cons second levels =>
      rw [if_pos (by rw [List.length_cons] at h; omega),
        ih (by simpa [Nat.add_comm, Nat.add_assoc] using h) (List.cons_ne_nil _ _)]
      simp only [List.append_assoc, List.singleton_append, List.getLastD_cons]

theorem pulses_telling (h : bits.length = levels.length) (hlevels : levels ≠ []) :
    pulses device levels ⟨false, sda, .telling bits, state⟩ =
      (List.zipWith and levels bits, ⟨false, levels.getLastD sda, .asking, state⟩) := by
  induction levels generalizing sda bits with
  | nil => exact absurd rfl hlevels
  | cons level levels ih =>
    cases bits with
    | nil => simp at h
    | cons bit bits =>
      simp only [List.length_cons, Nat.add_right_cancel_iff] at h
      simp only [pulses, pulse_low, Phase.lets, Device.fall, List.headD_cons, List.tail_cons,
        List.length_cons, h]
      cases levels with
      | nil => simp [pulses]
      | cons second levels =>
        simp [ih h, -List.getLastD_eq_getLast?, List.getLastD_cons]

theorem pulses_append {more : List Bool} : pulses device (levels ++ more) wires =
    ((pulses device levels wires).1 ++ (pulses device more (pulses device levels wires).2).1,
      (pulses device more (pulses device levels wires).2).2) := by
  induction levels generalizing wires with
  | nil => rfl
  | cons level levels ih => simp [pulses, ih]

theorem pulses_singleton : pulses device [level] wires =
    ([(pulse device level wires).1], (pulse device level wires).2) := rfl

@[simp] theorem length_pulses : (pulses device levels wires).1.length = levels.length := by
  induction levels generalizing wires with
  | nil => rfl
  | cons level levels ih => simp [pulses, ih]

theorem setScl_low_scl : (wires.setScl device false).scl = false := by
  cases h : wires.scl <;> simp [Wires.setScl, h]

theorem setScl_same (h : wires.scl = level) : wires.setScl device level = wires := by
  rcases wires with ⟨scl, sda, phase, state⟩
  cases h
  cases scl <;> rfl

theorem setScl_sda {clock : Bool} : (wires.setScl device clock).sda = wires.sda := by
  rw [Wires.setScl]
  split <;> rfl

theorem setSda_low : (Wires.mk false sda phase state).setSda device level =
    ⟨false, level, phase, state⟩ := by
  simp [Wires.setSda]

theorem setSda_sda : (wires.setSda device level).sda = level := by
  rw [Wires.setSda]
  split
  · rfl
  · split <;> rfl

theorem setSda_scl : (wires.setSda device level).scl = wires.scl := by
  rw [Wires.setSda]
  split
  · rfl
  · split <;> rfl

theorem setSda_same (h : wires.sda = level) : wires.setSda device level = wires := by
  subst h
  rw [Wires.setSda, if_neg (by cases h : wires.line <;> simp),
    if_neg (by cases h : wires.line <;> simp)]

@[simp] theorem pulse_scl : (pulse device level wires).2.scl = false := setScl_low_scl

theorem pulses_scl (h : wires.scl = false) : (pulses device levels wires).2.scl = false := by
  induction levels generalizing wires with
  | nil => exact h
  | cons level levels ih => exact ih pulse_scl

@[simp] theorem pulse_sda : (pulse device level wires).2.sda = level := by
  rw [pulse, setScl_sda, setScl_sda, setSda_sda]

/-- Nine pulses between two bytes are one exchange. -/
theorem pulses_exchange (byte : UInt8) (level sda : Bool) (port : Port σ) :
    pulses device (byteBits byte ++ [level]) (port.wires device sda) =
      (byteBits (device.exchange byte level port).1 ++ [(device.exchange byte level port).2.1],
        (device.exchange byte level port).2.2.wires device level) := by
  have hne : byteBits byte ≠ [] := fun h => by simpa using congrArg List.length h
  rw [pulses_append]
  rcases port with ⟨mode, state⟩
  cases mode with
  | silent =>
    simp [Port.wires, Port.phase, pulses_silent, Device.exchange, pulses, pulse_low, Phase.lets,
      Device.fall]
  | hearing isAddress =>
    simp [Port.wires, Port.phase, pulses_hearing, hne, Device.exchange, pulses, pulse_low,
      Phase.lets, Device.fall]
  | talking =>
    simp [Port.wires, Port.phase, pulses_telling, hne, Device.exchange, pulses, pulse_low,
      Phase.lets, Device.fall, byteBits_and]

/-! ### The bus between two transfers of a byte -/

/-- Whether the master holds the clock low, and the device. -/
structure Line (σ : Type) where
  held : Bool
  port : Port σ

/-- Wires that are between two bytes; those of an idle bus are both high. -/
inductive Carries (device : Device σ) : Wires σ → Line σ → Prop where
  | held (sda : Bool) (port : Port σ) : Carries device (port.wires device sda) ⟨true, port⟩
  | idle (state : σ) : Carries device ⟨true, true, .silent, state⟩ ⟨false, ⟨.silent, state⟩⟩

namespace Line

/-- A start condition, which goes unheard while the clock is held low. -/
def start (device : Device σ) (line : Line σ) : Line σ :=
  if line.held then line else ⟨true, ⟨.hearing true, device.start line.port.state⟩⟩

def restart (device : Device σ) (line : Line σ) : Line σ :=
  ⟨true, ⟨.hearing true, device.start line.port.state⟩⟩

/-- On an idle bus the data wire has to fall before it can rise. -/
def stop (device : Device σ) (line : Line σ) : Line σ :=
  ⟨false, .silent, device.stop (if line.held then line.port.state
    else device.start line.port.state)⟩

/-- Whether the byte is acknowledged. -/
def send (device : Device σ) (byte : UInt8) (line : Line σ) : Bool × Line σ :=
  let (_, level, port) := device.exchange byte true line.port
  (!level, ⟨true, port⟩)

def peek (device : Device σ) (line : Line σ) : UInt8 :=
  (device.exchange 0xFF true line.port).1

def answer (device : Device σ) (ack : Bool) (line : Line σ) : Line σ :=
  ⟨true, (device.exchange 0xFF (!ack) line.port).2.2⟩

end Line

/-- The eight bits of a byte from the device are through, its acknowledgement is not. -/
def Received (device : Device σ) (wires : Wires σ) (line : Line σ) : Prop :=
  wires.sda = true ∧ wires.scl = false ∧
    ∀ level, (pulse device level wires).2 =
      (device.exchange 0xFF level line.port).2.2.wires device level

variable {line : Line σ} {byte : UInt8}

theorem Carries.low (h : Carries device wires line) :
    ∃ sda, wires.setScl device false = line.port.wires device sda := by
  cases h with
  | held sda port => exact ⟨sda, rfl⟩
  | idle state => exact ⟨true, rfl⟩

theorem pulses_send :
    let after := pulses device (byteBits byte ++ [true]) (line.port.wires device sda)
    after.1.getLast? = some (!(line.send device byte).1) ∧
      Carries device after.2 (line.send device byte).2 := by
  rw [pulses_exchange]
  simp only [List.getLast?_append, List.getLast?_singleton, Option.some_or, Line.send,
    Bool.not_not, true_and]
  exact .held true _

theorem pulses_peek (hlow : wires = line.port.wires device sda) :
    let after := pulses device (byteBits 0xFF) wires
    byteOf after.1 = line.peek device ∧ Received device after.2 line := by
  subst hlow
  have hall (level : Bool) := @pulses_exchange σ device 0xFF level sda line.port
  simp only [pulses_append, pulses_singleton, Prod.mk.injEq] at hall
  have hbyte : byteBits 0xFF = List.replicate 7 true ++ [true] := by decide
  refine ⟨?_, ?_, ?_, fun level => (hall level).2⟩
  · have hbits := (List.append_inj (hall true).1 (by simp)).1
    rw [hbits, byteOf_byteBits, Line.peek]
  · rw [hbyte, pulses_append, pulses_singleton, pulse_sda]
  · rw [hbyte, pulses_append, pulses_singleton, pulse_scl]

/-! ### When a start or a stop is heard -/

/-- The device leaves the data wire alone. -/
def Mode.Calm (mode : Mode) : Prop := mode ≠ .talking

/-- The device does not wait for its address. -/
def Mode.Begun (mode : Mode) : Prop := mode ≠ .hearing true

/-- The device takes the next byte for data or not at all. -/
def Mode.Rests (mode : Mode) : Prop := mode.Calm ∧ mode.Begun

/-- Between two bytes, with the device in one of some modes. -/
def At (device : Device σ) (modes : Mode → Prop) (wires : Wires σ) (line : Line σ) : Prop :=
  Carries device wires line ∧ modes line.port.mode

theorem Mode.afterHearing_begun {ack : Bool} : (Mode.afterHearing isAddress byte ack).Begun := by
  unfold afterHearing Begun
  split_ifs <;> simp

theorem Mode.afterHearing_rests {ack : Bool}
    (h : isAddress = false ∨ byte.toNat.testBit 0 = false ∨ ack = false) :
    (Mode.afterHearing isAddress byte ack).Rests := by
  refine ⟨?_, afterHearing_begun⟩
  unfold afterHearing Calm
  rcases h with rfl | h | rfl
  · split_ifs <;> simp_all
  · rw [h]
    split_ifs <;> simp_all
  · simp

theorem Mode.rests_silent : Mode.silent.Rests := ⟨by simp [Calm], by simp [Begun]⟩

theorem Mode.not_address (h : (Mode.hearing isAddress).Begun) : isAddress = false := by
  cases isAddress with
  | false => rfl
  | true => exact absurd rfl h

theorem send_begun : (line.send device byte).2.port.mode.Begun := by
  rcases line with ⟨held, ⟨_ | isAddress | _, state⟩⟩
  · exact Mode.rests_silent.2
  · exact Mode.afterHearing_begun
  · exact Mode.rests_silent.2

theorem send_rests (h : line.port.mode.Begun ∨ byte.toNat.testBit 0 = false ∨
    (line.send device byte).1 = false) : (line.send device byte).2.port.mode.Rests := by
  rcases line with ⟨held, ⟨_ | isAddress | _, state⟩⟩
  · exact Mode.rests_silent
  · have hack : (Line.send device byte ⟨held, ⟨.hearing isAddress, state⟩⟩).1 =
        (device.hear isAddress byte state).1 := by
      simp [Line.send, Device.exchange]
    rw [hack] at h
    exact Mode.afterHearing_rests (h.imp_left Mode.not_address)
  · exact Mode.rests_silent

theorem answer_begun {ack : Bool} (h : line.port.mode.Begun) :
    (line.answer device ack).port.mode.Begun := by
  rcases line with ⟨held, ⟨_ | isAddress | _, state⟩⟩
  · exact Mode.rests_silent.2
  · exact Mode.afterHearing_begun
  · cases ack <;> simp [Line.answer, Device.exchange, Mode.Begun]

/-- The byte that is not acknowledged is the last one. -/
theorem answer_rests (h : line.port.mode.Begun) : (line.answer device false).port.mode.Rests := by
  rcases line with ⟨held, ⟨_ | isAddress | _, state⟩⟩
  · exact Mode.rests_silent
  · exact Mode.afterHearing_rests (.inl (Mode.not_address h))
  · exact Mode.rests_silent

theorem lets_of_calm (h : port.mode.Calm) : (port.phase device).lets = true := by
  rcases port with ⟨_ | isAddress | _, state⟩
  · rfl
  · rfl
  · exact absurd rfl h

theorem lets_silent : Phase.silent.lets = true := rfl

theorem lets_started : Phase.started.lets = true := rfl

/-- Both wires are high, and the data wire falls before the clock does. -/
theorem start_from_high (h : phase.lets = true) :
    ((Wires.mk true true phase state).setSda device false).setScl device false =
      Port.wires device false ⟨.hearing true, device.start state⟩ := by
  simp [Wires.setSda, Wires.setScl, Wires.line, h, Port.wires, Port.phase, Device.fall]

theorem Carries.start (h : Carries device wires line) :
    Carries device ((wires.setSda device false).setScl device false) (line.start device) := by
  cases h with
  | held sda port =>
    rw [Port.wires, setSda_low]
    exact .held false port
  | idle state =>
    rw [start_from_high lets_silent]
    exact .held false _

theorem Carries.restart (h : Carries device wires line) (hcalm : line.port.mode.Calm) :
    Carries device ((((wires.setSda device true).setScl device true).setSda device false).setScl
      device false) (line.restart device) := by
  cases h with
  | held sda port =>
    rw [Port.wires, setSda_low]
    exact start_from_high (lets_of_calm hcalm) ▸ .held false _
  | idle state =>
    rw [setSda_same (show (Wires.mk true true .silent state).sda = true from rfl)]
    exact start_from_high lets_silent ▸ .held false _

theorem Carries.stop (h : Carries device wires line) (hcalm : line.port.mode.Calm) :
    Carries device (((wires.setSda device false).setScl device true).setSda device true)
      (line.stop device) := by
  cases h with
  | held sda port =>
    have hwires : (Wires.mk true false (port.phase device) port.state).setSda device true =
        ⟨true, true, .silent, device.stop port.state⟩ := by
      simp [Wires.setSda, Wires.line, lets_of_calm hcalm]
    rw [Port.wires, setSda_low]
    exact hwires ▸ .idle _
  | idle state =>
    have hwires : (((Wires.mk true true .silent state).setSda device false).setScl device
        true).setSda device true = ⟨true, true, .silent, device.stop (device.start state)⟩ := by
      simp [Wires.setSda, Wires.setScl, Wires.line, lets_silent, lets_started]
    rw [hwires]
    exact .idle _

end WeatherStation.Lib.TwoWire
