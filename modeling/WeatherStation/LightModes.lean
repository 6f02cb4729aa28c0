import WeatherStation.BusLog
import WeatherStation.Lib.Runs
import WeatherStation.Ltr390

/-! The configuration writes of `my_ltr390_get_data`.  Each of its two phases
issues the second write only if the first one failed. -/
namespace WeatherStation.Ltr390
open Lib Gpio I2c

def mainCtrlMsgs (dev : Device) (mode : UInt8) : List Msg :=
  writeMsgs dev.i2cAddr registerMainCtrl mode

def intCfgMsgs (dev : Device) (intCfg : UInt8) : List Msg :=
  writeMsgs dev.i2cAddr registerIntCfg intCfg

def statusMsgs (dev : Device) : List Msg := readMsgs dev.i2cAddr registerMainStatus [0x00]

def dataMsgs (dev : Device) (dataReg : UInt8) : List Msg := readMsgs dev.i2cAddr dataReg [0, 0, 0]

/-- The data bit of a status register that was read. -/
def dataReady (status : List UInt8) : Prop := status.getD 0 0 &&& 0x08 = 0x08

instance (status : List UInt8) : Decidable (dataReady status) :=
  inferInstanceAs (Decidable (status.getD 0 0 &&& 0x08 = 0x08))

section
variable {β : Type} (bus : Bus β) (dev : Device)

/-- The device lets a phase pass its configuration: one of the writes goes
through, and the second one is issued only after the first one failed. -/
inductive Configures (mode intCfg : UInt8) : β → β → Prop
  | mainCtrl {b b' : β} {reply : Reply}
      (hctrl : bus.rtI2cTransfer (mainCtrlMsgs dev mode) b = (reply, b'))
      (hnum : reply.num = 1) : Configures mode intCfg b b'
  | intCfg {b b₁ b' : β} {reply reply' : Reply}
      (hctrl : bus.rtI2cTransfer (mainCtrlMsgs dev mode) b = (reply, b₁))
      (hfail : reply.num ≠ 1)
      (hcfg : bus.rtI2cTransfer (intCfgMsgs dev intCfg) b₁ = (reply', b'))
      (hnum : reply'.num = 1) : Configures mode intCfg b b'

/-- The device lets a phase read its status, and its data if there are any. -/
inductive Reads (dataReg : UInt8) : β → Option (List UInt8) → β → Prop
  | idle {b b' : β} {status : Reply}
      (hstatus : bus.rtI2cTransfer (statusMsgs dev) b = (status, b')) (hnum : status.num = 2)
      (hidle : ¬dataReady (receive [0x00] status.data)) : Reads dataReg b none b'
  | data {b b₁ b' : β} {status data : Reply}
      (hstatus : bus.rtI2cTransfer (statusMsgs dev) b = (status, b₁)) (hnum : status.num = 2)
      (hready : dataReady (receive [0x00] status.data))
      (hdata : bus.rtI2cTransfer (dataMsgs dev dataReg) b₁ = (data, b')) (hnum' : data.num = 2) :
      Reads dataReg b (some (receive [0, 0, 0] data.data)) b'

/-- A phase goes through and reads these bytes, if any. -/
def Phase (mode intCfg dataReg : UInt8) (b : β) (read : Option (List UInt8)) (b' : β) : Prop :=
  ∃ b₁, Configures bus dev mode intCfg b b₁ ∧ Reads bus dev dataReg b₁ read b'

def AlsPhase : β → Option (List UInt8) → β → Prop := Phase bus dev 0x02 0x14 registerAlsData

def UvsPhase : β → Option (List UInt8) → β → Prop := Phase bus dev 0x0A 0x34 registerUvsData

/-- The device lets both phases of a call go through. -/
def Answers : Option Device → β → Prop
  | none, _ => False
  | some dev, b => dev.bus.type = .i2cBus ∧
    ∃ als b₁ uvs b₂, AlsPhase bus dev b als b₁ ∧ UvsPhase bus dev b₁ uvs b₂

variable {bus dev} {mode intCfg dataReg : UInt8} {b b₁ b' : β} {reply reply' : Reply}
  {log : List Transfer}

theorem writeReg_answered (hdev : dev.bus.type = .i2cBus) {reg data : UInt8}
    (h : bus.rtI2cTransfer (writeMsgs dev.i2cAddr reg data) b = (reply, b')) :
    writeReg bus dev reg data b = (if reply.num = 1 then rtEok else -rtError, b') :=
  writeReg_run hdev h

theorem readRegs_answered (hdev : dev.bus.type = .i2cBus) {reg : UInt8} {buf : List UInt8}
    (h : bus.rtI2cTransfer (readMsgs dev.i2cAddr reg buf) b = (reply, b')) :
    readRegs bus dev reg buf b =
      ((if reply.num = 2 then rtEok else -rtError, receive buf reply.data), b') :=
  readRegs_run hdev h

theorem rtError_ne : -rtError ≠ 0 := by decide

/-- A first write that went through hides the second one. -/
theorem configureFails_mainCtrl (hdev : dev.bus.type = .i2cBus)
    (hctrl : bus.rtI2cTransfer (mainCtrlMsgs dev mode) b = (reply, b')) (hnum : reply.num = 1) :
    configureFails bus dev mode intCfg b = (false, b') := by
  unfold configureFails
  rw [bind_run (writeReg_answered hdev hctrl), if_pos hnum]
  rfl

theorem configureFails_intCfg (hdev : dev.bus.type = .i2cBus)
    (hctrl : bus.rtI2cTransfer (mainCtrlMsgs dev mode) b = (reply, b₁)) (hfail : reply.num ≠ 1)
    (hcfg : bus.rtI2cTransfer (intCfgMsgs dev intCfg) b₁ = (reply', b')) :
    configureFails bus dev mode intCfg b = (decide (reply'.num ≠ 1), b') := by
  unfold configureFails
  rw [bind_run (writeReg_answered hdev hctrl), if_neg hfail, if_pos rtError_ne,
    bind_run (writeReg_answered hdev hcfg)]
  by_cases hnum : reply'.num = 1
  · rw [if_pos hnum, hnum]
    rfl
  · rw [if_neg hnum, decide_eq_true hnum]
    rfl

theorem configureFails_iff (hdev : dev.bus.type = .i2cBus) :
    configureFails bus dev mode intCfg b = (false, b') ↔
      Configures bus dev mode intCfg b b' := by
  constructor
  · intro h
    rcases hctrl : bus.rtI2cTransfer (mainCtrlMsgs dev mode) b with ⟨reply, b₁⟩
    by_cases hnum : reply.num = 1
    · rw [configureFails_mainCtrl hdev hctrl hnum] at h
      cases h
      exact .mainCtrl hctrl hnum
    · rcases hcfg : bus.rtI2cTransfer (intCfgMsgs dev intCfg) b₁ with ⟨reply', b₂⟩
      rw [configureFails_intCfg hdev hctrl hnum hcfg, Prod.mk.injEq, decide_eq_false_iff_not,
        not_not] at h
      obtain ⟨hnum', rfl⟩ := h
      exact .intCfg hctrl hnum hcfg hnum'
  · intro h
    cases h with
    | mainCtrl hctrl hnum => exact configureFails_mainCtrl hdev hctrl hnum
    | intCfg hctrl hfail hcfg hnum =>
      rw [configureFails_intCfg hdev hctrl hfail hcfg, hnum]
      rfl

def readPhase (bus : Bus β) (dev : Device) (dataReg : UInt8) :
    StateM β (Except Unit (Option (List UInt8))) := do
  let (res, status) ← readRegs bus dev registerMainStatus [0x00]
  if res ≠ rtEok then return .error ()
  if status.getD 0 0 &&& 0x08 = 0x08 then
    let (res, buffer) ← readRegs bus dev dataReg [0, 0, 0]
    if res ≠ rtEok then return .error ()
    return .ok (some buffer)
  else return .ok none

theorem measure_configured (h : configureFails bus dev mode intCfg b = (false, b₁)) :
    measure bus dev mode intCfg dataReg b = readPhase bus dev dataReg b₁ := by
  unfold measure
  rw [bind_run h]
  rfl

theorem measure_not_configured (h : configureFails bus dev mode intCfg b = (true, b')) :
    measure bus dev mode intCfg dataReg b = (.error (), b') := by
  unfold measure
  rw [bind_run h]
  rfl

theorem readPhase_status_fails (hdev : dev.bus.type = .i2cBus)
    (hstatus : bus.rtI2cTransfer (statusMsgs dev) b = (reply, b')) (hfail : reply.num ≠ 2) :
    readPhase bus dev dataReg b = (.error (), b') := by
  unfold readPhase
  rw [bind_run (readRegs_answered hdev hstatus), if_neg hfail]
  rfl

theorem readPhase_idle (hdev : dev.bus.type = .i2cBus)
    (hstatus : bus.rtI2cTransfer (statusMsgs dev) b = (reply, b')) (hnum : reply.num = 2)
    (hidle : ¬dataReady (receive [0x00] reply.data)) :
    readPhase bus dev dataReg b = (.ok none, b') := by
  unfold readPhase
  rw [bind_run (readRegs_answered hdev hstatus), if_pos hnum]
  dsimp only
  rw [if_neg (not_not.mpr rfl)]
  exact congrFun (if_neg hidle) b'

theorem readPhase_ready (hdev : dev.bus.type = .i2cBus)
    (hstatus : bus.rtI2cTransfer (statusMsgs dev) b = (reply, b₁)) (hnum : reply.num = 2)
    (hready : dataReady (receive [0x00] reply.data))
    (hdata : bus.rtI2cTransfer (dataMsgs dev dataReg) b₁ = (reply', b')) :
    readPhase bus dev dataReg b =
      (if reply'.num = 2 then .ok (some (receive [0, 0, 0] reply'.data)) else .error (), b') := by
  unfold readPhase
  rw [dataReady] at hready
  rw [bind_run (readRegs_answered hdev hstatus), if_pos hnum]
  dsimp only
  rw [if_neg (not_not.mpr rfl), if_pos hready, bind_run (readRegs_answered hdev hdata)]
  by_cases hnum' : reply'.num = 2
  · rw [if_pos hnum', if_pos hnum']
    rfl
  · rw [if_neg hnum', if_neg hnum']
    rfl

theorem readPhase_iff (hdev : dev.bus.type = .i2cBus) {read : Option (List UInt8)} :
    readPhase bus dev dataReg b = (.ok read, b') ↔ Reads bus dev dataReg b read b' := by
  constructor
  · intro h
    rcases hstatus : bus.rtI2cTransfer (statusMsgs dev) b with ⟨reply, b₁⟩
    by_cases hnum : reply.num = 2
    · by_cases hready : dataReady (receive [0x00] reply.data)
      · rcases hdata : bus.rtI2cTransfer (dataMsgs dev dataReg) b₁ with ⟨reply', b₂⟩
        rw [readPhase_ready hdev hstatus hnum hready hdata] at h
        by_cases hnum' : reply'.num = 2
        · rw [if_pos hnum'] at h
          cases h
          exact .data hstatus hnum hready hdata hnum'
        · rw [if_neg hnum'] at h
          cases h
      · rw [readPhase_idle hdev hstatus hnum hready] at h
        cases h
        exact .idle hstatus hnum hready
    · rw [readPhase_status_fails hdev hstatus hnum] at h
      cases h
  · intro h
    cases h with
    | idle hstatus hnum hidle => exact readPhase_idle hdev hstatus hnum hidle
    | data hstatus hnum hready hdata hnum' =>
      rw [readPhase_ready hdev hstatus hnum hready hdata, if_pos hnum']

theorem measure_iff (hdev : dev.bus.type = .i2cBus) {read : Option (List UInt8)} :
    measure bus dev mode intCfg dataReg b = (.ok read, b') ↔
      Phase bus dev mode intCfg dataReg b read b' := by
  rcases hconfigure : configureFails bus dev mode intCfg b with ⟨fails, b₁⟩
  cases fails with
  | true =>
    rw [measure_not_configured hconfigure]
    constructor
    · intro h
      cases h
    · rintro ⟨b₂, hconfigures, -⟩
      rw [(configureFails_iff hdev).mpr hconfigures] at hconfigure
      cases hconfigure
  | false =>
    rw [measure_configured hconfigure, readPhase_iff hdev]
    constructor
    · exact fun h => ⟨b₁, (configureFails_iff hdev).mp hconfigure, h⟩
    · rintro ⟨b₂, hconfigures, hreads⟩
      rw [(configureFails_iff hdev).mpr hconfigures] at hconfigure
      cases hconfigure
      exact hreads

theorem measure_unsupported (hdev : dev.bus.type ≠ .i2cBus) :
    measure bus dev mode intCfg dataReg b = (.error (), b) := by
  apply measure_not_configured
  unfold configureFails writeReg
  rw [bind_run (writeReg_unsupported hdev), if_pos rtError_ne,
    bind_run (writeReg_unsupported hdev)]
  rfl

/-- The light is stored as soon as it was read. -/
def Data.withAls (data : Data) : Option (List UInt8) → Data
  | some buffer => { data with lux := luxOfAls (uint24OfBytes buffer) }
  | none => data

def Data.withUvs (data : Data) : Option (List UInt8) → Data
  | some buffer => { data with uvi := uviOfUvs (uint24OfBytes buffer) }
  | none => data

variable {data : Data} {als uvs : Option (List UInt8)}

def measureAls (bus : Bus β) (dev : Device) : StateM β (Except Unit (Option (List UInt8))) :=
  measure bus dev 0x02 0x14 registerAlsData

def measureUvs (bus : Bus β) (dev : Device) : StateM β (Except Unit (Option (List UInt8))) :=
  measure bus dev 0x0A 0x34 registerUvsData

theorem getData_als_fails (hals : measureAls bus dev b = (.error (), b')) :
    myLtr390GetData bus (some dev) data b = ((-rtError, data), b') := by
  unfold myLtr390GetData
  rw [measureAls] at hals
  dsimp only
  rw [bind_run hals]
  rfl

theorem getData_uvs_fails (hals : measureAls bus dev b = (.ok als, b₁))
    (huvs : measureUvs bus dev b₁ = (.error (), b')) :
    myLtr390GetData bus (some dev) data b = ((-rtError, data.withAls als), b') := by
  unfold myLtr390GetData
  rw [measureAls] at hals
  rw [measureUvs] at huvs
  dsimp only
  rw [bind_run hals]
  dsimp only
  rw [bind_run huvs]
  rfl

theorem getData_answered (hals : measureAls bus dev b = (.ok als, b₁))
    (huvs : measureUvs bus dev b₁ = (.ok uvs, b')) :
    myLtr390GetData bus (some dev) data b = ((rtEok, (data.withAls als).withUvs uvs), b') := by
  unfold myLtr390GetData
  rw [measureAls] at hals
  rw [measureUvs] at huvs
  dsimp only
  rw [bind_run hals]
  dsimp only
  rw [bind_run huvs]
  rfl

/-- The three courses of a call. -/
theorem getData_cases (dev : Device) (data : Data) (b : β) :
    (∃ b', measureAls bus dev b = (.error (), b') ∧
      myLtr390GetData bus (some dev) data b = ((-rtError, data), b')) ∨
    (∃ als b₁ b', measureAls bus dev b = (.ok als, b₁) ∧
      measureUvs bus dev b₁ = (.error (), b') ∧
      myLtr390GetData bus (some dev) data b = ((-rtError, data.withAls als), b')) ∨
    ∃ als b₁ uvs b', measureAls bus dev b = (.ok als, b₁) ∧
      measureUvs bus dev b₁ = (.ok uvs, b') ∧
      myLtr390GetData bus (some dev) data b =
        ((rtEok, (data.withAls als).withUvs uvs), b') := by
  rcases hals : measureAls bus dev b with ⟨_ | als, b₁⟩
  · exact .inl ⟨b₁, rfl, getData_als_fails hals⟩
  · rcases huvs : measureUvs bus dev b₁ with ⟨_ | uvs, b'⟩
    · exact .inr (.inl ⟨als, b₁, b', rfl, huvs, getData_uvs_fails hals huvs⟩)
    · exact .inr (.inr ⟨als, b₁, uvs, b', rfl, huvs, getData_answered hals huvs⟩)

theorem supported_of_measure (h : measure bus dev mode intCfg dataReg b = (.ok als, b')) :
    dev.bus.type = .i2cBus := by
  by_contra hdev
  rw [measure_unsupported hdev] at h
  cases h

theorem measureAls_iff (hdev : dev.bus.type = .i2cBus) :
    measureAls bus dev b = (.ok als, b') ↔ AlsPhase bus dev b als b' := measure_iff hdev

theorem measureUvs_iff (hdev : dev.bus.type = .i2cBus) :
    measureUvs bus dev b = (.ok uvs, b') ↔ UvsPhase bus dev b uvs b' := measure_iff hdev

/-- The call succeeds exactly when the device answers both phases. -/
theorem getData_ok_iff {ltr390 : Option Device} :
    (myLtr390GetData bus ltr390 data b).1.1 = rtEok ↔ Answers bus ltr390 b := by
  cases ltr390 with
  | none => exact iff_of_false rtError_ne id
  | some dev =>
    rcases getData_cases dev data b with
      ⟨b', hals, hrun⟩ | ⟨als, b₁, b', hals, huvs, hrun⟩ | ⟨als, b₁, uvs, b', hals, huvs, hrun⟩
    · rw [hrun]
      apply iff_of_false rtError_ne
      rintro ⟨hdev, als, b₁, _, _, hphase, -⟩
      rw [(measureAls_iff hdev).mpr hphase] at hals
      cases hals
    · rw [hrun]
      apply iff_of_false rtError_ne
      rintro ⟨hdev, als', b₂, uvs, b₃, hphase, hphase'⟩
      rw [(measureAls_iff hdev).mpr hphase] at hals
      cases hals
      rw [(measureUvs_iff hdev).mpr hphase'] at huvs
      cases huvs
    · rw [hrun]
      have hdev := supported_of_measure hals
      exact iff_of_true rfl
        ⟨hdev, als, b₁, uvs, b', (measureAls_iff hdev).mp hals, (measureUvs_iff hdev).mp huvs⟩

/-- Both configuration writes of a phase are among these transfers and went
through. -/
def Configured (dev : Device) (mode intCfg : UInt8) (transfers : List Transfer) : Prop :=
  (∃ reply, reply.num = 1 ∧ ⟨mainCtrlMsgs dev mode, reply⟩ ∈ transfers) ∧
    ∃ reply, reply.num = 1 ∧ ⟨intCfgMsgs dev intCfg, reply⟩ ∈ transfers

/-- Each of the two status reads comes behind the writes of its phase. -/
def PhasesConfigured (dev : Device) (log : List Transfer) : Prop :=
  ∃ before als between uvs after,
    log = before ++ ⟨statusMsgs dev, als⟩ :: (between ++ ⟨statusMsgs dev, uvs⟩ :: after) ∧
      Configured dev 0x02 0x14 before ∧ Configured dev 0x0A 0x34 between

/-- The mode that the call has selected: a write to MAIN_CTRL that goes through selects one. -/
def selectMode (mode : Option UInt8) (transfer : Transfer) : Option UInt8 :=
  match transfer.msgs with
  | [⟨_, _, [reg, value]⟩] =>
    if reg = registerMainCtrl ∧ transfer.reply.num = 1 then some value else mode
  | _ => mode

/-- Light data are read in the mode for light, and UV data in the mode for UV. -/
def InMode (dev : Device) (mode : Option UInt8) (transfer : Transfer) : Prop :=
  transfer.reply.num = 2 →
    (transfer.msgs = dataMsgs dev registerAlsData → mode = some 0x02) ∧
      (transfer.msgs = dataMsgs dev registerUvsData → mode = some 0x0A)

/-- Each value is the old one or computed from data that the call has read. -/
structure Computed (dev : Device) (log : List Transfer) (data stored : Data) : Prop where
  lux : stored.lux = data.lux ∨ ∃ reply, ⟨dataMsgs dev registerAlsData, reply⟩ ∈ log ∧
    reply.num = 2 ∧ stored.lux = luxOfAls (uint24OfBytes (receive [0, 0, 0] reply.data))
  uvi : stored.uvi = data.uvi ∨ ∃ reply, ⟨dataMsgs dev registerUvsData, reply⟩ ∈ log ∧
    reply.num = 2 ∧ stored.uvi = uviOfUvs (uint24OfBytes (receive [0, 0, 0] reply.data))

/-- A call that returns RT_EOK has configured both phases, and whatever a call returns,
what it stores comes from data read in the mode that it selected for them. -/
def ModesConfigured (bus : Bus β) (ltr390 : Option Device) (data : Data) (b : β) : Prop :=
  let run := myLtr390GetData bus.logged ltr390 data (b, [])
  (run.1.1 = rtEok → ∃ dev, ltr390 = some dev ∧ PhasesConfigured dev run.2.2) ∧
    ∀ dev, ltr390 = some dev →
      Computed dev run.2.2 data run.1.2 ∧ Along selectMode (InMode dev) none run.2.2

/-- The device refuses the mode for light, but lets the phase go through on its second
write, and hands out light data. -/
def LightUnselected (bus : Bus β) : Option Device → β → Prop
  | none, _ => False
  | some dev, b => dev.bus.type = .i2cBus ∧ ∃ ctrl b₁ cfg b₂ buffer b₃,
    bus.rtI2cTransfer (mainCtrlMsgs dev 0x02) b = (ctrl, b₁) ∧ ctrl.num ≠ 1 ∧
      bus.rtI2cTransfer (intCfgMsgs dev 0x14) b₁ = (cfg, b₂) ∧ cfg.num = 1 ∧
        Reads bus dev registerAlsData b₂ (some buffer) b₃

section
variable {s s' : β × List Transfer} {msgs : List Msg} {read : Option (List UInt8)}

theorem Configures.of_logged (h : Configures bus.logged dev mode intCfg s s') :
    Configures bus dev mode intCfg s.1 s'.1 := by
  cases h with
  | mainCtrl hctrl hnum => exact .mainCtrl (logged_transfer_iff.mp hctrl).1 hnum
  | intCfg hctrl hfail hcfg hnum =>
    exact .intCfg (logged_transfer_iff.mp hctrl).1 hfail (logged_transfer_iff.mp hcfg).1 hnum

theorem Reads.of_logged (h : Reads bus.logged dev dataReg s read s') :
    Reads bus dev dataReg s.1 read s'.1 := by
  cases h with
  | idle hstatus hnum hidle => exact .idle (logged_transfer_iff.mp hstatus).1 hnum hidle
  | data hstatus hnum hready hdata hnum' =>
    exact .data (logged_transfer_iff.mp hstatus).1 hnum hready
      (logged_transfer_iff.mp hdata).1 hnum'

theorem Phase.of_logged (h : Phase bus.logged dev mode intCfg dataReg s read s') :
    Phase bus dev mode intCfg dataReg s.1 read s'.1 := by
  obtain ⟨s₁, hconfigures, hreads⟩ := h
  exact ⟨s₁.1, hconfigures.of_logged, hreads.of_logged⟩

theorem Configures.logged (h : Configures bus dev mode intCfg b b') (log : List Transfer) :
    ∃ log', Configures bus.logged dev mode intCfg (b, log) (b', log') := by
  cases h with
  | mainCtrl hctrl hnum => exact ⟨_, .mainCtrl (logged_transfer_iff.mpr ⟨hctrl, rfl⟩) hnum⟩
  | intCfg hctrl hfail hcfg hnum =>
    exact ⟨_, .intCfg (logged_transfer_iff.mpr ⟨hctrl, rfl⟩) hfail
      (logged_transfer_iff.mpr ⟨hcfg, rfl⟩) hnum⟩

theorem Reads.logged (h : Reads bus dev dataReg b read b') (log : List Transfer) :
    ∃ log', Reads bus.logged dev dataReg (b, log) read (b', log') := by
  cases h with
  | idle hstatus hnum hidle =>
    exact ⟨_, .idle (logged_transfer_iff.mpr ⟨hstatus, rfl⟩) hnum hidle⟩
  | data hstatus hnum hready hdata hnum' =>
    exact ⟨_, .data (logged_transfer_iff.mpr ⟨hstatus, rfl⟩) hnum hready
      (logged_transfer_iff.mpr ⟨hdata, rfl⟩) hnum'⟩

theorem Phase.logged (h : Phase bus dev mode intCfg dataReg b read b') (log : List Transfer) :
    ∃ log', Phase bus.logged dev mode intCfg dataReg (b, log) read (b', log') := by
  obtain ⟨b₁, hconfigures, hreads⟩ := h
  obtain ⟨log₁, hconfigures⟩ := hconfigures.logged log
  obtain ⟨log', hreads⟩ := hreads.logged log₁
  exact ⟨log', _, hconfigures, hreads⟩

/-- The log does not change what the device answers. -/
theorem answers_logged {ltr390 : Option Device} (log : List Transfer) :
    Answers bus.logged ltr390 (b, log) ↔ Answers bus ltr390 b := by
  cases ltr390 with
  | none => exact Iff.rfl
  | some dev =>
    apply and_congr_right
    intro _
    constructor
    · rintro ⟨als, s₁, uvs, s₂, hals, huvs⟩
      exact ⟨als, s₁.1, uvs, s₂.1, hals.of_logged, huvs.of_logged⟩
    · rintro ⟨als, b₁, uvs, b₂, hals, huvs⟩
      obtain ⟨log₁, hals⟩ := hals.logged log
      obtain ⟨log₂, huvs⟩ := huvs.logged log₁
      exact ⟨als, _, uvs, _, hals, huvs⟩

/-- None of these transfers brings data. -/
def Unread (dev : Device) (transfers : List Transfer) : Prop :=
  ∀ transfer ∈ transfers, ∀ reg, transfer.msgs = dataMsgs dev reg → transfer.reply.num ≠ 2

theorem Unread.nil : Unread dev [] := fun _ h => absurd h List.not_mem_nil

theorem Unread.append {left right : List Transfer} (hleft : Unread dev left)
    (hright : Unread dev right) : Unread dev (left ++ right) :=
  List.forall_mem_append.mpr ⟨hleft, hright⟩

theorem unread_write {reg value : UInt8} :
    Unread dev [⟨writeMsgs dev.i2cAddr reg value, reply⟩] := by
  simp [Unread, writeMsgs, dataMsgs, readMsgs]

theorem unread_status : Unread dev [⟨statusMsgs dev, reply⟩] := by
  simp [Unread, statusMsgs, dataMsgs, readMsgs]

theorem unread_failed {reg : UInt8} (hfail : reply.num ≠ 2) :
    Unread dev [⟨dataMsgs dev reg, reply⟩] := by
  simp [Unread, hfail]

theorem Unread.inMode {transfers : List Transfer} (h : Unread dev transfers)
    (selected : Option UInt8) : Along selectMode (InMode dev) selected transfers := by
  induction transfers generalizing selected with
  | nil => trivial
  | cons transfer transfers ih =>
    obtain ⟨hfirst, hrest⟩ := List.forall_mem_cons.mp h
    refine ⟨fun hnum => ⟨fun hals => ?_, fun huvs => ?_⟩, ih hrest _⟩
    · exact absurd hnum (hfirst _ hals)
    · exact absurd hnum (hfirst _ huvs)

theorem configureFails_log (s : β × List Transfer) :
    ∃ new, (configureFails bus.logged dev mode intCfg s).2.2 = s.2 ++ new ∧ Unread dev new := by
  by_cases hdev : dev.bus.type = .i2cBus
  · rcases hctrl : bus.logged.rtI2cTransfer (mainCtrlMsgs dev mode) s with ⟨reply, s₁⟩
    have hlog := (logged_transfer_iff.mp hctrl).2
    by_cases hnum : reply.num = 1
    · rw [configureFails_mainCtrl hdev hctrl hnum]
      exact ⟨_, hlog, unread_write⟩
    · rcases hcfg : bus.logged.rtI2cTransfer (intCfgMsgs dev intCfg) s₁ with ⟨reply', s₂⟩
      rw [configureFails_intCfg hdev hctrl hnum hcfg]
      refine ⟨[⟨mainCtrlMsgs dev mode, reply⟩] ++ [⟨intCfgMsgs dev intCfg, reply'⟩], ?_,
        unread_write.append unread_write⟩
      rw [(logged_transfer_iff.mp hcfg).2, hlog, List.append_assoc]
  · unfold configureFails writeReg
    rw [bind_run (writeReg_unsupported hdev), if_pos rtError_ne,
      bind_run (writeReg_unsupported hdev)]
    exact ⟨[], (List.append_nil _).symm, .nil⟩

theorem readPhase_log (hdev : dev.bus.type = .i2cBus) (s : β × List Transfer) :
    ∃ new, (readPhase bus.logged dev dataReg s).2.2 = s.2 ++ new ∧
      ((readPhase bus.logged dev dataReg s).1 = .error () → Unread dev new) := by
  rcases hstatus : bus.logged.rtI2cTransfer (statusMsgs dev) s with ⟨reply, s₁⟩
  have hlog := (logged_transfer_iff.mp hstatus).2
  by_cases hnum : reply.num = 2
  · by_cases hready : dataReady (receive [0x00] reply.data)
    · rcases hdata : bus.logged.rtI2cTransfer (dataMsgs dev dataReg) s₁ with ⟨reply', s₂⟩
      rw [readPhase_ready hdev hstatus hnum hready hdata]
      refine ⟨[⟨statusMsgs dev, reply⟩, ⟨dataMsgs dev dataReg, reply'⟩], ?_, fun hfails => ?_⟩
      · rw [(logged_transfer_iff.mp hdata).2, hlog, List.append_assoc]
        rfl
      · have hfail : reply'.num ≠ 2 := by
          intro hnum'
          rw [if_pos hnum'] at hfails
          cases hfails
        exact unread_status.append (unread_failed hfail)
    · rw [readPhase_idle hdev hstatus hnum hready]
      exact ⟨_, hlog, fun _ => unread_status⟩
  · rw [readPhase_status_fails hdev hstatus hnum]
    exact ⟨_, hlog, fun _ => unread_status⟩

/-- A phase adds to the log, and if it fails it has read no data. -/
theorem measure_log (s : β × List Transfer) :
    ∃ new, (measure bus.logged dev mode intCfg dataReg s).2.2 = s.2 ++ new ∧
      ((measure bus.logged dev mode intCfg dataReg s).1 = .error () → Unread dev new) := by
  by_cases hdev : dev.bus.type = .i2cBus
  · obtain ⟨config, hconfig, hunread⟩ :=
      @configureFails_log β bus dev mode intCfg s
    rcases hconfigure : configureFails bus.logged dev mode intCfg s with ⟨fails, s₁⟩
    rw [hconfigure] at hconfig
    cases fails with
    | true =>
      rw [measure_not_configured hconfigure]
      exact ⟨config, hconfig, fun _ => hunread⟩
    | false =>
      rw [measure_configured hconfigure]
      obtain ⟨new, hlog, hfails⟩ := @readPhase_log β bus dev dataReg hdev s₁
      refine ⟨config ++ new, ?_, fun h => hunread.append (hfails h)⟩
      rw [hlog, hconfig, List.append_assoc]
  · rw [measure_unsupported hdev]
    exact ⟨[], (List.append_nil _).symm, fun _ => .nil⟩

/-- The transfers of a phase that reads data end with that of the data. -/
theorem Phase.read_log {buffer : List UInt8}
    (h : Phase bus.logged dev mode intCfg dataReg s (some buffer) s') :
    ∃ before reply, s'.2 = before ++ [⟨dataMsgs dev dataReg, reply⟩] ∧ reply.num = 2 ∧
      buffer = receive [0, 0, 0] reply.data := by
  obtain ⟨s₁, -, hreads⟩ := h
  cases hreads with
  | data hstatus hnum hready hdata hnum' =>
    exact ⟨_, _, (logged_transfer_iff.mp hdata).2, hnum', rfl⟩

@[simp] theorem selectMode_mainCtrl (selected : Option UInt8) :
    selectMode selected ⟨mainCtrlMsgs dev mode, reply⟩ =
      if reply.num = 1 then some mode else selected := by
  simp [selectMode, mainCtrlMsgs, writeMsgs]

@[simp] theorem selectMode_intCfg (selected : Option UInt8) :
    selectMode selected ⟨intCfgMsgs dev intCfg, reply⟩ = selected := by
  simp [selectMode, intCfgMsgs, writeMsgs, registerMainCtrl, registerIntCfg]

@[simp] theorem selectMode_status (selected : Option UInt8) :
    selectMode selected ⟨statusMsgs dev, reply⟩ = selected := rfl

theorem inMode_als (selected : Option UInt8) (hnum : reply.num = 2) :
    InMode dev selected ⟨dataMsgs dev registerAlsData, reply⟩ ↔ selected = some 0x02 := by
  simp [InMode, hnum, dataMsgs, readMsgs, registerAlsData, registerUvsData]

theorem Reads.inMode_iff (h : Reads bus.logged dev registerAlsData s read s') :
    Along selectMode (InMode dev) none s'.2 ↔ Along selectMode (InMode dev) none s.2 ∧
      (read.isSome = true → runs selectMode none s.2 = some 0x02) := by
  cases h with
  | idle hstatus hnum hidle =>
    rw [(logged_transfer_iff.mp hstatus).2, along_append, and_iff_left (unread_status.inMode _)]
    exact (and_iff_left nofun).symm
  | data hstatus hnum hready hdata hnum' =>
    rw [(logged_transfer_iff.mp hdata).2, (logged_transfer_iff.mp hstatus).2, along_append,
      along_append, and_iff_left (unread_status.inMode _), runs_append, runs_cons, runs_nil,
      selectMode_status, Along, inMode_als _ hnum']
    exact and_congr_right fun _ => ⟨fun h _ => h.1, fun h => ⟨h rfl, trivial⟩⟩

/-- Light data are read in their mode unless the phase went through on its second write. -/
theorem AlsPhase.inMode_iff (hdev : dev.bus.type = .i2cBus)
    (h : AlsPhase bus.logged dev (b, []) read s') :
    Along selectMode (InMode dev) none s'.2 ↔
      ¬(read.isSome = true ∧ LightUnselected bus (some dev) b) := by
  obtain ⟨s₁, hconfigures, hreads⟩ := h
  rw [hreads.inMode_iff]
  cases hconfigures with
  | mainCtrl hctrl hnum =>
    obtain ⟨hctrl, hlog⟩ := logged_transfer_iff.mp hctrl
    rw [hlog, List.nil_append, runs_cons, runs_nil, selectMode_mainCtrl, if_pos hnum]
    apply iff_of_true ⟨unread_write.inMode _, fun _ => rfl⟩
    rintro ⟨-, -, reply, b₁, _, _, _, _, hctrl', hfail, -⟩
    rw [hctrl] at hctrl'
    cases hctrl'
    exact hfail hnum
  | intCfg hctrl hfail hcfg hnum =>
    obtain ⟨hctrl, hlog⟩ := logged_transfer_iff.mp hctrl
    obtain ⟨hcfg, hlog'⟩ := logged_transfer_iff.mp hcfg
    have hconfigured : Along selectMode (InMode dev) none s₁.2 := by
      rw [hlog', hlog]
      exact (unread_write.append unread_write).inMode none
    rw [and_iff_right hconfigured, hlog', hlog, List.nil_append, runs_append, runs_cons, runs_nil,
      runs_cons, runs_nil, selectMode_mainCtrl, if_neg hfail, selectMode_intCfg, not_and]
    cases read with
    | none => exact iff_of_true nofun nofun
    | some buffer =>
      refine iff_of_false (fun h => Option.some_ne_none _ (h rfl).symm) fun h => h rfl ?_
      exact ⟨hdev, _, _, _, _, buffer, s'.1, hctrl, hfail, hcfg, hnum, hreads.of_logged⟩

section
variable {log : List Transfer} {stored : Data}

theorem Computed.refl (dev : Device) (log : List Transfer) (data : Data) :
    Computed dev log data data := ⟨.inl rfl, .inl rfl⟩

theorem Computed.append (h : Computed dev log data stored) (new : List Transfer) :
    Computed dev (log ++ new) data stored where
  lux := h.lux.imp_right fun ⟨reply, hmem, h⟩ => ⟨reply, List.mem_append_left new hmem, h⟩
  uvi := h.uvi.imp_right fun ⟨reply, hmem, h⟩ => ⟨reply, List.mem_append_left new hmem, h⟩

theorem AlsPhase.computed (h : AlsPhase bus.logged dev s als s') :
    Computed dev s'.2 data (data.withAls als) := by
  cases als with
  | none => exact .refl dev s'.2 data
  | some buffer =>
    obtain ⟨before, reply, hlog, hnum, rfl⟩ := h.read_log
    refine ⟨.inr ⟨reply, ?_, hnum, rfl⟩, .inl rfl⟩
    rw [hlog]
    exact List.mem_append_right before (List.mem_singleton_self _)

theorem UvsPhase.computed (h : UvsPhase bus.logged dev s uvs s')
    (hstored : Computed dev s'.2 data stored) :
    Computed dev s'.2 data (stored.withUvs uvs) := by
  cases uvs with
  | none => exact hstored
  | some buffer =>
    obtain ⟨before, reply, hlog, hnum, rfl⟩ := h.read_log
    refine ⟨hstored.lux, .inr ⟨reply, ?_, hnum, rfl⟩⟩
    rw [hlog]
    exact List.mem_append_right before (List.mem_singleton_self _)

end

theorem measureAls_log (s : β × List Transfer) :
    ∃ new, (measureAls bus.logged dev s).2.2 = s.2 ++ new ∧
      ((measureAls bus.logged dev s).1 = .error () → Unread dev new) := measure_log s

theorem measureUvs_log (s : β × List Transfer) :
    ∃ new, (measureUvs bus.logged dev s).2.2 = s.2 ++ new ∧
      ((measureUvs bus.logged dev s).1 = .error () → Unread dev new) := measure_log s

/-- What is stored comes from data that the call has read. -/
theorem getData_computed (dev : Device) (data : Data) (b : β) :
    Computed dev (myLtr390GetData bus.logged (some dev) data (b, [])).2.2 data
      (myLtr390GetData bus.logged (some dev) data (b, [])).1.2 := by
  rcases @getData_cases _ bus.logged dev data (b, []) with
    ⟨s', hals, hrun⟩ | ⟨als, s₁, s', hals, huvs, hrun⟩ | ⟨als, s₁, uvs, s', hals, huvs, hrun⟩
  · rw [hrun]
    exact .refl dev s'.2 data
  · have hdev := supported_of_measure hals
    obtain ⟨new, hlog, -⟩ := @measureUvs_log _ bus dev s₁
    rw [huvs] at hlog
    rw [hrun]
    dsimp only
    rw [hlog]
    exact ((measureAls_iff hdev).mp hals).computed.append new
  · have hdev := supported_of_measure hals
    obtain ⟨new, hlog, -⟩ := @measureUvs_log _ bus dev s₁
    rw [huvs] at hlog
    rw [hrun]
    apply ((measureUvs_iff hdev).mp huvs).computed
    rw [hlog]
    exact ((measureAls_iff hdev).mp hals).computed.append new

theorem lightUnselected_logged (h : LightUnselected bus (some dev) b) :
    ∃ buffer s', AlsPhase bus.logged dev (b, []) (some buffer) s' := by
  obtain ⟨-, ctrl, b₁, cfg, b₂, buffer, b₃, hctrl, hfail, hcfg, hnum, hreads⟩ := h
  obtain ⟨log, hphase⟩ := Phase.logged ⟨b₂, .intCfg hctrl hfail hcfg hnum, hreads⟩ []
  exact ⟨buffer, (b₃, log), hphase⟩

/-- Of a call that fails, only the light data can have been read in another mode. -/
theorem getData_inMode (hanswers : ¬Answers bus (some dev) b) :
    Along selectMode (InMode dev) none
        (myLtr390GetData bus.logged (some dev) data (b, [])).2.2 ↔
      ¬LightUnselected bus (some dev) b := by
  rcases @getData_cases _ bus.logged dev data (b, []) with
    ⟨s', hals, hrun⟩ | ⟨als, s₁, s', hals, huvs, hrun⟩ | ⟨als, s₁, uvs, s', hals, huvs, hrun⟩
  · obtain ⟨new, hlog, hunread⟩ := @measureAls_log _ bus dev (b, [])
    rw [hals] at hlog hunread
    rw [hrun]
    dsimp only at hlog ⊢
    rw [hlog]
    apply iff_of_true ((hunread rfl).inMode none)
    intro hlight
    obtain ⟨buffer, s₁, hphase⟩ := lightUnselected_logged hlight
    rw [(measureAls_iff hlight.1).mpr hphase] at hals
    cases hals
  · have hdev := supported_of_measure hals
    have hphase := (measureAls_iff hdev).mp hals
    obtain ⟨new, hlog, hunread⟩ := @measureUvs_log _ bus dev s₁
    rw [huvs] at hlog hunread
    rw [hrun]
    dsimp only at hlog ⊢
    rw [hlog, along_append, and_iff_left ((hunread rfl).inMode _), hphase.inMode_iff hdev]
    apply not_congr
    refine ⟨And.right, fun hlight => ⟨?_, hlight⟩⟩
    obtain ⟨buffer, s₂, hphase'⟩ := lightUnselected_logged hlight
    rw [(measureAls_iff hdev).mpr hphase'] at hals
    cases hals
    rfl
  · have hdev := supported_of_measure hals
    have hok : (myLtr390GetData bus.logged (some dev) data (b, [])).1.1 = rtEok := by rw [hrun]
    exact absurd ((answers_logged []).mp (getData_ok_iff.mp hok)) hanswers

theorem writes_singleton_le (transfer : Transfer) : writes [transfer] ≤ 1 := List.countP_le_length

theorem writes_failed {msgs : List Msg} (hfail : reply.num ≠ 1) : writes [⟨msgs, reply⟩] = 0 := by
  simp [writes, Transfer.isWrite, hfail]

theorem writes_read {reg : UInt8} {buf : List UInt8} :
    writes [⟨readMsgs dev.i2cAddr reg buf, reply⟩] = 0 := by
  simp [writes, Transfer.isWrite, readMsgs]

/-- A phase adds at most one successful register write to the log. -/
theorem Configures.writes_le (h : Configures bus.logged dev mode intCfg s s') :
    writes s'.2 ≤ writes s.2 + 1 := by
  cases h with
  | mainCtrl hctrl hnum =>
    rw [(logged_transfer_iff.mp hctrl).2, writes_append]
    exact Nat.add_le_add_left (writes_singleton_le _) _
  | intCfg hctrl hfail hcfg hnum =>
    rw [(logged_transfer_iff.mp hcfg).2, (logged_transfer_iff.mp hctrl).2, writes_append,
      writes_append, writes_failed hfail]
    exact Nat.add_le_add_left (writes_singleton_le _) _

theorem Reads.writes_eq (h : Reads bus.logged dev dataReg s read s') :
    writes s'.2 = writes s.2 := by
  cases h with
  | idle hstatus hnum hidle =>
    rw [(logged_transfer_iff.mp hstatus).2, writes_append, statusMsgs, writes_read]
    rfl
  | data hstatus hnum hready hdata hnum' =>
    rw [(logged_transfer_iff.mp hdata).2, (logged_transfer_iff.mp hstatus).2, writes_append,
      writes_append, statusMsgs, dataMsgs, writes_read, writes_read]
    rfl

theorem Phase.writes_le (h : Phase bus.logged dev mode intCfg dataReg s read s') :
    writes s'.2 ≤ writes s.2 + 1 := by
  obtain ⟨s₁, hconfigures, hreads⟩ := h
  rw [hreads.writes_eq]
  exact hconfigures.writes_le

end

theorem Configured.two_le (h : Configured dev mode intCfg log) : 2 ≤ writes log := by
  obtain ⟨⟨ctrl, hctrl, hmem⟩, ⟨cfg, hcfg, hmem'⟩⟩ := h
  have hne : (⟨mainCtrlMsgs dev mode, ctrl⟩ : Transfer) ≠ ⟨intCfgMsgs dev intCfg, cfg⟩ := by
    simp [mainCtrlMsgs, intCfgMsgs, writeMsgs, registerMainCtrl, registerIntCfg]
  apply two_le_writes hne hmem hmem'
  · simp [Transfer.isWrite, mainCtrlMsgs, writeMsgs, hctrl]
  · simp [Transfer.isWrite, intCfgMsgs, writeMsgs, hcfg]

theorem PhasesConfigured.four_le (h : PhasesConfigured dev log) : 4 ≤ writes log := by
  obtain ⟨before, als, between, uvs, after, rfl, hals, huvs⟩ := h
  have hbefore := hals.two_le
  have hbetween := huvs.two_le
  rw [writes_append, ← List.singleton_append, writes_append, writes_append]
  omega

/-- A call that succeeds has written at most two registers. -/
theorem getData_writes_le (hok : (myLtr390GetData bus.logged (some dev) data (b, [])).1.1 = rtEok) :
    writes (myLtr390GetData bus.logged (some dev) data (b, [])).2.2 ≤ 2 := by
  obtain ⟨hdev, als, s₁, uvs, s₂, hals, huvs⟩ := getData_ok_iff.mp hok
  have hrun : myLtr390GetData bus.logged (some dev) data (b, []) =
      ((rtEok, (data.withAls als).withUvs uvs), s₂) :=
    getData_answered ((measureAls_iff hdev).mpr hals) ((measureUvs_iff hdev).mpr huvs)
  have hals_writes : writes s₁.2 ≤ 0 + 1 := hals.writes_le
  have huvs_writes : writes s₂.2 ≤ writes s₁.2 + 1 := huvs.writes_le
  rw [hrun]
  exact huvs_writes.trans (Nat.succ_le_succ hals_writes)

/-- When the device answers both phases, two of the four writes are missing. -/
theorem not_modesConfigured {ltr390 : Option Device} (hanswers : Answers bus ltr390 b) :
    ¬ModesConfigured bus ltr390 data b := by
  intro hmodes
  have hok : (myLtr390GetData bus.logged ltr390 data (b, [])).1.1 = rtEok :=
    getData_ok_iff.mpr ((answers_logged []).mpr hanswers)
  obtain ⟨dev, rfl, hphases⟩ := hmodes.1 hok
  have hfour := hphases.four_le
  have htwo := getData_writes_le hok
  omega

/-- A call keeps the promise exactly when it fails, and has not read light data in a
phase whose first write failed. -/
theorem modesConfigured_iff (bus : Bus β) (ltr390 : Option Device) (data : Data) (b : β) :
    ModesConfigured bus ltr390 data b ↔
      ¬Answers bus ltr390 b ∧ ¬LightUnselected bus ltr390 b := by
  constructor
  · intro hmodes
    have hanswers : ¬Answers bus ltr390 b := fun h => not_modesConfigured h hmodes
    refine ⟨hanswers, ?_⟩
    cases ltr390 with
    | none => exact id
    | some dev => exact (getData_inMode hanswers).mp (hmodes.2 dev rfl).2
  · rintro ⟨hanswers, hlight⟩
    refine ⟨fun hok => absurd ((answers_logged []).mp (getData_ok_iff.mp hok)) hanswers, ?_⟩
    rintro dev rfl
    exact ⟨getData_computed dev data b, (getData_inMode hanswers).mpr hlight⟩

end

/-- A device that answers every transfer and never has new data. -/
def idleBus : Bus Unit where
  rtI2cTransfer msgs _ := (⟨msgs.length, [0]⟩, ())

theorem idleBus_unconfigured :
    ¬ModesConfigured idleBus (some ⟨⟨.i2cBus⟩, ltr390Addr⟩) ⟨0, 0⟩ () := by
  apply not_modesConfigured
  have hals : AlsPhase idleBus ⟨⟨.i2cBus⟩, ltr390Addr⟩ () none () :=
    ⟨(), .mainCtrl rfl rfl, .idle rfl rfl (by decide)⟩
  have huvs : UvsPhase idleBus ⟨⟨.i2cBus⟩, ltr390Addr⟩ () none () :=
    ⟨(), .mainCtrl rfl rfl, .idle rfl rfl (by decide)⟩
  exact ⟨rfl, none, (), none, (), hals, huvs⟩

end WeatherStation.Ltr390
