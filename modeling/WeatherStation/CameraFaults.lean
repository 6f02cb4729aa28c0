import Mathlib.Algebra.Order.Ring.Nat
import WeatherStation.BusLog
import WeatherStation.CameraSetup

/-! What `my_ov7725_test_init` reports when the sensor misses bytes.  Of a write only
the start and the device address are checked, and of the settings nothing is. -/
namespace WeatherStation.CameraSetup
open Gpio I2c

/-- What the lines show during the requests of the n-th attempt, counted from one. -/
abbrev Pattern := ℕ → ℕ → Answers

structure Entry where
  request : Request
  answers : Answers
  deriving DecidableEq

/-- The attempts begun, the requests since then, and all requests, newest first. -/
structure BusState where
  attempt : ℕ
  index : ℕ
  log : List Entry
  deriving DecidableEq

def BusState.init : BusState := ⟨0, 0, []⟩

/-- The request that begins an attempt. -/
def resetRequest : Request := .write 0x12 0x80

def idRequest : Request := .read 0x0b

def replay (pattern : Pattern) : Sccb BusState where
  transfer request s :=
    let (attempt, index) := if request = resetRequest then (s.attempt + 1, 0)
      else (s.attempt, s.index)
    let answers := pattern attempt index
    (answers, ⟨attempt, index + 1, ⟨request, answers⟩ :: s.log⟩)

inductive Kind where
  | write | read
  deriving DecidableEq

def Request.kind : Request → Kind
  | .write .. => .write
  | .read .. => .read

namespace Answers

/-- What `SCCB_WriteByte` checks. -/
def writeChecked (answers : Answers) : Bool := answers.start && answers.device

/-- What `SCCB_ReadByte` checks before it takes the value. -/
def readChecked (answers : Answers) : Bool :=
  answers.start && answers.device && answers.restart && answers.deviceRead

/-- All bytes of a write are acknowledged; a read receives its value, and that of the
register which it names: `SCCB_ReadByte` throws the answer to the address away. -/
def good (answers : Answers) : Kind → Bool
  | .write => answers.start && answers.device && answers.address && answers.data
  | .read => answers.readChecked && answers.address

end Answers

def Entry.good (entry : Entry) : Bool := entry.answers.good entry.request.kind

/-- The requests after the sensor was last identified. -/
def lastPass (log : List Entry) : List Entry := log.takeWhile (·.request ≠ idRequest)

/-- Success is reported only if the last table pass and the settings went through. -/
def ReportsHonestly (pattern : Pattern) (locals : Locals) (mode : CamMode) : Prop :=
  (myOv7725TestInit (replay pattern) locals mode .init).1 = rtEok →
    ∀ entry ∈ lastPass (myOv7725TestInit (replay pattern) locals mode .init).2.log, entry.good

/-- `OV7725_Init` succeeds with these answers. -/
def Accepted (answers : ℕ → Answers) : Prop :=
  (answers 0).writeChecked ∧ ((answers 1).readChecked ∧ (answers 1).value = ov7725Id) ∧
    ∀ i < sensorConfig.length, (answers (2 + i)).writeChecked

def writes (settings : List (UInt8 × UInt8)) : List Kind := List.replicate settings.length .write

def windowKinds : List Kind :=
  [.write, .read, .write, .write, .read, .write, .write, .read, .write, .write, .write, .read, .write]

def settingsKinds (locals : Locals) (mode : CamMode) : List Kind :=
  writes (specialEffectSettings mode.effect) ++ (writes (lightModeSettings mode.lightMode) ++
    (writes (colorSaturationSettings mode.saturation) ++
      (writes (brightnessSettings locals mode.brightness) ++ (writes (contrastSettings mode.contrast) ++
        (writes (specialEffectSettings mode.effect) ++ windowKinds)))))

/-- From the index on, requests of these kinds go through. -/
def AllGood (answers : ℕ → Answers) : ℕ → List Kind → Prop
  | _, [] => True
  | index, kind :: kinds => (answers index).good kind ∧ AllGood answers (index + 1) kinds

/-- The answers that the code ignores are positive as well: those to the address and to
the data of the table, and all answers to the settings. -/
def IgnoredPositive (locals : Locals) (mode : CamMode) (answers : ℕ → Answers) : Prop :=
  (∀ i < sensorConfig.length, (answers (2 + i)).address ∧ (answers (2 + i)).data) ∧
    AllGood answers (2 + sensorConfig.length) (settingsKinds locals mode)

/-! ### Straight-line code -/

section
variable {pattern : Pattern}

def BusState.next (pattern : Pattern) (s : BusState) (request : Request) : BusState :=
  ⟨s.attempt, s.index + 1, ⟨request, pattern s.attempt s.index⟩ :: s.log⟩

def BusState.issue (pattern : Pattern) (s : BusState) (requests : List Request) : BusState :=
  requests.foldl (BusState.next pattern) s

/-- Neither a reset nor an identification. -/
def Plain (request : Request) : Prop := request ≠ resetRequest ∧ request ≠ idRequest

theorem transfer_run {request : Request} (h : request ≠ resetRequest) (s : BusState) :
    (replay pattern).transfer request s =
      (pattern s.attempt s.index, s.next pattern request) := by
  simp [replay, h, BusState.next]

@[simp] theorem issue_nil (s : BusState) : s.issue pattern [] = s := rfl

@[simp] theorem issue_cons (s : BusState) (request : Request) (requests : List Request) :
    s.issue pattern (request :: requests) = (s.next pattern request).issue pattern requests := rfl

theorem issue_append (s : BusState) (left right : List Request) :
    s.issue pattern (left ++ right) = (s.issue pattern left).issue pattern right :=
  List.foldl_append

@[simp] theorem issue_attempt (s : BusState) (requests : List Request) :
    (s.issue pattern requests).attempt = s.attempt := by
  induction requests generalizing s with
  | nil => rfl
  | cons request requests ih => rw [issue_cons, ih, BusState.next]

@[simp] theorem issue_index (s : BusState) (requests : List Request) :
    (s.issue pattern requests).index = s.index + requests.length := by
  induction requests generalizing s with
  | nil => rfl
  | cons request requests ih =>
    rw [issue_cons, ih, BusState.next, List.length_cons]
    dsimp only
    omega

/-- The requests of a pass are good if their answers are. -/
theorem lastPass_issue (s : BusState) {requests : List Request} (h : ∀ r ∈ requests, Plain r) :
    (∀ entry ∈ lastPass (s.issue pattern requests).log, entry.good) ↔
      AllGood (pattern s.attempt) s.index (requests.map Request.kind) ∧
        ∀ entry ∈ lastPass s.log, entry.good := by
  induction requests generalizing s with
  | nil => simp [AllGood]
  | cons request requests ih =>
    rw [List.forall_mem_cons] at h
    have hlog : lastPass (s.next pattern request).log =
        ⟨request, pattern s.attempt s.index⟩ :: lastPass s.log := by
      simp [lastPass, BusState.next, h.1.2]
    rw [issue_cons, ih _ h.2, hlog, List.forall_mem_cons, List.map_cons, AllGood]
    simp only [BusState.next, Entry.good]
    tauto

/-- A program without branches: it issues requests of these kinds. -/
def Issues {α : Type} (pattern : Pattern) (m : StateM BusState α) (kinds : List Kind) : Prop :=
  ∀ s, ∃ requests, requests.map Request.kind = kinds ∧ (∀ r ∈ requests, Plain r) ∧
    (m s).2 = s.issue pattern requests

theorem Issues.pure {α : Type} (a : α) : Issues pattern (Pure.pure a) [] := fun _ =>
  ⟨[], rfl, by simp, rfl⟩

theorem Issues.bind {α γ : Type} {m : StateM BusState α} {f : α → StateM BusState γ}
    {kinds kinds' : List Kind} (hm : Issues pattern m kinds)
    (hf : ∀ a, Issues pattern (f a) kinds') : Issues pattern (m >>= f) (kinds ++ kinds') := by
  intro s
  obtain ⟨requests, hkinds, hplain, hrun⟩ := hm s
  obtain ⟨requests', hkinds', hplain', hrun'⟩ := hf (m s).1 (m s).2
  refine ⟨requests ++ requests', ?_, ?_, ?_⟩
  · rw [List.map_append, hkinds, hkinds']
  · intro r hr
    exact (List.mem_append.mp hr).elim (hplain r) (hplain' r)
  · have hbind : (m >>= f) s = f (m s).1 (m s).2 := rfl
    rw [hbind, hrun', hrun, issue_append]

theorem write_run {address value : UInt8} (h : Plain (.write address value)) (s : BusState) :
    sccbWriteByte (replay pattern) address value s =
      ((pattern s.attempt s.index).writeChecked, s.next pattern (.write address value)) := by
  unfold sccbWriteByte
  rw [bind_run (transfer_run h.1 s), Answers.writeChecked]
  cases (pattern s.attempt s.index).start <;> cases (pattern s.attempt s.index).device <;> rfl

theorem read_run (pBuffer address : UInt8) (s : BusState) :
    sccbReadByte (replay pattern) pBuffer address s =
      (((pattern s.attempt s.index).readChecked,
        if (pattern s.attempt s.index).readChecked then (pattern s.attempt s.index).value
        else pBuffer), s.next pattern (.read address)) := by
  have hread : Request.read address ≠ resetRequest := by simp [resetRequest]
  unfold sccbReadByte
  rw [bind_run (transfer_run hread s), Answers.readChecked]
  cases (pattern s.attempt s.index).start <;> cases (pattern s.attempt s.index).device <;>
    cases (pattern s.attempt s.index).restart <;>
    cases (pattern s.attempt s.index).deviceRead <;> rfl

theorem issues_write {address value : UInt8} (h : Plain (.write address value)) :
    Issues pattern (sccbWriteByte (replay pattern) address value) [.write] := fun s =>
  ⟨[.write address value], rfl, by simpa using h, by rw [write_run h]; rfl⟩

theorem issues_read {address : UInt8} (h : Plain (.read address)) (pBuffer : UInt8) :
    Issues pattern (sccbReadByte (replay pattern) pBuffer address) [.read] := fun s =>
  ⟨[.read address], rfl, by simpa using h, by rw [read_run]; rfl⟩

/-- Settings never reset the sensor. -/
def PlainWrites (settings : List (UInt8 × UInt8)) : Prop :=
  ∀ setting ∈ settings, setting ≠ (0x12, 0x80)

instance (settings : List (UInt8 × UInt8)) : Decidable (PlainWrites settings) :=
  List.decidableBAll _ settings

theorem plain_write {address value : UInt8} (h : (address, value) ≠ (0x12, 0x80)) :
    Plain (.write address value) := by
  constructor <;> simp_all [resetRequest, idRequest]

theorem issues_writeAll {settings : List (UInt8 × UInt8)} (h : PlainWrites settings) :
    Issues pattern (writeAll (replay pattern) settings) (writes settings) := by
  induction settings with
  | nil => exact .pure ()
  | cons setting settings ih =>
    have hsettings := List.forall_mem_cons.mp h
    exact (issues_write (plain_write hsettings.1)).bind fun _ => ih hsettings.2

theorem plainWrites_lightMode (mode : UInt8) : PlainWrites (lightModeSettings mode) := by
  unfold lightModeSettings
  split <;> decide

theorem plainWrites_colorSaturation (sat : Int8) : PlainWrites (colorSaturationSettings sat) := by
  unfold PlainWrites colorSaturationSettings
  split <;> simp [regUsat, regVsat]

theorem plainWrites_brightness (locals : Locals) (bri : Int8) :
    PlainWrites (brightnessSettings locals bri) := by
  simp [PlainWrites, brightnessSettings, regBright, regSign]

theorem plainWrites_contrast (cnst : Int8) : PlainWrites (contrastSettings cnst) := by
  unfold PlainWrites contrastSettings
  split <;> simp [regCnst]

theorem plainWrites_specialEffect (eff : UInt8) : PlainWrites (specialEffectSettings eff) := by
  unfold specialEffectSettings
  split <;> decide

theorem issues_windowSet (locals : Locals) (window : Window) :
    Issues pattern (ov7725WindowSet (replay pattern) locals window) windowKinds := by
  have hcom7 : Plain (.write regCom7 (if window.qvgaVga = 0 then 0x46 else 0x06)) :=
    plain_write (by split <;> decide)
  have hwrite : ∀ address value, address ≠ 0x12 → Plain (.write address value) :=
    fun address value h => plain_write (by simp [h])
  have hread : ∀ address, address ≠ 0x0b → Plain (.read address) := fun address h => by
    constructor <;> simp [resetRequest, idRequest, h]
  unfold ov7725WindowSet
  refine (issues_write hcom7).bind fun _ => ?_
  refine (issues_read (hread regHstart (by decide)) _).bind fun read => ?_
  refine (issues_write (hwrite regHstart _ (by decide))).bind fun _ => ?_
  refine (issues_write (hwrite regHsize _ (by decide))).bind fun _ => ?_
  refine (issues_read (hread regVstrt (by decide)) _).bind fun read => ?_
  refine (issues_write (hwrite regVstrt _ (by decide))).bind fun _ => ?_
  refine (issues_write (hwrite regVsize _ (by decide))).bind fun _ => ?_
  refine (issues_read (hread regHref (by decide)) _).bind fun read => ?_
  refine (issues_write (hwrite regHref _ (by decide))).bind fun _ => ?_
  refine (issues_write (hwrite regHOutSize _ (by decide))).bind fun _ => ?_
  refine (issues_write (hwrite regVOutSize _ (by decide))).bind fun _ => ?_
  refine (issues_read (hread regExhch (by decide)) _).bind fun read => ?_
  exact (issues_write (hwrite regExhch _ (by decide))).bind fun _ => .pure ()

theorem issues_settings (locals : Locals) (mode : CamMode) :
    Issues pattern (settings (replay pattern) locals mode) (settingsKinds locals mode) := by
  have heffect := @issues_writeAll pattern _ (plainWrites_specialEffect mode.effect)
  exact heffect.bind fun _ => (issues_writeAll (plainWrites_lightMode mode.lightMode)).bind fun _ =>
    (issues_writeAll (plainWrites_colorSaturation mode.saturation)).bind fun _ =>
    (issues_writeAll (plainWrites_brightness locals mode.brightness)).bind fun _ =>
    (issues_writeAll (plainWrites_contrast mode.contrast)).bind fun _ =>
    heffect.bind fun _ => issues_windowSet locals _

/-! ### The attempts -/

def configRequests (config : List (UInt8 × UInt8)) : List Request :=
  config.map fun setting => .write setting.1 setting.2

def TableChecked (answers : ℕ → Answers) (index length : ℕ) : Prop :=
  ∀ i < length, (answers (index + i)).writeChecked

theorem tableChecked_succ {answers : ℕ → Answers} {index length : ℕ} :
    TableChecked answers index (length + 1) ↔
      (answers index).writeChecked ∧ TableChecked answers (index + 1) length := by
  unfold TableChecked
  rw [Nat.forall_lt_succ_left]
  simp only [Nat.add_zero, Nat.add_assoc, Nat.add_comm 1]

theorem writeConfig_run {config : List (UInt8 × UInt8)} (h : PlainWrites config) (s : BusState) :
    (TableChecked (pattern s.attempt) s.index config.length →
      writeConfig (replay pattern) config s =
        (.success, s.issue pattern (configRequests config))) ∧
    (¬TableChecked (pattern s.attempt) s.index config.length →
      ∃ s', writeConfig (replay pattern) config s = (.error, s') ∧ s'.attempt = s.attempt) := by
  induction config generalizing s with
  | nil => exact ⟨fun _ => rfl, fun hnot => absurd (fun i hi => absurd hi (Nat.not_lt_zero i)) hnot⟩
  | cons setting config ih =>
    have hsettings := List.forall_mem_cons.mp h
    have hwrite := @write_run pattern _ _ (plain_write hsettings.1) s
    have hrest := ih hsettings.2 (s.next pattern (.write setting.1 setting.2))
    have hbind : writeConfig (replay pattern) (setting :: config) s =
        (if ¬(pattern s.attempt s.index).writeChecked then pure .error
          else writeConfig (replay pattern) config)
          (s.next pattern (.write setting.1 setting.2)) := bind_run hwrite
    rw [hbind, List.length_cons, tableChecked_succ]
    cases hchecked : (pattern s.attempt s.index).writeChecked with
    | true => simpa [BusState.next, configRequests] using hrest
    | false => exact ⟨fun hall => absurd hall.1 Bool.false_ne_true, fun _ => ⟨_, rfl, rfl⟩⟩

/-- The state of the bus after the sensor was identified. -/
def identified (pattern : Pattern) (s : BusState) : BusState :=
  ⟨s.attempt + 1, 2, ⟨idRequest, pattern (s.attempt + 1) 1⟩ ::
    ⟨resetRequest, pattern (s.attempt + 1) 0⟩ :: s.log⟩

theorem reset_run (s : BusState) :
    sccbWriteByte (replay pattern) 0x12 0x80 s = ((pattern (s.attempt + 1) 0).writeChecked,
      ⟨s.attempt + 1, 1, ⟨resetRequest, pattern (s.attempt + 1) 0⟩ :: s.log⟩) := by
  unfold sccbWriteByte Answers.writeChecked
  cases hstart : (pattern (s.attempt + 1) 0).start <;>
    cases hdevice : (pattern (s.attempt + 1) 0).device <;>
    simp [replay, resetRequest, bind, StateT.bind, hstart, hdevice] <;> rfl

theorem plainWrites_sensorConfig : PlainWrites sensorConfig := by decide

theorem init_run (s : BusState) :
    (Accepted (pattern (s.attempt + 1)) →
      ov7725Init (replay pattern) s =
        (.success, (identified pattern s).issue pattern (configRequests sensorConfig))) ∧
    (¬Accepted (pattern (s.attempt + 1)) →
      ∃ s', ov7725Init (replay pattern) s = (.error, s') ∧ s'.attempt = s.attempt + 1) := by
  have htable := @writeConfig_run pattern _ plainWrites_sensorConfig (identified pattern s)
  have hid := @read_run pattern 0 0x0b
    ⟨s.attempt + 1, 1, ⟨resetRequest, pattern (s.attempt + 1) 0⟩ :: s.log⟩
  unfold ov7725Init
  rw [bind_run (reset_run s)]
  cases hreset : (pattern (s.attempt + 1) 0).writeChecked with
  | false =>
    have hrejected : ¬Accepted (pattern (s.attempt + 1)) := by simp [Accepted, hreset]
    exact ⟨fun h => absurd h hrejected, fun _ => ⟨_, rfl, rfl⟩⟩
  | true =>
    rw [if_neg (by simp), bind_run hid]
    cases hread : (pattern (s.attempt + 1) 1).readChecked with
    | false =>
      have hrejected : ¬Accepted (pattern (s.attempt + 1)) := by simp [Accepted, hread]
      exact ⟨fun h => absurd h hrejected, fun _ => ⟨_, rfl, rfl⟩⟩
    | true =>
      by_cases hvalue : (pattern (s.attempt + 1) 1).value = ov7725Id
      · have haccepted : Accepted (pattern (s.attempt + 1)) ↔
            TableChecked (pattern (s.attempt + 1)) 2 sensorConfig.length := by
          simp [Accepted, TableChecked, hreset, hread, hvalue]
        rw [haccepted]
        simpa [hvalue, identified, BusState.next, idRequest] using htable
      · have hrejected : ¬Accepted (pattern (s.attempt + 1)) := by simp [Accepted, hvalue]
        refine ⟨fun h => absurd h hrejected, fun _ => ⟨identified pattern s, ?_, rfl⟩⟩
        simp [hvalue]
        rfl

/-- The first of the attempts that is accepted, with the retries that it leaves. -/
theorem initRetries_run (left : ℕ) (s : BusState) :
    (∃ k ≤ left, ((∀ j < k, ¬Accepted (pattern (s.attempt + 1 + j))) ∧
        Accepted (pattern (s.attempt + 1 + k))) ∧
      ∃ before : BusState, before.attempt = s.attempt + k ∧
        initRetries (replay pattern) left s =
          (.success, (identified pattern before).issue pattern (configRequests sensorConfig))) ∨
      ((∀ k ≤ left, ¬Accepted (pattern (s.attempt + 1 + k))) ∧
        ∃ s', initRetries (replay pattern) left s = (.error, s')) := by
  induction left generalizing s with
  | zero =>
    by_cases h : Accepted (pattern (s.attempt + 1))
    · exact .inl ⟨0, le_rfl, ⟨by simp, h⟩, s, rfl, (init_run s).1 h⟩
    · obtain ⟨s', hrun, -⟩ := (init_run s).2 h
      refine .inr ⟨fun k hk => ?_, s', hrun⟩
      rwa [Nat.le_zero.mp hk]
  | succ left ih =>
    by_cases h : Accepted (pattern (s.attempt + 1))
    · refine .inl ⟨0, Nat.zero_le _, ⟨by simp, h⟩, s, rfl, ?_⟩
      unfold initRetries
      rw [bind_run ((init_run s).1 h)]
      rfl
    · obtain ⟨s', hrun, hattempt⟩ := (init_run s).2 h
      have hnext : initRetries (replay pattern) (left + 1) s =
          initRetries (replay pattern) left s' := by
        rw [initRetries, bind_run hrun]
        rfl
      rw [hnext]
      have hshift : ∀ k, s'.attempt + 1 + k = s.attempt + 1 + (k + 1) := by omega
      rcases ih s' with ⟨k, hk, ⟨hearlier, haccepted⟩, before, hbefore, hresult⟩ | ⟨hnone, hresult⟩
      · refine .inl ⟨k + 1, by omega, ⟨fun j hj => ?_, hshift k ▸ haccepted⟩, before, by omega,
          hresult⟩
        cases j with
        | zero => exact h
        | succ j => exact hshift j ▸ hearlier j (by omega)
      · refine .inr ⟨fun k hk => ?_, hresult⟩
        cases k with
        | zero => exact h
        | succ k => exact hshift k ▸ hnone k (by omega)

/-! ### The report -/

theorem allGood_writes_iff {answers : ℕ → Answers} {index length : ℕ} :
    AllGood answers index (List.replicate length .write) ↔
      ∀ i < length, (answers (index + i)).good .write := by
  induction length generalizing index with
  | zero => simp [AllGood]
  | succ length ih =>
    rw [List.replicate_succ, AllGood, ih, Nat.forall_lt_succ_left]
    simp only [Nat.add_zero, Nat.add_assoc, Nat.add_comm 1]

theorem configRequests_kinds (config : List (UInt8 × UInt8)) :
    (configRequests config).map Request.kind = List.replicate config.length .write := by
  simp [configRequests, Request.kind, Function.comp_def]

theorem configRequests_plain {config : List (UInt8 × UInt8)} (h : PlainWrites config) :
    ∀ request ∈ configRequests config, Plain request := by
  unfold configRequests
  rw [List.forall_mem_map]
  exact fun setting hsetting => plain_write (h setting hsetting)

/-- In an accepted attempt the table pass is good if the ignored answers are positive. -/
theorem table_good_iff {answers : ℕ → Answers} (h : Accepted answers) :
    AllGood answers 2 (List.replicate sensorConfig.length .write) ↔
      ∀ i < sensorConfig.length, (answers (2 + i)).address ∧ (answers (2 + i)).data := by
  rw [allGood_writes_iff]
  refine forall₂_congr fun i hi => ?_
  have hchecked := h.2.2 i hi
  simp_all [Answers.writeChecked, Answers.good]

/-- The requests after the identification are the table and the settings. -/
theorem lastPass_settings {before : BusState} {requests : List Request}
    (hplain : ∀ request ∈ requests, Plain request)
    (haccepted : Accepted (pattern (before.attempt + 1))) {locals : Locals} {mode : CamMode}
    (hkinds : requests.map Request.kind = settingsKinds locals mode) :
    (∀ entry ∈ lastPass (((identified pattern before).issue pattern
        (configRequests sensorConfig)).issue pattern requests).log, entry.good) ↔
      IgnoredPositive locals mode (pattern (before.attempt + 1)) := by
  have hlength : (configRequests sensorConfig).length = sensorConfig.length := List.length_map _
  have hempty : lastPass (identified pattern before).log = [] := by
    simp [lastPass, identified]
  rw [lastPass_issue _ hplain, hkinds,
    lastPass_issue _ (configRequests_plain plainWrites_sensorConfig), configRequests_kinds, hempty,
    issue_attempt, issue_index, hlength, IgnoredPositive]
  have htable := table_good_iff haccepted
  simp only [identified, htable]
  simp [and_comm]

theorem unit_run {m : StateM BusState Unit} {s s' : BusState} (h : (m s).2 = s') :
    m s = ((), s') := Prod.ext rfl h

theorem testInit_accepted {s : BusState} {before : BusState}
    (hrun : initRetries (replay pattern) 5 s =
      (.success, (identified pattern before).issue pattern (configRequests sensorConfig)))
    (locals : Locals) (mode : CamMode) :
    ∃ requests : List Request, (∀ request ∈ requests, Plain request) ∧
      requests.map Request.kind = settingsKinds locals mode ∧
      myOv7725TestInit (replay pattern) locals mode s = (rtEok,
        ((identified pattern before).issue pattern (configRequests sensorConfig)).issue pattern
          requests) := by
  obtain ⟨requests, hkinds, hplain, hstate⟩ := @issues_settings pattern locals mode
    ((identified pattern before).issue pattern (configRequests sensorConfig))
  refine ⟨requests, hplain, hkinds, ?_⟩
  unfold myOv7725TestInit
  rw [bind_run hrun, if_pos rfl, bind_run (unit_run hstate)]
  rfl

theorem testInit_rejected {s s' : BusState} (hrun : initRetries (replay pattern) 5 s = (.error, s'))
    (locals : Locals) (mode : CamMode) :
    myOv7725TestInit (replay pattern) locals mode s = (-rtError, s') := by
  unfold myOv7725TestInit
  rw [bind_run hrun]
  rfl

/-- The report is honest exactly if the answers that the code ignores in the attempt
it accepts, and in the settings, are positive as well. -/
theorem reportsHonestly_iff (pattern : Pattern) (locals : Locals) (mode : CamMode) :
    ReportsHonestly pattern locals mode ↔
      ∀ attempt ≤ 5, (∀ earlier < attempt, ¬Accepted (pattern (1 + earlier))) →
        Accepted (pattern (1 + attempt)) → IgnoredPositive locals mode (pattern (1 + attempt)) := by
  have hruns := @initRetries_run pattern 5 .init
  simp only [BusState.init, Nat.zero_add] at hruns
  unfold ReportsHonestly
  rcases hruns with ⟨k, hk, ⟨hearlier, haccepted⟩, before, hbefore, hrun⟩ | ⟨hnone, s', hrun⟩
  · obtain ⟨requests, hplain, hkinds, hresult⟩ := testInit_accepted hrun locals mode
    have hattempt : before.attempt + 1 = 1 + k := by omega
    have hpass := lastPass_settings hplain (hattempt ▸ haccepted) hkinds
    rw [hattempt] at hpass
    rw [BusState.init, hresult, hpass]
    constructor
    · intro h attempt _ hfirst haccepted'
      obtain hlt | rfl | hgt := Nat.lt_trichotomy attempt k
      · exact absurd haccepted' (hearlier attempt hlt)
      · exact h rfl
      · exact absurd haccepted (hfirst k hgt)
    · intro h _
      exact h k hk hearlier haccepted
  · rw [BusState.init, testInit_rejected hrun]
    have hfailed : -rtError ≠ rtEok := by decide
    exact iff_of_true (fun hok => absurd hok hfailed) fun attempt hle _ haccepted =>
      absurd haccepted (hnone attempt hle)

/-- A sensor that acknowledges every byte except the data. -/
def dataMissed : Pattern := fun _ _ => ⟨true, true, true, false, true, true, ov7725Id⟩

theorem dataMissed_reported : ¬∀ pattern locals mode, ReportsHonestly pattern locals mode := by
  intro h
  have haccepted : Accepted (dataMissed 1) := ⟨rfl, ⟨rfl, rfl⟩, fun _ _ => rfl⟩
  have hrun : initRetries (replay dataMissed) 5 .init = (.success,
      (identified dataMissed .init).issue dataMissed (configRequests sensorConfig)) := by
    rw [initRetries, bind_run ((init_run .init).1 haccepted)]
    rfl
  obtain ⟨requests, hplain, hkinds, hresult⟩ := testInit_accepted hrun ⟨0, 0, 0⟩ camMode
  have hhonest := h dataMissed ⟨0, 0, 0⟩ camMode
  rw [ReportsHonestly, hresult] at hhonest
  have hpositive := (lastPass_settings hplain haccepted hkinds).mp (hhonest rfl)
  exact absurd (hpositive.1 0 (by decide)).2 Bool.false_ne_true

end
end WeatherStation.CameraSetup
