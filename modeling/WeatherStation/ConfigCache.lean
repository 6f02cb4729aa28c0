import WeatherStation.Lib.Runs
import WeatherStation.Lib.History
import WeatherStation.ConfigFields

/-! The configuration that the driver caches, against the parameters that the
compass has taken. -/
namespace WeatherStation.Hmc5883l
open Gpio I2c Lib

/-- A cached field, as wide as the widest one. -/
def Config.get (config : Config) : Cmd → UInt16
  | .sampleNum => config.sampleNum.toUInt16
  | .dor => config.dor
  | .range => config.range
  | .operMode => config.operMode.toUInt16

section
variable {config : Config} {param : UInt8} {cmd other : Cmd}

@[simp] theorem Config.get_set_self : (config.set param cmd).get cmd = param.toUInt16 := by
  cases cmd <;> rfl

theorem Config.get_set_other (h : other ≠ cmd) :
    (config.set param cmd).get other = config.get other := by
  revert h
  cases cmd <;> cases other <;> intro h <;> first | rfl | exact absurd rfl h

theorem Config.set_eq_self_iff : config.set param cmd = config ↔ config.get cmd = param.toUInt16 := by
  constructor
  · intro h
    rw [← h]
    cases cmd <;> rfl
  · intro h
    cases cmd with
    | sampleNum =>
      have hparam : config.sampleNum = param := UInt8.toUInt16_inj.mp h
      rw [Config.set, ← hparam]
    | dor =>
      have hparam : config.dor = param.toUInt16 := h
      rw [Config.set, ← hparam]
    | range =>
      have hparam : config.range = param.toUInt16 := h
      rw [Config.set, ← hparam]
    | operMode =>
      have hparam : config.operMode = param := UInt8.toUInt16_inj.mp h
      rw [Config.set, ← hparam]

end

structure SetCall where
  cmd : Cmd
  param : UInt8
  deriving DecidableEq

/-- The register byte that a set writes over the old one. -/
def SetCall.byte (call : SetCall) (old : UInt8) : UInt8 :=
  old &&& ~~~bitMask call.cmd.low call.cmd.writeBits.len |||
    UInt8.ofNat (call.param.toNat <<< call.cmd.low) &&& bitMask call.cmd.low call.cmd.writeBits.len

section
variable {β : Type} (bus : Bus β)

/-- The device lets both transfers of a set go through, the read of the register and
the write behind it. -/
def Taken (dev : Device) (call : SetCall) (b : β) : Prop :=
  dev.bus.type = .i2cBus ∧ ∃ reply b₁ reply' b',
    bus.rtI2cTransfer (readMsgs dev.i2cAddr call.cmd.writeBits.reg [0]) b = (reply, b₁) ∧
      reply.num = 2 ∧
      bus.rtI2cTransfer (writeMsgs dev.i2cAddr call.cmd.writeBits.reg
        (call.byte ((receive [0] reply.data).getD 0 0))) b₁ = (reply', b') ∧
      reply'.num = 1

/-- The driver with its device, the bus, and the sets that succeeded, newest first. -/
structure Session (β : Type) where
  dev : Device
  bus : β
  succeeded : List SetCall

/-- One call of `my_hmc5883l_set_param`. -/
def Session.set (s : Session β) (call : SetCall) : Session β :=
  match myHmc5883lSetParam bus s.dev call.cmd call.param s.bus with
  | (none, b) => { s with bus := b }
  | (some (res, dev), b) => ⟨dev, b, if res = rtEok then call :: s.succeeded else s.succeeded⟩

/-- If the call returns an error, the cached configuration is what it was. -/
def KeepsConfig (s : Session β) (call : SetCall) : Prop :=
  ∀ res dev, (myHmc5883lSetParam bus s.dev call.cmd call.param s.bus).1 = some (res, dev) →
    res ≠ rtEok → dev.config = s.dev.config

/-- Each cached field is the parameter of its last successful set. -/
def CacheFollows (initial : Config) (s : Session β) : Prop :=
  ∀ cmd, s.dev.config.get cmd =
    History.latest (fun call : SetCall => if call.cmd = cmd then some call.param.toUInt16 else none)
      (initial.get cmd) s.succeeded

/-- A set that the device does not take repeats the cached value. -/
def RepeatsWhenFailing (s : Session β) (call : SetCall) : Prop :=
  ¬Taken bus s.dev call s.bus → s.dev.config.get call.cmd = call.param.toUInt16

variable {bus} {dev : Device} {call : SetCall} {b b₁ b' : β} {s : Session β} {res : RtErr}
  {buffer : List UInt8} {initial : Config}

theorem writeBits_unread
    (hread : readRegs bus dev call.cmd.writeBits.reg [0] b = ((res, buffer), b'))
    (herror : res ≠ rtEok) :
    writeBits bus dev call.cmd.writeBits call.param b = (some res, b') := by
  unfold writeBits
  rw [bind_run hread]
  dsimp only
  rw [if_pos herror]
  rfl

theorem writeBits_written
    (hread : readRegs bus dev call.cmd.writeBits.reg [0] b = ((rtEok, buffer), b₁))
    (hwrite : writeReg bus dev call.cmd.writeBits.reg (call.byte (buffer.getD 0 0)) b₁ =
      (res, b')) :
    writeBits bus dev call.cmd.writeBits call.param b = (some res, b') := by
  unfold writeBits
  rw [bind_run hread, Cmd.writeShift]
  dsimp only
  rw [if_neg (by decide), ← SetCall.byte, bind_run hwrite]
  rfl

theorem writeBits_result (bus : Bus β) (dev : Device) (call : SetCall) (b : β) :
    ∃ res b', writeBits bus dev call.cmd.writeBits call.param b = (some res, b') ∧
      (res = rtEok ↔ Taken bus dev call b) := by
  have herror : -rtError ≠ rtEok := by decide
  by_cases hdev : dev.bus.type = .i2cBus
  · rcases hread : bus.rtI2cTransfer (readMsgs dev.i2cAddr call.cmd.writeBits.reg [0]) b with
      ⟨reply, b₁⟩
    have hreceived : readRegs bus dev call.cmd.writeBits.reg [0] b =
        ((if reply.num = 2 then rtEok else -rtError, receive [0] reply.data), b₁) :=
      readRegs_run hdev hread
    by_cases hnum : reply.num = 2
    · rcases hwrite : bus.rtI2cTransfer (writeMsgs dev.i2cAddr call.cmd.writeBits.reg
        (call.byte ((receive [0] reply.data).getD 0 0))) b₁ with ⟨reply', b₂⟩
      have hwritten : writeReg bus dev call.cmd.writeBits.reg
          (call.byte ((receive [0] reply.data).getD 0 0)) b₁ =
            (if reply'.num = 1 then rtEok else -rtError, b₂) := writeReg_run hdev hwrite
      rw [if_pos hnum] at hreceived
      refine ⟨_, b₂, writeBits_written hreceived hwritten, ?_⟩
      constructor
      · intro hok
        have hnum' : reply'.num = 1 := by
          by_contra hfailed
          rw [if_neg hfailed] at hok
          exact herror hok
        exact ⟨hdev, reply, b₁, reply', b₂, hread, hnum, hwrite, hnum'⟩
      · rintro ⟨-, reply₀, b₀, reply₀', b₀', hread', -, hwrite', hnum'⟩
        rw [hread] at hread'
        cases hread'
        rw [hwrite] at hwrite'
        cases hwrite'
        exact if_pos hnum'
    · rw [if_neg hnum] at hreceived
      refine ⟨_, b₁, writeBits_unread hreceived herror, iff_of_false herror ?_⟩
      rintro ⟨-, reply', b₂, _, _, hread', hnum', -⟩
      rw [hread] at hread'
      cases hread'
      exact hnum hnum'
  · refine ⟨_, b, writeBits_unread (readRegs_unsupported hdev) herror, iff_of_false herror ?_⟩
    exact fun htaken => hdev htaken.1

theorem setParam_result (bus : Bus β) (dev : Device) (call : SetCall) (b : β) :
    ∃ res b', myHmc5883lSetParam bus dev call.cmd call.param b =
      (some (res, { dev with config := dev.config.set call.param call.cmd }), b') ∧
        (res = rtEok ↔ Taken bus dev call b) := by
  obtain ⟨res, b', hwritten, htaken⟩ := writeBits_result bus dev call b
  refine ⟨res, b', ?_, htaken⟩
  unfold myHmc5883lSetParam
  rw [bind_run hwritten]
  rfl

theorem set_dev : (s.set bus call).dev =
    { s.dev with config := s.dev.config.set call.param call.cmd } := by
  obtain ⟨res, b', hset, -⟩ := setParam_result bus s.dev call s.bus
  rw [Session.set, hset]

theorem set_succeeded_of_taken (htaken : Taken bus s.dev call s.bus) :
    (s.set bus call).succeeded = call :: s.succeeded := by
  obtain ⟨res, b', hset, hres⟩ := setParam_result bus s.dev call s.bus
  rw [Session.set, hset]
  exact if_pos (hres.mpr htaken)

theorem set_succeeded_of_not_taken (htaken : ¬Taken bus s.dev call s.bus) :
    (s.set bus call).succeeded = s.succeeded := by
  obtain ⟨res, b', hset, hres⟩ := setParam_result bus s.dev call s.bus
  rw [Session.set, hset]
  exact if_neg (mt hres.mp htaken)

theorem keepsConfig_iff : KeepsConfig bus s call ↔ RepeatsWhenFailing bus s call := by
  obtain ⟨res, b', hset, hres⟩ := setParam_result bus s.dev call s.bus
  unfold KeepsConfig RepeatsWhenFailing
  rw [hset]
  constructor
  · intro hkeeps htaken
    exact Config.set_eq_self_iff.mp (hkeeps _ _ rfl (mt hres.mp htaken))
  · intro hrepeats res' dev' hresult herror
    cases hresult
    exact Config.set_eq_self_iff.mpr (hrepeats (mt hres.mpr herror))

theorem CacheFollows.set (h : CacheFollows initial s) (hrepeats : RepeatsWhenFailing bus s call) :
    CacheFollows initial (s.set bus call) := by
  intro cmd
  rw [set_dev]
  by_cases htaken : Taken bus s.dev call s.bus
  · rw [set_succeeded_of_taken htaken, History.latest_cons, ← h cmd]
    dsimp only
    by_cases hcmd : call.cmd = cmd
    · rw [if_pos hcmd, ← hcmd, Config.get_set_self]
      rfl
    · rw [if_neg hcmd, Config.get_set_other (Ne.symm hcmd)]
      rfl
  · rw [set_succeeded_of_not_taken htaken, Config.set_eq_self_iff.mpr (hrepeats htaken)]
    exact h cmd

/-- In every history of sets the cache follows the device exactly if each set that
the device does not take repeats the cached value. -/
theorem cacheFollows_iff (bus : Bus β) (dev : Device) (b : β) (calls : List SetCall) :
    (Along (Session.set bus) (KeepsConfig bus) ⟨dev, b, []⟩ calls ∧
      Always (Session.set bus) (CacheFollows dev.config) ⟨dev, b, []⟩ calls) ↔
      Along (Session.set bus) (RepeatsWhenFailing bus) ⟨dev, b, []⟩ calls := by
  have hagree : Along (Session.set bus) (KeepsConfig bus) ⟨dev, b, []⟩ calls ↔
      Along (Session.set bus) (RepeatsWhenFailing bus) ⟨dev, b, []⟩ calls :=
    along_iff_along (fun _ => True) (fun _ _ _ => keepsConfig_iff) (fun _ _ _ _ => trivial) trivial
  constructor
  · exact fun h => hagree.mp h.1
  · intro hrepeats
    refine ⟨hagree.mpr hrepeats, ?_⟩
    apply always_of_along (CacheFollows dev.config) (fun _ h => h) _ _ hrepeats
    · exact fun s call h hrepeats => h.set hrepeats
    · exact fun cmd => rfl

end

def freshDevice : Device := ⟨⟨.i2cBus⟩, hmc5883lAddr, ⟨0, 0, 0, 0⟩⟩

/-- A set on a bus that does not answer is cached all the same. -/
theorem silentSet_cached :
    ¬(Along (Session.set Bus.replay) (KeepsConfig Bus.replay) ⟨freshDevice, [], []⟩
        [⟨.sampleNum, 3⟩] ∧
      Always (Session.set Bus.replay) (CacheFollows freshDevice.config) ⟨freshDevice, [], []⟩
        [⟨.sampleNum, 3⟩]) := by
  rintro ⟨⟨hkeeps, -⟩, -⟩
  have hsilent : ¬Taken Bus.replay freshDevice ⟨.sampleNum, 3⟩ [] := by
    rintro ⟨-, reply, b₁, _, _, hread, hnum, -⟩
    cases hread
    cases hnum
  exact absurd (keepsConfig_iff.mp hkeeps hsilent) (by decide)

end WeatherStation.Hmc5883l
