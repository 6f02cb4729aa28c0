import WeatherStation.Boot
import WeatherStation.Effects

/-! The two handles share one ADC1: the init that comes last selects the
channel of both drivers. -/
namespace WeatherStation
open Lib
namespace Adc

/-- Switched off and configured for single conversions on a software start;
the first start sets EXTTRIG for good. -/
def Idle (port : Port) : Prop :=
  (port.adc1.cr2 = 0x000E0000 ∨ port.adc1.cr2 = 0x001E0000) ∧ port.adc1.cr1 = 0 ∧
    port.adc1.sqr1 = 0 ∧ port.hadc.locked = false

section
variable {port : Port} (analog : Nat → UInt32)

theorem halAdcStart_idle (h : Idle port) :
    (halAdcStart analog port).2.adc1 =
      { port.adc1 with
        eoc := true
        cr2 := 0x001E0001
        dr := analog port.adc1.rank1
        sampled := port.adc1.rank1 :: port.adc1.sampled } ∧
      (halAdcStart analog port).2.hadc.locked = false := by
  obtain ⟨hcr2 | hcr2, -, -, hlocked⟩ := h
  all_goals
    simp +decide [halAdcStart, hcr2, hlocked, Adc1.convert, adcEnable, Adc1.isEnable,
      Adc1.isSoftwareStartRegular, Adc1.rank1]

theorem halAdcPollForConversion_done (hcr2 : port.adc1.cr2 = 0x001E0001)
    (heoc : port.adc1.eoc = true) (hlocked : port.hadc.locked = false) :
    (halAdcPollForConversion port).2.adc1 = { port.adc1 with eoc := false } ∧
      (halAdcPollForConversion port).2.hadc.locked = false := by
  simp +decide [halAdcPollForConversion, hcr2, heoc, hlocked]

theorem halAdcStop_running (hcr2 : port.adc1.cr2 = 0x001E0001)
    (hlocked : port.hadc.locked = false) :
    (halAdcStop port).2.adc1 = { port.adc1 with cr2 := 0x001E0000 } ∧
      (halAdcStop port).2.hadc.locked = false := by
  simp +decide [halAdcStop, hcr2, hlocked, adcConversionStopDisable, Adc1.isEnable]

def Adc1.converted (adc1 : Adc1) : Adc1 :=
  { adc1 with
    eoc := false
    cr2 := 0x001E0000
    dr := analog adc1.rank1
    sampled := adc1.rank1 :: adc1.sampled }

theorem convertOnce_idle (h : Idle port) :
    (convertOnce analog port).2.adc1 = port.adc1.converted analog ∧
      (convertOnce analog port).2.hadc.locked = false := by
  obtain ⟨hstart, hlocked⟩ := halAdcStart_idle analog h
  have hpolled : (halAdcPollForConversion (halAdcStart analog port).2).2.adc1 =
      { (halAdcStart analog port).2.adc1 with eoc := false } ∧ _ :=
    halAdcPollForConversion_done (by rw [hstart]) (by rw [hstart]) hlocked
  obtain ⟨hpoll, hlocked⟩ := hpolled
  have hstopped : (halAdcStop (halAdcPollForConversion (halAdcStart analog port).2).2).2.adc1 =
      { (halAdcPollForConversion (halAdcStart analog port).2).2.adc1 with cr2 := 0x001E0000 } ∧ _ :=
    halAdcStop_running (by rw [hpoll, hstart]) hlocked
  obtain ⟨hstop, hlocked⟩ := hstopped
  refine ⟨?_, hlocked⟩
  unfold convertOnce Adc1.converted
  rw [hstop, hpoll, hstart]

/-- A conversion leaves the ADC ready for the next one, by either handle. -/
theorem Idle.converted (h : Idle port) {hadc : Handle} (hlocked : hadc.locked = false) :
    Idle ⟨port.adc1.converted analog, hadc⟩ :=
  ⟨.inr rfl, h.2.1, h.2.2.1, hlocked⟩

end

/-- A `get_data` call of either driver. -/
inductive GetData where
  | gp2y1014au0f (analog : Nat → UInt32)
  | lm386 (analog : Nat → UInt32)

def GetData.channel : GetData → Nat
  | gp2y1014au0f _ => gp2y1014au0fChannel.toNat
  | lm386 _ => lm386Channel.toNat

def GetData.isLm386 : GetData → Bool
  | gp2y1014au0f _ => false
  | lm386 _ => true

def getData (drivers : Drivers) : GetData → Drivers
  | .gp2y1014au0f analog => (myGp2y1014au0fGetData analog drivers).2
  | .lm386 analog => (myLm386GetData analog drivers).2

/-- The call samples its own channel, once. -/
def SamplesOwnChannel (drivers : Drivers) (call : GetData) : Prop :=
  (getData drivers call).adc1.sampled = call.channel :: drivers.adc1.sampled

/-- Both drivers are ready to convert, and rank 1 holds the channel of the
LM386. -/
structure OnLm386 (drivers : Drivers) : Prop where
  gp2y1014au0f : Idle ⟨drivers.adc1, drivers.gp2y1014au0f⟩
  lm386 : Idle ⟨drivers.adc1, drivers.lm386⟩
  rank1 : drivers.adc1.rank1 = lm386Channel.toNat

theorem OnLm386.step {drivers : Drivers} (h : OnLm386 drivers) (call : GetData) :
    OnLm386 (getData drivers call) ∧
      (getData drivers call).adc1.sampled = lm386Channel.toNat :: drivers.adc1.sampled := by
  have hgp2y1014au0fLocked := h.gp2y1014au0f.2.2.2
  have hlm386Locked := h.lm386.2.2.2
  cases call with
  | gp2y1014au0f analog =>
    obtain ⟨hadc1, hlocked⟩ := convertOnce_idle analog h.gp2y1014au0f
    have hdrivers : (getData drivers (.gp2y1014au0f analog)).adc1 =
        drivers.adc1.converted analog := hadc1
    refine ⟨⟨?_, ?_, ?_⟩, ?_⟩
    · rw [hdrivers]
      exact h.gp2y1014au0f.converted analog hlocked
    · rw [hdrivers]
      exact h.lm386.converted analog hlm386Locked
    · rw [hdrivers]
      exact h.rank1
    · rw [hdrivers, ← h.rank1]
      rfl
  | lm386 analog =>
    obtain ⟨hadc1, hlocked⟩ := convertOnce_idle analog h.lm386
    have hdrivers : (getData drivers (.lm386 analog)).adc1 = drivers.adc1.converted analog := hadc1
    refine ⟨⟨?_, ?_, ?_⟩, ?_⟩
    · rw [hdrivers]
      exact h.gp2y1014au0f.converted analog hgp2y1014au0fLocked
    · rw [hdrivers]
      exact h.lm386.converted analog hlocked
    · rw [hdrivers]
      exact h.rank1
    · rw [hdrivers, ← h.rank1]
      rfl

/-- So only the calls of the LM386 sample their own channel. -/
theorem OnLm386.samplesOwnChannel {drivers : Drivers} (h : OnLm386 drivers) (call : GetData) :
    SamplesOwnChannel drivers call ↔ call.isLm386 = true := by
  have hsampled := (h.step call).2
  unfold SamplesOwnChannel
  rw [hsampled, List.cons.injEq]
  have hother : lm386Channel.toNat ≠ gp2y1014au0fChannel.toNat := by decide
  cases call with
  | gp2y1014au0f analog => exact ⟨fun hchannel => absurd hchannel.1 hother, nofun⟩
  | lm386 analog => exact ⟨fun _ => rfl, fun _ => ⟨rfl, rfl⟩⟩

def initialised : Drivers := myLm386Init (myGp2y1014au0fInit Drivers.reset)

theorem initialised_again : myLm386Init (myGp2y1014au0fInit initialised) = initialised := by
  decide +kernel

theorem onLm386_initialised : OnLm386 initialised where
  gp2y1014au0f := ⟨.inl (by decide +kernel), by decide +kernel, by decide +kernel, rfl⟩
  lm386 := ⟨.inl (by decide +kernel), by decide +kernel, by decide +kernel, rfl⟩
  rank1 := by decide +kernel

end Adc

/-- Every number of boot rounds leaves the ADC in the same state. -/
theorem adc_round {w : World} (h : w.adc = Adc.Drivers.reset ∨ w.adc = Adc.initialised)
    (env : InitEnv) : (mainFuncInit env w).2.adc = Adc.initialised := by
  obtain ⟨events, -, hround⟩ := mainFuncInit_quietly env w
  have hadc : (mainFuncInit env w).2.adc = Adc.myLm386Init (Adc.myGp2y1014au0fInit w.adc) := by
    rw [hround]
    rfl
  rw [hadc]
  rcases h with hreset | hinitialised
  · rw [hreset]
    rfl
  · rw [hinitialised, Adc.initialised_again]

theorem adc_boot (dataCsv : List Char) (boot : List BootInput) (env : InitEnv) :
    (mainFuncInit env (runs bootStep (World.powerOn dataCsv) boot)).2.adc = Adc.initialised := by
  have hstep : ∀ w input, (w.adc = Adc.Drivers.reset ∨ w.adc = Adc.initialised) →
      ((bootStep w input).adc = Adc.Drivers.reset ∨ (bootStep w input).adc = Adc.initialised) := by
    intro w input h
    cases input with
    | key key =>
      have hpress := (World.Harmless.press w key).adc
      rw [bootStep, hpress]
      exact h
    | round env => exact .inr (adc_round h env)
  exact adc_round (runs_induction hstep (.inl rfl) boot) env

/-- After the boot the calls sample their own channels exactly when none of
them is a call of the dust sensor. -/
theorem samplesOwnChannel_iff (dataCsv : List Char) (boot : List BootInput) (env : InitEnv)
    (calls : List Adc.GetData) :
    Along Adc.getData Adc.SamplesOwnChannel
        (mainFuncInit env (runs bootStep (World.powerOn dataCsv) boot)).2.adc calls ↔
      ∀ call ∈ calls, call.isLm386 = true := by
  rw [adc_boot, along_iff_along Adc.OnLm386 (fun _ call h => h.samplesOwnChannel call)
    (fun _ call h _ => (h.step call).1) Adc.onLm386_initialised]
  exact along_inputs

/-- The first dust measurement samples channel 6. -/
theorem dust_samples_sound :
    ¬∀ (dataCsv : List Char) (boot : List BootInput) (env : InitEnv) (calls : List Adc.GetData),
      Along Adc.getData Adc.SamplesOwnChannel
        (mainFuncInit env (runs bootStep (World.powerOn dataCsv) boot)).2.adc calls := by
  intro h
  have hcalls := h [] [] goodRound [.gp2y1014au0f fun _ => 0]
  have hsampled := hcalls.1
  unfold Adc.SamplesOwnChannel at hsampled
  revert hsampled
  decide +kernel

end WeatherStation
