import Mathlib.Analysis.Real.Pi.Bounds
import WeatherStation.FailedReads
import WeatherStation.Ownership

/-! The ranges of the measurements in the main loop, whatever the sensors send:
clamps in the BME280 driver, 12 bits from the ADC, and the angle of atan2. -/
namespace WeatherStation
open Lib Gpio I2c

/-- What the ADC and the library can return. -/
structure PollEnv.Possible (env : PollEnv) : Prop where
  atan2 : ∀ y x, |(env.atan2 y x : ℝ)| ≤ Real.pi
  gp2y1014au0f : ∀ channel, (env.gp2y1014au0f.analog channel).toNat < 4096
  lm386 : ∀ channel, (env.lm386.analog channel).toNat < 4096

def Input.Possible : Input → Prop
  | .key _ => True
  | .advance env => env.poll.Possible

/-- The ranges of the compensated values, and of the zeros before the first reading. -/
structure Bme280.Data.InRange (data : Data) : Prop where
  temperature : |data.temperature| ≤ 85
  humidity : 0 ≤ data.humidity ∧ data.humidity ≤ 100
  pressure : 0 ≤ data.pressure ∧ data.pressure ≤ 110000

/-- The ranges of all measurements but the light. -/
structure InBounds (measured : Measured) (adc : Adc.Drivers) : Prop where
  heading : |measured.hmc5883lHeading| ≤ 361
  bme280 : measured.bme280RawData.InRange
  dust : 0 ≤ measured.gp2y1014au0fRawData ∧ measured.gp2y1014au0fRawData ≤ 7140
  sound : 0 ≤ measured.lm386RawData ∧ measured.lm386RawData ≤ 33 / 10
  sample : adc.adc1.dr.toNat < 4096

namespace Adc
variable {port : Port} {analog : Nat → UInt32} {drivers : Drivers}

theorem halAdcStart_dr (h : port.adc1.dr.toNat < 4096)
    (hanalog : ∀ channel, (analog channel).toNat < 4096) :
    (halAdcStart analog port).2.adc1.dr.toNat < 4096 := by
  have henable : ∀ adc1, (adcEnable adc1).dr = adc1.dr := by
    intro adc1
    unfold adcEnable
    split <;> rfl
  have hconvert : ∀ adc1 : Adc1, adc1.dr.toNat < 4096 → (adc1.convert analog).dr.toNat < 4096 := by
    intro adc1 hdr
    unfold Adc1.convert
    split
    · exact hanalog _
    · exact hdr
  unfold halAdcStart
  split
  · exact h
  · apply hconvert
    dsimp only
    rwa [henable]

theorem halAdcPollForConversion_dr : (halAdcPollForConversion port).2.adc1.dr = port.adc1.dr := by
  unfold halAdcPollForConversion
  split
  · rfl
  · split <;> rfl

theorem adcConversionStopDisable_dr (adc1 : Adc1) : (adcConversionStopDisable adc1).dr = adc1.dr := by
  unfold adcConversionStopDisable
  split <;> rfl

theorem halAdcStop_dr : (halAdcStop port).2.adc1.dr = port.adc1.dr := by
  unfold halAdcStop
  split
  · rfl
  · exact adcConversionStopDisable_dr _

theorem convertOnce_dr (port : Port) (h : port.adc1.dr.toNat < 4096)
    (hanalog : ∀ channel, (analog channel).toNat < 4096) :
    (convertOnce analog port).1.toNat < 4096 ∧
      (convertOnce analog port).2.adc1.dr.toNat < 4096 := by
  have hdr : (halAdcPollForConversion (halAdcStart analog port).2).2.adc1.dr.toNat < 4096 := by
    rw [halAdcPollForConversion_dr]
    exact halAdcStart_dr h hanalog
  unfold convertOnce
  dsimp only
  rw [halAdcStop_dr]
  exact ⟨hdr, hdr⟩

theorem myFilter_lt (filter : Filter) {data : UInt32} (h : data.toNat < 4096) :
    (myFilter filter data).1.toNat < 4096 := by
  unfold myFilter
  split
  · exact h
  · dsimp only
    have hbyte := ((filter.sum - filter.buffer.headD 0 + data) / 10).toUInt8.toNat_lt
    rw [UInt8.toNat_toUInt32]
    omega

theorem voltage_le {value : UInt32} (h : value.toNat < 4096) :
    0 ≤ (value.toNat / 4096 * voltageSys : ℚ) ∧ (value.toNat / 4096 * voltageSys : ℚ) ≤ 33 / 10 := by
  have hvalue : (value.toNat : ℚ) ≤ 4096 := by exact_mod_cast Nat.le_of_lt h
  have hnonneg : (0 : ℚ) ≤ value.toNat := Nat.cast_nonneg _
  unfold voltageSys
  constructor <;> linarith

theorem myGp2y1014au0fGetData_range (h : drivers.adc1.dr.toNat < 4096)
    (hanalog : ∀ channel, (analog channel).toNat < 4096) :
    (0 ≤ (myGp2y1014au0fGetData analog drivers).1 ∧
      (myGp2y1014au0fGetData analog drivers).1 ≤ 7140) ∧
      (myGp2y1014au0fGetData analog drivers).2.adc1.dr.toNat < 4096 := by
  obtain ⟨hvalue, hdr⟩ := convertOnce_dr ⟨drivers.adc1, drivers.gp2y1014au0f⟩ h hanalog
  have hvoltage := voltage_le (myFilter_lt drivers.filter hvalue)
  refine ⟨?_, hdr⟩
  unfold myGp2y1014au0fGetData voltageNoDust covRatio
  dsimp only
  split
  · constructor <;> linarith
  · constructor <;> norm_num

theorem myLm386GetData_range (h : drivers.adc1.dr.toNat < 4096)
    (hanalog : ∀ channel, (analog channel).toNat < 4096) :
    (0 ≤ (myLm386GetData analog drivers).1 ∧ (myLm386GetData analog drivers).1 ≤ 33 / 10) ∧
      (myLm386GetData analog drivers).2.adc1.dr.toNat < 4096 := by
  obtain ⟨hvalue, hdr⟩ := convertOnce_dr ⟨drivers.adc1, drivers.lm386⟩ h hanalog
  exact ⟨voltage_le hvalue, hdr⟩

theorem myMxAdc1Init_dr (channel : UInt32) : (myMxAdc1Init channel port).adc1.dr = port.adc1.dr := by
  have hconfigure : ∀ init adc1, (configure init adc1).2.dr = adc1.dr := fun _ _ => rfl
  have hchannel : ∀ sConfig port, (halAdcConfigChannel sConfig port).2.adc1.dr = port.adc1.dr := by
    intro sConfig port
    unfold halAdcConfigChannel
    split <;> rfl
  have hinit : ∀ port, (halAdcInit port).2.adc1.dr = port.adc1.dr := by
    intro port
    unfold halAdcInit
    dsimp only
    generalize (if port.hadc.state = Handle.reset.state then { port.hadc with locked := false }
      else port.hadc) = hadc
    split
    · exact adcConversionStopDisable_dr _
    · split
      · exact (hconfigure _ _).trans (adcConversionStopDisable_dr _)
      · exact (hconfigure _ _).trans (adcConversionStopDisable_dr _)
  unfold myMxAdc1Init
  dsimp only
  rw [hchannel, hinit]

end Adc

theorem Bme280.clamp_bounds {low high : ℚ} (h : low ≤ high) (value : ℚ) :
    low ≤ clamp low high value ∧ clamp low high value ≤ high := by
  unfold clamp
  split
  · exact ⟨le_refl _, h⟩
  · split
    · exact ⟨h, le_refl _⟩
    · exact ⟨not_lt.mp ‹_›, not_lt.mp ‹_›⟩

/-- The clamps hold for all calibration data. -/
theorem Bme280.compensateData_inRange (uncomp : UncompData) (calib : CalibData) :
    (compensateData all uncomp calib).1.InRange := by
  have hpressure : ∀ calib, 0 ≤ compensatePressure uncomp calib ∧
      compensatePressure uncomp calib ≤ 110000 := by
    intro calib
    unfold compensatePressure
    dsimp only
    split
    · obtain ⟨hlow, hhigh⟩ := clamp_bounds (by norm_num : (30000 : ℚ) ≤ 110000) _
      exact ⟨le_trans (by norm_num) hlow, hhigh⟩
    · constructor <;> norm_num
  obtain ⟨hlow, hhigh⟩ := clamp_bounds (by norm_num : (-40 : ℚ) ≤ 85) _
  exact ⟨abs_le.mpr ⟨le_trans (by norm_num) hlow, hhigh⟩, clamp_bounds (by norm_num) _,
    hpressure _⟩

/-- The constant of main.c is a little too small. -/
theorem heading_le {angle : ℚ} (h : |(angle : ℝ)| ≤ Real.pi) :
    |angle * (180 / pi) + 180| ≤ 361 := by
  have hangle : |angle| ≤ 31416 / 10000 := by
    rw [← Rat.cast_abs] at h
    have hpi : ((|angle| : ℚ) : ℝ) ≤ ((31416 / 10000 : ℚ) : ℝ) := by
      push_cast at h ⊢
      linarith [Real.pi_lt_d4]
    exact Rat.cast_le.mp hpi
  obtain ⟨hlow, hhigh⟩ := abs_le.mp hangle
  unfold pi
  rw [abs_le]
  constructor <;> linarith

def World.InBounds (w : World) : Prop := WeatherStation.InBounds w.measured w.adc

section
variable {w : World}

theorem myHmc5883lTest_inBounds {atan2 : Int → Int → ℚ}
    (hatan2 : ∀ y x, |(atan2 y x : ℝ)| ≤ Real.pi) (env : SensorEnv) (h : w.InBounds) :
    (myHmc5883lTest atan2 env w).InBounds := by
  refine pollSensor_invariant (fun _ _ h => h) (fun _ _ h => h)
    (fun block w h => { h with heading := ?_ }) h
  unfold hmc5883lBody
  dsimp only
  split
  · exact heading_le (hatan2 _ _)
  · exact h.heading

theorem myBme280Test_inBounds (env : SensorEnv) (h : w.InBounds) :
    (myBme280Test env w).InBounds := by
  refine pollSensor_invariant (fun _ _ h => h) (fun _ _ h => h) (fun block w h => ?_) h
  have hdata : (bme280Read env w).2.1.InRange := by
    unfold bme280Read
    rcases @Bme280.getData_cases _ Bus.replay env.replies w.bme280.deref
      w.measured.bme280RawData with ⟨_, _, hrun⟩ | ⟨uncomp, calib, _, _, hrun⟩
    · rw [hrun]
      exact h.bme280
    · rw [hrun]
      exact Bme280.compensateData_inRange uncomp calib
  exact { h with bme280 := hdata }

theorem myLtr390Test_inBounds (env : SensorEnv) (h : w.InBounds) :
    (myLtr390Test env w).InBounds :=
  pollSensor_invariant (fun _ _ h => h) (fun _ _ h => h) (fun _ _ h => { h with }) h

theorem myGp2y1014au0fTest_inBounds {env : AnalogEnv}
    (hanalog : ∀ channel, (env.analog channel).toNat < 4096) (h : w.InBounds) :
    (myGp2y1014au0fTest env w).InBounds := by
  refine pollDue_invariant (fun _ _ h => h) (fun w h => ?_) h
  obtain ⟨hdensity, hsample⟩ := Adc.myGp2y1014au0fGetData_range h.sample hanalog
  exact { h with dust := hdensity, sample := hsample }

theorem myLm386Test_inBounds {env : AnalogEnv}
    (hanalog : ∀ channel, (env.analog channel).toNat < 4096) (h : w.InBounds) :
    (myLm386Test env w).InBounds := by
  refine pollDue_invariant (fun _ _ h => h) (fun w h => ?_) h
  obtain ⟨hvoltage, hsample⟩ := Adc.myLm386GetData_range h.sample hanalog
  exact { h with sound := hvoltage, sample := hsample }

theorem sensorPolls_inBounds {env : PollEnv} (henv : env.Possible) (h : w.InBounds) :
    (sensorPolls env w).InBounds :=
  myLm386Test_inBounds henv.lm386 <| myGp2y1014au0fTest_inBounds henv.gp2y1014au0f <|
    myLtr390Test_inBounds _ <| myBme280Test_inBounds _ <|
      myHmc5883lTest_inBounds henv.atan2 _ h

end

theorem polls_measured (env : PollEnv) (w : World) :
    ((polls env w).measured, (polls env w).adc) =
      ((sensorPolls env w).measured, (sensorPolls env w).adc) := by
  have hsave : ∀ w, ((mySdCardTest env.dataTick env.save w).measured,
      (mySdCardTest env.dataTick env.save w).adc) = (w.measured, w.adc) := by
    intro w
    apply pollDue_frame (f := fun w => (w.measured, w.adc)) fun _ _ => rfl
    intro w
    rw [sdCardBody, sdcardSaveCurrData_eq]
    rfl
  have houtput : ∀ w, ((mainOutput env.mainOutputTick w).measured,
      (mainOutput env.mainOutputTick w).adc) = (w.measured, w.adc) := by
    intro w
    exact pollDue_frame (f := fun w => (w.measured, w.adc)) (fun _ _ => rfl) fun _ => rfl
  unfold polls
  generalize sensorPolls env w = sensed
  exact (houtput _).trans (hsave _)

theorem polls_inBounds {env : PollEnv} {w : World} (henv : env.Possible) (h : w.InBounds) :
    (polls env w).InBounds := by
  obtain ⟨hmeasured, hadc⟩ := Prod.mk.inj (polls_measured env w)
  unfold World.InBounds
  rw [hmeasured, hadc]
  exact sensorPolls_inBounds henv h

theorem Statement.measured {label : Stmt} {update : World → World} (h : Statement label update)
    (w : World) : (update w).measured = w.measured ∧ (update w).adc = w.adc := by
  rcases h.cases with hordinary | ⟨env, _, rfl⟩ | ⟨dfsUnmount, _, rfl⟩
  · exact ⟨(hordinary.harmless w).measured, (hordinary.harmless w).adc⟩
  · dsimp only
    rw [sdcardSaveCurrData_eq]
    exact ⟨rfl, rfl⟩
  · dsimp only
    rw [sdCardEject_eq]
    exact ⟨rfl, rfl⟩

theorem Config.step_measured {c : Config} (hc : c.Statements) {input : Input}
    (h : c.thread = .polls → ∃ key, input = .key key) :
    (c.step input).world.measured = c.world.measured ∧
      (c.step input).world.adc = c.world.adc := by
  obtain ⟨thread, w⟩ := c
  cases input with
  | key key => exact ⟨(World.Harmless.press w key).measured, (World.Harmless.press w key).adc⟩
  | advance env =>
    cases thread with
    | polls =>
      obtain ⟨key, hkey⟩ := h rfl
      cases hkey
    | ready => exact ⟨rfl, rfl⟩
    | running program =>
      cases program with
      | done a => exact ⟨rfl, rfl⟩
      | step label update rest => exact hc.1.measured w

theorem Booted.measured {w : World} (h : Booted w) :
    w.measured = Measured.init ∧ w.adc.adc1.dr = 0 := by
  apply h.induction
  · exact fun _ => ⟨rfl, rfl⟩
  · intro w key hw
    rw [(World.Harmless.press w key).measured, (World.Harmless.press w key).adc]
    exact hw
  · intro env w hw
    obtain ⟨events, -, hround⟩ := mainFuncInit_quietly env w
    rw [hround]
    refine ⟨hw.1, Eq.trans ?_ hw.2⟩
    change (Adc.myLm386Init (Adc.myGp2y1014au0fInit w.adc)).adc1.dr = w.adc.adc1.dr
    unfold Adc.myLm386Init Adc.myGp2y1014au0fInit
    dsimp only
    rw [Adc.myMxAdc1Init_dr, Adc.myMxAdc1Init_dr]
  · exact fun w hw => hw

theorem Booted.inBounds {w : World} (h : Booted w) : w.InBounds := by
  obtain ⟨hmeasured, hdr⟩ := h.measured
  unfold World.InBounds
  rw [hmeasured]
  constructor
  · norm_num [Measured.init]
  · constructor <;> norm_num [Measured.init]
  · norm_num [Measured.init]
  · norm_num [Measured.init]
  · rw [hdr]
    decide

end WeatherStation
