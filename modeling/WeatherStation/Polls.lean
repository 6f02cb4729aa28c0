import WeatherStation.SdCard

/-! The polling functions `my_*_test` of main.c, which the main loop calls
before `mainFunc`.  They do not touch the page variables. -/
namespace WeatherStation
open Lib Gpio I2c

/-- The time and the bus replies that one sensor poll meets. -/
structure SensorEnv where
  tick : UInt32
  replies : List Reply

/-- The time, and the voltage level converted from each ADC channel. -/
structure AnalogEnv where
  tick : UInt32
  analog : Nat → UInt32

/-- What one pass of the main loop gets from its surroundings before it calls
`mainFunc`; `atan2` is the library function, with its result as a rational. -/
structure PollEnv where
  hmc5883l : SensorEnv
  atan2 : Int → Int → ℚ
  bme280 : SensorEnv
  ltr390 : SensorEnv
  gp2y1014au0f : AnalogEnv
  lm386 : AnalogEnv
  dataTick : UInt32
  save : SaveEnv
  mainOutputTick : UInt32

def pi : ℚ := 314159265 / 100000000

/-- The block that the due poll of a sensor hands to its `get_data`. -/
def polled {δ : Type} (timer : Timer) (owner : Owner δ) (tick : UInt32) : Option Nat :=
  if timer.due tick then owner.pointer else none

/-- The common course of the sensor polls: when the period is over and the
pointer is not null, restart the timer and read. -/
def pollSensor {δ : Type} (sensor : Sensor) (clock : Clock) (owner : World → Owner δ)
    (tick : UInt32) (read : Nat → World → World) (w : World) : World :=
  let polled := polled (w.timers clock) (owner w) tick
  let w := w.setTimer clock (·.sample tick)
  match polled with
  | none => w
  | some block =>
    let w := w.setTimer clock (·.restart tick)
    read block (w.record (.getData sensor block ((owner w).heap.Live block)))

/-- The common course of the other polls. -/
def pollDue (clock : Clock) (tick : UInt32) (body : World → World) (w : World) : World :=
  let due := (w.timers clock).due tick
  let w := w.setTimer clock (·.sample tick)
  if due then body (w.setTimer clock (·.restart tick)) else w

def hmc5883lRead (env : SensorEnv) (w : World) : RtErr × Hmc5883l.Data :=
  (Hmc5883l.myHmc5883lGetData Bus.replay w.hmc5883l.deref w.measured.hmc5883lRawData
    env.replies).1

/-- On failure `my_hmc5883l_destroy` frees the block; the global keeps its
address. -/
def hmc5883lBody (atan2 : Int → Int → ℚ) (env : SensorEnv) (block : Nat) (w : World) : World :=
  let (res, data) := hmc5883lRead env w
  let heading := if res = rtEok then atan2 data.y.toInt data.x.toInt * (180 / pi) + 180
    else w.measured.hmc5883lHeading
  { w with
    measured := { w.measured with hmc5883lRawData := data, hmc5883lHeading := heading }
    hmc5883l := w.hmc5883l.afterRead block none (res = rtEok) }

def myHmc5883lTest (atan2 : Int → Int → ℚ) (env : SensorEnv) : World → World :=
  pollSensor .hmc5883l .hmc5883l (·.hmc5883l) env.tick (hmc5883lBody atan2 env)

def bme280Read (env : SensorEnv) (w : World) : RtErr × Bme280.Data × Option Bme280.Device :=
  (Bme280.myBme280GetData Bus.replay w.bme280.deref w.measured.bme280RawData env.replies).1

/-- The driver changes the calibration data inside its block. -/
def bme280Body (env : SensorEnv) (block : Nat) (w : World) : World :=
  let (res, data, device) := bme280Read env w
  { w with
    measured := { w.measured with bme280RawData := data }
    bme280 := w.bme280.afterRead block device (res = rtEok) }

def myBme280Test (env : SensorEnv) : World → World :=
  pollSensor .bme280 .bme280 (·.bme280) env.tick (bme280Body env)

def ltr390Read (env : SensorEnv) (w : World) : RtErr × Ltr390.Data :=
  (Ltr390.myLtr390GetData Bus.replay w.ltr390.deref w.measured.ltr390RawData env.replies).1

def ltr390Body (env : SensorEnv) (block : Nat) (w : World) : World :=
  let (res, data) := ltr390Read env w
  { w with
    measured := { w.measured with ltr390RawData := data }
    ltr390 := w.ltr390.afterRead block none (res = rtEok) }

def myLtr390Test (env : SensorEnv) : World → World :=
  pollSensor .ltr390 .ltr390 (·.ltr390) env.tick (ltr390Body env)

def gp2y1014au0fBody (env : AnalogEnv) (w : World) : World :=
  let (density, adc) := Adc.myGp2y1014au0fGetData env.analog w.adc
  { w with adc, measured := { w.measured with gp2y1014au0fRawData := density } }

def myGp2y1014au0fTest (env : AnalogEnv) : World → World :=
  pollDue .gp2y1014au0f env.tick (gp2y1014au0fBody env)

def lm386Body (env : AnalogEnv) (w : World) : World :=
  let (voltage, adc) := Adc.myLm386GetData env.analog w.adc
  { w with adc, measured := { w.measured with lm386RawData := voltage } }

def myLm386Test (env : AnalogEnv) : World → World :=
  pollDue .lm386 env.tick (lm386Body env)

def sdCardBody (save : SaveEnv) (w : World) : World :=
  sdcardSaveCurrData save (w.record (.call (.sdcardSaveCurrData false)))

def mySdCardTest (tick : UInt32) (save : SaveEnv) : World → World :=
  pollDue .data tick (sdCardBody save)

/-- The "This is main" output of the loop; the log line is left out. -/
def mainOutput (tick : UInt32) : World → World := pollDue .mainOutput tick id

/-- The five polls that measure. -/
def sensorPolls (env : PollEnv) (w : World) : World :=
  myLm386Test env.lm386 <|
  myGp2y1014au0fTest env.gp2y1014au0f <|
  myLtr390Test env.ltr390 <|
  myBme280Test env.bme280 <|
  myHmc5883lTest env.atan2 env.hmc5883l w

/-- The body of the main loop up to the call of `mainFunc`. -/
def polls (env : PollEnv) (w : World) : World :=
  mainOutput env.mainOutputTick <| mySdCardTest env.dataTick env.save <| sensorPolls env w

section
variable {δ : Type} {sensor : Sensor} {clock : Clock} {owner : World → Owner δ} {tick : UInt32}
  {read : Nat → World → World} {body : World → World} {w : World}

theorem pollSensor_none (h : polled (w.timers clock) (owner w) tick = none) :
    pollSensor sensor clock owner tick read w = w.setTimer clock (·.sample tick) := by
  unfold pollSensor
  rw [h]

theorem pollSensor_some {block : Nat}
    (h : polled (w.timers clock) (owner w) tick = some block) :
    pollSensor sensor clock owner tick read w =
      read block ((w.setTimer clock (·.restart tick)).record (.getData sensor block
        ((owner (w.setTimer clock (·.restart tick))).heap.Live block))) := by
  unfold pollSensor
  rw [h]
  simp only [World.setTimer_sample_restart]

theorem pollDue_not (h : (w.timers clock).due tick = false) :
    pollDue clock tick body w = w.setTimer clock (·.sample tick) := by
  unfold pollDue
  rw [h]
  rfl

theorem pollDue_due (h : (w.timers clock).due tick = true) :
    pollDue clock tick body w = body (w.setTimer clock (·.restart tick)) := by
  unfold pollDue
  rw [h]
  simp only [↓reduceIte, World.setTimer_sample_restart]

/-- What the timer, the record and the read keep, the poll keeps. -/
theorem pollSensor_invariant {invariant : World → Prop}
    (htimer : ∀ w update, invariant w → invariant (w.setTimer clock update))
    (hrecord : ∀ w event, invariant w → invariant (w.record event))
    (hread : ∀ block w, invariant w → invariant (read block w)) (h : invariant w) :
    invariant (pollSensor sensor clock owner tick read w) := by
  cases hpolled : polled (w.timers clock) (owner w) tick with
  | none =>
    rw [pollSensor_none hpolled]
    exact htimer w _ h
  | some block =>
    rw [pollSensor_some hpolled]
    exact hread block _ (hrecord _ _ (htimer w _ h))

theorem pollDue_invariant {invariant : World → Prop}
    (htimer : ∀ w update, invariant w → invariant (w.setTimer clock update))
    (hbody : ∀ w, invariant w → invariant (body w)) (h : invariant w) :
    invariant (pollDue clock tick body w) := by
  cases hdue : (w.timers clock).due tick with
  | false =>
    rw [pollDue_not hdue]
    exact htimer w _ h
  | true =>
    rw [pollDue_due hdue]
    exact hbody _ (htimer w _ h)

theorem pollSensor_frame {α : Type} {f : World → α}
    (htimer : ∀ w update, f (World.setTimer w clock update) = f w)
    (hrecord : ∀ w event, f (World.record w event) = f w)
    (hread : ∀ block w, f (read block w) = f w) :
    f (pollSensor sensor clock owner tick read w) = f w := by
  cases h : polled (w.timers clock) (owner w) tick with
  | none => rw [pollSensor_none h, htimer]
  | some block => rw [pollSensor_some h, hread, hrecord, htimer]

theorem pollDue_frame {α : Type} {f : World → α}
    (htimer : ∀ w update, f (World.setTimer w clock update) = f w)
    (hbody : ∀ w, f (body w) = f w) : f (pollDue clock tick body w) = f w := by
  cases h : (w.timers clock).due tick with
  | false => rw [pollDue_not h, htimer]
  | true => rw [pollDue_due h, hbody, htimer]

end

/-- The second state differs from the first one by measurements only. -/
structure World.Sensed (w w' : World) : Prop where
  ui : w'.ui = w.ui
  pins : w'.pins = w.pins
  isFirstSave : w'.isFirstSave = w.isFirstSave
  dataCsv : w'.dataCsv = w.dataCsv
  data : w'.timers .data = w.timers .data
  delay : ∀ clock, (w'.timers clock).delay = (w.timers clock).delay
  history : ∃ events : List Event,
    (∀ event ∈ events, ∃ sensor block live, event = .getData sensor block live) ∧
      w'.history = events ++ w.history

namespace World.Sensed
variable {w w' w'' : World}

theorem refl (w : World) : w.Sensed w :=
  ⟨rfl, rfl, rfl, rfl, rfl, fun _ => rfl, [], by simp, rfl⟩

theorem trans (h : w.Sensed w') (h' : w'.Sensed w'') : w.Sensed w'' where
  ui := h'.ui.trans h.ui
  pins := h'.pins.trans h.pins
  isFirstSave := h'.isFirstSave.trans h.isFirstSave
  dataCsv := h'.dataCsv.trans h.dataCsv
  data := h'.data.trans h.data
  delay clock := (h'.delay clock).trans (h.delay clock)
  history := History.extend_trans h.history h'.history

theorem setTimer {clock : Clock} (hclock : clock ≠ .data) {update : Timer → Timer}
    (hdelay : ∀ timer, (update timer).delay = timer.delay) :
    w.Sensed (w.setTimer clock update) := by
  refine ⟨rfl, rfl, rfl, rfl, Function.update_of_ne hclock.symm _ _, fun other => ?_, [],
    by simp, rfl⟩
  by_cases hother : other = clock
  · subst hother
    simp [World.setTimer, hdelay]
  · simp [World.setTimer, Function.update_of_ne hother]

theorem getData (sensor : Sensor) (block : Nat) (live : Bool) :
    w.Sensed (w.record (.getData sensor block live)) :=
  { refl w with
    history := ⟨[.getData sensor block live], fun _ hevent =>
      ⟨sensor, block, live, List.mem_singleton.mp hevent⟩, rfl⟩ }

theorem pollSensor {δ : Type} {sensor : Sensor} {clock : Clock} {owner : World → Owner δ}
    {tick : UInt32} {read : Nat → World → World} (hclock : clock ≠ .data)
    (hread : ∀ block w, World.Sensed w (read block w)) :
    w.Sensed (pollSensor sensor clock owner tick read w) := by
  cases h : polled (w.timers clock) (owner w) tick with
  | none =>
    rw [pollSensor_none h]
    exact setTimer hclock fun _ => rfl
  | some block =>
    rw [pollSensor_some h]
    have htimer : w.Sensed (w.setTimer clock (·.restart tick)) := setTimer hclock fun _ => rfl
    exact htimer.trans ((getData _ _ _).trans (hread _ _))

theorem pollDue {clock : Clock} {tick : UInt32} {body : World → World} (hclock : clock ≠ .data)
    (hbody : ∀ w, World.Sensed w (body w)) : w.Sensed (pollDue clock tick body w) := by
  cases h : (w.timers clock).due tick with
  | false =>
    rw [pollDue_not h]
    exact setTimer hclock fun _ => rfl
  | true =>
    rw [pollDue_due h]
    have htimer : w.Sensed (w.setTimer clock (·.restart tick)) := setTimer hclock fun _ => rfl
    exact htimer.trans (hbody _)

theorem sensorPolls (env : PollEnv) : w.Sensed (sensorPolls env w) := by
  have hhmc5883l : w.Sensed (myHmc5883lTest env.atan2 env.hmc5883l w) :=
    pollSensor (by decide) fun _ _ => ⟨rfl, rfl, rfl, rfl, rfl, fun _ => rfl, [], by simp, rfl⟩
  have hbme280 : ∀ w, World.Sensed w (myBme280Test env.bme280 w) := fun w =>
    pollSensor (by decide) fun _ _ => ⟨rfl, rfl, rfl, rfl, rfl, fun _ => rfl, [], by simp, rfl⟩
  have hltr390 : ∀ w, World.Sensed w (myLtr390Test env.ltr390 w) := fun w =>
    pollSensor (by decide) fun _ _ => ⟨rfl, rfl, rfl, rfl, rfl, fun _ => rfl, [], by simp, rfl⟩
  have hgp2y1014au0f : ∀ w, World.Sensed w (myGp2y1014au0fTest env.gp2y1014au0f w) := fun w =>
    pollDue (by decide) fun _ => ⟨rfl, rfl, rfl, rfl, rfl, fun _ => rfl, [], by simp, rfl⟩
  have hlm386 : ∀ w, World.Sensed w (myLm386Test env.lm386 w) := fun w =>
    pollDue (by decide) fun _ => ⟨rfl, rfl, rfl, rfl, rfl, fun _ => rfl, [], by simp, rfl⟩
  exact hhmc5883l.trans <| (hbme280 _).trans <| (hltr390 _).trans <|
    (hgp2y1014au0f _).trans (hlm386 _)

theorem mainOutput (tick : UInt32) : w.Sensed (mainOutput tick w) :=
  pollDue (by decide) fun w => refl w

end World.Sensed
/-- What `my_sd_card_test` does to the world with the measurements in. -/
theorem mySdCardTest_due {tick : UInt32} {save : SaveEnv} {w : World}
    (hdue : (w.timers .data).due tick = true) :
    mySdCardTest tick save w = sdcardSaveCurrData save
      ((w.setTimer .data (·.restart tick)).record (.call (.sdcardSaveCurrData false))) :=
  pollDue_due hdue

theorem mySdCardTest_not {tick : UInt32} {save : SaveEnv} {w : World}
    (hdue : (w.timers .data).due tick = false) :
    mySdCardTest tick save w = w.setTimer .data (·.sample tick) := pollDue_not hdue

theorem polls_panel (env : PollEnv) (w : World) :
    (polls env w).ui = w.ui ∧ (polls env w).pins = w.pins := by
  have hsense := World.Sensed.sensorPolls (w := w) env
  have houtput : ∀ w, World.Sensed w (mainOutput env.mainOutputTick w) := fun _ => .mainOutput _
  have hsave : ∀ w, (mySdCardTest env.dataTick env.save w).ui = w.ui ∧
      (mySdCardTest env.dataTick env.save w).pins = w.pins := by
    intro w
    cases hdue : (w.timers .data).due env.dataTick with
    | false =>
      rw [mySdCardTest_not hdue]
      exact ⟨rfl, rfl⟩
    | true =>
      rw [mySdCardTest_due hdue, sdcardSaveCurrData_eq]
      exact ⟨rfl, rfl⟩
  unfold polls
  rw [(houtput _).ui, (houtput _).pins, (hsave _).1, (hsave _).2]
  exact ⟨hsense.ui, hsense.pins⟩

theorem mainOutput_history (tick : UInt32) (w : World) :
    (mainOutput tick w).history = w.history := by
  cases hdue : (w.timers .mainOutput).due tick with
  | false => rw [mainOutput, pollDue_not hdue, World.setTimer]
  | true => rw [mainOutput, pollDue_due hdue, World.setTimer, id]

theorem mySdCardTest_history (tick : UInt32) (save : SaveEnv) (w : World) :
    (mySdCardTest tick save w).history =
      (if (w.timers .data).due tick then save.events w ++ [.call (.sdcardSaveCurrData false)]
      else []) ++ w.history := by
  cases hdue : (w.timers .data).due tick with
  | false => rw [mySdCardTest_not hdue, World.setTimer, if_neg (by decide), List.nil_append]
  | true =>
    rw [mySdCardTest_due hdue, sdcardSaveCurrData_eq, if_pos rfl, List.append_assoc]
    rfl

theorem polls_delay (env : PollEnv) (w : World) (clock : Clock) :
    ((polls env w).timers clock).delay = (w.timers clock).delay := by
  have houtput : ∀ w, World.Sensed w (mainOutput env.mainOutputTick w) := fun _ => .mainOutput _
  have htimer : ∀ (w : World) (update : Timer → Timer),
      (∀ timer, (update timer).delay = timer.delay) →
        ((w.setTimer .data update).timers clock).delay = (w.timers clock).delay := by
    intro w update hdelay
    by_cases hclock : clock = .data
    · subst hclock
      simp [World.setTimer, hdelay]
    · simp [World.setTimer, Function.update_of_ne hclock]
  have hsave : ∀ w, ((mySdCardTest env.dataTick env.save w).timers clock).delay =
      (w.timers clock).delay := by
    intro w
    cases hdue : (w.timers .data).due env.dataTick with
    | false =>
      rw [mySdCardTest_not hdue]
      exact htimer w (·.sample env.dataTick) fun _ => rfl
    | true =>
      rw [mySdCardTest_due hdue, sdcardSaveCurrData_eq]
      exact htimer w (·.restart env.dataTick) fun _ => rfl
  unfold polls
  rw [(houtput _).delay, hsave]
  exact (World.Sensed.sensorPolls env).delay clock

/-- The events of one pass: the calls of the sensors, then those of the save if
it is due. -/
theorem polls_history (env : PollEnv) (w : World) :
    (polls env w).history =
      (if (w.timers .data).due env.dataTick then
        env.save.events (sensorPolls env w) ++ [.call (.sdcardSaveCurrData false)]
      else []) ++ (sensorPolls env w).history := by
  have htimer : (sensorPolls env w).timers .data = w.timers .data :=
    (World.Sensed.sensorPolls env).data
  unfold polls
  rw [mainOutput_history, mySdCardTest_history, htimer]

/-- What holds of the events of a save, of its call and of the sensors' calls
holds of all that a pass of polls adds. -/
theorem polls_events {property : Event → Prop} (env : PollEnv) (w : World)
    (hsave : ∀ event ∈ env.save.events (sensorPolls env w), property event)
    (hcall : property (.call (.sdcardSaveCurrData false)))
    (hgetData : ∀ sensor block live, property (.getData sensor block live)) :
    ∃ events : List Event, (∀ event ∈ events, property event) ∧
      (polls env w).history = events ++ w.history := by
  obtain ⟨events, hevents, hsensed⟩ := (World.Sensed.sensorPolls (w := w) env).history
  have hsensors : ∀ event ∈ events, property event := by
    intro event hevent
    obtain ⟨sensor, block, live, rfl⟩ := hevents event hevent
    exact hgetData sensor block live
  have hhistory := polls_history env w
  rw [hsensed] at hhistory
  by_cases hdue : (w.timers .data).due env.dataTick = true
  · rw [if_pos hdue, ← List.append_assoc] at hhistory
    refine ⟨_, ?_, hhistory⟩
    rw [List.forall_mem_append, List.forall_mem_append, List.forall_mem_singleton]
    exact ⟨⟨hsave, hcall⟩, hsensors⟩
  · rw [if_neg hdue, List.nil_append] at hhistory
    exact ⟨events, hsensors, hhistory⟩

end WeatherStation
