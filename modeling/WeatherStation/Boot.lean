import WeatherStation.Lib.Runs
import WeatherStation.MainFunc

/-! `mainFuncInit` of main.c and the boot loop that repeats it until it
returns RT_EOK. -/
namespace WeatherStation
open Lib Gpio I2c Display

/-- What the init function of a sensor meets: whether `rt_calloc` succeeds,
what `rt_device_find` returns, and the replies on the bus. -/
structure SensorInitEnv where
  allocates : Bool
  find : Option RtDevice
  replies : List Reply

/-- One boot round; `camera` is the result of `my_ov7725_test_init`. -/
structure InitEnv where
  hmc5883l : SensorInitEnv
  bme280 : SensorInitEnv
  ltr390 : SensorInitEnv
  camera : RtErr
  dfsMount : Int

def blankDevice : RtDevice := ⟨.other⟩

/-- `my_hmc5883l_init` behind its allocation. -/
def hmc5883lMade (env : SensorInitEnv) : Option Hmc5883l.Device :=
  (Hmc5883l.myHmc5883lInit Bus.replay env.find Hmc5883l.hmc5883lAddr env.replies).1

def bme280Made (env : SensorInitEnv) : Option Bme280.Device :=
  (Bme280.myBme280Init Bus.replay env.find Bme280.bme280Addr env.replies).1

def ltr390Made (env : SensorInitEnv) : Option Ltr390.Device :=
  (Ltr390.myLtr390Init Bus.replay env.find Ltr390.ltr390Addr env.replies).1

def myHmc5883lInit (env : SensorInitEnv) (w : World) : World :=
  { w with hmc5883l :=
      w.hmc5883l.install env.allocates ⟨blankDevice, 0, ⟨0, 0, 0, 0⟩⟩ (hmc5883lMade env) }

def myBme280Init (env : SensorInitEnv) (w : World) : World :=
  { w with bme280 := w.bme280.install env.allocates ⟨blankDevice, 0, {}⟩ (bme280Made env) }

def myLtr390Init (env : SensorInitEnv) (w : World) : World :=
  { w with ltr390 := w.ltr390.install env.allocates ⟨blankDevice, 0⟩ (ltr390Made env) }

def keyEmbeddedInit (w : World) : World :=
  ((w.attachIrq .key1 .key1Change).enableIrq .key1).attachIrq .key2 .key2Change |>.enableIrq .key2

/-- The line that a device gets on the panel. -/
def announce (line : Nat) (good : Bool) (succeeded failed : String) (w : World) : World :=
  if good then (w.led .green).lcd [.dispStringLine line succeeded]
  else
    ((w.lcd [.setTextColor .red]).led .red).lcd
      [.dispStringLine line failed, .setTextColor .green]

def initHeader : List LcdOp :=
  [.setBackColor .black, .clearAll, .setFont .font16x24, .setTextColor .blue4,
    .dispStringLine 0 "Smart Env Tracker", .setTextColor .cyan,
    .dispStringLine 1 "Initializing...", .setFont .font8x16, .setTextColor .green]

def initHmc5883l (env : SensorInitEnv) (w : World) : World :=
  let w := myHmc5883lInit env (w.led .blue)
  announce 5 w.hmc5883l.pointer.isSome
    "(3/9) HMC5883L init succeeded!" "(3/9) HMC5883L init failed!" w

def initBme280 (env : SensorInitEnv) (w : World) : World :=
  let w := myBme280Init env (w.led .blue)
  announce 6 w.bme280.pointer.isSome
    "(4/9) BME280 init succeeded!" "(4/9) BME280 init failed!" w

def initLtr390 (env : SensorInitEnv) (w : World) : World :=
  let w := myLtr390Init env (w.led .blue)
  announce 7 w.ltr390.pointer.isSome
    "(5/9) LTR390 init succeeded!" "(5/9) LTR390 init failed!" w

def initAdc (w : World) : World :=
  let w := w.led .blue
  let w := announce 8 true "(6/9) GP2Y1014AU0F init succeeded!" ""
    { w with adc := Adc.myGp2y1014au0fInit w.adc }
  let w := w.led .blue
  announce 9 true "(7/9) LM386 init succeeded!" "" { w with adc := Adc.myLm386Init w.adc }

/-- `mainFuncInit` up to the SD card. -/
def initDevices (env : InitEnv) (w : World) : World :=
  let w := announce 3 true "(1/9) LED init succeeded!" "" ((w.lcd initHeader).led .off)
  let w := announce 4 true "(2/9) KEY init succeeded!" "" (keyEmbeddedInit (w.led .blue))
  let w := initHmc5883l env.hmc5883l w
  let w := initBme280 env.bme280 w
  let w := initLtr390 env.ltr390 w
  let w := initAdc w
  announce 10 (env.camera = rtEok)
    "(8/9) OV7725 init succeeded!" "(8/9) OV7725 init failed!" (w.led .blue)

/-- `initStatus` after the devices: -RT_ERROR when one of them failed. -/
def devicesStatus (env : InitEnv) (w : World) : RtErr :=
  if w.hmc5883l.pointer.isSome ∧ w.bme280.pointer.isSome ∧ w.ltr390.pointer.isSome ∧
      env.camera = rtEok then rtEok
  else -rtError

/-- The SD card comes last, and only when all devices are there. -/
def initCard (dfsMount : Int) (initStatus : RtErr) (w : World) : RtErr × World :=
  if initStatus = rtEok then
    let good := sdcardInit dfsMount = rtEok
    (if good then initStatus else -rtError,
      announce 11 good "(9/9) SD card init succeeded!" "(9/9) SD card init failed!" (w.led .blue))
  else
    (-rtError,
      w.lcd [.setTextColor .yellow, .dispStringLine 11 "(9/9) Skip SD card.",
        .setTextColor .green])

def mainFuncInit (env : InitEnv) (w : World) : RtErr × World :=
  let w := initDevices env w
  let (initStatus, w) := initCard env.dfsMount (devicesStatus env w) w
  (initStatus, if initStatus ≠ rtEok then w.led .red else w)

/-- The assignments of `main` between the boot loop and the main loop. -/
def mainStart (w : World) : World :=
  w.setUi fun u => { u with
    currScene := .menu
    prevScene := .menu
    selectScene := .dispData
    sceneIsChanged := true }

/-- A round in which everything answers; the calibration registers of the
BME280 read as zeros. -/
def goodRound : InitEnv where
  hmc5883l := ⟨true, some ⟨.i2cBus⟩, [⟨2, [0x48, 0x34, 0x33]⟩, ⟨1, []⟩, ⟨1, []⟩]⟩
  bme280 := ⟨true, some ⟨.i2cBus⟩,
    [⟨2, [0x60]⟩] ++ List.replicate 3 ⟨2, []⟩ ++
      [⟨2, [Bme280.crcCalculate (List.replicate 33 0)]⟩] ++ List.replicate 15 ⟨2, []⟩⟩
  ltr390 := ⟨true, some ⟨.i2cBus⟩, [⟨1, []⟩, ⟨1, []⟩]⟩
  camera := rtEok
  dfsMount := 0

inductive BootInput where
  | key (key : Key)
  | round (env : InitEnv)

def bootStep (w : World) : BootInput → World
  | .key key => w.press key
  | .round env => (mainFuncInit env w).2

/-- The boot loop goes on after a round that failed. -/
def BootInput.continues (w : World) : BootInput → Prop
  | .key _ => True
  | .round env => (mainFuncInit env w).1 ≠ rtEok

instance (w : World) (input : BootInput) : Decidable (input.continues w) := by
  cases input <;> unfold BootInput.continues <;> infer_instance

/-- The states in which the main loop can begin. -/
def Booted (w : World) : Prop :=
  ∃ dataCsv inputs env, Along bootStep BootInput.continues (World.powerOn dataCsv) inputs ∧
    (mainFuncInit env (runs bootStep (World.powerOn dataCsv) inputs)).1 = rtEok ∧
    w = mainStart (mainFuncInit env (runs bootStep (World.powerOn dataCsv) inputs)).2

/-- A state in which the main loop can begin. -/
def bootedWorld : World := mainStart (mainFuncInit goodRound (World.powerOn [])).2

theorem booted_bootedWorld : Booted bootedWorld :=
  ⟨[], [], goodRound, trivial, by decide +kernel, rfl⟩

namespace World.Quietly
variable {w w' : World}

/-- What does not look at the history can be done before or after. -/
theorem map (h : w.Quietly w') (init : World → World)
    (hinit : ∀ w events, init (World.addEvents w events) = (init w).addEvents events) : (init w).Quietly (init w') := by
  obtain ⟨events, hevents, rfl⟩ := h
  exact ⟨events, hevents, hinit w events⟩

theorem led (color : LedColor) (h : w.Quietly w') : w.Quietly (w'.led color) :=
  h.trans (.record (.led color) rfl)

/-- The texts of the panel during the boot are none of the messages about
saving and ejecting. -/
theorem announce (line : Nat) (succeeded failed : String)
    (hsucceeded : (Event.lcd (.dispStringLine line succeeded)).quiet = true)
    (hfailed : (Event.lcd (.dispStringLine line failed)).quiet = true) (good : Bool)
    (h : w.Quietly w') : w.Quietly (announce line good succeeded failed w') := by
  cases good with
  | true => exact (h.led .green).trans (.lcd (by simpa using hsucceeded))
  | false =>
    have hred : ∀ op ∈ [LcdOp.setTextColor .red], (Event.lcd op).quiet = true := by decide
    apply ((h.trans (.lcd hred)).led .red).trans
    apply World.Quietly.lcd
    intro op hop
    rcases List.mem_pair.mp hop with rfl | rfl
    · exact hfailed
    · decide

end World.Quietly

section
variable {w w' : World} (h : w.Quietly w')
include h

theorem initHmc5883l_quietly (env : SensorInitEnv) :
    (myHmc5883lInit env w).Quietly (initHmc5883l env w') :=
  ((h.led .blue).map (myHmc5883lInit env) fun _ _ => rfl).announce 5 _ _
    (by decide) (by decide) _

theorem initBme280_quietly (env : SensorInitEnv) :
    (myBme280Init env w).Quietly (initBme280 env w') :=
  ((h.led .blue).map (myBme280Init env) fun _ _ => rfl).announce 6 _ _ (by decide) (by decide) _

theorem initLtr390_quietly (env : SensorInitEnv) :
    (myLtr390Init env w).Quietly (initLtr390 env w') :=
  ((h.led .blue).map (myLtr390Init env) fun _ _ => rfl).announce 7 _ _ (by decide) (by decide) _

theorem initAdc_quietly :
    { w with adc := Adc.myLm386Init (Adc.myGp2y1014au0fInit w.adc) }.Quietly (initAdc w') := by
  have hgp2y1014au0f := ((h.led .blue).map
    (fun w => { w with adc := Adc.myGp2y1014au0fInit w.adc }) fun _ _ => rfl).announce 8
    "(6/9) GP2Y1014AU0F init succeeded!" "" (by decide) (by decide) true
  exact ((hgp2y1014au0f.led .blue).map
    (fun w => { w with adc := Adc.myLm386Init w.adc }) fun _ _ => rfl).announce 9
    "(7/9) LM386 init succeeded!" "" (by decide) (by decide) true

end

/-- The devices of one round without the panel and the LED. -/
def bareInit (env : InitEnv) (w : World) : World :=
  { w with
    pins := (keyEmbeddedInit w).pins
    hmc5883l := (myHmc5883lInit env.hmc5883l w).hmc5883l
    bme280 := (myBme280Init env.bme280 w).bme280
    ltr390 := (myLtr390Init env.ltr390 w).ltr390
    adc := Adc.myLm386Init (Adc.myGp2y1014au0fInit w.adc) }

theorem initDevices_quietly (env : InitEnv) (w : World) :
    (bareInit env w).Quietly (initDevices env w) := by
  have hheader : ∀ op ∈ initHeader, (Event.lcd op).quiet = true := by decide
  have hled : w.Quietly (announce 3 true "(1/9) LED init succeeded!" ""
      ((w.lcd initHeader).led .off)) :=
    ((World.Quietly.lcd hheader).led .off).announce 3 _ _ (by decide) (by decide) true
  have hkey := ((hled.led .blue).map keyEmbeddedInit fun _ _ => rfl).announce 4
    "(2/9) KEY init succeeded!" "" (by decide) (by decide) true
  have hadc := initAdc_quietly
    (initLtr390_quietly (initBme280_quietly (initHmc5883l_quietly hkey env.hmc5883l) env.bme280)
      env.ltr390)
  exact (hadc.led .blue).announce 10 _ _ (by decide) (by decide) _

theorem initCard_quietly {w w' : World} (h : w.Quietly w') (dfsMount : Int)
    (initStatus : RtErr) : w.Quietly (initCard dfsMount initStatus w').2 := by
  have hskip : ∀ op ∈ [LcdOp.setTextColor .yellow, .dispStringLine 11 "(9/9) Skip SD card.",
      .setTextColor .green], (Event.lcd op).quiet = true := by decide
  unfold initCard
  split
  · exact (h.led .blue).announce 11 _ _ (by decide) (by decide) _
  · exact h.trans (.lcd hskip)

theorem initCard_ok (dfsMount : Int) (initStatus : RtErr) (w : World) :
    (initCard dfsMount initStatus w).1 = rtEok ↔ initStatus = rtEok ∧ dfsMount = 0 := by
  have herror : -rtError ≠ rtEok := by decide
  unfold initCard sdcardInit
  by_cases hstatus : initStatus = rtEok
  · by_cases hmount : dfsMount = 0
    · simp only [hstatus, hmount, ↓reduceIte, decide_true, and_self]
    · simp only [hstatus, hmount, herror, ↓reduceIte, decide_false, and_false]
  · simp only [hstatus, herror, ↓reduceIte, false_and]

/-- A round is its devices followed by quiet events. -/
theorem mainFuncInit_quietly (env : InitEnv) (w : World) :
    (bareInit env w).Quietly (mainFuncInit env w).2 := by
  have hcard := initCard_quietly (initDevices_quietly env w) env.dfsMount
    (devicesStatus env (initDevices env w))
  by_cases hstatus : (mainFuncInit env w).1 = rtEok
  · have hround : (mainFuncInit env w).2 = _ := if_neg (not_not.mpr hstatus)
    rw [hround]
    exact hcard
  · have hround : (mainFuncInit env w).2 = _ := if_pos hstatus
    rw [hround]
    exact hcard.led .red

theorem mainFuncInit_ui (env : InitEnv) (w : World) : (mainFuncInit env w).2.ui = w.ui := by
  obtain ⟨events, -, hround⟩ := mainFuncInit_quietly env w
  rw [hround]
  rfl

theorem mainFuncInit_timers (env : InitEnv) (w : World) :
    (mainFuncInit env w).2.timers = w.timers := by
  obtain ⟨events, -, hround⟩ := mainFuncInit_quietly env w
  rw [hround]
  rfl

theorem mainFuncInit_history (env : InitEnv) (w : World) :
    ∃ events : List Event, (∀ event ∈ events, event.quiet = true) ∧
      (mainFuncInit env w).2.history = events ++ w.history := by
  obtain ⟨events, hevents, hround⟩ := mainFuncInit_quietly env w
  refine ⟨events, hevents, ?_⟩
  rw [hround]
  rfl

/-- What power-on, the keys, the rounds and the start of `main` establish and
keep holds when the main loop begins. -/
theorem Booted.induction {invariant : World → Prop}
    (hpowerOn : ∀ dataCsv, invariant (World.powerOn dataCsv))
    (hpress : ∀ w key, invariant w → invariant (w.press key))
    (hround : ∀ env w, invariant w → invariant (mainFuncInit env w).2)
    (hstart : ∀ w, invariant w → invariant (mainStart w)) {w : World} (h : Booted w) :
    invariant w := by
  obtain ⟨dataCsv, inputs, env, -, -, rfl⟩ := h
  have hstep : ∀ w input, invariant w → invariant (bootStep w input) := by
    intro w input hw
    cases input with
    | key key => exact hpress w key hw
    | round env => exact hround env w hw
  exact hstart _ (hround env _ (runs_induction hstep (hpowerOn dataCsv) inputs))

/-- RT_EOK means that everything went well in this round. -/
theorem mainFuncInit_ok (env : InitEnv) (w : World) :
    (mainFuncInit env w).1 = rtEok ↔
      ((mainFuncInit env w).2.hmc5883l.pointer.isSome ∧
        (mainFuncInit env w).2.bme280.pointer.isSome ∧
        (mainFuncInit env w).2.ltr390.pointer.isSome) ∧
      env.camera = rtEok ∧ env.dfsMount = 0 := by
  obtain ⟨events, -, hround⟩ := mainFuncInit_quietly env w
  obtain ⟨events', -, hdevices⟩ := initDevices_quietly env w
  have hfirst : (mainFuncInit env w).1 =
      (initCard env.dfsMount (devicesStatus env (initDevices env w)) (initDevices env w)).1 := rfl
  rw [hround, hfirst, initCard_ok, hdevices]
  unfold devicesStatus
  constructor
  · rintro ⟨hstatus, hmount⟩
    split at hstatus
    · rename_i hall
      exact ⟨⟨hall.1, hall.2.1, hall.2.2.1⟩, hall.2.2.2, hmount⟩
    · exact absurd hstatus (by decide)
  · rintro ⟨⟨hhmc5883l, hbme280, hltr390⟩, hcamera, hmount⟩
    exact ⟨if_pos ⟨hhmc5883l, hbme280, hltr390, hcamera⟩, hmount⟩

end WeatherStation
