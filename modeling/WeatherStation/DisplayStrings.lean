import WeatherStation.Ranges

/-! The strings that `DISP_DATA_updateData` formats, each into a buffer of eight bytes.
The light value has 24 bits, which is more digits than its buffer has room for. -/
namespace WeatherStation
open Lib Gpio I2c Display

/-- The formats of the eight strings, in the order of their lines. -/
def displayStrings (measured : Measured) : List (List Char) :=
  [Printf.leftJustify 4 (Printf.fixed 2 measured.hmc5883lHeading),
    Printf.leftJustify 4 (Printf.fixed 2 measured.bme280RawData.temperature),
    Printf.leftJustify 4 (Printf.fixed 2 measured.bme280RawData.humidity),
    Printf.leftJustify 4 (Printf.fixed 2 (measured.bme280RawData.pressure / 100)),
    Printf.decimal measured.ltr390RawData.uvi.toNat,
    Printf.leftJustify 5 (Printf.fixed 1 measured.ltr390RawData.lux),
    Printf.leftJustify 4 (Printf.fixed 2 measured.gp2y1014au0fRawData),
    Printf.leftJustify 4 (Printf.fixed 2 measured.lm386RawData)]

theorem dispDataUpdateData_eq (w : World) :
    dispDataUpdateData w = (w.record (.call .dispDataUpdateData)).lcd
      ([.setFont .font8x16, .setTextColor .white, .clear (21 * 8) 4 (8 * 8) (8 * 16)] ++
        (displayStrings w.measured).zipIdx.map fun (text, line) =>
          .dispString (21 * 8) (line + 4) (String.ofList text)) := rfl

/-- Each string fits in its buffer with the terminator. -/
def StringsFit (measured : Measured) : Prop :=
  ∀ text ∈ displayStrings measured, text.length + 1 ≤ 8

/-- Each string that `DISP_DATA_updateData` draws in this state fits in its buffer. -/
def DrawnFit (w : World) : Prop :=
  ∀ x line text, .lcd (.dispString x line text) ∈
    (dispDataUpdateData { w with history := [] }).history → text.length + 1 ≤ 8

theorem mem_drawn {w : World} {text : String} :
    (∃ x line, .lcd (.dispString x line text) ∈
      (dispDataUpdateData { w with history := [] }).history) ↔
      ∃ string ∈ displayStrings w.measured, String.ofList string = text := by
  rw [dispDataUpdateData_eq]
  simp only [World.lcd, World.record, List.map_append, List.map_map, List.reverse_append,
    List.mem_append, List.mem_reverse, List.mem_map, Function.comp_apply, Event.lcd.injEq,
    LcdOp.dispString.injEq, Prod.exists, List.map_cons, List.map_nil, List.mem_cons,
    List.not_mem_nil, reduceCtorEq, or_false]
  constructor
  · rintro ⟨x, line, string, index, hindex, -, -, rfl⟩
    exact ⟨string, List.fst_mem_of_mem_zipIdx hindex, rfl⟩
  · rintro ⟨string, hstring, rfl⟩
    obtain ⟨index, hindex⟩ := List.mem_iff_getElem?.mp hstring
    exact ⟨_, _, string, index, List.mk_mem_zipIdx_iff_getElem?.mpr hindex, rfl, rfl, rfl⟩

theorem drawnFit_iff (w : World) : DrawnFit w ↔ StringsFit w.measured := by
  constructor
  · intro h string hstring
    obtain ⟨x, line, hdrawn⟩ := mem_drawn.mpr ⟨string, hstring, rfl⟩
    exact String.length_ofList ▸ h x line _ hdrawn
  · intro h x line text hdrawn
    obtain ⟨string, hstring, rfl⟩ := mem_drawn.mp ⟨x, line, hdrawn⟩
    rw [String.length_ofList]
    exact h string hstring

/-- The poll of the light sensor is due and gets new data. -/
def ReadsLight (env : SensorEnv) (w : World) (als : List UInt8) : Prop :=
  (polled (w.timers .ltr390) w.ltr390 env.tick).isSome ∧
    ∃ dev b, w.ltr390.deref = some dev ∧ dev.bus.type = .i2cBus ∧
      Ltr390.AlsPhase Bus.replay dev env.replies (some als) b

/-- The 24 bits of light that a pass reads are below 125000, that is 100000 lux. -/
def LightBelow (c : Config) : Input → Prop
  | .key _ => True
  | .advance env =>
    match c.thread with
    | .polls => ∀ als, ReadsLight env.poll.ltr390 c.world als →
      (Ltr390.uint24OfBytes als).toNat < 125000
    | _ => True

section
variable {width : Nat} {text : List Char}

theorem length_leftJustify : (Printf.leftJustify width text).length = max width text.length :=
  List.length_rightpad

theorem luxOfAls_eq (alsData : UInt32) :
    |Ltr390.luxOfAls alsData| * 10 ^ 1 = (8 * alsData.toNat : ℕ) := by
  have hlux : Ltr390.luxOfAls alsData = 8 / 10 * alsData.toNat := by
    unfold Ltr390.luxOfAls
    ring
  have hnonneg : (0 : ℚ) ≤ 8 / 10 * alsData.toNat := by positivity
  rw [hlux, abs_of_nonneg hnonneg]
  push_cast
  ring

theorem luxString_iff (alsData : UInt32) :
    (Printf.leftJustify 5 (Printf.fixed 1 (Ltr390.luxOfAls alsData))).length + 1 ≤ 8 ↔
      alsData.toNat < 125000 := by
  have hnonneg : ¬Ltr390.luxOfAls alsData < 0 := by
    unfold Ltr390.luxOfAls
    exact not_lt.mpr (by positivity)
  have hdigits : (Nat.toDigits 10 (8 * alsData.toNat / 10 ^ 1)).length ≤ 5 ↔
      8 * alsData.toNat / 10 ^ 1 < 10 ^ 5 := Nat.length_toDigits_le_iff (by decide) (by decide)
  rw [length_leftJustify, Printf.length_fixed (by decide), if_neg hnonneg, luxOfAls_eq,
    Printf.roundHalfEven_natCast]
  omega

end

section
variable {q : ℚ}

/-- Up to three digits before the point leave room for a sign. -/
theorem twoString_signed (h : |q| ≤ 999) :
    (Printf.leftJustify 4 (Printf.fixed 2 q)).length + 1 ≤ 8 := by
  have hlength := Printf.length_fixed_le 999 3 (by decide : 0 < 2) (by decide) h (by decide)
  rw [length_leftJustify]
  split at hlength <;> omega

/-- Four digits before the point leave no room. -/
theorem twoString_nonneg (h : 0 ≤ q) (hle : q ≤ 9999) :
    (Printf.leftJustify 4 (Printf.fixed 2 q)).length + 1 ≤ 8 := by
  have hlength := Printf.length_fixed_le_of_nonneg 9999 4 (by decide : 0 < 2) (by decide) h hle
    (by decide)
  rw [length_leftJustify]
  omega

theorem uviString_fits (uvi : UInt8) : (Printf.decimal uvi.toNat).length + 1 ≤ 8 := by
  have huvi := uvi.toNat_lt
  have habs : (uvi.toNat : Int).natAbs < 10 ^ 3 := by omega
  have hlength := Printf.length_decimal_le 3 (by decide) habs
  split at hlength <;> omega

end

/-- Everything but the light always fits. -/
theorem stringsFit_iff {measured : Measured} {adc : Adc.Drivers} (h : InBounds measured adc) :
    StringsFit measured ↔
      (Printf.leftJustify 5 (Printf.fixed 1 measured.ltr390RawData.lux)).length + 1 ≤ 8 := by
  have hheading := twoString_signed (h.heading.trans (by norm_num))
  have htemperature := twoString_signed (h.bme280.temperature.trans (by norm_num))
  have hhumidity := twoString_nonneg h.bme280.humidity.1 (h.bme280.humidity.2.trans (by norm_num))
  have hpressure : (Printf.leftJustify 4
      (Printf.fixed 2 (measured.bme280RawData.pressure / 100))).length + 1 ≤ 8 := by
    obtain ⟨hlow, hhigh⟩ := h.bme280.pressure
    apply twoString_nonneg
    · linarith
    · linarith
  have huvi := uviString_fits measured.ltr390RawData.uvi
  have hdust := twoString_nonneg h.dust.1 (h.dust.2.trans (by norm_num))
  have hsound := twoString_nonneg h.sound.1 (h.sound.2.trans (by norm_num))
  unfold StringsFit displayStrings
  simp only [List.forall_mem_cons, hheading, htemperature, hhumidity, hpressure, huvi, hdust,
    hsound, true_and, List.not_mem_nil, false_imp_iff, implies_true, and_true]

section
variable {w : World} {env : SensorEnv}

/-- The light of the first phase is kept, whatever becomes of the second one. -/
theorem ltr390Read_light {dev : Ltr390.Device} (hdev : w.ltr390.deref = some dev)
    {als : Option (List UInt8)} {b : List Reply}
    (hals : Ltr390.measureAls Bus.replay dev env.replies = (.ok als, b)) :
    (ltr390Read env w).2.lux = (w.measured.ltr390RawData.withAls als).lux := by
  have huvs : ∀ (data : Ltr390.Data) (uvs : Option (List UInt8)),
      (data.withUvs uvs).lux = data.lux := by
    intro data uvs
    cases uvs <;> rfl
  unfold ltr390Read
  rw [hdev]
  rcases hsecond : Ltr390.measureUvs Bus.replay dev b with ⟨_ | uvs, b'⟩
  · rw [Ltr390.getData_uvs_fails hals hsecond]
  · rw [Ltr390.getData_answered hals hsecond]
    exact huvs _ _

theorem ltr390Read_fails {dev : Ltr390.Device} (hdev : w.ltr390.deref = some dev)
    {b : List Reply} (hals : Ltr390.measureAls Bus.replay dev env.replies = (.error (), b)) :
    (ltr390Read env w).2 = w.measured.ltr390RawData := by
  unfold ltr390Read
  rw [hdev, Ltr390.getData_als_fails hals]

theorem ReadsLight.measures {als : List UInt8} (h : ReadsLight env w als) {dev : Ltr390.Device}
    (hdev : w.ltr390.deref = some dev) :
    ∃ b, Ltr390.measureAls Bus.replay dev env.replies = (.ok (some als), b) := by
  obtain ⟨-, dev', b, hdev', hbus, hphase⟩ := h
  cases hdev.symm.trans hdev'
  exact ⟨b, (Ltr390.measureAls_iff hbus).mpr hphase⟩

theorem myLtr390Test_lux (env : SensorEnv) (w : World) :
    (∃ als, ReadsLight env w als ∧ (myLtr390Test env w).measured.ltr390RawData.lux =
      Ltr390.luxOfAls (Ltr390.uint24OfBytes als)) ∨
    (∀ als, ¬ReadsLight env w als) ∧
      (myLtr390Test env w).measured.ltr390RawData.lux = w.measured.ltr390RawData.lux := by
  cases hpolled : polled (w.timers .ltr390) w.ltr390 env.tick with
  | none =>
    right
    constructor
    · rintro als ⟨hsome, -⟩
      rw [hpolled] at hsome
      exact absurd hsome Bool.false_ne_true
    · unfold myLtr390Test
      rw [pollSensor_none hpolled]
      rfl
  | some block =>
    have hlux : (myLtr390Test env w).measured.ltr390RawData.lux = (ltr390Read env w).2.lux := by
      unfold myLtr390Test
      rw [pollSensor_some hpolled]
      rfl
    rw [hlux]
    cases hderef : w.ltr390.deref with
    | none =>
      right
      constructor
      · rintro als ⟨-, dev, b, hdev, -⟩
        exact nomatch hderef.symm.trans hdev
      · unfold ltr390Read
        rw [hderef]
        rfl
    | some dev =>
      rcases hals : Ltr390.measureAls Bus.replay dev env.replies with ⟨_ | als, b⟩
      · right
        constructor
        · intro als hreads
          obtain ⟨b', hmeasured⟩ := hreads.measures hderef
          exact nomatch hals.symm.trans hmeasured
        · rw [ltr390Read_fails hderef hals]
      · rw [ltr390Read_light hderef hals]
        cases als with
        | none =>
          right
          constructor
          · intro als hreads
            obtain ⟨b', hmeasured⟩ := hreads.measures hderef
            exact nomatch hals.symm.trans hmeasured
          · rfl
        | some als =>
          have hbus := Ltr390.supported_of_measure hals
          left
          refine ⟨als, ⟨?_, dev, b, hderef, hbus, (Ltr390.measureAls_iff hbus).mp hals⟩, rfl⟩
          rw [hpolled]
          rfl

end

theorem polls_lux (env : PollEnv) (w : World) :
    (∃ als, ReadsLight env.ltr390 w als ∧ (polls env w).measured.ltr390RawData.lux =
      Ltr390.luxOfAls (Ltr390.uint24OfBytes als)) ∨
    (∀ als, ¬ReadsLight env.ltr390 w als) ∧
      (polls env w).measured.ltr390RawData.lux = w.measured.ltr390RawData.lux := by
  have hview := (myBme280Test_ltr390 (myHmc5883lTest env.atan2 env.hmc5883l w) env.bme280).trans
    (myHmc5883lTest_ltr390 w env.atan2 env.hmc5883l)
  have hgp2y1014au0f : ∀ w, (myGp2y1014au0fTest env.gp2y1014au0f w).measured.ltr390RawData =
      w.measured.ltr390RawData := fun w =>
    pollDue_frame (f := fun w => w.measured.ltr390RawData) (fun _ _ => rfl) fun _ => rfl
  have hlm386 : ∀ w, (myLm386Test env.lm386 w).measured.ltr390RawData =
      w.measured.ltr390RawData := fun w =>
    pollDue_frame (f := fun w => w.measured.ltr390RawData) (fun _ _ => rfl) fun _ => rfl
  rw [(Prod.mk.inj (polls_measured env w)).1, sensorPolls, hlm386, hgp2y1014au0f]
  generalize myBme280Test env.bme280 (myHmc5883lTest env.atan2 env.hmc5883l w) = before at hview ⊢
  simp only [World.ltr390View, Prod.mk.injEq] at hview
  obtain ⟨hltr390, hdata, htimer⟩ := hview
  have hreads : ∀ als, ReadsLight env.ltr390 before als ↔ ReadsLight env.ltr390 w als := by
    intro als
    unfold ReadsLight
    rw [hltr390, htimer]
  have hlux := myLtr390Test_lux env.ltr390 before
  simp only [hreads, hdata] at hlux
  exact hlux

/-- What holds between two steps: the ranges, and the light still fits. -/
structure Config.Displayable (c : Config) : Prop where
  statements : c.Statements
  inBounds : c.world.InBounds
  light : (Printf.leftJustify 5
    (Printf.fixed 1 c.world.measured.ltr390RawData.lux)).length + 1 ≤ 8

theorem Config.Displayable.fits {c : Config} (h : c.Displayable) : StringsFit c.world.measured :=
  (stringsFit_iff h.inBounds).mpr h.light

theorem Config.Displayable.step {c : Config} {input : Input} (hinput : input.Possible)
    (h : c.Displayable) (hlight : LightBelow c input) : (c.step input).Displayable := by
  by_cases hpolls : c.thread = .polls → ∃ key, input = .key key
  · obtain ⟨hmeasured, hadc⟩ := Config.step_measured h.statements hpolls
    refine ⟨h.statements.step input, ?_, by rw [hmeasured]; exact h.light⟩
    unfold World.InBounds
    rw [hmeasured, hadc]
    exact h.inBounds
  · obtain ⟨thread, w⟩ := c
    obtain ⟨hthread, hadvance⟩ := Classical.not_imp.mp hpolls
    cases input with
    | key key => exact absurd ⟨key, rfl⟩ hadvance
    | advance env =>
      cases hthread
      have hbounds := polls_inBounds hinput h.inBounds
      have hlux := polls_lux env.poll w
      rw [Config.step_polls]
      generalize polls env.poll w = polled at hbounds hlux
      refine ⟨trivial, hbounds, ?_⟩
      rcases hlux with ⟨als, hreads, hlux⟩ | ⟨-, hlux⟩
      · rw [hlux]
        exact (luxString_iff _).mpr (hlight als hreads)
      · rw [hlux]
        exact h.light

/-- A light value of 125000 or more is shown at once. -/
theorem Config.Displayable.lightBelow {c : Config} {input : Input} (hinput : input.Possible)
    (h : c.Displayable) (hfits : StringsFit (c.step input).world.measured) :
    LightBelow c input := by
  obtain ⟨thread, w⟩ := c
  cases input with
  | key key => trivial
  | advance env =>
    cases thread with
    | ready => trivial
    | running program => trivial
    | polls =>
      intro als hreads
      have hbounds := polls_inBounds hinput h.inBounds
      have hlux := polls_lux env.poll w
      rw [Config.step_polls] at hfits
      generalize polls env.poll w = polled at hfits hbounds hlux
      have hlight := (stringsFit_iff hbounds).mp hfits
      rcases hlux with ⟨als', hreads', hlux⟩ | ⟨hnot, -⟩
      · obtain ⟨dev, _, hdev, -⟩ := hreads.2
        obtain ⟨b, hmeasured⟩ := hreads.measures hdev
        obtain ⟨b', hmeasured'⟩ := hreads'.measures hdev
        cases hmeasured.symm.trans hmeasured'
        rw [hlux] at hlight
        exact (luxString_iff _).mp hlight
      · exact absurd hreads (hnot als)

theorem Booted.displayable {w : World} (h : Booted w) : Config.Displayable (.start w) := by
  have hlux : w.measured.ltr390RawData.lux = Ltr390.luxOfAls 0 := by
    rw [h.measured.1]
    norm_num [Measured.init, Ltr390.luxOfAls]
  refine ⟨trivial, h.inBounds, ?_⟩
  rw [Config.start, hlux]
  exact (luxString_iff 0).mpr (by decide)

/-- In every run of the main loop the strings of a refresh fit in their buffers exactly
when no pass reads 125000 or more from the light sensor. -/
theorem stringsFit_iff_lightBelow (w : World) (hbooted : Booted w) (inputs : List Input)
    (hinputs : ∀ input ∈ inputs, input.Possible) :
    Always Config.step (fun c => DrawnFit c.world) (.start w) inputs ↔
      Along Config.step LightBelow (.start w) inputs := by
  simp only [drawnFit_iff]
  exact always_iff_along_of Config.Displayable Input.Possible (fun _ h => h.fits)
    (fun _ _ hinput h hlight => h.step hinput hlight)
    (fun _ _ hinput h hfits => h.lightBelow hinput hfits) hbooted.displayable hinputs

/-- A pass after a minute in which only the light sensor answers, with these bytes. -/
def lightPass (als : List UInt8) : IterEnv where
  poll := { (silentPass 60000).poll with
    ltr390 := ⟨60000, [⟨1, []⟩, ⟨2, [0x08]⟩, ⟨2, als⟩]⟩ }
  func := (silentPass 60000).func

theorem lightPass_possible (als : List UInt8) :
    ∀ input ∈ [Input.advance (lightPass als)], input.Possible := by
  intro input hinput
  cases List.mem_singleton.mp hinput
  have hzero : (0 : UInt32).toNat < 4096 := by decide
  refine ⟨fun y x => ?_, fun _ => hzero, fun _ => hzero⟩
  change |((0 : ℚ) : ℝ)| ≤ Real.pi
  rw [Rat.cast_zero, abs_zero]
  exact Real.pi_nonneg

theorem stringsFit_iff_lightBelow_dim :
    Always Config.step (fun c => DrawnFit c.world) (.start bootedWorld)
        [.advance (lightPass [0, 1, 0])] ↔
      Along Config.step LightBelow (.start bootedWorld) [.advance (lightPass [0, 1, 0])] :=
  stringsFit_iff_lightBelow bootedWorld booted_bootedWorld _ (lightPass_possible _)

/-- 125000, least significant byte first. -/
def brightLight : List UInt8 := [0x48, 0xE8, 0x01]

theorem brightLight_read :
    ReadsLight (lightPass brightLight).poll.ltr390 bootedWorld brightLight := by
  have hdue : (bootedWorld.timers .ltr390).due 60000 = true := by
    rw [booted_bootedWorld.timers]
    decide
  have hpointer : bootedWorld.ltr390.pointer.isSome := by decide +kernel
  have hmeasured : Ltr390.measureAls Bus.replay ⟨⟨.i2cBus⟩, Ltr390.ltr390Addr⟩
      [⟨1, []⟩, ⟨2, [0x08]⟩, ⟨2, brightLight⟩] = (.ok (some brightLight), []) := rfl
  refine ⟨?_, ⟨⟨.i2cBus⟩, Ltr390.ltr390Addr⟩, [], by decide +kernel, rfl,
    (Ltr390.measureAls_iff rfl).mp hmeasured⟩
  change (polled (bootedWorld.timers .ltr390) bootedWorld.ltr390 60000).isSome
  unfold polled
  rw [hdue]
  exact hpointer

/-- At 125000 the lux string is "100000.0". -/
theorem brightLight_overflows :
    ¬∀ (w : World) (inputs : List Input), Booted w → (∀ input ∈ inputs, input.Possible) →
      Always Config.step (fun c => DrawnFit c.world) (.start w) inputs := by
  intro h
  have halways := h bootedWorld [.advance (lightPass brightLight)] booted_bootedWorld
    (lightPass_possible _)
  have hlight := booted_bootedWorld.displayable.lightBelow
    (lightPass_possible brightLight _ (List.mem_singleton_self _))
    ((drawnFit_iff _).mp halways.last)
  exact absurd (hlight _ brightLight_read) (by decide)

end WeatherStation
