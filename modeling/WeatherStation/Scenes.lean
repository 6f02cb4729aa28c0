import WeatherStation.SdCard

/-! The functions of main.c that draw the scenes.  Apart from the timer of
DISP_DATA they change nothing but the panel. -/
namespace WeatherStation
open Lib Gpio Display

/-- Events that tell nothing about saving, ejecting or the keys. -/
def Event.quiet : Event → Bool
  | .lcd op => op ≠ savedMessage ∧ op ≠ ejectedMessage
  | .led _ => true
  | .call .dispDataUpdateData => true
  | .call .myOv7725Test => true
  | _ => false

def World.addEvents (w : World) (events : List Event) : World :=
  { w with history := events ++ w.history }

/-- The second state is the first one with quiet events added. -/
def World.Quietly (w w' : World) : Prop :=
  ∃ events : List Event, (∀ event ∈ events, event.quiet = true) ∧ w' = w.addEvents events

/-- Quietly, and without a refresh of the page DISP_DATA. -/
def World.Draws (w w' : World) : Prop :=
  ∃ events : List Event,
    (∀ event ∈ events, event.quiet = true ∧ event ≠ .call .dispDataUpdateData) ∧
      w' = w.addEvents events

def menuUpdateSelect (w : World) : World :=
  w.lcd [.setFont .font16x24, .setTextColor .green, .clear 0 3 (3 * 16) (4 * 24),
    .dispStringLine (w.ui.selectScene.toNat + 2) " >>"]

def menuTask (w : World) : World :=
  menuUpdateSelect <| w.lcd [.clearAll, .setFont .font24x32, .setTextColor .cyan,
    .dispString (3 * 24 - 4) 0 "WELCOME!",
    .setFont .font8x16, .setTextColor .grey1, .dispString (9 * 8) 2 "K1: Select | K2: Enter",
    .setFont .font16x24, .setTextColor .grey3,
    .dispStringLine 3 "    Display Data",
    .dispStringLine 4 "    Take Photo",
    .dispStringLine 5 "    Eject SD Card",
    .dispStringLine 6 "    Settings"]

def dispDataUpdateData (w : World) : World :=
  let two q := String.ofList (Printf.leftJustify 4 (Printf.fixed 2 q))
  (w.record (.call .dispDataUpdateData)).lcd [.setFont .font8x16, .setTextColor .white,
    .clear (21 * 8) 4 (8 * 8) (8 * 16),
    .dispString (21 * 8) 4 (two w.measured.hmc5883lHeading),
    .dispString (21 * 8) 5 (two w.measured.bme280RawData.temperature),
    .dispString (21 * 8) 6 (two w.measured.bme280RawData.humidity),
    .dispString (21 * 8) 7 (two (w.measured.bme280RawData.pressure / 100)),
    .dispString (21 * 8) 8 (String.ofList (Printf.decimal w.measured.ltr390RawData.uvi.toNat)),
    .dispString (21 * 8) 9
      (String.ofList (Printf.leftJustify 5 (Printf.fixed 1 w.measured.ltr390RawData.lux))),
    .dispString (21 * 8) 10 (two w.measured.gp2y1014au0fRawData),
    .dispString (21 * 8) 11 (two w.measured.lm386RawData)]

def dispDataFrame : List LcdOp :=
  [.clearAll, .setFont .font24x32, .setTextColor .cyan,
    .dispString (3 * 24 - 8) 0 "ENV DATA",
    .setFont .font8x16, .setTextColor .grey1,
    .dispString (9 * 8 - 8) 2 "K1: Save to SD | K2: Back",
    .setTextColor .grey3,
    .dispStringLine 4 "      Heading:       ",
    .dispStringLine 5 "      Temperature:   ",
    .dispStringLine 6 "      Humidity:      ",
    .dispStringLine 7 "      Baro Pressure: ",
    .dispStringLine 8 "      UV Index:      ",
    .dispStringLine 9 "      Luminance:     ",
    .dispStringLine 10 "      PM2.5 Level:   ",
    .dispStringLine 11 "      Sound Level:   ",
    .dispString (28 * 8) 4 " *", .dispString (28 * 8) 5 " *C",
    .dispString (28 * 8) 6 " %", .dispString (28 * 8) 7 " hPa",
    .dispString (28 * 8) 8 " uvi", .dispString (28 * 8) 9 " lux",
    .dispString (28 * 8) 10 " ug/m3", .dispString (28 * 8) 11 " level"]

/-- The source compares `DISP_DATA_prev_milli` with the sampled time where an
assignment would restart the timer, so only `DISP_DATA_curr_milli` changes. -/
def dispDataTask (tick : UInt32) (w : World) : World :=
  dispDataUpdateData <| (w.lcd dispDataFrame).setTimer .dispData fun timer => timer.sample tick

/-- `my_ov7725_test` itself is not modelled here. -/
def takePhotoTask (w : World) : World := w.record (.call .myOv7725Test)

def sdCardTask (w : World) : World :=
  w.lcd [.clearAll, .setFont .font24x32, .setTextColor .yellow,
    .dispString (3 * 24) 2 "CONFIRM?",
    .setFont .font16x24, .setTextColor .magenta, .dispStringLine 4 "     K1: EJECT",
    .setTextColor .white, .dispStringLine 5 "     K2: BACK"]

def settingsUpdateSelect (w : World) : World :=
  w.lcd [.setFont .font8x16, .setTextColor .green, .clear 0 4 (10 * 8) (7 * 16),
    .dispStringLine (w.ui.selectSetting.toNat + 3) "      >>"]

def settingsTask (w : World) : World :=
  settingsUpdateSelect <| w.lcd [.clearAll, .setFont .font24x32, .setTextColor .cyan,
    .dispString (3 * 24 - 8) 0 "SETTINGS",
    .setFont .font8x16, .setTextColor .grey1, .dispString (9 * 8) 2 "K1: Select | K2: Back",
    .setTextColor .grey3,
    .dispStringLine 4 "          HMC5883L",
    .dispStringLine 5 "          BME280",
    .dispStringLine 6 "          LTR390",
    .dispStringLine 7 "          GP2Y1014AU0F",
    .dispStringLine 8 "          LM386",
    .dispStringLine 9 "          AUTO SAVE DATA",
    .setTextColor .white, .dispStringLine 10 "          BACK TO MENU"]

def settingsDelayUpdateSelect (w : World) : World :=
  w.lcd [.setFont .font8x16, .setTextColor .green, .clear 0 4 (10 * 8) (7 * 16),
    .dispStringLine (w.ui.selectDelay.toNat + 3) "      >>"]

def settingsDelayTask (w : World) : World :=
  settingsDelayUpdateSelect <| w.lcd [.clearAll, .setFont .font24x32, .setTextColor .cyan,
    .dispString 12 0 "SELECT DELAY",
    .setFont .font8x16, .setTextColor .grey1, .dispString (9 * 8) 2 "K1: Select | K2: Enter",
    .setTextColor .grey3,
    .dispStringLine 4 "          0.5 seconds",
    .dispStringLine 5 "          1 second",
    .dispStringLine 6 "          2 seconds",
    .dispStringLine 7 "          5 seconds",
    .dispStringLine 8 "          10 seconds",
    .dispStringLine 9 "          60 seconds",
    .setTextColor .white, .dispStringLine 10 "          BACK TO SETTINGS"]

theorem World.addEvents_trans {kind : Event → Prop} {w w' w'' : World}
    (h : ∃ events : List Event, (∀ event ∈ events, kind event) ∧ w' = w.addEvents events)
    (h' : ∃ events : List Event, (∀ event ∈ events, kind event) ∧ w'' = w'.addEvents events) :
    ∃ events : List Event, (∀ event ∈ events, kind event) ∧ w'' = w.addEvents events := by
  obtain ⟨events, hevents, rfl⟩ := h
  obtain ⟨events', hevents', rfl⟩ := h'
  refine ⟨events' ++ events, List.forall_mem_append.mpr ⟨hevents', hevents⟩, ?_⟩
  simp only [World.addEvents, List.append_assoc]

namespace World.Quietly
variable {w w' w'' : World}

theorem refl (w : World) : w.Quietly w := ⟨[], by simp, rfl⟩

theorem trans (h : w.Quietly w') (h' : w'.Quietly w'') : w.Quietly w'' := addEvents_trans h h'

theorem record (event : Event) (hevent : event.quiet = true) : w.Quietly (w.record event) :=
  ⟨[event], by simpa using hevent, rfl⟩

end World.Quietly

namespace World.Draws
variable {w w' w'' : World}

theorem quietly (h : w.Draws w') : w.Quietly w' := by
  obtain ⟨events, hevents, hw⟩ := h
  exact ⟨events, fun event hevent => (hevents event hevent).1, hw⟩

theorem trans (h : w.Draws w') (h' : w'.Draws w'') : w.Draws w'' := addEvents_trans h h'

theorem lcd {ops : List LcdOp} (hops : ∀ op ∈ ops, (Event.lcd op).quiet = true) :
    w.Draws (w.lcd ops) := by
  refine ⟨(ops.map Event.lcd).reverse, fun event hevent => ?_, rfl⟩
  rw [List.mem_reverse, List.mem_map] at hevent
  obtain ⟨op, hop, rfl⟩ := hevent
  exact ⟨hops op hop, Event.noConfusion⟩

end World.Draws

theorem World.Quietly.lcd {w : World} {ops : List LcdOp}
    (hops : ∀ op ∈ ops, (Event.lcd op).quiet = true) : w.Quietly (w.lcd ops) :=
  (World.Draws.lcd hops).quietly

section
variable (w : World)

theorem menuUpdateSelect_draws : w.Draws (menuUpdateSelect w) := by
  apply World.Draws.lcd
  simp [Event.quiet, savedMessage, ejectedMessage]

theorem menuTask_draws : w.Draws (menuTask w) := by
  apply (World.Draws.lcd _).trans (menuUpdateSelect_draws _)
  decide

theorem dispDataUpdateData_quietly : w.Quietly (dispDataUpdateData w) := by
  apply (World.Quietly.record (.call .dispDataUpdateData) rfl).trans
  apply World.Quietly.lcd
  simp [Event.quiet, savedMessage, ejectedMessage]

theorem dispDataFrame_draws : w.Draws (w.lcd dispDataFrame) :=
  World.Draws.lcd (by decide)

theorem takePhotoTask_draws : w.Draws (takePhotoTask w) := by
  refine ⟨[.call .myOv7725Test], ?_, rfl⟩
  simp [Event.quiet]

theorem sdCardTask_draws : w.Draws (sdCardTask w) := World.Draws.lcd (by decide)

theorem settingsUpdateSelect_draws : w.Draws (settingsUpdateSelect w) := by
  apply World.Draws.lcd
  simp [Event.quiet, savedMessage, ejectedMessage]

theorem settingsTask_draws : w.Draws (settingsTask w) := by
  apply (World.Draws.lcd _).trans (settingsUpdateSelect_draws _)
  decide

theorem settingsDelayUpdateSelect_draws : w.Draws (settingsDelayUpdateSelect w) := by
  apply World.Draws.lcd
  simp [Event.quiet, savedMessage, ejectedMessage]

theorem settingsDelayTask_draws : w.Draws (settingsDelayTask w) := by
  apply (World.Draws.lcd _).trans (settingsDelayUpdateSelect_draws _)
  decide

end
end WeatherStation
