import WeatherStation.Lib.Printf
import WeatherStation.Lib.History
import WeatherStation.World

/-! SD_card.c, and the functions of main.c that save a row of data and eject
the card.  The results of the file system calls are parameters. -/
namespace WeatherStation
open Lib Gpio Display

/-- What `open` returns, and what `write` returns when it is called. -/
structure FileReply where
  fd : Int
  written : Int
  deriving DecidableEq

/-- The bytes of the buffer that reach the file. -/
def FileReply.accepted (reply : FileReply) (size : Nat) : Nat :=
  if reply.fd ≥ 0 then min reply.written.toNat size else 0

def sdcardInit (dfsMount : Int) : RtErr := if dfsMount = 0 then rtEok else -rtError

def sdcardUnmount (dfsUnmount : Int) : RtErr := if dfsUnmount = 0 then rtEok else -rtError

/-- data.csv is opened with O_APPEND; nothing is written when that fails. -/
def sdcardAppendNewData (buffer : List Char) (reply : FileReply) (w : World) : World :=
  let accepted := reply.accepted buffer.length
  { w with
    dataCsv := w.dataCsv ++ buffer.take accepted
    history := .append buffer reply.fd accepted :: w.history }

/-- The results of the calls that one `sdcard_saveCurrData` makes; `title` is
for the first save only. -/
structure SaveEnv where
  title : FileReply
  tick : UInt32
  row : FileReply
  deriving DecidableEq

def title : List Char :=
  "Time in Millisecond,Heading,Temperature,Humidity,Baro Pressure,UV Index,Luminance,PM2.5,Sound".toList

def titleLine : List Char := title ++ ['\n']

/-- `%d,%f,%f,%f,%f,%d,%f,%f,%f`; the tick count is unsigned but printed by `%d`. -/
def dataBlock (measured : Measured) (tick : UInt32) : List Char :=
  [','].intercalate
    [Printf.decimal tick.toInt32.toInt,
      Printf.fixed 6 measured.hmc5883lHeading,
      Printf.fixed 6 measured.bme280RawData.temperature,
      Printf.fixed 6 measured.bme280RawData.humidity,
      Printf.fixed 6 (measured.bme280RawData.pressure / 100),
      Printf.decimal measured.ltr390RawData.uvi.toNat,
      Printf.fixed 6 measured.ltr390RawData.lux,
      Printf.fixed 6 measured.gp2y1014au0fRawData,
      Printf.fixed 6 measured.lm386RawData]

def dataLine (measured : Measured) (tick : UInt32) : List Char :=
  dataBlock measured tick ++ ['\n']

theorem dataLine_head (measured : Measured) (tick : UInt32) :
    ∃ rest, dataLine measured tick = Printf.decimal tick.toInt32.toInt ++ rest := by
  unfold dataLine dataBlock
  rw [List.intercalate_cons_cons, List.append_assoc, List.append_assoc]
  exact ⟨_, rfl⟩

/-- The title starts with a letter, a data row with a sign or a digit. -/
theorem titleLine_ne_dataLine (measured : Measured) (tick : UInt32) :
    titleLine ≠ dataLine measured tick := by
  obtain ⟨c, digits, hdecimal, hc⟩ := Printf.decimal_head tick.toInt32.toInt
  obtain ⟨rest, hline⟩ := dataLine_head measured tick
  intro heq
  rw [hline, hdecimal] at heq
  have hhead : 'T' = c := (List.cons.inj heq).1
  subst hhead
  revert hc
  decide

def savingMessage : LcdOp := .dispStringLine 13 "         Saving current data...         "

def savedMessage : LcdOp := .dispStringLine 13 "     Saving current data succeeded!     "

def sdcardSaveCurrData (env : SaveEnv) (w : World) : World :=
  let w := (w.led .blue).lcd [.setFont .font8x16, .setTextColor .yellow, savingMessage]
  let w :=
    if w.isFirstSave then
      sdcardAppendNewData titleLine env.title { w with isFirstSave := false }
    else w
  let w := sdcardAppendNewData (dataLine w.measured env.tick) env.row w
  (w.led .green).lcd [.setTextColor .green, savedMessage]

def ejectingMessage : LcdOp := .dispStringLine 11 "          Ejecting SD card..."

def ejectedMessage : LcdOp := .dispStringLine 11 "       Ejecting SD card succeeded!"

def uint32Max : UInt32 := 0xFFFFFFFF

def sdCardEject (dfsUnmount : Int) (w : World) : World :=
  let w := w.lcd [.setFont .font8x16, .setTextColor .yellow, ejectingMessage]
  let w := w.setTimer .data fun timer => { timer with delay := uint32Max }
  let w := w.record (.unmount (sdcardUnmount dfsUnmount))
  w.lcd [.setTextColor .green, ejectedMessage]

/-- What a save appends to data.csv. -/
def SaveEnv.bytes (env : SaveEnv) (w : World) : List Char :=
  (if w.isFirstSave then titleLine.take (env.title.accepted titleLine.length) else []) ++
    (dataLine w.measured env.tick).take
      (env.row.accepted (dataLine w.measured env.tick).length)

def SaveEnv.appends (env : SaveEnv) (w : World) : List Event :=
  .append (dataLine w.measured env.tick) env.row.fd
      (env.row.accepted (dataLine w.measured env.tick).length) ::
    if w.isFirstSave then
      [.append titleLine env.title.fd (env.title.accepted titleLine.length)]
    else []

/-- The events of one save, newest first. -/
def SaveEnv.events (env : SaveEnv) (w : World) : List Event :=
  [.lcd savedMessage, .lcd (.setTextColor .green), .led .green] ++ env.appends w ++
    [.lcd savingMessage, .lcd (.setTextColor .yellow), .lcd (.setFont .font8x16), .led .blue]

theorem sdcardSaveCurrData_eq (env : SaveEnv) (w : World) :
    sdcardSaveCurrData env w =
      { w with
        isFirstSave := false
        dataCsv := w.dataCsv ++ env.bytes w
        history := env.events w ++ w.history } := by
  unfold sdcardSaveCurrData SaveEnv.bytes SaveEnv.events SaveEnv.appends
  cases hfirst : w.isFirstSave <;>
    simp [sdcardAppendNewData, World.lcd, World.led, World.record, hfirst]

def ejectEvents (dfsUnmount : Int) : List Event :=
  [.lcd ejectedMessage, .lcd (.setTextColor .green), .unmount (sdcardUnmount dfsUnmount),
    .lcd ejectingMessage, .lcd (.setTextColor .yellow), .lcd (.setFont .font8x16)]

theorem sdCardEject_eq (dfsUnmount : Int) (w : World) :
    sdCardEject dfsUnmount w =
      { w with
        timers := Function.update w.timers .data { w.timers .data with delay := uint32Max }
        history := ejectEvents dfsUnmount ++ w.history } := rfl

end WeatherStation
