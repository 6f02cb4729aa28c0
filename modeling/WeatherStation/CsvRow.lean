import WeatherStation.SdCard

/-! The row of data.csv as an encoding of the measurements.  The tick count is
unsigned, but it is converted by `%d`. -/
namespace WeatherStation
open Lib

/-- The ranges of the measurements. -/
structure Measured.InRange (measured : Measured) : Prop where
  heading : 0 ≤ measured.hmc5883lHeading ∧ measured.hmc5883lHeading ≤ 360
  temperature : -40 ≤ measured.bme280RawData.temperature ∧
    measured.bme280RawData.temperature ≤ 85
  humidity : 0 ≤ measured.bme280RawData.humidity ∧ measured.bme280RawData.humidity ≤ 100
  pressure : 30000 ≤ measured.bme280RawData.pressure ∧
    measured.bme280RawData.pressure ≤ 110000
  lux : 0 ≤ measured.ltr390RawData.lux ∧ measured.ltr390RawData.lux ≤ 8 / 10 * (2 ^ 24 - 1)
  dust : 0 ≤ measured.gp2y1014au0fRawData ∧ measured.gp2y1014au0fRawData ≤ 7200
  sound : 0 ≤ measured.lm386RawData ∧ measured.lm386RawData ≤ 33 / 10

def rowFields (measured : Measured) (tick : UInt32) : List (List Char) :=
  [Printf.decimal tick.toInt32.toInt,
    Printf.fixed 6 measured.hmc5883lHeading,
    Printf.fixed 6 measured.bme280RawData.temperature,
    Printf.fixed 6 measured.bme280RawData.humidity,
    Printf.fixed 6 (measured.bme280RawData.pressure / 100),
    Printf.decimal measured.ltr390RawData.uvi.toNat,
    Printf.fixed 6 measured.ltr390RawData.lux,
    Printf.fixed 6 measured.gp2y1014au0fRawData,
    Printf.fixed 6 measured.lm386RawData]

def timeValue (measured : Measured) (tick : UInt32) : Int :=
  Printf.number (((dataBlock measured tick).splitOn ',').headD [])

/-- What the row should be: as many fields as the title, within `dataBlock`, one line,
with the tick count in front. -/
structure RowFaithful (measured : Measured) (tick : UInt32) : Prop where
  nine : ((dataBlock measured tick).splitOn ',').length = 9
  title : (title.splitOn ',').length = 9
  fits : (dataLine measured tick).length + 1 ≤ 9 * 32
  newline : ∃ text, dataLine measured tick = text ++ ['\n'] ∧ '\n' ∉ text
  time : ((dataBlock measured tick).splitOn ',').head? = some (Nat.toDigits 10 tick.toNat)
  ordered : ∀ (measured' : Measured) (earlier : UInt32), earlier ≤ tick →
    timeValue measured' earlier ≤ timeValue measured tick

section
variable {measured : Measured} {tick : UInt32}

theorem rowFields_chars : ∀ field ∈ rowFields measured tick, ∀ c ∈ field, Printf.NumberChar c := by
  simp only [rowFields, List.forall_mem_cons, List.not_mem_nil, false_imp_iff, implies_true,
    and_true]
  exact ⟨fun _ => Printf.decimal_chars, fun _ => Printf.fixed_chars, fun _ => Printf.fixed_chars,
    fun _ => Printf.fixed_chars, fun _ => Printf.fixed_chars, fun _ => Printf.decimal_chars,
    fun _ => Printf.fixed_chars, fun _ => Printf.fixed_chars, fun _ => Printf.fixed_chars⟩

theorem dataBlock_splitOn : (dataBlock measured tick).splitOn ',' = rowFields measured tick := by
  apply List.splitOn_intercalate
  · intro field hfield hcomma
    exact absurd (rowFields_chars field hfield ',' hcomma) (by decide)
  · exact List.cons_ne_nil _ _

theorem dataBlock_eq : dataBlock measured tick = [','].intercalate (rowFields measured tick) := rfl

theorem newline_not_mem : '\n' ∉ dataBlock measured tick := by
  intro hnewline
  rw [dataBlock_eq] at hnewline
  obtain ⟨field, hfield, hmem⟩ := Printf.exists_mem_of_mem_intercalate hnewline (by decide)
  exact absurd (rowFields_chars field hfield '\n' hmem) (by decide)

theorem decimal_tick_length : (Printf.decimal tick.toInt32.toInt).length ≤ 11 := by
  have hlow := tick.toInt32.le_toInt
  have hhigh := tick.toInt32.toInt_lt
  have habs : tick.toInt32.toInt.natAbs < 10 ^ 10 := by omega
  have hlength := Printf.length_decimal_le 10 (by decide) habs
  split at hlength <;> omega

/-- The fields are bounded, and so is the row. -/
theorem dataLine_length (h : measured.InRange) : (dataLine measured tick).length ≤ 105 := by
  have htime : (Printf.decimal tick.toInt32.toInt).length ≤ 11 := decimal_tick_length
  have hheading : (Printf.fixed 6 measured.hmc5883lHeading).length ≤ 10 :=
    Printf.length_fixed_le_of_nonneg 360 3 (by decide) (by decide) h.heading.1 h.heading.2
      (by decide)
  have htemperature : (Printf.fixed 6 measured.bme280RawData.temperature).length ≤ 10 := by
    have habs : |measured.bme280RawData.temperature| ≤ (85 : Nat) :=
      abs_le.mpr ⟨le_trans (by norm_num) h.temperature.1, h.temperature.2⟩
    have hlength := @Printf.length_fixed_le 6 _ 85 2 (by decide) (by decide) habs (by decide)
    split at hlength <;> omega
  have hhumidity : (Printf.fixed 6 measured.bme280RawData.humidity).length ≤ 10 :=
    Printf.length_fixed_le_of_nonneg 100 3 (by decide) (by decide) h.humidity.1 h.humidity.2
      (by decide)
  have hpressure : (Printf.fixed 6 (measured.bme280RawData.pressure / 100)).length ≤ 11 :=
    Printf.length_fixed_le_of_nonneg 1100 4 (by decide) (by decide)
      (by linarith [h.pressure.1]) (by push_cast; linarith [h.pressure.2]) (by decide)
  have huvi : (Printf.decimal measured.ltr390RawData.uvi.toNat).length ≤ 3 := by
    have huvi := measured.ltr390RawData.uvi.toNat_lt
    have habs : (measured.ltr390RawData.uvi.toNat : Int).natAbs < 10 ^ 3 := by omega
    have hlength := Printf.length_decimal_le 3 (by decide) habs
    split at hlength <;> omega
  have hlux : (Printf.fixed 6 measured.ltr390RawData.lux).length ≤ 15 :=
    Printf.length_fixed_le_of_nonneg 13421772 8 (by decide) (by decide) h.lux.1
      (h.lux.2.trans (by norm_num)) (by decide)
  have hdust : (Printf.fixed 6 measured.gp2y1014au0fRawData).length ≤ 11 :=
    Printf.length_fixed_le_of_nonneg 7200 4 (by decide) (by decide) h.dust.1 h.dust.2 (by decide)
  have hsound : (Printf.fixed 6 measured.lm386RawData).length ≤ 8 :=
    Printf.length_fixed_le_of_nonneg 4 1 (by decide) (by decide) h.sound.1
      (h.sound.2.trans (by norm_num)) (by decide)
  rw [dataLine, dataBlock_eq, rowFields]
  simp only [List.intercalate_cons_cons, List.intercalate_singleton, List.length_append,
    List.length_singleton]
  omega

theorem toInt_toInt32 : tick.toInt32.toInt =
    if tick.toNat < 2 ^ 31 then (tick.toNat : Int) else tick.toNat - 2 ^ 32 := by
  have htoInt := BitVec.toInt_eq_toNat_cond tick.toBitVec
  rw [← UInt32.toBitVec_toInt32] at htoInt
  change tick.toInt32.toInt = _ at htoInt
  rw [htoInt, UInt32.toBitVec_toInt32, UInt32.toNat_toBitVec]
  split <;> split <;> omega

theorem decimal_tick (h : tick.toNat < 2 ^ 31) :
    Printf.decimal tick.toInt32.toInt = Nat.toDigits 10 tick.toNat := by
  rw [toInt_toInt32, if_pos h]
  rfl

theorem timeValue_eq : timeValue measured tick = tick.toInt32.toInt := by
  rw [timeValue, dataBlock_splitOn]
  exact Printf.number_decimal _

theorem dataBlock_head :
    ((dataBlock measured tick).splitOn ',').head? = some (Printf.decimal tick.toInt32.toInt) := by
  rw [dataBlock_splitOn]
  rfl

theorem decimal_tick_ne (h : ¬tick.toNat < 2 ^ 31) :
    Printf.decimal tick.toInt32.toInt ≠ Nat.toDigits 10 tick.toNat := by
  have htick := tick.toNat_lt
  have hneg : tick.toInt32.toInt < 0 := by
    rw [toInt_toInt32, if_neg h]
    omega
  intro heq
  have hnumber := congrArg Printf.number heq
  rw [Printf.number_decimal, Printf.number_toDigits] at hnumber
  omega

end

/-- The row is faithful as long as the tick count fits in an `int`. -/
theorem rowFaithful_iff (measured : Measured) (tick : UInt32) (h : measured.InRange) :
    RowFaithful measured tick ↔ tick.toNat < 2 ^ 31 := by
  constructor
  · intro hrow
    by_contra hlarge
    have htime := hrow.time
    rw [dataBlock_head] at htime
    exact decimal_tick_ne hlarge (Option.some.inj htime)
  · intro htick
    refine ⟨?_, by decide, ?_, ⟨_, rfl, newline_not_mem⟩, ?_, ?_⟩
    · rw [dataBlock_splitOn]
      rfl
    · have hlength : (dataLine measured tick).length ≤ 105 := dataLine_length h
      omega
    · rw [dataBlock_head, decimal_tick htick]
    · intro measured' earlier hearlier
      have hle : earlier.toNat ≤ tick.toNat := hearlier
      rw [timeValue_eq, timeValue_eq, toInt_toInt32, toInt_toInt32, if_pos htick,
        if_pos (Nat.lt_of_le_of_lt hle htick)]
      exact_mod_cast hle

/-- A mild day, one second after the start. -/
def mildDay : Measured where
  hmc5883lRawData := ⟨0, 500, 0⟩
  hmc5883lHeading := 90
  bme280RawData := { temperature := 20, humidity := 50, pressure := 100000 }
  ltr390RawData := { uvi := 2, lux := 100 }
  gp2y1014au0fRawData := 30
  lm386RawData := 1

theorem mildDay_inRange : mildDay.InRange := by
  constructor <;> constructor <;> norm_num [mildDay]

theorem rowFaithful_iff_mildDay :
    mildDay.InRange ∧ (RowFaithful mildDay 1000 ↔ (1000 : UInt32).toNat < 2 ^ 31) :=
  ⟨mildDay_inRange, rowFaithful_iff mildDay 1000 mildDay_inRange⟩

/-- After 24.8 days the time column turns negative. -/
theorem rowTime_negative :
    mildDay.InRange ∧ ((dataBlock mildDay 0x80000000).splitOn ',').head? =
      some "-2147483648".toList ∧ ¬RowFaithful mildDay 0x80000000 := by
  have hhead : ((dataBlock mildDay 0x80000000).splitOn ',').head? =
      some "-2147483648".toList := by
    rw [dataBlock_head]
    decide
  refine ⟨mildDay_inRange, hhead, fun hrow => ?_⟩
  have htime := hrow.time
  rw [dataBlock_head] at htime
  exact decimal_tick_ne (by decide) (Option.some.inj htime)

end WeatherStation
