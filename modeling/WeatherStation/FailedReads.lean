import WeatherStation.Hmc5883l
import WeatherStation.Bme280
import WeatherStation.LightModes

/-! What a failed reading leaves in the caller's structure.  Only the light
sensor can fail after a field was stored. -/
namespace WeatherStation
open Gpio I2c

section
variable {β : Type} {bus : Bus β} {b : β}

theorem Hmc5883l.getData_cases (hmc5883l : Option Hmc5883l.Device) (data : Hmc5883l.Data) :
    (∃ b', myHmc5883lGetData bus hmc5883l data b = ((-rtError, data), b')) ∨
      ∃ data' b', myHmc5883lGetData bus hmc5883l data b = ((rtEok, data'), b') := by
  cases hmc5883l with
  | none => exact .inl ⟨b, rfl⟩
  | some dev =>
    unfold myHmc5883lGetData
    dsimp only
    rcases hwrite : writeReg bus dev 0x02 0x01 b with ⟨res, b₁⟩
    rw [bind_run hwrite]
    by_cases hwritten : res ≠ rtEok
    · rw [if_pos hwritten]
      exact .inl ⟨b₁, rfl⟩
    · rcases hread : readRegs bus dev 0x03 (List.replicate 6 0) b₁ with ⟨⟨res, buffer⟩, b₂⟩
      rw [if_neg hwritten, bind_run hread]
      dsimp only
      by_cases hreceived : res ≠ rtEok
      · rw [if_pos hreceived]
        exact .inl ⟨b₂, rfl⟩
      · rw [if_neg hreceived]
        exact .inr ⟨_, b₂, rfl⟩

/-- The compensated values are stored only after the bytes were read. -/
theorem Bme280.getSensorData_cases (sensorComp : UInt8) (compData : Bme280.Data) (dev : Dev) :
    (∃ rslt b', rslt ≠ ok ∧
      bme280GetSensorData bus sensorComp compData dev b = ((rslt, compData, dev), b')) ∨
      ∃ uncomp dev' b', bme280GetSensorData bus sensorComp compData dev b =
        ((ok, (compensateData sensorComp uncomp dev.calibData).1, dev'), b') := by
  have hnull : eNullPtr ≠ ok := by decide
  unfold bme280GetSensorData
  by_cases hcheck : nullPtrCheck dev ≠ ok
  · rw [if_pos hcheck]
    exact .inl ⟨eNullPtr, b, hnull, rfl⟩
  · rcases hread : bme280GetRegs bus dataAddr (List.replicate 8 0) dev b with ⟨⟨rslt, regData⟩, b₁⟩
    rw [if_neg hcheck, bind_run hread]
    dsimp only
    by_cases hreceived : rslt ≠ ok
    · rw [if_pos hreceived]
      exact .inl ⟨rslt, b₁, hreceived, rfl⟩
    · rw [if_neg hreceived]
      exact .inr ⟨parseSensorData regData, _, b₁, rfl⟩

theorem Bme280.getData_cases (bme280 : Option Bme280.Device) (data : Bme280.Data) :
    (∃ bme280' b', myBme280GetData bus bme280 data b = ((-rtError, data, bme280'), b')) ∨
      ∃ uncomp calib bme280' b', myBme280GetData bus bme280 data b =
        ((rtEok, (compensateData all uncomp calib).1, bme280'), b') := by
  cases bme280 with
  | none => exact .inl ⟨none, b, rfl⟩
  | some device =>
    unfold myBme280GetData
    dsimp only
    rcases hmode : bme280SetSensorMode bus forcedMode device.dev b with ⟨rslt, b₁⟩
    rw [bind_run hmode]
    by_cases hmoded : rslt ≠ ok
    · rw [if_pos hmoded]
      exact .inl ⟨some device, b₁, rfl⟩
    · rw [if_neg hmoded]
      have hmeasured := @getSensorData_cases _ bus b₁ all data device.dev
      rcases hmeasured with ⟨rslt, b₂, hfailed, hrun⟩ | ⟨uncomp, dev, b₂, hrun⟩
      · rw [bind_run hrun]
        dsimp only
        rw [if_pos hfailed]
        exact .inl ⟨_, b₂, rfl⟩
      · rw [bind_run hrun]
        exact .inr ⟨uncomp, _, _, b₂, rfl⟩

end

inductive Reading where
  | hmc5883l (device : Option Hmc5883l.Device) (data : Hmc5883l.Data)
  | bme280 (device : Option Bme280.Device) (data : Bme280.Data)
  | ltr390 (device : Option Ltr390.Device) (data : Ltr390.Data)

section
variable {β : Type} (bus : Bus β) (b : β)

/-- If the call returns an error, the structure is what it was. -/
def Reading.KeepsData : Reading → Prop
  | hmc5883l device data =>
    (Hmc5883l.myHmc5883lGetData bus device data b).1.1 ≠ rtEok →
      (Hmc5883l.myHmc5883lGetData bus device data b).1.2 = data
  | bme280 device data =>
    (Bme280.myBme280GetData bus device data b).1.1 ≠ rtEok →
      (Bme280.myBme280GetData bus device data b).1.2.1 = data
  | ltr390 device data =>
    (Ltr390.myLtr390GetData bus device data b).1.1 ≠ rtEok →
      (Ltr390.myLtr390GetData bus device data b).1.2 = data

/-- The first phase brings another light value, and the second one fails. -/
def Ltr390.HalfAnswered (data : Ltr390.Data) : Option Ltr390.Device → Prop
  | none => False
  | some dev => dev.bus.type = .i2cBus ∧
    ∃ buffer b₁, AlsPhase bus dev b (some buffer) b₁ ∧
      luxOfAls (uint24OfBytes buffer) ≠ data.lux ∧ ¬∃ uvs b₂, UvsPhase bus dev b₁ uvs b₂

def Reading.HalfDone : Reading → Prop
  | hmc5883l _ _ => False
  | bme280 _ _ => False
  | ltr390 device data => Ltr390.HalfAnswered bus b data device

variable {bus b}

theorem Ltr390.withAls_eq_iff {data : Ltr390.Data} {als : Option (List UInt8)} :
    data.withAls als = data ↔
      ∀ buffer, als = some buffer → luxOfAls (uint24OfBytes buffer) = data.lux := by
  cases als with
  | none => exact iff_of_true rfl nofun
  | some buffer =>
    constructor
    · intro h other hother
      cases hother
      exact congrArg Data.lux h
    · intro h
      rw [Data.withAls, h buffer rfl]

theorem Ltr390.getData_failed_iff {ltr390 : Option Ltr390.Device} {data : Ltr390.Data} :
    ((myLtr390GetData bus ltr390 data b).1.1 ≠ rtEok →
      (myLtr390GetData bus ltr390 data b).1.2 = data) ↔ ¬HalfAnswered bus b data ltr390 := by
  cases ltr390 with
  | none => exact iff_of_true (fun _ => rfl) id
  | some dev =>
    rcases getData_cases dev data b with
      ⟨b', hals, hrun⟩ | ⟨als, b₁, b', hals, huvs, hrun⟩ | ⟨als, b₁, uvs, b', hals, huvs, hrun⟩
    · rw [hrun]
      apply iff_of_true (fun _ => rfl)
      rintro ⟨hdev, buffer, b₁, hphase, -⟩
      rw [(measureAls_iff hdev).mpr hphase] at hals
      cases hals
    · rw [hrun]
      have hdev := supported_of_measure hals
      constructor
      · rintro hkept ⟨-, buffer, b₂, hphase, hlux, -⟩
        rw [(measureAls_iff hdev).mpr hphase] at hals
        cases hals
        exact hlux (withAls_eq_iff.mp (hkept rtError_ne) buffer rfl)
      · intro hnot _
        apply withAls_eq_iff.mpr
        rintro buffer rfl
        by_contra hlux
        apply hnot
        refine ⟨hdev, buffer, b₁, (measureAls_iff hdev).mp hals, hlux, ?_⟩
        rintro ⟨uvs, b₂, hphase⟩
        rw [(measureUvs_iff hdev).mpr hphase] at huvs
        cases huvs
    · rw [hrun]
      apply iff_of_true (fun herror => absurd rfl herror)
      rintro ⟨hdev, buffer, b₂, hphase, -, hnot⟩
      rw [(measureAls_iff hdev).mpr hphase] at hals
      cases hals
      exact hnot ⟨uvs, b', (measureUvs_iff hdev).mp huvs⟩

/-- A failed call keeps the caller's data, unless it is a call of the light sensor
that stored the light before its second phase failed. -/
theorem keepsData_iff (bus : Bus β) (b : β) (reading : Reading) :
    reading.KeepsData bus b ↔ ¬reading.HalfDone bus b := by
  cases reading with
  | hmc5883l device data =>
    apply iff_of_true _ id
    intro hfailed
    rcases @Hmc5883l.getData_cases _ bus b device data with ⟨b', hrun⟩ | ⟨data', b', hrun⟩
    · rw [hrun]
    · rw [hrun] at hfailed
      exact absurd rfl hfailed
  | bme280 device data =>
    apply iff_of_true _ id
    intro hfailed
    rcases @Bme280.getData_cases _ bus b device data with
      ⟨device', b', hrun⟩ | ⟨uncomp, calib, device', b', hrun⟩
    · rw [hrun]
    · rw [hrun] at hfailed
      exact absurd rfl hfailed
  | ltr390 device data => exact Ltr390.getData_failed_iff

end

/-- The light sensor answers with data once, and then no more. -/
def fadingReplies : List Reply := [⟨1, []⟩, ⟨2, [0x08]⟩, ⟨2, [5, 0, 0]⟩]

theorem fadingReplies_lux :
    ¬Reading.KeepsData Bus.replay fadingReplies
      (.ltr390 (some ⟨⟨.i2cBus⟩, Ltr390.ltr390Addr⟩) ⟨0, 0⟩) := by
  intro hkept
  have hals : Ltr390.measureAls Bus.replay ⟨⟨.i2cBus⟩, Ltr390.ltr390Addr⟩ fadingReplies =
      (.ok (some [5, 0, 0]), []) := rfl
  have huvs : Ltr390.measureUvs Bus.replay ⟨⟨.i2cBus⟩, Ltr390.ltr390Addr⟩ [] =
      (.error (), []) := rfl
  rw [Reading.KeepsData, Ltr390.getData_uvs_fails hals huvs] at hkept
  have hlux : Ltr390.luxOfAls (Ltr390.uint24OfBytes [5, 0, 0]) = 0 :=
    congrArg Ltr390.Data.lux (hkept Ltr390.rtError_ne)
  exact absurd hlux (by decide +kernel)

end WeatherStation
