import Mathlib.Algebra.Order.Floor.Semifield
import WeatherStation.LightModes

/-! The UV index that `my_ltr390_get_data` stores.  Its field has eight bits, which
hold the index of the raw readings below 3734. -/
namespace WeatherStation.Ltr390
open Gpio I2c

/-- A call of `my_ltr390_get_data` that reads these UV bytes. -/
structure UvCall where
  β : Type
  bus : Bus β
  dev : Device
  data : Data
  before : β
  als : Option (List UInt8)
  between : β
  uvs : List UInt8
  after : β
  reads_als : measureAls bus dev before = (.ok als, between)
  reads_uvs : measureUvs bus dev between = (.ok (some uvs), after)

namespace UvCall

/-- The raw reading, least significant byte first. -/
def raw (call : UvCall) : ℕ :=
  (call.uvs.getD 0 0).toNat + 2 ^ 8 * (call.uvs.getD 1 0).toNat +
    2 ^ 16 * (call.uvs.getD 2 0).toNat

/-- The index stored by the call. -/
def uvi (call : UvCall) : UInt8 :=
  (myLtr390GetData call.bus (some call.dev) call.data call.before).1.2.uvi

/-- The index is the reading over the sensitivity, and no smaller reading has a larger one. -/
structure Exact (call : UvCall) : Prop where
  index : call.uvi.toNat = ⌊12 * (call.raw : ℚ) / 175⌋₊
  monotone : ∀ other : UvCall, other.raw ≤ call.raw → other.uvi ≤ call.uvi

end UvCall

theorem uint24OfBytes_toNat (buffer : List UInt8) :
    (uint24OfBytes buffer).toNat =
      (buffer.getD 0 0).toNat + 2 ^ 8 * (buffer.getD 1 0).toNat +
        2 ^ 16 * (buffer.getD 2 0).toNat := by
  have hlow := (buffer.getD 0 0).toNat_lt
  have hmid := (buffer.getD 1 0).toNat_lt
  have hhigh := (buffer.getD 2 0).toNat_lt
  unfold uint24OfBytes
  generalize buffer.getD 0 0 = low at *
  generalize buffer.getD 1 0 = mid at *
  generalize buffer.getD 2 0 = high at *
  have hlower : mid.toNat <<< 8 ||| low.toNat = mid.toNat <<< 8 + low.toNat :=
    (Nat.shiftLeft_add_eq_or_of_lt hlow _).symm
  have hupper : high.toNat <<< 16 ||| (mid.toNat <<< 8 + low.toNat) =
      high.toNat <<< 16 + (mid.toNat <<< 8 + low.toNat) :=
    (Nat.shiftLeft_add_eq_or_of_lt (by rw [Nat.shiftLeft_eq]; omega) _).symm
  simp only [UInt32.toNat_or, UInt32.toNat_shiftLeft, UInt8.toNat_toUInt32]
  have hmidFits : mid.toNat <<< ((8 : UInt32).toNat % 32) % 2 ^ 32 = mid.toNat <<< 8 :=
    Nat.mod_eq_of_lt (by rw [Nat.shiftLeft_eq]; simp; omega)
  have hhighFits : high.toNat <<< ((16 : UInt32).toNat % 32) % 2 ^ 32 = high.toNat <<< 16 :=
    Nat.mod_eq_of_lt (by rw [Nat.shiftLeft_eq]; simp; omega)
  rw [hmidFits, hhighFits, Nat.or_assoc, hlower, hupper, Nat.shiftLeft_eq, Nat.shiftLeft_eq]
  omega

theorem uviOfUvs_toNat (uvsData : UInt32) :
    (uviOfUvs uvsData).toNat = 12 * uvsData.toNat / 175 % 2 ^ 8 := by
  have hquotient : (uvsData.toNat : ℚ) / sensitivity = ((12 * uvsData.toNat : ℕ) : ℚ) / (175 : ℕ) := by
    norm_num [sensitivity]
    ring
  rw [uviOfUvs, hquotient, Nat.floor_div_eq_div, UInt8.toNat_ofNat']

namespace UvCall
variable (call : UvCall)

theorem uvi_toNat : call.uvi.toNat = 12 * call.raw / 175 % 2 ^ 8 := by
  have hrun : myLtr390GetData call.bus (some call.dev) call.data call.before = _ :=
    getData_answered call.reads_als call.reads_uvs
  rw [uvi, hrun]
  exact (uviOfUvs_toNat _).trans (by rw [uint24OfBytes_toNat, raw])

theorem index_iff : call.uvi.toNat = ⌊12 * (call.raw : ℚ) / 175⌋₊ ↔ call.raw ≤ 3733 := by
  have hfloor : ⌊12 * (call.raw : ℚ) / 175⌋₊ = 12 * call.raw / 175 := by
    have hcast : 12 * (call.raw : ℚ) / 175 = ((12 * call.raw : ℕ) : ℚ) / (175 : ℕ) := by
      push_cast
      rfl
    rw [hcast, Nat.floor_div_eq_div]
  rw [hfloor, uvi_toNat]
  omega

/-- The stored index is right exactly for the readings whose index fits the field. -/
theorem exact_iff : call.Exact ↔ call.raw ≤ 3733 := by
  constructor
  · intro h
    exact call.index_iff.mp h.index
  · intro hraw
    refine ⟨call.index_iff.mpr hraw, fun other hother => ?_⟩
    have hfits : 12 * call.raw / 175 < 2 ^ 8 := by omega
    have hle : 12 * other.raw / 175 ≤ 12 * call.raw / 175 := Nat.div_le_div_right (by omega)
    rw [UInt8.le_iff_toNat_le, uvi_toNat, uvi_toNat, Nat.mod_eq_of_lt hfits,
      Nat.mod_eq_of_lt (hle.trans_lt hfits)]
    exact hle

/-- The reading 3734 has the index 256. -/
def overflowing : UvCall where
  β := List Reply
  bus := .replay
  dev := ⟨⟨.i2cBus⟩, ltr390Addr⟩
  data := ⟨0, 0⟩
  before := [⟨1, []⟩, ⟨2, [0x00]⟩, ⟨1, []⟩, ⟨2, [0x08]⟩, ⟨2, [0x96, 0x0E, 0x00]⟩]
  als := none
  between := [⟨1, []⟩, ⟨2, [0x08]⟩, ⟨2, [0x96, 0x0E, 0x00]⟩]
  uvs := [0x96, 0x0E, 0x00]
  after := []
  reads_als := rfl
  reads_uvs := rfl

theorem overflowing_not_exact : ¬∀ call : UvCall, call.Exact := by
  intro h
  exact absurd (overflowing.index_iff.mp (h overflowing).index) (by decide)

end UvCall
end WeatherStation.Ltr390
