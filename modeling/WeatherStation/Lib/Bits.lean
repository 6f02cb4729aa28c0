import Mathlib.Data.Nat.Bitwise
import Mathlib.Data.List.Induction
import Mathlib.Tactic.Ring

/-! Words as lists of bits with the most significant bit first, the way a shift
register takes them in and gives them out. -/
namespace WeatherStation.Lib

def toBits : ℕ → ℕ → List Bool
  | 0, _ => []
  | width + 1, value => value.testBit width :: toBits width value

def ofBits (bits : List Bool) : ℕ := bits.foldl (fun value bit => 2 * value + bit.toNat) 0

variable {bits : List Bool} {bit : Bool} {width value other : ℕ}

@[simp] theorem length_toBits : (toBits width value).length = width := by
  induction width with
  | zero => rfl
  | succ width ih => simp [toBits, ih]

@[simp] theorem ofBits_nil : ofBits [] = 0 := rfl

@[simp] theorem ofBits_concat : ofBits (bits ++ [bit]) = 2 * ofBits bits + bit.toNat := by
  simp [ofBits]

theorem ofBits_cons : ofBits (bit :: bits) = bit.toNat * 2 ^ bits.length + ofBits bits := by
  induction bits using List.reverseRecOn with
  | nil => simp [ofBits]
  | append_singleton bits last ih =>
    rw [← List.cons_append, ofBits_concat, ofBits_concat, ih, List.length_append,
      List.length_singleton, Nat.pow_succ]
    ring

theorem ofBits_toBits : ofBits (toBits width value) = value % 2 ^ width := by
  induction width with
  | zero => simp [toBits, Nat.mod_one]
  | succ width ih =>
    rw [toBits, ofBits_cons, ih, length_toBits, Nat.testBit_eq_decide_div_mod_eq,
      Nat.pow_succ, Nat.mod_mul]
    rcases Nat.mod_two_eq_zero_or_one (value / 2 ^ width) with h | h <;> simp [h, Nat.add_comm]

theorem toBits_ext (h : ∀ i < width, value.testBit i = other.testBit i) :
    toBits width value = toBits width other := by
  induction width with
  | zero => rfl
  | succ width ih =>
    rw [toBits, toBits, h width (Nat.lt_succ_self width),
      ih fun i hi => h i (Nat.lt_succ_of_lt hi)]

theorem toBits_and :
    toBits width (value &&& other) = List.zipWith and (toBits width value) (toBits width other) := by
  induction width with
  | zero => rfl
  | succ width ih => simp [toBits, ih]

/-! ### Bytes -/

def byteBits (byte : UInt8) : List Bool := toBits 8 byte.toNat

def byteOf (bits : List Bool) : UInt8 := .ofNat (ofBits bits)

@[simp] theorem length_byteBits (byte : UInt8) : (byteBits byte).length = 8 := length_toBits

@[simp] theorem byteOf_byteBits (byte : UInt8) : byteOf (byteBits byte) = byte := by
  rw [byteOf, byteBits, ofBits_toBits, Nat.mod_eq_of_lt byte.toNat_lt, UInt8.ofNat_toNat]

theorem byteBits_and (byte other : UInt8) :
    byteBits (byte &&& other) = List.zipWith and (byteBits byte) (byteBits other) := by
  rw [byteBits, UInt8.toNat_and, toBits_and, byteBits, byteBits]

@[simp] theorem ff_and (byte : UInt8) : 0xFF &&& byte = byte := by
  apply UInt8.toNat_inj.mp
  have h := Nat.and_two_pow_sub_one_eq_mod byte.toNat 8
  rw [UInt8.toNat_and, Nat.and_comm]
  exact h.trans (Nat.mod_eq_of_lt byte.toNat_lt)

/-- The bits that leave a shift register. -/
def shiftOut : ℕ → UInt8 → List Bool
  | 0, _ => []
  | n + 1, byte => decide (byte &&& 0x80 ≠ 0) :: shiftOut n (byte <<< 1)

theorem top_bit (byte : UInt8) : decide (byte &&& 0x80 ≠ 0) = byte.toNat.testBit 7 := by
  have hand : (byte &&& 0x80).toNat = (byte.toNat.testBit 7).toNat * 2 ^ 7 := by
    rw [UInt8.toNat_and]
    exact Nat.and_two_pow byte.toNat 7
  cases hbit : byte.toNat.testBit 7 with
  | false =>
    rw [hbit] at hand
    exact decide_eq_false fun hne => hne (UInt8.toNat_inj.mp hand)
  | true =>
    rw [hbit] at hand
    exact decide_eq_true fun heq => absurd (hand.symm.trans (congrArg UInt8.toNat heq)) (by decide)

theorem testBit_shiftLeft_one {byte : UInt8} {i : ℕ} (hi : i < 7) :
    (byte <<< 1).toNat.testBit (i + 1) = byte.toNat.testBit i := by
  rw [UInt8.toNat_shiftLeft, UInt8.toNat_one, Nat.testBit_mod_two_pow, Nat.testBit_shiftLeft]
  simp
  omega

theorem shiftOut_eq {n : ℕ} (hn : n ≤ 8) (byte : UInt8) :
    shiftOut n byte = toBits n (byte.toNat >>> (8 - n)) := by
  induction n generalizing byte with
  | zero => rfl
  | succ n ih =>
    rw [shiftOut, ih (by omega), toBits, top_bit, Nat.testBit_shiftRight,
      show 8 - (n + 1) + n = 7 by omega]
    congr 1
    apply toBits_ext
    intro i hi
    rw [Nat.testBit_shiftRight, Nat.testBit_shiftRight,
      show 8 - n + i = 8 - (n + 1) + i + 1 by omega, testBit_shiftLeft_one (by omega)]

theorem shiftOut_eight (byte : UInt8) : shiftOut 8 byte = byteBits byte := by
  rw [shiftOut_eq (Nat.le_refl 8)]
  rfl

/-- A shift register with the next bit. -/
def shiftIn (byte : UInt8) (bit : Bool) : UInt8 := if bit then byte <<< 1 ||| 1 else byte <<< 1

theorem shiftIn_byteOf : shiftIn (byteOf bits) bit = byteOf (bits ++ [bit]) := by
  have hshift : (byteOf bits <<< 1).toNat = (ofBits bits % 128) <<< 1 := by
    rw [UInt8.toNat_shiftLeft, byteOf, UInt8.toNat_ofNat', UInt8.toNat_one, Nat.shiftLeft_eq,
      Nat.shiftLeft_eq, show 2 ^ (1 % 8) = 2 from rfl]
    omega
  apply UInt8.toNat_inj.mp
  have hright : (byteOf (bits ++ [bit])).toNat = (2 * ofBits bits + bit.toNat) % 256 := by
    rw [byteOf, UInt8.toNat_ofNat', ofBits_concat]
  rw [hright]
  cases bit with
  | false =>
    rw [shiftIn, if_neg Bool.false_ne_true, hshift, Nat.shiftLeft_eq, Bool.toNat_false]
    omega
  | true =>
    rw [shiftIn, if_pos rfl, UInt8.toNat_or, hshift, UInt8.toNat_one,
      ← Nat.shiftLeft_add_eq_or_of_lt (by decide), Nat.shiftLeft_eq, Bool.toNat_true]
    omega

theorem foldl_shiftIn : bits.foldl shiftIn 0 = byteOf bits := by
  induction bits using List.reverseRecOn with
  | nil => rfl
  | append_singleton bits bit ih => rw [List.foldl_append, ih, ← shiftIn_byteOf]; rfl

end WeatherStation.Lib
