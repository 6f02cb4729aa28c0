import Mathlib.Data.Nat.Bitwise

/-! Fields of consecutive bits in a word: a field that was written reads back, and
the fields beside it keep their bits. -/
namespace WeatherStation.Lib

variable {w : ℕ}

def fieldMask (w low len : ℕ) : BitVec w := BitVec.ofNat w ((2 ^ len - 1) <<< low)

def getField (low len : ℕ) (word : BitVec w) : BitVec w := (word &&& fieldMask w low len) >>> low

def setField (low len : ℕ) (word value : BitVec w) : BitVec w :=
  (word &&& ~~~fieldMask w low len) ||| (value <<< low &&& fieldMask w low len)

section
variable {low len low' len' i : ℕ} {word value : BitVec w}

theorem getLsbD_fieldMask :
    (fieldMask w low len).getLsbD i = (decide (i < w) && decide (low ≤ i ∧ i < low + len)) := by
  have hrange : (decide (low ≤ i) && decide (i - low < len)) =
      decide (low ≤ i ∧ i < low + len) := by
    rw [← Bool.decide_and, decide_eq_decide]
    omega
  rw [fieldMask, BitVec.getLsbD_ofNat, Nat.testBit_shiftLeft, Nat.testBit_two_pow_sub_one, hrange]

theorem getLsbD_getField :
    (getField low len word).getLsbD i = (decide (i < len) && word.getLsbD (low + i)) := by
  rw [getField, BitVec.getLsbD_ushiftRight, BitVec.getLsbD_and, getLsbD_fieldMask]
  by_cases hword : low + i < w
  · simp [hword, Bool.and_comm]
  · have hbit : word.getLsbD (low + i) = false := BitVec.getLsbD_of_ge word _ (Nat.le_of_not_lt hword)
    simp [hbit]

/-- A word changes in the field, where it takes the bits of the value. -/
theorem getLsbD_setField (hi : i < w) :
    (setField low len word value).getLsbD i =
      if low ≤ i ∧ i < low + len then value.getLsbD (i - low) else word.getLsbD i := by
  rw [setField, BitVec.getLsbD_or, BitVec.getLsbD_and, BitVec.getLsbD_and, BitVec.getLsbD_not,
    BitVec.getLsbD_shiftLeft, getLsbD_fieldMask]
  by_cases hfield : low ≤ i ∧ i < low + len
  · have hlow : ¬i < low := Nat.not_lt.mpr hfield.1
    simp [hfield, hi, hlow]
  · simp [hfield, hi]

theorem getField_setField (hroom : low + len ≤ w) (hfits : value.toNat < 2 ^ len) :
    getField low len (setField low len word value) = value := by
  apply BitVec.eq_of_getLsbD_eq
  intro i hi
  rw [getLsbD_getField]
  by_cases hfield : i < len
  · rw [getLsbD_setField (by omega), if_pos (by omega), Nat.add_sub_cancel_left,
      decide_eq_true hfield, Bool.true_and]
  · have hbit : value.getLsbD i = false := by
      apply Nat.testBit_lt_two_pow
      exact hfits.trans_le (Nat.pow_le_pow_right (by decide) (Nat.le_of_not_lt hfield))
    rw [decide_eq_false hfield, Bool.false_and, hbit]

theorem getField_setField_disjoint (hroom : low' + len' ≤ w)
    (hdisjoint : low + len ≤ low' ∨ low' + len' ≤ low) :
    getField low' len' (setField low len word value) = getField low' len' word := by
  apply BitVec.eq_of_getLsbD_eq
  intro i hi
  rw [getLsbD_getField, getLsbD_getField]
  by_cases hfield : i < len'
  · rw [getLsbD_setField (by omega), if_neg (by omega)]
  · rw [decide_eq_false hfield, Bool.false_and, Bool.false_and]

end
end WeatherStation.Lib
