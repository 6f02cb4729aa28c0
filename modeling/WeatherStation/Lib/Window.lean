import Mathlib.Algebra.Order.BigOperators.Group.List
import Mathlib.Algebra.Order.Ring.Nat

/-! The latest values of a history in a buffer of fixed size, and bounds on
their rounded mean. -/
namespace WeatherStation.Lib

variable {α : Type}

/-- The latest values of the history that begins with `first`; what came before it
counts as `first` too. -/
def window (size : ℕ) (first : α) (rest : List α) : List α :=
  (List.replicate size first ++ rest).drop rest.length

@[simp] theorem window_nil (size : ℕ) (first : α) :
    window size first [] = List.replicate size first := List.append_nil _

@[simp] theorem length_window (size : ℕ) (first : α) (rest : List α) :
    (window size first rest).length = size := by
  rw [window, List.length_drop, List.length_append, List.length_replicate]
  omega

/-- A new value pushes the oldest one out. -/
theorem window_concat {size : ℕ} (hsize : 0 < size) (first : α) (rest : List α) (value : α) :
    window size first (rest ++ [value]) = (window size first rest).drop 1 ++ [value] := by
  have hlength : rest.length + 1 ≤ (List.replicate size first ++ rest).length := by
    rw [List.length_append, List.length_replicate]
    omega
  rw [window, window, List.length_append, List.length_singleton, ← List.append_assoc,
    List.drop_append_of_le_length hlength, List.drop_drop, Nat.add_comm]

theorem mem_window {size : ℕ} {first value : α} {rest : List α}
    (h : value ∈ window size first rest) : value ∈ first :: rest := by
  rcases List.mem_append.mp (List.mem_of_mem_drop h) with hfirst | hrest
  · rw [List.eq_of_mem_replicate hfirst]
    exact List.mem_cons_self
  · exact List.mem_cons_of_mem first hrest

/-- The sum of a shifted buffer, without a pass over it. -/
theorem sum_shift {values : List ℕ} (hvalues : values ≠ []) (value : ℕ) :
    (values.drop 1 ++ [value]).sum + values.headD 0 = values.sum + value := by
  obtain ⟨head, tail, rfl⟩ := List.exists_cons_of_ne_nil hvalues
  rw [List.drop_one, List.tail_cons, List.sum_append, List.sum_singleton, List.headD_cons,
    List.sum_cons]
  omega

section
variable {values : List ℕ} (hvalues : values ≠ [])
include hvalues

/-- The mean is not below all the values. -/
theorem exists_le_mean : ∃ low ∈ values, low ≤ values.sum / values.length := by
  have hlength : 0 < values.length := List.length_pos_of_ne_nil hvalues
  by_contra hnone
  have hsum : values.length • (values.sum / values.length + 1) ≤ values.sum :=
    List.card_nsmul_le_sum values _ fun value hvalue =>
      Nat.lt_of_not_le fun hle => hnone ⟨value, hvalue, hle⟩
  have hrange := Nat.lt_mul_div_succ values.sum hlength
  rw [Nat.nsmul_eq_mul] at hsum
  exact absurd hsum (Nat.not_le_of_lt hrange)

/-- Nor is it above all of them. -/
theorem exists_mean_le : ∃ high ∈ values, values.sum / values.length ≤ high := by
  have hlength : 0 < values.length := List.length_pos_of_ne_nil hvalues
  by_contra hnone
  have hbelow : ∀ value ∈ values, value < values.sum / values.length :=
    fun value hvalue => Nat.lt_of_not_le fun hle => hnone ⟨value, hvalue, hle⟩
  have hpositive : 0 < values.sum / values.length := by
    obtain ⟨value, hvalue⟩ := List.exists_mem_of_ne_nil values hvalues
    exact Nat.zero_lt_of_lt (hbelow value hvalue)
  have hsum : values.sum ≤ values.length • (values.sum / values.length - 1) :=
    List.sum_le_card_nsmul values _ fun value hvalue => Nat.le_sub_one_of_lt (hbelow value hvalue)
  have hfloor := Nat.mul_div_le values.sum values.length
  have hstrict : values.length * (values.sum / values.length - 1) <
      values.length * (values.sum / values.length) :=
    Nat.mul_lt_mul_of_pos_left (Nat.sub_one_lt_of_lt hpositive) hlength
  rw [Nat.nsmul_eq_mul] at hsum
  omega

end
end WeatherStation.Lib
