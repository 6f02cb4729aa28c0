import Mathlib.Algebra.Order.Ring.Nat
import Mathlib.Data.Nat.Notation
import Mathlib.Logic.Function.Basic

/-! A memory of bytes with numbers in it, the low byte first. -/
namespace WeatherStation.Lib.ByteMemory

/-- The memory with other bytes from an address on. -/
def blit (mem : ℕ → UInt8) (addr n : ℕ) (bytes : ℕ → UInt8) : ℕ → UInt8 := fun i =>
  if addr ≤ i ∧ i < addr + n then bytes (i - addr) else mem i

def load (mem : ℕ → UInt8) : ℕ → ℕ → ℕ
  | _, 0 => 0
  | addr, n + 1 => (mem addr).toNat + 256 * load mem (addr + 1) n

def store (mem : ℕ → UInt8) (addr n value : ℕ) : ℕ → UInt8 :=
  blit mem addr n fun i => UInt8.ofNat (value / 256 ^ i)

/-- The bytes from an address on. -/
def slice (mem : ℕ → UInt8) (addr n : ℕ) : List UInt8 := (List.range n).map fun i => mem (addr + i)

variable {mem mem' : ℕ → UInt8} {addr other m n value i : ℕ} {bytes : ℕ → UInt8}

theorem blit_outside (h : i < addr ∨ addr + n ≤ i) : blit mem addr n bytes i = mem i :=
  if_neg (by omega)

theorem blit_inside (h : i < n) : blit mem addr n bytes (addr + i) = bytes i := by
  rw [blit, if_pos (by omega), Nat.add_sub_cancel_left]

theorem load_congr (h : ∀ i, addr ≤ i → i < addr + n → mem' i = mem i) :
    load mem' addr n = load mem addr n := by
  induction n generalizing addr with
  | zero => rfl
  | succ n ih =>
    rw [load, load, h addr (Nat.le_refl addr) (by omega)]
    rw [ih fun i hi hlt => h i (by omega) (by omega)]

theorem load_lt : load mem addr n < 256 ^ n := by
  induction n generalizing addr with
  | zero => simp [load]
  | succ n ih =>
    have hbyte := (mem addr).toNat_lt
    have hrest := @ih (addr + 1)
    rw [load, Nat.pow_succ]
    omega

/-- The digits of a number, one after the other. -/
theorem load_digits (h : ∀ i < n, (mem (addr + i)).toNat = value / 256 ^ i % 256) :
    load mem addr n = value % 256 ^ n := by
  induction n generalizing addr value with
  | zero => simp [load, Nat.mod_one]
  | succ n ih =>
    have hfirst := h 0 (by omega)
    have hrest : load mem (addr + 1) n = value / 256 % 256 ^ n := ih fun i hi => by
      rw [Nat.add_right_comm, Nat.add_assoc, h (i + 1) (by omega), Nat.pow_succ', Nat.div_div_eq_div_mul]
    rw [load, hrest, Nat.pow_succ', Nat.mod_mul]
    simpa using hfirst

theorem load_store (h : value < 256 ^ n) : load (store mem addr n value) addr n = value := by
  have hdigits : ∀ i < n, (store mem addr n value (addr + i)).toNat = value / 256 ^ i % 256 :=
    fun i hi => by
      rw [store, blit_inside hi]
      exact UInt8.toNat_ofNat'
  rw [load_digits hdigits, Nat.mod_eq_of_lt h]

theorem load_store_apart (h : other + m ≤ addr ∨ addr + n ≤ other) :
    load (store mem addr n value) other m = load mem other m :=
  load_congr fun i hi hlt => blit_outside (by omega)

@[simp] theorem length_slice : (slice mem addr n).length = n := by
  simp [slice]

theorem slice_congr (h : ∀ i, addr ≤ i → i < addr + n → mem' i = mem i) :
    slice mem' addr n = slice mem addr n :=
  List.map_congr_left fun i hi => by
    have := List.mem_range.mp hi
    exact h (addr + i) (by omega) (by omega)

theorem slice_update {byte : UInt8} :
    slice (Function.update mem (addr + i) byte) addr n = (slice mem addr n).set i byte := by
  refine List.ext_getElem (by simp) fun j hj hj' => ?_
  by_cases hij : i = j
  · subst hij
    simp [slice]
  · rw [List.getElem_set_ne hij]
    simp [slice, Function.update_of_ne (show addr + j ≠ addr + i by omega)]

/-- A copy of bytes. -/
theorem slice_blit (h : m ≤ n) : slice (blit mem addr n bytes) addr m = (List.range m).map bytes :=
  List.map_congr_left fun i hi => by
    have := List.mem_range.mp hi
    exact blit_inside (by omega)

end WeatherStation.Lib.ByteMemory
