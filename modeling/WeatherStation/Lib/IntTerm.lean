import Mathlib.Algebra.Order.Ring.Abs
import Mathlib.Algebra.Order.Ring.Int

/-! Integer expressions that are evaluated in 32 bits: every intermediate result must
be in range. -/
namespace WeatherStation.Lib

def InInt32 (value : ℤ) : Prop := -2 ^ 31 ≤ value ∧ value < 2 ^ 31

instance (value : ℤ) : Decidable (InInt32 value) := inferInstanceAs (Decidable (_ ∧ _))

inductive IntTerm where
  | const (value : ℤ)
  | add (left right : IntTerm)
  | sub (left right : IntTerm)
  | mul (left right : IntTerm)

namespace IntTerm

instance : Add IntTerm := ⟨add⟩
instance : Sub IntTerm := ⟨sub⟩
instance : Mul IntTerm := ⟨mul⟩
instance : Coe ℤ IntTerm := ⟨const⟩

/-- The exact value. -/
def value : IntTerm → ℤ
  | const value => value
  | add left right => left.value + right.value
  | sub left right => left.value - right.value
  | mul left right => left.value * right.value

def checked (value : ℤ) : Option ℤ := if InInt32 value then some value else none

/-- The value computed in 32 bits, if no intermediate result overflows. -/
def eval : IntTerm → Option ℤ
  | const value => checked value
  | add left right => do checked ((← left.eval) + (← right.eval))
  | sub left right => do checked ((← left.eval) - (← right.eval))
  | mul left right => do checked ((← left.eval) * (← right.eval))

/-- All intermediate results are in range. -/
def Fits : IntTerm → Prop
  | const value => InInt32 value
  | add left right => left.Fits ∧ right.Fits ∧ InInt32 (left.value + right.value)
  | sub left right => left.Fits ∧ right.Fits ∧ InInt32 (left.value - right.value)
  | mul left right => left.Fits ∧ right.Fits ∧ InInt32 (left.value * right.value)

section
variable {s t : IntTerm}

@[simp] theorem value_const (value : ℤ) : (const value).value = value := rfl
@[simp] theorem value_add : (s + t).value = s.value + t.value := rfl
@[simp] theorem value_sub : (s - t).value = s.value - t.value := rfl
@[simp] theorem value_mul : (s * t).value = s.value * t.value := rfl

theorem fits_add : (s + t).Fits ↔ s.Fits ∧ t.Fits ∧ InInt32 (s.value + t.value) := Iff.rfl
theorem fits_mul : (s * t).Fits ↔ s.Fits ∧ t.Fits ∧ InInt32 (s.value * t.value) := Iff.rfl

theorem checked_eq_some {value result : ℤ} :
    checked value = some result ↔ InInt32 value ∧ value = result := by
  simp [checked]

/-- The evaluation succeeds exactly if everything fits, and is exact then. -/
theorem eval_eq_some {term : IntTerm} {result : ℤ} :
    term.eval = some result ↔ term.Fits ∧ term.value = result := by
  induction term generalizing result with
  | const value => exact checked_eq_some
  | add left right ihLeft ihRight =>
    simp only [eval, Fits, value, Option.bind_eq_bind, Option.bind_eq_some_iff, ihLeft, ihRight,
      checked_eq_some]
    grind
  | sub left right ihLeft ihRight =>
    simp only [eval, Fits, value, Option.bind_eq_bind, Option.bind_eq_some_iff, ihLeft, ihRight,
      checked_eq_some]
    grind
  | mul left right ihLeft ihRight =>
    simp only [eval, Fits, value, Option.bind_eq_bind, Option.bind_eq_some_iff, ihLeft, ihRight,
      checked_eq_some]
    grind

/-! ### Magnitudes -/

/-- The term fits, and its value is at most so large. -/
structure Within (term : IntTerm) (bound : ℤ) : Prop where
  fits : term.Fits
  abs_le : |term.value| ≤ bound

theorem inInt32_of_abs_le {value bound : ℤ} (h : |value| ≤ bound) (hbound : bound < 2 ^ 31) :
    InInt32 value := by
  have hvalue := abs_le.mp h
  exact ⟨by omega, by omega⟩

variable {m n : ℤ}

theorem within_const {value bound : ℤ} (h : |value| ≤ bound) (hbound : bound < 2 ^ 31) :
    (const value).Within bound :=
  ⟨inInt32_of_abs_le h hbound, h⟩

theorem Within.add (hs : s.Within m) (ht : t.Within n) (hbound : m + n < 2 ^ 31) :
    (s + t).Within (m + n) := by
  have habs : |s.value + t.value| ≤ m + n :=
    (abs_add_le _ _).trans (add_le_add hs.abs_le ht.abs_le)
  exact ⟨⟨hs.fits, ht.fits, inInt32_of_abs_le habs hbound⟩, habs⟩

theorem Within.sub (hs : s.Within m) (ht : t.Within n) (hbound : m + n < 2 ^ 31) :
    (s - t).Within (m + n) := by
  have habs : |s.value - t.value| ≤ m + n :=
    (abs_sub _ _).trans (add_le_add hs.abs_le ht.abs_le)
  exact ⟨⟨hs.fits, ht.fits, inInt32_of_abs_le habs hbound⟩, habs⟩

theorem Within.mul (hs : s.Within m) (ht : t.Within n) (hbound : m * n < 2 ^ 31) :
    (s * t).Within (m * n) := by
  have habs : |s.value * t.value| ≤ m * n := by
    rw [abs_mul]
    exact mul_le_mul hs.abs_le ht.abs_le (abs_nonneg _) ((abs_nonneg _).trans hs.abs_le)
  exact ⟨⟨hs.fits, ht.fits, inInt32_of_abs_le habs hbound⟩, habs⟩

end
end IntTerm
end WeatherStation.Lib
