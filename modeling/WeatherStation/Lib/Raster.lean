import Mathlib.Algebra.Order.Ring.Nat
import Mathlib.Data.List.Basic
import Mathlib.Data.List.GetD
import Mathlib.Data.List.Induction

/-! A memory of pixels that is written through a window: each value goes to the next
place of the window, along its row and then on to the next row. -/
namespace WeatherStation.Lib

/-- The first and the last columns and rows. -/
structure Window where
  left : ℕ
  right : ℕ
  top : ℕ
  bottom : ℕ
  deriving DecidableEq, Repr

structure Raster (α : Type) where
  window : Window
  column : ℕ
  row : ℕ
  pixel : ℕ → ℕ → α

namespace Raster

section
variable {α : Type} (raster : Raster α)

/-- Back to the first place of the window. -/
def home : Raster α :=
  { raster with column := raster.window.left, row := raster.window.top }

def put (value : α) : Raster α where
  window := raster.window
  column := if raster.column = raster.window.right then raster.window.left else raster.column + 1
  row :=
    if raster.column = raster.window.right then
      if raster.row = raster.window.bottom then raster.window.top else raster.row + 1
    else raster.row
  pixel column row :=
    if column = raster.column ∧ row = raster.row then value else raster.pixel column row

def puts (values : List α) : Raster α := values.foldl put raster

end

section
variable {α : Type} {raster : Raster α} {values : List α} {value : α}
  {n width height left top column row : ℕ}

@[simp] theorem puts_nil : raster.puts [] = raster := rfl

theorem puts_concat : raster.puts (values ++ [value]) = (raster.puts values).put value := by
  simp [puts]

@[simp] theorem puts_window : (raster.puts values).window = raster.window := by
  induction values using List.reverseRecOn with
  | nil => rfl
  | append_singleton values value ih => rw [puts_concat, put, ih]

theorem succ_divMod (hwidth : 0 < width) :
    if n % width + 1 = width then (n + 1) % width = 0 ∧ (n + 1) / width = n / width + 1
    else (n + 1) % width = n % width + 1 ∧ (n + 1) / width = n / width := by
  have hsplit := Nat.div_add_mod n width
  have hlt := Nat.mod_lt n hwidth
  split
  case isTrue hend =>
    have hnext : n + 1 = width * (n / width + 1) := by
      rw [Nat.mul_add]
      omega
    rw [hnext]
    exact ⟨Nat.mul_mod_right _ _, Nat.mul_div_cancel_left _ hwidth⟩
  case isFalse hmore =>
    have hnext : n + 1 = width * (n / width) + (n % width + 1) := by omega
    have hsmall : n % width + 1 < width := by omega
    constructor
    · conv_lhs => rw [hnext, Nat.mul_add_mod, Nat.mod_eq_of_lt hsmall]
    · conv_lhs => rw [hnext, Nat.mul_add_div hwidth, Nat.div_eq_of_lt hsmall, Nat.add_zero]

/-- Where the next value goes. -/
theorem puts_place (hwidth : 0 < width) (hright : raster.window.right + 1 = raster.window.left + width)
    (hbottom : raster.window.bottom + 1 = raster.window.top + height)
    (hlength : values.length < width * height) :
    (raster.home.puts values).column = raster.window.left + values.length % width ∧
      (raster.home.puts values).row = raster.window.top + values.length / width := by
  induction values using List.reverseRecOn with
  | nil => simp [home]
  | append_singleton values value ih =>
    rw [List.length_append, List.length_singleton] at hlength ⊢
    obtain ⟨hcolumn, hrow⟩ := ih (by omega)
    have hnext := @succ_divMod values.length width hwidth
    have hrows : (values.length + 1) / width < height := Nat.div_lt_of_lt_mul hlength
    have hwindow : (raster.home.puts values).window = raster.window := puts_window
    rw [puts_concat]
    simp only [put, hwindow, hcolumn, hrow]
    split at hnext
    · rw [if_pos (by omega), if_pos (by omega), if_neg (by omega), hnext.1, hnext.2]
      exact ⟨rfl, rfl⟩
    · rw [if_neg (by omega), if_neg (by omega), hnext.1, hnext.2]
      exact ⟨rfl, rfl⟩

/-- The place of the n-th value. -/
theorem place_iff (hwidth : 0 < width) :
    column = left + n % width ∧ row = top + n / width ↔
      (left ≤ column ∧ column < left + width ∧ top ≤ row) ∧
        (row - top) * width + (column - left) = n := by
  have hlt := Nat.mod_lt n hwidth
  constructor
  · rintro ⟨rfl, rfl⟩
    refine ⟨⟨Nat.le_add_right _ _, Nat.add_lt_add_left hlt _, Nat.le_add_right _ _⟩, ?_⟩
    rw [Nat.add_sub_cancel_left, Nat.add_sub_cancel_left, Nat.mul_comm, Nat.div_add_mod]
  · rintro ⟨⟨hleft, hright, htop⟩, rfl⟩
    have hsmall : column - left < width := by omega
    rw [Nat.mul_comm, Nat.mul_add_mod, Nat.mul_add_div hwidth, Nat.mod_eq_of_lt hsmall,
      Nat.div_eq_of_lt hsmall]
    omega

/-- What the values make of the picture: inside the window they stand row by row, and
what they do not reach stays. -/
theorem puts_pixel (hwidth : 0 < width)
    (hright : raster.window.right + 1 = raster.window.left + width)
    (hbottom : raster.window.bottom + 1 = raster.window.top + height)
    (hlength : values.length ≤ width * height) :
    (raster.home.puts values).pixel column row =
      if raster.window.left ≤ column ∧ column < raster.window.left + width ∧
        raster.window.top ≤ row then
        values.getD ((row - raster.window.top) * width + (column - raster.window.left))
          (raster.pixel column row)
      else raster.pixel column row := by
  induction values using List.reverseRecOn with
  | nil => simp [home]
  | append_singleton values value ih =>
    rw [List.length_append, List.length_singleton] at hlength
    obtain ⟨hcolumn, hrow⟩ := @puts_place _ raster values _ _ hwidth hright hbottom (by omega)
    rw [puts_concat]
    simp only [put, hcolumn, hrow, place_iff hwidth, ih (by omega)]
    by_cases hinside : raster.window.left ≤ column ∧ column < raster.window.left + width ∧
      raster.window.top ≤ row
    · simp only [hinside, true_and, if_true, and_self]
      split
      case isTrue hplace => rw [hplace, List.getD_append_right _ _ _ _ (Nat.le_refl _)]; simp
      case isFalse hplace =>
        rcases Nat.lt_or_gt_of_ne hplace with hbefore | hafter
        · rw [List.getD_append _ _ _ _ hbefore]
        · rw [List.getD_eq_default _ _ (by omega), List.getD_eq_default _ _ (by simp; omega)]
    · simp only [hinside, false_and, if_false]

end
end Raster
end WeatherStation.Lib
