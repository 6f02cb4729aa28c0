import Mathlib.Data.List.Basic

/-! How often the last value of a sequence was repeated without a break. -/
namespace WeatherStation.Lib

variable {α : Type} [DecidableEq α] {value : α}

/-- The number of copies of the value at the end of the sequence. -/
def streak (value : α) (values : List α) : ℕ := (values.reverse.takeWhile (· = value)).length

@[simp] theorem streak_nil : streak value [] = 0 := rfl

@[simp] theorem streak_concat (values : List α) (last : α) :
    streak value (values ++ [last]) = if last = value then streak value values + 1 else 0 := by
  unfold streak
  rw [List.reverse_append, List.reverse_singleton, List.singleton_append, List.takeWhile_cons]
  by_cases hlast : last = value <;> simp [hlast]

theorem replicate_prefix_iff {n : ℕ} {values : List α} :
    List.replicate n value <+: values ↔ n ≤ (values.takeWhile (· = value)).length := by
  induction values generalizing n with
  | nil => simp
  | cons first rest ih =>
    cases n with
    | zero => simp
    | succ n =>
      rw [List.replicate_succ, List.cons_prefix_cons, ih, List.takeWhile_cons]
      by_cases hfirst : first = value
      · simp [hfirst]
      · simp [hfirst, Ne.symm hfirst]

/-- So many copies of the value stand at the end. -/
theorem replicate_suffix_iff {n : ℕ} {values : List α} :
    List.replicate n value <:+ values ↔ n ≤ streak value values := by
  rw [← List.reverse_prefix, List.reverse_replicate, replicate_prefix_iff]
  rfl

end WeatherStation.Lib
