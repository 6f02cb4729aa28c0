import Mathlib.Data.List.Basic

/-! When the part of a sequence up to the first bad element is all of its good part. -/
namespace WeatherStation.Lib

variable {α : Type} {p : α → Bool} {l : List α}

/-- No good element comes after a bad one. -/
def NeverReturns (p : α → Bool) (l : List α) : Prop :=
  l.Pairwise fun earlier later => p later → p earlier

instance : Decidable (NeverReturns p l) := inferInstanceAs (Decidable (l.Pairwise _))

theorem neverReturns_of_none (h : ∀ a ∈ l, p a = false) : NeverReturns p l :=
  List.pairwise_of_forall_mem_list fun _ _ b hb hgood =>
    absurd (h b hb) (ne_false_of_eq_true hgood)

theorem takeWhile_eq_filter_iff : l.takeWhile p = l.filter p ↔ NeverReturns p l := by
  induction l with
  | nil => simp [NeverReturns]
  | cons a l ih =>
    unfold NeverReturns at ih ⊢
    rw [List.pairwise_cons, List.takeWhile_cons, List.filter_cons]
    cases ha : p a with
    | true => simp [ih]
    | false =>
      have hnone : l.filter p = [] ↔ ∀ b ∈ l, p b = false := by simp
      simp only [Bool.false_eq_true, ↓reduceIte, imp_false, eq_comm (a := []), hnone]
      constructor
      · intro h
        exact ⟨fun b hb => ne_true_of_eq_false (h b hb), neverReturns_of_none h⟩
      · intro h b hb
        exact eq_false_of_ne_true (h.1 b hb)

end WeatherStation.Lib
