import Mathlib.Algebra.Order.Ring.Nat
import Mathlib.Logic.Function.Iterate

/-! Loops that count rounds in a variable of a fixed size.  The counter wraps around,
so a limit beyond its range keeps the loop going for ever. -/
namespace WeatherStation.Lib

variable {σ β : Type} {goes : σ → Prop} {next : σ → σ} {ended : ℕ → σ → Prop} {count : σ → ℕ}
  {size limit : ℕ}

/-- `ended fuel s` says of a loop that so many evaluations of its condition suffice from `s`. -/
structure Fueled (goes : σ → Prop) (next : σ → σ) (ended : ℕ → σ → Prop) : Prop where
  zero : ∀ s, ¬ended 0 s
  succ : ∀ fuel s, ended (fuel + 1) s ↔ (goes s → ended fuel (next s))

/-- A loop with fuel that puts its result together on the way back. -/
structure Collects (goes : σ → Prop) [DecidablePred goes] (next : σ → σ) (emit : σ → β → β)
    (out : β) (loop : ℕ → σ → Option β) : Prop where
  zero : ∀ s, loop 0 s = none
  succ : ∀ fuel s,
    loop (fuel + 1) s = if goes s then (loop fuel (next s)).map (emit s) else some out

/-- Every round adds one to the counter, and the loop goes on below a limit. -/
structure Counted (goes : σ → Prop) (next : σ → σ) (count : σ → ℕ) (size limit : ℕ) : Prop where
  fits : ∀ s, count s < size
  next : ∀ s, count (next s) = (count s + 1) % size
  goes : ∀ s, goes s ↔ count s < limit

section
variable [DecidablePred goes] {emit : σ → β → β} {out : β} {loop : ℕ → σ → Option β}
  (h : Collects goes next emit out loop)
include h

theorem Collects.fueled : Fueled goes next fun fuel s => (loop fuel s).isSome where
  zero s := by simp [h.zero s]
  succ fuel s := by
    rw [h.succ]
    split
    case isTrue hgoes => simp [hgoes]
    case isFalse hleaves => simp [hleaves]

/-- More fuel changes nothing. -/
theorem Collects.mono {fuel more : ℕ} (hle : fuel ≤ more) {s : σ} {result : β}
    (hresult : loop fuel s = some result) : loop more s = some result := by
  induction fuel generalizing more s result with
  | zero => exact absurd (hresult.symm.trans (h.zero s)) (Option.some_ne_none result)
  | succ fuel ih =>
    obtain ⟨more, rfl⟩ := Nat.exists_eq_add_of_le' (Nat.le_of_add_left_le hle)
    rw [h.succ] at hresult ⊢
    split at hresult
    case isTrue hgoes =>
      obtain ⟨rest, hrest, hemit⟩ := Option.map_eq_some_iff.mp hresult
      rw [if_pos hgoes, ih (Nat.le_of_succ_le_succ hle) hrest, Option.map_some, hemit]
    case isFalse hleaves => rw [if_neg hleaves, hresult]

end

/-- A loop ends in the first round before which its condition fails. -/
theorem Fueled.ended_iff (h : Fueled goes next ended) (fuel : ℕ) (s : σ) :
    ended fuel s ↔ ∃ rounds < fuel, ¬goes (next^[rounds] s) := by
  induction fuel generalizing s with
  | zero => simp [h.zero]
  | succ fuel ih =>
    rw [h.succ, ih]
    constructor
    · intro hrest
      by_cases hgoes : goes s
      · obtain ⟨rounds, hlt, hleaves⟩ := hrest hgoes
        exact ⟨rounds + 1, Nat.succ_lt_succ hlt, hleaves⟩
      · exact ⟨0, Nat.succ_pos fuel, hgoes⟩
    · rintro ⟨rounds, hlt, hleaves⟩ hgoes
      cases rounds with
      | zero => exact absurd hgoes hleaves
      | succ rounds => exact ⟨rounds, Nat.lt_of_succ_lt_succ hlt, hleaves⟩

theorem Counted.count_iterate (h : Counted goes next count size limit) (rounds : ℕ) (s : σ) :
    count (next^[rounds] s) = (count s + rounds) % size := by
  induction rounds with
  | zero => exact (Nat.mod_eq_of_lt (h.fits s)).symm
  | succ rounds ih =>
    rw [Function.iterate_succ_apply', h.next, ih, Nat.mod_add_mod, Nat.add_assoc]

/-- From 0 on the counter reaches its limit in as many rounds, or never. -/
theorem Fueled.ended_iff_of_counted (hended : Fueled goes next ended)
    (hcounted : Counted goes next count size limit) {s : σ} (hs : count s = 0) (fuel : ℕ) :
    ended fuel s ↔ limit < size ∧ limit < fuel := by
  have hleaves (rounds : ℕ) : ¬goes (next^[rounds] s) ↔ limit ≤ rounds % size := by
    rw [hcounted.goes, hcounted.count_iterate, hs, Nat.zero_add, Nat.not_lt]
  simp only [hended.ended_iff, hleaves]
  constructor
  · rintro ⟨rounds, hlt, hlimit⟩
    have hwrapped := Nat.mod_lt rounds (Nat.zero_lt_of_lt (hcounted.fits s))
    have hle := Nat.mod_le rounds size
    exact ⟨hlimit.trans_lt hwrapped, hlimit.trans_lt (hle.trans_lt hlt)⟩
  · rintro ⟨hsize, hfuel⟩
    exact ⟨limit, hfuel, (Nat.mod_eq_of_lt hsize).ge⟩

end WeatherStation.Lib
