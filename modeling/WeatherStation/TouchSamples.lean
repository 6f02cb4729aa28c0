import Mathlib.Algebra.Order.Ring.Int
import WeatherStation.Palette

/-! `XPT2046_ReadAdc_Smooth_XY`: ten readings while the pen is down, and for each
coordinate the mean of those that are left without the smallest and the largest. -/
namespace WeatherStation.Xpt2046

/-- What `XPT2046_ReadAdc_XY` returns, and the pen afterwards. -/
structure Reading where
  x : Int16
  y : Int16
  penDown : Bool

/-- The sampling loop, with so many places left in the buffer. -/
def sampleLoop (read : ℕ → Reading) : ℕ → ℕ → List Reading
  | 0, _ => []
  | more + 1, ucCount =>
    read ucCount :: if (read ucCount).penDown then sampleLoop read more (ucCount + 1) else []

/-- The smallest and the largest sample. -/
def extremes (lMin lMax : ℤ) : List ℤ → ℤ × ℤ
  | [] => (lMin, lMax)
  | sample :: samples =>
    if sample < lMin then extremes sample lMax samples
    else if sample > lMax then extremes lMin sample samples
    else extremes lMin lMax samples

def total (samples : List ℤ) : ℤ := samples.foldr (· + ·) 0

/-- The mean without the extremes; the shift rounds down. -/
def smooth (buffer : List Int16) : Int16 :=
  let samples := buffer.map Int16.toInt
  let first := samples.headD 0
  let (lMin, lMax) := extremes first first samples.tail
  Int16.ofInt ((total samples - lMin - lMax) / 8)

def readAdcSmoothXY (read : ℕ → Reading) : Option (Int16 × Int16) :=
  let buffer := sampleLoop read 10 0
  if buffer.length = 10 then some (smooth (buffer.map Reading.x), smooth (buffer.map Reading.y))
  else none

/-- At most one sample is below a range, and at most one above it. -/
structure OneOff (lo hi : ℤ) (buffer : List Int16) : Prop where
  below : (buffer.map Int16.toInt).countP (· < lo) ≤ 1
  above : (buffer.map Int16.toInt).countP (hi < ·) ≤ 1

/-! ### What one bad sample can do -/

section
variable {lo lMin lMax sum bound : ℤ} {below : ℕ} {samples : List ℤ}

/-- Between the extremes so far: how many samples were below the bound, and that the
others without the extremes reach it on average. -/
structure Trimmed (lo lMin lMax sum bound : ℤ) (below : ℕ) : Prop where
  ordered : lMin ≤ lMax
  none : below = 0 → lo ≤ lMin
  one : below = 1 → lMin < lo ∧ lo ≤ lMax
  rest : below ≤ 1 → bound ≤ sum - lMin - lMax

theorem below_cases (sample lo : ℤ) :
    sample < lo ∧ (if sample < lo then 1 else 0) = 1 ∨
      lo ≤ sample ∧ (if sample < lo then 1 else 0) = 0 := by
  split_ifs <;> omega

theorem Trimmed.extremes (h : Trimmed lo lMin lMax sum bound below)
    (hbelow : below + samples.countP (· < lo) ≤ 1) :
    bound + samples.length * lo ≤
      sum + total samples - (extremes lMin lMax samples).1 - (extremes lMin lMax samples).2 := by
  induction samples generalizing lMin lMax sum bound below with
  | nil =>
    have hrest := h.rest (by simpa using hbelow)
    simpa [total, Xpt2046.extremes] using hrest
  | cons sample samples ih =>
    obtain ⟨hordered, hnone, hone, hrest⟩ := h
    have hlength : ((sample :: samples).length : ℤ) * lo = lo + samples.length * lo := by
      rw [List.length_cons, Nat.cast_succ, Int.add_mul, Int.one_mul, Int.add_comm]
    have htotal : total (sample :: samples) = sample + total samples := rfl
    have hcount : (sample :: samples).countP (· < lo) =
        samples.countP (· < lo) + if sample < lo then 1 else 0 := by
      simp [List.countP_cons]
    rw [hcount] at hbelow
    have hstep : ∀ lMin' lMax', lMin' + lMax' + lo ≤ sum + sample - bound →
        lMin' ≤ lMax' → (below + (if sample < lo then 1 else 0) = 0 → lo ≤ lMin') →
        (below + (if sample < lo then 1 else 0) = 1 → lMin' < lo ∧ lo ≤ lMax') →
        bound + (lo + samples.length * lo) ≤ sum + (sample + total samples) -
          (Xpt2046.extremes lMin' lMax' samples).1 - (Xpt2046.extremes lMin' lMax' samples).2 := by
      intro lMin' lMax' hsum hle hzero hfirst
      have hnext := @ih lMin' lMax' (sum + sample) (bound + lo)
        (below + if sample < lo then 1 else 0)
        ⟨hle, hzero, hfirst, fun _ => by omega⟩ (by omega)
      omega
    rw [hlength, htotal, Xpt2046.extremes]
    have hkept := hrest (by omega)
    have hcases := below_cases sample lo
    split_ifs with hsmall hlarge
    · exact hstep _ _ (by omega) (by omega) (by omega) (by omega)
    · exact hstep _ _ (by omega) (by omega) (by omega) (by omega)
    · exact hstep _ _ (by omega) (by omega) (by omega) (by omega)

/-- The first two samples are the extremes, in some order. -/
theorem extremes_ge {first second : ℤ}
    (hbelow : (first :: second :: samples).countP (· < lo) ≤ 1) :
    samples.length * lo ≤ total (first :: second :: samples) -
      (extremes first first (second :: samples)).1 - (extremes first first (second :: samples)).2 := by
  have htotal : total (first :: second :: samples) = first + second + total samples := by
    simp [total, Int.add_assoc]
  have hcount : (first :: second :: samples).countP (· < lo) =
      ((if second < lo then 1 else 0) + if first < lo then 1 else 0) +
        samples.countP (· < lo) := by
    simp only [List.countP_cons, decide_eq_true_eq]
    omega
  rw [hcount] at hbelow
  rw [htotal, extremes]
  have hfirst := below_cases first lo
  have hsecond := below_cases second lo
  have hstart : ∀ lMin lMax, lMin ≤ lMax → lMin + lMax = first + second →
      (lMin = first ∨ lMin = second) →
      Trimmed lo lMin lMax (first + second) 0
        ((if second < lo then 1 else 0) + if first < lo then 1 else 0) := fun lMin lMax hle hsum hmin =>
    ⟨hle, fun hnone => by omega, fun hone => by omega, fun _ => by omega⟩
  split_ifs with hsmall hlarge
  · simpa using (hstart second first (by omega) (by omega) (by omega)).extremes hbelow
  · simpa using (hstart first second (by omega) (by omega) (by omega)).extremes hbelow
  · simpa using (hstart first first (by omega) (by omega) (by omega)).extremes hbelow

theorem extremes_neg (h : lMin ≤ lMax) :
    extremes (-lMax) (-lMin) (samples.map (-·)) =
      (-(extremes lMin lMax samples).2, -(extremes lMin lMax samples).1) := by
  induction samples generalizing lMin lMax with
  | nil => rfl
  | cons sample samples ih =>
    rw [List.map_cons, extremes, extremes]
    by_cases hsmall : sample < lMin
    · rw [if_neg (by omega), if_pos (by omega), if_pos hsmall, ih (by omega)]
    · by_cases hlarge : sample > lMax
      · rw [if_pos (by omega), if_neg hsmall, if_pos hlarge, ih (by omega)]
      · rw [if_neg (by omega), if_neg (by omega), if_neg hsmall, if_neg hlarge, ih h]

theorem total_neg : total (samples.map (-·)) = -total samples := by
  induction samples with
  | nil => rfl
  | cons sample samples ih =>
    have hcons : ∀ sample samples, total (sample :: samples) = sample + total samples :=
      fun _ _ => rfl
    rw [List.map_cons, hcons, hcons, ih]
    omega

theorem extremes_le {hi first second : ℤ}
    (habove : (first :: second :: samples).countP (hi < ·) ≤ 1) :
    total (first :: second :: samples) - (extremes first first (second :: samples)).1 -
      (extremes first first (second :: samples)).2 ≤ samples.length * hi := by
  have hneg : ((first :: second :: samples).map (-·)).countP (· < -hi) ≤ 1 := by
    rw [List.countP_map]
    refine Nat.le_trans (Nat.le_of_eq (List.countP_congr fun sample _ => ?_)) habove
    simp
  have hge := extremes_ge hneg
  rw [show (-first) :: (-second) :: samples.map (-·) = (first :: second :: samples).map (-·) from rfl,
    show (-second) :: samples.map (-·) = (second :: samples).map (-·) from rfl, total_neg,
    extremes_neg (Int.le_refl first), List.length_map, Int.mul_neg] at hge
  dsimp only at hge
  omega

end

/-! ### The sample -/

section
variable {read : ℕ → Reading} {buffer : List Int16} {lo hi : ℤ}

theorem smooth_within (hlength : buffer.length = 10) (h : OneOff lo hi buffer) :
    lo ≤ (smooth buffer).toInt ∧ (smooth buffer).toInt ≤ hi := by
  match buffer, hlength with
  | first :: second :: rest, hlength =>
    have hrest : ((rest.map Int16.toInt).length : ℤ) = 8 := by
      simp only [List.length_cons] at hlength
      simp only [List.length_map]
      omega
    obtain ⟨mean, hsmooth, hmean⟩ : ∃ mean, smooth (first :: second :: rest) = Int16.ofInt mean ∧
        ∀ {lo hi : ℤ}, OneOff lo hi (first :: second :: rest) → lo ≤ mean ∧ mean ≤ hi := by
      refine ⟨(total ((first :: second :: rest).map Int16.toInt) -
        (extremes first.toInt first.toInt ((second :: rest).map Int16.toInt)).1 -
        (extremes first.toInt first.toInt ((second :: rest).map Int16.toInt)).2) / 8, rfl,
        fun {lo hi} h => ?_⟩
      have hlow := extremes_ge h.below
      have hhigh := extremes_le h.above
      rw [hrest] at hlow hhigh
      simp only [List.map_cons] at hlow hhigh ⊢
      omega
    -- all samples are numbers of 16 bits, so their mean is one
    have hall : OneOff (-2 ^ 15) (2 ^ 15 - 1) (first :: second :: rest) := by
      constructor
      · rw [List.countP_eq_zero.mpr]
        · exact Nat.zero_le 1
        · simp only [List.forall_mem_map, decide_eq_true_eq, not_lt]
          exact fun sample _ => sample.le_toInt
      · rw [List.countP_eq_zero.mpr]
        · exact Nat.zero_le 1
        · simp only [List.forall_mem_map, decide_eq_true_eq, not_lt]
          exact fun sample _ => Int.le_sub_one_of_lt sample.toInt_lt
    have hsize := hmean hall
    rw [hsmooth, Int16.toInt_ofInt_of_le (by omega) (by omega)]
    exact hmean h

/-- The loop fills the buffer exactly if the pen stays down until the last reading. -/
theorem sampleLoop_cases (read : ℕ → Reading) (more ucCount : ℕ) :
    (∀ k, ucCount ≤ k → k < ucCount + more → (read k).penDown = true) ∧
        sampleLoop read (more + 1) ucCount = (List.range' ucCount (more + 1)).map read ∨
      (∃ k, ucCount ≤ k ∧ k < ucCount + more ∧ (read k).penDown = false) ∧
        (sampleLoop read (more + 1) ucCount).length < more + 1 := by
  induction more generalizing ucCount with
  | zero =>
    left
    refine ⟨fun k hle hlt => by omega, ?_⟩
    simp [sampleLoop]
  | succ more ih =>
    rw [sampleLoop]
    cases hpen : (read ucCount).penDown with
    | false =>
      right
      exact ⟨⟨ucCount, Nat.le_refl _, by omega, hpen⟩, by simp⟩
    | true =>
      rcases ih (ucCount + 1) with ⟨hdown, hloop⟩ | ⟨⟨k, hle, hlt, hup⟩, hshort⟩
      · left
        refine ⟨fun k hle hlt => ?_, ?_⟩
        · rcases Nat.eq_or_lt_of_le hle with rfl | hlater
          · exact hpen
          · exact hdown k hlater (by omega)
        · rw [if_pos rfl, hloop]
          rfl
      · right
        refine ⟨⟨k, by omega, by omega, hup⟩, ?_⟩
        rw [if_pos rfl, List.length_cons]
        omega

/-- There is a sample exactly if the pen stays down, and one bad reading on either
side cannot carry it out of the range of the others. -/
theorem smooth_sample (read : ℕ → Reading) :
    match readAdcSmoothXY read with
    | none => ∃ k < 9, (read k).penDown = false
    | some (x, y) => (∀ k < 9, (read k).penDown = true) ∧ ∀ lo hi : ℤ,
        (OneOff lo hi ((List.range 10).map fun k => (read k).x) → lo ≤ x.toInt ∧ x.toInt ≤ hi) ∧
        (OneOff lo hi ((List.range 10).map fun k => (read k).y) → lo ≤ y.toInt ∧ y.toInt ≤ hi) := by
  rcases sampleLoop_cases read 9 0 with ⟨hdown, hloop⟩ | ⟨⟨k, -, hlt, hup⟩, hshort⟩
  · rw [readAdcSmoothXY, hloop, ← List.range_eq_range', if_pos (by simp)]
    simp only [List.map_map]
    exact ⟨fun k hk => hdown k (Nat.zero_le k) (by omega), fun lo hi =>
      ⟨fun hx => smooth_within (by simp) hx, fun hy => smooth_within (by simp) hy⟩⟩
  · rw [readAdcSmoothXY, if_neg (Nat.ne_of_lt hshort)]
    exact ⟨k, by omega, hup⟩

/-- A spike in the fourth reading. -/
example : readAdcSmoothXY (fun k => ⟨if k = 3 then 4000 else 100, 7, true⟩) = some (100, 7) := by
  decide

end

end WeatherStation.Xpt2046
