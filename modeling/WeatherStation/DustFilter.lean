import Mathlib.Data.List.Induction
import WeatherStation.Lib.Window
import WeatherStation.Adc

/-! `my_filter` averages the last ten samples of the dust sensor.  The mean is
exact in the sum that the filter keeps, but it is returned through an 8-bit
variable. -/
namespace WeatherStation.Adc
open Lib

def Filter.feed (filter : Filter) (data : UInt32) : Filter := (myFilter filter data).2

def filterAfter (samples : List UInt32) : Filter := runs Filter.feed .reset samples

/-- What the call with `data` returns after the calls with the earlier samples. -/
def filterResult (earlier : List UInt32) (data : UInt32) : UInt32 :=
  (myFilter (filterAfter earlier) data).1

/-- The last ten samples; those before the first one count as the first. -/
def lastTen : List UInt32 → List UInt32
  | [] => []
  | first :: rest => window 10 first rest

def total (samples : List UInt32) : ℕ := (samples.map UInt32.toNat).sum

/-- The ADC has 12 bits. -/
def TwelveBit (samples : List UInt32) : Prop := ∀ sample ∈ samples, sample.toNat < 4096

instance (samples : List UInt32) : Decidable (TwelveBit samples) :=
  List.decidableBAll _ samples

/-- What a call should do: the sum is that of the buffer, before and after, and the
result is the mean of the last ten samples. -/
structure MeanReturned (earlier : List UInt32) (data : UInt32) : Prop where
  mean : (filterResult earlier data).toNat = total (lastTen (earlier ++ [data])) / 10
  sum : (filterAfter (earlier ++ [data])).sum.toNat =
    total (filterAfter (earlier ++ [data])).buffer
  noUnderflow : (filterAfter earlier).buffer.headD 0 ≤ (filterAfter earlier).sum
  notBelow : ∃ low ∈ lastTen (earlier ++ [data]), low ≤ filterResult earlier data
  notAbove : ∃ high ∈ lastTen (earlier ++ [data]), filterResult earlier data ≤ high

structure Filter.Tracks (filter : Filter) (samples : List UInt32) : Prop where
  flagFirst : filter.flagFirst = 1
  buffer : filter.buffer = lastTen samples
  sum : filter.sum.toNat = total (lastTen samples)

section
variable {samples : List UInt32}

theorem total_shift (hsamples : samples ≠ []) (data : UInt32) :
    total (samples.drop 1 ++ [data]) + (samples.headD 0).toNat = total samples + data.toNat := by
  obtain ⟨head, tail, rfl⟩ := List.exists_cons_of_ne_nil hsamples
  have hnonempty : (head :: tail).map UInt32.toNat ≠ [] := List.cons_ne_nil _ _
  have hshift := sum_shift hnonempty data.toNat
  simpa [total] using hshift

theorem headD_le_total (hsamples : samples ≠ []) : (samples.headD 0).toNat ≤ total samples := by
  obtain ⟨head, tail, rfl⟩ := List.exists_cons_of_ne_nil hsamples
  exact Nat.le_add_right _ _

theorem total_le (h : TwelveBit samples) : total samples ≤ samples.length * 4095 := by
  have hsum : total samples ≤ (samples.map UInt32.toNat).length • 4095 := by
    apply List.sum_le_card_nsmul
    rw [List.forall_mem_map]
    exact fun sample hsample => Nat.le_of_lt_succ (h sample hsample)
  rwa [List.length_map] at hsum

theorem length_lastTen (hsamples : samples ≠ []) : (lastTen samples).length = 10 := by
  obtain ⟨first, rest, rfl⟩ := List.exists_cons_of_ne_nil hsamples
  exact length_window 10 first rest

theorem lastTen_ne_nil (hsamples : samples ≠ []) : lastTen samples ≠ [] := by
  rw [← List.length_pos_iff, length_lastTen hsamples]
  decide

theorem TwelveBit.lastTen (h : TwelveBit samples) : TwelveBit (lastTen samples) := by
  cases samples with
  | nil => exact h
  | cons first rest => exact fun sample hsample => h sample (mem_window hsample)

theorem total_lastTen_first (data : UInt32) : total (lastTen [data]) = 10 * data.toNat := by
  rw [total, lastTen, window_nil, List.map_replicate, List.sum_replicate, Nat.nsmul_eq_mul]

theorem lastTen_concat (hsamples : samples ≠ []) (data : UInt32) :
    lastTen (samples ++ [data]) = (lastTen samples).drop 1 ++ [data] := by
  obtain ⟨first, rest, rfl⟩ := List.exists_cons_of_ne_nil hsamples
  exact window_concat (by decide) first rest data

theorem total_lastTen_le (h : TwelveBit samples) : total (lastTen samples) ≤ 40950 := by
  cases samples with
  | nil => exact Nat.zero_le _
  | cons first rest =>
    have htotal := total_le h.lastTen
    rwa [length_lastTen (List.cons_ne_nil _ _)] at htotal

end

section
variable {filter : Filter} {samples : List UInt32} {data : UInt32}

theorem myFilter_first (h : filter.flagFirst = 0) :
    myFilter filter data = (data, ⟨1, List.replicate 10 data, 10 * data⟩) := if_pos h

theorem myFilter_later (h : filter.flagFirst = 1) :
    myFilter filter data =
      (((filter.sum - filter.buffer.headD 0 + data) / 10).toUInt8.toUInt32,
        ⟨1, filter.buffer.drop 1 ++ [data], filter.sum - filter.buffer.headD 0 + data⟩) := by
  have hnot : ¬filter.flagFirst = 0 := by
    rw [h]
    decide
  unfold myFilter
  rw [if_neg hnot, ← h]

theorem Filter.Tracks.first (h : TwelveBit [data]) : (Filter.feed .reset data).Tracks [data] := by
  have hdata : data.toNat < 4096 := h data (List.mem_singleton_self data)
  rw [Filter.feed, myFilter_first rfl]
  refine ⟨rfl, rfl, ?_⟩
  have hten : (10 : UInt32).toNat = 10 := rfl
  rw [total_lastTen_first, UInt32.toNat_mul, hten]
  exact Nat.mod_eq_of_lt (by omega)

theorem Filter.Tracks.noUnderflow (h : filter.Tracks samples) (hsamples : samples ≠ []) :
    filter.buffer.headD 0 ≤ filter.sum := by
  rw [UInt32.le_iff_toNat_le, h.buffer, h.sum]
  exact headD_le_total (lastTen_ne_nil hsamples)

theorem Filter.Tracks.shiftedSum (h : filter.Tracks samples) (hsamples : samples ≠ [])
    (hbits : TwelveBit (samples ++ [data])) :
    (filter.sum - filter.buffer.headD 0 + data).toNat = total (lastTen (samples ++ [data])) := by
  have hshift := total_shift (lastTen_ne_nil hsamples) data
  have hrange := total_lastTen_le hbits
  have hhead := headD_le_total (lastTen_ne_nil hsamples)
  have hunderflow := h.noUnderflow hsamples
  rw [← lastTen_concat hsamples] at hshift
  rw [UInt32.toNat_add, UInt32.toNat_sub_of_le _ _ hunderflow, h.buffer, h.sum,
    Nat.mod_eq_of_lt (by omega)]
  omega

theorem Filter.Tracks.later (h : filter.Tracks samples) (hsamples : samples ≠ [])
    (hbits : TwelveBit (samples ++ [data])) : (filter.feed data).Tracks (samples ++ [data]) := by
  rw [Filter.feed, myFilter_later h.flagFirst]
  refine ⟨rfl, ?_, h.shiftedSum hsamples hbits⟩
  rw [lastTen_concat hsamples, ← h.buffer]

theorem TwelveBit.of_append {later : List UInt32} (h : TwelveBit (samples ++ later)) :
    TwelveBit samples := fun sample hsample => h sample (List.mem_append_left later hsample)

/-- After any calls the filter knows the last ten samples. -/
theorem filterAfter_tracks (hsamples : samples ≠ []) (hbits : TwelveBit samples) :
    (filterAfter samples).Tracks samples := by
  induction samples using List.reverseRecOn with
  | nil => exact absurd rfl hsamples
  | append_singleton earlier data ih =>
    have hstep : filterAfter (earlier ++ [data]) = (filterAfter earlier).feed data :=
      runs_append ..
    rw [hstep]
    by_cases hearlier : earlier = []
    · subst hearlier
      exact Filter.Tracks.first hbits
    · exact (ih hearlier hbits.of_append).later hearlier hbits

end

section
variable {earlier : List UInt32} {data : UInt32}

/-- From the second call on the mean is cut to 8 bits. -/
theorem filterResult_later (hearlier : earlier ≠ []) (hbits : TwelveBit (earlier ++ [data])) :
    (filterResult earlier data).toNat = total (lastTen (earlier ++ [data])) / 10 % 256 := by
  have htracks := filterAfter_tracks hearlier hbits.of_append
  rw [filterResult, myFilter_later htracks.flagFirst, ← htracks.shiftedSum hearlier hbits]
  rfl

theorem filterResult_first : (filterResult [] data).toNat = total (lastTen [data]) / 10 := by
  rw [total_lastTen_first, Nat.mul_div_cancel_left _ (by decide)]
  rfl

/-- An exact mean lies between two of the samples. -/
theorem MeanReturned.of_mean (hbits : TwelveBit (earlier ++ [data]))
    (hmean : (filterResult earlier data).toNat = total (lastTen (earlier ++ [data])) / 10) :
    MeanReturned earlier data := by
  have hsamples : earlier ++ [data] ≠ [] := List.append_ne_nil_of_right_ne_nil _ (by simp)
  have htracks := filterAfter_tracks hsamples hbits
  have hvalues : (lastTen (earlier ++ [data])).map UInt32.toNat ≠ [] :=
    mt List.map_eq_nil_iff.mp (lastTen_ne_nil hsamples)
  have hlength : ((lastTen (earlier ++ [data])).map UInt32.toNat).length = 10 := by
    rw [List.length_map, length_lastTen hsamples]
  constructor
  · exact hmean
  · rw [htracks.sum, htracks.buffer]
  · by_cases hearlier : earlier = []
    · subst hearlier
      decide
    · exact (filterAfter_tracks hearlier hbits.of_append).noUnderflow hearlier
  · obtain ⟨value, hvalue, hlow⟩ := exists_le_mean hvalues
    obtain ⟨low, hmem, rfl⟩ := List.mem_map.mp hvalue
    rw [hlength] at hlow
    exact ⟨low, hmem, UInt32.le_iff_toNat_le.mpr (hlow.trans_eq hmean.symm)⟩
  · obtain ⟨value, hvalue, hhigh⟩ := exists_mean_le hvalues
    obtain ⟨high, hmem, rfl⟩ := List.mem_map.mp hvalue
    rw [hlength] at hhigh
    exact ⟨high, hmem, UInt32.le_iff_toNat_le.mpr (hmean.trans_le hhigh)⟩

/-- The first call returns its sample; every other call is right exactly when the
mean fits in 8 bits. -/
theorem meanReturned_iff (earlier : List UInt32) (data : UInt32)
    (hbits : TwelveBit (earlier ++ [data])) :
    MeanReturned earlier data ↔
      earlier = [] ∨ total (lastTen (earlier ++ [data])) < 2560 := by
  by_cases hearlier : earlier = []
  · subst hearlier
    exact iff_of_true (.of_mean hbits filterResult_first) (.inl rfl)
  · have hresult := filterResult_later hearlier hbits
    constructor
    · intro h
      have hmean := h.mean
      rw [hresult] at hmean
      right
      omega
    · rintro (hfirst | hsmall)
      · exact absurd hfirst hearlier
      · apply MeanReturned.of_mean hbits
        rw [hresult]
        omega

theorem meanReturned_iff_two : MeanReturned [200] 100 :=
  (meanReturned_iff [200] 100 (by decide)).mpr (.inr (by decide))

/-- Two samples of 256 have the mean 256, and the second call returns 0. -/
theorem mean_truncated :
    ¬∀ (earlier : List UInt32) (data : UInt32), TwelveBit (earlier ++ [data]) →
      MeanReturned earlier data := by
  intro h
  have hmean := (h [256] 256 (by decide)).mean
  exact absurd hmean (by decide)

end
end WeatherStation.Adc
