import Mathlib.Algebra.Order.Ring.Nat
import Mathlib.Order.Monotone.Basic

/-! Periodic actions on a clock of 32 bits that wraps around.  The true times of
the calls are natural numbers, and each call may or may not act. -/
namespace WeatherStation.Lib

/-- The difference of two wrapped times is the true one as long as that fits. -/
theorem toNat_ofNat_sub_ofNat {earlier later : ℕ} (hle : earlier ≤ later)
    (hgap : later - earlier < 2 ^ 32) :
    (UInt32.ofNat later - UInt32.ofNat earlier).toNat = later - earlier := by
  rw [← UInt32.ofNat_sub hle, UInt32.toNat_ofNat_of_lt' hgap]

/-- Wrapped around, a difference is never longer than the true one. -/
theorem toNat_ofNat_sub_ofNat_le {earlier later : ℕ} (hle : earlier ≤ later) :
    (UInt32.ofNat later - UInt32.ofNat earlier).toNat ≤ later - earlier := by
  rw [← UInt32.ofNat_sub hle, UInt32.toNat_ofNat']
  exact Nat.mod_le _ _

section
variable (time : ℕ → ℕ) (acts : ℕ → Bool)

/-- When the action took place for the last time before a call; 0 if it never did. -/
def lastAction : ℕ → ℕ
  | 0 => 0
  | call + 1 => if acts call then time call else lastAction call

variable {time acts} (hmono : Monotone time)
include hmono

theorem lastAction_le (call : ℕ) : lastAction time acts call ≤ time call := by
  induction call with
  | zero => exact Nat.zero_le _
  | succ call ih =>
    have hnext : time call ≤ time (call + 1) := hmono (Nat.le_succ call)
    rw [lastAction]
    split
    · exact hnext
    · exact ih.trans hnext

theorem le_lastAction {earlier call : ℕ} (hlt : earlier < call) (hacts : acts earlier = true) :
    time earlier ≤ lastAction time acts call := by
  induction call with
  | zero => exact absurd hlt (Nat.not_lt_zero _)
  | succ call ih =>
    rw [lastAction]
    split
    · exact hmono (Nat.le_of_lt_succ hlt)
    · rename_i hskips
      apply ih
      apply lt_of_le_of_ne (Nat.le_of_lt_succ hlt)
      rintro rfl
      exact hskips hacts

/-- If an action needs a period since the last one, actions are that far apart. -/
theorem period_le_sub {period : ℕ}
    (hacts : ∀ call, acts call = true → period ≤ time call - lastAction time acts call)
    {earlier call : ℕ} (hlt : earlier < call) (hearlier : acts earlier = true)
    (hcall : acts call = true) : period ≤ time call - time earlier := by
  have hlast := le_lastAction hmono hlt hearlier
  have hperiod := hacts call hcall
  omega

/-- If calls are frequent and each overdue one acts, the time since the last action
stays below the range of the clock. -/
theorem sub_lastAction_lt {period range : ℕ} {call : ℕ} (hfirst : time 0 < range)
    (hgap : ∀ call, time (call + 1) - time call < range - period)
    (hacts : ∀ earlier, earlier < call → acts earlier = false →
      time earlier - lastAction time acts earlier < period) :
    time call - lastAction time acts call < range := by
  cases call with
  | zero => exact hfirst
  | succ call =>
    have hnext := hgap call
    have hlast := @lastAction_le time acts hmono call
    rw [lastAction]
    cases hcall : acts call with
    | true =>
      rw [if_pos rfl]
      omega
    | false =>
      have hlate := hacts call (Nat.lt_succ_self call) hcall
      rw [if_neg Bool.false_ne_true]
      omega

end
end WeatherStation.Lib
