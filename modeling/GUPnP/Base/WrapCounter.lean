import Mathlib.Logic.Function.Iterate

/-!
# Counters that wrap to 1

An event counter starts at 0 and counts up to `max`; the successor of `max` is 1, so that 0 is the
value of the first event only. `iterate_wrapSucc_zero` is its value after `k` steps. Two such
counters started together agree as long as neither has wrapped (`iterate_wrapSucc_of_le`).
-/

set_option autoImplicit false

namespace GUPnP

/-- The successor that wraps to 1. -/
def wrapSucc (max n : Nat) : Nat := if n < max then n + 1 else 1

variable {max : Nat}

theorem wrapSucc_of_lt {n : Nat} (h : n < max) : wrapSucc max n = n + 1 := if_pos h

theorem wrapSucc_max : wrapSucc max max = 1 := if_neg (Nat.lt_irrefl _)

theorem wrapSucc_ne_self (h : 1 < max) (n : Nat) : wrapSucc max n ≠ n := by
  unfold wrapSucc; split <;> omega

/-- The counter after `k` steps from a start it does not wrap from. -/
theorem iterate_wrapSucc_of_le {n k : Nat} (h : n + k ≤ max) : (wrapSucc max)^[k] n = n + k := by
  induction k with
  | zero => rfl
  | succ k ih =>
    rw [Function.iterate_succ_apply', ih (by omega), wrapSucc_of_lt (by omega)]
    rfl

/-- **The counter after `k` steps from 0**: after the first event it runs through `1 .. max`. -/
theorem iterate_wrapSucc_zero (hm : 0 < max) (k : Nat) :
    (wrapSucc max)^[k] 0 = if k = 0 then 0 else (k - 1) % max + 1 := by
  induction k with
  | zero => rfl
  | succ k ih =>
    rw [Function.iterate_succ_apply', ih]
    rcases Nat.eq_zero_or_pos k with rfl | hk
    · simp [wrapSucc, hm]
    · have hlt := Nat.mod_lt (k - 1) hm
      simp only [show ¬ k = 0 by omega, Nat.add_one_ne_zero, ↓reduceIte, Nat.add_sub_cancel]
      have hmod : k % max = ((k - 1) % max + 1) % max := by
        rw [Nat.mod_add_mod, Nat.sub_add_cancel hk]
      by_cases hw : (k - 1) % max + 1 < max
      · rw [wrapSucc_of_lt hw, hmod, Nat.mod_eq_of_lt hw]
      · have he : (k - 1) % max + 1 = max := by omega
        rw [he, wrapSucc_max, hmod, he, Nat.mod_self]

theorem iterate_wrapSucc_le (hm : 0 < max) (k : Nat) : (wrapSucc max)^[k] 0 ≤ max := by
  rw [iterate_wrapSucc_zero hm]
  split
  · omega
  · have := Nat.mod_lt (k - 1) hm
    omega

end GUPnP
