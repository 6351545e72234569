import Mathlib

/-!
# The case of ASCII letters

A character that is no letter of one case is not made by a conversion to that case, unless it is
converted itself.
-/

set_option autoImplicit false

namespace GUPnP

variable {c : Char}

/-- A letter that is made lower case is no other kind of character. -/
theorem toLower_ne {d : Char} (hd : d.isLower = false) (h : c ≠ d) : c.toLower ≠ d := by
  intro heq
  have halpha : c.isAlpha = false := by rw [← Char.isLower_toLower_eq_isAlpha, heq, hd]
  have hupper : ¬ c.isUpper := by
    intro hupper
    rw [Char.isAlpha, hupper, Bool.true_or] at halpha
    exact absurd halpha (by decide)
  rw [Char.toLower_eq_of_not_isUpper hupper] at heq
  exact h heq

theorem toUpper_ne {d : Char} (hd : d.isUpper = false) (h : c ≠ d) : c.toUpper ≠ d := by
  intro heq
  have halpha : c.isAlpha = false := by rw [← Char.isUpper_toUpper_eq_isAlpha, heq, hd]
  have hlower : ¬ c.isLower := by
    intro hlower
    rw [Char.isAlpha, hlower, Bool.or_true] at halpha
    exact absurd halpha (by decide)
  rw [Char.toUpper_eq_of_not_isLower hlower] at heq
  exact h heq

end GUPnP
