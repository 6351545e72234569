import Mathlib.Algebra.Group.Int.Defs
import Mathlib.Algebra.Group.Nat.Defs
import Mathlib.Data.List.TakeWhile

/-!
# C strings and the number functions of the C library

A C string is the list of its bytes, written as characters. `strtoul`, `strtol` and `atoi` are the
functions of ISO C in base 10 with a 64-bit `long` and a 32-bit `int`; `printD` is the `%d`
conversion and `printU` the `%u` conversion, of any width. `strtol_printD`, `strtoul_printD` and
`strtoul_printU` are the round trips of printed numbers.
-/

set_option autoImplicit false

namespace GUPnP

/-- A C string: its bytes before the terminator. -/
abbrev Str := List Char

namespace CString

/-- `isspace` in the C locale. -/
def isSpace (c : Char) : Bool := c == ' ' || ('\t' ≤ c && c ≤ '\r')

/-- The optional sign of a numeral: whether it is a minus, and what follows it. -/
def sign : Str → Bool × Str
  | '-' :: s => (true, s)
  | '+' :: s => (false, s)
  | s => (false, s)

/-- The subject sequence of the `strto*` functions: its sign and the value of its digits (0 when
there are none). -/
def numeral (s : Str) : Bool × Nat :=
  let (neg, s) := sign (s.dropWhile isSpace)
  (neg, Nat.ofDigitChars 10 (s.takeWhile Char.isDigit) 0)

/-- `strtoul (s, NULL, 10)`: its value, and whether it set `errno` to `ERANGE`. A minus sign negates
the value in `unsigned long`. -/
def strtoul (s : Str) : Nat × Bool :=
  let (neg, n) := numeral s
  if n < 2 ^ 64 then (if neg then (2 ^ 64 - n) % 2 ^ 64 else n, false) else (2 ^ 64 - 1, true)

/-- The number of the subject sequence. -/
def number (s : Str) : Int :=
  let (neg, n) := numeral s
  if neg then -n else n

/-- `strtol (s, NULL, 10)`, clamped to the range of `long`. -/
def strtol (s : Str) : Int :=
  let (neg, n) := numeral s
  if neg then max (-(n : Int)) (-2 ^ 63) else min (n : Int) (2 ^ 63 - 1)

/-- `g_ascii_strtoll (s, NULL, 10)`, clamped to the range of `gint64`. -/
def strtoll (s : Str) : Int := strtol s

/-- `g_ascii_strtoull (s, NULL, 10)`. -/
def strtoull (s : Str) : Nat := (strtoul s).1

/-- `atoi`: `strtol` converted to `int`. -/
def atoi (s : Str) : Int := (strtol s).bmod (2 ^ 32)

/-- The `%d` conversion. -/
def printD (n : Int) : Str :=
  if n < 0 then '-' :: Nat.toDigits 10 n.natAbs else Nat.toDigits 10 n.natAbs

/-- The `%u` conversion. -/
def printU (n : Nat) : Str := Nat.toDigits 10 n

theorem strtol_eq (s : Str) : strtol s = max (min (number s) (2 ^ 63 - 1)) (-2 ^ 63) := by
  unfold strtol number
  obtain ⟨neg, n⟩ := numeral s
  cases neg with
  | false =>
    simp only [Bool.false_eq_true, ↓reduceIte]
    omega
  | true =>
    simp only [↓reduceIte]
    omega

/-! ## Printed numbers read back -/

theorem not_isSpace_of_isDigit {c : Char} (h : c.isDigit = true) : isSpace c = false := by
  simp only [Char.isDigit, Bool.and_eq_true, decide_eq_true_eq, ge_iff_le] at h
  have h1 : ¬ c = ' ' := by rintro rfl; exact absurd h.1 (by decide)
  have h2 : ¬ c ≤ '\r' := fun hc => absurd (UInt32.le_trans h.1 hc) (by decide)
  simp [isSpace, h1, h2]

theorem sign_of_ne {c : Char} (hminus : c ≠ '-') (hplus : c ≠ '+') (s : Str) :
    sign (c :: s) = (false, c :: s) := by
  unfold sign
  split <;> simp_all

theorem sign_of_isDigit {c : Char} {s : Str} (h : c.isDigit = true) :
    sign (c :: s) = (false, c :: s) := by
  apply sign_of_ne
  · rintro rfl; exact absurd h (by decide)
  · rintro rfl; exact absurd h (by decide)

theorem numeral_of_digits {s : Str} (hne : s ≠ []) (hd : ∀ c ∈ s, c.isDigit = true) :
    numeral s = (false, Nat.ofDigitChars 10 s 0) := by
  cases s with
  | nil => exact absurd rfl hne
  | cons c s =>
    have hc := hd c List.mem_cons_self
    have htake : (c :: s).takeWhile Char.isDigit = c :: s := List.takeWhile_eq_self_iff.2 hd
    simp only [numeral, List.dropWhile_cons, not_isSpace_of_isDigit hc, Bool.false_eq_true,
      ↓reduceIte, sign_of_isDigit hc, htake]

theorem numeral_toDigits (n : Nat) : numeral (Nat.toDigits 10 n) = (false, n) := by
  rw [numeral_of_digits Nat.toDigits_ne_nil
    fun c hc => Nat.isDigit_of_mem_toDigits (by decide) (by decide) hc,
    Nat.ofDigitChars_ten_toDigits]

/-- White space before a numeral is skipped. -/
theorem numeral_space {space : Str} (h : ∀ c ∈ space, isSpace c = true) (s : Str) :
    numeral (space ++ s) = numeral s := by
  rw [numeral, List.dropWhile_append_of_pos h, numeral]

/-- A numeral ends before a character that is no part of one. -/
theorem numeral_append {c : Char} (hspace : isSpace c = false) (hdigit : c.isDigit = false)
    (hminus : c ≠ '-') (hplus : c ≠ '+') (a b : Str) : numeral (a ++ c :: b) = numeral a := by
  have hdrop : (a ++ c :: b).dropWhile isSpace = a.dropWhile isSpace ++ c :: b := by
    have hstay : (c :: b).dropWhile isSpace = c :: b := by
      rw [List.dropWhile_cons, hspace]
      rfl
    rw [List.dropWhile_append, hstay]
    split
    · rename_i hempty
      rw [List.isEmpty_iff.1 hempty, List.nil_append]
    · rfl
  have hsign : ∀ s : Str, sign (s ++ c :: b) = ((sign s).1, (sign s).2 ++ c :: b) := by
    intro s
    cases s with
    | nil => exact sign_of_ne hminus hplus b
    | cons d s =>
      by_cases hd : d = '-'
      · subst hd
        rfl
      · by_cases hd' : d = '+'
        · subst hd'
          rfl
        · rw [List.cons_append, sign_of_ne hd hd', sign_of_ne hd hd', List.cons_append]
  have htake : ∀ s : Str, (s ++ c :: b).takeWhile Char.isDigit = s.takeWhile Char.isDigit := by
    intro s
    have hstop : (c :: b).takeWhile Char.isDigit = [] := by
      rw [List.takeWhile_cons, hdigit]
      rfl
    rw [List.takeWhile_append, hstop, List.append_nil]
    split
    · rename_i hlen
      exact (List.takeWhile_prefix _).eq_of_length hlen |>.symm
    · rfl
  simp only [numeral, hdrop, hsign, htake]

/-- `strtoul` reads back what `%d` printed. -/
theorem strtoul_printD {n : Int} (h0 : 0 ≤ n) (h : n < 2 ^ 64) :
    strtoul (printD n) = (n.toNat, false) := by
  have hn : n.natAbs = n.toNat := by omega
  have hlt : n.toNat < 2 ^ 64 := by omega
  simp only [printD, show ¬ n < 0 by omega, ↓reduceIte, hn, strtoul, numeral_toDigits, hlt,
    Bool.false_eq_true]

theorem strtoul_printU {n : Nat} (h : n < 2 ^ 64) : strtoul (printU n) = (n, false) := by
  simp only [printU, strtoul, numeral_toDigits, h, ↓reduceIte, Bool.false_eq_true]

/-- The digits of a negative number. -/
theorem numeral_minus_toDigits (n : Nat) : numeral ('-' :: Nat.toDigits 10 n) = (true, n) := by
  have htake : (Nat.toDigits 10 n).takeWhile Char.isDigit = Nat.toDigits 10 n :=
    List.takeWhile_eq_self_iff.2 fun c hc =>
      Nat.isDigit_of_mem_toDigits (by decide) (by decide) hc
  have hspace : isSpace '-' = false := by decide
  simp only [numeral, List.dropWhile_cons, hspace, Bool.false_eq_true, ↓reduceIte, sign, htake,
    Nat.ofDigitChars_ten_toDigits]

/-- `strtol` reads back what `%ld` printed. -/
theorem strtol_printD {n : Int} (h0 : -2 ^ 63 ≤ n) (h : n < 2 ^ 63) : strtol (printD n) = n := by
  unfold printD strtol
  by_cases hneg : n < 0
  · rw [if_pos hneg, numeral_minus_toDigits]
    simp only [↓reduceIte]
    omega
  · rw [if_neg hneg, numeral_toDigits]
    simp only [Bool.false_eq_true, ↓reduceIte]
    omega

/-- `atoi` reads back what `%u` printed, if it is an `int`. -/
theorem atoi_printU {n : Nat} (h : n < 2 ^ 31) : atoi (printU n) = n := by
  have hread : strtol (printU n) = n := by
    have hprint : printU n = printD n := by
      simp only [printU, printD, Int.natAbs_natCast, show ¬ (n : Int) < 0 by omega, ↓reduceIte]
    rw [hprint, strtol_printD (by omega) (by omega)]
  rw [atoi, hread]
  exact Int.bmod_eq_of_le (by omega) (by omega)

/-- The characters of a printed number. -/
theorem mem_printD {n : Int} {c : Char} (h : c ∈ printD n) : c = '-' ∨ c.isDigit = true := by
  unfold printD at h
  split at h
  · rcases List.mem_cons.1 h with h | h
    · exact .inl h
    · exact .inr (Nat.isDigit_of_mem_toDigits (by decide) (by decide) h)
  · exact .inr (Nat.isDigit_of_mem_toDigits (by decide) (by decide) h)

theorem mem_printU {n : Nat} {c : Char} (h : c ∈ printU n) : c.isDigit = true :=
  Nat.isDigit_of_mem_toDigits (by decide) (by decide) h

end CString

end GUPnP
