import GUPnP.Base.CString
import Mathlib.Data.List.Infix

/-!
# Splitting strings

`strsplit` is `g_strsplit` without a limit on the pieces: it cuts a string at every occurrence of the
delimiter, from the left, and the empty string into nothing. `strsplit_append` is the first cut of a
string that has the delimiter where it is expected and not earlier; `strsplit_of_not_infix` the last
piece. `strrchr` cuts at the last occurrence of a character.
-/

set_option autoImplicit false

namespace GUPnP.CString

/-- The first piece and the others. `skip` characters still belong to the last delimiter. -/
def pieces (delimiter : Str) : Nat → Str → Str × List Str
  | _, [] => ([], [])
  | skip + 1, _ :: s => pieces delimiter skip s
  | 0, c :: s =>
    if delimiter <+: c :: s then
      let (piece, rest) := pieces delimiter (delimiter.length - 1) s
      ([], piece :: rest)
    else
      let (piece, rest) := pieces delimiter 0 s
      (c :: piece, rest)

/-- `g_strsplit (s, delimiter, -1)`. -/
def strsplit (delimiter s : Str) : List Str :=
  match s with
  | [] => []
  | s => (pieces delimiter 0 s).1 :: (pieces delimiter 0 s).2

/-- `strrchr`: what stands before the last `c` and what stands after it. -/
def strrchr (c : Char) (s : Str) : Option (Str × Str) :=
  match s.reverse.dropWhile (· ≠ c) with
  | [] => none
  | _ :: before => some (before.reverse, (s.reverse.takeWhile (· ≠ c)).reverse)

/-- `strncmp (s, t, n) == 0`. -/
def strncmpEq (s t : Str) (n : Nat) : Bool := s.take n == t.take n

variable {d a b s : Str} {c : Char}

theorem pieces_of_not_infix (h : ¬ d <:+: s) : pieces d 0 s = (s, []) := by
  induction s with
  | nil => rfl
  | cons c s ih =>
    have hpre : ¬ d <+: c :: s := fun hp => h hp.isInfix
    have htail : ¬ d <:+: s := fun hi => h (hi.trans (List.suffix_cons c s).isInfix)
    rw [pieces, if_neg hpre, ih htail]

theorem pieces_skip (a b : Str) : pieces d a.length (a ++ b) = pieces d 0 b := by
  induction a with
  | nil => rfl
  | cons c a ih => exact ih

/-- The delimiter does not occur before its place, also not overlapping with it. -/
theorem pieces_append (hd : d ≠ []) (h : ¬ d <:+: a ++ d.dropLast) (b : Str) :
    pieces d 0 (a ++ d ++ b) = (a, (pieces d 0 b).1 :: (pieces d 0 b).2) := by
  induction a with
  | nil =>
    cases d with
    | nil => exact absurd rfl hd
    | cons c d =>
      have hpre : c :: d <+: c :: (d ++ b) := ⟨b, rfl⟩
      rw [List.nil_append, List.cons_append, pieces, if_pos hpre]
      show ([], (pieces (c :: d) d.length (d ++ b)).1 :: (pieces (c :: d) d.length (d ++ b)).2) = _
      rw [pieces_skip]
  | cons c a ih =>
    have hpre : ¬ d <+: c :: (a ++ d ++ b) := by
      intro hp
      apply h
      have hlen : d.length ≤ (c :: a ++ d.dropLast).length := by
        have hpos := List.length_pos_iff.2 hd
        simp only [List.cons_append, List.length_cons, List.length_append, List.length_dropLast]
        omega
      have hlong : c :: a ++ d.dropLast <+: c :: (a ++ d ++ b) := by
        refine ⟨[d.getLast hd] ++ b, ?_⟩
        have hsplit := List.dropLast_append_getLast hd
        calc c :: a ++ d.dropLast ++ ([d.getLast hd] ++ b)
            = c :: (a ++ (d.dropLast ++ [d.getLast hd]) ++ b) := by simp
          _ = c :: (a ++ d ++ b) := by rw [hsplit]
      exact (List.prefix_of_prefix_length_le hp hlong hlen).isInfix
    have htail : ¬ d <:+: a ++ d.dropLast := fun hi =>
      h (hi.trans (List.suffix_cons c _).isInfix)
    rw [List.cons_append, List.cons_append, pieces, if_neg hpre, ih htail]

theorem strsplit_of_ne_nil (hs : s ≠ []) : strsplit d s = (pieces d 0 s).1 :: (pieces d 0 s).2 := by
  cases s with
  | nil => exact absurd rfl hs
  | cons => rfl

theorem strsplit_of_not_infix (hs : s ≠ []) (h : ¬ d <:+: s) : strsplit d s = [s] := by
  rw [strsplit_of_ne_nil hs, pieces_of_not_infix h]

theorem strsplit_append (hd : d ≠ []) (hb : b ≠ []) (h : ¬ d <:+: a ++ d.dropLast) :
    strsplit d (a ++ d ++ b) = a :: strsplit d b := by
  have hne : a ++ d ++ b ≠ [] := by simp [hd]
  rw [strsplit_of_ne_nil hne, pieces_append hd h, strsplit_of_ne_nil hb]

/-- The first cut at a single character. -/
theorem strsplit_char (hb : b ≠ []) (h : c ∉ a) : strsplit [c] (a ++ c :: b) = a :: strsplit [c] b := by
  have hnot : ¬ [c] <:+: a ++ [c].dropLast := by
    rw [List.dropLast_singleton, List.append_nil, List.singleton_infix_iff]
    exact h
  have hcut := strsplit_append (d := [c]) (by simp) hb hnot
  rwa [List.append_assoc] at hcut

/-- Pieces without the character that are joined by it are cut at it again. -/
theorem pieces_intercalate (h : c ∉ a) {l : List Str} (hl : ∀ piece ∈ l, c ∉ piece) :
    pieces [c] 0 (List.intercalate [c] (a :: l)) = (a, l) := by
  induction l generalizing a with
  | nil =>
    rw [List.intercalate_singleton, pieces_of_not_infix]
    rwa [List.singleton_infix_iff]
  | cons piece l ih =>
    have hnot : ¬ [c] <:+: a ++ [c].dropLast := by
      rw [List.dropLast_singleton, List.append_nil, List.singleton_infix_iff]
      exact h
    rw [List.intercalate_cons_cons, pieces_append (by simp) hnot,
      ih (hl piece List.mem_cons_self) fun p hp => hl p (List.mem_cons_of_mem piece hp)]

/-- The empty string alone is cut into nothing. -/
theorem strsplit_intercalate {l : List Str} (hl : ∀ piece ∈ l, c ∉ piece) (hne : l ≠ []) :
    strsplit [c] (List.intercalate [c] l) = if l = [[]] then [] else l := by
  cases l with
  | nil => exact absurd rfl hne
  | cons a l =>
    have hcut := pieces_intercalate (hl a List.mem_cons_self) fun p hp =>
      hl p (List.mem_cons_of_mem a hp)
    split
    · rename_i h
      rw [h]
      rfl
    · rename_i h
      have hs : List.intercalate [c] (a :: l) ≠ [] := by
        cases l with
        | nil => simpa using h
        | cons piece l => simp [List.intercalate_cons_cons]
      rw [strsplit_of_ne_nil hs, hcut]

/-- The cut at the last occurrence. -/
theorem strrchr_append (h : c ∉ b) : strrchr c (a ++ c :: b) = some (a, b) := by
  have hall : ∀ x ∈ b.reverse, decide (x ≠ c) = true := by
    intro x hx
    refine decide_eq_true ?_
    rintro rfl
    exact h (List.mem_reverse.1 hx)
  have hrev : (a ++ c :: b).reverse = b.reverse ++ c :: a.reverse := by simp
  have hdrop : (a ++ c :: b).reverse.dropWhile (· ≠ c) = c :: a.reverse := by
    rw [hrev, List.dropWhile_append_of_pos hall]
    simp
  have htake : (a ++ c :: b).reverse.takeWhile (· ≠ c) = b.reverse := by
    rw [hrev, List.takeWhile_append_of_pos hall]
    simp
  simp only [strrchr, hdrop, htake, List.reverse_reverse]

end GUPnP.CString
