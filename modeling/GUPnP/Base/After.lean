import Mathlib.Data.List.Basic
import Mathlib.Order.Lattice

/-!
# A place in an increasing list

`firstAfter c l` is the place in the increasing list `l` of what passed `c`: the first element that is
greater. It stays right while elements come at the end and go anywhere (`firstAfter_append`,
`firstAfter_filter`), and the element behind `l` in a list is the place of what passed `l`
(`firstAfter_eq_next`).
-/

set_option autoImplicit false

namespace GUPnP

variable {α : Type} [LinearOrder α] {l : List α} {c x y : α}

/-- The first element after `c`. -/
def firstAfter (c : α) (l : List α) : Option α := l.find? (c < ·)

theorem firstAfter_eq_none_iff : firstAfter c l = none ↔ ∀ x ∈ l, x ≤ c := by
  simp [firstAfter]

theorem mem_of_firstAfter (h : firstAfter c l = some x) : x ∈ l ∧ c < x :=
  ⟨List.mem_of_find?_eq_some h, by simpa using List.find?_some h⟩

theorem firstAfter_eq_some_iff (hl : l.Pairwise (· < ·)) :
    firstAfter c l = some x ↔ x ∈ l ∧ c < x ∧ ∀ y ∈ l, c < y → x ≤ y := by
  constructor
  · intro h
    refine ⟨(mem_of_firstAfter h).1, (mem_of_firstAfter h).2, fun y hy hcy => ?_⟩
    obtain ⟨-, before, after, rfl, hbefore⟩ := List.find?_eq_some_iff_append.1 h
    rcases List.mem_append.1 hy with hy | hy
    · exact absurd hcy (by simpa using hbefore y hy)
    · rcases List.mem_cons.1 hy with rfl | hy
      · exact le_refl y
      · have hxy : x < y := (List.pairwise_cons.1 (List.pairwise_append.1 hl).2.1).1 y hy
        exact hxy.le
  · rintro ⟨hx, hcx, hleast⟩
    cases hfind : firstAfter c l with
    | none => exact absurd (firstAfter_eq_none_iff.1 hfind x hx) hcx.not_ge
    | some y =>
      obtain ⟨hy, hcy⟩ := mem_of_firstAfter hfind
      have hle := hleast y hy hcy
      obtain ⟨-, before, after, rfl, hbefore⟩ := List.find?_eq_some_iff_append.1 hfind
      rcases List.mem_append.1 hx with hx | hx
      · exact absurd hcx (by simpa using hbefore x hx)
      · rcases List.mem_cons.1 hx with rfl | hx
        · rfl
        · exact absurd ((List.pairwise_cons.1 (List.pairwise_append.1 hl).2.1).1 x hx) hle.not_gt

/-- Another element at the end. -/
theorem firstAfter_append (hc : c < y) :
    firstAfter c (l ++ [y]) = some ((firstAfter c l).getD y) := by
  rw [firstAfter, List.find?_append, ← firstAfter]
  cases firstAfter c l with
  | none => simp [hc]
  | some x => rfl

/-- The first element after one of the list is the next one. -/
theorem firstAfter_eq_next {before after : List α} (hl : (before ++ x :: after).Pairwise (· < ·)) :
    firstAfter x (before ++ x :: after) = after.head? := by
  obtain ⟨-, hafter, hlt⟩ := List.pairwise_append.1 hl
  have hbefore : ∀ y ∈ before, y ≤ x := fun y hy => le_of_lt (hlt y hy x List.mem_cons_self)
  rw [firstAfter, List.find?_append, ← firstAfter, firstAfter_eq_none_iff.2 hbefore, Option.none_or,
    List.find?_cons_of_neg (by simp)]
  cases after with
  | nil => rfl
  | cons y after =>
    have hxy : x < y := (List.pairwise_cons.1 hafter).1 y List.mem_cons_self
    simp [hxy]

/-- An element that goes: where it was the place, that moves on. -/
theorem firstAfter_filter (hl : l.Pairwise (· < ·)) :
    firstAfter c (l.filter (· ≠ x)) =
      if firstAfter c l = some x then firstAfter x l else firstAfter c l := by
  have hsub : (l.filter (· ≠ x)).Pairwise (· < ·) := hl.filter _
  refine Option.ext fun y => ?_
  split
  · rename_i hx
    obtain ⟨hmem, hcx, hleast⟩ := (firstAfter_eq_some_iff hl).1 hx
    rw [firstAfter_eq_some_iff hsub, firstAfter_eq_some_iff hl]
    simp only [List.mem_filter, decide_eq_true_eq]
    constructor
    · rintro ⟨⟨hy, hne⟩, hcy, hmin⟩
      have hxy : x < y := lt_of_le_of_ne (hleast y hy hcy) (Ne.symm hne)
      exact ⟨hy, hxy, fun z hz hxz => hmin z ⟨hz, hxz.ne'⟩ (hcx.trans hxz)⟩
    · rintro ⟨hy, hxy, hmin⟩
      refine ⟨⟨hy, hxy.ne'⟩, hcx.trans hxy, fun z hz hcz => ?_⟩
      exact hmin z hz.1 (lt_of_le_of_ne (hleast z hz.1 hcz) (Ne.symm hz.2))
  · rename_i hx
    rw [firstAfter_eq_some_iff hsub, firstAfter_eq_some_iff hl]
    simp only [List.mem_filter, decide_eq_true_eq]
    constructor
    · rintro ⟨⟨hy, hne⟩, hcy, hmin⟩
      refine ⟨hy, hcy, fun z hz hcz => ?_⟩
      by_cases hzx : z = x
      · by_contra hlt
        refine hx ((firstAfter_eq_some_iff hl).2 ⟨hzx ▸ hz, hzx ▸ hcz, fun w hw hcw => ?_⟩)
        by_cases hwx : w = x
        · exact hwx.ge
        · exact (le_of_lt (hzx ▸ not_le.1 hlt)).trans (hmin w ⟨hw, hwx⟩ hcw)
      · exact hmin z ⟨hz, hzx⟩ hcz
    · rintro ⟨hy, hcy, hmin⟩
      refine ⟨⟨hy, ?_⟩, hcy, fun z hz => hmin z hz.1⟩
      rintro rfl
      exact hx ((firstAfter_eq_some_iff hl).2 ⟨hy, hcy, hmin⟩)

end GUPnP
