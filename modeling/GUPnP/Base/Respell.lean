import Mathlib.Data.List.Basic

/-!
# Lists in another spelling

`respell a b f` writes the separator `b` for `a` in a list and maps with `f` what comes behind the
first separator. Two such spellings compose to one (`respell_respell`). `IsLast` is the position of the
last separator.
-/

set_option autoImplicit false

namespace GUPnP

variable {α : Type} [DecidableEq α]

/-- The spelling of a list with `b` for `a`; `mapping` says that a separator has come. -/
def respell (a b : α) (f : α → α) (mapping : Bool) : List α → List α
  | [] => []
  | x :: l =>
    if x = a then b :: respell a b f true l
    else (if mapping then f x else x) :: respell a b f mapping l

variable {a b c : α} {f g : α → α} {mapping : Bool} {l : List α}

@[simp] theorem length_respell (a b : α) (f : α → α) (mapping : Bool) (l : List α) :
    (respell a b f mapping l).length = l.length := by
  induction l generalizing mapping with
  | nil => rfl
  | cons x l ih =>
    rw [respell]
    split <;> rw [List.length_cons, List.length_cons, ih]

/-- What a spelling is made of. -/
theorem mem_respell {y : α} (h : y ∈ respell a b f mapping l) :
    y = b ∨ ∃ x ∈ l, x ≠ a ∧ (y = x ∨ y = f x) := by
  induction l generalizing mapping with
  | nil => cases h
  | cons x l ih =>
    have hrest : ∀ {mapping}, y ∈ respell a b f mapping l →
        y = b ∨ ∃ z ∈ x :: l, z ≠ a ∧ (y = z ∨ y = f z) := fun hy =>
      (ih hy).imp id fun ⟨z, hz, hspelled⟩ => ⟨z, List.mem_cons_of_mem x hz, hspelled⟩
    rw [respell] at h
    by_cases hx : x = a
    · rw [if_pos hx] at h
      rcases List.mem_cons.1 h with hy | hy
      · exact .inl hy
      · exact hrest hy
    · rw [if_neg hx] at h
      rcases List.mem_cons.1 h with hy | hy
      · refine .inr ⟨x, List.mem_cons_self, hx, ?_⟩
        cases mapping
        · exact .inl hy
        · exact .inr hy
      · exact hrest hy

/-- A spelling of a spelling, if the first one makes no separators for the second. -/
theorem respell_respell (h : ∀ x ∈ l, x ≠ a → x ≠ b ∧ f x ≠ b) :
    respell b c g mapping (respell a b f mapping l) = respell a c (g ∘ f) mapping l := by
  induction l generalizing mapping with
  | nil => rfl
  | cons x l ih =>
    have hl : ∀ x ∈ l, x ≠ a → x ≠ b ∧ f x ≠ b := fun y hy => h y (List.mem_cons_of_mem x hy)
    by_cases hx : x = a
    · rw [respell, if_pos hx, respell, if_pos rfl, respell, if_pos hx, ih hl]
    · obtain ⟨hb, hf⟩ := h x List.mem_cons_self hx
      have hne : (if mapping then f x else x) ≠ b := by
        cases mapping
        · exact hb
        · exact hf
      rw [respell, if_neg hx, respell, if_neg hne, respell, if_neg hx, ih hl]
      cases mapping <;> rfl

theorem respell_true (a b : α) (f : α → α) (l : List α) :
    respell a b f true l = l.map fun x => if x = a then b else f x := by
  induction l with
  | nil => rfl
  | cons x l ih =>
    rw [respell, ih, List.map_cons]
    split <;> rfl

/-- Up to the first separator nothing changes. -/
theorem respell_false (a b : α) (f : α → α) (l : List α) :
    respell a b f false l = l.takeWhile (· ≠ a) ++
      (l.dropWhile (· ≠ a)).map fun x => if x = a then b else f x := by
  induction l with
  | nil => rfl
  | cons x l ih =>
    by_cases hx : x = a
    · rw [respell, if_pos hx, respell_true, List.takeWhile_cons_of_neg (by simpa using hx),
        List.dropWhile_cons_of_neg (by simpa using hx), List.nil_append, List.map_cons, if_pos hx]
    · rw [respell, if_neg hx, ih, List.takeWhile_cons_of_pos (by simpa using hx),
        List.dropWhile_cons_of_pos (by simpa using hx)]
      rfl

/-- The list is its own spelling if what comes behind a separator is mapped to itself. -/
theorem respell_self_of_behind (h : ∀ x ∈ l.dropWhile (· ≠ a), f x = x) :
    respell a a f false l = l := by
  have hself : (l.dropWhile (· ≠ a)).map (fun x => if x = a then a else f x) =
      l.dropWhile (· ≠ a) := by
    refine (List.map_congr_left fun x hx => ?_).trans (List.map_id _)
    by_cases ha : x = a
    · rw [if_pos ha, ha]
      rfl
    · rw [if_neg ha, h x hx]
      rfl
  rw [respell_false, hself, List.takeWhile_append_dropWhile]

/-! ## The last separator -/

/-- `i` is the position of the last `a`, or -1 where there is none. -/
def IsLast (a : α) (l : List α) (i : Int) : Prop :=
  (a ∉ l ∧ i = -1) ∨ ∃ before after, l = before ++ a :: after ∧ a ∉ after ∧ i = before.length

/-- The last position that a loop from `i` on has seen; `last` is the one before it. -/
def lastFrom (a : α) (i : Nat) (last : Int) : List α → Int
  | [] => last
  | x :: l => lastFrom a (i + 1) (if x = a then i else last) l

theorem lastFrom_of_not_mem (h : a ∉ l) (i : Nat) (last : Int) : lastFrom a i last l = last := by
  induction l generalizing i with
  | nil => rfl
  | cons x l ih =>
    rw [List.mem_cons, not_or] at h
    rw [lastFrom, if_neg (Ne.symm h.1), ih h.2]

theorem lastFrom_append {before after : List α} (h : a ∉ after) (i : Nat) (last : Int) :
    lastFrom a i last (before ++ a :: after) = (i + before.length : Nat) := by
  induction before generalizing i last with
  | nil =>
    rw [List.nil_append, lastFrom, if_pos rfl, lastFrom_of_not_mem h]
    rfl
  | cons x before ih =>
    rw [List.cons_append, lastFrom, ih, List.length_cons]
    omega

theorem isLast_lastFrom (a : α) (l : List α) : IsLast a l (lastFrom a 0 (-1) l) := by
  by_cases h : a ∈ l
  · obtain ⟨after, before, hreverse, hafter⟩ :=
      List.eq_append_cons_of_mem (List.mem_reverse.2 h)
    have hl : l = before.reverse ++ a :: after.reverse := by
      rw [← List.reverse_reverse l, hreverse, List.reverse_append, List.reverse_cons,
        List.append_assoc]
      rfl
    have hafter' : a ∉ after.reverse := mt List.mem_reverse.1 hafter
    refine .inr ⟨before.reverse, after.reverse, hl, hafter', ?_⟩
    rw [hl, lastFrom_append hafter', Nat.zero_add]
  · exact .inl ⟨h, lastFrom_of_not_mem h 0 (-1)⟩

end GUPnP
