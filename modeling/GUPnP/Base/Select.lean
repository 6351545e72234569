import Mathlib.Order.Lattice

/-!
# Selecting from a list

The loop that keeps an element and replaces it by every better one. On a list that was built by
prepending, the last of the best elements of what it was built from is kept (`select_reverse`).
-/

set_option autoImplicit false

namespace GUPnP

variable {α β γ : Type}

/-- The loop from the first element on. -/
def select (better : α → α → Bool) (l : List α) : Option α :=
  l.foldl (fun best x =>
    match best with
    | none => some x
    | some best => if better x best then some x else some best) none

theorem foldl_select_mem {better : α → α → Bool} (l : List α) (a : α) :
    ∃ m ∈ a :: l, l.foldl (fun best x =>
      match best with
      | none => some x
      | some best => if better x best then some x else some best) (some a) = some m := by
  induction l generalizing a with
  | nil => exact ⟨a, List.mem_singleton_self a, rfl⟩
  | cons x l ih =>
    rw [List.foldl_cons]
    dsimp only
    split
    · obtain ⟨m, hm, heq⟩ := ih x
      exact ⟨m, List.mem_cons_of_mem _ hm, heq⟩
    · obtain ⟨m, hm, heq⟩ := ih a
      refine ⟨m, ?_, heq⟩
      rcases List.mem_cons.1 hm with rfl | hm
      · exact List.mem_cons_self
      · exact List.mem_cons_of_mem _ (List.mem_cons_of_mem _ hm)

/-- The loop keeps an element of a list that has one. -/
theorem exists_select {better : α → α → Bool} {l : List α} (h : l ≠ []) :
    ∃ m ∈ l, select better l = some m := by
  obtain ⟨a, l, rfl⟩ := List.exists_cons_of_ne_nil h
  exact foldl_select_mem l a

theorem mem_of_select {better : α → α → Bool} {l : List α} {m : α} (h : select better l = some m) :
    m ∈ l := by
  cases l with
  | nil => cases h
  | cons a l =>
    obtain ⟨m', hmem, heq⟩ := @exists_select _ better _ (List.cons_ne_nil a l)
    obtain rfl := Option.some.inj (heq.symm.trans h)
    exact hmem

/-- In the list `l`, whose elements `f` maps to candidates or drops, `m` is the last of the candidates
with the least key. -/
structure LastLeast [LinearOrder β] (key : γ → β) (f : α → Option γ) (l : List α) (i : Nat) (x : α)
    (m : γ) : Prop where
  get : l[i]? = some x
  candidate : f x = some m
  least : ∀ j y n, l[j]? = some y → f y = some n → key m < key n ∨ key m = key n ∧ j ≤ i

variable [LinearOrder β] {key : γ → β} {f : α → Option γ} {l : List α} {m : γ}

theorem LastLeast.cons {i : Nat} {a x : α} (h : LastLeast key f l i x m)
    (ha : ∀ n, f a = some n → key m ≤ key n) : LastLeast key f (a :: l) (i + 1) x m where
  get := h.get
  candidate := h.candidate
  least := by
    intro j y n hy hn
    cases j with
    | zero =>
      obtain rfl := Option.some.inj hy
      rcases lt_or_eq_of_le (ha n hn) with hlt | heq
      · exact .inl hlt
      · exact .inr ⟨heq, Nat.zero_le _⟩
    | succ j =>
      rcases h.least j y n hy hn with hlt | ⟨heq, hle⟩
      · exact .inl hlt
      · exact .inr ⟨heq, Nat.succ_le_succ hle⟩

theorem LastLeast.head {i : Nat} {a x : α} {n : γ} (h : LastLeast key f l i x m) (ha : f a = some n)
    (hlt : key n < key m) : LastLeast key f (a :: l) 0 a n where
  get := rfl
  candidate := ha
  least := by
    intro j y k hy hk
    cases j with
    | zero =>
      obtain rfl := Option.some.inj hy
      obtain rfl := Option.some.inj (ha.symm.trans hk)
      exact .inr ⟨rfl, Nat.le_refl _⟩
    | succ j =>
      rcases h.least j y k hy hk with hlt' | ⟨heq, -⟩
      · exact .inl (hlt.trans hlt')
      · exact .inl (heq ▸ hlt)

/-- The first candidate of a list that has no other. -/
theorem LastLeast.only {a : α} {n : γ} (ha : f a = some n) (hl : ∀ x ∈ l, f x = none) :
    LastLeast key f (a :: l) 0 a n where
  get := rfl
  candidate := ha
  least := by
    intro j y k hy hk
    cases j with
    | zero =>
      obtain rfl := Option.some.inj hy
      obtain rfl := Option.some.inj (ha.symm.trans hk)
      exact .inr ⟨rfl, Nat.le_refl _⟩
    | succ j =>
      rw [hl y (List.mem_of_getElem? hy)] at hk
      cases hk

theorem select_concat (better : α → α → Bool) (l : List α) (x : α) :
    select better (l ++ [x]) =
      match select better l with
      | none => some x
      | some best => if better x best then some x else some best := by
  rw [select, List.foldl_append]
  rfl

/-- The loop over the candidates in reverse finds the last of the best ones, if there is one. -/
theorem select_reverse (key : γ → β) (f : α → Option γ) (l : List α) :
    (select (fun n m => decide (key n < key m)) (l.filterMap f).reverse = none ∧
      ∀ x ∈ l, f x = none) ∨
    ∃ i x m, select (fun n m => decide (key n < key m)) (l.filterMap f).reverse = some m ∧
      LastLeast key f l i x m := by
  induction l with
  | nil => exact .inl ⟨rfl, by simp⟩
  | cons a l ih =>
    cases ha : f a with
    | none =>
      rw [List.filterMap_cons_none ha]
      rcases ih with ⟨hnone, hl⟩ | ⟨i, x, m, hsome, hm⟩
      · exact .inl ⟨hnone, by simpa [ha] using hl⟩
      · exact .inr ⟨i + 1, x, m, hsome, hm.cons fun n hn => by rw [ha] at hn; cases hn⟩
    | some n =>
      rw [List.filterMap_cons_some ha, List.reverse_cons, select_concat]
      right
      rcases ih with ⟨hnone, hl⟩ | ⟨i, x, m, hsome, hm⟩
      · rw [hnone]
        exact ⟨0, a, n, rfl, .only ha hl⟩
      · rw [hsome]
        by_cases hlt : key n < key m
        · exact ⟨0, a, n, if_pos (decide_eq_true hlt), hm.head ha hlt⟩
        · refine ⟨i + 1, x, m, if_neg (by simpa using hlt), hm.cons fun k hk => ?_⟩
          obtain rfl := Option.some.inj (ha.symm.trans hk)
          exact not_lt.1 hlt

end GUPnP
