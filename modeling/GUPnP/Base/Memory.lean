import Mathlib.Algebra.Group.Nat.Defs
import Mathlib.Data.List.Induction
import Mathlib.Logic.Function.Basic

/-!
# Writes with a 32-bit index

A loop that writes with an index of 32 bits that it increments, and what is in the memory afterwards
(`memory_consecutive`, as long as the index does not wrap). `ReadsUntil` is a string in the memory with
its terminator.
-/

set_option autoImplicit false

namespace GUPnP

structure Write (α : Type) where
  index : UInt32
  value : α

variable {α : Type}

/-- The writes of these values from an index on. -/
def consecutive (j : UInt32) : List α → List (Write α)
  | [] => []
  | x :: xs => ⟨j, x⟩ :: consecutive (j + 1) xs

/-- What the writes leave at each place. -/
def memory (writes : List (Write α)) : Nat → Option α :=
  writes.foldl (fun m w => Function.update m w.index.toNat (some w.value)) fun _ => none

/-- The values from the beginning of the memory to before the first one that is an end. -/
def ReadsUntil (isEnd : α → Prop) (m : Nat → Option α) (values : List α) : Prop :=
  (∀ k x, values[k]? = some x → m k = some x ∧ ¬ isEnd x) ∧
    ∃ x, m values.length = some x ∧ isEnd x

variable {x : α} {xs ys : List α} {j : UInt32} {isEnd : α → Prop} {m : Nat → Option α}

@[simp] theorem length_consecutive (j : UInt32) (xs : List α) :
    (consecutive j xs).length = xs.length := by
  induction xs generalizing j with
  | nil => rfl
  | cons x xs ih => rw [consecutive, List.length_cons, ih, List.length_cons]

theorem consecutive_append (j : UInt32) (xs ys : List α) :
    consecutive j (xs ++ ys) = consecutive j xs ++ consecutive (j + UInt32.ofNat xs.length) ys := by
  induction xs generalizing j with
  | nil =>
    have hzero : j + UInt32.ofNat 0 = j := by simp
    rw [List.length_nil, hzero]
    rfl
  | cons x xs ih =>
    have hnext : j + 1 + UInt32.ofNat xs.length = j + UInt32.ofNat (x :: xs).length := by
      rw [List.length_cons, UInt32.ofNat_add, UInt32.add_assoc, UInt32.add_comm (1 : UInt32)]
      rfl
    rw [List.cons_append, consecutive, ih, hnext]
    rfl

/-- The index is no larger than the number of the writes before. -/
theorem index_le {w : Write α} (h : w ∈ consecutive 0 xs) : w.index.toNat < xs.length := by
  induction xs using List.reverseRecOn with
  | nil => cases h
  | append_singleton xs x ih =>
    rw [consecutive_append, List.mem_append] at h
    rw [List.length_append, List.length_singleton]
    rcases h with h | h
    · have := ih h
      omega
    · obtain rfl := List.mem_singleton.1 h
      have hindex : ((0 : UInt32) + UInt32.ofNat xs.length).toNat = xs.length % 2 ^ 32 := by simp
      rw [hindex]
      omega

theorem memory_append_last (xs : List α) (x : α) :
    memory (consecutive 0 (xs ++ [x])) =
      Function.update (memory (consecutive 0 xs)) (xs.length % 2 ^ 32) (some x) := by
  have hindex : ((0 : UInt32) + UInt32.ofNat xs.length).toNat = xs.length % 2 ^ 32 := by simp
  rw [consecutive_append, memory, List.foldl_append, ← hindex]
  rfl

/-- Without a wrap every value is at its place. -/
theorem memory_consecutive (h : xs.length ≤ 2 ^ 32) (k : Nat) :
    memory (consecutive 0 xs) k = xs[k]? := by
  induction xs using List.reverseRecOn with
  | nil => rfl
  | append_singleton xs x ih =>
    rw [List.length_append, List.length_singleton] at h
    have hlast : xs.length % 2 ^ 32 = xs.length := Nat.mod_eq_of_lt (by omega)
    rw [memory_append_last, hlast, List.getElem?_append]
    by_cases hk : k = xs.length
    · subst hk
      rw [Function.update_self, if_neg (Nat.lt_irrefl _), Nat.sub_self]
      rfl
    · rw [Function.update_of_ne hk, ih (by omega)]
      split
      · rfl
      · rw [List.getElem?_eq_none (by omega), List.getElem?_eq_none]
        rw [List.length_singleton]
        omega

/-- A string that was written without a wrap is read. -/
theorem readsUntil_consecutive (h : xs.length < 2 ^ 32) (hend : isEnd x)
    (hmore : ∀ y ∈ xs, ¬ isEnd y) : ReadsUntil isEnd (memory (consecutive 0 (xs ++ [x]))) xs := by
  have hlength : (xs ++ [x]).length ≤ 2 ^ 32 := by
    rw [List.length_append, List.length_singleton]
    omega
  refine ⟨fun k y hk => ?_, x, ?_, hend⟩
  · have hlt := (List.getElem?_eq_some_iff.1 hk).1
    rw [memory_consecutive hlength, List.getElem?_append_left hlt]
    exact ⟨hk, hmore y (List.mem_iff_getElem?.2 ⟨k, hk⟩)⟩
  · rw [memory_consecutive hlength, List.getElem?_append_right (Nat.le_refl _), Nat.sub_self]
    rfl

/-- No string is read behind an end. -/
theorem ReadsUntil.length_le (h : ReadsUntil isEnd m xs) {k : Nat} (hk : m k = some x)
    (hend : isEnd x) : xs.length ≤ k := by
  by_contra hlt
  have hget : xs[k]? = some xs[k] := List.getElem?_eq_getElem (by omega)
  obtain ⟨hm, hnot⟩ := h.1 k _ hget
  rw [hk] at hm
  exact hnot (Option.some.inj hm ▸ hend)

end GUPnP
