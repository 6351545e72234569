/-!
# A position in a non-empty list

The view a pointer into a doubly linked list gives (`GList *`): the element it points at and the
elements on both sides. `first` and `next?` move the pointer and never change the list.
-/

set_option autoImplicit false

namespace GUPnP

/-- A non-empty list with a current element; `before` holds the earlier elements, nearest first. -/
structure Cursor (α : Type) where
  before : List α
  cur : α
  after : List α
  deriving DecidableEq, Repr

namespace Cursor

variable {α : Type}

/-- The list pointed into. -/
def toList (c : Cursor α) : List α := c.before.reverse ++ c.cur :: c.after

/-- The position of the current element. -/
def pos (c : Cursor α) : Nat := c.before.length

/-- The first element of a list, if it has one. -/
def ofList? : List α → Option (Cursor α)
  | [] => none
  | x :: xs => some ⟨[], x, xs⟩

/-- The pointer to the next element (`list->next`). -/
def next? (c : Cursor α) : Option (Cursor α) :=
  match c.after with
  | [] => none
  | x :: xs => some ⟨c.cur :: c.before, x, xs⟩

/-- The pointer to the first element (`g_list_first`). -/
def first (c : Cursor α) : Cursor α :=
  match c.toList with
  | [] => c
  | x :: xs => ⟨[], x, xs⟩

/-! ## Moving keeps the list -/

@[simp] theorem toList_first (c : Cursor α) : c.first.toList = c.toList := by
  unfold first
  split
  · rfl
  · rename_i h; rw [h]; rfl

theorem toList_next {c d : Cursor α} (h : c.next? = some d) : d.toList = c.toList := by
  unfold next? at h
  split at h
  · cases h
  · rename_i x xs hx
    cases h
    simp [toList, hx]

theorem pos_next {c d : Cursor α} (h : c.next? = some d) : d.pos = c.pos + 1 := by
  unfold next? at h
  split at h
  · cases h
  · cases h; rfl

/-- Only the last position has no next one. -/
theorem pos_of_next_none {c : Cursor α} (h : c.next? = none) : c.pos + 1 = c.toList.length := by
  unfold next? at h
  split at h
  · rename_i hx; simp [toList, pos, hx]
  · cases h

theorem getElem?_pos (c : Cursor α) : c.toList[c.pos]? = some c.cur := by
  simp [toList, pos]

theorem ofList?_toList {l : List α} {c : Cursor α} (h : ofList? l = some c) :
    c.toList = l ∧ c.pos = 0 := by
  cases l with
  | nil => cases h
  | cons x xs => cases h; exact ⟨rfl, rfl⟩

end Cursor

end GUPnP
