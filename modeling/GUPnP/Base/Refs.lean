import Mathlib.Data.List.Perm.Basic
import Mathlib.Logic.Function.Basic

/-!
# Reference counts and weak notifications

Objects with a count of their references, and arrays that list objects without owning them: an object
that is added to an array sets up a weak notification, which takes it out of the array when its last
reference is dropped. As long as the arrays are there, they list each living object as often as it was
added and no object that is gone (`Refs.Sound`). A notification that is made after the arrays are freed
writes to freed memory (`corrupt`).
-/

set_option autoImplicit false

namespace GUPnP

/-- The counts of the objects, the arrays that their weak notifications are for, and the arrays. -/
structure Refs (ο κ : Type) where
  refs : ο → Nat
  notifies : ο → List κ
  arrays : κ → List ο
  freed : Bool
  corrupt : Bool

namespace Refs

section
variable {ο κ : Type}

/-- No object, and empty arrays. -/
def empty : Refs ο κ := ⟨fun _ => 0, fun _ => [], fun _ => [], false, false⟩

/-- The arrays are freed. -/
def free (r : Refs ο κ) : Refs ο κ := { r with freed := true }

variable [DecidableEq ο]

/-- The first of these objects goes, and the last one takes its place. -/
def removeFast (o : ο) (array : List ο) : List ο :=
  match array.idxOf? o with
  | none => array
  | some i => (array.set i (array.getLast?.getD o)).dropLast

def ref (o : ο) (r : Refs ο κ) : Refs ο κ :=
  { r with refs := Function.update r.refs o (r.refs o + 1) }

variable [DecidableEq κ]

/-- The object is added to an array. -/
def add (o : ο) (k : κ) (r : Refs ο κ) : Refs ο κ :=
  { r with arrays := Function.update r.arrays k (r.arrays k ++ [o])
           notifies := Function.update r.notifies o (r.notifies o ++ [k]) }

/-- A weak notification. -/
def notify (o : ο) (r : Refs ο κ) (k : κ) : Refs ο κ :=
  if r.freed then { r with corrupt := true }
  else { r with arrays := Function.update r.arrays k (removeFast o (r.arrays k)) }

/-- The object goes, and its notifications are made. -/
def finalize (o : ο) (r : Refs ο κ) : Refs ο κ :=
  let r := (r.notifies o).foldl (notify o) r
  { r with notifies := Function.update r.notifies o [] }

def unref (o : ο) (r : Refs ο κ) : Refs ο κ :=
  let r := { r with refs := Function.update r.refs o (r.refs o - 1) }
  if r.refs o = 0 then finalize o r else r

/-- What holds between any two operations. -/
structure Sound (r : Refs ο κ) : Prop where
  gone : ∀ o, r.refs o = 0 → r.notifies o = []
  listed : r.freed = false → ∀ k o, (r.arrays k).count o = (r.notifies o).count k
  intact : r.freed = false → r.corrupt = false

end

/-! ## An array loses an object -/

section
variable {ο : Type} [DecidableEq ο] {o : ο} {l : List ο}

theorem removeFast_of_not_mem (h : o ∉ l) : removeFast o l = l := by
  unfold removeFast
  rw [List.idxOf?_eq_none_iff.2 h]

theorem removeFast_perm (h : o ∈ l) : (removeFast o l).Perm (l.erase o) := by
  obtain ⟨a, b, hnot, rfl, herase⟩ := List.exists_erase_eq h
  have hindex : (a ++ o :: b).idxOf? o = some a.length := by
    rw [List.idxOf?_eq_some_iff]
    refine ⟨by simp, by simp, fun j hj heq => hnot ?_⟩
    rw [List.getElem_append_left hj] at heq
    exact heq ▸ List.getElem_mem hj
  unfold removeFast
  rw [hindex, herase]
  simp only [List.set_append_right, Nat.le_refl, Nat.sub_self, List.set_cons_zero]
  rcases List.eq_nil_or_concat b with rfl | ⟨b, z, rfl⟩
  · simp
  · have hlast : (a ++ o :: (b ++ [z])).getLast? = some z := by
      rw [← List.cons_append, ← List.append_assoc, List.getLast?_concat]
    rw [List.concat_eq_append, hlast, Option.getD_some, ← List.cons_append, ← List.append_assoc,
      List.dropLast_concat]
    exact (List.perm_append_singleton z b).symm.append_left a

theorem count_removeFast (o x : ο) (l : List ο) :
    (removeFast o l).count x = l.count x - if x = o then 1 else 0 := by
  by_cases h : o ∈ l
  · rw [(removeFast_perm h).count_eq, List.count_erase]
    simp only [beq_iff_eq, @eq_comm _ x]
  · rw [removeFast_of_not_mem h]
    split
    · rename_i hx
      rw [hx, List.count_eq_zero.2 h]
    · rfl

end

/-! ## What the operations do -/

section
variable {ο κ : Type} {r : Refs ο κ}

@[simp] theorem free_refs : r.free.refs = r.refs := rfl
@[simp] theorem free_notifies : r.free.notifies = r.notifies := rfl
@[simp] theorem free_freed : r.free.freed = true := rfl
@[simp] theorem free_corrupt : r.free.corrupt = r.corrupt := rfl

variable [DecidableEq ο] {o x : ο}

@[simp] theorem ref_refs : (r.ref o).refs x = r.refs x + if x = o then 1 else 0 := by
  unfold ref
  by_cases h : x = o
  · simp [h]
  · simp [h]

@[simp] theorem ref_notifies : (r.ref o).notifies = r.notifies := rfl
@[simp] theorem ref_freed : (r.ref o).freed = r.freed := rfl
@[simp] theorem ref_corrupt : (r.ref o).corrupt = r.corrupt := rfl

variable [DecidableEq κ] {k : κ} {os : List ο}

@[simp] theorem add_refs : (r.add o k).refs = r.refs := rfl
@[simp] theorem add_freed : (r.add o k).freed = r.freed := rfl
@[simp] theorem add_corrupt : (r.add o k).corrupt = r.corrupt := rfl

@[simp] theorem add_notifies :
    (r.add o k).notifies x = r.notifies x ++ if x = o then [k] else [] := by
  unfold add
  by_cases h : x = o
  · simp [h]
  · simp [h]

theorem notify_frame (o : ο) (r : Refs ο κ) (k : κ) :
    (r.notify o k).refs = r.refs ∧ (r.notify o k).notifies = r.notifies ∧
      (r.notify o k).freed = r.freed := by
  unfold notify
  split
  · exact ⟨rfl, rfl, rfl⟩
  · exact ⟨rfl, rfl, rfl⟩

theorem foldl_notify_frame (o : ο) (ks : List κ) (r : Refs ο κ) :
    (ks.foldl (notify o) r).refs = r.refs ∧ (ks.foldl (notify o) r).notifies = r.notifies ∧
      (ks.foldl (notify o) r).freed = r.freed := by
  induction ks generalizing r with
  | nil => exact ⟨rfl, rfl, rfl⟩
  | cons k ks ih =>
    obtain ⟨h1, h2, h3⟩ := notify_frame o r k
    obtain ⟨h1', h2', h3'⟩ := ih (r.notify o k)
    exact ⟨h1'.trans h1, h2'.trans h2, h3'.trans h3⟩

theorem notify_of_not_freed (hfreed : r.freed = false) : r.notify o k =
    { r with arrays := Function.update r.arrays k (removeFast o (r.arrays k)) } := by
  unfold notify
  rw [hfreed]
  rfl

/-- While the arrays are there, every notification takes the object out of one. -/
theorem foldl_notify_arrays (o : ο) (ks : List κ) (hfreed : r.freed = false) (k : κ) (x : ο) :
    ((ks.foldl (notify o) r).arrays k).count x =
      (r.arrays k).count x - (if x = o then ks.count k else 0) := by
  induction ks generalizing r with
  | nil => simp
  | cons k' ks ih =>
    rw [List.foldl_cons, ih ((notify_frame o r k').2.2.trans hfreed), notify_of_not_freed hfreed]
    by_cases hk : k = k'
    · subst hk
      simp only [Function.update_self, count_removeFast, List.count_cons_self]
      split <;> omega
    · simp only [Function.update_of_ne hk, List.count_cons_of_ne (Ne.symm hk)]

theorem foldl_notify_corrupt (o : ο) (ks : List κ) (hfreed : r.freed = false) :
    (ks.foldl (notify o) r).corrupt = r.corrupt := by
  induction ks generalizing r with
  | nil => rfl
  | cons k ks ih =>
    rw [List.foldl_cons, ih ((notify_frame o r k).2.2.trans hfreed), notify_of_not_freed hfreed]

theorem foldl_notify_freed (o : ο) (ks : List κ) (hfreed : r.freed = true) :
    (ks.foldl (notify o) r).corrupt = (r.corrupt || !ks.isEmpty) := by
  induction ks generalizing r with
  | nil => simp
  | cons k ks ih =>
    have hstep : r.notify o k = { r with corrupt := true } := by
      unfold notify
      rw [hfreed]
      rfl
    rw [List.foldl_cons, ih ((notify_frame o r k).2.2.trans hfreed), hstep]
    simp

/-- The object has another reference. -/
theorem unref_of_lt (h : 1 < r.refs o) :
    r.unref o = { r with refs := Function.update r.refs o (r.refs o - 1) } := by
  unfold unref
  simp only [Function.update_self]
  rw [if_neg (by omega)]

/-- The last reference of the object. -/
theorem unref_of_le (h : r.refs o ≤ 1) :
    r.unref o = finalize o { r with refs := Function.update r.refs o (r.refs o - 1) } := by
  unfold unref
  simp only [Function.update_self]
  rw [if_pos (by omega)]

@[simp] theorem unref_refs : (r.unref o).refs x = r.refs x - if x = o then 1 else 0 := by
  have hupdate : Function.update r.refs o (r.refs o - 1) x = r.refs x - if x = o then 1 else 0 := by
    by_cases h : x = o
    · simp [h]
    · simp [h]
  rcases Nat.lt_or_ge 1 (r.refs o) with h | h
  · rw [unref_of_lt h]
    exact hupdate
  · rw [unref_of_le h]
    exact (congrFun (foldl_notify_frame o _ _).1 x).trans hupdate

@[simp] theorem unref_freed : (r.unref o).freed = r.freed := by
  rcases Nat.lt_or_ge 1 (r.refs o) with h | h
  · rw [unref_of_lt h]
  · rw [unref_of_le h]
    exact (foldl_notify_frame o _ _).2.2

/-- The notifications of an object are kept as long as it has a reference. -/
@[simp] theorem unref_notifies :
    (r.unref o).notifies x = if x = o ∧ r.refs o ≤ 1 then [] else r.notifies x := by
  rcases Nat.lt_or_ge 1 (r.refs o) with h | h
  · rw [unref_of_lt h, if_neg fun hx => by omega]
  · rw [unref_of_le h]
    unfold finalize
    simp only [(foldl_notify_frame o _ _).2.1]
    by_cases hx : x = o
    · subst hx
      rw [Function.update_self, if_pos ⟨rfl, h⟩]
    · rw [Function.update_of_ne hx, if_neg fun h => hx h.1]

/-- After the arrays are freed, the last reference of an object that was added must not be dropped. -/
theorem unref_corrupt (hfreed : r.freed = true) : (r.unref o).corrupt =
    (r.corrupt || (decide (r.refs o ≤ 1) && !(r.notifies o).isEmpty)) := by
  rcases Nat.lt_or_ge 1 (r.refs o) with h | h
  · rw [unref_of_lt h, decide_eq_false (by omega), Bool.false_and, Bool.or_false]
  · rw [unref_of_le h, decide_eq_true h, Bool.true_and]
    exact foldl_notify_freed o _ hfreed

/-! ## What the operations keep -/

theorem sound_empty : (empty : Refs ο κ).Sound := ⟨fun _ _ => rfl, fun _ _ _ => rfl, fun _ => rfl⟩

theorem Sound.ref (h : r.Sound) (o : ο) : (r.ref o).Sound where
  gone x hx := by
    rw [ref_refs] at hx
    exact h.gone x (by omega)
  listed := h.listed
  intact := h.intact

/-- A living object is added. -/
theorem Sound.add (h : r.Sound) (halive : r.refs o ≠ 0) (k : κ) : (r.add o k).Sound where
  gone x hx := by
    have hne : x ≠ o := by
      rintro rfl
      exact halive hx
    rw [add_notifies, if_neg hne, List.append_nil]
    exact h.gone x hx
  listed hfreed k' x := by
    have hlisted := h.listed hfreed k' x
    rw [add_notifies]
    show (Function.update r.arrays k (r.arrays k ++ [o]) k').count x = _
    by_cases hk : k' = k
    · subst hk
      rw [Function.update_self, List.count_append, List.count_append, hlisted]
      by_cases hx : x = o
      · simp [hx]
      · simp [hx, Ne.symm hx]
    · rw [Function.update_of_ne hk, List.count_append, hlisted]
      by_cases hx : x = o
      · simp [hx, Ne.symm hk]
      · simp [hx]
  intact := h.intact

theorem Sound.unref (h : r.Sound) (o : ο) : (r.unref o).Sound where
  gone x hx := by
    rw [unref_refs] at hx
    rw [unref_notifies]
    split
    · rfl
    · rename_i hnot
      apply h.gone x
      by_cases hxo : x = o
      · subst hxo
        rw [if_pos rfl] at hx
        by_contra hne
        exact hnot ⟨rfl, by omega⟩
      · rwa [if_neg hxo, Nat.sub_zero] at hx
  listed hfreed k x := by
    rw [unref_freed] at hfreed
    rw [unref_notifies]
    rcases Nat.lt_or_ge 1 (r.refs o) with hlt | hle
    · rw [unref_of_lt hlt, if_neg fun hx => by omega]
      exact h.listed hfreed k x
    · rw [unref_of_le hle]
      have harrays := foldl_notify_arrays (r := { r with
        refs := Function.update r.refs o (r.refs o - 1) }) o (r.notifies o) hfreed k x
      refine harrays.trans ?_
      rw [h.listed hfreed]
      by_cases hx : x = o
      · subst hx
        rw [if_pos rfl, if_pos ⟨rfl, hle⟩, Nat.sub_self, List.count_nil]
      · rw [if_neg hx, if_neg fun h => hx h.1, Nat.sub_zero]
  intact hfreed := by
    rw [unref_freed] at hfreed
    refine Eq.trans ?_ (h.intact hfreed)
    rcases Nat.lt_or_ge 1 (r.refs o) with hlt | hle
    · rw [unref_of_lt hlt]
    · rw [unref_of_le hle]
      exact foldl_notify_corrupt o (r.notifies o) hfreed

theorem Sound.free (h : r.Sound) : r.free.Sound := ⟨h.gone, nofun, nofun⟩

/-! ## Many references are dropped -/

/-- The references that these objects stand for are dropped. -/
def unrefAll (os : List ο) (r : Refs ο κ) : Refs ο κ := os.foldl (fun r o => r.unref o) r

theorem Sound.unrefAll (h : r.Sound) (os : List ο) : (r.unrefAll os).Sound := by
  unfold Refs.unrefAll
  induction os generalizing r with
  | nil => exact h
  | cons o os ih => exact ih (h.unref o)

@[simp] theorem unrefAll_refs : (r.unrefAll os).refs x = r.refs x - os.count x := by
  unfold unrefAll
  induction os generalizing r with
  | nil => simp
  | cons o os ih =>
    rw [List.foldl_cons, ih, unref_refs, List.count_cons]
    simp only [beq_iff_eq, @eq_comm _ x]
    omega

@[simp] theorem unrefAll_freed : (r.unrefAll os).freed = r.freed := by
  unfold unrefAll
  induction os generalizing r with
  | nil => rfl
  | cons o os ih => rw [List.foldl_cons, ih, unref_freed]

/-- The notifications of an object that has another reference are kept. -/
theorem unrefAll_notifies (h : os.count x < r.refs x) :
    (r.unrefAll os).notifies x = r.notifies x := by
  unfold unrefAll
  induction os generalizing r with
  | nil => rfl
  | cons o os ih =>
    rw [List.count_cons] at h
    have hne : ¬ (x = o ∧ r.refs o ≤ 1) := by
      rintro ⟨rfl, hle⟩
      rw [beq_self_eq_true, if_pos rfl] at h
      omega
    rw [List.foldl_cons, ih, unref_notifies, if_neg hne]
    rw [unref_refs]
    simp only [beq_iff_eq, @eq_comm _ o] at h
    omega

end

end Refs

end GUPnP
