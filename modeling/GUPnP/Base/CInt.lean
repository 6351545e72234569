import Mathlib.Algebra.Group.Int.Defs

/-!
# `int` arithmetic

The operators of C on `int`. An overflow is undefined behaviour, which is an error here, as is a string
function on a null pointer. `Gives` says of a computation for which inputs it is defined, and what it then
gives.
-/

set_option autoImplicit false

namespace GUPnP

/-- Undefined behaviour. -/
inductive Undefined where
  | overflow
  | nullString
  deriving DecidableEq, Repr

namespace CInt

/-- The range of `int`. -/
def InRange (x : Int) : Prop := -2 ^ 31 ≤ x ∧ x < 2 ^ 31

instance : DecidablePred InRange := fun x => inferInstanceAs (Decidable (-2 ^ 31 ≤ x ∧ x < 2 ^ 31))

def ofInt (x : Int) : Except Undefined Int := if InRange x then pure x else throw .overflow

def add (x y : Int) : Except Undefined Int := ofInt (x + y)

def sub (x y : Int) : Except Undefined Int := ofInt (x - y)

def mul (x y : Int) : Except Undefined Int := ofInt (x * y)

end CInt

/-! ## Where a computation is defined -/

/-- The computation gives `v` if `P` holds, and otherwise it is undefined. -/
def Gives {α : Type} (m : Except Undefined α) (P : Prop) (v : α) : Prop :=
  (P → m = .ok v) ∧ (¬ P → ∃ u, m = .error u)

namespace Gives

variable {α β : Type} {m m' : Except Undefined α} {P P' Q : Prop} {v v' : α} {w : β}

theorem pure (v : α) : Gives (Pure.pure v) True v := ⟨fun _ => rfl, fun h => absurd trivial h⟩

theorem ofInt (x : Int) : Gives (CInt.ofInt x) (CInt.InRange x) x := by
  constructor
  · intro h
    rw [CInt.ofInt, if_pos h]
    rfl
  · intro h
    rw [CInt.ofInt, if_neg h]
    exact ⟨_, rfl⟩

theorem bind {f : α → Except Undefined β} (h : Gives m P v) (hf : P → Gives (f v) Q w) :
    Gives (m >>= f) (P ∧ Q) w := by
  constructor
  · rintro ⟨hP, hQ⟩
    rw [h.1 hP]
    exact (hf hP).1 hQ
  · intro hnot
    by_cases hP : P
    · rw [h.1 hP]
      exact (hf hP).2 fun hQ => hnot ⟨hP, hQ⟩
    · obtain ⟨u, hu⟩ := h.2 hP
      rw [hu]
      exact ⟨u, rfl⟩

theorem ite {c : Prop} [Decidable c] (h : c → Gives m P v) (h' : ¬ c → Gives m' P' v') :
    Gives (if c then m else m') (if c then P else P') (if c then v else v') := by
  split
  · rename_i hc
    exact h hc
  · rename_i hc
    exact h' hc

theorem congr (h : Gives m P v) (hP : P ↔ P') (hv : P' → v = v') : Gives m P' v' :=
  ⟨fun h' => hv h' ▸ h.1 (hP.2 h'), fun h' => h.2 fun hp => h' (hP.1 hp)⟩

/-- A loop is defined where every step of it is. -/
theorem foldlM {f : β → α → Except Undefined β} {g : β → α → β} {P : α → Prop}
    (h : ∀ acc x, Gives (f acc x) (P x) (g acc x)) (l : List α) (acc : β) :
    Gives (l.foldlM f acc) (∀ x ∈ l, P x) (l.foldl g acc) := by
  induction l generalizing acc with
  | nil => exact (pure acc).congr (by simp) fun _ => rfl
  | cons x l ih =>
    rw [List.foldlM_cons]
    exact ((h acc x).bind fun _ => ih (g acc x)).congr (by simp) fun _ => rfl

theorem eq_ok_iff (h : Gives m P v) : m = .ok v' ↔ P ∧ v' = v := by
  constructor
  · intro hm
    by_cases hP : P
    · rw [h.1 hP] at hm
      exact ⟨hP, (Except.ok.inj hm).symm⟩
    · obtain ⟨u, hu⟩ := h.2 hP
      rw [hu] at hm
      cases hm
  · rintro ⟨hP, rfl⟩
    exact h.1 hP

end Gives

end GUPnP
