/-!
# Properties of the entries of a log

`Each P l`: every entry of the log `l` satisfies `P`, which may speak of what stands before and after
the entry. `each_append` and `each_cons` reduce it to the entries of a log that grows at its end.
-/

set_option autoImplicit false

namespace GUPnP

variable {α : Type} {P Q : List α → α → List α → Prop} {l m : List α} {x : α}

/-- Every entry of the log, with what is before and after it, satisfies `P`. -/
def Each (P : List α → α → List α → Prop) (l : List α) : Prop :=
  ∀ a x b, l = a ++ x :: b → P a x b

theorem each_nil : Each P [] := fun a x b h => absurd h.symm (by simp)

theorem Each.mono (h : Each P l) (hpq : ∀ a x b, P a x b → Q a x b) : Each Q l :=
  fun a x b hl => hpq a x b (h a x b hl)

theorem each_append :
    Each P (l ++ m) ↔ Each (fun a x b => P a x (b ++ m)) l ∧ Each (fun a x b => P (l ++ a) x b) m := by
  constructor
  · intro h
    refine ⟨fun a x b hl => h a x _ ?_, fun a x b hm => h _ x b ?_⟩
    · rw [hl, List.append_assoc, List.cons_append]
    · rw [hm, List.append_assoc]
  · rintro ⟨hl, hm⟩ a x b h
    rcases List.append_eq_append_iff.1 h with ⟨c, rfl, hc⟩ | ⟨c, hc, hb⟩
    · exact hm c x b hc
    · cases c with
      | nil =>
        rw [List.append_nil] at hc
        subst hc
        simpa using hm [] x b hb.symm
      | cons y c =>
        obtain ⟨rfl, rfl⟩ := List.cons.inj hb
        exact hl a x c hc

theorem each_singleton : Each P [x] ↔ P [] x [] := by
  refine ⟨fun h => h [] x [] rfl, fun h a y b hl => ?_⟩
  cases a with
  | nil =>
    obtain ⟨rfl, rfl⟩ := List.cons.inj hl
    exact h
  | cons z a => exact absurd (List.cons.inj hl).2 (by simp)

theorem each_cons : Each P (x :: m) ↔ P [] x m ∧ Each (fun a y b => P (x :: a) y b) m := by
  rw [← List.singleton_append, each_append, each_singleton]
  rfl

/-- Of two entries one stands before the other. -/
theorem before_or_before {y : α} (hx : x ∈ l) (hy : y ∈ l) (hne : x ≠ y) :
    (∃ a b, l = a ++ y :: b ∧ x ∈ a) ∨ ∃ a b, l = a ++ x :: b ∧ y ∈ a := by
  obtain ⟨a, b, rfl⟩ := List.append_of_mem hx
  rcases List.mem_append.1 hy with hy | hy
  · exact .inr ⟨a, b, rfl, hy⟩
  · obtain ⟨c, d, rfl⟩ := List.append_of_mem ((List.mem_cons.1 hy).resolve_left (Ne.symm hne))
    exact .inl ⟨a ++ x :: c, d, by simp, by simp⟩

/-- A log that grows, where `P` survives what comes after an entry. -/
theorem Each.append (h : Each P l) (hp : ∀ a x b, P a x b → P a x (b ++ m))
    (hm : Each (fun a x b => P (l ++ a) x b) m) : Each P (l ++ m) :=
  each_append.2 ⟨h.mono hp, hm⟩

instance decidableEach (P : List α → α → List α → Prop) [∀ a x b, Decidable (P a x b)] :
    (l : List α) → Decidable (Each P l)
  | [] => isTrue each_nil
  | x :: m =>
    have : Decidable (Each (fun a y b => P (x :: a) y b) m) := decidableEach _ m
    decidable_of_iff (P [] x m ∧ Each (fun a y b => P (x :: a) y b) m) each_cons.symm

end GUPnP
