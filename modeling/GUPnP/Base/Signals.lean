import Mathlib.Data.List.Chain

/-!
# Signals that announce and withdraw

A log of signals is a list of keys, each with `true` where the key is announced and `false` where it
is withdrawn. `Announces log P`: for every key the signals alternate, starting with an announcement,
and the last one is an announcement exactly where `P` holds. The rules say how a log that grows keeps
this: `announce` and `withdraw` for one signal, `announceAll` and `withdrawAll` for a list of keys.
-/

set_option autoImplicit false

namespace GUPnP

/-- The signals alternate, starting with an announcement. -/
def Alternates (l : List Bool) : Prop := l.IsChain (· ≠ ·) ∧ l.head? ≠ some false

instance (l : List Bool) : Decidable (Alternates l) :=
  inferInstanceAs (Decidable (l.IsChain (· ≠ ·) ∧ l.head? ≠ some false))

theorem alternates_nil : Alternates [] := ⟨.nil, nofun⟩

/-- A signal may follow if it announces what is not announced, or withdraws what is. -/
theorem Alternates.snoc {l : List Bool} (h : Alternates l) {b : Bool}
    (hb : l.getLast? = some true ↔ b = false) : Alternates (l ++ [b]) := by
  refine ⟨List.isChain_append.2 ⟨h.1, .singleton b, fun x hx y hy => ?_⟩, ?_⟩
  · obtain rfl : b = y := by simpa using hy
    have hlast : l.getLast? = some x := hx
    rw [hlast] at hb
    cases x <;> cases b <;> simp_all
  · cases l with
    | nil =>
      cases b with
      | true => nofun
      | false => exact absurd (hb.2 rfl) nofun
    | cons x l => exact h.2

variable {κ : Type} [DecidableEq κ]

/-- The signals for one key. -/
def signalsOf (k : κ) (log : List (κ × Bool)) : List Bool :=
  (log.filter fun e => e.1 = k).map Prod.snd

theorem signalsOf_append (k : κ) (log log' : List (κ × Bool)) :
    signalsOf k (log ++ log') = signalsOf k log ++ signalsOf k log' := by
  rw [signalsOf, List.filter_append, List.map_append]
  rfl

theorem signalsOf_self (k : κ) (b : Bool) : signalsOf k [(k, b)] = [b] := by simp [signalsOf]

theorem signalsOf_ne {k k' : κ} (h : k' ≠ k) (b : Bool) : signalsOf k [(k', b)] = [] := by
  simp [signalsOf, h]

/-- For every key the signals alternate, and the last one announces it exactly where `P` holds. -/
structure Announces (log : List (κ × Bool)) (P : κ → Prop) : Prop where
  alternates : ∀ k, Alternates (signalsOf k log)
  last : ∀ k, (signalsOf k log).getLast? = some true ↔ P k

variable {log : List (κ × Bool)} {P Q : κ → Prop} {k : κ} {ks : List κ}

theorem announces_nil : Announces ([] : List (κ × Bool)) fun _ => False :=
  ⟨fun _ => alternates_nil, fun _ => ⟨nofun, False.elim⟩⟩

theorem Announces.congr (h : Announces log P) (hq : ∀ k, Q k ↔ P k) : Announces log Q :=
  ⟨h.alternates, fun k => (h.last k).trans (hq k).symm⟩

/-- One more signal. -/
theorem Announces.snoc (h : Announces log P) {b : Bool} (hb : P k ↔ b = false)
    (hself : Q k ↔ b = true) (hother : ∀ k', k' ≠ k → (Q k' ↔ P k')) :
    Announces (log ++ [(k, b)]) Q := by
  refine ⟨fun k' => ?_, fun k' => ?_⟩
  · rw [signalsOf_append]
    by_cases hk : k = k'
    · subst hk
      rw [signalsOf_self]
      exact (h.alternates k).snoc ((h.last k).trans hb)
    · rw [signalsOf_ne hk, List.append_nil]
      exact h.alternates k'
  · rw [signalsOf_append]
    by_cases hk : k = k'
    · subst hk
      rw [signalsOf_self, List.getLast?_append, hself]
      simp
    · rw [signalsOf_ne hk, List.append_nil, h.last k', hother k' (Ne.symm hk)]

/-- A key that was not announced is announced. -/
theorem Announces.announce (h : Announces log P) (hk : ¬ P k) (hq : ∀ k', Q k' ↔ P k' ∨ k' = k) :
    Announces (log ++ [(k, true)]) Q :=
  h.snoc (by simp [hk]) (by simp [hq]) fun k' hne => by simp [hq, hne]

/-- A key that was announced is withdrawn. -/
theorem Announces.withdraw (h : Announces log P) (hk : P k) (hq : ∀ k', Q k' ↔ P k' ∧ k' ≠ k) :
    Announces (log ++ [(k, false)]) Q :=
  h.snoc (by simp [hk]) (by simp [hq]) fun k' hne => by simp [hq, hne]

/-- Keys that were not announced are announced one by one. -/
theorem Announces.announceAll (h : Announces log P) (hn : ks.Nodup) (hk : ∀ k ∈ ks, ¬ P k)
    (hq : ∀ k', Q k' ↔ P k' ∨ k' ∈ ks) : Announces (log ++ ks.map fun k => (k, true)) Q := by
  induction ks generalizing log P with
  | nil => simpa using h.congr fun k => by simp [hq]
  | cons k ks ih =>
    obtain ⟨hnot, hn⟩ := List.nodup_cons.1 hn
    have hfirst := h.announce (hk k List.mem_cons_self) fun k' => Iff.rfl
    rw [List.map_cons, List.append_cons]
    refine ih hfirst hn (fun k' hk' => ?_) fun k' => ?_
    · rintro (hp | rfl)
      · exact hk k' (List.mem_cons_of_mem _ hk') hp
      · exact hnot hk'
    · rw [hq, List.mem_cons, or_assoc]

/-- Keys that were announced are withdrawn one by one. -/
theorem Announces.withdrawAll (h : Announces log P) (hn : ks.Nodup) (hk : ∀ k ∈ ks, P k)
    (hq : ∀ k', Q k' ↔ P k' ∧ k' ∉ ks) : Announces (log ++ ks.map fun k => (k, false)) Q := by
  induction ks generalizing log P with
  | nil => simpa using h.congr fun k => by simp [hq]
  | cons k ks ih =>
    obtain ⟨hnot, hn⟩ := List.nodup_cons.1 hn
    have hfirst := h.withdraw (hk k List.mem_cons_self) fun k' => Iff.rfl
    rw [List.map_cons, List.append_cons]
    refine ih hfirst hn (fun k' hk' => ?_) fun k' => ?_
    · refine ⟨hk k' (List.mem_cons_of_mem _ hk'), ?_⟩
      rintro rfl
      exact hnot hk'
    · rw [hq, List.mem_cons, not_or, and_assoc]

end GUPnP
