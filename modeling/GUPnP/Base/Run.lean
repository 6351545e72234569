import Mathlib.Data.List.Induction

/-!
# Runs of a partial step function

`Run step ok s es t`: from `s`, the events `es` (oldest first) lead to `t`, and every step met the
condition `ok` in the state before it. An event the state does not enable has no step
(`step s e = none`). A prefix of a run is a run, so a fact proved of the last state of every run
holds in every state a run reaches.
-/

set_option autoImplicit false

namespace GUPnP

section
variable {σ ε : Type} (step : σ → ε → Option σ) (ok : σ → ε → Prop)

inductive Run (s : σ) : List ε → σ → Prop
  | nil : Run s [] s
  | snoc {es : List ε} {t u : σ} {e : ε} :
      Run s es t → ok t e → step t e = some u → Run s (es ++ [e]) u

/-- The condition that excludes no step. -/
def AnyStep : σ → ε → Prop := fun _ _ => True

/-- In every state that a run of these events passes through `P` holds. -/
def Always (P : σ → Prop) (s : σ) (es : List ε) : Prop :=
  ∀ es' t, es' <+: es → Run step AnyStep s es' t → P t

end

namespace Run

variable {σ ε : Type} {step : σ → ε → Option σ} {ok ok' : σ → ε → Prop} {s t u : σ}
  {es es' : List ε} {e : ε}

/-- An invariant kept by every step that meets the condition holds after every run. -/
theorem inv (I : σ → Prop) (hs : ∀ s e t, I s → ok s e → step s e = some t → I t)
    (h : Run step ok s es t) (h0 : I s) : I t := by
  induction h with
  | nil => exact h0
  | snoc _ ho he ih => exact hs _ _ _ ih ho he

/-- A relation between the events so far and the state, extended by every step, holds after every
run. -/
theorem history (R : List ε → σ → Prop)
    (hs : ∀ es s e t, R es s → ok s e → step s e = some t → R (es ++ [e]) t)
    (h : Run step ok s es t) (h0 : R [] s) : R es t := by
  induction h with
  | nil => exact h0
  | snoc _ ho he ih => exact hs _ _ _ _ ih ho he

theorem mono (h : Run step ok s es t) (hok : ∀ s e, ok s e → ok' s e) : Run step ok' s es t := by
  induction h with
  | nil => exact .nil
  | snoc _ ho he ih => exact .snoc ih (hok _ _ ho) he

theorem any (h : Run step ok s es t) : Run step AnyStep s es t :=
  h.mono fun _ _ _ => trivial

theorem trans (h : Run step ok s es t) (h' : Run step ok t es' u) :
    Run step ok s (es ++ es') u := by
  induction h' with
  | nil => simpa using h
  | snoc _ ho he ih =>
    rw [← List.append_assoc]
    exact .snoc ih ho he

theorem single (ho : ok s e) (he : step s e = some t) : Run step ok s [e] t := .snoc .nil ho he

theorem cons (ho : ok s e) (he : step s e = some t) (h : Run step ok t es u) :
    Run step ok s (e :: es) u := (single ho he).trans h

theorem nil_eq (h : Run step ok s [] t) : s = t := by
  generalize hes : ([] : List ε) = es at h
  cases h with
  | nil => rfl
  | snoc => simp at hes

theorem snoc_inv (h : Run step ok s (es ++ [e]) u) :
    ∃ t, Run step ok s es t ∧ ok t e ∧ step t e = some u := by
  generalize hes : es ++ [e] = l at h
  cases h with
  | nil => simp at hes
  | snoc h ho he =>
    obtain ⟨rfl, hee⟩ := List.append_inj' hes rfl
    obtain rfl : e = _ := by simpa using hee
    exact ⟨_, h, ho, he⟩

/-- The events of a run determine where it leads. -/
theorem det (h : Run step ok s es t) (h' : Run step ok' s es u) : t = u := by
  induction h generalizing u with
  | nil => exact h'.nil_eq
  | snoc _ _ he ih =>
    obtain ⟨v, hv, -, he'⟩ := h'.snoc_inv
    obtain rfl := ih hv
    exact Option.some.inj (he.symm.trans he')

/-- Where a step keeps `P` if and only if it meets the condition, `P` always holds in a run if and only
if every step of it meets the condition. -/
theorem always_iff {I P : σ → Prop} (hI : ∀ s e t, I s → step s e = some t → I t)
    (hP : ∀ s e t, I s → P s → step s e = some t → (P t ↔ ok s e)) (hI0 : I s) (hP0 : P s)
    (h : Run step AnyStep s es t) : Always step P s es ↔ Run step ok s es t := by
  induction h with
  | nil =>
    refine ⟨fun _ => .nil, fun _ es' u hes' hu => ?_⟩
    obtain rfl := List.prefix_nil.1 hes'
    obtain rfl := hu.nil_eq
    exact hP0
  | @snoc es t u e h _ he ih =>
    have hIt : I t := h.inv I (fun s e t hs _ hstep => hI s e t hs hstep) hI0
    constructor
    · intro halways
      have hPt : P t := halways es t (List.prefix_append ..) h
      have hPu : P u := halways _ u (List.prefix_refl _) (h.snoc trivial he)
      have hrun := ih.1 fun es' v hes' => halways es' v (hes'.trans (List.prefix_append ..))
      exact hrun.snoc ((hP t e u hIt hPt he).1 hPu) he
    · intro hrun es' v hes' hv
      obtain ⟨t', hrun, hok, -⟩ := hrun.snoc_inv
      obtain rfl := h.det hrun
      have halways := ih.2 hrun
      rcases List.prefix_concat_iff.1 hes' with rfl | hes'
      · obtain rfl := hv.det (h.snoc trivial he)
        exact (hP t e _ hIt (halways es t (List.prefix_refl _) h) he).2 hok
      · exact halways es' v hes' hv

/-- A run splits at any point of its events. -/
theorem split (h : Run step ok s (es ++ es') u) :
    ∃ t, Run step ok s es t ∧ Run step ok t es' u := by
  induction es' using List.reverseRecOn generalizing u with
  | nil => exact ⟨u, by simpa using h, .nil⟩
  | append_singleton es' e ih =>
    rw [← List.append_assoc] at h
    obtain ⟨v, h, ho, he⟩ := h.snoc_inv
    obtain ⟨t, h1, h2⟩ := ih h
    exact ⟨t, h1, h2.snoc ho he⟩

/-- Where steps that meet the condition keep the invariant `G`, which gives `P`, and other steps from
`G` break `P`, `P` always holds in a run if and only if every step of it meets the condition. -/
theorem always_iff_of_inv {G P : σ → Prop} (hG : ∀ s e t, G s → ok s e → step s e = some t → G t)
    (hP : ∀ s, G s → P s) (hnot : ∀ s e t, G s → ¬ ok s e → step s e = some t → ¬ P t) (hG0 : G s)
    (h : Run step AnyStep s es t) : Always step P s es ↔ Run step ok s es t := by
  constructor
  · intro halways
    induction h with
    | nil => exact .nil
    | @snoc es t u e h _ he ih =>
      have hrun := ih fun es' v hes' => halways es' v (hes'.trans (List.prefix_append ..))
      have hPu : P u := halways _ u (List.prefix_refl _) (h.snoc trivial he)
      refine hrun.snoc ?_ he
      by_contra hok
      exact hnot t e u (hrun.inv G hG hG0) hok he hPu
  · rintro hrun es' v ⟨rest, rfl⟩ hv
    obtain ⟨v', hv', -⟩ := hrun.split
    obtain rfl := hv'.any.det hv
    exact hP _ (hv'.inv G hG hG0)

theorem cons_inv (h : Run step ok s (e :: es) u) :
    ∃ t, ok s e ∧ step s e = some t ∧ Run step ok t es u := by
  obtain ⟨t, h1, h2⟩ := split (show Run step ok s ([e] ++ es) u from h)
  obtain ⟨s', h1, ho, he⟩ := snoc_inv (show Run step ok s ([] ++ [e]) t from h1)
  obtain rfl := h1.nil_eq
  exact ⟨t, ho, he, h2⟩

/-- Every event of a run was taken in some state by a step that met the condition. -/
theorem mem_step (h : Run step ok s es t) (he : e ∈ es) :
    ∃ es₁ s₁ t₁, Run step ok s es₁ s₁ ∧ ok s₁ e ∧ step s₁ e = some t₁ := by
  induction h with
  | nil => cases he
  | snoc h ho hs ih =>
    rcases List.mem_append.1 he with he | he
    · exact ih he
    · obtain rfl := List.mem_singleton.1 he
      exact ⟨_, _, _, h, ho, hs⟩

/-- A condition on the events alone may be read off the events. -/
theorem mono_mem {p : ε → Prop} (h : Run step ok s es t) (hp : ∀ e ∈ es, p e) :
    Run step (fun _ e => p e) s es t := by
  induction h with
  | nil => exact .nil
  | snoc _ _ he ih =>
    exact .snoc (ih fun e he => hp e (List.mem_append_left _ he)) (hp _ (by simp)) he

/-- The step function evaluates runs. -/
theorem of_foldlM (h : es.foldlM step s = some t) : Run step AnyStep s es t := by
  induction es generalizing s with
  | nil => cases h; exact .nil
  | cons e es ih =>
    simp only [List.foldlM_cons, Option.bind_eq_bind, Option.bind_eq_some_iff] at h
    obtain ⟨v, he, h⟩ := h
    exact .cons trivial he (ih h)

/-- The step function with its condition evaluates the runs whose steps all meet the condition. -/
theorem of_foldlM_ok [∀ s e, Decidable (ok s e)]
    (h : es.foldlM (fun s e => if ok s e then step s e else none) s = some t) :
    Run step ok s es t := by
  induction es generalizing s with
  | nil => cases h; exact .nil
  | cons e es ih =>
    simp only [List.foldlM_cons, Option.bind_eq_bind, Option.bind_eq_some_iff,
      Option.ite_none_right_eq_some] at h
    obtain ⟨v, ⟨ho, he⟩, h⟩ := h
    exact .cons ho he (ih h)

/-- What such a run ends in. -/
theorem exists_of_foldlM_ok {α : Type} {f : σ → α} {y : α} [∀ s e, Decidable (ok s e)]
    (h : (es.foldlM (fun s e => if ok s e then step s e else none) s).map f = some y) :
    ∃ t, Run step ok s es t ∧ f t = y := by
  obtain ⟨t, ht, hy⟩ := Option.map_eq_some_iff.1 h
  exact ⟨t, of_foldlM_ok ht, hy⟩

/-- What a run that is evaluated ends in. -/
theorem exists_of_foldlM {α : Type} {f : σ → α} {y : α}
    (h : (es.foldlM step s).map f = some y) : ∃ t, Run step AnyStep s es t ∧ f t = y := by
  obtain ⟨t, ht, hy⟩ := Option.map_eq_some_iff.1 h
  exact ⟨t, of_foldlM ht, hy⟩

end Run

end GUPnP
