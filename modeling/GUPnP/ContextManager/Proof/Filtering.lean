import GUPnP.ContextManager.Model
import GUPnP.Base.Run
import GUPnP.Base.Signals

/-!
# What the filter keeps back

Two loops over the contexts react to the filter, one to its entries and one to its switch; on
contexts that are not filtered they take the same step, so one lemma about the loop serves both
(`Consistent.rounds`). `Consistent` is what every step of a loop keeps, `Exact` is what a whole
loop establishes: the list holds the known contexts that the filter excludes.
-/

set_option autoImplicit false

namespace GUPnP.ContextManager

/-! ## The filter -/

theorem contextFiltered_iff {f : ContextFilter} {c : Context} : contextFiltered f c = true ↔
    f.enabled = true ∧ f.entries ≠ ∅ ∧ c.interface ∉ f.entries ∧ c.hostIp ∉ f.entries ∧
      c.network ∉ f.entries := by
  simp only [contextFiltered, ContextFilter.isEmpty, ContextFilter.checkContext, Bool.and_eq_true,
    Bool.not_eq_true', decide_eq_false_iff_not, Bool.or_eq_false_iff]
  tauto

theorem contextFiltered_disabled {f : ContextFilter} (h : f.enabled = false) (c : Context) :
    contextFiltered f c = false := by
  simp [contextFiltered, h]

/-- The entries do not switch the filter, and where none is new they change nothing. -/
theorem foldl_addEntryvStep (entries : List Str) (p : ContextFilter × Bool) :
    (entries.foldl ContextFilter.addEntryvStep p).1.enabled = p.1.enabled ∧
      ((entries.foldl ContextFilter.addEntryvStep p).2 = false →
        entries.foldl ContextFilter.addEntryvStep p = p) := by
  induction entries generalizing p with
  | nil => exact ⟨rfl, fun _ => rfl⟩
  | cons entry entries ih =>
    obtain ⟨he, hp⟩ := ih (ContextFilter.addEntryvStep p entry)
    rw [List.foldl_cons]
    by_cases hin : entry ∈ p.1.entries
    · have hstep : ContextFilter.addEntryvStep p entry = p := if_pos hin
      rw [hstep] at he hp ⊢
      exact ⟨he, hp⟩
    · have hstep : ContextFilter.addEntryvStep p entry =
          ({ p.1 with entries := insert entry p.1.entries }, true) := if_neg hin
      rw [hstep] at he hp ⊢
      refine ⟨he, fun h => ?_⟩
      have hback := congrArg Prod.snd (hp h)
      exact absurd (h.symm.trans hback) Bool.false_ne_true

/-- Adding entries changes nothing but the entries, and nothing at all where it does not say so. -/
theorem addEntryv_spec (entries : List Str) (f : ContextFilter) :
    (f.addEntryv entries = (f, [])) ∨
      ((f.addEntryv entries).2 = [.entries] ∧ (f.addEntryv entries).1.enabled = f.enabled) := by
  obtain ⟨he, hf⟩ := foldl_addEntryvStep entries (f, false)
  unfold ContextFilter.addEntryv
  generalize entries.foldl ContextFilter.addEntryvStep (f, false) = q at he hf ⊢
  obtain ⟨g, changed⟩ := q
  cases changed with
  | false =>
    obtain rfl : g = f := congrArg Prod.fst (hf rfl)
    exact .inl rfl
  | true => exact .inr ⟨rfl, he⟩

/-- An operation changes nothing, or it switches the filter, or it changes the entries; it notifies
what it changes. -/
theorem filterOp_cases (f : ContextFilter) (op : FilterOp) :
    (op.apply f = (f, [])) ∨
      ((op.apply f).2 = [.enabled] ∧ (op.apply f).1.enabled = !f.enabled) ∨
      ((op.apply f).2 = [.entries] ∧ (op.apply f).1.enabled = f.enabled) := by
  cases op with
  | setEnabled enable =>
    simp only [FilterOp.apply, ContextFilter.setEnabled]
    split
    · rename_i h
      exact .inr (.inl ⟨rfl, by cases enable <;> simp_all⟩)
    · exact .inl rfl
  | addEntry entry =>
    simp only [FilterOp.apply, ContextFilter.addEntry]
    split
    · exact .inl rfl
    · exact .inr (.inr ⟨rfl, rfl⟩)
  | addEntryv entries => exact (addEntryv_spec entries f).imp_right .inr
  | removeEntry entry =>
    simp only [FilterOp.apply, ContextFilter.removeEntry]
    split
    · exact .inr (.inr ⟨rfl, rfl⟩)
    · exact .inl rfl
  | clear => exact .inr (.inr ⟨rfl, rfl⟩)

/-! ## The invariant -/

/-- What every handler keeps, also in the middle of a loop. -/
structure Consistent (s : ManagerState) : Prop where
  contexts : s.contexts.Nodup
  filtered : s.filtered.Nodup
  known : ∀ c ∈ s.filtered, c ∈ s.contexts
  inactive : ∀ c ∈ s.filtered, s.active c = false
  settled : s.synthesizedInternal = false
  announces : Announces s.log fun c => c ∈ s.contexts ∧ c ∉ s.filtered

/-- The list holds the contexts that the filter excludes. -/
def Exact (s : ManagerState) : Prop :=
  ∀ c, c ∈ s.filtered ↔ c ∈ s.contexts ∧ contextFiltered s.filter c = true

theorem Exact.filtered_nil {s : ManagerState} (h : Exact s) (hf : s.filter.enabled = false) :
    s.filtered = [] := by
  apply List.eq_nil_iff_forall_not_mem.2
  intro c hc
  have hx := ((h c).1 hc).2
  rw [contextFiltered_disabled hf] at hx
  exact absurd hx nofun

theorem Consistent.setFilter {s : ManagerState} (h : Consistent s) (f : ContextFilter) :
    Consistent { s with filter := f } :=
  ⟨h.contexts, h.filtered, h.known, h.inactive, h.settled, h.announces⟩

/-! ## A context is filtered or admitted -/

section
variable {s : ManagerState} {c : Context} {cs : List Context}

theorem filterOut_eq (c : Context) (s : ManagerState) : filterOut c s =
    { s with filtered := c :: s.filtered, synthesizedInternal := false,
             active := fun c' => if c' = c then false else s.active c',
             log := s.log ++ [(c, false)] } := rfl

/-- A context that becomes inactive may join the list. -/
theorem Consistent.inactive_cons (h : Consistent s) (c : Context) :
    ∀ c' ∈ c :: s.filtered, (if c' = c then false else s.active c') = false := by
  intro c' hc'
  split
  · rfl
  · rename_i hne
    exact h.inactive c' (List.mem_of_ne_of_mem hne hc')

theorem Consistent.filterOut (h : Consistent s) (hc : c ∈ s.contexts) (hf : c ∉ s.filtered) :
    Consistent (filterOut c s) := by
  rw [filterOut_eq]
  refine ⟨h.contexts, List.nodup_cons.2 ⟨hf, h.filtered⟩, ?_, ?_, rfl, ?_⟩
  · intro c' hc'
    rcases List.mem_cons.1 hc' with rfl | hc'
    · exact hc
    · exact h.known c' hc'
  · exact h.inactive_cons c
  · refine h.announces.withdraw ⟨hc, hf⟩ fun c' => ?_
    show c' ∈ s.contexts ∧ c' ∉ c :: s.filtered ↔ _
    rw [List.mem_cons, not_or]
    tauto

/-- A context leaves the list and is announced; both the loop over the contexts and the flush of the
list end in such a state. -/
theorem Consistent.release (h : Consistent s) (hf : c ∈ s.filtered) : Consistent
    { s with filtered := s.filtered.erase c, synthesizedInternal := false,
             active := fun c' => if c' = c then true else s.active c',
             log := s.log ++ [(c, true)] } := by
  have hmem : ∀ c', c' ∈ s.filtered.erase c ↔ c' ≠ c ∧ c' ∈ s.filtered :=
    fun _ => h.filtered.mem_erase_iff
  refine ⟨h.contexts, h.filtered.erase c, ?_, ?_, rfl, ?_⟩
  · intro c' hc'
    exact h.known c' ((hmem c').1 hc').2
  · intro c' hc'
    show (if c' = c then true else s.active c') = false
    rw [if_neg ((hmem c').1 hc').1]
    exact h.inactive c' ((hmem c').1 hc').2
  · refine h.announces.announce (fun hp => hp.2 hf) fun c' => ?_
    show c' ∈ s.contexts ∧ c' ∉ s.filtered.erase c ↔ _
    rw [hmem, not_and_or, not_not]
    have hc := h.known c hf
    constructor
    · rintro ⟨h1, rfl | h2⟩
      · exact .inr rfl
      · exact .inl ⟨h1, h2⟩
    · rintro (⟨h1, h2⟩ | rfl)
      · exact ⟨h1, .inr h2⟩
      · exact ⟨hc, .inl rfl⟩

/-- One round of the loop over the contexts: it settles the one context it looks at. -/
theorem Consistent.round (h : Consistent s) (hc : c ∈ s.contexts) :
    Consistent (filterChangeStep s c) ∧ (filterChangeStep s c).filter = s.filter ∧
      (filterChangeStep s c).contexts = s.contexts ∧
      ∀ c', c' ∈ (filterChangeStep s c).filtered ↔
        if c' = c then contextFiltered s.filter c = true else c' ∈ s.filtered := by
  unfold filterChangeStep
  by_cases hx : contextFiltered s.filter c = true
  · rw [if_pos hx]
    by_cases hf : c ∈ s.filtered
    · rw [if_pos hf]
      refine ⟨h, rfl, rfl, fun c' => ?_⟩
      split
      · simp_all
      · rfl
    · rw [if_neg hf]
      refine ⟨h.filterOut hc hf, rfl, rfl, fun c' => ?_⟩
      rw [filterOut_eq, List.mem_cons]
      split <;> simp_all
  · rw [if_neg hx]
    by_cases hf : c ∈ s.filtered
    · rw [if_pos hf]
      refine ⟨h.release hf, rfl, rfl, fun c' => ?_⟩
      show c' ∈ s.filtered.erase c ↔ _
      rw [h.filtered.mem_erase_iff]
      split <;> simp_all
    · rw [if_neg hf]
      refine ⟨h, rfl, rfl, fun c' => ?_⟩
      split
      · simp_all
      · rfl

/-- The loop over the contexts settles those it looks at and leaves the others alone. -/
theorem Consistent.rounds (h : Consistent s) (hcs : ∀ c ∈ cs, c ∈ s.contexts) :
    let t := cs.foldl filterChangeStep s
    Consistent t ∧ t.filter = s.filter ∧ t.contexts = s.contexts ∧
      ∀ c, c ∈ t.filtered ↔
        if c ∈ cs then contextFiltered s.filter c = true else c ∈ s.filtered := by
  induction cs generalizing s with
  | nil => exact ⟨h, rfl, rfl, by simp⟩
  | cons c cs ih =>
    obtain ⟨h1, hfil, hctx, hmem⟩ := h.round (hcs c List.mem_cons_self)
    have hcs' : ∀ c' ∈ cs, c' ∈ (filterChangeStep s c).contexts := fun c' hc' =>
      hctx ▸ hcs c' (List.mem_cons_of_mem _ hc')
    obtain ⟨h2, hfil2, hctx2, hmem2⟩ := ih h1 hcs'
    refine ⟨h2, hfil2.trans hfil, hctx2.trans hctx, fun c' => ?_⟩
    rw [List.foldl_cons, hmem2, hfil, hmem]
    by_cases hc' : c' ∈ cs <;> by_cases hne : c' = c <;> simp [hc', hne]

/-- On a context that is not in the list the two loops take the same step. -/
theorem filterEnabledStep_eq (hf : c ∉ s.filtered) :
    filterEnabledStep s c = filterChangeStep s c := by
  simp only [filterEnabledStep, filterChangeStep, hf, if_false]

theorem Consistent.foldl_filterEnabledStep (h : Consistent s) (hcs : ∀ c ∈ cs, c ∈ s.contexts)
    (hn : cs.Nodup) (hf : ∀ c ∈ cs, c ∉ s.filtered) :
    cs.foldl filterEnabledStep s = cs.foldl filterChangeStep s := by
  induction cs generalizing s with
  | nil => rfl
  | cons c cs ih =>
    obtain ⟨hnot, hn⟩ := List.nodup_cons.1 hn
    obtain ⟨h1, -, hctx, hmem⟩ := h.round (hcs c List.mem_cons_self)
    rw [List.foldl_cons, List.foldl_cons, filterEnabledStep_eq (hf c List.mem_cons_self)]
    apply ih h1
    · intro c' hc'
      exact hctx ▸ hcs c' (List.mem_cons_of_mem _ hc')
    · exact hn
    · intro c' hc'
      have hne : c' ≠ c := fun he => hnot (he ▸ hc')
      rw [hmem, if_neg hne]
      exact hf c' (List.mem_cons_of_mem _ hc')

/-! ## The flush of the list -/

/-- With the filter disabled the class handler passes the emission on. -/
theorem flushStep_eq {rest : List Context} (hs : s.synthesizedInternal = false)
    (hf : s.filter.enabled = false) (hl : s.filtered = c :: rest) (hc : c ∈ s.contexts) :
    flushStep s = { s with filtered := s.filtered.erase c, synthesizedInternal := false,
                           active := fun c' => if c' = c then true else s.active c',
                           log := s.log ++ [(c, true)] } := by
  simp [flushStep, hl, emitAvailable, onContextAvailable, ManagerState.setActive, hs, ensureContext,
    hc, contextFiltered_disabled hf]

theorem Consistent.flush {n : Nat} (h : Consistent s) (hf : s.filter.enabled = false)
    (hn : s.filtered.length = n) :
    let t := Nat.repeat flushStep n s
    Consistent t ∧ t.filter = s.filter ∧ t.contexts = s.contexts ∧ t.filtered = [] := by
  suffices hall : ∀ k ≤ n, let t := Nat.repeat flushStep k s
      Consistent t ∧ t.filter = s.filter ∧ t.contexts = s.contexts ∧ t.filtered.length = n - k by
    obtain ⟨h1, h2, h3, h4⟩ := hall n le_rfl
    exact ⟨h1, h2, h3, List.eq_nil_of_length_eq_zero (by omega)⟩
  intro k hk
  induction k with
  | zero => exact ⟨h, rfl, rfl, hn⟩
  | succ k ih =>
    obtain ⟨h1, h2, h3, h4⟩ := ih (by omega)
    simp only [Nat.repeat]
    generalize Nat.repeat flushStep k s = t at h1 h2 h3 h4 ⊢
    cases hl : t.filtered with
    | nil =>
      rw [hl, List.length_nil] at h4
      omega
    | cons c rest =>
      have hc : c ∈ t.filtered := by simp [hl]
      rw [flushStep_eq h1.settled (h2 ▸ hf) hl (h1.known c hc)]
      refine ⟨h1.release hc, h2, h3, ?_⟩
      show (t.filtered.erase c).length = _
      rw [List.length_erase_of_mem hc]
      omega

end

end GUPnP.ContextManager
