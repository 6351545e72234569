import GUPnP.ContextManager.Proof.Filtering

/-!
# The references of the contexts

The manager owns one reference for a key of its hash table and one for an entry of its list, if every
way into the list takes one and every way out drops one. The handlers of the two signals and `dispose`
do. The handlers of the filter's notifications do neither, so they keep the count exactly where they
leave the list as it is (`balanced_step_iff`).
-/

set_option autoImplicit false

namespace GUPnP.ContextManager

/-- The references to a context without that of the key. -/
def ManagerState.held (s : ManagerState) (c : Context) : Int :=
  s.refs c - if c ∈ s.contexts then 1 else 0

/-- The references are one for the key and one for each entry of the list. -/
def Balanced (s : ManagerState) : Prop :=
  ∀ c, s.refs c = (if c ∈ s.contexts then 1 else 0) + (s.filtered.count c : Int)

/-- What a notification of the filter, which is `filter` by then, does not change: on a switch to on
the filter excludes no known context, on a switch to off the list is empty, and with other entries a
filter that is on excludes the contexts it excluded before. -/
def Leaves (s : ManagerState) (filter : ContextFilter) : FilterProperty → Prop
  | .enabled =>
    if filter.enabled then ∀ c ∈ s.contexts, contextFiltered filter c = false else s.filtered = []
  | .entries =>
    filter.enabled = true → ∀ c ∈ s.contexts, (contextFiltered filter c = true ↔ c ∈ s.filtered)

instance (s : ManagerState) (filter : ContextFilter) (property : FilterProperty) :
    Decidable (Leaves s filter property) :=
  match property with
  | .enabled => inferInstanceAs (Decidable (if filter.enabled then
      ∀ c ∈ s.contexts, contextFiltered filter c = false else s.filtered = []))
  | .entries => inferInstanceAs (Decidable (filter.enabled = true →
      ∀ c ∈ s.contexts, (contextFiltered filter c = true ↔ c ∈ s.filtered)))

/-- A filter operation moves no context into the list of the filtered ones or out of it. -/
def MovesNothing (s : ManagerState) : Event → Prop
  | .filter op => ∀ property ∈ (op.apply s.filter).2, Leaves s (op.apply s.filter).1 property
  | _ => True

instance (s : ManagerState) (e : Event) : Decidable (MovesNothing s e) :=
  match e with
  | .filter op =>
    inferInstanceAs (Decidable (∀ property ∈ (op.apply s.filter).2, Leaves s _ property))
  | .contextAvailable _ => .isTrue trivial
  | .contextUnavailable _ => .isTrue trivial
  | .dispose => .isTrue trivial

section
variable {s t : ManagerState} {c : Context} {cs : List Context}

theorem balanced_iff : Balanced s ↔ ∀ c, s.held c = s.filtered.count c := by
  unfold Balanced ManagerState.held
  refine forall_congr' fun c => ?_
  omega

/-- A step that changes neither the references nor the keys is as good as what it does to the list. -/
theorem Balanced.iff_count (h : Balanced s) (hheld : ∀ c, t.held c = s.held c) :
    Balanced t ↔ ∀ c, t.filtered.count c = s.filtered.count c := by
  rw [balanced_iff] at h ⊢
  refine forall_congr' fun c => ?_
  have hc := h c
  have ht := hheld c
  omega

theorem Balanced.refs_nonneg (h : Balanced s) (c : Context) : 0 ≤ s.refs c := by
  have hc := h c
  split at hc <;> omega

/-! ## The two signals -/

theorem held_ensureContext : (ensureContext c s).held = s.held := by
  funext c'
  unfold ensureContext
  split
  · rfl
  · rename_i hc
    simp only [ManagerState.held, ManagerState.ref, List.mem_append, List.mem_singleton]
    by_cases he : c' = c
    · subst he
      simp [hc]
    · simp [he]

theorem held_removeContext (hn : s.contexts.Nodup) : (removeContext c s).held = s.held := by
  funext c'
  unfold removeContext
  split
  · rename_i hc
    simp only [ManagerState.held, ManagerState.unref, hn.mem_erase_iff]
    by_cases he : c' = c
    · subst he
      simp [hc]
    · simp [he]
  · rfl

theorem held_ref (c' : Context) : (s.ref c).held c' = s.held c' + if c' = c then 1 else 0 := by
  rw [ManagerState.held, ManagerState.held, show (s.ref c).contexts = s.contexts from rfl]
  simp only [ManagerState.ref]
  split <;> omega

theorem held_unref (c' : Context) : (s.unref c).held c' = s.held c' - if c' = c then 1 else 0 := by
  rw [ManagerState.held, ManagerState.held, show (s.unref c).contexts = s.contexts from rfl]
  simp only [ManagerState.unref]
  split <;> omega

theorem ensureContext_filtered : (ensureContext c s).filtered = s.filtered := by
  unfold ensureContext
  split <;> rfl

theorem ensureContext_nodup (hn : s.contexts.Nodup) : (ensureContext c s).contexts.Nodup := by
  unfold ensureContext
  split
  · exact hn
  · rename_i hc
    show (s.contexts ++ [c]).Nodup
    exact List.nodup_append.2 ⟨hn, List.nodup_singleton c, fun x hx y hy he =>
      hc (List.mem_singleton.1 hy ▸ he ▸ hx)⟩

theorem removeContext_filtered : (removeContext c s).filtered = s.filtered := by
  unfold removeContext
  split <;> rfl

theorem removeContext_nodup (hn : s.contexts.Nodup) : (removeContext c s).contexts.Nodup := by
  unfold removeContext
  split
  · exact hn.erase c
  · exact hn

/-- What an emission does, without what the application sees of it. -/
theorem emitAvailable_fst (c : Context) (s : ManagerState) :
    ∃ log, emitAvailable c s = { (onContextAvailable c s).2 with log := log } := by
  unfold emitAvailable
  obtain ⟨stopped, t⟩ := onContextAvailable c s
  cases stopped with
  | true => exact ⟨t.log, rfl⟩
  | false => exact ⟨t.log ++ [(c, true)], rfl⟩

theorem emitUnavailable_fst (c : Context) (s : ManagerState) :
    ∃ log, emitUnavailable c s = { (onContextUnavailable c s).2 with log := log } := by
  unfold emitUnavailable
  obtain ⟨stopped, t⟩ := onContextUnavailable c s
  cases stopped with
  | true => exact ⟨t.log, rfl⟩
  | false => exact ⟨t.log ++ [(c, false)], rfl⟩

/-- A context that comes and is filtered takes a reference for the list. -/
theorem Balanced.emitAvailable (h : Balanced s) (hn : s.contexts.Nodup) :
    Balanced (emitAvailable c s) ∧ (emitAvailable c s).contexts.Nodup := by
  obtain ⟨log, he⟩ := emitAvailable_fst c s
  rw [he]
  show Balanced (onContextAvailable c s).2 ∧ (onContextAvailable c s).2.contexts.Nodup
  unfold onContextAvailable
  split
  · exact ⟨h, hn⟩
  have hb : Balanced (ensureContext c s) :=
    (h.iff_count fun c' => by rw [held_ensureContext]).2 fun c' => by rw [ensureContext_filtered]
  have hn' := ensureContext_nodup (c := c) hn
  dsimp only
  split
  · refine ⟨?_, hn'⟩
    rw [balanced_iff] at hb ⊢
    intro c'
    have hc := hb c'
    have href := held_ref (s := ensureContext c s) (c := c) c'
    show ((ensureContext c s).ref c).held c' = ((c :: (ensureContext c s).filtered).count c' : Int)
    rw [List.count_cons, href, hc]
    by_cases hcc : c' = c
    · simp [hcc]
    · simp [hcc, Ne.symm hcc]
  · exact ⟨hb, hn'⟩

/-- A context that goes while it is filtered drops the reference of the list. -/
theorem Balanced.emitUnavailable (h : Balanced s) (hn : s.contexts.Nodup) :
    Balanced (emitUnavailable c s) ∧ (emitUnavailable c s).contexts.Nodup := by
  obtain ⟨log, he⟩ := emitUnavailable_fst c s
  rw [he]
  show Balanced (onContextUnavailable c s).2 ∧ (onContextUnavailable c s).2.contexts.Nodup
  unfold onContextUnavailable
  split
  · exact ⟨h, hn⟩
  dsimp only
  split
  · rename_i hf
    have hf : c ∈ s.filtered := hf
    refine ⟨?_, removeContext_nodup hn⟩
    rw [balanced_iff] at h ⊢
    intro c'
    dsimp only
    rw [held_removeContext (by exact hn), removeContext_filtered]
    show (s.unref c).held c' = ((s.filtered.erase c).count c' : Int)
    rw [held_unref, h c', List.count_erase]
    have hpos := List.count_pos_iff.2 hf
    by_cases hcc : c' = c
    · subst hcc
      simp only [if_true, beq_self_eq_true]
      omega
    · simp [hcc, Ne.symm hcc]
  · refine ⟨?_, removeContext_nodup hn⟩
    exact (h.iff_count fun c' => by rw [held_removeContext (by exact hn)]; rfl).2 fun c' => by
      rw [removeContext_filtered]
      rfl

/-! ## The loops over the contexts -/

theorem filterChangeStep_frame (s : ManagerState) (c : Context) :
    (filterChangeStep s c).filter = s.filter ∧ (filterChangeStep s c).contexts = s.contexts ∧
      (filterChangeStep s c).refs = s.refs ∧
      (filterChangeStep s c).filtered =
        if contextFiltered s.filter c = true then
          if c ∈ s.filtered then s.filtered else c :: s.filtered
        else s.filtered.erase c := by
  unfold filterChangeStep
  split
  · split
    · exact ⟨rfl, rfl, rfl, rfl⟩
    · exact ⟨rfl, rfl, rfl, rfl⟩
  · split
    · exact ⟨rfl, rfl, rfl, rfl⟩
    · rename_i hf
      exact ⟨rfl, rfl, rfl, (List.erase_of_not_mem hf).symm⟩

/-- The loop takes no references, and puts on the list and takes from it as the entries say. -/
theorem filterChange_frame (hn : cs.Nodup) :
    let t := cs.foldl filterChangeStep s
    t.contexts = s.contexts ∧ t.refs = s.refs ∧
      ∀ c, t.filtered.count c =
        if c ∈ cs then
          if contextFiltered s.filter c = true then max 1 (s.filtered.count c)
          else s.filtered.count c - 1
        else s.filtered.count c := by
  induction cs generalizing s with
  | nil => exact ⟨rfl, rfl, fun c => by simp⟩
  | cons c cs ih =>
    obtain ⟨hnot, hn⟩ := List.nodup_cons.1 hn
    obtain ⟨h1, h2, h3, h4⟩ := filterChangeStep_frame s c
    obtain ⟨h5, h6, h7⟩ := ih (s := filterChangeStep s c) hn
    refine ⟨h5.trans h2, h6.trans h3, fun c' => ?_⟩
    rw [List.foldl_cons, h7, h1, h4]
    by_cases hcc : c' = c
    · subst hcc
      simp only [hnot, if_false, List.mem_cons_self, if_true]
      split
      · split
        · rename_i hf
          have hpos := List.count_pos_iff.2 hf
          omega
        · rename_i hf
          rw [List.count_cons_self, List.count_eq_zero_of_not_mem hf]
          omega
      · rw [List.count_erase_self]
    · have hother : (if contextFiltered s.filter c = true then
            if c ∈ s.filtered then s.filtered else c :: s.filtered
          else s.filtered.erase c).count c' = s.filtered.count c' := by
        split
        · split
          · rfl
          · exact List.count_cons_of_ne (Ne.symm hcc)
        · exact List.count_erase_of_ne hcc
      simp only [List.mem_cons, hcc, false_or, hother]

theorem filterEnabled_frame (hn : cs.Nodup) :
    let t := cs.foldl filterEnabledStep s
    t.contexts = s.contexts ∧ t.refs = s.refs ∧
      ∀ c, t.filtered.count c = s.filtered.count c +
        if c ∈ cs ∧ contextFiltered s.filter c = true then 1 else 0 := by
  induction cs generalizing s with
  | nil => exact ⟨rfl, rfl, fun c => by simp⟩
  | cons c cs ih =>
    obtain ⟨hnot, hn⟩ := List.nodup_cons.1 hn
    have hstep : (filterEnabledStep s c).filter = s.filter ∧
        (filterEnabledStep s c).contexts = s.contexts ∧ (filterEnabledStep s c).refs = s.refs ∧
        (filterEnabledStep s c).filtered =
          if contextFiltered s.filter c = true then c :: s.filtered else s.filtered := by
      unfold filterEnabledStep
      split <;> exact ⟨rfl, rfl, rfl, rfl⟩
    obtain ⟨h1, h2, h3, h4⟩ := hstep
    obtain ⟨h5, h6, h7⟩ := ih (s := filterEnabledStep s c) hn
    refine ⟨h5.trans h2, h6.trans h3, fun c' => ?_⟩
    rw [List.foldl_cons, h7, h1, h4]
    by_cases hcc : c' = c
    · subst hcc
      simp only [hnot, false_and, if_false, List.mem_cons_self, true_and]
      split
      · rw [List.count_cons_self]
      · rfl
    · have hother : (if contextFiltered s.filter c = true then c :: s.filtered
          else s.filtered).count c' = s.filtered.count c' := by
        split
        · exact List.count_cons_of_ne (Ne.symm hcc)
        · rfl
      simp only [List.mem_cons, hcc, false_or, hother]

/-- The flush empties the list and takes references only for keys. -/
theorem flush_frame (hf : s.filter.enabled = false) (hn : s.contexts.Nodup) :
    let t := Nat.repeat flushStep s.filtered.length s
    t.held = s.held ∧ t.filtered = [] ∧ t.contexts.Nodup := by
  suffices hall : ∀ k ≤ s.filtered.length, let t := Nat.repeat flushStep k s
      t.filter = s.filter ∧ t.held = s.held ∧ t.filtered = s.filtered.drop k ∧ t.contexts.Nodup by
    obtain ⟨-, h1, h2, h3⟩ := hall _ le_rfl
    exact ⟨h1, by rw [h2, List.drop_length], h3⟩
  intro k hk
  induction k with
  | zero => exact ⟨rfl, rfl, rfl, hn⟩
  | succ k ih =>
    obtain ⟨h1, h2, h3, h4⟩ := ih (by omega)
    simp only [Nat.repeat]
    generalize Nat.repeat flushStep k s = t at h1 h2 h3 h4 ⊢
    rw [← List.tail_drop, ← h3, ← h1, ← h2]
    unfold flushStep
    cases hl : t.filtered with
    | nil => exact ⟨rfl, rfl, hl, h4⟩
    | cons c rest =>
      obtain ⟨log, he⟩ := emitAvailable_fst c (t.setActive c true)
      have hfil : (ensureContext c (t.setActive c true)).filter = t.filter := by
        unfold ensureContext
        split <;> rfl
      have hpass : (onContextAvailable c (t.setActive c true)).2 =
          if t.synthesizedInternal then t.setActive c true
          else ensureContext c (t.setActive c true) := by
        unfold onContextAvailable
        simp only [hfil, contextFiltered_disabled (h1 ▸ hf), Bool.false_eq_true, if_false]
        split
        · rename_i hs
          rw [if_pos (by exact hs)]
        · rename_i hs
          rw [if_neg (by exact hs)]
      simp only [he, hpass]
      split
      · exact ⟨rfl, rfl, congrArg List.tail hl, h4⟩
      · refine ⟨hfil, ?_, ?_, ensureContext_nodup (by exact h4)⟩
        · exact held_ensureContext
        · show (ensureContext c (t.setActive c true)).filtered.tail = _
          rw [ensureContext_filtered]
          exact congrArg List.tail hl

/-! ## The filter -/

theorem count_eq_nil_iff {l : List Context} : (∀ c, [].count c = l.count c) ↔ l = [] := by
  constructor
  · intro h
    apply List.eq_nil_iff_forall_not_mem.2
    intro c hc
    have hpos := List.count_pos_iff.2 hc
    rw [← h c] at hpos
    exact absurd hpos (by simp)
  · rintro rfl
    exact fun _ => rfl

theorem Balanced.enabled_iff (h : Balanced s) (hn : s.contexts.Nodup) (f : ContextFilter) :
    (Balanced (onContextFilterEnabled { s with filter := f }) ↔
      if f.enabled then ∀ c ∈ s.contexts, contextFiltered f c = false else s.filtered = []) ∧
    (onContextFilterEnabled { s with filter := f }).contexts.Nodup := by
  unfold onContextFilterEnabled
  cases he : f.enabled with
  | false =>
    obtain ⟨h1, h2, h3⟩ := flush_frame (s := { s with filter := f }) he hn
    rw [if_pos (by simp)]
    refine ⟨?_, h3⟩
    rw [h.iff_count fun c => congrFun h1 c, h2, count_eq_nil_iff]
    simp
  | true =>
    rw [if_neg (by simp), if_pos rfl]
    by_cases hempty : f.isEmpty = true
    · rw [if_pos hempty]
      refine ⟨iff_of_true h fun c _ => ?_, hn⟩
      simp [contextFiltered, hempty]
    · rw [if_neg hempty]
      obtain ⟨h1, h2, h3⟩ := filterEnabled_frame (s := { s with filter := f }) hn
      refine ⟨?_, by rw [h1]; exact hn⟩
      rw [h.iff_count fun c => by simp only [ManagerState.held, h1, h2]]
      refine forall_congr' fun c => ?_
      rw [h3 c]
      show _ = s.filtered.count c ↔ _
      by_cases hc : c ∈ s.contexts <;> by_cases hx : contextFiltered f c = true <;> simp [hc, hx]

theorem Balanced.entries_iff (h : Balanced s) (hn : s.contexts.Nodup) (f : ContextFilter) :
    (Balanced (onContextFilterChange { s with filter := f }) ↔
      (f.enabled = true → ∀ c ∈ s.contexts, (contextFiltered f c = true ↔ c ∈ s.filtered))) ∧
    (onContextFilterChange { s with filter := f }).contexts.Nodup := by
  unfold onContextFilterChange
  cases he : f.enabled with
  | false =>
    rw [if_neg (by simp)]
    exact ⟨iff_of_true h nofun, hn⟩
  | true =>
    rw [if_pos rfl]
    obtain ⟨h1, h2, h3⟩ := filterChange_frame (s := { s with filter := f }) hn
    refine ⟨?_, by rw [h1]; exact hn⟩
    rw [h.iff_count fun c => by simp only [ManagerState.held, h1, h2]]
    simp only [true_imp_iff]
    refine forall_congr' fun c => ?_
    rw [h3 c]
    show _ = s.filtered.count c ↔ _
    have hpos := List.count_pos_iff (a := c) (l := s.filtered)
    by_cases hc : c ∈ s.contexts
    · by_cases hx : contextFiltered f c = true
      · simp only [hc, hx, if_true, true_iff, true_imp_iff, ← hpos]
        omega
      · simp only [hc, hx, if_true, true_imp_iff, ← hpos, Bool.false_eq_true, if_false, false_iff]
        omega
    · simp [hc]

/-! ## Disposal -/

theorem foldl_unref (cs : List Context) (c : Context) :
    (cs.foldl (fun s c => s.unref c) s).refs c = s.refs c - cs.count c ∧
      (cs.foldl (fun s c => s.unref c) s).filtered = s.filtered := by
  induction cs generalizing s with
  | nil => exact ⟨by simp, rfl⟩
  | cons c' cs ih =>
    obtain ⟨h1, h2⟩ := ih (s := s.unref c')
    refine ⟨?_, h2⟩
    rw [List.foldl_cons, h1, List.count_cons]
    simp only [ManagerState.unref]
    by_cases hcc : c = c'
    · simp only [hcc, if_true, beq_self_eq_true]
      omega
    · simp [hcc, Ne.symm hcc]

theorem Balanced.dispose (h : Balanced s) (hn : s.contexts.Nodup) : Balanced (dispose s) := by
  intro c
  simp only [ContextManager.dispose, List.not_mem_nil, if_false, List.count_nil]
  rw [(foldl_unref _ c).1, (foldl_unref _ c).1, (foldl_unref s.contexts c).2, h c,
    hn.count]
  split <;> omega

/-! ## Steps and runs -/

/-- From a balanced state a step reaches a balanced one exactly if it moves nothing. -/
theorem balanced_step_iff {e : Event} (h : Balanced s) (hn : s.contexts.Nodup)
    (he : step s e = some t) : (Balanced t ↔ MovesNothing s e) ∧ t.contexts.Nodup := by
  simp only [step, Option.ite_none_left_eq_some] at he
  replace he := he.2
  cases e with
  | contextAvailable c =>
    obtain rfl := Option.some.inj he
    exact ⟨iff_of_true (h.emitAvailable hn).1 trivial, (h.emitAvailable hn).2⟩
  | contextUnavailable c =>
    obtain rfl := Option.some.inj he
    exact ⟨iff_of_true (h.emitUnavailable hn).1 trivial, (h.emitUnavailable hn).2⟩
  | filter op =>
    obtain rfl := Option.some.inj he
    simp only [MovesNothing]
    rcases filterOp_cases s.filter op with hp | ⟨hp, -⟩ | ⟨hp, -⟩
    · rw [hp]
      exact ⟨iff_of_true h nofun, hn⟩
    · rw [hp]
      simpa [notified, Leaves] using h.enabled_iff hn (op.apply s.filter).1
    · rw [hp]
      simpa [notified, Leaves] using h.entries_iff hn (op.apply s.filter).1
  | dispose =>
    obtain rfl := Option.some.inj he
    exact ⟨iff_of_true (h.dispose hn) trivial, .nil⟩

/-- Contexts come and go in any order and the application changes its filter, but in such a way that
no context moves into the list or out of it: then the manager owns a reference for each key and for
each entry of the list, and none that it does not own was dropped. -/
theorem references_balance {es : List Event} (h : Run step MovesNothing .init es s) :
    Balanced s ∧ ∀ c, 0 ≤ s.refs c := by
  have hinv : Balanced s ∧ s.contexts.Nodup := by
    apply h.inv (fun s => Balanced s ∧ s.contexts.Nodup)
    · intro s e t hs ho he
      obtain ⟨hiff, hn⟩ := balanced_step_iff hs.1 hs.2 he
      exact ⟨hiff.2 ho, hn⟩
    · exact ⟨fun _ => rfl, .nil⟩
  exact ⟨hinv.1, hinv.1.refs_nonneg⟩

end

/-- The filter is set up before a context comes that it excludes; the context goes again. -/
theorem references_balance_sample :
    let wlan : Context := ⟨1, "wlan0".toList, "10.0.0.2".toList, "home".toList⟩
    ∃ s, Run step MovesNothing .init [.filter (.addEntry "eth1".toList), .filter (.setEnabled true),
        .contextAvailable wlan] s ∧
      s.filtered = [wlan] ∧ Balanced s ∧ 0 ≤ s.refs wlan := by
  intro wlan
  obtain ⟨s, h, hf⟩ : ∃ s, Run step MovesNothing .init [.filter (.addEntry "eth1".toList),
      .filter (.setEnabled true), .contextAvailable wlan] s ∧ s.filtered = [wlan] :=
    Run.exists_of_foldlM_ok (by decide)
  exact ⟨s, h, hf, (references_balance h).1, (references_balance h).2 wlan⟩

/-- The filter is switched on after the context came, which puts the context on the list without a
reference; when the context goes, the manager drops one more reference than it took. -/
theorem references_unbalanced :
    let wlan : Context := ⟨1, "wlan0".toList, "10.0.0.2".toList, "home".toList⟩
    ∃ s, Run step AnyStep .init [.filter (.addEntry "eth1".toList), .contextAvailable wlan,
        .filter (.setEnabled true), .contextUnavailable wlan] s ∧
      s.refs wlan = -1 ∧ s.contexts = [] ∧ s.filtered = [] ∧ ¬ Balanced s := by
  intro wlan
  obtain ⟨s, h, hs⟩ : ∃ s, Run step AnyStep .init [.filter (.addEntry "eth1".toList),
      .contextAvailable wlan, .filter (.setEnabled true), .contextUnavailable wlan] s ∧
      (s.refs wlan, s.contexts, s.filtered) = (-1, [], []) :=
    Run.exists_of_foldlM (by decide)
  obtain ⟨hr, hc, hf⟩ : s.refs wlan = -1 ∧ s.contexts = [] ∧ s.filtered = [] := by simpa using hs
  refine ⟨s, h, hr, hc, hf, fun hb => ?_⟩
  have hnonneg := hb.refs_nonneg wlan
  omega

end GUPnP.ContextManager
