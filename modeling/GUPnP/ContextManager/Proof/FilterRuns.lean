import GUPnP.ContextManager.Proof.Filtering

/-!
# The filter over whole runs

In a run in which contexts come once and go once they came, with any operations on the filter in
between, the list of the filtered contexts is exact after every step, and the application sees each
context come and go in turn (`filtering_exact`).
-/

set_option autoImplicit false

namespace GUPnP.ContextManager

/-- The implementation of the manager announces contexts it did not announce and withdraws those it
did; the manager is not disposed of. -/
def Lifecycle (s : ManagerState) : Event → Prop
  | .contextAvailable c => c ∉ s.contexts
  | .contextUnavailable c => c ∈ s.contexts
  | .filter _ => True
  | .dispose => False

instance (s : ManagerState) (e : Event) : Decidable (Lifecycle s e) :=
  match e with
  | .contextAvailable c => inferInstanceAs (Decidable (c ∉ s.contexts))
  | .contextUnavailable c => inferInstanceAs (Decidable (c ∈ s.contexts))
  | .filter _ => .isTrue trivial
  | .dispose => .isFalse id

/-- The emissions of the implementation, as signals. -/
def emission : Event → Option (Context × Bool)
  | .contextAvailable c => some (c, true)
  | .contextUnavailable c => some (c, false)
  | .filter _ => none
  | .dispose => none

/-- A context is known if it came and did not go since. -/
def Known (es : List Event) (c : Context) : Prop :=
  (signalsOf c (es.filterMap emission)).getLast? = some true

theorem known_nil (c : Context) : ¬ Known [] c := nofun

theorem known_snoc_of_none {es : List Event} {e : Event} (h : emission e = none) (c : Context) :
    Known (es ++ [e]) c ↔ Known es c := by
  simp [Known, h]

theorem known_snoc {es : List Event} {e : Event} {c : Context} {b : Bool}
    (h : emission e = some (c, b)) (c' : Context) :
    Known (es ++ [e]) c' ↔ if c = c' then b = true else Known es c' := by
  have hlog : (es ++ [e]).filterMap emission = es.filterMap emission ++ [(c, b)] := by simp [h]
  rw [Known, hlog, signalsOf_append]
  split
  · rename_i hc
    subst hc
    rw [signalsOf_self, List.getLast?_append]
    simp
  · rename_i hc
    rw [signalsOf_ne hc, List.append_nil]
    rfl

/-! ## One step -/

/-- Between events the list is exact. -/
structure Filtering (s : ManagerState) : Prop extends Consistent s where
  exact : Exact s

section
variable {s t : ManagerState} {e : Event} {c : Context}

theorem filtering_init : Filtering .init where
  contexts := .nil
  filtered := .nil
  known := nofun
  inactive := nofun
  settled := rfl
  announces := announces_nil.congr fun c => by simp [ManagerState.init]
  exact c := by simp [ManagerState.init]

/-- A context that is new joins the contexts; if it is filtered, it joins the list unseen. -/
theorem emitAvailable_eq (hs : s.synthesizedInternal = false) (hc : c ∉ s.contexts) :
    emitAvailable c s =
      let s := { s with contexts := s.contexts ++ [c],
                        refs := fun c' => if c' = c then s.refs c' + 1 else s.refs c' }
      if contextFiltered s.filter c then
        { s with filtered := c :: s.filtered,
                 active := fun c' => if c' = c then false else s.active c',
                 refs := fun c' => if c' = c then s.refs c' + 1 else s.refs c' }
      else { s with log := s.log ++ [(c, true)] } := by
  simp only [emitAvailable, onContextAvailable, hs, ensureContext, hc, Bool.false_eq_true, if_false,
    ManagerState.ref, ManagerState.setActive]
  by_cases hf : contextFiltered s.filter c = true
  · simp only [hf, if_true]
  · simp only [hf, if_false, Bool.false_eq_true]

/-- A context leaves the contexts; if it was filtered, it leaves the list unseen. -/
theorem emitUnavailable_eq (hs : s.synthesizedInternal = false) :
    emitUnavailable c s =
      let s := { s with active := fun c' => if c' = c then false else s.active c' }
      if c ∈ s.filtered then
        (removeContext c { s.unref c with filtered := s.filtered.erase c })
      else
        let s := removeContext c s
        { s with log := s.log ++ [(c, false)] } := by
  simp only [emitUnavailable, onContextUnavailable, hs, Bool.false_eq_true, if_false,
    ManagerState.setActive, ManagerState.unref]
  by_cases hf : c ∈ s.filtered
  · simp only [hf, if_true]
  · simp only [hf, if_false, Bool.false_eq_true]

theorem Filtering.nodup_append (h : Filtering s) (hc : c ∉ s.contexts) : (s.contexts ++ [c]).Nodup := by
  rw [← List.concat_eq_append]
  exact h.contexts.concat hc

theorem mem_append_singleton_iff {l : List Context} (c c' : Context) :
    c' ∈ l ++ [c] ↔ c' ∈ l ∨ c' = c := by
  rw [List.mem_append, List.mem_singleton]

/-- A new context that the filter excludes. -/
theorem Filtering.excluded (h : Filtering s) (hc : c ∉ s.contexts)
    (hf : contextFiltered s.filter c = true) (refs : Context → Int) : Filtering
    { s with contexts := s.contexts ++ [c], filtered := c :: s.filtered, refs := refs,
             active := fun c' => if c' = c then false else s.active c' } := by
  have hnot : c ∉ s.filtered := fun hmem => hc (h.known c hmem)
  refine { contexts := h.nodup_append hc, filtered := List.nodup_cons.2 ⟨hnot, h.filtered⟩, known := ?_,
           inactive := h.inactive_cons c, settled := h.settled, announces := ?_, exact := ?_ }
  · intro c' hc'
    rw [mem_append_singleton_iff]
    rcases List.mem_cons.1 hc' with rfl | hc'
    · exact .inr rfl
    · exact .inl (h.known c' hc')
  · refine h.announces.congr fun c' => ?_
    show c' ∈ s.contexts ++ [c] ∧ c' ∉ c :: s.filtered ↔ _
    rw [mem_append_singleton_iff, List.mem_cons]
    constructor
    · rintro ⟨h1 | h1, h2⟩
      · exact ⟨h1, fun hf => h2 (.inr hf)⟩
      · exact absurd (.inl h1) h2
    · rintro ⟨h1, h2⟩
      refine ⟨.inl h1, ?_⟩
      rintro (rfl | hf)
      · exact hc h1
      · exact h2 hf
  · intro c'
    show c' ∈ c :: s.filtered ↔ c' ∈ s.contexts ++ [c] ∧ contextFiltered s.filter c' = true
    rw [List.mem_cons, mem_append_singleton_iff, h.exact c']
    constructor
    · rintro (rfl | ⟨h1, h2⟩)
      · exact ⟨.inr rfl, hf⟩
      · exact ⟨.inl h1, h2⟩
    · rintro ⟨h1 | rfl, h2⟩
      · exact .inr ⟨h1, h2⟩
      · exact .inl rfl

/-- A new context that the filter admits. -/
theorem Filtering.admitted (h : Filtering s) (hc : c ∉ s.contexts)
    (hf : ¬ contextFiltered s.filter c = true) (refs : Context → Int) : Filtering
    { s with contexts := s.contexts ++ [c], refs := refs, log := s.log ++ [(c, true)] } := by
  have hnot : c ∉ s.filtered := fun hmem => hc (h.known c hmem)
  refine { contexts := h.nodup_append hc, filtered := h.filtered, known := ?_, inactive := h.inactive,
           settled := h.settled, announces := ?_, exact := ?_ }
  · intro c' hc'
    exact (mem_append_singleton_iff c c').2 (.inl (h.known c' hc'))
  · refine h.announces.announce (fun hp => hc hp.1) fun c' => ?_
    show c' ∈ s.contexts ++ [c] ∧ c' ∉ s.filtered ↔ _
    rw [mem_append_singleton_iff]
    constructor
    · rintro ⟨h1 | h1, h2⟩
      · exact .inl ⟨h1, h2⟩
      · exact .inr h1
    · rintro (⟨h1, h2⟩ | rfl)
      · exact ⟨.inl h1, h2⟩
      · exact ⟨.inr rfl, hnot⟩
  · intro c'
    show c' ∈ s.filtered ↔ c' ∈ s.contexts ++ [c] ∧ contextFiltered s.filter c' = true
    rw [mem_append_singleton_iff, h.exact c']
    constructor
    · exact fun ⟨h1, h2⟩ => ⟨.inl h1, h2⟩
    · rintro ⟨h1 | rfl, h2⟩
      · exact ⟨h1, h2⟩
      · exact absurd h2 hf

theorem Filtering.emitAvailable (h : Filtering s) (hc : c ∉ s.contexts) :
    Filtering (emitAvailable c s) ∧
      ∀ c', c' ∈ (emitAvailable c s).contexts ↔ c' ∈ s.contexts ∨ c' = c := by
  rw [emitAvailable_eq h.settled hc]
  by_cases hf : contextFiltered s.filter c = true
  · rw [if_pos hf]
    exact ⟨h.excluded hc hf _, mem_append_singleton_iff c⟩
  · rw [if_neg hf]
    exact ⟨h.admitted hc hf _, mem_append_singleton_iff c⟩

theorem Consistent.mem_erase_contexts (h : Consistent s) (c c' : Context) :
    c' ∈ s.contexts.erase c ↔ c' ∈ s.contexts ∧ c' ≠ c := by
  rw [h.contexts.mem_erase_iff, and_comm]

/-- A context that the filter excludes goes. -/
theorem Filtering.forgotten (h : Filtering s) (hf : c ∈ s.filtered) (refs : Context → Int) : Filtering
    { s with contexts := s.contexts.erase c, filtered := s.filtered.erase c, refs := refs,
             active := fun c' => if c' = c then false else s.active c' } := by
  have hmem := h.mem_erase_contexts c
  have hmemf : ∀ c', c' ∈ s.filtered.erase c ↔ c' ∈ s.filtered ∧ c' ≠ c := fun c' => by
    rw [h.filtered.mem_erase_iff, and_comm]
  refine { contexts := h.contexts.erase c, filtered := h.filtered.erase c, known := ?_,
           inactive := ?_, settled := h.settled, announces := ?_, exact := ?_ }
  · intro c' hc'
    have hc' := (hmemf c').1 hc'
    exact (hmem c').2 ⟨h.known c' hc'.1, hc'.2⟩
  · intro c' hc'
    exact h.inactive_cons c c' (List.mem_cons_of_mem c ((hmemf c').1 hc').1)
  · refine h.announces.congr fun c' => ?_
    show c' ∈ s.contexts.erase c ∧ c' ∉ s.filtered.erase c ↔ _
    rw [hmem, hmemf]
    constructor
    · exact fun ⟨h1, h2⟩ => ⟨h1.1, fun hf' => h2 ⟨hf', h1.2⟩⟩
    · rintro ⟨h1, h2⟩
      refine ⟨⟨h1, ?_⟩, fun hf' => h2 hf'.1⟩
      rintro rfl
      exact h2 hf
  · intro c'
    show c' ∈ s.filtered.erase c ↔ c' ∈ s.contexts.erase c ∧ contextFiltered s.filter c' = true
    rw [hmemf, hmem, h.exact c']
    tauto

/-- A context that the filter admits goes. -/
theorem Filtering.withdrawn (h : Filtering s) (hc : c ∈ s.contexts) (hf : c ∉ s.filtered)
    (refs : Context → Int) : Filtering
    { s with contexts := s.contexts.erase c, refs := refs, log := s.log ++ [(c, false)],
             active := fun c' => if c' = c then false else s.active c' } := by
  have hmem := h.mem_erase_contexts c
  refine { contexts := h.contexts.erase c, filtered := h.filtered, known := ?_, inactive := ?_,
           settled := h.settled, announces := ?_, exact := ?_ }
  · intro c' hc'
    refine (hmem c').2 ⟨h.known c' hc', ?_⟩
    rintro rfl
    exact hf hc'
  · intro c' hc'
    exact h.inactive_cons c c' (List.mem_cons_of_mem c hc')
  · refine h.announces.withdraw ⟨hc, hf⟩ fun c' => ?_
    show c' ∈ s.contexts.erase c ∧ c' ∉ s.filtered ↔ _
    rw [hmem]
    tauto
  · intro c'
    show c' ∈ s.filtered ↔ c' ∈ s.contexts.erase c ∧ contextFiltered s.filter c' = true
    rw [hmem, h.exact c']
    have hx := h.exact c
    constructor
    · rintro ⟨h1, h2⟩
      refine ⟨⟨h1, ?_⟩, h2⟩
      rintro rfl
      exact hf (hx.2 ⟨h1, h2⟩)
    · exact fun ⟨h1, h2⟩ => ⟨h1.1, h2⟩

theorem Filtering.emitUnavailable (h : Filtering s) (hc : c ∈ s.contexts) :
    Filtering (emitUnavailable c s) ∧
      ∀ c', c' ∈ (emitUnavailable c s).contexts ↔ c' ∈ s.contexts ∧ c' ≠ c := by
  rw [emitUnavailable_eq h.settled]
  by_cases hf : c ∈ s.filtered
  · simp only [hf, if_true, removeContext, ManagerState.unref, hc]
    exact ⟨h.forgotten hf _, h.mem_erase_contexts c⟩
  · simp only [hf, if_false, removeContext, ManagerState.unref, hc, if_true]
    exact ⟨h.withdrawn hc hf _, h.mem_erase_contexts c⟩

/-- The whole loop over the contexts makes the list exact. -/
theorem Consistent.rounds_all (h : Consistent s) :
    Filtering (s.contexts.foldl filterChangeStep s) ∧
      (s.contexts.foldl filterChangeStep s).contexts = s.contexts := by
  have hall : ∀ c ∈ s.contexts, c ∈ s.contexts := fun _ hc => hc
  obtain ⟨h1, hfil, hctx, hmem⟩ := h.rounds hall
  refine ⟨⟨h1, fun c => ?_⟩, hctx⟩
  rw [hmem, hctx, hfil]
  split
  · rename_i hc
    simp [hc]
  · rename_i hc
    have hnot : c ∉ s.filtered := fun hf => hc (h.known c hf)
    simp [hc, hnot]

/-- The filter was switched. -/
theorem Filtering.enabled (h : Filtering s) {f : ContextFilter} (hf : f.enabled = !s.filter.enabled) :
    Filtering (onContextFilterEnabled { s with filter := f }) ∧
      (onContextFilterEnabled { s with filter := f }).contexts = s.contexts := by
  have hc := h.toConsistent.setFilter f
  unfold onContextFilterEnabled
  cases he : f.enabled with
  | false =>
    obtain ⟨h1, h2, h3, h4⟩ := hc.flush he rfl
    rw [if_pos (by simp)]
    refine ⟨⟨h1, fun c => ?_⟩, h3⟩
    rw [h4, h2]
    simp [contextFiltered_disabled he]
  | true =>
    have hnil : s.filtered = [] := h.exact.filtered_nil (by simpa [he] using hf)
    rw [if_neg (by simp)]
    by_cases hempty : f.isEmpty = true
    · rw [if_pos hempty]
      refine ⟨⟨hc, fun c => ?_⟩, rfl⟩
      simp [hnil, contextFiltered, hempty]
    · rw [if_neg hempty, hc.foldl_filterEnabledStep (fun _ h => h) hc.contexts (by simp [hnil])]
      exact hc.rounds_all

/-- The entries of the filter changed. -/
theorem Filtering.entries (h : Filtering s) {f : ContextFilter} (hf : f.enabled = s.filter.enabled) :
    Filtering (onContextFilterChange { s with filter := f }) ∧
      (onContextFilterChange { s with filter := f }).contexts = s.contexts := by
  have hc := h.toConsistent.setFilter f
  unfold onContextFilterChange
  cases he : f.enabled with
  | false =>
    have hnil : s.filtered = [] := h.exact.filtered_nil (hf ▸ he)
    rw [if_neg (by simp)]
    refine ⟨⟨hc, fun c => ?_⟩, rfl⟩
    simp [hnil, contextFiltered_disabled he]
  | true =>
    rw [if_pos (by simp)]
    exact hc.rounds_all

theorem Filtering.filter (h : Filtering s) (op : FilterOp) :
    let p := op.apply s.filter
    Filtering (p.2.foldl notified { s with filter := p.1 }) ∧
      (p.2.foldl notified { s with filter := p.1 }).contexts = s.contexts := by
  intro p
  rcases filterOp_cases s.filter op with he | ⟨he, hf⟩ | ⟨he, hf⟩
  · rw [show p = (s.filter, []) from he]
    exact ⟨h, rfl⟩
  · rw [show p.2 = [.enabled] from he]
    exact h.enabled hf
  · rw [show p.2 = [.entries] from he]
    exact h.entries hf

/-- What the list is after a step, and that the contexts are the known ones. -/
theorem Filtering.step {es : List Event} (h : Filtering s) (hk : ∀ c, c ∈ s.contexts ↔ Known es c)
    (ho : Lifecycle s e) (he : step s e = some t) :
    Filtering t ∧ ∀ c, c ∈ t.contexts ↔ Known (es ++ [e]) c := by
  simp only [ContextManager.step, Option.ite_none_left_eq_some] at he
  replace he := he.2
  cases e with
  | contextAvailable c =>
    obtain rfl := Option.some.inj he
    obtain ⟨h1, hmem⟩ := h.emitAvailable ho
    refine ⟨h1, fun c' => ?_⟩
    rw [hmem, known_snoc rfl, hk]
    by_cases hc : c = c'
    · simp [hc]
    · simp [hc, Ne.symm hc]
  | contextUnavailable c =>
    obtain rfl := Option.some.inj he
    obtain ⟨h1, hmem⟩ := h.emitUnavailable ho
    refine ⟨h1, fun c' => ?_⟩
    rw [hmem, known_snoc rfl, hk]
    by_cases hc : c = c'
    · simp [hc]
    · simp [hc, Ne.symm hc]
  | filter op =>
    obtain rfl := Option.some.inj he
    obtain ⟨h1, hctx⟩ := h.filter op
    refine ⟨h1, fun c => ?_⟩
    rw [known_snoc_of_none rfl, ← hk]
    exact iff_of_eq (congrArg (c ∈ ·) hctx)
  | dispose => exact ho.elim

end

/-! ## Runs -/

/-- A run of the manager: contexts that are not known come, known ones go, and the application changes
its filter. -/
abbrev FilterRun (es : List Event) (s : ManagerState) : Prop := Run step Lifecycle .init es s

theorem filtering_run {es : List Event} {s : ManagerState} (h : FilterRun es s) :
    Filtering s ∧ ∀ c, c ∈ s.contexts ↔ Known es c := by
  apply Run.history (fun es s => Filtering s ∧ ∀ c, c ∈ s.contexts ↔ Known es c) _ h
  · refine ⟨filtering_init, fun c => ?_⟩
    simp [ManagerState.init, known_nil]
  · intro es s e t hs ho he
    exact hs.1.step hs.2 ho he

/-- The list holds, each once, the known contexts that the filter, switched on and not empty, matches
in nothing; these are inactive; and the application sees every context come and go in turn, the last
time come exactly if it is known and not filtered. -/
theorem filtering_exact {es : List Event} {s : ManagerState} (h : FilterRun es s) :
    s.filtered.Nodup ∧
    (∀ c, c ∈ s.filtered ↔ Known es c ∧ s.filter.enabled = true ∧ s.filter.entries ≠ ∅ ∧
      c.interface ∉ s.filter.entries ∧ c.hostIp ∉ s.filter.entries ∧
      c.network ∉ s.filter.entries) ∧
    (∀ c ∈ s.filtered, s.active c = false) ∧
    ∀ c, Alternates (signalsOf c s.log) ∧
      ((signalsOf c s.log).getLast? = some true ↔ Known es c ∧ c ∉ s.filtered) := by
  obtain ⟨hs, hk⟩ := filtering_run h
  refine ⟨hs.filtered, fun c => ?_, hs.inactive, fun c => ⟨hs.announces.alternates c, ?_⟩⟩
  · rw [hs.exact c, contextFiltered_iff, hk]
  · rw [hs.announces.last c, hk]

/-- Two contexts come, the filter is switched on for one of them, and the other is filtered. -/
theorem filtering_exact_sample :
    let eth : Context := ⟨0, "eth0".toList, "192.168.1.2".toList, "192.168.1.0".toList⟩
    let wlan : Context := ⟨1, "wlan0".toList, "10.0.0.2".toList, "home".toList⟩
    ∃ s, FilterRun [.contextAvailable eth, .contextAvailable wlan, .filter (.addEntry "home".toList),
        .filter (.setEnabled true)] s ∧
      eth ∈ s.filtered ∧ s.active eth = false ∧ wlan ∉ s.filtered ∧
      (signalsOf eth s.log).getLast? ≠ some true ∧ (signalsOf wlan s.log).getLast? = some true := by
  intro eth wlan
  obtain ⟨s, h, hf⟩ : ∃ s, FilterRun [.contextAvailable eth, .contextAvailable wlan,
      .filter (.addEntry "home".toList), .filter (.setEnabled true)] s ∧ s.filtered = [eth] :=
    Run.exists_of_foldlM_ok (by decide)
  obtain ⟨-, -, hactive, hlog⟩ := filtering_exact h
  have heth : eth ∈ s.filtered := by simp [hf]
  have hwlan : wlan ∉ s.filtered := by
    rw [hf]
    decide
  refine ⟨s, h, heth, hactive eth heth, hwlan, fun hl => ((hlog eth).2.1 hl).2 heth, ?_⟩
  exact (hlog wlan).2.2 ⟨by unfold Known; decide, hwlan⟩

end GUPnP.ContextManager
