import GUPnP.ContextManager.Managed
import GUPnP.ContextManager.Proof.FilterRuns

/-!
# Who owns a managed object

Whatever the application and the implementation of the manager do, an object lives as long as the
application has its reference or the array of its context holds it, and the two arrays that own nothing
list the living objects that were managed (`Counted`). The history that this refers to is in the log
(`Recorded`).
-/

set_option autoImplicit false

namespace GUPnP.ContextManager.Managing

/-! ## The log -/

/-- The signals the application saw. -/
def signals (log : List Happening) : List (Context × Bool) :=
  log.filterMap fun
    | .signal c available => some (c, available)
    | _ => none

/-- The last signal for the context was `context-available`. -/
def Told (log : List Happening) (c : Context) : Prop :=
  (signalsOf c (signals log)).getLast? = some true

instance (log : List Happening) (c : Context) : Decidable (Told log c) :=
  inferInstanceAs (Decidable (_ = _))

/-- What is in the array of a context after this. -/
def handedStep (c : Context) (os : List Object) : Happening → List Object
  | .signal c' available => if c' = c ∧ available = false then [] else os
  | .managed o => if o.context = c then os ++ [o] else os
  | .disposed => []
  | .created _ => os
  | .dropped _ => os

/-- The objects of a context that were handed over since it was last withdrawn. -/
def handed (c : Context) (log : List Happening) : List Object := log.foldl (handedStep c) []

/-- The object was managed, and its owner dropped it after the manager was disposed of. -/
def DroppedLate (o : Object) (log : List Happening) : Prop :=
  List.Sublist [.managed o, .disposed, .dropped o] log

section
variable {s t : State} {c : Context} {o x : Object} {log : List Happening} {h : Happening}

theorem signals_snoc : signals (log ++ [h]) = signals log ++ signals [h] := List.filterMap_append

theorem handed_snoc : handed c (log ++ [h]) = handedStep c (handed c log) h := by
  unfold handed
  rw [List.foldl_append, List.foldl_cons, List.foldl_nil]

/-- Only signals change what the application was told. -/
theorem told_snoc_of_nil (hnil : signals [h] = []) : Told (log ++ [h]) c ↔ Told log c := by
  unfold Told
  rw [signals_snoc, hnil, List.append_nil]

theorem told_snoc_signal {c' : Context} {b : Bool} :
    Told (log ++ [.signal c' b]) c ↔ if c' = c then b = true else Told log c := by
  unfold Told
  rw [signals_snoc, signalsOf_append]
  show (signalsOf c (signals log) ++ signalsOf c [(c', b)]).getLast? = some true ↔ _
  split
  · rename_i hc
    subst hc
    rw [signalsOf_self, List.getLast?_concat, Option.some.injEq]
  · rename_i hc
    rw [signalsOf_ne hc, List.append_nil]

theorem sublist_snoc {l : List Happening} {y : Happening} :
    (l ++ [h]).Sublist (log ++ [y]) ↔ (l ++ [h]).Sublist log ∨ (h = y ∧ l.Sublist log) := by
  rw [← List.reverse_sublist, List.reverse_append, List.reverse_append, List.reverse_singleton,
    List.reverse_singleton, List.singleton_append, List.singleton_append, List.cons_sublist_cons',
    ← List.reverse_concat, List.reverse_sublist, List.reverse_sublist]

theorem droppedLate_snoc : DroppedLate o (log ++ [h]) ↔
    DroppedLate o log ∨ (h = .dropped o ∧ List.Sublist [.managed o, .disposed] log) := by
  unfold DroppedLate
  rw [show [Happening.managed o, .disposed, .dropped o] = [.managed o, .disposed] ++ [.dropped o] from
    rfl, sublist_snoc]
  simp only [eq_comm]

end

/-! ## What the log says of the objects -/

/-- An object that was not created has no references and was not managed, and nothing is managed after
the manager is disposed of. -/
structure Recorded (log : List Happening) (refs : Object → Nat) (disposed : Bool) : Prop where
  uncreated : ∀ o, Happening.created o ∉ log → refs o = 0 ∧ Happening.managed o ∉ log
  undisposed : disposed = false → Happening.disposed ∉ log
  ordered : disposed = true → ∀ o, Happening.managed o ∈ log →
    List.Sublist [.managed o, .disposed] log

section
variable {log : List Happening} {refs refs' : Object → Nat} {disposed : Bool} {o x : Object}
  {h : Happening}

theorem mem_snoc_of_ne {happening : Happening} (hne : happening ≠ h) :
    happening ∈ log ++ [h] ↔ happening ∈ log := by
  rw [List.mem_append, List.mem_singleton, or_iff_left hne]

theorem count_managed_snoc : (log ++ [h]).count (.managed x) =
    log.count (.managed x) + if h = .managed x then 1 else 0 := by
  rw [List.count_append, List.count_singleton]
  simp only [beq_iff_eq]

/-- One more entry, but for the disposal. -/
theorem Recorded.snoc (hr : Recorded log refs disposed) (hdisposed : h ≠ .disposed)
    (hmanaged : ∀ o, h = .managed o → Happening.created o ∈ log ∧ disposed = false)
    (hrefs : ∀ o, refs o = 0 → h ≠ .created o → Happening.created o ∉ log → refs' o = 0) :
    Recorded (log ++ [h]) refs' disposed where
  uncreated o ho := by
    have ho' : Happening.created o ∉ log := fun hm => ho (List.mem_append_left _ hm)
    obtain ⟨hzero, hnot⟩ := hr.uncreated o ho'
    refine ⟨hrefs o hzero (fun he => ?_) ho', fun hm => ?_⟩
    · exact ho (he ▸ List.mem_append_right _ List.mem_cons_self)
    · rcases List.mem_append.1 hm with hm | hm
      · exact hnot hm
      · exact ho' (hmanaged o (List.mem_singleton.1 hm).symm).1
  undisposed hd := by
    rw [mem_snoc_of_ne hdisposed.symm]
    exact hr.undisposed hd
  ordered hd o hm := by
    rcases List.mem_append.1 hm with hm | hm
    · exact (hr.ordered hd o hm).trans (List.sublist_append_left ..)
    · exact absurd (hd.symm.trans (hmanaged o (List.mem_singleton.1 hm).symm).2) nofun

theorem Recorded.dispose (hr : Recorded log refs disposed) :
    Recorded (log ++ [.disposed]) refs true where
  uncreated o ho := by
    rw [mem_snoc_of_ne (by simp)] at ho ⊢
    exact hr.uncreated o ho
  undisposed := nofun
  ordered _ o hm := by
    have hm' : Happening.managed o ∈ log := (mem_snoc_of_ne (by simp)).1 hm
    exact (List.singleton_sublist.2 hm').append (List.Sublist.refl [Happening.disposed])

/-- While the manager is there nothing was dropped late. -/
theorem Recorded.not_late (hr : Recorded log refs false) (o : Object) : ¬ DroppedLate o log :=
  fun hlate => hr.undisposed rfl (hlate.mem (by simp))

end

/-! ## References -/

/-- What holds of the references whatever happens. -/
structure Counted (s : State) : Prop where
  sound : s.refs.Sound
  refs : ∀ o, s.refs.refs o = s.held.count o + (s.objects o.context).count o
  placed : ∀ c, ∀ o ∈ s.objects c, o.context = c
  keys : ∀ c, s.objects c ≠ [] → c ∈ s.manager.contexts
  held : s.held.Nodup
  recorded : Recorded s.log s.refs.refs s.manager.disposed
  notifies : ∀ o, s.refs.refs o ≠ 0 →
    s.refs.notifies o = List.replicate (s.log.count (.managed o)) o.kind
  freed : s.refs.freed = s.manager.disposed
  keysGone : s.manager.disposed = true → s.manager.contexts = []
  corrupt : s.refs.corrupt = true ↔ ∃ o, DroppedLate o s.log

section
variable {s : State} {c : Context} {o x : Object}

theorem counted_init : Counted .init where
  sound := Refs.sound_empty
  refs _ := rfl
  placed _ _ h := by cases h
  keys _ h := absurd rfl h
  held := .nil
  recorded := ⟨fun _ _ => ⟨rfl, nofun⟩, fun _ => nofun, nofun⟩
  notifies _ h := absurd rfl h
  freed := rfl
  keysGone := nofun
  corrupt := ⟨nofun, fun ⟨_, h⟩ => absurd h.length_le (by simp [State.init])⟩

theorem Counted.not_late (h : Counted s) (hd : s.manager.disposed = false) (o : Object) :
    ¬ DroppedLate o s.log := (hd ▸ h.recorded).not_late o

/-- The manager may change, but for a context that has objects. -/
theorem Counted.setManager (h : Counted s) {m : ManagerState}
    (hkeys : ∀ c, s.objects c ≠ [] → c ∈ m.contexts) (hd : s.manager.disposed = false)
    (hd' : m.disposed = false) : Counted { s with manager := m } :=
  { h with
    keys := hkeys
    recorded := by
      have hrecorded := h.recorded
      rw [hd, ← hd'] at hrecorded
      exact hrecorded
    freed := h.freed.trans (hd.trans hd'.symm)
    keysGone := fun hx => absurd (hd'.symm.trans hx) nofun }

theorem Counted.addSignal (h : Counted s) (c : Context) (b : Bool) :
    Counted (s.add (.signal c b)) :=
  { h with
    recorded := h.recorded.snoc (by simp) (by simp) fun _ hzero _ _ => hzero
    notifies := fun o ho => by
      refine (h.notifies o ho).trans ?_
      show _ = List.replicate ((s.log ++ [Happening.signal c b]).count (.managed o)) o.kind
      rw [count_managed_snoc, if_neg (by simp), Nat.add_zero]
    corrupt := by
      refine h.corrupt.trans (exists_congr fun o => ?_)
      show _ ↔ DroppedLate o (s.log ++ [.signal c b])
      rw [droppedLate_snoc, or_iff_left (by simp)] }

theorem objects_releaseObjects {c' : Context} :
    (releaseObjects c s).objects c' = if c' = c then [] else s.objects c' := by
  unfold releaseObjects
  by_cases hc : c' = c
  · simp [hc]
  · simp [hc]

theorem Counted.releaseObjects (h : Counted s) (hd : s.manager.disposed = false) (c : Context) :
    Counted (releaseObjects c s) := by
  have hcount : ∀ o, (s.objects c).count o = if o.context = c then (s.objects c).count o else 0 := by
    intro o
    split
    · rfl
    · rename_i hne
      exact List.count_eq_zero.2 fun hm => hne (h.placed c o hm)
  have hrefs : ∀ o, (s.refs.unrefAll (s.objects c)).refs o =
      s.held.count o + ((Managing.releaseObjects c s).objects o.context).count o := by
    intro o
    rw [Refs.unrefAll_refs, h.refs, objects_releaseObjects, hcount]
    split
    · rename_i hc
      rw [hc, List.count_nil]
      omega
    · omega
  have hfreed : (s.refs.unrefAll (s.objects c)).freed = false := by
    rw [Refs.unrefAll_freed, h.freed, hd]
  exact {
    sound := h.sound.unrefAll _
    refs := hrefs
    placed := by
      intro c' o ho
      rw [objects_releaseObjects] at ho
      split at ho
      · cases ho
      · exact h.placed c' o ho
    keys := by
      intro c' hc'
      rw [objects_releaseObjects] at hc'
      split at hc'
      · exact absurd rfl hc'
      · exact h.keys c' hc'
    held := h.held
    recorded := by
      refine ⟨fun o ho => ⟨?_, (h.recorded.uncreated o ho).2⟩, h.recorded.undisposed,
        h.recorded.ordered⟩
      show (s.refs.unrefAll (s.objects c)).refs o = 0
      rw [Refs.unrefAll_refs, (h.recorded.uncreated o ho).1, Nat.zero_sub]
    notifies := by
      intro o ho
      have hne : (s.refs.unrefAll (s.objects c)).refs o ≠ 0 := ho
      rw [Refs.unrefAll_refs] at hne
      show (s.refs.unrefAll (s.objects c)).notifies o = _
      rw [Refs.unrefAll_notifies (by omega)]
      exact h.notifies o (by omega)
    freed := (Refs.unrefAll_freed).trans h.freed
    keysGone := h.keysGone
    corrupt := by
      refine ⟨fun hx => ?_, fun ⟨o, ho⟩ => absurd ho (h.not_late hd o)⟩
      have hintact := (h.sound.unrefAll (s.objects c)).intact hfreed
      exact absurd (hintact.symm.trans hx) nofun }

/-! ## The application -/

theorem mem_contexts_ensureContext (c : Context) (m : ManagerState) :
    c ∈ (ensureContext c m).contexts ∧ ∀ c' ∈ m.contexts, c' ∈ (ensureContext c m).contexts := by
  unfold ensureContext
  split
  · rename_i hc
    exact ⟨hc, fun _ => id⟩
  · exact ⟨List.mem_append_right _ List.mem_cons_self, fun c' hc' => List.mem_append_left _ hc'⟩

theorem disposed_ensureContext (c : Context) (m : ManagerState) :
    (ensureContext c m).disposed = m.disposed := by
  unfold ensureContext
  split <;> rfl

theorem Counted.create (h : Counted s) (ho : Happening.created o ∉ s.log) :
    Counted ({ s with refs := s.refs.ref o, held := o :: s.held }.add (.created o)) := by
  obtain ⟨hzero, hmanaged⟩ := h.recorded.uncreated o ho
  have hrefs := h.refs o
  have hheld : o ∉ s.held := List.count_eq_zero.1 (by omega)
  exact {
    sound := h.sound.ref o
    refs := by
      intro x
      show (s.refs.ref o).refs x = (o :: s.held).count x + (s.objects x.context).count x
      rw [Refs.ref_refs, h.refs, List.count_cons]
      simp only [beq_iff_eq, @eq_comm _ x]
      omega
    placed := h.placed
    keys := h.keys
    held := List.nodup_cons.2 ⟨hheld, h.held⟩
    recorded := by
      refine h.recorded.snoc (by simp) (by simp) fun x hx hne _ => ?_
      have hxo : x ≠ o := fun he => hne (by rw [he])
      show (s.refs.ref o).refs x = 0
      rw [Refs.ref_refs, hx, if_neg hxo]
    notifies := by
      intro x hx
      have hx' : (s.refs.ref o).refs x ≠ 0 := hx
      show s.refs.notifies x = List.replicate ((s.log ++ [Happening.created o]).count _) _
      rw [count_managed_snoc, if_neg (by simp), Nat.add_zero]
      by_cases hne : x = o
      · subst hne
        rw [h.sound.gone x hzero, List.count_eq_zero.2 hmanaged, List.replicate_zero]
      · rw [Refs.ref_refs, if_neg hne] at hx'
        exact h.notifies x hx'
    freed := h.freed
    keysGone := h.keysGone
    corrupt := by
      refine h.corrupt.trans (exists_congr fun x => ?_)
      show _ ↔ DroppedLate x (s.log ++ [.created o])
      rw [droppedLate_snoc, or_iff_left (by simp)] }

theorem Counted.manage (h : Counted s) (halive : s.refs.refs o ≠ 0)
    (hd : s.manager.disposed = false) : Counted (manage o s) := by
  have hcreated : Happening.created o ∈ s.log := by
    by_contra hnot
    exact halive (h.recorded.uncreated o hnot).1
  have hobjects : ∀ c, (Managing.manage o s).objects c =
      s.objects c ++ if c = o.context then [o] else [] := by
    intro c
    show Function.update s.objects o.context (s.objects o.context ++ [o]) c = _
    by_cases hc : c = o.context
    · simp [hc]
    · simp [hc]
  have hcontexts := mem_contexts_ensureContext o.context s.manager
  have hd' : (Managing.manage o s).manager.disposed = false :=
    (disposed_ensureContext o.context s.manager).trans hd
  have hrefs : (Managing.manage o s).refs = (s.refs.ref o).add o o.kind := rfl
  have hlog : (Managing.manage o s).log = s.log ++ [.managed o] := rfl
  have hfreed : s.refs.freed = false := h.freed.trans hd
  exact {
    sound := (h.sound.ref o).add (by rw [Refs.ref_refs, if_pos rfl]; omega) o.kind
    refs := by
      intro x
      have heq : (s.refs.ref o).refs x = s.held.count x + (s.objects x.context).count x +
          if x = o then 1 else 0 := by rw [Refs.ref_refs, h.refs]
      rw [hrefs, Refs.add_refs, heq, hobjects, List.count_append, Nat.add_assoc]
      congr 2
      by_cases hx : x = o
      · subst hx
        simp
      · rw [if_neg hx]
        split
        · exact (List.count_eq_zero.2 fun hm => hx (List.mem_singleton.1 hm)).symm
        · rfl
    placed := by
      intro c x hx
      rw [hobjects] at hx
      rcases List.mem_append.1 hx with hx | hx
      · exact h.placed c x hx
      · split at hx
        · rename_i hc
          rw [List.mem_singleton.1 hx, hc]
        · cases hx
    keys := by
      intro c hc
      rw [hobjects] at hc
      by_cases hco : c = o.context
      · rw [hco]
        exact hcontexts.1
      · rw [if_neg hco, List.append_nil] at hc
        exact hcontexts.2 c (h.keys c hc)
    held := h.held
    recorded := by
      have hrecorded := h.recorded
      rw [hd, ← hd'] at hrecorded
      rw [hlog, hrefs]
      refine hrecorded.snoc (by simp) (fun x hx => ?_) fun x hx _ hx' => ?_
      · rw [← Happening.managed.inj hx]
        exact ⟨hcreated, hd'⟩
      · have hne : x ≠ o := fun he => hx' (he ▸ hcreated)
        rw [Refs.add_refs, Refs.ref_refs, hx, if_neg hne]
    notifies := by
      intro x hx
      rw [hrefs, Refs.add_refs, Refs.ref_refs] at hx
      rw [hrefs, hlog, count_managed_snoc, Refs.add_notifies, Refs.ref_notifies]
      by_cases hxo : x = o
      · subst hxo
        rw [if_pos rfl, if_pos rfl, h.notifies x halive, List.replicate_succ']
      · rw [if_neg hxo] at hx
        rw [if_neg hxo, if_neg fun he => hxo (Happening.managed.inj he).symm, List.append_nil,
          Nat.add_zero]
        exact h.notifies x hx
    freed := hfreed.trans hd'.symm
    keysGone := fun hx => absurd (hd'.symm.trans hx) nofun
    corrupt := by
      rw [hlog, hrefs, Refs.add_corrupt, Refs.ref_corrupt]
      refine h.corrupt.trans (exists_congr fun x => ?_)
      rw [droppedLate_snoc, or_iff_left (by simp)] }

theorem Counted.drop (h : Counted s) (ho : o ∈ s.held) :
    Counted ({ s with refs := s.refs.unref o, held := s.held.erase o }.add (.dropped o)) := by
  have hone : s.held.count o = 1 := List.count_eq_one_of_mem h.held ho
  exact {
    sound := h.sound.unref o
    refs := by
      intro x
      show (s.refs.unref o).refs x = (s.held.erase o).count x + (s.objects x.context).count x
      rw [Refs.unref_refs, h.refs, List.count_erase]
      simp only [beq_iff_eq, @eq_comm _ o]
      split
      · rename_i hx
        rw [hx, hone]
        omega
      · omega
    placed := h.placed
    keys := h.keys
    held := h.held.erase o
    recorded := by
      refine h.recorded.snoc (by simp) (by simp) fun x hx _ _ => ?_
      show (s.refs.unref o).refs x = 0
      rw [Refs.unref_refs, hx, Nat.zero_sub]
    notifies := by
      intro x hx
      have hx' : (s.refs.unref o).refs x ≠ 0 := hx
      rw [Refs.unref_refs] at hx'
      show (s.refs.unref o).notifies x = List.replicate ((s.log ++ [Happening.dropped o]).count _) _
      have hkeep : ¬ (x = o ∧ s.refs.refs o ≤ 1) := by
        rintro ⟨rfl, hle⟩
        rw [if_pos rfl] at hx'
        omega
      rw [count_managed_snoc, if_neg (by simp), Nat.add_zero, Refs.unref_notifies, if_neg hkeep]
      exact h.notifies x (by omega)
    freed := Refs.unref_freed.trans h.freed
    keysGone := h.keysGone
    corrupt := by
      show (s.refs.unref o).corrupt = true ↔ ∃ x, DroppedLate x (s.log ++ [.dropped o])
      simp only [droppedLate_snoc, exists_or, ← h.corrupt, Happening.dropped.injEq]
      cases hd : s.manager.disposed with
      | false =>
        have hfreed : s.refs.freed = false := h.freed.trans hd
        have hintact := (h.sound.unref o).intact (Refs.unref_freed.trans hfreed)
        refine iff_of_false (fun hx => absurd (hintact.symm.trans hx) nofun) ?_
        rintro (hx | ⟨x, rfl, hx⟩)
        · exact absurd ((h.sound.intact hfreed).symm.trans hx) nofun
        · exact h.recorded.undisposed hd (hx.mem (by simp))
      | true =>
        -- no array holds an object any more, so this is the last reference
        have hnil : s.objects o.context = [] := by
          by_contra hne
          have hmem := h.keys o.context hne
          rw [h.keysGone hd] at hmem
          cases hmem
        have hlast : s.refs.refs o = 1 := by rw [h.refs, hone, hnil, List.count_nil]
        have hmanaged : (s.refs.notifies o).isEmpty = false ↔ Happening.managed o ∈ s.log := by
          rw [h.notifies o (by omega), List.isEmpty_replicate, decide_eq_false_iff_not,
            ← List.count_pos_iff, Nat.pos_iff_ne_zero]
        rw [Refs.unref_corrupt (h.freed.trans hd), hlast, Bool.or_eq_true, decide_eq_true le_rfl,
          Bool.true_and, Bool.not_eq_true', hmanaged]
        refine or_congr_right ⟨fun hm => ⟨o, rfl, h.recorded.ordered hd o hm⟩, ?_⟩
        rintro ⟨x, rfl, hx⟩
        exact hx.mem List.mem_cons_self }

/-- Whatever the application does. -/
theorem Counted.act (h : Counted s) (a : Action) : Counted (act s a) := by
  cases a with
  | create o =>
    simp only [Managing.act]
    split
    · exact h
    · rename_i ho
      exact h.create ho
  | manage o =>
    simp only [Managing.act]
    split
    · exact h
    · rename_i ho
      obtain ⟨halive, hd⟩ := not_or.1 ho
      exact h.manage halive (by simpa using hd)
  | drop o =>
    simp only [Managing.act]
    split
    · rename_i ho
      exact h.drop ho
    · exact h

/-! ## The end of the manager -/

/-- Every array of the table is freed. -/
theorem Counted.releaseAll (h : Counted s) (hd : s.manager.disposed = false) (cs : List Context) :
    let t := cs.foldl (fun s c => Managing.releaseObjects c s) s
    Counted t ∧ t.manager = s.manager ∧ ∀ c, t.objects c = if c ∈ cs then [] else s.objects c := by
  induction cs generalizing s with
  | nil => exact ⟨h, rfl, fun c => (if_neg List.not_mem_nil).symm⟩
  | cons c cs ih =>
    obtain ⟨h1, h2, h3⟩ := ih (h.releaseObjects hd c) hd
    refine ⟨h1, h2, fun c' => ?_⟩
    rw [List.foldl_cons, h3, objects_releaseObjects]
    by_cases hin : c' ∈ cs
    · rw [if_pos hin, if_pos (List.mem_cons_of_mem c hin)]
    · by_cases hc : c' = c
      · rw [if_neg hin, if_pos hc, if_pos (hc ▸ List.mem_cons_self)]
      · rw [if_neg hin, if_neg hc, if_neg (by simp [hc, hin])]

theorem Counted.dispose (h : Counted s) (hd : s.manager.disposed = false) : Counted (dispose s) := by
  obtain ⟨hr, hmanager, hobjects⟩ := h.releaseAll hd s.manager.contexts
  have hnil : ∀ c, (s.manager.contexts.foldl (fun s c => Managing.releaseObjects c s) s).objects c =
      [] := by
    intro c
    rw [hobjects]
    split
    · rfl
    · rename_i hc
      by_contra hne
      exact hc (h.keys c hne)
  unfold Managing.dispose
  generalize s.manager.contexts.foldl (fun s c => Managing.releaseObjects c s) s = r
    at hr hmanager hnil ⊢
  have hd' : r.manager.disposed = false := hmanager ▸ hd
  exact {
    sound := hr.sound.free
    refs := hr.refs
    placed := hr.placed
    keys := fun c hc => absurd (hnil c) hc
    held := hr.held
    recorded := hr.recorded.dispose
    notifies := by
      intro o ho
      refine (hr.notifies o ho).trans ?_
      show _ = List.replicate ((r.log ++ [Happening.disposed]).count (.managed o)) o.kind
      rw [count_managed_snoc, if_neg (by simp), Nat.add_zero]
    freed := rfl
    keysGone := fun _ => rfl
    corrupt := by
      refine hr.corrupt.trans (exists_congr fun o => ?_)
      show _ ↔ DroppedLate o (r.log ++ [.disposed])
      rw [droppedLate_snoc, or_iff_left (by simp)] }

end

end GUPnP.ContextManager.Managing
