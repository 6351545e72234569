import GUPnP.ContextManager.Proof.Owners

/-!
# The objects of a context

The handlers of the filter do three things to the objects (`Micro`), and the invariants are proved for
these three. Where contexts come and go in order and the application hands over objects of contexts it
was told of, the manager goes through the states of `ContextManager.step` and the array of a context
holds the objects that were handed over since the context was last withdrawn (`Kept`, `managed_exact`).
-/

set_option autoImplicit false

namespace GUPnP.ContextManager.Managing

/-! ## Nothing is emitted -/

/-- The manager goes from `m` to `m'` without an emission, and no context leaves the table. -/
structure Quiet (m m' : ManagerState) : Prop where
  contexts : ∀ c ∈ m.contexts, c ∈ m'.contexts
  disposed : m'.disposed = m.disposed
  log : m'.log = m.log

theorem Quiet.refl (m : ManagerState) : Quiet m m := ⟨fun _ => id, rfl, rfl⟩

theorem Quiet.trans {m m' m'' : ManagerState} (h : Quiet m m') (h' : Quiet m' m'') : Quiet m m'' where
  contexts c hc := h'.contexts c (h.contexts c hc)
  disposed := h'.disposed.trans h.disposed
  log := h'.log.trans h.log

theorem quiet_ensureContext (c : Context) (m : ManagerState) : Quiet m (ensureContext c m) ∧
    (ensureContext c m).synthesizedInternal = m.synthesizedInternal := by
  refine ⟨⟨(mem_contexts_ensureContext c m).2, disposed_ensureContext c m, ?_⟩, ?_⟩
  all_goals
    unfold ensureContext
    split <;> rfl

theorem quiet_act (s : State) (a : Action) : Quiet s.manager (act s a).manager ∧
    (act s a).manager.synthesizedInternal = s.manager.synthesizedInternal := by
  cases a with
  | create o =>
    simp only [act]
    split <;> exact ⟨.refl s.manager, rfl⟩
  | manage o =>
    simp only [act]
    split
    · exact ⟨.refl s.manager, rfl⟩
    · exact quiet_ensureContext o.context s.manager
  | drop o =>
    simp only [act]
    split <;> exact ⟨.refl s.manager, rfl⟩

/-! ## What the handlers do -/

/-- The state between two events, and between two rounds of a loop. -/
structure Settled (s : State) : Prop extends Counted s where
  alive : s.manager.disposed = false
  settled : s.manager.synthesizedInternal = false

/-- The end of an emission. -/
def settle (s : State) : State :=
  { s with manager := { s.manager with synthesizedInternal := false } }

/-- What a handler of the manager does: nothing to the objects, or it announces a context to the
application, or it frees the objects of a context and withdraws it. -/
inductive Micro (app : Application) (s : State) : State → Prop
  | quiet {m : ManagerState} (h : Quiet s.manager m) (hsettled : m.synthesizedInternal = false) :
      Micro app s { s with manager := m }
  | announce {m : ManagerState} (c : Context) (h : Quiet s.manager m) (hc : c ∈ m.contexts) :
      Micro app s (settle (signal app c true { s with manager := m }))
  | withdraw {m : ManagerState} (c : Context) (h : Quiet s.manager m) :
      Micro app s (settle (signal app c false { releaseObjects c s with manager := m }))

section
variable {app : Application} {s t u : State} {c : Context} {b : Bool} {m m' : ManagerState}

theorem quiet_foldl_act (actions : List Action) (s : State) :
    Quiet s.manager (actions.foldl act s).manager ∧
      (actions.foldl act s).manager.synthesizedInternal = s.manager.synthesizedInternal := by
  induction actions generalizing s with
  | nil => exact ⟨.refl s.manager, rfl⟩
  | cons a actions ih =>
    obtain ⟨hq, hs⟩ := ih (act s a)
    exact ⟨(quiet_act s a).1.trans hq, hs.trans (quiet_act s a).2⟩

theorem Counted.foldl_act (h : Counted s) (actions : List Action) :
    Counted (actions.foldl Managing.act s) := by
  induction actions generalizing s with
  | nil => exact h
  | cons a actions ih => exact ih (h.act a)

theorem signal_frame (app : Application) (c : Context) (b : Bool) (s : State) :
    (signal app c b s).manager.disposed = s.manager.disposed ∧
      (signal app c b s).manager.synthesizedInternal = s.manager.synthesizedInternal ∧
      ∀ c' ∈ s.manager.contexts, c' ∈ (signal app c b s).manager.contexts := by
  obtain ⟨hq, hs⟩ := quiet_foldl_act (app _ c b) _
  exact ⟨hq.disposed, hs, hq.contexts⟩

theorem Counted.signal (h : Counted s) (hd : s.manager.disposed = false) (app : Application)
    (c : Context) (b : Bool) : Counted (signal app c b s) := by
  have hm : Counted { s with manager := { s.manager with log := s.manager.log ++ [(c, b)] } } :=
    h.setManager h.keys hd hd
  exact (hm.addSignal c b).foldl_act _

/-- The end of an emission, for a state that may have lost the objects of a context. -/
theorem Counted.settled_signal (h : Counted s) (hd : s.manager.disposed = false)
    (hkeys : ∀ c, s.objects c ≠ [] → c ∈ m.contexts) (hm : m.disposed = s.manager.disposed)
    (app : Application) (c : Context) (b : Bool) :
    Settled (settle (Managing.signal app c b { s with manager := m })) := by
  have hd' := hm.trans hd
  have hs := (h.setManager hkeys hd hd').signal hd' app c b
  have halive := (signal_frame app c b { s with manager := m }).1.trans hd'
  exact ⟨hs.setManager hs.keys halive halive, halive, rfl⟩

theorem Settled.micro (h : Settled s) (hm : Micro app s t) : Settled t := by
  cases hm with
  | quiet hq hsettled =>
    have hd := hq.disposed.trans h.alive
    exact ⟨h.toCounted.setManager (fun c hc => hq.contexts c (h.keys c hc)) h.alive hd, hd, hsettled⟩
  | announce c hq hc =>
    exact h.toCounted.settled_signal h.alive (fun c hc => hq.contexts c (h.keys c hc)) hq.disposed
      app c true
  | withdraw c hq =>
    have hr : Counted (releaseObjects c s) := h.toCounted.releaseObjects h.alive c
    exact hr.settled_signal h.alive (fun c hc => hq.contexts c (hr.keys c hc)) hq.disposed app c false

theorem Micro.contexts (hm : Micro app s t) : ∀ c ∈ s.manager.contexts, c ∈ t.manager.contexts := by
  cases hm with
  | quiet hq _ => exact hq.contexts
  | announce c hq _ => exact fun c' hc' => (signal_frame app c true _).2.2 c' (hq.contexts c' hc')
  | withdraw c hq => exact fun c' hc' => (signal_frame app c false _).2.2 c' (hq.contexts c' hc')

end

/-! ## What the application was told -/

/-- The application's handlers hand over objects of contexts that it was told of. -/
def Proper (app : Application) : Prop :=
  ∀ s c b, (signalsOf c (signals s.log)).getLast? = some b →
    ∀ o, Action.manage o ∈ app s c b → Told s.log o.context

/-- The array of a context holds what was handed over since the context was last withdrawn. -/
structure Kept (s : State) : Prop where
  objects : ∀ c, s.objects c = handed c s.log
  told : ∀ c, Told s.log c → c ∈ s.manager.contexts
  untold : ∀ c, ¬ Told s.log c → handed c s.log = []
  signals : signals s.log = s.manager.log

section
variable {app : Application} {s t u : State} {c : Context} {b : Bool} {m m' : ManagerState}
  {o : Object}

theorem kept_init : Kept .init where
  objects _ := rfl
  told _ h := nomatch h
  untold _ _ := rfl
  signals := rfl

/-- What is in the log besides signals and what is managed leaves the arrays alone. -/
theorem Kept.add (h : Kept s) {happening : Happening} (hsignals : Managing.signals [happening] = [])
    (hstep : ∀ c os, handedStep c os happening = os) : Kept (s.add happening) where
  objects c := by
    show s.objects c = handed c (s.log ++ [happening])
    rw [handed_snoc, hstep]
    exact h.objects c
  told c hc := h.told c ((told_snoc_of_nil hsignals).1 hc)
  untold c hc := by
    show handed c (s.log ++ [happening]) = []
    rw [handed_snoc, hstep]
    exact h.untold c fun ht => hc ((told_snoc_of_nil hsignals).2 ht)
  signals := by
    show Managing.signals (s.log ++ [happening]) = _
    rw [signals_snoc, hsignals, List.append_nil]
    exact h.signals

theorem Kept.refs (h : Kept s) (r : Refs Object Kind) (held : List Object) :
    Kept { s with refs := r, held := held } := ⟨h.objects, h.told, h.untold, h.signals⟩

/-- An object of a context the application was told of. -/
theorem Kept.manage (h : Kept s) (ho : Told s.log o.context) :
    Kept (manage o s) ∧ (manage o s).manager = s.manager := by
  have hm : (Managing.manage o s).manager = s.manager := by
    show ensureContext o.context s.manager = s.manager
    unfold ensureContext
    rw [if_pos (h.told _ ho)]
  have hlog : (Managing.manage o s).log = s.log ++ [.managed o] := rfl
  have htold : ∀ c, Told (s.log ++ [.managed o]) c ↔ Told s.log c := fun c => told_snoc_of_nil rfl
  refine ⟨⟨fun c => ?_, fun c hc => ?_, fun c hc => ?_, ?_⟩, hm⟩
  · rw [hlog, handed_snoc, ← h.objects]
    show Function.update s.objects o.context (s.objects o.context ++ [o]) c =
      if o.context = c then s.objects c ++ [o] else s.objects c
    split
    · rename_i hc
      subst hc
      rw [Function.update_self]
    · rename_i hc
      rw [Function.update_of_ne (Ne.symm hc)]
  · rw [hm]
    exact h.told c ((htold c).1 hc)
  · rw [hlog] at hc ⊢
    have hc' : ¬ Told s.log c := fun ht => hc ((htold c).2 ht)
    rw [handed_snoc, h.untold c hc']
    show (if o.context = c then [] ++ [o] else []) = []
    rw [if_neg]
    rintro rfl
    exact hc' ho
  · rw [hm, hlog, signals_snoc]
    exact (List.append_nil _).trans h.signals

theorem Kept.act (h : Kept s) {a : Action} (ha : ∀ o, a = .manage o → Told s.log o.context) :
    Kept (act s a) ∧ (act s a).manager = s.manager ∧ ∀ c, Told (act s a).log c ↔ Told s.log c := by
  cases a with
  | create o =>
    simp only [Managing.act]
    split
    · exact ⟨h, rfl, fun _ => Iff.rfl⟩
    · exact ⟨(h.refs _ _).add rfl fun _ _ => rfl, rfl, fun _ => told_snoc_of_nil rfl⟩
  | manage o =>
    simp only [Managing.act]
    split
    · exact ⟨h, rfl, fun _ => Iff.rfl⟩
    · obtain ⟨hk, hm⟩ := h.manage (ha o rfl)
      exact ⟨hk, hm, fun _ => told_snoc_of_nil rfl⟩
  | drop o =>
    simp only [Managing.act]
    split
    · exact ⟨(h.refs _ _).add rfl fun _ _ => rfl, rfl, fun _ => told_snoc_of_nil rfl⟩
    · exact ⟨h, rfl, fun _ => Iff.rfl⟩

theorem Kept.foldl_act (h : Kept s) {actions : List Action}
    (ha : ∀ o, Action.manage o ∈ actions → Told s.log o.context) :
    Kept (actions.foldl Managing.act s) ∧ (actions.foldl Managing.act s).manager = s.manager := by
  induction actions generalizing s with
  | nil => exact ⟨h, rfl⟩
  | cons a actions ih =>
    obtain ⟨hk, hm, htold⟩ := h.act (a := a) fun o hao => ha o (hao ▸ List.mem_cons_self)
    obtain ⟨hk', hm'⟩ := ih hk fun o ho => (htold o.context).2 (ha o (List.mem_cons_of_mem a ho))
    exact ⟨hk', hm'.trans hm⟩

/-- A signal after which the array of its context is as the log has it. -/
theorem Kept.signal (happ : Proper app) (h : Kept s)
    (hcontexts : ∀ c' ∈ s.manager.contexts, c' ≠ c → c' ∈ m.contexts) (hlog : m.log = s.manager.log)
    {objects : Context → List Object} (refs : Refs Object Kind)
    (hobjects : ∀ c', objects c' = handedStep c' (s.objects c') (.signal c b))
    (hc : b = true → c ∈ m.contexts) :
    Kept (signal app c b { s with manager := m, objects := objects, refs := refs }) ∧
      (signal app c b { s with manager := m, objects := objects, refs := refs }).manager =
        { m with log := m.log ++ [(c, b)] } := by
  let marked : State := { s with
    manager := { m with log := m.log ++ [(c, b)] }, objects := objects, refs := refs
    log := s.log ++ [.signal c b] }
  have hk : Kept marked := by
    refine ⟨fun c' => ?_, fun c' hc' => ?_, fun c' hc' => ?_, ?_⟩
    · show objects c' = handed c' (s.log ++ [.signal c b])
      rw [handed_snoc, hobjects, h.objects]
    · have hc' : Told (s.log ++ [.signal c b]) c' := hc'
      rw [told_snoc_signal] at hc'
      split at hc'
      · rename_i heq
        exact heq ▸ hc hc'
      · rename_i hne
        exact hcontexts c' (h.told c' hc') (Ne.symm hne)
    · have hc' : ¬ Told (s.log ++ [.signal c b]) c' := hc'
      show handed c' (s.log ++ [.signal c b]) = []
      rw [told_snoc_signal] at hc'
      rw [handed_snoc]
      show (if c = c' ∧ b = false then [] else handed c' s.log) = []
      split at hc'
      · rename_i heq
        rw [if_pos ⟨heq, by simpa using hc'⟩]
      · rename_i heq
        rw [if_neg fun hx => heq hx.1]
        exact h.untold c' hc'
    · show Managing.signals (s.log ++ [.signal c b]) = m.log ++ [(c, b)]
      rw [signals_snoc, h.signals, hlog]
      rfl
  have hlast : (signalsOf c (Managing.signals marked.log)).getLast? = some b := by
    show (signalsOf c (Managing.signals (s.log ++ [.signal c b]))).getLast? = some b
    rw [signals_snoc, signalsOf_append]
    show (_ ++ signalsOf c [(c, b)]).getLast? = some b
    rw [signalsOf_self, List.getLast?_concat]
  exact hk.foldl_act (happ marked c b hlast)

theorem Kept.setManager (h : Kept s) (hcontexts : ∀ c ∈ s.manager.contexts, c ∈ m.contexts)
    (hlog : m.log = s.manager.log) : Kept { s with manager := m } :=
  ⟨h.objects, fun c hc => hcontexts c (h.told c hc), h.untold, h.signals.trans hlog.symm⟩

/-- An announcement, and where it leaves the manager. -/
theorem Kept.announce (happ : Proper app) (h : Kept s) (hq : Quiet s.manager m) (hc : c ∈ m.contexts) :
    Kept (settle (Managing.signal app c true { s with manager := m })) ∧
      (settle (Managing.signal app c true { s with manager := m })).manager =
        { m with log := m.log ++ [(c, true)], synthesizedInternal := false } := by
  have hobjects : ∀ c', s.objects c' = handedStep c' (s.objects c') (.signal c true) :=
    fun c' => (if_neg (by simp)).symm
  obtain ⟨hk, hm⟩ := h.signal happ (fun c' hc' _ => hq.contexts c' hc') hq.log s.refs hobjects
    fun _ => hc
  have hmanager : (settle (Managing.signal app c true { s with manager := m })).manager =
      { m with log := m.log ++ [(c, true)], synthesizedInternal := false } := by
    unfold settle
    rw [hm]
  exact ⟨hk.setManager (fun _ => id) rfl, hmanager⟩

/-- A withdrawal, and where it leaves the manager. -/
theorem Kept.withdraw (happ : Proper app) (h : Kept s) (hq : Quiet s.manager m) :
    Kept (settle (Managing.signal app c false { releaseObjects c s with manager := m })) ∧
      (settle (Managing.signal app c false { releaseObjects c s with manager := m })).manager =
        { m with log := m.log ++ [(c, false)], synthesizedInternal := false } := by
  have hobjects : ∀ c', (releaseObjects c s).objects c' =
      handedStep c' (s.objects c') (.signal c false) := by
    intro c'
    rw [objects_releaseObjects]
    show _ = if c = c' ∧ false = false then [] else s.objects c'
    simp only [and_true, @eq_comm _ c]
  obtain ⟨hk, hm⟩ := h.signal happ (fun c' hc' _ => hq.contexts c' hc') hq.log
    (releaseObjects c s).refs hobjects nofun
  have hmanager :
      (settle (Managing.signal app c false { releaseObjects c s with manager := m })).manager =
        { m with log := m.log ++ [(c, false)], synthesizedInternal := false } := by
    unfold settle
    exact congrArg (fun m : ManagerState => { m with synthesizedInternal := false }) hm
  exact ⟨hk.setManager (fun _ => id) rfl, hmanager⟩

theorem Kept.micro (happ : Proper app) (h : Kept s) (hm : Micro app s t) : Kept t := by
  cases hm with
  | quiet hq _ => exact h.setManager hq.contexts hq.log
  | announce c hq hc => exact (h.announce happ hq hc).1
  | withdraw c hq => exact (h.withdraw happ hq).1

end

/-! ## The handlers of the filter -/

/-- From `s` the objects go to `t` in small steps, and the manager becomes `m`. -/
structure Does (app : Application) (s t : State) (m : ManagerState) : Prop where
  micro : Relation.ReflTransGen (Micro app) s t
  manager : Proper app → Kept s → t.manager = m

section
variable {app : Application} {s t u : State} {c : Context} {m m' : ManagerState}

theorem Settled.micros (h : Settled s) (hm : Relation.ReflTransGen (Micro app) s t) :
    Settled t ∧ ∀ c ∈ s.manager.contexts, c ∈ t.manager.contexts := by
  induction hm with
  | refl => exact ⟨h, fun _ => id⟩
  | tail _ hm ih => exact ⟨ih.1.micro hm, fun c hc => hm.contexts c (ih.2 c hc)⟩

theorem Kept.micros (happ : Proper app) (h : Kept s) (hm : Relation.ReflTransGen (Micro app) s t) :
    Kept t := by
  induction hm with
  | refl => exact h
  | tail _ hm ih => exact ih.micro happ hm

theorem Does.refl (app : Application) (s : State) : Does app s s s.manager := ⟨.refl, fun _ _ => rfl⟩

theorem Does.trans {f : ManagerState → ManagerState} (h : Does app s t m)
    (h' : Does app t u (f t.manager)) : Does app s u (f m) where
  micro := h.micro.trans h'.micro
  manager happ hk := by rw [h'.manager happ (hk.micros happ h.micro), h.manager happ hk]

theorem does_filterOut (s : State) (c : Context) :
    Does app s (filterOut app c s) (ContextManager.filterOut c s.manager) := by
  let m : ManagerState := { s.manager with
    filtered := c :: s.manager.filtered, synthesizedInternal := true
    active := fun c' => if c' = c then false else s.manager.active c' }
  have hq : Quiet s.manager m := ⟨fun _ => id, rfl, rfl⟩
  have heq : filterOut app c s =
      settle (signal app c false { releaseObjects c s with manager := m }) := rfl
  rw [heq]
  exact ⟨.single (.withdraw c hq), fun happ hk => (hk.withdraw happ hq).2⟩

theorem does_filterChangeStep (hc : c ∈ s.manager.contexts) :
    Does app s (filterChangeStep app s c) (ContextManager.filterChangeStep s.manager c) := by
  unfold filterChangeStep ContextManager.filterChangeStep
  split
  · split
    · exact .refl app s
    · exact does_filterOut s c
  · split
    · let m : ManagerState := { s.manager with
        filtered := s.manager.filtered.erase c, synthesizedInternal := true
        active := fun c' => if c' = c then true else s.manager.active c' }
      have hq : Quiet s.manager m := ⟨fun _ => id, rfl, rfl⟩
      exact ⟨.single (.announce c hq hc), fun happ hk => (hk.announce happ hq hc).2⟩
    · exact .refl app s

theorem does_filterEnabledStep (s : State) (c : Context) :
    Does app s (filterEnabledStep app s c) (ContextManager.filterEnabledStep s.manager c) := by
  unfold filterEnabledStep ContextManager.filterEnabledStep
  split
  · exact does_filterOut s c
  · exact .refl app s

/-- A loop over contexts of the table. -/
theorem does_foldl {f : State → Context → State} {g : ManagerState → Context → ManagerState}
    (hf : ∀ s c, Settled s → c ∈ s.manager.contexts → Does app s (f s c) (g s.manager c))
    {cs : List Context} (h : Settled s) (hcs : ∀ c ∈ cs, c ∈ s.manager.contexts) :
    Does app s (cs.foldl f s) (cs.foldl g s.manager) := by
  induction cs generalizing s with
  | nil => exact .refl app s
  | cons c cs ih =>
    have hfirst := hf s c h (hcs c List.mem_cons_self)
    obtain ⟨h', hcontexts⟩ := h.micros hfirst.micro
    exact hfirst.trans (f := fun m => cs.foldl g m)
      (ih h' fun c' hc' => hcontexts c' (hcs c' (List.mem_cons_of_mem c hc')))

/-- The state after an emission that is not synthesized. -/
theorem settle_signal (hs : s.manager.synthesizedInternal = false) (app : Application) (c : Context)
    (b : Bool) : settle (signal app c b s) = signal app c b s := by
  have hs' := (signal_frame app c b s).2.1.trans hs
  unfold settle
  rw [← hs']

theorem onContextAvailable_frame (c : Context) (hs : m.synthesizedInternal = false) :
    Quiet m (onContextAvailable c m).2 ∧ c ∈ (onContextAvailable c m).2.contexts ∧
      (onContextAvailable c m).2.synthesizedInternal = false := by
  obtain ⟨hq, hsettled⟩ := quiet_ensureContext c m
  have hc := (mem_contexts_ensureContext c m).1
  unfold onContextAvailable
  rw [hs]
  simp only [Bool.false_eq_true, if_false]
  split <;> exact ⟨⟨hq.contexts, hq.disposed, hq.log⟩, hc, hsettled.trans hs⟩

theorem does_emitAvailable (app : Application) (hs : s.manager.synthesizedInternal = false)
    (c : Context) :
    Does app s (emitAvailable app c s) (ContextManager.emitAvailable c s.manager) := by
  obtain ⟨hq, hc, hsettled⟩ := onContextAvailable_frame c hs
  unfold emitAvailable ContextManager.emitAvailable
  cases hstopped : onContextAvailable c s.manager with
  | mk stopped m =>
    rw [hstopped] at hq hc hsettled
    cases stopped with
    | true => exact ⟨.single (.quiet hq hsettled), fun _ _ => rfl⟩
    | false =>
      have heq := settle_signal (s := { s with manager := m }) hsettled app c true
      refine ⟨.single ?_, fun happ hk => ?_⟩
      · have hmicro : Micro app s _ := .announce c hq hc
        rw [heq] at hmicro
        exact hmicro
      · have hmanager := (hk.announce happ hq hc).2
        rw [heq, ← hsettled] at hmanager
        exact hmanager

theorem does_flushStep (h : Settled s) :
    Does app s (flushStep app s) (ContextManager.flushStep s.manager) := by
  unfold flushStep ContextManager.flushStep
  cases s.manager.filtered with
  | nil => exact .refl app s
  | cons c rest =>
    dsimp only
    have hactive : Does app s (setActive c true s) (s.manager.setActive c true) :=
      ⟨.single (.quiet ⟨fun _ => id, rfl, rfl⟩ h.settled), fun _ _ => rfl⟩
    have hemit := hactive.trans (f := ContextManager.emitAvailable c)
      (does_emitAvailable app (s := setActive c true s) h.settled c)
    obtain ⟨ht, -⟩ := h.micros hemit.micro
    generalize emitAvailable app c (setActive c true s) = t at hemit ht ⊢
    have htail : Does app t
        { t with manager := { t.manager with filtered := t.manager.filtered.tail } }
        { t.manager with filtered := t.manager.filtered.tail } :=
      ⟨.single (.quiet ⟨fun _ => id, rfl, rfl⟩ ht.settled), fun _ _ => rfl⟩
    exact hemit.trans (f := fun m => { m with filtered := m.filtered.tail }) htail

theorem does_repeat (h : Settled s) (n : Nat) :
    Does app s (Nat.repeat (flushStep app) n s) (Nat.repeat ContextManager.flushStep n s.manager) := by
  induction n with
  | zero => exact .refl app s
  | succ n ih => exact ih.trans (f := ContextManager.flushStep) (does_flushStep (h.micros ih.micro).1)

theorem does_notified (app : Application) (h : Settled s) (property : FilterProperty) :
    Does app s (notified app s property) (ContextManager.notified s.manager property) := by
  cases property with
  | enabled =>
    unfold notified ContextManager.notified onContextFilterEnabled ContextManager.onContextFilterEnabled
    dsimp only
    split
    · exact does_repeat h _
    split
    · exact .refl app s
    · exact does_foldl (fun s c _ _ => does_filterEnabledStep s c) h fun _ => id
  | entries =>
    unfold notified ContextManager.notified onContextFilterChange ContextManager.onContextFilterChange
    dsimp only
    split
    · exact does_foldl (fun s c _ hc => does_filterChangeStep hc) h fun _ => id
    · exact .refl app s

theorem does_filter (app : Application) (h : Settled s) (properties : List FilterProperty) :
    Does app s (properties.foldl (notified app) s)
      (properties.foldl ContextManager.notified s.manager) := by
  induction properties generalizing s with
  | nil => exact .refl app s
  | cons property properties ih =>
    have hfirst := does_notified app h property
    exact hfirst.trans (f := fun m => properties.foldl ContextManager.notified m)
      (ih (h.micros hfirst.micro).1)

end

/-! ## A context goes -/

section
variable {app : Application} {s t : State} {c : Context} {m : ManagerState}

/-- Only this context may leave the table. -/
theorem onContextUnavailable_frame (c : Context) (hs : m.synthesizedInternal = false) :
    (∀ c' ∈ m.contexts, c' ≠ c → c' ∈ (onContextUnavailable c m).2.contexts) ∧
      (onContextUnavailable c m).2.disposed = m.disposed ∧
      (onContextUnavailable c m).2.synthesizedInternal = false ∧
      (onContextUnavailable c m).2.log = m.log ∧
      ((onContextUnavailable c m).1 = true ↔ c ∈ m.filtered) := by
  have hremove : ∀ m : ManagerState, (∀ c' ∈ m.contexts, c' ≠ c → c' ∈ (removeContext c m).contexts) ∧
      (removeContext c m).disposed = m.disposed ∧
      (removeContext c m).synthesizedInternal = m.synthesizedInternal ∧
      (removeContext c m).log = m.log := by
    intro m
    unfold removeContext
    split
    · exact ⟨fun c' hc' hne => (List.mem_erase_of_ne hne).2 hc', rfl, rfl, rfl⟩
    · exact ⟨fun c' hc' _ => hc', rfl, rfl, rfl⟩
  unfold onContextUnavailable
  rw [hs]
  simp only [Bool.false_eq_true, if_false]
  split
  · rename_i hf
    obtain ⟨h1, h2, h3, h4⟩ := hremove
      { (m.setActive c false).unref c with filtered := (m.setActive c false).filtered.erase c }
    exact ⟨h1, h2, h3.trans hs, h4, iff_of_true rfl hf⟩
  · rename_i hf
    obtain ⟨h1, h2, h3, h4⟩ := hremove (m.setActive c false)
    exact ⟨h1, h2, h3.trans hs, h4, iff_of_false nofun hf⟩

theorem emitUnavailable_eq_of_settled (app : Application) (c : Context)
    (hs : s.manager.synthesizedInternal = false) : emitUnavailable app c s =
      if (onContextUnavailable c s.manager).1 = true then
        { releaseObjects c s with manager := (onContextUnavailable c s.manager).2 }
      else signal app c false
        { releaseObjects c s with manager := (onContextUnavailable c s.manager).2 } := by
  unfold emitUnavailable
  rw [hs]
  rfl

theorem Settled.emitUnavailable (h : Settled s) (app : Application) (c : Context) :
    Settled (emitUnavailable app c s) := by
  obtain ⟨hcontexts, hdisposed, hsettled, hlog, -⟩ := onContextUnavailable_frame c h.settled
  have hr : Counted (releaseObjects c s) := h.toCounted.releaseObjects h.alive c
  have hkeys : ∀ c', (releaseObjects c s).objects c' ≠ [] →
      c' ∈ (onContextUnavailable c s.manager).2.contexts := by
    intro c' hc'
    refine hcontexts c' (hr.keys c' hc') ?_
    rintro rfl
    exact hc' (by rw [objects_releaseObjects, if_pos rfl])
  have hd := hdisposed.trans h.alive
  rw [emitUnavailable_eq_of_settled app c h.settled]
  split
  · exact ⟨hr.setManager hkeys h.alive hd, hd, hsettled⟩
  · have hs := hr.settled_signal h.alive hkeys hdisposed app c false
    rwa [settle_signal hsettled] at hs

/-- A context that is filtered goes unseen, so it has no objects. -/
theorem Kept.emitUnavailable (happ : Proper app) (h : Kept s)
    (hs : s.manager.synthesizedInternal = false)
    (hfiltered : c ∈ s.manager.filtered → ¬ Told s.log c) :
    Kept (emitUnavailable app c s) ∧
      (emitUnavailable app c s).manager = ContextManager.emitUnavailable c s.manager := by
  obtain ⟨hcontexts, -, -, hlog, hstopped⟩ := onContextUnavailable_frame c hs
  have hold : ContextManager.emitUnavailable c s.manager =
      if (onContextUnavailable c s.manager).1 = true then (onContextUnavailable c s.manager).2
      else { (onContextUnavailable c s.manager).2 with
        log := (onContextUnavailable c s.manager).2.log ++ [(c, false)] } := rfl
  rw [emitUnavailable_eq_of_settled app c hs, hold]
  split
  · rename_i hstop
    have hnot := hfiltered (hstopped.1 hstop)
    refine ⟨⟨fun c' => ?_, fun c' hc' => ?_, h.untold, h.signals.trans hlog.symm⟩, rfl⟩
    · show (releaseObjects c s).objects c' = handed c' s.log
      rw [objects_releaseObjects]
      split
      · rename_i hc
        rw [hc, h.untold c hnot]
      · exact h.objects c'
    · refine hcontexts c' (h.told c' hc') ?_
      rintro rfl
      exact hnot hc'
  · refine h.signal happ hcontexts hlog (releaseObjects c s).refs (fun c' => ?_) nofun
    show (releaseObjects c s).objects c' = if c = c' ∧ false = false then [] else s.objects c'
    rw [objects_releaseObjects]
    simp only [and_true, @eq_comm _ c]

/-! ## Whatever happens -/

/-- What every step keeps. -/
structure Balanced (s : State) : Prop extends Counted s where
  settled : s.manager.disposed = false → s.manager.synthesizedInternal = false

theorem Settled.act (h : Settled s) (a : Action) : Settled (act s a) := by
  obtain ⟨hq, hs⟩ := quiet_act s a
  exact ⟨h.toCounted.act a, hq.disposed.trans h.alive, hs.trans h.settled⟩

theorem Settled.balanced (h : Settled s) : Balanced s := ⟨h.toCounted, fun _ => h.settled⟩

theorem Balanced.step (h : Balanced s) {e : Event} (he : step app s e = some t) : Balanced t := by
  cases e with
  | action a =>
    obtain rfl := Option.some.inj he
    obtain ⟨hq, hs⟩ := quiet_act s a
    exact ⟨h.toCounted.act a, fun hd => hs.trans (h.settled (hq.disposed.symm.trans hd))⟩
  | manager e =>
    simp only [Managing.step, Option.ite_none_left_eq_some, Bool.not_eq_true] at he
    obtain ⟨hd, he⟩ := he
    have hsettled : Settled s := ⟨h.toCounted, hd, h.settled hd⟩
    cases e with
    | contextAvailable c =>
      obtain rfl := Option.some.inj he
      exact (hsettled.micros (does_emitAvailable app hsettled.settled c).micro).1.balanced
    | contextUnavailable c =>
      obtain rfl := Option.some.inj he
      exact (hsettled.emitUnavailable app c).balanced
    | filter op =>
      obtain rfl := Option.some.inj he
      have hq : Quiet s.manager { s.manager with filter := (op.apply s.manager.filter).1 } :=
        ⟨fun _ => id, rfl, rfl⟩
      have hfilter := hsettled.micro (.quiet hq hsettled.settled : Micro app s _)
      exact (hfilter.micros (does_filter app hfilter _).micro).1.balanced
    | dispose =>
      obtain rfl := Option.some.inj he
      exact ⟨h.toCounted.dispose hd, nofun⟩

theorem balanced_run {es : List Event} (h : Run (step app) AnyStep .init es s) : Balanced s :=
  h.inv Balanced (fun _ _ _ hs _ he => hs.step he) ⟨counted_init, fun _ => rfl⟩

/-- Whatever the application and the implementation of the manager do: an object lives exactly as long
as the application has its reference or the array of its context holds it; until the manager is disposed
of, `control_points` and `root_devices` list a living object as often as it was managed, and no other;
and memory is written to after it was freed exactly if the application drops a managed object after
that. -/
theorem references_exact {es : List Event} (h : Run (step app) AnyStep .init es s) :
    (∀ o, s.refs.refs o ≠ 0 ↔ o ∈ s.held ∨ o ∈ s.objects o.context) ∧
    (s.manager.disposed = false → ∀ k o, (s.refs.arrays k).count o =
      if s.refs.refs o ≠ 0 ∧ o.kind = k then s.log.count (.managed o) else 0) ∧
    (s.refs.corrupt = true ↔ ∃ o, DroppedLate o s.log) := by
  have hs := balanced_run h
  refine ⟨fun o => ?_, fun hd k o => ?_, hs.corrupt⟩
  · rw [hs.refs o, Nat.ne_zero_iff_zero_lt, Nat.add_pos_iff_pos_or_pos, List.count_pos_iff,
      List.count_pos_iff]
  · rw [hs.sound.listed (hs.freed.trans hd)]
    by_cases halive : s.refs.refs o = 0
    · rw [hs.sound.gone o halive, if_neg fun hx => hx.1 halive, List.count_nil]
    · rw [hs.notifies o halive, List.count_replicate]
      simp only [halive, ne_eq, not_false_iff, true_and, beq_iff_eq]

def sampleContexts : Context × Context :=
  (⟨0, "eth0".toList, "192.168.1.2".toList, "192.168.1.0".toList⟩,
    ⟨1, "wlan0".toList, "10.0.0.2".toList, "home".toList⟩)

/-- The application keeps a control point beyond the manager. -/
theorem references_exact_sample : ∃ s, Run (step fun _ _ _ => []) AnyStep .init
      [.manager (.contextAvailable sampleContexts.1),
        .action (.create ⟨0, .controlPoint, sampleContexts.1⟩),
        .action (.manage ⟨0, .controlPoint, sampleContexts.1⟩), .manager .dispose,
        .action (.drop ⟨0, .controlPoint, sampleContexts.1⟩)] s ∧
    s.refs.corrupt = true ∧ ∃ o, DroppedLate o s.log := by
  obtain ⟨s, h, hs⟩ : ∃ s, Run (step fun _ _ _ => []) AnyStep .init
      [.manager (.contextAvailable sampleContexts.1),
        .action (.create ⟨0, .controlPoint, sampleContexts.1⟩),
        .action (.manage ⟨0, .controlPoint, sampleContexts.1⟩), .manager .dispose,
        .action (.drop ⟨0, .controlPoint, sampleContexts.1⟩)] s ∧ s.refs.corrupt = true :=
    Run.exists_of_foldlM (by decide +kernel)
  exact ⟨s, h, hs, (references_exact h).2.2.1 hs⟩

end

/-! ## Orderly runs -/

/-- Contexts come and go in order, the manager is not disposed of, and the application hands over
objects of contexts that it was told of. -/
def Orderly (s : State) : Event → Prop
  | .manager e => Lifecycle s.manager e
  | .action (.manage o) => Told s.log o.context
  | .action _ => True

instance (s : State) (e : Event) : Decidable (Orderly s e) :=
  match e with
  | .manager e => inferInstanceAs (Decidable (Lifecycle s.manager e))
  | .action (.manage o) => inferInstanceAs (Decidable (Told s.log o.context))
  | .action (.create _) => .isTrue trivial
  | .action (.drop _) => .isTrue trivial

/-- The events of the manager. -/
def managerEvent : Event → Option ContextManager.Event
  | .manager e => some e
  | .action _ => none

/-- The invariant of orderly runs; `es` are the events of the manager so far. -/
structure Tracked (es : List ContextManager.Event) (s : State) : Prop extends Settled s, Kept s where
  run : FilterRun es s.manager

section
variable {app : Application} {s t : State} {c : Context} {es : List ContextManager.Event}

theorem tracked_init : Tracked [] .init :=
  ⟨⟨counted_init, rfl, rfl⟩, kept_init, .nil⟩

/-- The application is told of the contexts that are known and not filtered. -/
theorem Tracked.told_iff (h : Tracked es s) :
    Told s.log c ↔ Known es c ∧ contextFiltered s.manager.filter c = false := by
  obtain ⟨hf, hknown⟩ := filtering_run h.run
  unfold Told
  rw [h.signals, hf.announces.last c, hf.exact c, hknown c]
  constructor
  · rintro ⟨hk, hnot⟩
    exact ⟨hk, by simpa [hk] using hnot⟩
  · rintro ⟨hk, hx⟩
    exact ⟨hk, fun hc => absurd (hx.symm.trans hc.2) nofun⟩

theorem Tracked.act (h : Tracked es s) {a : Action} (ha : ∀ o, a = .manage o → Told s.log o.context) :
    Tracked es (act s a) := by
  obtain ⟨hk, hm, -⟩ := h.toKept.act ha
  exact ⟨h.toSettled.act a, hk, hm ▸ h.run⟩

/-- A step of the manager is the step of the manager without objects. -/
theorem Tracked.manager (happ : Proper app) (h : Tracked es s) {e : ContextManager.Event}
    (ho : Lifecycle s.manager e) (he : step app s (.manager e) = some t) : Tracked (es ++ [e]) t := by
  simp only [step, Option.ite_none_left_eq_some, Bool.not_eq_true] at he
  obtain ⟨hd, he⟩ := he
  suffices hk : Settled t ∧ Kept t ∧ ContextManager.step s.manager e = some t.manager from
    ⟨hk.1, hk.2.1, h.run.snoc ho hk.2.2⟩
  unfold ContextManager.step
  rw [if_neg (by simp [hd])]
  cases e with
  | contextAvailable c =>
    obtain rfl := Option.some.inj he
    have hdoes := does_emitAvailable app h.settled c
    exact ⟨(h.toSettled.micros hdoes.micro).1, h.toKept.micros happ hdoes.micro,
      congrArg some (hdoes.manager happ h.toKept).symm⟩
  | contextUnavailable c =>
    obtain rfl := Option.some.inj he
    obtain ⟨hk, hm⟩ := h.toKept.emitUnavailable (c := c) happ h.settled fun hf ht => by
      have hx := ((filtering_run h.run).1.exact c).1 hf
      exact absurd ((h.told_iff.1 ht).2.symm.trans hx.2) nofun
    exact ⟨h.toSettled.emitUnavailable app c, hk, congrArg some hm.symm⟩
  | filter op =>
    obtain rfl := Option.some.inj he
    have hq : Quiet s.manager { s.manager with filter := (op.apply s.manager.filter).1 } :=
      ⟨fun _ => id, rfl, rfl⟩
    have hk := h.toKept.setManager hq.contexts hq.log
    have hfilter := h.toSettled.micro (.quiet hq h.settled : Micro app s _)
    have hdoes := does_filter app hfilter (op.apply s.manager.filter).2
    exact ⟨(hfilter.micros hdoes.micro).1, hk.micros happ hdoes.micro,
      congrArg some (hdoes.manager happ hk).symm⟩
  | dispose => exact ho.elim

theorem tracked_run (happ : Proper app) {es : List Event} (h : Run (step app) Orderly .init es s) :
    Tracked (es.filterMap managerEvent) s := by
  apply Run.history (fun es s => Tracked (es.filterMap managerEvent) s) _ h tracked_init
  intro es s e t hs ho he
  rw [List.filterMap_append]
  cases e with
  | action a =>
    obtain rfl := Option.some.inj he
    refine (List.append_nil _).symm ▸ hs.act fun o ha => ?_
    subst ha
    exact ho
  | manager e => exact hs.manager happ ho he

/-- While contexts come and go and the filter changes, the array of a context holds exactly what the
application handed over since the context was last withdrawn; an object lives exactly as long as it is
there or the application has its own reference; and only a context that is known and not filtered has
objects. -/
theorem managed_exact (happ : Proper app) {es : List Event}
    (h : Run (step app) Orderly .init es s) :
    (∀ c, s.objects c = handed c s.log) ∧
    (∀ o, s.refs.refs o ≠ 0 ↔ o ∈ s.held ∨ o ∈ handed o.context s.log) ∧
    ∀ c, s.objects c ≠ [] →
      Known (es.filterMap managerEvent) c ∧ contextFiltered s.manager.filter c = false := by
  have ht := tracked_run happ h
  refine ⟨ht.objects, fun o => ?_, fun c hc => ?_⟩
  · rw [ht.refs o, Nat.ne_zero_iff_zero_lt, Nat.add_pos_iff_pos_or_pos, List.count_pos_iff,
      List.count_pos_iff, ht.objects]
  · refine ht.told_iff.1 ?_
    by_contra hnot
    exact hc ((ht.objects c).trans (ht.untold c hnot))

/-! ## A concrete application -/

/-- It creates a control point for each context that becomes available, hands it over and drops it. -/
def sampleApplication : Application := fun s c available =>
  if available then
    let o : Object := ⟨s.log.length, .controlPoint, c⟩
    [.create o, .manage o, .drop o]
  else []

theorem proper_sampleApplication : Proper sampleApplication := by
  intro s c b hlast o ho
  cases b with
  | false => cases ho
  | true =>
    have hcontext : o.context = c := by
      simp only [sampleApplication, if_true, List.mem_cons, Action.manage.injEq, reduceCtorEq, false_or,
        or_false, List.not_mem_nil] at ho
      rw [ho]
    rw [hcontext]
    exact hlast

/-- Two networks come, and the filter keeps one of them: its control point lives and the other one is
gone. -/
theorem managed_exact_sample : ∃ s, Run (step sampleApplication) Orderly .init
      [.manager (.contextAvailable sampleContexts.1), .manager (.contextAvailable sampleContexts.2),
        .manager (.filter (.addEntry "home".toList)), .manager (.filter (.setEnabled true))] s ∧
    s.objects sampleContexts.1 = [] ∧
    s.objects sampleContexts.2 = handed sampleContexts.2 s.log ∧ s.objects sampleContexts.2 ≠ [] := by
  obtain ⟨s, h, heth, hwlan⟩ : ∃ s, Run (step sampleApplication) Orderly .init
      [.manager (.contextAvailable sampleContexts.1), .manager (.contextAvailable sampleContexts.2),
        .manager (.filter (.addEntry "home".toList)), .manager (.filter (.setEnabled true))] s ∧
      (s.objects sampleContexts.1 = [] ∧ s.objects sampleContexts.2 ≠ []) := by
    obtain ⟨s, h, hs⟩ : ∃ s, Run (step sampleApplication) Orderly .init
        [.manager (.contextAvailable sampleContexts.1), .manager (.contextAvailable sampleContexts.2),
          .manager (.filter (.addEntry "home".toList)), .manager (.filter (.setEnabled true))] s ∧
        (decide (s.objects sampleContexts.1 = []), decide (s.objects sampleContexts.2 ≠ [])) =
          (true, true) :=
      Run.exists_of_foldlM_ok (by decide +kernel)
    obtain ⟨h1, h2⟩ := Prod.mk.inj hs
    exact ⟨s, h, of_decide_eq_true h1, of_decide_eq_true h2⟩
  exact ⟨s, h, heth, (managed_exact proper_sampleApplication h).1 _, hwlan⟩

end

end GUPnP.ContextManager.Managing
