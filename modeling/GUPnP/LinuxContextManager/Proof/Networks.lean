import GUPnP.ContextManager.Proof.Managed
import GUPnP.LinuxContextManager.Proof.Announced

/-!
# From the interfaces to the managed objects

The Linux context manager emits its signals on the context manager it is derived from, which filters
them and keeps the objects of the application. Together: whatever the kernel reports and however the
filter changes, the application has been told of exactly the contexts that are on an interface that is up
and are not filtered, and only these have objects (`networks_managed`).
-/

set_option autoImplicit false

namespace GUPnP.LinuxContextManager

open ContextManager (Context FilterOp contextFiltered)
open ContextManager.Managing (Application Action Proper Told Tracked handed tracked_init)

/-! ## The two levels -/

/-- The manager of the interfaces, and the manager it is derived from. -/
structure Network where
  manager : ManagerState
  managing : ContextManager.Managing.State

def Network.init : Network := ⟨.init, .init⟩

/-- What the kernel reports, or the application does with its filter or its objects. -/
inductive NetworkEvent where
  | netlink (e : Event)
  | filter (op : FilterOp)
  | action (a : Action)

section
variable (describe : Nat → Context) (app : Application)

/-- An emission, with the context that the number stands for. -/
def emission : Nat × Bool → ContextManager.Event
  | (n, true) => .contextAvailable (describe n)
  | (n, false) => .contextUnavailable (describe n)

/-- The context manager gets these emissions. -/
def emitAll (emissions : List (Nat × Bool)) (s : ContextManager.Managing.State) :
    Option ContextManager.Managing.State :=
  emissions.foldlM (fun s e => ContextManager.Managing.step app s (.manager (emission describe e))) s

/-- The disposal of the manager ends in that of its parent class. -/
def Network.step (n : Network) : NetworkEvent → Option Network
  | .netlink e =>
    (LinuxContextManager.step n.manager e).bind fun manager =>
      (emitAll describe app (manager.log.drop n.manager.log.length) n.managing).bind fun managing =>
        match e with
        | .dispose =>
          (ContextManager.Managing.step app managing (.manager .dispose)).map (Network.mk manager)
        | _ => some ⟨manager, managing⟩
  | .filter op =>
    (ContextManager.Managing.step app n.managing (.manager (.filter op))).map (Network.mk n.manager)
  | .action a =>
    (ContextManager.Managing.step app n.managing (.action a)).map (Network.mk n.manager)

/-- An interface that is removed can be freed, the manager is not disposed of, and the application
hands over objects of contexts that it was told of. -/
def Admissible (n : Network) : NetworkEvent → Prop
  | .netlink e => FreesUp n.manager e ∧ e ≠ .dispose
  | .filter _ => True
  | .action (.manage o) => Told n.managing.log o.context
  | .action _ => True

instance (n : Network) (e : NetworkEvent) : Decidable (Admissible n e) :=
  match e with
  | .netlink .dispose => .isFalse fun h => h.2 rfl
  | .netlink (.delLink index) =>
    decidable_of_iff (FreesUp n.manager (.delLink index)) ⟨fun h => ⟨h, nofun⟩, fun h => h.1⟩
  | .netlink (.newAddr _ _) => .isTrue ⟨trivial, nofun⟩
  | .netlink (.delAddr _) => .isTrue ⟨trivial, nofun⟩
  | .netlink (.newLink _ _) => .isTrue ⟨trivial, nofun⟩
  | .filter _ => .isTrue trivial
  | .action (.manage o) => inferInstanceAs (Decidable (Told n.managing.log o.context))
  | .action (.create _) => .isTrue trivial
  | .action (.drop _) => .isTrue trivial

end

/-! ## Logs grow -/

section
variable {s t : ManagerState} {index : Nat} {device : NetworkInterface}

theorem prefix_emit (available : Bool) (contexts : List Nat) (s : ManagerState) :
    s.log <+: (s.emit available contexts).log := List.prefix_append ..

theorem prefix_createContext (info : RtmAddrInfo) (ipString : Str) (created : Bool)
    (s : ManagerState) : s.log <+: (createContext info ipString created s).log := by
  unfold createContext networkDeviceCreateContext
  repeat' split
  all_goals first
    | exact List.prefix_refl _
    | exact prefix_emit ..

theorem prefix_removeContext (info : RtmAddrInfo) (ipString : Str) (s : ManagerState) :
    s.log <+: (removeContext info ipString s).log := by
  unfold removeContext
  split
  · exact List.prefix_refl _
  dsimp only [ManagerState.setDevice]
  repeat' split
  all_goals first
    | exact List.prefix_refl _
    | exact prefix_emit ..

theorem prefix_handleDeviceStatusChange (ifi : IfInfoMsg) (s : ManagerState) :
    s.log <+: (handleDeviceStatusChange ifi s).log := by
  unfold handleDeviceStatusChange networkDeviceUp networkDeviceDown
  repeat' split
  all_goals first
    | exact List.prefix_refl _
    | exact prefix_emit ..

theorem prefix_step {e : Event} (he : step s e = some t) (hne : e ≠ .dispose) : s.log <+: t.log := by
  simp only [step, Option.ite_none_left_eq_some] at he
  replace he := he.2
  cases e with
  | newAddr info created =>
    dsimp only at he
    split at he
    · exact Option.some.inj he ▸ List.prefix_refl _
    split at he
    · exact Option.some.inj he ▸ List.prefix_refl _
    split at he
    · exact Option.some.inj he ▸ List.prefix_refl _
    · exact Option.some.inj he ▸ prefix_createContext info _ created s
  | delAddr info =>
    dsimp only at he
    split at he
    · exact Option.some.inj he ▸ List.prefix_refl _
    · exact Option.some.inj he ▸ prefix_removeContext info _ s
  | newLink ifi isWireless =>
    dsimp only at he
    split at he
    · exact Option.some.inj he ▸ List.prefix_refl _
    · exact Option.some.inj he ▸ prefix_handleDeviceStatusChange ifi s
  | delLink index =>
    obtain rfl := Option.some.inj he
    unfold removeDevice networkDeviceFree
    split
    · exact List.prefix_refl _
    · exact prefix_emit ..
  | dispose => exact absurd rfl hne

end

/-! ## The emissions are in order -/

section
variable {describe : Nat → Context} {app : Application} {n u : Network}
  {log : List (Nat × Bool)} {s t : ContextManager.Managing.State}

/-- The context manager got the emissions of this log, and perhaps changes of the filter between
them. -/
def Follows (describe : Nat → Context) (log : List (Nat × Bool))
    (s : ContextManager.Managing.State) : Prop :=
  ∃ es, Tracked es s ∧ es.filterMap ContextManager.emission = log.map fun e => (describe e.1, e.2)

/-- The signals for a number are those for its context. -/
theorem signalsOf_describe (hinj : Function.Injective describe) (k : Nat) (log : List (Nat × Bool)) :
    signalsOf (describe k) (log.map fun e => (describe e.1, e.2)) = signalsOf k log := by
  induction log with
  | nil => rfl
  | cons e log ih =>
    unfold signalsOf at ih ⊢
    by_cases hk : e.1 = k
    · have hdescribe : describe e.1 = describe k := congrArg describe hk
      rw [List.map_cons, List.filter_cons_of_pos (by simpa using hdescribe),
        List.filter_cons_of_pos (by simpa using hk), List.map_cons, List.map_cons, ih]
    · have hdescribe : describe e.1 ≠ describe k := fun h => hk (hinj h)
      rw [List.map_cons, List.filter_cons_of_neg (by simpa using hdescribe),
        List.filter_cons_of_neg (by simpa using hk), ih]

theorem alternates_snoc_inv {l : List Bool} {b : Bool} (h : Alternates (l ++ [b])) :
    l.getLast? = some true ↔ b = false := by
  obtain ⟨hchain, hhead⟩ := h
  cases hlast : l.getLast? with
  | none =>
    rw [List.getLast?_eq_none_iff] at hlast
    subst hlast
    cases b with
    | true => exact ⟨nofun, nofun⟩
    | false => exact absurd rfl hhead
  | some x =>
    have hne : x ≠ b := (List.isChain_append.1 hchain).2.2 x hlast b rfl
    cases x <;> cases b <;> simp_all

theorem alternates_of_prefix {l l' : List Bool} (h : Alternates l') (hpre : l <+: l') :
    Alternates l := by
  obtain ⟨rest, rfl⟩ := hpre
  refine ⟨(List.isChain_append.1 h.1).1, fun hhead => h.2 ?_⟩
  rw [List.head?_append, hhead]
  rfl

/-- One emission after which the signals still alternate. -/
theorem Follows.emit (hinj : Function.Injective describe) (happ : Proper app)
    (h : Follows describe log s) {e : Nat × Bool}
    (halternates : Alternates (signalsOf e.1 (log ++ [e]))) :
    ∃ t, ContextManager.Managing.step app s (.manager (emission describe e)) = some t ∧
      Follows describe (log ++ [e]) t := by
  obtain ⟨es, hes, hlog⟩ := h
  obtain ⟨k, b⟩ := e
  have hknown : describe k ∈ s.manager.contexts ↔ b = false := by
    rw [signalsOf_append, signalsOf_self] at halternates
    rw [(ContextManager.filtering_run hes.run).2, ContextManager.Known, hlog,
      signalsOf_describe hinj, alternates_snoc_inv halternates]
  have hlifecycle : ContextManager.Lifecycle s.manager (emission describe (k, b)) := by
    cases b with
    | true =>
      intro hc
      exact absurd (hknown.1 hc) (by decide)
    | false => exact hknown.2 rfl
  obtain ⟨t, ht⟩ : ∃ t, ContextManager.Managing.step app s
      (.manager (emission describe (k, b))) = some t := by
    unfold ContextManager.Managing.step
    dsimp only
    rw [if_neg (by rw [hes.alive]; exact Bool.false_ne_true)]
    cases b <;> exact ⟨_, rfl⟩
  refine ⟨t, ht, _, hes.manager happ hlifecycle ht, ?_⟩
  rw [List.filterMap_append, hlog, List.map_append]
  cases b <;> rfl

/-- Emissions after which the signals still alternate. -/
theorem Follows.emitAll (hinj : Function.Injective describe) (happ : Proper app)
    (h : Follows describe log s) {emissions : List (Nat × Bool)}
    (halternates : ∀ k, Alternates (signalsOf k (log ++ emissions))) :
    ∃ t, emitAll describe app emissions s = some t ∧ Follows describe (log ++ emissions) t := by
  induction emissions generalizing log s with
  | nil => exact ⟨s, rfl, by rwa [List.append_nil]⟩
  | cons e emissions ih =>
    have hfirst : Alternates (signalsOf e.1 (log ++ [e])) := by
      refine alternates_of_prefix (halternates e.1) ?_
      rw [List.append_cons log e emissions, signalsOf_append e.1 (log ++ [e]) emissions]
      exact List.prefix_append ..
    obtain ⟨t, ht, hfollows⟩ := h.emit hinj happ hfirst
    obtain ⟨u, hu, hfollows⟩ := ih hfollows fun k => by
      rw [← List.append_cons]
      exact halternates k
    refine ⟨u, ?_, ?_⟩
    · unfold LinuxContextManager.emitAll
      rw [List.foldlM_cons, ht]
      exact hu
    · rwa [List.append_cons]

/-! ## Whole runs -/

/-- The invariant of the two levels. -/
structure Coupled (describe : Nat → Context) (n : Network) : Prop where
  good : Good n.manager
  follows : Follows describe n.manager.log n.managing

theorem coupled_init (describe : Nat → Context) : Coupled describe .init :=
  ⟨good_init, [], tracked_init, rfl⟩

theorem Coupled.step (hinj : Function.Injective describe) (happ : Proper app)
    (h : Coupled describe n) {e : NetworkEvent} (ho : Admissible n e)
    (he : n.step describe app e = some u) : Coupled describe u := by
  cases e with
  | netlink e =>
    obtain ⟨manager, hm, he⟩ := Option.bind_eq_some_iff.1 he
    obtain ⟨managing, hemit, he⟩ := Option.bind_eq_some_iff.1 he
    have hgood : Good manager := h.good.step ho.1 hm
    obtain ⟨emissions, hlog⟩ := prefix_step hm ho.2
    rw [← hlog, List.drop_left] at hemit
    obtain ⟨t, ht, hfollows⟩ := h.follows.emitAll hinj happ fun k =>
      hlog ▸ hgood.announces.alternates k
    obtain rfl : t = managing := Option.some.inj (ht.symm.trans hemit)
    obtain rfl : ⟨manager, t⟩ = u := by
      cases e with
      | dispose => exact absurd rfl ho.2
      | _ => exact Option.some.inj he
    exact ⟨hgood, hlog ▸ hfollows⟩
  | filter op =>
    obtain ⟨managing, hm, rfl⟩ := Option.map_eq_some_iff.1 he
    obtain ⟨es, hes, hlog⟩ := h.follows
    have ho : ContextManager.Lifecycle n.managing.manager (.filter op) := trivial
    refine ⟨h.good, _, hes.manager happ ho hm, ?_⟩
    rw [List.filterMap_append, hlog]
    exact List.append_nil _
  | action a =>
    obtain rfl : ⟨n.manager, ContextManager.Managing.act n.managing a⟩ = u := Option.some.inj he
    obtain ⟨es, hes, hlog⟩ := h.follows
    refine ⟨h.good, es, hes.act fun o ha => ?_, hlog⟩
    subst ha
    exact ho

/-- Whatever the kernel reports, however the application changes its filter, and whatever control points
and root devices it hands over: it was told of exactly the contexts whose address is on an interface that
is up and that the filter lets through; only these have objects, and they have all that were handed over
since they were last withdrawn. -/
theorem networks_managed (hinj : Function.Injective describe) (happ : Proper app)
    {es : List NetworkEvent} (h : Run (Network.step describe app) Admissible .init es n) :
    (∀ k, Told n.managing.log (describe k) ↔
      Announced n.manager k ∧ contextFiltered n.managing.manager.filter (describe k) = false) ∧
    (∀ c, n.managing.objects c = handed c n.managing.log) ∧
    ∀ c, n.managing.objects c ≠ [] → ∃ k, describe k = c ∧ Announced n.manager k ∧
      contextFiltered n.managing.manager.filter c = false := by
  have hc : Coupled describe n :=
    h.inv (Coupled describe) (fun _ _ _ hn ho he => hn.step hinj happ ho he) (coupled_init describe)
  obtain ⟨ms, hms, hlog⟩ := hc.follows
  have htold : ∀ k, Told n.managing.log (describe k) ↔
      Announced n.manager k ∧ contextFiltered n.managing.manager.filter (describe k) = false := by
    intro k
    rw [hms.told_iff, ContextManager.Known, hlog, signalsOf_describe hinj,
      hc.good.announces.last k]
  refine ⟨htold, hms.objects, fun c hne => ?_⟩
  have ht : Told n.managing.log c := by
    by_contra hnot
    exact hne ((hms.objects c).trans (hms.untold c hnot))
  obtain ⟨k, rfl⟩ : ∃ k, describe k = c := by
    have hknown := (hms.told_iff.1 ht).1
    rw [ContextManager.Known, hlog] at hknown
    have hmem : c ∈ (n.manager.log.map fun e => (describe e.1, e.2)).map Prod.fst := by
      by_contra hnot
      have hnil : signalsOf c (n.manager.log.map fun e => (describe e.1, e.2)) = [] := by
        rw [signalsOf, List.map_eq_nil_iff, List.filter_eq_nil_iff]
        intro e he hce
        exact hnot (List.mem_map.2 ⟨e, he, of_decide_eq_true hce⟩)
      rw [hnil] at hknown
      cases hknown
    obtain ⟨e, he, rfl⟩ := List.mem_map.1 hmem
    obtain ⟨e', -, rfl⟩ := List.mem_map.1 he
    exact ⟨e'.1, rfl⟩
  exact ⟨k, rfl, (htold k).1 ht⟩

end

/-! ## A concrete network -/

/-- A context with this number on the first interface. -/
def sampleDescribe (k : Nat) : Context := ⟨k, "eth0".toList, "10.0.0.2".toList, "10.0.0.0".toList⟩

/-- The interface comes with an address and goes down; with it the control point goes. -/
theorem networks_managed_sample : ∃ n,
    Run (Network.step sampleDescribe ContextManager.Managing.sampleApplication) Admissible .init
      [.netlink (.newLink (sampleLink true) false), .netlink (.newAddr sampleAddress true),
        .netlink (.newLink (sampleLink false) false)] n ∧
    n.managing.log.length = 5 ∧ ∀ c, n.managing.objects c = [] := by
  obtain ⟨n, h, hn⟩ : ∃ n,
      Run (Network.step sampleDescribe ContextManager.Managing.sampleApplication) Admissible .init
        [.netlink (.newLink (sampleLink true) false), .netlink (.newAddr sampleAddress true),
          .netlink (.newLink (sampleLink false) false)] n ∧
      (n.managing.log.length, n.manager.interfaces.values.all fun device => !device.up) = (5, true) :=
    Run.exists_of_foldlM_ok (by decide +kernel)
  obtain ⟨hlength, hdown⟩ := Prod.mk.inj hn
  refine ⟨n, h, hlength, fun c => ?_⟩
  by_contra hne
  have hinj : Function.Injective sampleDescribe := fun _ _ h => (Context.mk.inj h).1
  obtain ⟨-, -, hobjects⟩ := networks_managed hinj
    ContextManager.Managing.proper_sampleApplication h
  obtain ⟨k, -, ⟨index, device, hl, hup, -⟩, -⟩ := hobjects c hne
  have hnot := List.all_eq_true.1 hdown device (Table.mem_values.2 ⟨index, hl⟩)
  rw [hup] at hnot
  exact absurd hnot nofun

end GUPnP.LinuxContextManager
