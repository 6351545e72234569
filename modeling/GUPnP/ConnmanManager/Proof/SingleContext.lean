import GUPnP.Base.Run
import GUPnP.ConnmanManager.Proof.Services

/-!
# Services with a single context

What holds of a service stays when the functions for other services run (`kept_iff`). A proxy that is
created for an active service and a timer that fires create a context, though the service may have one
from the other of the two by then. `single_context_iff`: in a run every service always has at most its
current context announced, and none while it is inactive, exactly where those two only happen to
services without a context (`WithoutContext`).
-/

set_option autoImplicit false

namespace GUPnP.ConnmanManager

variable {s t : ManagerState} {path : Str} {service service' : CMService} {signals' : Signals}
  {initialise : Initialise} {e : Event} {es : List Event}

/-! ## The property and the condition -/

/-- Every announced context is the current one of its service, no context was created while one was
current, and an inactive service has no announced context and no timer. -/
structure Single (s : ManagerState) : Prop where
  current : ∀ id c, Announced s.signals id c → ∃ path service,
    s.cmServices.lookup path = some service ∧ service.id = id ∧ service.contextId = some c
  created : ∀ creation ∈ s.signals.creations, creation.2 = none
  inactive : ∀ path service, s.cmServices.lookup path = some service →
    service.current = .inactive → service.timeout = false ∧ ∀ c, ¬ Announced s.signals service.id c

/-- An active service whose proxy is created has no context, and no timer if the creation of its context
fails. A timer fires for a service without a context, if it is active. -/
def WithoutContext (s : ManagerState) : Event → Prop
  | .proxyNew i created initialise => created = true → ∀ call service,
    s.proxyCalls[i]? = some call → ofCall s call = some service → service.current = .active →
      service.context = none ∧
        (initialise service.iface service.name service.port = none → service.timeout = false)
  | .timeout path _ => ∀ service, s.cmServices.lookup path = some service →
    service.current = .active → service.context = none
  | _ => True

/-! ## The services of a manager -/

/-- The numbers are counted up, and current contexts are announced. -/
structure Good (s : ManagerState) : Prop where
  live : ∀ path service, s.cmServices.lookup path = some service → service.id < s.nextService
  unique : ∀ path path' service service', s.cmServices.lookup path = some service →
    s.cmServices.lookup path' = some service' → service.id = service'.id → path = path'
  announced : ∀ path service c, s.cmServices.lookup path = some service →
    service.contextId = some c → Announced s.signals service.id c
  mentioned : ∀ id c, signalsOf (id, c) s.signals.log ≠ [] →
    id < s.nextService ∧ c < s.signals.nextContext

/-- Each service is as it should be, and no context is announced for one that is gone. -/
structure Kept (s : ManagerState) : Prop where
  alone : ∀ path service, s.cmServices.lookup path = some service → Alone service s.signals
  listed : ∀ id c, Announced s.signals id c → ∃ path service,
    s.cmServices.lookup path = some service ∧ service.id = id
  created : ∀ creation ∈ s.signals.creations, creation.2 = none

theorem Good.known (h : Good s) (hl : s.cmServices.lookup path = some service) :
    Known service s.signals :=
  ⟨fun c hc => h.announced path service c hl hc, fun id c hc => (h.mentioned id c hc).2⟩

theorem good_init : Good .init where
  live _ _ hl := by cases hl
  unique _ _ _ _ hl := by cases hl
  announced _ _ _ hl := by cases hl
  mentioned _ _ hne := absurd rfl hne

theorem kept_init : Kept .init where
  alone _ _ hl := by cases hl
  listed _ _ ha := by cases ha
  created _ hmem := absurd hmem List.not_mem_nil

theorem single_iff (hg : Good s) : Single s ↔ Kept s := by
  constructor
  · intro h
    refine ⟨fun path service hl => ⟨fun c hc => ?_, h.created, fun hinactive => ?_⟩,
      fun id c ha => ?_, h.created⟩
    · obtain ⟨path', service', hl', hid, hcontext⟩ := h.current service.id c hc
      obtain rfl := hg.unique path' path service' service hl' hl hid
      obtain rfl := Option.some.inj (hl.symm.trans hl')
      exact hcontext
    · obtain ⟨htimeout, hnone⟩ := h.inactive path service hl hinactive
      refine ⟨htimeout, ?_⟩
      cases hid : service.contextId with
      | none => rfl
      | some c => exact absurd (hg.announced path service c hl hid) (hnone c)
    · obtain ⟨path, service, hl, hid, -⟩ := h.current id c ha
      exact ⟨path, service, hl, hid⟩
  · intro h
    refine ⟨fun id c ha => ?_, h.created, fun path service hl hinactive => ?_⟩
    · obtain ⟨path, service, hl, rfl⟩ := h.listed id c ha
      exact ⟨path, service, hl, rfl, (h.alone path service hl).owns c ha⟩
    · obtain ⟨htimeout, hnone⟩ := (h.alone path service hl).inactive hinactive
      refine ⟨htimeout, fun c ha => ?_⟩
      have howns := (h.alone path service hl).owns c ha
      rw [hnone] at howns
      cases howns

/-! ## One service changes -/

/-- The manager after this service changed, with these signals. -/
def ManagerState.setService (path : Str) (service : CMService) (signals : Signals)
    (s : ManagerState) : ManagerState :=
  { s with cmServices := s.cmServices.insert path service, signals := signals }

/-- Another service has another number. -/
theorem Good.ne_id (hg : Good s) (hl : s.cmServices.lookup path = some service) {path' : Str}
    (hne : path' ≠ path) (hl' : s.cmServices.lookup path' = some service') :
    service'.id ≠ service.id :=
  fun hid => hne (hg.unique path' path service' service hl' hl hid)

theorem lookup_setService {path' : Str} {found : CMService}
    (h : (s.setService path service signals').cmServices.lookup path' = some found) :
    path' = path ∧ found = service ∨ path' ≠ path ∧ s.cmServices.lookup path' = some found := by
  by_cases hne : path' = path
  · subst hne
    rw [ManagerState.setService, AList.lookup_insert] at h
    exact .inl ⟨rfl, (Option.some.inj h).symm⟩
  · rw [ManagerState.setService, AList.lookup_insert_ne hne] at h
    exact .inr ⟨hne, h⟩

theorem Effect.announced_iff {signals : Signals} (he : Effect service signals service' signals')
    {id : Nat} (hne : id ≠ service.id) (c : Nat) :
    Announced signals' id c ↔ Announced signals id c := by
  rw [Announced, he.others id c hne, Announced]

theorem good_setService (hg : Good s) (hl : s.cmServices.lookup path = some service)
    (he : Effect service s.signals service' signals') (hk : Known service' signals') :
    Good (s.setService path service' signals') := by
  refine ⟨fun path' found hf => ?_, fun p p' found found' hf hf' hid => ?_,
    fun path' found c hf hc => ?_, fun id c hmem => ⟨?_, hk.fresh id c hmem⟩⟩
  · rcases lookup_setService hf with ⟨-, rfl⟩ | ⟨-, hf⟩
    · rw [he.id]
      exact hg.live path service hl
    · exact hg.live path' found hf
  · rcases lookup_setService hf with ⟨hp, hsame⟩ | ⟨hne, hold⟩
    · rcases lookup_setService hf' with ⟨hp', -⟩ | ⟨hne', hold'⟩
      · exact hp.trans hp'.symm
      · rw [hsame, he.id] at hid
        exact absurd hid.symm (hg.ne_id hl hne' hold')
    · rcases lookup_setService hf' with ⟨-, hsame'⟩ | ⟨hne', hold'⟩
      · rw [hsame', he.id] at hid
        exact absurd hid (hg.ne_id hl hne hold)
      · exact hg.unique p p' found found' hold hold' hid
  · rcases lookup_setService hf with ⟨rfl, rfl⟩ | ⟨hne, hf⟩
    · exact hk.announced c hc
    · exact (he.announced_iff (hg.ne_id hl hne hf) c).2 (hg.announced path' found c hf hc)
  · by_cases hid : id = service.id
    · rw [hid]
      exact hg.live path service hl
    · exact (hg.mentioned id c (he.others id c hid ▸ hmem)).1

/-- So only the service itself is to be looked at. -/
theorem kept_iff (hg : Good s) (h : Kept s) (hl : s.cmServices.lookup path = some service)
    (he : Effect service s.signals service' signals') :
    Kept (s.setService path service' signals') ↔ Alone service' signals' := by
  have hself : (s.setService path service' signals').cmServices.lookup path = some service' :=
    AList.lookup_insert _
  refine ⟨fun ht => ht.alone path service' hself, fun ha => ⟨fun path' found hf => ?_,
    fun id c hannounced => ?_, ha.created⟩⟩
  · rcases lookup_setService hf with ⟨-, rfl⟩ | ⟨hne, hf⟩
    · exact ha
    · have hold := h.alone path' found hf
      have hid := hg.ne_id hl hne hf
      exact ⟨fun c hc => hold.owns c ((he.announced_iff hid c).1 hc), ha.created, hold.inactive⟩
  · by_cases hid : id = service.id
    · exact ⟨path, service', hself, he.id.trans hid.symm⟩
    · obtain ⟨path', found, hf, rfl⟩ := h.listed id c ((he.announced_iff hid c).1 hannounced)
      refine ⟨path', found, ?_, rfl⟩
      have hne : path' ≠ path := by
        intro heq
        subst heq
        exact hid (congrArg CMService.id (Option.some.inj (hf.symm.trans hl)))
      rw [ManagerState.setService, AList.lookup_insert_ne hne]
      exact hf

/-- A function that creates no context where one is keeps everything. -/
theorem keeps_of_moves (hg : Good s) (hl : s.cmServices.lookup path = some service)
    (hm : Moves service s.signals service' signals') :
    Good (s.setService path service' signals') ∧
      (Kept s → Kept (s.setService path service' signals')) :=
  ⟨good_setService hg hl hm.effect hm.known,
    fun h => (kept_iff hg h hl hm.effect).2 (hm.alone (h.alone path service hl))⟩

/-! ## Services come and go -/

/-- A service of the manager after one was added is the new one or was there. -/
theorem lookup_add {properties : List Property} {port : Nat} {path' : Str} {found : CMService}
    (hf : (cmServiceAdd properties path port s).cmServices.lookup path' = some found) :
    path' = path ∧ found.id = s.nextService ∧ found.contextId = none ∧ found.timeout = false ∨
      path' ≠ path ∧ s.cmServices.lookup path' = some found := by
  by_cases hne : path' = path
  · subst hne
    rw [cmServiceAdd, AList.lookup_insert] at hf
    obtain rfl := Option.some.inj hf
    exact .inl ⟨rfl, rfl, rfl, rfl⟩
  · rw [cmServiceAdd, AList.lookup_insert_ne hne] at hf
    exact .inr ⟨hne, hf⟩

theorem good_add (hg : Good s) (properties : List Property) (port : Nat) :
    Good (cmServiceAdd properties path port s) := by
  refine ⟨fun path' found hf => ?_, fun p p' found found' hf hf' hid => ?_,
    fun path' found c hf hc => ?_, fun id c hmem => ?_⟩
  · show found.id < s.nextService + 1
    rcases lookup_add hf with ⟨-, hid, -⟩ | ⟨-, hold⟩
    · omega
    · have := hg.live path' found hold
      omega
  · rcases lookup_add hf with ⟨hp, hnew, -⟩ | ⟨-, hold⟩
    · rcases lookup_add hf' with ⟨hp', -⟩ | ⟨-, hold'⟩
      · exact hp.trans hp'.symm
      · have := hg.live p' found' hold'
        omega
    · rcases lookup_add hf' with ⟨-, hnew, -⟩ | ⟨-, hold'⟩
      · have := hg.live p found hold
        omega
      · exact hg.unique p p' found found' hold hold' hid
  · rcases lookup_add hf with ⟨-, -, hnone, -⟩ | ⟨-, hold⟩
    · rw [hnone] at hc
      cases hc
    · exact hg.announced path' found c hold hc
  · obtain ⟨hid, hc⟩ := hg.mentioned id c hmem
    exact ⟨Nat.lt_succ_of_lt hid, hc⟩

/-- A new service has no context and no timer. -/
theorem kept_add (hg : Good s) (h : Kept s) (hl : s.cmServices.lookup path = none)
    (properties : List Property) (port : Nat) : Kept (cmServiceAdd properties path port s) := by
  refine ⟨fun path' found hf => ?_, fun id c ha => ?_, h.created⟩
  · rcases lookup_add hf with ⟨-, hid, hnone, htimeout⟩ | ⟨-, hold⟩
    · refine ⟨fun c ha => ?_, h.created, fun _ => ⟨htimeout, hnone⟩⟩
      have hlt := (hg.mentioned found.id c (ne_nil_of_announced ha)).1
      omega
    · exact h.alone path' found hold
  · obtain ⟨path', found, hf, hid⟩ := h.listed id c ha
    have hne : path' ≠ path := by
      intro heq
      rw [heq, hl] at hf
      cases hf
    refine ⟨path', found, ?_, hid⟩
    rw [cmServiceAdd, AList.lookup_insert_ne hne]
    exact hf

theorem serviceAdd_spec (hg : Good s) (port : Nat) (entry : Entry) :
    Good (serviceAdd port s entry) ∧ (Kept s → Kept (serviceAdd port s entry)) := by
  unfold serviceAdd
  split
  · exact ⟨hg, fun h => h⟩
  · split
    · rename_i hl
      exact ⟨good_add hg entry.properties port, fun h => kept_add hg h hl entry.properties port⟩
    · rename_i service hl
      exact keeps_of_moves hg hl
        (cmServiceUpdate_moves (hg.known hl) entry.initialise entry.properties port)

/-- A service that is left after this one was removed has another number. -/
theorem lookup_remove (hg : Good s) (hl : s.cmServices.lookup path = some service) {path' : Str}
    {found : CMService} (hf : (s.cmServices.erase path).lookup path' = some found) :
    s.cmServices.lookup path' = some found ∧ found.id ≠ service.id := by
  have hne : path' ≠ path := by
    intro heq
    rw [heq, AList.lookup_erase] at hf
    cases hf
  rw [AList.lookup_erase_ne hne] at hf
  exact ⟨hf, hg.ne_id hl hne hf⟩

theorem good_remove (hg : Good s) (hl : s.cmServices.lookup path = some service)
    (he : Effect service s.signals service' signals') (hk : Known service' signals') :
    Good { s with cmServices := s.cmServices.erase path, signals := signals' } := by
  refine ⟨fun path' found hf => hg.live path' found (lookup_remove hg hl hf).1,
    fun p p' found found' hf hf' hid =>
      hg.unique p p' found found' (lookup_remove hg hl hf).1 (lookup_remove hg hl hf').1 hid,
    fun path' found c hf hc => ?_, fun id c hmem => ⟨?_, hk.fresh id c hmem⟩⟩
  · obtain ⟨hold, hid⟩ := lookup_remove hg hl hf
    exact (he.announced_iff hid c).2 (hg.announced path' found c hold hc)
  · by_cases hid : id = service.id
    · rw [hid]
      exact hg.live path service hl
    · exact (hg.mentioned id c (he.others id c hid ▸ hmem)).1

/-- Nothing is announced any more for a service that was alone and has no context. -/
theorem kept_remove (hg : Good s) (h : Kept s) (hl : s.cmServices.lookup path = some service)
    (he : Effect service s.signals service' signals') (ha : Alone service' signals')
    (hnone : service'.contextId = none) :
    Kept { s with cmServices := s.cmServices.erase path, signals := signals' } := by
  refine ⟨fun path' found hf => ?_, fun id c hannounced => ?_, ha.created⟩
  · obtain ⟨hold, hid⟩ := lookup_remove hg hl hf
    have halone := h.alone path' found hold
    exact ⟨fun c hc => halone.owns c ((he.announced_iff hid c).1 hc), ha.created, halone.inactive⟩
  · by_cases hid : id = service.id
    · rw [hid, ← he.id] at hannounced
      have howns := ha.owns c hannounced
      rw [hnone] at howns
      cases howns
    · obtain ⟨path', found, hf, rfl⟩ := h.listed id c ((he.announced_iff hid c).1 hannounced)
      have hne : path' ≠ path := by
        intro heq
        subst heq
        exact hid (congrArg CMService.id (Option.some.inj (hf.symm.trans hl)))
      exact ⟨path', found, (AList.lookup_erase_ne hne).trans hf, rfl⟩

/-- A service that is freed withdraws its context. -/
theorem serviceRemove_spec (hg : Good s) (path : Str) :
    Good (serviceRemove s path) ∧ (Kept s → Kept (serviceRemove s path)) := by
  unfold serviceRemove
  split
  · exact ⟨hg, fun h => h⟩
  · rename_i service hl
    have hdelete := delete_moves (hg.known hl)
    exact ⟨good_remove hg hl hdelete.effect hdelete.known, fun h => kept_remove hg h hl hdelete.effect
      (hdelete.alone (h.alone path service hl)) (contextId_eq_none.2 delete_context)⟩

/-- What keeps everything does so over a list. -/
theorem foldl_spec {α : Type} {f : ManagerState → α → ManagerState}
    (hf : ∀ s a, Good s → Good (f s a) ∧ (Kept s → Kept (f s a))) (l : List α) (hg : Good s) :
    Good (l.foldl f s) ∧ (Kept s → Kept (l.foldl f s)) := by
  induction l generalizing s with
  | nil => exact ⟨hg, fun h => h⟩
  | cons a l ih =>
    obtain ⟨hgood, hkept⟩ := hf s a hg
    obtain ⟨hgood', hkept'⟩ := ih hgood
    exact ⟨hgood', fun h => hkept' (hkept h)⟩

theorem getPropertiesCb_spec (hg : Good s) (path : Str) (properties : List (Property × Initialise)) :
    Good (getPropertiesCb path properties s) ∧
      (Kept s → Kept (getPropertiesCb path properties s)) := by
  refine foldl_spec (fun s p hg => ?_) properties hg
  split
  · exact ⟨hg, fun h => h⟩
  · rename_i service hl
    exact keeps_of_moves hg hl (property_moves (hg.known hl) p.2 p.1)

/-! ## Steps -/

theorem lookup_of_ofCall {call : Nat × Str} (h : ofCall s call = some service) :
    s.cmServices.lookup call.2 = some service := (Option.filter_eq_some_iff.1 h).1

/-- The proxy of a service is there. -/
theorem serviceProxyNewCb_spec (hg : Good s) (hl : s.cmServices.lookup path = some service)
    (created : Bool) (initialise : Initialise) :
    Good (serviceProxyNewCb path created initialise service s) ∧
      (Kept s → (Kept (serviceProxyNewCb path created initialise service s) ↔
        (created = true → service.current = .active → service.context = none ∧
          (initialise service.iface service.name service.port = none → service.timeout = false)))) := by
  unfold serviceProxyNewCb
  cases created with
  | false => exact ⟨hg, fun h => ⟨fun _ hf => absurd hf Bool.false_ne_true, fun _ => h⟩⟩
  | true =>
    have hk := hg.known hl
    have hsame : Same service { service with proxy := true } := ⟨rfl, rfl, rfl, rfl⟩
    obtain ⟨heffect, hknown⟩ := use_spec initialise (hsame.known hk)
    have he := (hsame.moves hk).effect.trans heffect
    have hgood := good_setService hg hl he hknown
    refine ⟨⟨hgood.live, hgood.unique, hgood.announced, hgood.mentioned⟩, fun h => ?_⟩
    have hiff := (kept_iff hg h hl he).trans
      (use_iff initialise (hsame.known hk) (hsame.alone (h.alone path service hl)))
    refine ⟨fun ht _ => ?_, fun hc => ?_⟩
    · exact hiff.1 ⟨ht.alone, ht.listed, ht.created⟩
    · obtain ⟨halone, hlisted, hcreated⟩ := hiff.2 (hc rfl)
      exact ⟨halone, hlisted, hcreated⟩

/-- A call for a proxy completes. -/
theorem proxyNew_spec (hg : Good s) {i : Nat} {created : Bool} {call : Nat × Str}
    (hcall : s.proxyCalls[i]? = some call)
    (hstep : (match ofCall { s with proxyCalls := s.proxyCalls.eraseIdx i } call with
      | none => some { s with proxyCalls := s.proxyCalls.eraseIdx i }
      | some service => some (serviceProxyNewCb call.2 created initialise service
          { s with proxyCalls := s.proxyCalls.eraseIdx i })) = some t) :
    Good t ∧ (Kept s → (Kept t ↔ WithoutContext s (.proxyNew i created initialise))) := by
  have hg' : Good { s with proxyCalls := s.proxyCalls.eraseIdx i } :=
    ⟨hg.live, hg.unique, hg.announced, hg.mentioned⟩
  have hkept : Kept s → Kept { s with proxyCalls := s.proxyCalls.eraseIdx i } :=
    fun h => ⟨h.alone, h.listed, h.created⟩
  split at hstep
  · rename_i hcancelled
    obtain rfl := Option.some.inj hstep
    refine ⟨hg', fun h => iff_of_true (hkept h) fun _ call' service hcall' hof => ?_⟩
    obtain rfl := Option.some.inj (hcall.symm.trans hcall')
    exact absurd (hcancelled.symm.trans hof) nofun
  · rename_i service hof
    obtain rfl := Option.some.inj hstep
    obtain ⟨hgood, hiff⟩ := serviceProxyNewCb_spec hg' (lookup_of_ofCall hof) created initialise
    refine ⟨hgood, fun h => (hiff (hkept h)).trans ⟨fun hc hcreated call' service' hcall' hof' => ?_,
      fun hc hcreated => hc hcreated call service hcall hof⟩⟩
    obtain rfl := Option.some.inj (hcall.symm.trans hcall')
    obtain rfl : service = service' := Option.some.inj (hof.symm.trans hof')
    exact hc hcreated

/-- A step keeps the invariant, and the services with single contexts if and only if it creates one
where there is none. -/
theorem step_spec (hg : Good s) (hstep : step s e = some t) :
    Good t ∧ (Kept s → (Kept t ↔ WithoutContext s e)) := by
  have hfree : ∀ {u : ManagerState} {Q : Prop}, Good u ∧ (Kept s → Kept u) → Q →
      Good u ∧ (Kept s → (Kept u ↔ Q)) :=
    fun hboth hq => ⟨hboth.1, fun h => iff_of_true (hboth.2 h) hq⟩
  cases e with
  | servicesChanged port added removed =>
    obtain rfl := Option.some.inj hstep
    obtain ⟨hgood, hkept⟩ := foldl_spec (fun s a h => serviceAdd_spec h port a) added hg
    obtain ⟨hgood', hkept'⟩ := foldl_spec (fun s a h => serviceRemove_spec h a) removed hgood
    exact hfree ⟨hgood', fun h => hkept' (hkept h)⟩ trivial
  | proxyNew i created initialise =>
    obtain ⟨call, hcall, hstep⟩ := Option.bind_eq_some_iff.1 hstep
    exact proxyNew_spec hg hcall hstep
  | propertiesGot i properties =>
    obtain ⟨call, hcall, hstep⟩ := Option.bind_eq_some_iff.1 hstep
    have hg' : Good { s with propertyCalls := s.propertyCalls.eraseIdx i } :=
      ⟨hg.live, hg.unique, hg.announced, hg.mentioned⟩
    have hkept : Kept s → Kept { s with propertyCalls := s.propertyCalls.eraseIdx i } :=
      fun h => ⟨h.alone, h.listed, h.created⟩
    dsimp only at hstep
    split at hstep
    · obtain rfl := Option.some.inj hstep
      exact hfree ⟨hg', hkept⟩ trivial
    · obtain rfl := Option.some.inj hstep
      obtain ⟨hgood, hgot⟩ := getPropertiesCb_spec hg' call.2 properties
      exact hfree ⟨hgood, fun h => hgot (hkept h)⟩ trivial
  | propertyChanged path property initialise =>
    obtain ⟨service, hl, hstep⟩ := Option.bind_eq_some_iff.1 hstep
    obtain ⟨-, hstep⟩ := Option.ite_none_right_eq_some.1 hstep
    obtain rfl := Option.some.inj hstep
    exact hfree (keeps_of_moves hg hl (property_moves (hg.known hl) initialise property)) trivial
  | timeout path initialise =>
    obtain ⟨service, hl, hstep⟩ := Option.bind_eq_some_iff.1 hstep
    obtain ⟨-, hstep⟩ := Option.ite_none_right_eq_some.1 hstep
    obtain rfl := Option.some.inj hstep
    obtain ⟨he, hknown⟩ := timeout_spec initialise (hg.known hl)
    refine ⟨good_setService hg hl he hknown, fun h => (kept_iff hg h hl he).trans ?_⟩
    rw [timeout_iff initialise (hg.known hl) (h.alone path service hl)]
    refine ⟨fun hc found hf => ?_, fun hc => hc service hl⟩
    obtain rfl := Option.some.inj (hl.symm.trans hf)
    exact hc

/-! ## The main result -/

/-- **Every service always has at most its current context announced, and none while it is inactive,
exactly where contexts are created for services without one.** -/
theorem single_context_iff (es : List Event) (t : ManagerState) (h : Run step AnyStep .init es t) :
    Always step Single .init es ↔ Run step WithoutContext .init es t := by
  refine Run.always_iff (fun s e t hg hstep => (step_spec hg hstep).1)
    (fun s e t hg hsingle hstep => ?_) good_init ((single_iff good_init).2 kept_init) h
  obtain ⟨hgood, hiff⟩ := step_spec hg hstep
  rw [single_iff hgood]
  exact hiff ((single_iff hg).1 hsingle)

/-- Every context is initialised. -/
def initialised : Initialise := fun iface name _ => some ⟨iface, name⟩

/-- The service `/wifi` is added while it is inactive, and becomes active. -/
def activatedEvents : List Event :=
  [.servicesChanged 0 [⟨"/wifi".toList, [.state "idle".toList, .ethernet (some "wlan0".toList)],
      initialised⟩] [],
    .servicesChanged 0 [⟨"/wifi".toList, [.state "ready".toList], initialised⟩] []]

/-- It gets its context by its timer, and becomes inactive after its proxy is there. -/
def idleEvents : List Event := activatedEvents ++ [.timeout "/wifi".toList initialised,
  .servicesChanged 0 [⟨"/wifi".toList, [.state "idle".toList], initialised⟩] [],
  .proxyNew 0 true initialised]

theorem single_context_idle : ∃ t, Run step AnyStep .init idleEvents t ∧
    t.signals.log = [((0, 0), true), ((0, 0), false)] ∧
    (Always step Single .init idleEvents ↔ Run step WithoutContext .init idleEvents t) := by
  have hlast : (idleEvents.foldlM step .init).map (fun t => t.signals.log) =
      some [((0, 0), true), ((0, 0), false)] := by decide
  obtain ⟨t, hrun, hlog⟩ := Run.exists_of_foldlM hlast
  exact ⟨t, hrun, hlog, single_context_iff idleEvents t hrun⟩

/-- The proxy is there after the timer has created a context: the service creates another one. -/
theorem two_contexts : ∃ es t, Run step AnyStep .init es t ∧ ¬ Single t ∧
    t.signals.log = [((0, 0), true), ((0, 1), true)] ∧
      t.signals.creations = [(0, none), (0, some 0)] := by
  let es : List Event := activatedEvents ++ [.timeout "/wifi".toList initialised,
    .proxyNew 0 true initialised]
  have hlast : (es.foldlM step .init).map (fun t => (t.signals.log, t.signals.creations)) =
      some ([((0, 0), true), ((0, 1), true)], [(0, none), (0, some 0)]) := by decide
  obtain ⟨t, hrun, hend⟩ := Run.exists_of_foldlM hlast
  obtain ⟨hlog, hcreations⟩ := Prod.mk.inj hend
  refine ⟨es, t, hrun, fun hsingle => ?_, hlog, hcreations⟩
  have hcreated := hsingle.created (0, some 0) (by rw [hcreations]; decide)
  cases hcreated

end GUPnP.ConnmanManager
