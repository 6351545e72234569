import GUPnP.Base.Signals
import GUPnP.ConnmanManager.Model

/-!
# What the functions for a service do

What matters of a service is its number, its current context, its state and its timer (`Same`). Each
function for a service only emits signals for this service (`Effect`), and its current context stays
announced (`Known`). All but two of them also keep that it has no other (`Alone`); those two create a
context where the service should have none (`createOrInactive_iff`).
-/

set_option autoImplicit false

namespace GUPnP.ConnmanManager

variable {service service' service'' : CMService} {signals signals' signals'' : Signals}
  {initialise : Initialise}

/-! ## Announced contexts -/

/-- The context was announced for the service, and not withdrawn since. -/
def Announced (signals : Signals) (service context : Nat) : Prop :=
  (signalsOf (service, context) signals.log).getLast? = some true

/-- The number of the current context. -/
def CMService.contextId (service : CMService) : Option Nat := service.context.map Context.id

theorem contextId_eq_none : service.contextId = none ↔ service.context = none := Option.map_eq_none_iff

/-- The current context is announced, and the numbers of contexts are counted up. -/
structure Known (service : CMService) (signals : Signals) : Prop where
  announced : ∀ c, service.contextId = some c → Announced signals service.id c
  fresh : ∀ id c, signalsOf (id, c) signals.log ≠ [] → c < signals.nextContext

/-- The service has no announced context but its current one, none was created while one was current,
and while it is inactive it has none and no timer. -/
structure Alone (service : CMService) (signals : Signals) : Prop where
  owns : ∀ c, Announced signals service.id c → service.contextId = some c
  created : ∀ creation ∈ signals.creations, creation.2 = none
  inactive : service.current = .inactive → service.timeout = false ∧ service.contextId = none

/-- Only signals for this service are emitted. -/
structure Effect (service : CMService) (signals : Signals) (service' : CMService)
    (signals' : Signals) : Prop where
  id : service'.id = service.id
  next : signals.nextContext ≤ signals'.nextContext
  others : ∀ id c, id ≠ service.id →
    signalsOf (id, c) signals'.log = signalsOf (id, c) signals.log

/-- What a function does that creates no context where one is. -/
structure Moves (service : CMService) (signals : Signals) (service' : CMService)
    (signals' : Signals) : Prop where
  effect : Effect service signals service' signals'
  known : Known service' signals'
  alone : Alone service signals → Alone service' signals'

theorem Effect.trans (h : Effect service signals service' signals')
    (h' : Effect service' signals' service'' signals'') :
    Effect service signals service'' signals'' where
  id := h'.id.trans h.id
  next := Nat.le_trans h.next h'.next
  others id c hne := (h'.others id c (h.id ▸ hne)).trans (h.others id c hne)

theorem Moves.trans (h : Moves service signals service' signals')
    (h' : Moves service' signals' service'' signals'') : Moves service signals service'' signals'' :=
  ⟨h.effect.trans h'.effect, h'.known, fun ha => h'.alone (h.alone ha)⟩

/-- The services agree in what matters here. -/
structure Same (service service' : CMService) : Prop where
  id : service'.id = service.id
  contextId : service'.contextId = service.contextId
  current : service'.current = service.current
  timeout : service'.timeout = service.timeout

theorem Same.alone (h : Same service service') (ha : Alone service signals) :
    Alone service' signals where
  owns c hc := by
    rw [h.contextId]
    exact ha.owns c (h.id ▸ hc)
  created := ha.created
  inactive hinactive := by
    rw [h.timeout, h.contextId]
    exact ha.inactive (h.current ▸ hinactive)

theorem Same.known (h : Same service service') (hk : Known service signals) :
    Known service' signals where
  announced c hc := by
    rw [h.id]
    exact hk.announced c (h.contextId ▸ hc)
  fresh := hk.fresh

theorem Same.moves (h : Same service service') (hk : Known service signals) :
    Moves service signals service' signals :=
  ⟨⟨h.id, Nat.le_refl _, fun _ _ _ => rfl⟩, h.known hk, h.alone⟩

theorem Known.moves (hk : Known service signals) : Moves service signals service signals :=
  Same.moves ⟨rfl, rfl, rfl, rfl⟩ hk

/-! ## One more signal -/

section
variable {id c id' c' : Nat} {available : Bool}

theorem signalsOf_emit_ne (h : signals'.log = signals.log ++ [((id, c), available)])
    (hne : (id', c') ≠ (id, c)) :
    signalsOf (id', c') signals'.log = signalsOf (id', c') signals.log := by
  rw [h, signalsOf_append, signalsOf_ne (Ne.symm hne), List.append_nil]

/-- The context of the signal is announced by it or not. -/
theorem announced_emit_self (h : signals'.log = signals.log ++ [((id, c), available)]) :
    Announced signals' id c ↔ available = true := by
  rw [Announced, h, signalsOf_append, signalsOf_self, List.getLast?_append]
  simp

theorem announced_emit_ne (h : signals'.log = signals.log ++ [((id, c), available)])
    (hne : (id', c') ≠ (id, c)) : Announced signals' id' c' ↔ Announced signals id' c' := by
  rw [Announced, signalsOf_emit_ne h hne, Announced]

theorem effect_emit (h : signals'.log = signals.log ++ [((service.id, c), available)])
    (hid : service'.id = service.id) (hnext : signals.nextContext ≤ signals'.nextContext) :
    Effect service signals service' signals' :=
  ⟨hid, hnext, fun _ _ hne => signalsOf_emit_ne h fun heq => hne (congrArg Prod.fst heq)⟩

/-- The numbers are counted up if the one of the signal is. -/
theorem fresh_emit (h : signals'.log = signals.log ++ [((id, c), available)])
    (hk : Known service signals) (hnext : signals.nextContext ≤ signals'.nextContext)
    (hc : c < signals'.nextContext) :
    ∀ id' c', signalsOf (id', c') signals'.log ≠ [] → c' < signals'.nextContext := by
  intro id' c' hmem
  by_cases hsame : (id', c') = (id, c)
  · obtain ⟨-, rfl⟩ := Prod.mk.inj hsame
    exact hc
  · rw [signalsOf_emit_ne h hsame] at hmem
    exact Nat.lt_of_lt_of_le (hk.fresh id' c' hmem) hnext

end

theorem ne_nil_of_announced {id c : Nat} (h : Announced signals id c) :
    signalsOf (id, c) signals.log ≠ [] := by
  intro hnil
  rw [Announced, hnil] at h
  cases h

/-! ## The context of a service -/

/-- A context is withdrawn. -/
theorem delete_moves (hk : Known service signals) :
    Moves service signals (serviceContextDelete service signals).1
      (serviceContextDelete service signals).2 := by
  unfold serviceContextDelete
  cases hcontext : service.context with
  | none => exact hk.moves
  | some context =>
    have hid : service.contextId = some context.id := by rw [CMService.contextId, hcontext]; rfl
    have hlt := hk.fresh _ _ (ne_nil_of_announced (hk.announced context.id hid))
    refine ⟨effect_emit rfl rfl (Nat.le_refl _), ⟨fun c hc => ?_, ?_⟩, fun ha => ?_⟩
    · cases hc
    · exact fresh_emit rfl hk (Nat.le_refl _) hlt
    refine ⟨fun c hc => ?_, ha.created, fun hinactive => ⟨(ha.inactive hinactive).1, rfl⟩⟩
    -- the current context was the only one
    by_cases hsame : c = context.id
    · subst hsame
      exact absurd ((announced_emit_self rfl).1 hc) Bool.false_ne_true
    · have hbefore := (announced_emit_ne rfl fun heq => hsame (congrArg Prod.snd heq)).1 hc
      have howns := ha.owns c hbefore
      rw [hid] at howns
      exact absurd (Option.some.inj howns).symm hsame

theorem delete_context : (serviceContextDelete service signals).1.context = none := by
  unfold serviceContextDelete
  cases hcontext : service.context with
  | none => exact hcontext
  | some context => rfl

theorem delete_state : (serviceContextDelete service signals).1.current = service.current ∧
    (serviceContextDelete service signals).1.timeout = service.timeout := by
  unfold serviceContextDelete
  cases service.context with
  | none => exact ⟨rfl, rfl⟩
  | some context => exact ⟨rfl, rfl⟩

/-- A context is created or not. It is one more if there is one already. -/
theorem create_spec (initialise : Initialise) (hk : Known service signals) :
    Effect service signals (serviceContextCreate initialise service signals).2.1
        (serviceContextCreate initialise service signals).2.2 ∧
      Known (serviceContextCreate initialise service signals).2.1
        (serviceContextCreate initialise service signals).2.2 := by
  unfold serviceContextCreate
  cases hclient : initialise service.iface service.name service.port with
  | none =>
    refine ⟨⟨rfl, Nat.le_refl _, fun _ _ _ => rfl⟩, ⟨fun c hc => ?_, hk.fresh⟩⟩
    cases hc
  | some client =>
    refine ⟨effect_emit rfl rfl (Nat.le_succ _), ⟨fun c hc => ?_, ?_⟩⟩
    · obtain rfl := Option.some.inj hc
      exact (announced_emit_self rfl).2 rfl
    · exact fresh_emit rfl hk (Nat.le_succ _) (Nat.lt_succ_self _)

/-- Where there is none, it is the only one. -/
theorem create_alone (initialise : Initialise) (ha : Alone service signals)
    (hnone : service.contextId = none)
    (hactive : service.current = .active) :
    Alone (serviceContextCreate initialise service signals).2.1
      (serviceContextCreate initialise service signals).2.2 := by
  unfold serviceContextCreate
  cases hclient : initialise service.iface service.name service.port with
  | none =>
    refine ⟨fun c hc => ?_, ha.created, fun hinactive => ?_⟩
    · have howns := ha.owns c hc
      rw [hnone] at howns
      cases howns
    · exact absurd (hactive.symm.trans hinactive) nofun
  | some client =>
    refine ⟨fun c hc => ?_, fun creation hmem => ?_, fun hinactive => ?_⟩
    · by_cases hsame : c = signals.nextContext
      · rw [hsame]
        rfl
      · have hbefore := (announced_emit_ne rfl fun heq => hsame (congrArg Prod.snd heq)).1 hc
        have howns := ha.owns c hbefore
        rw [hnone] at howns
        cases howns
    · rcases List.mem_append.1 hmem with hmem | hmem
      · exact ha.created creation hmem
      · obtain rfl := List.mem_singleton.1 hmem
        exact hnone
    · exact absurd (hactive.symm.trans hinactive) nofun

/-- The context is replaced by another one, or by none. -/
theorem replace_moves (initialise : Initialise) (hk : Known service signals)
    (hcontext : service.context ≠ none) :
    Moves service signals (serviceContextReplace initialise service signals).1
      (serviceContextReplace initialise service signals).2 := by
  have hdelete := delete_moves hk
  obtain ⟨heffect, hknown⟩ := create_spec initialise hdelete.known
  refine ⟨hdelete.effect.trans heffect, hknown, fun ha => ?_⟩
  have hactive : service.current = .active := by
    cases hcurrent : service.current with
    | active => rfl
    | inactive => exact absurd (contextId_eq_none.1 (ha.inactive hcurrent).2) hcontext
  exact create_alone initialise (hdelete.alone ha) (contextId_eq_none.2 delete_context)
    (delete_state.1.trans hactive)

theorem update_moves (hk : Known service signals) (newState : CMServiceState) :
    Moves service signals (serviceContextUpdate newState service signals).1
      (serviceContextUpdate newState service signals).2 := by
  unfold serviceContextUpdate
  split
  · exact hk.moves
  · rename_i hne
    cases newState with
    | active =>
      refine ⟨⟨rfl, Nat.le_refl _, fun _ _ _ => rfl⟩, ⟨hk.announced, hk.fresh⟩, fun ha => ?_⟩
      exact ⟨ha.owns, ha.created, fun hinactive => absurd hinactive nofun⟩
    | inactive =>
      have hk' : Known { service with timeout := false } signals := ⟨hk.announced, hk.fresh⟩
      have hdelete := delete_moves hk'
      refine ⟨⟨hdelete.effect.id, hdelete.effect.next, hdelete.effect.others⟩,
        ⟨hdelete.known.announced, hdelete.known.fresh⟩, fun ha => ?_⟩
      have ha' : Alone { service with timeout := false } signals :=
        ⟨ha.owns, ha.created, fun hinactive => ⟨rfl, (ha.inactive hinactive).2⟩⟩
      have hgone := hdelete.alone ha'
      exact ⟨hgone.owns, hgone.created, fun _ =>
        ⟨delete_state.2, contextId_eq_none.2 delete_context⟩⟩

/-- **A context is created for an active service.** It has no other exactly where it had none, and
where this fails without a timer that is armed. -/
theorem createOrInactive_iff (initialise : Initialise) (hk : Known service signals)
    (ha : Alone service signals)
    (hactive : service.current = .active) :
    Alone (serviceContextCreateOrInactive initialise service signals).1
        (serviceContextCreateOrInactive initialise service signals).2 ↔
      service.context = none ∧
        (initialise service.iface service.name service.port = none → service.timeout = false) := by
  unfold serviceContextCreateOrInactive serviceContextCreate
  cases hclient : initialise service.iface service.name service.port with
  | none =>
    constructor
    · intro hafter
      refine ⟨contextId_eq_none.1 ?_, fun _ => (hafter.inactive rfl).1⟩
      cases hid : service.contextId with
      | none => rfl
      | some c => exact absurd (hafter.owns c (hk.announced c hid)) nofun
    · intro hboth
      obtain ⟨hnone, htimeout⟩ := hboth
      refine ⟨fun c hc => ?_, ha.created, fun _ => ⟨htimeout rfl, rfl⟩⟩
      have howns := ha.owns c hc
      rw [contextId_eq_none.2 hnone] at howns
      cases howns
  | some client =>
    have hcreate := create_alone initialise ha
    rw [serviceContextCreate, hclient] at hcreate
    constructor
    · intro hafter
      have hcreated := hafter.created (service.id, service.contextId)
        (List.mem_append_right _ List.mem_cons_self)
      exact ⟨contextId_eq_none.1 hcreated, fun hf => absurd hf nofun⟩
    · intro hboth
      exact hcreate (contextId_eq_none.2 hboth.1) hactive

theorem createOrInactive_spec (initialise : Initialise) (hk : Known service signals) :
    Effect service signals (serviceContextCreateOrInactive initialise service signals).1
        (serviceContextCreateOrInactive initialise service signals).2 ∧
      Known (serviceContextCreateOrInactive initialise service signals).1
        (serviceContextCreateOrInactive initialise service signals).2 := by
  obtain ⟨heffect, hknown⟩ := create_spec initialise hk
  unfold serviceContextCreateOrInactive
  split
  · rename_i heq
    rw [heq] at heffect hknown
    exact ⟨heffect, hknown⟩
  · rename_i heq
    rw [heq] at heffect hknown
    exact ⟨⟨heffect.id, heffect.next, heffect.others⟩, ⟨hknown.announced, hknown.fresh⟩⟩

/-! ## Properties -/

theorem same_setNetwork (network : Option Str) (service : CMService) :
    Same service (setNetwork network service) := by
  refine ⟨rfl, ?_, rfl, rfl⟩
  rw [CMService.contextId, CMService.contextId, setNetwork, Option.map_map]
  rfl

theorem property_moves (hk : Known service signals) (initialise : Initialise) (property : Property) :
    Moves service signals (onServicePropertyChanged initialise property service signals).1
      (onServicePropertyChanged initialise property service signals).2 := by
  unfold onServicePropertyChanged
  cases property with
  | name value =>
    have hsame : Same service { service with name := some value } := ⟨rfl, rfl, rfl, rfl⟩
    exact (hsame.moves hk).trans ((same_setNetwork (some value) _).moves (hsame.known hk))
  | ethernet interface =>
    have hsame : Same service { service with iface := interface.or service.iface } :=
      ⟨rfl, rfl, rfl, rfl⟩
    dsimp only
    split
    · exact hsame.moves hk
    · rename_i context hcontext
      split
      · exact hsame.moves hk
      · refine (hsame.moves hk).trans (replace_moves initialise (hsame.known hk) ?_)
        intro hnone
        rw [hnone] at hcontext
        cases hcontext
  | state value => exact update_moves hk (stateOf value)
  | other => exact hk.moves

theorem updateName_moves (hk : Known service signals) (name : Option Str) :
    Moves service signals (updateName name service) signals := by
  unfold updateName
  split
  · exact hk.moves
  · rename_i name
    split
    · exact hk.moves
    · have hsame : Same service { service with name := some name } := ⟨rfl, rfl, rfl, rfl⟩
      exact (hsame.moves hk).trans ((same_setNetwork (some name) _).moves (hsame.known hk))

theorem updateIface_moves (hk : Known service signals) (initialise : Initialise)
    (iface : Option Str) :
    Moves service signals (updateIface initialise iface service signals).1
      (updateIface initialise iface service signals).2 := by
  unfold updateIface
  split
  · exact hk.moves
  · rename_i iface
    have hsame : Same service { service with iface := some iface } := ⟨rfl, rfl, rfl, rfl⟩
    split
    · exact hk.moves
    · dsimp only
      split
      · rename_i hcontext
        exact (hsame.moves hk).trans
          (replace_moves initialise (hsame.known hk) (Option.isSome_iff_ne_none.1 hcontext))
      · exact hsame.moves hk

theorem cmServiceUpdate_moves (hk : Known service signals) (initialise : Initialise)
    (properties : List Property) (port : Nat) :
    Moves service signals (cmServiceUpdate initialise properties port service signals).1
      (cmServiceUpdate initialise properties port service signals).2 := by
  have hname := updateName_moves hk (nameIn properties)
  have hiface := updateIface_moves hname.known initialise (ifaceIn properties)
  unfold cmServiceUpdate
  dsimp only
  generalize updateIface initialise (ifaceIn properties) (updateName (nameIn properties) service)
    signals = moved at hiface
  have hport : Same moved.1 { moved.1 with port := port } := ⟨rfl, rfl, rfl, rfl⟩
  exact ((hname.trans hiface).trans (hport.moves hiface.known)).trans
    (update_moves (hport.known hiface.known) (stateIn properties))

/-! ## The timer and the proxy -/

/-- The timer fires. -/
theorem timeout_spec (initialise : Initialise) (hk : Known service signals) :
    Effect service signals (serviceContextCreateTimeout initialise service signals).1
        (serviceContextCreateTimeout initialise service signals).2 ∧
      Known (serviceContextCreateTimeout initialise service signals).1
        (serviceContextCreateTimeout initialise service signals).2 := by
  have hk' : Known { service with timeout := false } signals := ⟨hk.announced, hk.fresh⟩
  unfold serviceContextCreateTimeout
  dsimp only
  split
  · exact ⟨⟨rfl, Nat.le_refl _, fun _ _ _ => rfl⟩, hk'⟩
  · obtain ⟨heffect, hknown⟩ := createOrInactive_spec initialise hk'
    exact ⟨⟨heffect.id, heffect.next, heffect.others⟩, hknown⟩

theorem timeout_iff (initialise : Initialise) (hk : Known service signals)
    (ha : Alone service signals) :
    Alone (serviceContextCreateTimeout initialise service signals).1
        (serviceContextCreateTimeout initialise service signals).2 ↔
      (service.current = .active → service.context = none) := by
  have hk' : Known { service with timeout := false } signals := ⟨hk.announced, hk.fresh⟩
  have ha' : Alone { service with timeout := false } signals :=
    ⟨ha.owns, ha.created, fun hinactive => ⟨rfl, (ha.inactive hinactive).2⟩⟩
  unfold serviceContextCreateTimeout
  dsimp only
  split
  · rename_i hinactive
    exact ⟨fun _ hactive => absurd hactive hinactive, fun _ => ha'⟩
  · rename_i hactive
    have hactive := not_not.1 hactive
    rw [createOrInactive_iff initialise hk' ha' hactive]
    exact ⟨fun h _ => h.1, fun h => ⟨h hactive, fun _ => rfl⟩⟩

/-- The proxy is there. -/
theorem use_spec (initialise : Initialise) (hk : Known service signals) :
    Effect service signals (cmServiceUse initialise service signals).1
        (cmServiceUse initialise service signals).2 ∧
      Known (cmServiceUse initialise service signals).1
        (cmServiceUse initialise service signals).2 := by
  have hsame : Same service { service with subscribed := true } := ⟨rfl, rfl, rfl, rfl⟩
  unfold cmServiceUse
  dsimp only
  split
  · obtain ⟨heffect, hknown⟩ := createOrInactive_spec initialise (hsame.known hk)
    exact ⟨⟨heffect.id, heffect.next, heffect.others⟩, hknown⟩
  · exact ⟨(hsame.moves hk).effect, hsame.known hk⟩

theorem use_iff (initialise : Initialise) (hk : Known service signals) (ha : Alone service signals) :
    Alone (cmServiceUse initialise service signals).1 (cmServiceUse initialise service signals).2 ↔
      (service.current = .active → service.context = none ∧
        (initialise service.iface service.name service.port = none → service.timeout = false)) := by
  have hsame : Same service { service with subscribed := true } := ⟨rfl, rfl, rfl, rfl⟩
  unfold cmServiceUse
  dsimp only
  split
  · rename_i hactive
    rw [createOrInactive_iff initialise (hsame.known hk) (hsame.alone ha) hactive]
    exact ⟨fun h _ => h, fun h => h hactive⟩
  · rename_i hinactive
    exact ⟨fun _ hactive => absurd hactive hinactive, fun _ => hsame.alone ha⟩

end GUPnP.ConnmanManager
