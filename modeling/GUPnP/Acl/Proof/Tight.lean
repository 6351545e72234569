import GUPnP.Acl.Proof.Gate

/-!
# Handlers that are removed while a request waits

A decision reads the record of the handler, which may be freed by then. `tight_iff`: the gate is tight
exactly in the runs in which no request is allowed whose handler is gone.
-/

set_option autoImplicit false

namespace GUPnP.Acl

variable {s t : ContextState} {e : Event} {es : List Event} {log entries : List Entry}
  {request : Nat} {handler : AclServerHandler} {p : Pending}

/-! ## What a tight gate is -/

/-- The record of this handler is read, or its callback runs. -/
def Entry.Consults (h : Nat) : Entry → Prop
  | .consulted h' => h' = h
  | .invoked _ h' _ => h' = h
  | _ => False

/-- The gate was tight so far: it lets a request through at most once, only if the ACL of its arrival
allowed what it was asked about the request, and to the callback of the handler it arrived at, unless
that was removed. -/
structure Tight (s : ContextState) : Prop where
  once : Each (fun before x _ => ∀ r, x.Invokes r → ∀ x' ∈ before, ¬ x'.Invokes r) s.log
  admitted : Each (fun before x _ => ∀ r h call, x = .invoked r h call → Admitted before r h call)
    s.log
  arrivedOnce : Each (fun before x _ => ∀ r acl h data asked, x = .arrived r acl h data asked →
    ∀ x' ∈ before, ¬ x'.About r) s.log
  asked : ∀ r acl h data asked, .arrived r acl h data asked ∈ s.log →
    ∃ lookups handler, s.handlers[h]? = some handler ∧ asked = question lookups handler data
  wrapped : ∀ r h call, .invoked r h call ∈ s.log → ∃ handler, s.handlers[h]? = some handler ∧
    call.callback = handler.callback ∧ call.userData = handler.userData
  denied : ∀ r a asked, .answered r a asked false ∈ s.log →
    (∃ acl h data asked, .arrived r acl h data asked ∈ s.log ∧ .forbidden r data.message ∈ s.log) ∧
      ∀ x ∈ s.log, ¬ x.Invokes r
  removed : Each (fun before x _ => ∀ h, x.Consults h → .freed h ∉ before) s.log

/-- No request is allowed whose handler is gone. -/
def LiveDecisions (s : ContextState) : Event → Prop
  | .decided request true => ∀ p ∈ s.pending.lookup request, p.data.handler ∉ s.freed
  | _ => True

/-! ## The records of the handlers -/

/-- What the records are to the handlers of the server, the requests that wait and the log. -/
structure Records (s : ContextState) : Prop where
  registered_lt : ∀ path id, s.registered.lookup path = some id → id < s.handlers.length
  registered_inj : ∀ path path' id, s.registered.lookup path = some id →
    s.registered.lookup path' = some id → path = path'
  live : ∀ path id, s.registered.lookup path = some id → id ∉ s.freed
  freed_lt : ∀ id ∈ s.freed, id < s.handlers.length
  freed_log : ∀ id, .freed id ∈ s.log ↔ id ∈ s.freed
  pending_lt : ∀ r p, s.pending.lookup r = some p → p.data.handler < s.handlers.length
  asked : ∀ r acl h data asked, .arrived r acl h data asked ∈ s.log →
    ∃ lookups handler, s.handlers[h]? = some handler ∧ asked = question lookups handler data
  wrapped : ∀ r h call, .invoked r h call ∈ s.log → ∃ handler, s.handlers[h]? = some handler ∧
    call.callback = handler.callback ∧ call.userData = handler.userData

theorem records_init : Records .init where
  registered_lt _ _ h := by cases h
  registered_inj _ _ _ h := by cases h
  live _ _ h := by cases h
  freed_lt _ h := absurd h List.not_mem_nil
  freed_log _ := ⟨fun h => absurd h List.not_mem_nil, fun h => absurd h List.not_mem_nil⟩
  pending_lt _ _ h := by cases h
  asked _ _ _ _ _ h := absurd h List.not_mem_nil
  wrapped _ _ _ h := absurd h List.not_mem_nil

theorem records_remove (path : Str) (h : Records s) :
    Records (gupnpContextRemoveServerHandler path s) := by
  unfold gupnpContextRemoveServerHandler
  cases hl : s.registered.lookup path with
  | none => exact h
  | some id =>
    have hkept : ∀ path' id', (s.registered.erase path).lookup path' = some id' →
        path' ≠ path ∧ s.registered.lookup path' = some id' := by
      intro path' id' hl'
      have hne : path' ≠ path := by
        intro heq
        rw [heq, AList.lookup_erase] at hl'
        cases hl'
      rw [AList.lookup_erase_ne hne] at hl'
      exact ⟨hne, hl'⟩
    have hlog : ∀ x, (∀ i, x ≠ .freed i) → x ∈ s.log ++ [.freed id] → x ∈ s.log := by
      intro x hne hx
      rcases List.mem_append.1 hx with hx | hx
      · exact hx
      · exact absurd (List.mem_singleton.1 hx) (hne id)
    refine ⟨fun path' id' hl' => h.registered_lt path' id' (hkept path' id' hl').2,
      fun p p' id' hp hp' => h.registered_inj p p' id' (hkept p id' hp).2 (hkept p' id' hp').2,
      fun path' id' hl' hfreed => ?_, fun id' hid' => ?_, fun id' => ?_, h.pending_lt,
      fun r acl h' data asked hx => h.asked r acl h' data asked (hlog _ (fun i hi => by cases hi) hx),
      fun r h' call hx => h.wrapped r h' call (hlog _ (fun i hi => by cases hi) hx)⟩
    · obtain ⟨hne, hlookup⟩ := hkept path' id' hl'
      rcases List.mem_cons.1 hfreed with heq | hfreed
      · rw [heq] at hlookup
        exact hne (h.registered_inj path' path id hlookup hl)
      · exact h.live path' id' hlookup hfreed
    · rcases List.mem_cons.1 hid' with rfl | hid'
      · exact h.registered_lt path _ hl
      · exact h.freed_lt id' hid'
    · simp only [aclServerHandlerFree, ContextState.emit, List.mem_append, List.mem_cons,
        List.not_mem_nil, or_false, Entry.freed.injEq, h.freed_log id']
      exact or_comm

theorem records_addWithData (path : Str) (handler : AclServerHandler) (h : Records s) :
    Records (gupnpContextAddServerHandlerWithData path handler s) := by
  have h := records_remove path h
  unfold gupnpContextAddServerHandlerWithData
  generalize gupnpContextRemoveServerHandler path s = u at h ⊢
  have hcases : ∀ path' id, (u.registered.insert path u.handlers.length).lookup path' = some id →
      path' = path ∧ id = u.handlers.length ∨ u.registered.lookup path' = some id := by
    intro path' id hl
    by_cases hp : path' = path
    · subst hp
      rw [AList.lookup_insert] at hl
      exact .inl ⟨rfl, (Option.some.inj hl).symm⟩
    · rw [AList.lookup_insert_ne hp] at hl
      exact .inr hl
  have hlength : (u.handlers ++ [handler]).length = u.handlers.length + 1 := by simp
  have hgrow : ∀ (i : Nat) old, u.handlers[i]? = some old →
      (u.handlers ++ [handler])[i]? = some old := by
    intro i old hi
    rw [List.getElem?_append_left (List.getElem?_eq_some_iff.1 hi).1]
    exact hi
  refine ⟨fun path' id hl => ?_, fun p p' id hp hp' => ?_, fun path' id hl hfreed => ?_,
    fun id hid => ?_, h.freed_log, fun r p hp => ?_, fun r acl h' data asked hx => ?_,
    fun r h' call hx => ?_⟩
  · rw [hlength]
    rcases hcases path' id hl with ⟨-, rfl⟩ | hl
    · omega
    · have := h.registered_lt path' id hl
      omega
  · rcases hcases p id hp with ⟨rfl, rfl⟩ | hp
    · rcases hcases p' _ hp' with ⟨rfl, -⟩ | hp'
      · rfl
      · exact absurd (h.registered_lt p' _ hp') (Nat.lt_irrefl _)
    · rcases hcases p' id hp' with ⟨-, rfl⟩ | hp'
      · exact absurd (h.registered_lt p _ hp) (Nat.lt_irrefl _)
      · exact h.registered_inj p p' id hp hp'
  · rcases hcases path' id hl with ⟨-, rfl⟩ | hl
    · exact absurd (h.freed_lt _ hfreed) (Nat.lt_irrefl _)
    · exact h.live path' id hl hfreed
  · have := h.freed_lt id hid
    simp only [hlength]
    omega
  · have := h.pending_lt r p hp
    simp only [hlength]
    omega
  · obtain ⟨lookups, old, hold, hasked⟩ := h.asked r acl h' data asked hx
    exact ⟨lookups, old, hgrow h' old hold, hasked⟩
  · obtain ⟨old, hold, hcall⟩ := h.wrapped r h' call hx
    exact ⟨old, hgrow h' old hold, hcall⟩

/-- What requests leave alone of the records, and what they add to the log. -/
structure Frame (s t : ContextState) (entries : List Entry) : Prop where
  registered : t.registered = s.registered
  handlers : t.handlers = s.handlers
  freed : t.freed = s.freed
  log : t.log = s.log ++ entries
  unfreed : ∀ id, .freed id ∉ entries

theorem records_of_frame (h : Records s) (hf : Frame s t entries)
    (hpending : ∀ r p, t.pending.lookup r = some p → p.data.handler < s.handlers.length)
    (hasked : ∀ r acl h data asked, .arrived r acl h data asked ∈ entries →
      ∃ lookups handler, s.handlers[h]? = some handler ∧ asked = question lookups handler data)
    (hwrapped : ∀ r h call, .invoked r h call ∈ entries → ∃ handler,
      s.handlers[h]? = some handler ∧ call.callback = handler.callback ∧
        call.userData = handler.userData) : Records t := by
  obtain ⟨hregistered, hhandlers, hfreed, hlog, hunfreed⟩ := hf
  refine ⟨?_, ?_, ?_, ?_, fun id => ?_, ?_, fun r acl h' data asked hx => ?_, fun r h' call hx => ?_⟩
  · rw [hregistered, hhandlers]
    exact h.registered_lt
  · rw [hregistered]
    exact h.registered_inj
  · rw [hregistered, hfreed]
    exact h.live
  · rw [hfreed, hhandlers]
    exact h.freed_lt
  · rw [hlog, hfreed, List.mem_append, ← h.freed_log id]
    exact ⟨fun hx => hx.resolve_right (hunfreed id), .inl⟩
  · rw [hhandlers]
    exact hpending
  · rw [hhandlers]
    rw [hlog] at hx
    rcases List.mem_append.1 hx with hx | hx
    · exact h.asked r acl h' data asked hx
    · exact hasked r acl h' data asked hx
  · rw [hhandlers]
    rw [hlog] at hx
    rcases List.mem_append.1 hx with hx | hx
    · exact h.wrapped r h' call hx
    · exact hwrapped r h' call hx

/-- What may follow for a request at this handler. -/
def Outcome (id : Nat) (handler : AclServerHandler) : Entry → Prop
  | .arrived _ _ h data asked => h = id ∧ ∃ lookups, asked = question lookups handler data
  | .invoked _ h call => h = id ∧ call.callback = handler.callback ∧ call.userData = handler.userData
  | .consulted h => h = id
  | .freed _ => False
  | _ => True

theorem records_of_outcomes {id : Nat} (h : Records s) (hhandler : s.handlers[id]? = some handler)
    (hregistered : t.registered = s.registered) (hhandlers : t.handlers = s.handlers)
    (hfreed : t.freed = s.freed) (hlog : t.log = s.log ++ entries)
    (houtcome : ∀ x ∈ entries, Outcome id handler x)
    (hpending : ∀ r p, t.pending.lookup r = some p →
      s.pending.lookup r = some p ∨ p.data.handler = id) : Records t := by
  refine records_of_frame h ⟨hregistered, hhandlers, hfreed, hlog, fun i hi => houtcome _ hi⟩ ?_ ?_ ?_
  · intro r p hp
    rcases hpending r p hp with hp | hp
    · exact h.pending_lt r p hp
    · rw [hp]
      exact (List.getElem?_eq_some_iff.1 hhandler).1
  · intro r acl h' data asked hx
    obtain ⟨rfl, lookups, hasked⟩ := houtcome _ hx
    exact ⟨lookups, handler, hhandler, hasked⟩
  · intro r h' call hx
    obtain ⟨rfl, hcall⟩ := houtcome _ hx
    exact ⟨handler, hhandler, hcall⟩

/-- What a request at a handler does to the context. -/
theorem handler_spec (lookups : Lookups) (verdict : Verdict) (id : Nat) (handler : AclServerHandler)
    (data : Request) (s : ContextState) :
    ∃ entries, (gupnpAclServerHandler lookups verdict id handler data s).registered = s.registered ∧
      (gupnpAclServerHandler lookups verdict id handler data s).handlers = s.handlers ∧
      (gupnpAclServerHandler lookups verdict id handler data s).freed = s.freed ∧
      (gupnpAclServerHandler lookups verdict id handler data s).log = s.log ++ entries ∧
      (∀ x ∈ entries, Outcome id handler x) ∧
      ∀ r p, (gupnpAclServerHandler lookups verdict id handler data s).pending.lookup r = some p →
        s.pending.lookup r = some p ∨ p.data.handler = id := by
  have harrival : ∀ acl (rest : List Entry), (∀ x ∈ rest, Outcome id handler x) →
      ∀ x ∈ .arrived s.requests acl id data (question lookups handler data) :: .consulted id :: rest,
        Outcome id handler x := by
    intro acl rest hrest
    exact List.forall_mem_cons.2 ⟨⟨rfl, lookups, rfl⟩, List.forall_mem_cons.2 ⟨rfl, hrest⟩⟩
  unfold gupnpAclServerHandler
  dsimp only
  cases hacl : s.acl with
  | none =>
    refine ⟨_, rfl, rfl, rfl, List.append_assoc .., harrival _ _ ?_, fun r p hp => .inl hp⟩
    exact List.forall_mem_singleton.2 ⟨rfl, rfl, rfl⟩
  | some acl =>
    cases verdict with
    | sync allowed =>
      cases allowed with
      | true =>
        refine ⟨_, rfl, rfl, rfl, (List.append_assoc ..).trans (List.append_assoc ..),
          harrival _ _ ?_, fun r p hp => .inl hp⟩
        exact List.forall_mem_cons.2 ⟨trivial, List.forall_mem_singleton.2 ⟨rfl, rfl, rfl⟩⟩
      | false =>
        refine ⟨_, rfl, rfl, rfl, (List.append_assoc ..).trans (List.append_assoc ..),
          harrival _ _ ?_, fun r p hp => .inl hp⟩
        exact List.forall_mem_cons.2 ⟨trivial, List.forall_mem_singleton.2 trivial⟩
    | async =>
      refine ⟨_, rfl, rfl, rfl, rfl, harrival _ [] fun x hx => absurd hx List.not_mem_nil,
        fun r p hp => ?_⟩
      have hp : (s.pending.insert s.requests ⟨⟨data.message, data.path, data.query, id⟩, acl,
          question lookups handler data⟩).lookup r = some p := hp
      by_cases hr : r = s.requests
      · subst hr
        rw [AList.lookup_insert] at hp
        obtain rfl := Option.some.inj hp
        exact .inr rfl
      · rw [AList.lookup_insert_ne hr] at hp
        exact .inl hp

/-- What a decision does to the context. -/
theorem callback_spec (request : Nat) (allowed : Bool)
    (hhandler : s.handlers[p.data.handler]? = some handler) :
    ∃ entries, (gupnpAclAsyncCallback request p allowed s).registered = s.registered ∧
      (gupnpAclAsyncCallback request p allowed s).handlers = s.handlers ∧
      (gupnpAclAsyncCallback request p allowed s).freed = s.freed ∧
      (gupnpAclAsyncCallback request p allowed s).log = s.log ++ entries ∧
      (∀ x ∈ entries, Outcome p.data.handler handler x) ∧
      (∀ x ∈ entries, ∀ h, x.Consults h → allowed = true) ∧
      (allowed = true → .consulted p.data.handler ∈ entries) ∧
      ∀ r q, (gupnpAclAsyncCallback request p allowed s).pending.lookup r = some q →
        s.pending.lookup r = some q := by
  have herase : ∀ r q, (s.pending.erase request).lookup r = some q →
      s.pending.lookup r = some q := by
    intro r q hq
    by_cases hr : r = request
    · subst hr
      rw [AList.lookup_erase] at hq
      cases hq
    · rwa [AList.lookup_erase_ne hr] at hq
  unfold gupnpAclAsyncCallback
  dsimp only
  cases allowed with
  | false =>
    refine ⟨_, rfl, rfl, rfl, List.append_assoc .., ?_, ?_, fun hf => absurd hf Bool.false_ne_true,
      herase⟩
    · exact List.forall_mem_cons.2 ⟨trivial, List.forall_mem_singleton.2 trivial⟩
    · exact List.forall_mem_cons.2
        ⟨fun _ hc => hc.elim, List.forall_mem_singleton.2 fun _ hc => hc.elim⟩
  | true =>
    have hhandlers : (s.emit [.answered request p.acl p.question true]).handlers = s.handlers := rfl
    simp only [Bool.not_true, Bool.false_eq_true, ↓reduceIte, hhandlers, hhandler]
    refine ⟨_, rfl, rfl, rfl, List.append_assoc .., fun x hx => ?_, fun _ _ _ _ => trivial,
      fun _ => .tail _ (.head _), herase⟩
    rcases List.mem_cons.1 hx with rfl | hx
    · trivial
    rcases List.mem_cons.1 hx with rfl | hx
    · exact rfl
    · obtain rfl := List.mem_singleton.1 hx
      exact ⟨rfl, rfl, rfl⟩

theorem records_step (h : Records s) (hstep : step s e = some t) : Records t := by
  cases e with
  | addServerHandler useAcl path callback userData =>
    obtain rfl := Option.some.inj hstep
    cases useAcl with
    | true => exact records_addWithData path ⟨none, callback, userData⟩ h
    | false => exact records_remove path h
  | addServerHandlerWithData path handler =>
    obtain rfl := Option.some.inj hstep
    exact records_addWithData path handler h
  | removeServerHandler path =>
    obtain rfl := Option.some.inj hstep
    exact records_remove path h
  | setAcl acl =>
    obtain rfl := Option.some.inj hstep
    exact ⟨h.registered_lt, h.registered_inj, h.live, h.freed_lt, h.freed_log, h.pending_lt, h.asked,
      h.wrapped⟩
  | request handlerPath data lookups verdict =>
    obtain ⟨id, -, hstep⟩ := Option.bind_eq_some_iff.1 hstep
    obtain ⟨handler, hhandler, hstep⟩ := Option.bind_eq_some_iff.1 hstep
    obtain rfl := Option.some.inj hstep
    obtain ⟨entries, hregistered, hhandlers, hfreed, hlog, houtcome, hpending⟩ :=
      handler_spec lookups verdict id handler data s
    exact records_of_outcomes h hhandler hregistered hhandlers hfreed hlog houtcome hpending
  | decided request allowed =>
    obtain ⟨p, hp, hstep⟩ := Option.bind_eq_some_iff.1 hstep
    obtain rfl := Option.some.inj hstep
    have hhandler := List.getElem?_eq_getElem (h.pending_lt request p hp)
    obtain ⟨entries, hregistered, hhandlers, hfreed, hlog, houtcome, -, -, hpending⟩ :=
      callback_spec request allowed hhandler
    exact records_of_outcomes h hhandler hregistered hhandlers hfreed hlog houtcome
      fun r q hq => .inl (hpending r q hq)

theorem records_run {ok : ContextState → Event → Prop} (h : Run step ok .init es t) : Records t :=
  h.inv Records (fun _ _ _ hr _ hstep => records_step hr hstep) records_init

/-! ## Freed records -/

/-- No record was read after it was freed. -/
def NoneFreed (log : List Entry) : Prop :=
  Each (fun before x _ => ∀ h, x.Consults h → .freed h ∉ before) log

theorem noneFreed_append :
    NoneFreed (log ++ entries) ↔ NoneFreed log ∧
      Each (fun a x _ => ∀ h, x.Consults h → .freed h ∉ log ++ a) entries := each_append

/-- Entries that read one record and free none. -/
theorem each_outcomes {id : Nat} (houtcome : ∀ x ∈ entries, Outcome id handler x)
    (hlive : (∃ x ∈ entries, ∃ h, x.Consults h) → .freed id ∉ log) :
    Each (fun a x _ => ∀ h, x.Consults h → .freed h ∉ log ++ a) entries := by
  intro a x b hentries h hc hmem
  have hx : x ∈ entries := by
    rw [hentries]
    simp
  have hid : h = id := by
    have hout := houtcome x hx
    cases x with
    | consulted h' => exact hc.symm.trans hout
    | invoked r h' call => exact hc.symm.trans hout.1
    | _ => exact hc.elim
  subst hid
  rcases List.mem_append.1 hmem with hmem | hmem
  · exact hlive ⟨x, hx, h, hc⟩ hmem
  · have hout : Outcome h handler (.freed h) := houtcome _ (by rw [hentries]; simp [hmem])
    exact hout

/-- Freeing reads nothing. -/
theorem noneFreed_of_quiet (hq : Quiet s t) : NoneFreed t.log ↔ NoneFreed s.log := by
  obtain ⟨-, -, ids, hlog⟩ := hq
  rw [hlog, noneFreed_append]
  refine ⟨And.left, fun h => ⟨h, fun a x b hids h' hc => ?_⟩⟩
  have hx : x ∈ ids.map Entry.freed := by
    rw [hids]
    simp
  obtain ⟨id, -, rfl⟩ := List.mem_map.1 hx
  exact hc.elim

/-- A step reads no freed record if and only if it does not allow a request whose handler is gone. -/
theorem noneFreed_step (h : Records s) (hstep : step s e = some t) :
    NoneFreed t.log ↔ NoneFreed s.log ∧ LiveDecisions s e := by
  cases e with
  | addServerHandler useAcl path callback userData =>
    obtain rfl := Option.some.inj hstep
    rw [noneFreed_of_quiet (quiet_add useAcl path callback userData s)]
    exact ⟨fun hn => ⟨hn, trivial⟩, And.left⟩
  | addServerHandlerWithData path handler =>
    obtain rfl := Option.some.inj hstep
    rw [noneFreed_of_quiet (quiet_addWithData path handler s)]
    exact ⟨fun hn => ⟨hn, trivial⟩, And.left⟩
  | removeServerHandler path =>
    obtain rfl := Option.some.inj hstep
    rw [noneFreed_of_quiet (quiet_remove path s)]
    exact ⟨fun hn => ⟨hn, trivial⟩, And.left⟩
  | setAcl acl =>
    obtain rfl := Option.some.inj hstep
    exact ⟨fun hn => ⟨hn, trivial⟩, And.left⟩
  | request handlerPath data lookups verdict =>
    obtain ⟨id, hid, hstep⟩ := Option.bind_eq_some_iff.1 hstep
    obtain ⟨handler, hhandler, hstep⟩ := Option.bind_eq_some_iff.1 hstep
    obtain rfl := Option.some.inj hstep
    obtain ⟨entries, -, -, -, hlog, houtcome, -⟩ := handler_spec lookups verdict id handler data s
    rw [hlog, noneFreed_append]
    have hlive : .freed id ∉ s.log := fun hmem => h.live handlerPath id hid ((h.freed_log id).1 hmem)
    exact ⟨fun hn => ⟨hn.1, trivial⟩, fun hn => ⟨hn.1, each_outcomes houtcome fun _ => hlive⟩⟩
  | decided request allowed =>
    obtain ⟨p, hp, hstep⟩ := Option.bind_eq_some_iff.1 hstep
    obtain rfl := Option.some.inj hstep
    have hhandler := List.getElem?_eq_getElem (h.pending_lt request p hp)
    obtain ⟨entries, -, -, -, hlog, houtcome, hreads, hread, -⟩ :=
      callback_spec request allowed hhandler
    rw [hlog, noneFreed_append]
    refine and_congr_right fun _ => ?_
    cases allowed with
    | false =>
      refine ⟨fun _ => trivial, fun _ => each_outcomes houtcome ?_⟩
      intro ⟨x, hx, h', hc⟩
      exact absurd (hreads x hx h' hc) Bool.false_ne_true
    | true =>
      constructor
      · intro heach q hq hfreed
        obtain rfl := Option.some.inj (hp.symm.trans hq)
        obtain ⟨a, b, hentries⟩ := List.append_of_mem (hread rfl)
        exact heach a _ b hentries p.data.handler rfl
          (List.mem_append_left _ ((h.freed_log _).2 hfreed))
      · intro hlive
        exact each_outcomes houtcome fun _ hmem => hlive p hp ((h.freed_log _).1 hmem)

/-- In every run no freed record was read exactly if no step allowed a request whose handler is
gone. -/
theorem noneFreed_iff (h : Run step AnyStep .init es t) :
    NoneFreed t.log ↔ Run step LiveDecisions .init es t := by
  induction h with
  | nil => exact ⟨fun _ => .nil, fun _ => each_nil⟩
  | @snoc es s t e hrun _ hstep ih =>
    rw [noneFreed_step (records_run hrun) hstep, ih]
    constructor
    · intro ⟨hlive, hok⟩
      exact hlive.snoc hok hstep
    · intro hlive
      obtain ⟨s', hlive, hok, -⟩ := hlive.snoc_inv
      obtain rfl := hlive.det hrun
      exact ⟨hlive, hok⟩

/-! ## The gate -/

theorem not_invoked_of_denied {r a : Nat} {asked : Question}
    (h : Each (fun before x _ => Proper before x) log) (hdenied : .answered r a asked false ∈ log) :
    ∀ x ∈ log, ¬ x.Invokes r := by
  intro x hx hi
  have hne : Entry.answered r a asked false ≠ x := by
    intro heq
    subst heq
    exact hi
  rcases before_or_before hdenied hx hne with ⟨before, after, hlog, hbefore⟩ |
    ⟨before, after, hlog, hbefore⟩
  · -- the answer came first
    have hproper := h before x after hlog
    cases x with
    | invoked r' h' call =>
      obtain rfl : r' = r := hi
      exact hproper.2.1 a asked hbefore
    | _ => exact hi.elim
  · exact h before _ after hlog x hbefore (decides_of_invokes hi)

theorem tight_of_good (h : Good s) (hr : Records s) (hn : NoneFreed s.log) : Tight s where
  once before x after hlog r hi := by
    have hproper := h.proper before x after hlog
    cases x with
    | invoked r' h' call =>
      obtain rfl : r' = r := hi
      exact hproper.1
    | _ => exact hi.elim
  admitted before x after hlog r h' call hx := by
    subst hx
    exact (h.proper before _ after hlog).2.2
  arrivedOnce before x after hlog r acl h' data asked hx := by
    subst hx
    exact h.proper before _ after hlog
  asked := hr.asked
  wrapped := hr.wrapped
  denied r a asked hdenied := ⟨h.forbids r a asked hdenied, not_invoked_of_denied h.proper hdenied⟩
  removed := hn

/-- In every run the gate is tight exactly if no request was allowed whose handler is gone. -/
theorem tight_iff (es : List Event) (t : ContextState) (h : Run step AnyStep .init es t) :
    Tight t ↔ Run step LiveDecisions .init es t := by
  constructor
  · exact fun htight => (noneFreed_iff h).1 htight.removed
  · exact fun hlive => tight_of_good (good_run h) (records_run h) ((noneFreed_iff h).2 hlive)

/-- A request of a client that names no agent. -/
def sampleRequest : Request := ⟨⟨1, some "10.0.0.2".toList, none⟩, "/a".toList, none⟩

/-- Nothing can be looked up. -/
def noLookups : Lookups := ⟨fun _ => none, fun _ => none⟩

/-- A handler whose request is allowed while it is there. -/
def allowedEvents : List Event :=
  [.setAcl (some 7), .addServerHandler true "/a".toList 5 6,
    .request "/a".toList sampleRequest noLookups .async, .decided 0 true]

theorem tight_iff_sample : ∃ t, Run step AnyStep .init allowedEvents t ∧
    t.log.length = 5 ∧ (Tight t ↔ Run step LiveDecisions .init allowedEvents t) := by
  have hlength : (allowedEvents.foldlM step .init).map (fun t => t.log.length) = some 5 := by decide
  obtain ⟨t, hrun, hlog⟩ := Run.exists_of_foldlM hlength
  exact ⟨t, hrun, hlog, tight_iff allowedEvents t hrun⟩

/-- The handler is removed before its request is allowed: its record is read after it was freed. -/
theorem freed_handler_consulted : ∃ es t, Run step AnyStep .init es t ∧ ¬ Tight t := by
  let es : List Event := [.setAcl (some 7), .addServerHandler true "/a".toList 5 6,
    .request "/a".toList sampleRequest noLookups .async, .removeServerHandler "/a".toList,
    .decided 0 true]
  have hlast : (es.foldlM step .init).map (fun t => t.log.drop 2) = some [.freed 0,
      .answered 0 7 (question noLookups ⟨none, 5, 6⟩ sampleRequest) true, .consulted 0,
      invoke 0 0 ⟨none, 5, 6⟩ sampleRequest.message "/a".toList none] := by decide
  obtain ⟨t, hrun, hlog⟩ := Run.exists_of_foldlM hlast
  refine ⟨es, t, hrun, fun htight => ?_⟩
  have hsplit : t.log = (t.log.take 2 ++ [.freed 0,
      .answered 0 7 (question noLookups ⟨none, 5, 6⟩ sampleRequest) true]) ++ .consulted 0 ::
        [invoke 0 0 ⟨none, 5, 6⟩ sampleRequest.message "/a".toList none] := by
    rw [List.append_assoc]
    conv_lhs => rw [← List.take_append_drop 2 t.log, hlog]
    rfl
  exact htight.removed _ _ _ hsplit 0 rfl (by simp)

end GUPnP.Acl
