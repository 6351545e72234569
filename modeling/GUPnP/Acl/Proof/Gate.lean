import GUPnP.Acl.Model
import GUPnP.Base.Run
import GUPnP.Base.Trace

/-!
# The gate of the ACL

A callback runs for a request that has arrived, at most once, and without an ACL or after its ACL
allowed it; a denied request gets the status 403. All this holds in every run, whatever handlers are
removed (`good_run`).
-/

set_option autoImplicit false

namespace GUPnP.Acl

variable {s t : ContextState} {e : Event} {es : List Event} {log entries : List Entry} {x : Entry}
  {request id : Nat} {handler : AclServerHandler} {data : Request} {asked : Question} {p : Pending}

/-! ## Entries -/

/-- The callback runs for this request. -/
def Entry.Invokes (r : Nat) : Entry → Prop
  | .invoked r' _ _ => r' = r
  | _ => False

/-- The entry is about this request. -/
def Entry.About (r : Nat) : Entry → Prop
  | .arrived r' _ _ _ _ => r' = r
  | .answered r' _ _ _ => r' = r
  | .forbidden r' _ => r' = r
  | .invoked r' _ _ => r' = r
  | _ => False

/-- The entry decides this request. -/
def Entry.Decides (r : Nat) : Entry → Prop
  | .answered r' _ _ _ => r' = r
  | .invoked r' _ _ => r' = r
  | _ => False

/-- The callback may run for this request: it arrived at this handler with the message, path and query
of the call, and no ACL was set then, or the ACL that was set has allowed what it was asked. -/
def Admitted (before : List Entry) (r h : Nat) (call : Call) : Prop :=
  ∃ acl data asked, .arrived r acl h data asked ∈ before ∧ call.message = data.message ∧
    call.path = data.path ∧ call.query = data.query ∧
    (acl = none ∨ ∃ a, acl = some a ∧ .answered r a asked true ∈ before)

/-! ## Single entries -/

/-- What may be appended to the log. -/
def Proper (before : List Entry) : Entry → Prop
  | .arrived r _ _ _ _ => ∀ x ∈ before, ¬ x.About r
  | .answered r _ _ _ => ∀ x ∈ before, ¬ x.Decides r
  | .invoked r h call => (∀ x ∈ before, ¬ x.Invokes r) ∧
      (∀ a asked, .answered r a asked false ∉ before) ∧ Admitted before r h call
  | _ => True

/-- A pending request has arrived, and nothing was decided about it. -/
structure Waiting (log : List Entry) (r : Nat) (p : Pending) : Prop where
  arrived : ∃ data, .arrived r (some p.acl) p.data.handler data p.question ∈ log ∧
    p.data.message = data.message ∧ p.data.path = data.path ∧ p.data.query = data.query
  undecided : ∀ x ∈ log, ¬ x.Decides r

/-- What holds between events, whatever is removed. -/
structure Good (s : ContextState) : Prop where
  proper : Each (fun before x _ => Proper before x) s.log
  fresh : ∀ x ∈ s.log, ∀ r, x.About r → r < s.requests
  forbids : ∀ r a asked, .answered r a asked false ∈ s.log →
    ∃ acl h data asked, .arrived r acl h data asked ∈ s.log ∧ .forbidden r data.message ∈ s.log
  waiting : ∀ r p, s.pending.lookup r = some p → Waiting s.log r p

theorem about_of_decides {r : Nat} (h : x.Decides r) : x.About r := by
  cases x <;> first | exact h | exact h.elim

theorem decides_of_invokes {r : Nat} (h : x.Invokes r) : x.Decides r := by
  cases x <;> first | exact h | exact h.elim

theorem good_init : Good .init :=
  ⟨each_nil, fun x hx => absurd hx List.not_mem_nil, fun _ _ _ h => absurd h List.not_mem_nil,
    fun _ _ h => by cases h⟩

/-! ## Handlers come and go -/

/-- What a change of the handlers leaves alone. -/
structure Quiet (s t : ContextState) : Prop where
  requests : t.requests = s.requests
  pending : t.pending = s.pending
  log : ∃ ids : List Nat, t.log = s.log ++ ids.map Entry.freed

theorem Quiet.refl (s : ContextState) : Quiet s s := ⟨rfl, rfl, [], (List.append_nil _).symm⟩

theorem quiet_remove (path : Str) (s : ContextState) :
    Quiet s (gupnpContextRemoveServerHandler path s) := by
  unfold gupnpContextRemoveServerHandler
  split
  · exact .refl s
  · exact ⟨rfl, rfl, [_], rfl⟩

theorem quiet_addWithData (path : Str) (handler : AclServerHandler) (s : ContextState) :
    Quiet s (gupnpContextAddServerHandlerWithData path handler s) :=
  ⟨(quiet_remove path s).requests, (quiet_remove path s).pending, (quiet_remove path s).log⟩

theorem quiet_add (useAcl : Bool) (path : Str) (callback userData : Nat) (s : ContextState) :
    Quiet s (gupnpContextAddServerHandler useAcl path callback userData s) := by
  cases useAcl with
  | true => exact quiet_addWithData path ⟨none, callback, userData⟩ s
  | false => exact quiet_remove path s

/-- Freeing records is no matter of a request. -/
theorem good_of_quiet (h : Good s) (hq : Quiet s t) : Good t := by
  obtain ⟨hrequests, hpending, ids, hlog⟩ := hq
  have hold : ∀ x ∈ t.log, (∀ id, x ≠ .freed id) → x ∈ s.log := by
    intro x hx hne
    rw [hlog] at hx
    rcases List.mem_append.1 hx with hx | hx
    · exact hx
    · obtain ⟨id, -, rfl⟩ := List.mem_map.1 hx
      exact absurd rfl (hne id)
  have hnew : ∀ x ∈ s.log, x ∈ t.log := by
    intro x hx
    rw [hlog]
    exact List.mem_append_left _ hx
  refine ⟨?_, fun x hx r hr => ?_, fun r a asked ha => ?_, fun r p hp => ?_⟩
  · rw [hlog]
    refine h.proper.append (fun a x b hx => hx) fun a x b hids => ?_
    have hx : x ∈ ids.map Entry.freed := by rw [hids]; simp
    obtain ⟨id, -, rfl⟩ := List.mem_map.1 hx
    trivial
  · rw [hrequests]
    refine h.fresh x (hold x hx fun id hid => ?_) r hr
    subst hid
    exact hr.elim
  · obtain ⟨acl, hid, data, asked, harrived, hforbidden⟩ :=
      h.forbids r a asked (hold _ ha fun id hid => by cases hid)
    exact ⟨acl, hid, data, asked, hnew _ harrived, hnew _ hforbidden⟩
  · rw [hpending] at hp
    obtain ⟨⟨data, harrived, hsame⟩, hundecided⟩ := h.waiting r p hp
    refine ⟨⟨data, hnew _ harrived, hsame⟩, fun x hx hd => ?_⟩
    refine hundecided x (hold x hx fun id hid => ?_) hd
    subst hid
    exact hd.elim

/-! ## A request arrives -/

theorem proper_append (h : Each (fun before x _ => Proper before x) log)
    (hx : Each (fun a x _ => Proper (log ++ a) x) entries) :
    Each (fun before x _ => Proper before x) (log ++ entries) := h.append (fun _ _ _ h => h) hx

/-- What waits still waits when others are decided. -/
theorem Waiting.append {r : Nat} (h : Waiting log r p) (hx : ∀ x ∈ entries, ¬ x.Decides r) :
    Waiting (log ++ entries) r p := by
  obtain ⟨⟨data, harrived, hsame⟩, hundecided⟩ := h
  refine ⟨⟨data, List.mem_append_left _ harrived, hsame⟩, fun x hmem => ?_⟩
  rcases List.mem_append.1 hmem with hmem | hmem
  · exact hundecided x hmem
  · exact hx x hmem

/-- The entries of a request that arrives. -/
def arrival (s : ContextState) (id : Nat) (data : Request) (asked : Question) : List Entry :=
  [.arrived s.requests s.acl id data asked, .consulted id]

theorem about_arrival : ∀ x ∈ arrival s id data asked, ∀ r, x.About r → r = s.requests :=
  List.forall_mem_cons.2 ⟨fun _ hr => hr.symm, List.forall_mem_singleton.2 fun _ hr => hr.elim⟩

theorem arrived_mem : .arrived s.requests s.acl id data asked ∈ s.log ++ arrival s id data asked :=
  List.mem_append_right _ List.mem_cons_self

/-- Nothing is decided about a request that has just arrived. -/
theorem undecided_arrival (h : Good s) :
    ∀ x ∈ s.log ++ arrival s id data asked, ¬ x.Decides s.requests := by
  intro x hx hd
  rcases List.mem_append.1 hx with hx | hx
  · exact absurd (h.fresh x hx _ (about_of_decides hd)) (Nat.lt_irrefl _)
  · rcases List.mem_cons.1 hx with rfl | hx
    · exact hd
    · obtain rfl := List.mem_singleton.1 hx
      exact hd

theorem proper_arrival (h : Good s) :
    Each (fun before x _ => Proper before x) (s.log ++ arrival s id data asked) := by
  refine proper_append h.proper (each_cons.2 ⟨fun x hx hr => ?_, each_singleton.2 trivial⟩)
  rw [List.append_nil] at hx
  exact absurd (h.fresh x hx _ hr) (Nat.lt_irrefl _)

/-- The log grows by entries about one request, and the other requests wait as before. -/
theorem good_extend {r : Nat} (h : Good s) (hlog : t.log = s.log ++ entries)
    (hproper : Each (fun before x _ => Proper before x) t.log)
    (habout : ∀ x ∈ entries, ∀ r', x.About r' → r' = r) (hcount : s.requests ≤ t.requests)
    (hr : r < t.requests)
    (hforbids : ∀ a asked, .answered r a asked false ∈ entries → ∃ acl id data asked,
      .arrived r acl id data asked ∈ t.log ∧ .forbidden r data.message ∈ t.log)
    (hpending : ∀ r' p, t.pending.lookup r' = some p →
      r' ≠ r ∧ s.pending.lookup r' = some p ∨ Waiting t.log r' p) : Good t := by
  have hold : ∀ x ∈ s.log, x ∈ t.log := by
    intro x hx
    rw [hlog]
    exact List.mem_append_left _ hx
  refine ⟨hproper, fun x hx r' hr' => ?_, fun r' a asked ha => ?_, fun r' p hp => ?_⟩
  · rw [hlog] at hx
    rcases List.mem_append.1 hx with hx | hx
    · exact Nat.lt_of_lt_of_le (h.fresh x hx r' hr') hcount
    · rw [habout x hx r' hr']
      exact hr
  · rw [hlog] at ha
    rcases List.mem_append.1 ha with ha | ha
    · obtain ⟨acl, id, data, asked', harrived, hforbidden⟩ := h.forbids r' a asked ha
      exact ⟨acl, id, data, asked', hold _ harrived, hold _ hforbidden⟩
    · obtain rfl := habout _ ha r' rfl
      exact hforbids a asked ha
  · rcases hpending r' p hp with ⟨hne, hp⟩ | hp
    · rw [hlog]
      refine (h.waiting r' p hp).append fun x hx hd => hne ?_
      exact habout x hx r' (about_of_decides hd)
    · exact hp

/-- A request that arrives, with what happens to it at once. -/
theorem good_request (id : Nat) (data : Request) (asked : Question) (rest : List Entry) (h : Good s)
    (hrequests : t.requests = s.requests + 1)
    (hlog : t.log = s.log ++ arrival s id data asked ++ rest)
    (hrest : Each (fun a x _ => Proper (s.log ++ arrival s id data asked ++ a) x) rest)
    (habout : ∀ x ∈ rest, ∀ r, x.About r → r = s.requests)
    (hforbids : ∀ r a asked, .answered r a asked false ∈ rest →
      .forbidden s.requests data.message ∈ rest)
    (hpending : ∀ r p, t.pending.lookup r = some p → s.pending.lookup r = some p ∨
      Waiting t.log r p) : Good t := by
  have hnew : ∀ x ∈ arrival s id data asked ++ rest, ∀ r, x.About r → r = s.requests := by
    intro x hx
    rcases List.mem_append.1 hx with hx | hx
    · exact about_arrival x hx
    · exact habout x hx
  have hproper : Each (fun before x _ => Proper before x) t.log := by
    rw [hlog]
    exact proper_append (proper_arrival h) hrest
  rw [List.append_assoc] at hlog
  refine good_extend h hlog hproper hnew (by omega) (by omega) (fun a asked' ha => ?_)
    fun r p hp => ?_
  · have ha : .answered s.requests a asked' false ∈ rest := by
      rcases List.mem_append.1 ha with ha | ha
      · simp [arrival] at ha
      · exact ha
    refine ⟨s.acl, id, data, asked, ?_, ?_⟩
    · rw [hlog, ← List.append_assoc]
      exact List.mem_append_left _ arrived_mem
    · rw [hlog]
      exact List.mem_append_right _ (List.mem_append_right _ (hforbids _ a asked' ha))
  · refine (hpending r p hp).imp_left fun hp => ⟨?_, hp⟩
    obtain ⟨data', hmem, -⟩ := (h.waiting r p hp).arrived
    exact Nat.ne_of_lt (h.fresh _ hmem r rfl)

/-- An admitted call of a request about which nothing bad happened. -/
theorem proper_invoked (mid : List Entry) {r h : Nat} {call : Call}
    (hundecided : ∀ x ∈ log, ¬ x.Decides r)
    (hmid : ∀ x ∈ mid, ¬ x.Invokes r ∧ ∀ a asked, x ≠ .answered r a asked false)
    (hadmitted : Admitted (log ++ mid) r h call) : Proper (log ++ mid) (.invoked r h call) := by
  refine ⟨fun x hx hi => ?_, fun a asked ha => ?_, hadmitted⟩
  · rcases List.mem_append.1 hx with hx | hx
    · exact hundecided x hx (decides_of_invokes hi)
    · exact (hmid x hx).1 hi
  · rcases List.mem_append.1 ha with ha | ha
    · exact hundecided _ ha rfl
    · exact (hmid _ ha).2 a asked rfl

/-- Without an ACL the callback runs at once. -/
theorem good_ungated (h : Good s) (hacl : s.acl = none) (handler : AclServerHandler)
    (hrequests : t.requests = s.requests + 1) (hpending : t.pending = s.pending)
    (hlog : t.log = s.log ++ arrival s id data asked ++
      [invoke s.requests id handler data.message data.path data.query]) : Good t := by
  refine good_request id data asked _ h hrequests hlog (each_singleton.2 ?_)
    (List.forall_mem_singleton.2 fun _ hr => hr.symm) (fun r a asked ha => ?_)
    (fun r p hp => .inl (hpending ▸ hp))
  · refine proper_invoked [] (undecided_arrival h) (fun x hx => absurd hx List.not_mem_nil) ?_
    refine ⟨s.acl, data, asked, ?_, rfl, rfl, rfl, .inl hacl⟩
    exact List.mem_append_left _ arrived_mem
  · cases List.mem_singleton.1 ha

/-- What the ACL allows at once runs at once. -/
theorem good_allowed {acl : Nat} (h : Good s) (hacl : s.acl = some acl) (handler : AclServerHandler)
    (hrequests : t.requests = s.requests + 1) (hpending : t.pending = s.pending)
    (hlog : t.log = s.log ++ arrival s id data asked ++ [.answered s.requests acl asked true,
      invoke s.requests id handler data.message data.path data.query]) : Good t := by
  refine good_request id data asked _ h hrequests hlog
    (each_cons.2 ⟨fun x hx => ?_, each_singleton.2 ?_⟩)
    (List.forall_mem_cons.2 ⟨fun _ hr => hr.symm, List.forall_mem_singleton.2 fun _ hr => hr.symm⟩)
    (fun r a asked ha => ?_) (fun r p hp => .inl (hpending ▸ hp))
  · rw [List.append_nil] at hx
    exact undecided_arrival h x hx
  · refine proper_invoked [.answered s.requests acl asked true] (undecided_arrival h)
      (List.forall_mem_singleton.2 ⟨fun hi => hi, fun a asked heq => ?_⟩) ?_
    · cases heq
    · refine ⟨s.acl, data, asked, List.mem_append_left _ arrived_mem, rfl, rfl, rfl,
        .inr ⟨acl, hacl, ?_⟩⟩
      exact List.mem_append_right _ List.mem_cons_self
  · rcases List.mem_cons.1 ha with ha | ha
    · cases ha
    · cases List.mem_singleton.1 ha

/-- What the ACL denies at once is forbidden. -/
theorem good_denied {acl : Nat} (h : Good s) (hrequests : t.requests = s.requests + 1)
    (hpending : t.pending = s.pending)
    (hlog : t.log = s.log ++ arrival s id data asked ++ [.answered s.requests acl asked false,
      .forbidden s.requests data.message]) : Good t := by
  refine good_request id data asked _ h hrequests hlog
    (each_cons.2 ⟨fun x hx => ?_, each_singleton.2 trivial⟩)
    (List.forall_mem_cons.2 ⟨fun _ hr => hr.symm, List.forall_mem_singleton.2 fun _ hr => hr.symm⟩)
    (fun _ _ _ _ => .tail _ (.head _)) (fun r p hp => .inl (hpending ▸ hp))
  rw [List.append_nil] at hx
  exact undecided_arrival h x hx

/-- What the ACL decides later waits. -/
theorem good_waiting (h : Good s) (hp : p.question = asked) (hacl : s.acl = some p.acl)
    (hdata : p.data = ⟨data.message, data.path, data.query, id⟩)
    (hrequests : t.requests = s.requests + 1)
    (hpending : t.pending = s.pending.insert s.requests p)
    (hlog : t.log = s.log ++ arrival s id data asked) : Good t := by
  refine good_request id data asked [] h hrequests (hlog.trans (List.append_nil _).symm) each_nil
    (fun x hx => absurd hx List.not_mem_nil) (fun r a asked ha => absurd ha List.not_mem_nil)
    (fun r q hq => ?_)
  rw [hpending] at hq
  by_cases hr : r = s.requests
  · subst hr
    rw [AList.lookup_insert] at hq
    obtain rfl := Option.some.inj hq
    rw [hlog]
    refine .inr ⟨⟨data, ?_, ?_⟩, undecided_arrival h⟩
    · rw [hp, hdata, ← hacl]
      exact arrived_mem
    · rw [hdata]
      exact ⟨rfl, rfl, rfl⟩
  · rw [AList.lookup_insert_ne hr] at hq
    exact .inl hq

theorem good_handler (lookups : Lookups) (verdict : Verdict) (id : Nat) (handler : AclServerHandler)
    (data : Request) (h : Good s) :
    Good (gupnpAclServerHandler lookups verdict id handler data s) := by
  unfold gupnpAclServerHandler
  dsimp only
  cases hacl : s.acl with
  | none => exact good_ungated h hacl handler rfl rfl (by rw [arrival, hacl]; rfl)
  | some acl =>
    cases verdict with
    | sync allowed =>
      have hboth : ∀ rest, s.log ++ arrival s id data (question lookups handler data) ++
          [.answered s.requests acl (question lookups handler data) allowed] ++ rest =
          s.log ++ arrival s id data (question lookups handler data) ++
            ([.answered s.requests acl (question lookups handler data) allowed] ++ rest) :=
        fun rest => List.append_assoc ..
      rw [arrival, hacl] at hboth
      cases allowed with
      | true => exact good_allowed h hacl handler rfl rfl (by rw [arrival, hacl]; exact hboth _)
      | false => exact good_denied h rfl rfl (by rw [arrival, hacl]; exact hboth _)
    | async => exact good_waiting h rfl hacl rfl rfl rfl (by rw [arrival, hacl]; rfl)

/-! ## An ACL decides -/

/-- A decision about a request that waits, with what happens then. -/
theorem good_decided (allowed : Bool) (rest : List Entry) (h : Good s)
    (hp : s.pending.lookup request = some p) (hrequests : t.requests = s.requests)
    (hpending : t.pending = s.pending.erase request)
    (hlog : t.log = s.log ++ (.answered request p.acl p.question allowed :: rest))
    (hrest : Each (fun a x _ => Proper (s.log ++
      (.answered request p.acl p.question allowed :: a)) x) rest)
    (habout : ∀ x ∈ rest, ∀ r, x.About r → r = request)
    (hforbids : allowed = false → .forbidden request p.data.message ∈ rest)
    (hanswered : ∀ r a asked allowed, .answered r a asked allowed ∉ rest) : Good t := by
  obtain ⟨⟨data, harrived, hmessage, -⟩, hundecided⟩ := h.waiting request p hp
  have hnew : ∀ x ∈ .answered request p.acl p.question allowed :: rest, ∀ r, x.About r →
      r = request := by
    intro x hx r hr
    rcases List.mem_cons.1 hx with rfl | hx
    · exact hr.symm
    · exact habout x hx r hr
  have hcount : request < s.requests := h.fresh _ harrived request rfl
  have hproper : Each (fun before x _ => Proper before x) t.log := by
    rw [hlog]
    refine proper_append h.proper (each_cons.2 ⟨fun x hx => ?_, hrest⟩)
    rw [List.append_nil] at hx
    exact hundecided x hx
  refine good_extend h hlog hproper hnew (by omega) (by omega) (fun a asked ha => ?_)
    fun r q hq => ?_
  · rcases List.mem_cons.1 ha with ha | ha
    · injection ha with _ _ _ hallowed
      refine ⟨some p.acl, p.data.handler, data, p.question, ?_, ?_⟩
      · rw [hlog]
        exact List.mem_append_left _ harrived
      · rw [hlog, ← hmessage]
        exact List.mem_append_right _ (.tail _ (hforbids hallowed.symm))
    · exact absurd ha (hanswered request a asked false)
  · rw [hpending] at hq
    have hne : r ≠ request := by
      rintro rfl
      rw [AList.lookup_erase] at hq
      cases hq
    rw [AList.lookup_erase_ne hne] at hq
    exact .inl ⟨hne, hq⟩

theorem good_callback (allowed : Bool) (h : Good s) (hp : s.pending.lookup request = some p) :
    Good (gupnpAclAsyncCallback request p allowed s) := by
  have hwaiting := h.waiting request p hp
  obtain ⟨data, harrived, hmessage, hpath, hquery⟩ := hwaiting.arrived
  unfold gupnpAclAsyncCallback
  dsimp only
  cases allowed with
  | false =>
    refine good_decided false [.forbidden request p.data.message] h hp rfl rfl ?_
      (each_singleton.2 trivial) ?_ (fun _ => List.mem_cons_self) ?_
    · simp only [ContextState.emit, Bool.not_false, ↓reduceIte, List.append_assoc, List.cons_append,
        List.nil_append]
    · intro x hx r hr
      obtain rfl := List.mem_singleton.1 hx
      exact hr.symm
    · intro r a asked allowed ha
      cases List.mem_singleton.1 ha
  | true =>
    have hhandlers : (s.emit [.answered request p.acl p.question true]).handlers = s.handlers := rfl
    simp only [Bool.not_true, Bool.false_eq_true, ↓reduceIte, hhandlers]
    cases s.handlers[p.data.handler]? with
    | none =>
      exact good_decided true [] h hp rfl rfl rfl each_nil
        (fun x hx => absurd hx List.not_mem_nil) (fun hf => by cases hf)
        (fun r a asked allowed ha => absurd ha List.not_mem_nil)
    | some handler =>
      refine good_decided true [.consulted p.data.handler,
        invoke request p.data.handler handler p.data.message p.data.path p.data.query] h hp rfl rfl ?_
        (each_cons.2 ⟨trivial, each_singleton.2 ?_⟩) ?_ (fun hf => by cases hf) ?_
      · simp only [ContextState.emit, List.append_assoc, List.cons_append, List.nil_append]
      · refine proper_invoked _ hwaiting.undecided (fun x hx => ?_) ⟨some p.acl, data, p.question,
          List.mem_append_left _ harrived, hmessage, hpath, hquery,
          .inr ⟨p.acl, rfl, List.mem_append_right _ List.mem_cons_self⟩⟩
        rcases List.mem_cons.1 hx with rfl | hx
        · exact ⟨fun hi => hi, fun a asked heq => by cases heq⟩
        · obtain rfl := List.mem_singleton.1 hx
          exact ⟨fun hi => hi, fun a asked heq => by cases heq⟩
      · intro x hx r hr
        rcases List.mem_cons.1 hx with rfl | hx
        · exact hr.elim
        · obtain rfl := List.mem_singleton.1 hx
          exact hr.symm
      · intro r a asked allowed ha
        rcases List.mem_cons.1 ha with ha | ha
        · cases ha
        · cases List.mem_singleton.1 ha

/-- Every event keeps it. -/
theorem good_step (h : Good s) (hstep : step s e = some t) : Good t := by
  cases e with
  | addServerHandler useAcl path callback userData =>
    obtain rfl := Option.some.inj hstep
    exact good_of_quiet h (quiet_add useAcl path callback userData s)
  | addServerHandlerWithData path handler =>
    obtain rfl := Option.some.inj hstep
    exact good_of_quiet h (quiet_addWithData path handler s)
  | removeServerHandler path =>
    obtain rfl := Option.some.inj hstep
    exact good_of_quiet h (quiet_remove path s)
  | setAcl acl =>
    obtain rfl := Option.some.inj hstep
    exact good_of_quiet h ⟨rfl, rfl, [], (List.append_nil _).symm⟩
  | request handlerPath data lookups verdict =>
    obtain ⟨id, -, hstep⟩ := Option.bind_eq_some_iff.1 hstep
    obtain ⟨handler, -, hstep⟩ := Option.bind_eq_some_iff.1 hstep
    obtain rfl := Option.some.inj hstep
    exact good_handler lookups verdict id handler data h
  | decided request allowed =>
    obtain ⟨p, hp, hstep⟩ := Option.bind_eq_some_iff.1 hstep
    obtain rfl := Option.some.inj hstep
    exact good_callback allowed h hp

theorem good_run {ok : ContextState → Event → Prop} (h : Run step ok .init es t) : Good t :=
  h.inv Good (fun _ _ _ hgood _ hstep => good_step hgood hstep) good_init

end GUPnP.Acl
