import GUPnP.Base.Run
import GUPnP.Service.Proof.Handlers

/-!
# The life of one subscription

Seen from one SID, a service is a small machine: the subscription is created once, is sent events,
receives the responses to its NOTIFY messages, is renewed, and is removed for good (`lifeStep`).
Every step of the service is, for every SID, a run of this machine, whose events have the causes that
`Caused` names (`step_lives`). What holds in every run of the machine therefore holds of every
subscription of the service, whatever the others do (`lives_run`).
-/

set_option autoImplicit false

namespace GUPnP.Service

/-! ## The machine -/

/-- A subscription that was not created yet, that exists, or that was removed. -/
inductive Life where
  | unborn
  | alive (d : SubscriptionData)
  | dead

/-- The life of a subscription and what was done about it. -/
structure History where
  life : Life
  log : List Effect

inductive LifeEvent where
  | create (req : SubscriptionRequest) (ans : Answer) (callbacks : Cursor Uri) (src : Nat)
  | event (propertySet : PropertySet)
  | response (i : Nat) (outcome : NotifyOutcome)
  | renew (req : SubscriptionRequest) (ans : Answer) (src : Nat)
  | unsubscribe (req : SubscriptionRequest)
  | reject (req : SubscriptionRequest) (ans : Answer)
  | remove

/-- The subscription that a response leaves. -/
def Life.ofOption : Option SubscriptionData → Life
  | some d => .alive d
  | none => .dead

def lifeStep (sid : Str) (h : History) : LifeEvent → Option History
  | .create req ans callbacks src =>
    match h.life with
    | .unborn => some ⟨.alive (.new callbacks sid src), h.log ++ [.answer req ans]⟩
    | _ => none
  | .event propertySet =>
    match h.life with
    | .alive d => some ⟨.alive (notifySubscriber propertySet d).1,
        h.log ++ (notifySubscriber propertySet d).2⟩
    | _ => none
  | .response i outcome =>
    match h.life with
    | .alive d => d.pendingMessages[i]?.map fun msg =>
        ⟨.ofOption (notifyGotResponse i msg outcome d).1,
          h.log ++ .response msg outcome :: (notifyGotResponse i msg outcome d).2⟩
    | _ => none
  | .renew req ans src =>
    match h.life with
    | .alive d => some ⟨.alive { d with timeoutSrc := some src }, h.log ++ [.answer req ans]⟩
    | _ => none
  | .unsubscribe req =>
    match h.life with
    | .alive d =>
      some ⟨if d.initialStateSent then .dead else .alive { d with toDelete := true },
        h.log ++ [.answer req (.plain .ok)]⟩
    | _ => none
  | .reject req ans => some ⟨h.life, h.log ++ [.answer req ans]⟩
  | .remove =>
    match h.life with
    | .alive _ => some ⟨.dead, h.log⟩
    | _ => none

/-! ## The history of a subscription -/

instance (ctx : Context) (s : ServiceState) (sid : Str) : Decidable (Issued ctx s sid) :=
  inferInstanceAs (Decidable (∃ k, k < s.nextUuid ∧ sid = generateSid ctx k))

def ServiceState.life (ctx : Context) (sid : Str) (s : ServiceState) : Life :=
  match s.subscriptions.lookup sid with
  | some d => .alive d
  | none => if Issued ctx s sid then .dead else .unborn

def ServiceState.history (ctx : Context) (sid : Str) (s : ServiceState) : History :=
  ⟨s.life ctx sid, about sid s.log⟩

variable {ctx : Context} {sid : Str} {s t u : ServiceState}

theorem history_alive {d : SubscriptionData} (h : s.subscriptions.lookup sid = some d) :
    s.history ctx sid = ⟨.alive d, about sid s.log⟩ := by
  simp [ServiceState.history, ServiceState.life, h]

theorem history_dead (h : s.subscriptions.lookup sid = none) (hi : Issued ctx s sid) :
    s.history ctx sid = ⟨.dead, about sid s.log⟩ := by
  simp [ServiceState.history, ServiceState.life, h, hi]

theorem history_unborn (h : s.subscriptions.lookup sid = none) (hi : ¬ Issued ctx s sid) :
    s.history ctx sid = ⟨.unborn, about sid s.log⟩ := by
  simp [ServiceState.history, ServiceState.life, h, hi]

theorem life_alive_iff {d : SubscriptionData} :
    s.life ctx sid = .alive d ↔ s.subscriptions.lookup sid = some d := by
  unfold ServiceState.life
  cases s.subscriptions.lookup sid with
  | none => simp only [reduceCtorEq, iff_false]; split <;> simp
  | some d' => simp

/-- A change that does not concern the subscription. -/
theorem history_eq (hl : t.subscriptions.lookup sid = s.subscriptions.lookup sid)
    (hi : Issued ctx t sid ↔ Issued ctx s sid) (hlog : about sid t.log = about sid s.log) :
    t.history ctx sid = s.history ctx sid := by
  unfold ServiceState.history ServiceState.life
  rw [hl, hlog]
  simp only [hi]

/-! ## Causes -/

/-- The answer of `resubscribe` and `unsubscribe` for an unknown SID. -/
def noPrevious : Status := .preconditionFailed (some "No previous subscription found")

/-- A renewal or an UNSUBSCRIBE for the SID that passes the checks of
`subscription_server_handler`. -/
structure Addressed (ctx : Context) (sid : Str) (req : SubscriptionRequest) : Prop where
  host : ctx.validateHostHeader req.host = true
  method : req.method = Gena.methodSubscribe ∨ req.method = Gena.methodUnsubscribe
  callback : req.callback = none
  nt : req.nt = none
  sid : req.sid = some sid

/-- The answer created the subscription, with the callback URLs `urls`. -/
structure Grants (ctx : Context) (sid : Str) (req : SubscriptionRequest) (ans : Answer)
    (urls : List Uri) : Prop where
  method : req.method = Gena.methodSubscribe
  unnamed : req.sid = none
  answer : ans = ctx.subscriptionAnswer sid
  callbacks : ∃ callback, req.callback = some callback ∧ parseCallbacks ctx callback = urls

/-- The events that raise an event message for the subscriptions that exist. -/
inductive Raises : Event → Prop
  | notifyValue (name value : Str) : Raises (.notifyValue name value)
  | thawNotify : Raises .thawNotify
  | introspected (result : Except String (List StateVariableInfo))
      (query : ServiceState → Str → Option Str) : Raises (.introspected result query)

/-- Which events of the service, in the state `s`, make which events of the life of a subscription,
and in which history. -/
inductive Caused (ctx : Context) (sid : Str) (s : ServiceState) :
    Event → History → LifeEvent → Prop
  | create {req ans query h} (callbacks : Cursor Uri) (src : Nat) (first : callbacks.pos = 0)
      (grants : Grants ctx sid req ans callbacks.toList) :
      Caused ctx sid s (.request req query) h (.create req ans callbacks src)
  | initial {req query h d propertySet} (alive : h.life = .alive d) (first : d.callbacks.pos = 0)
      (fresh : propertySet.id ∉ eventIds h.log) :
      Caused ctx sid s (.request req query) h (.event propertySet)
  | event {e h d propertySet} (raises : Raises e) (lookup : s.subscriptions.lookup sid = some d)
      (alive : h.life = .alive d) (fresh : propertySet.id ∉ eventIds h.log) :
      Caused ctx sid s e h (.event propertySet)
  | response {i outcome} :
      Caused ctx sid s (.response sid i outcome) (s.history ctx sid) (.response i outcome)
  | renew {req query} (src : Nat) (addressed : Addressed ctx sid req)
      (method : req.method = Gena.methodSubscribe) :
      Caused ctx sid s (.request req query) (s.history ctx sid)
        (.renew req (ctx.subscriptionAnswer sid) src)
  | unsubscribe {req query} (addressed : Addressed ctx sid req)
      (method : req.method = Gena.methodUnsubscribe) :
      Caused ctx sid s (.request req query) (s.history ctx sid) (.unsubscribe req)
  | reject {req query} (ans : Answer) (names : req.sid = some sid) (status : ans.status ≠ .ok)
      (unknown : Addressed ctx sid req →
        s.subscriptions.lookup sid = none ∧ ans.status = noPrevious) :
      Caused ctx sid s (.request req query) (s.history ctx sid) (.reject req ans)
  | remove {e h} : Caused ctx sid s e h .remove

/-- For the SID, the way from `s` to `t` is a run of the machine whose events satisfy `ok`. -/
def Lives (ctx : Context) (sid : Str) (ok : History → LifeEvent → Prop) (s t : ServiceState) :
    Prop :=
  ∃ ls, Run (lifeStep sid) ok (s.history ctx sid) ls (t.history ctx sid)

variable {ok : History → LifeEvent → Prop}

theorem Lives.of_eq (h : t.history ctx sid = s.history ctx sid) : Lives ctx sid ok s t := by
  refine ⟨[], ?_⟩
  rw [h]
  exact .nil

theorem Lives.single {l : LifeEvent} (ho : ok (s.history ctx sid) l)
    (he : lifeStep sid (s.history ctx sid) l = some (t.history ctx sid)) :
    Lives ctx sid ok s t := ⟨[l], .single ho he⟩

theorem Lives.trans (h : Lives ctx sid ok s t) (h' : Lives ctx sid ok t u) :
    Lives ctx sid ok s u := by
  obtain ⟨ls, h⟩ := h
  obtain ⟨ls', h'⟩ := h'
  exact ⟨ls ++ ls', h.trans h'⟩

end GUPnP.Service
