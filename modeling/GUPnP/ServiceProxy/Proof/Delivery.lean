import GUPnP.ServiceProxy.Proof.Scan

/-!
# Delivery within one subscription

`Progress`: how far a subscription has got with the notifications `A` that arrived for it. Either
some of them were processed in step and the rest is pending, or an event was missed and the proxy
has re-subscribed; in both cases it is known what was dispatched. Every arrival and every idle
dispatch keeps it (`progress_step`), so after any run that leaves nothing pending exactly
`own sid (deliverable c A)` was dispatched (`progress_run`, `Progress.dispatched`).

`gap_free_iff`: the dispatched documents of a subscription carry the numbers `0, 1, 2, ..` without a
hole or a repetition exactly when the first notification that arrives out of step, if there is one,
comes after a loss. A duplicate is dispatched again and counted, after which a loss goes unseen.
-/

set_option autoImplicit false

namespace GUPnP.ServiceProxy

variable {info : Info}

/-! ## Accepted notifications -/

/-- The notification a request carries when it passes every check and its document is a property
set. -/
def accepted (req : NotifyRequest) : Option EmitNotifyData :=
  match checkNotify req with
  | .ok n => if n.doc.root = some "propertyset".toList then some n else none
  | .error _ => none

/-- The notifications that arrive with the events. -/
def received (es : List Event) : List EmitNotifyData :=
  es.filterMap fun
    | .notify req => accepted req
    | _ => none

theorem received_append (es es' : List Event) :
    received (es ++ es') = received es ++ received es' := List.filterMap_append

theorem checkNotify_sid {req : NotifyRequest} {n : EmitNotifyData} (h : checkNotify req = .ok n) :
    req.sid = some n.sid := by
  unfold checkNotify at h
  split at h
  · cases h
  · split at h
    · split at h
      · cases h
      · split at h
        · cases h
        · split at h
          · cases h
          · split at h
            · cases h
            · rename_i hsid
              split at h
              · cases h
              · cases h
                exact (Option.filter_eq_some_iff.1 hsid).1
    · cases h

theorem accepted_sid {req : NotifyRequest} {n : EmitNotifyData} (h : accepted req = some n) :
    req.sid = some n.sid := by
  unfold accepted at h
  split at h
  · rename_i m hm
    simp only [Option.ite_none_right_eq_some, Option.some.injEq] at h
    rw [← h.2]
    exact checkNotify_sid hm
  · cases h

theorem received_notify (req : NotifyRequest) : received [.notify req] = (accepted req).toList := by
  cases ha : accepted req <;> simp [received, ha]

theorem serverHandler_queue {req : NotifyRequest} {n : EmitNotifyData} {s : Proxy}
    (h : accepted req = some n) (hs : s.sid ≠ none) : serverHandler req s =
      { s with pendingNotifies := s.pendingNotifies ++ [n], notifyIdleSrc := true }.record
        (.answer req .ok) := by
  unfold accepted at h
  split at h
  · rename_i m hm
    simp only [Option.ite_none_right_eq_some, Option.some.injEq] at h
    obtain ⟨hroot, rfl⟩ := h
    simp [serverHandler, hm, hroot, hs]
  · cases h

/-- While the proxy has no SID a property set is acknowledged and dropped. -/
theorem serverHandler_drop {req : NotifyRequest} {n : EmitNotifyData} {s : Proxy}
    (h : accepted req = some n) (hs : s.sid = none) :
    serverHandler req s = s.record (.answer req .ok) := by
  unfold accepted at h
  split at h
  · rename_i m hm
    simp [serverHandler, hm, hs]
  · cases h

theorem serverHandler_ignore {req : NotifyRequest} (h : accepted req = none) (s : Proxy) :
    ∃ status, serverHandler req s = s.record (.answer req status) := by
  obtain ⟨n, hn, hroot, -, -⟩ | hq := serverHandler_cases req s
  · simp [accepted, hn, hroot] at h
  · exact hq

@[simp] theorem serverHandler_subscribed (req : NotifyRequest) (s : Proxy) :
    (serverHandler req s).subscribed = s.subscribed := by
  obtain ⟨n, -, -, -, hq⟩ | ⟨status, hq⟩ := serverHandler_cases req s <;> rw [hq] <;> rfl

@[simp] theorem serverHandler_sid (req : NotifyRequest) (s : Proxy) :
    (serverHandler req s).sid = s.sid := by
  obtain ⟨n, -, -, -, hq⟩ | ⟨status, hq⟩ := serverHandler_cases req s <;> rw [hq] <;> rfl

@[simp] theorem serverHandler_listening (req : NotifyRequest) (s : Proxy) :
    (serverHandler req s).listening = s.listening := by
  obtain ⟨n, -, -, -, hq⟩ | ⟨status, hq⟩ := serverHandler_cases req s <;> rw [hq] <;> rfl

/-! ## Progress -/

/-- The events of one subscription: notifications with its SID and idle dispatches to callbacks that
leave the subscription alone. -/
def ForSid (sid : Str) : Event → Prop
  | .notify req => ∀ n, accepted req = some n → n.sid = sid
  | .idle cb => cb = passive
  | _ => False

theorem forSid_notify {sid : Str} {req : NotifyRequest} (h : req.sid = some sid) :
    ForSid sid (.notify req) := by
  intro n hn
  rw [accepted_sid hn] at h
  exact Option.some.inj h

/-- How far the subscription that was in state `s` has got, in state `t`, with the notifications
`A`. -/
inductive Progress (info : Info) (sid : Str) (s : Proxy) (A : List EmitNotifyData) (t : Proxy) : Prop
  | live (done : List EmitNotifyData) (arrived : A = done ++ t.pendingNotifies)
      (inStep : InStep s.seq done) (seq : t.seq = nextSeq^[done.length] s.seq)
      (hasSid : t.sid = some sid) (listening : t.listening = true)
      (dispatched : dispatched t.log = dispatched s.log ++ own sid done)
      (subscribes : subscribesSent t.log = subscribesSent s.log)
  | missed (gap : ¬ InStep s.seq A) (seq : t.seq = 0) (noSid : t.sid = none)
      (pending : t.pendingNotifies = []) (idle : t.notifyIdleSrc = false)
      (dispatched : dispatched t.log = dispatched s.log ++ own sid (deliverable s.seq A))
      (subscribes : subscribesSent t.log =
        subscribesSent s.log ++ info.subscriptionUrl.toList.map info.subscribeMsg)

theorem progress_init (info : Info) {sid : Str} {s : Proxy} (hsid : s.sid = some sid)
    (hl : s.listening = true) : Progress info sid s s.pendingNotifies s :=
  .live [] rfl trivial rfl hsid hl (by simp [own]) rfl

theorem subscribesSent_subscribe (s : Proxy) : subscribesSent (subscribe info s).log =
    subscribesSent s.log ++ info.subscriptionUrl.toList.map info.subscribeMsg := by
  unfold subscribe
  cases info.subscriptionUrl <;> simp [subscribesSent]

theorem dispatched_subscribe (s : Proxy) :
    dispatched (subscribe info s).log = dispatched s.log := by
  unfold subscribe
  cases info.subscriptionUrl <;> simp [dispatched]

theorem subscribesSent_unsubscribe (s : Proxy) :
    subscribesSent (unsubscribe info s).log = subscribesSent s.log := by
  rw [unsubscribe_log]
  cases s.sid <;> split <;> simp [subscribesSent]

theorem dispatched_unsubscribe (s : Proxy) :
    dispatched (unsubscribe info s).log = dispatched s.log := by
  rw [unsubscribe_log]
  cases s.sid <;> split <;> simp [dispatched]

theorem progress_notify {sid : Str} {s t : Proxy} {A : List EmitNotifyData} {req : NotifyRequest}
    (h : Progress info sid s A t) :
    Progress info sid s (A ++ (accepted req).toList) (serverHandler req t) := by
  have hrec : ∀ status, dispatched (t.record (.answer req status)).log = dispatched t.log ∧
      subscribesSent (t.record (.answer req status)).log = subscribesSent t.log := by
    intro status
    simp [ServiceProxy.dispatched, subscribesSent]
  cases ha : accepted req with
  | none =>
    obtain ⟨status, he⟩ := serverHandler_ignore ha t
    rw [he, Option.toList_none, List.append_nil]
    cases h with
    | live done harr hin hseq hsid hl hd hs =>
      exact .live done harr hin hseq hsid hl ((hrec _).1.trans hd) ((hrec _).2.trans hs)
    | missed hgap hseq hsid hp hi hd hs =>
      exact .missed hgap hseq hsid hp hi ((hrec _).1.trans hd) ((hrec _).2.trans hs)
  | some n =>
    cases h with
    | live done harr hin hseq hsid hl hd hs =>
      rw [serverHandler_queue ha (by rw [hsid]; simp)]
      refine .live done ?_ hin hseq hsid hl ((hrec _).1.trans hd) ((hrec _).2.trans hs)
      rw [harr]
      simp
    | missed hgap hseq hsid hp hi hd hs =>
      rw [serverHandler_drop ha hsid]
      refine .missed (fun hc => hgap (inStep_append.1 hc).1) hseq hsid hp hi ?_ ((hrec _).2.trans hs)
      rw [deliverable_append_of_not_inStep hgap]
      exact (hrec _).1.trans hd

theorem progress_idle {sid : Str} {s t : Proxy} {A : List EmitNotifyData}
    (h : Progress info sid s A t) (hi : t.notifyIdleSrc = true) :
    Progress info sid s A (emitNotifications info passive t) := by
  cases h with
  | missed _ _ _ _ hidle _ _ => rw [hi] at hidle; cases hidle
  | live done harr hin hseq hsid hl hd hs =>
    obtain ⟨h1, h2⟩ := emitLoop_passive info t.pendingNotifies hsid
    have hnot : ¬ (t.sid = none ∧ t.subscribed = true) := by rw [hsid]; simp
    have hlog : ServiceProxy.dispatched (t.log ++ scanLog sid t.seq t.pendingNotifies) =
        ServiceProxy.dispatched s.log ++ own sid (deliverable s.seq A) := by
      rw [dispatched_append, dispatched_scanLog, hd, harr, deliverable_append_of_inStep hin,
        own_append, ← hseq, List.append_assoc]
    have hsub : subscribesSent (t.log ++ scanLog sid t.seq t.pendingNotifies) =
        subscribesSent s.log := by
      rw [subscribesSent_append, subscribesSent_scanLog, List.append_nil, hs]
    have hstep : InStep s.seq A ↔ InStep t.seq t.pendingNotifies := by
      rw [harr, inStep_append, hseq]
      exact and_iff_right hin
    rw [emitNotifications_eq hnot]
    cases hr : (emitLoop info passive t.pendingNotifies t).2 with
    | false =>
      have hA := hstep.2 (h2.1 hr)
      rw [h1]
      rw [deliverable_eq_self hA] at hlog
      refine .live A (by simp) hA ?_ hsid hl hlog hsub
      rw [harr, List.length_append, Nat.add_comm, Function.iterate_add_apply, ← hseq,
        deliverable_eq_self (h2.1 hr)]
      rfl
    | true =>
      have hA : ¬ InStep s.seq A := fun hc => by
        rw [h2.2 (hstep.1 hc)] at hr
        cases hr
      rw [h1]
      refine .missed hA ?_ ?_ ?_ rfl ?_ ?_
      · simp [unsubscribe_seq, hsid]
      · simp
      · simp
      · simp only [↓reduceIte, dispatched_subscribe, dispatched_unsubscribe]
        exact hlog
      · simp only [↓reduceIte, subscribesSent_subscribe, subscribesSent_unsubscribe]
        rw [hsub]

theorem progress_step {sid : Str} {s t u : Proxy} {A : List EmitNotifyData} {e : Event}
    (h : Progress info sid s A t) (ho : ForSid sid e) (he : step info t e = some u) :
    Progress info sid s (A ++ received [e]) u := by
  cases e with
  | notify req =>
    rw [received_notify]
    rcases notify_step he with ⟨hl, rfl⟩ | ⟨-, rfl⟩
    · -- Nobody listens only after an event was missed.
      cases h with
      | live _ _ _ _ _ hl' _ _ => rw [hl] at hl'; cases hl'
      | missed hgap hseq hsid hp hi hd hs =>
        refine .missed (fun hc => hgap (inStep_append.1 hc).1) hseq hsid hp hi ?_ hs
        rw [deliverable_append_of_not_inStep hgap, hd]
    · exact progress_notify h
  | idle cb =>
    obtain rfl : cb = passive := ho
    obtain ⟨hi, rfl⟩ := idle_step he
    have hr : received [.idle passive] = [] := rfl
    rw [hr, List.append_nil]
    exact progress_idle h hi
  | setSubscribed b => exact ho.elim
  | expire => exact ho.elim
  | response i resp rand => exact ho.elim

theorem progress_run {sid : Str} {s t : Proxy} {es : List Event} (hsid : s.sid = some sid)
    (hl : s.listening = true) (h : Run (step info) (fun _ e => ForSid sid e) s es t) :
    Progress info sid s (s.pendingNotifies ++ received es) t := by
  refine h.history (fun es t => Progress info sid s (s.pendingNotifies ++ received es) t) ?_ ?_
  · intro es t e u hP ho he
    rw [received_append, ← List.append_assoc]
    exact progress_step hP ho he
  · simpa [received] using progress_init info hsid hl

/-- With nothing pending, exactly the deliverable notifications with the SID were dispatched. -/
theorem Progress.dispatched_eq {sid : Str} {s t : Proxy} {A : List EmitNotifyData}
    (h : Progress info sid s A t) (hp : t.pendingNotifies = []) :
    dispatched t.log = dispatched s.log ++ own sid (deliverable s.seq A) := by
  cases h with
  | live done harr hin _ _ _ hd _ =>
    rw [hp, List.append_nil] at harr
    subst harr
    rw [hd, deliverable_eq_self hin]
  | missed _ _ _ _ _ hd _ => exact hd

/-- What a run of notifications and idle dispatches has to show for itself: the documents
dispatched, the event counter, and the SUBSCRIBE requests sent. -/
def outcome (t : Proxy) : List EmitNotifyData × UInt32 × List SubscribeMsg :=
  (dispatched t.log, t.seq, subscribesSent t.log)

/-- With nothing pending, the outcome depends on the notifications alone and not on the order in
which they were interleaved with idle dispatches. -/
theorem Progress.outcome_eq {sid : Str} {s s' t t' : Proxy} {A : List EmitNotifyData}
    (h : Progress info sid s A t) (h' : Progress info sid s' A t')
    (hs : outcome s = outcome s') (hp : t.pendingNotifies = []) (hp' : t'.pendingNotifies = []) :
    outcome t = outcome t' := by
  simp only [outcome, Prod.mk.injEq] at hs ⊢
  obtain ⟨hdisp, hseq, hsub⟩ := hs
  refine ⟨?_, ?_⟩
  · rw [h.dispatched_eq hp, h'.dispatched_eq hp', hdisp, hseq]
  · cases h with
    | live done harr hin hc _ _ _ hsubs =>
      cases h' with
      | live done' harr' hin' hc' _ _ _ hsubs' =>
        rw [hp, List.append_nil] at harr
        rw [hp', List.append_nil] at harr'
        rw [hc, hc', hsubs, hsubs', ← harr, ← harr', hseq, hsub]
        exact ⟨rfl, rfl⟩
      | missed gap' _ _ _ _ _ _ =>
        rw [hp, List.append_nil] at harr
        rw [harr, ← hseq] at gap'
        exact absurd hin gap'
    | missed gap hc _ _ _ _ hsubs =>
      cases h' with
      | live done' harr' hin' _ _ _ _ _ =>
        rw [hp', List.append_nil] at harr'
        rw [harr', hseq] at gap
        exact absurd hin' gap
      | missed _ hc' _ _ _ _ hsubs' =>
        rw [hc, hc', hsubs, hsubs', hsub]
        exact ⟨rfl, rfl⟩

/-! ## Gap-free delivery -/

/-- The numbers of the notifications. -/
def seqs (q : List EmitNotifyData) : List Nat := q.map fun n => n.seq.toNat

/-- From `s` to `t` the documents dispatched carry the numbers `0, 1, 2, ..`. -/
def GapFree (s t : Proxy) : Prop :=
  ∃ D, dispatched t.log = dispatched s.log ++ D ∧ seqs D = List.range D.length

/-- The first notification whose number is not the count of those before it, if there is one, has a
greater number: it comes after a loss and is no duplicate or late arrival. -/
def LossFirst (A : List EmitNotifyData) : Prop :=
  ∀ a n b, A = a ++ n :: b → seqs a = List.range a.length → a.length ≤ n.seq.toNat

/-- A subscription nothing has arrived for yet. -/
structure Fresh (sid : Str) (s : Proxy) : Prop where
  sid : s.sid = some sid
  seq : s.seq = 0
  pending : s.pendingNotifies = []
  listening : s.listening = true

theorem nextSeq_of_lt {c : UInt32} (h : c < 0xffffffff) : (nextSeq c).toNat = c.toNat + 1 := by
  have hn : c.toNat < 0xffffffff := UInt32.lt_iff_toNat_lt.1 h
  rw [nextSeq_toNat, wrapSucc_of_lt hn]

/-- `LossFirst` for a counter that starts at `k`. -/
def LossFirstFrom (k : Nat) (A : List EmitNotifyData) : Prop :=
  ∀ a n b, A = a ++ n :: b → seqs a = List.range' k a.length → k + a.length ≤ n.seq.toNat

theorem lossFirst_iff {A : List EmitNotifyData} : LossFirst A ↔ LossFirstFrom 0 A := by
  simp only [LossFirst, LossFirstFrom, List.range_eq_range', Nat.zero_add]

/-- The first notification is not behind the counter, and if it has the number of the counter the
others are as they should be. -/
theorem lossFirstFrom_cons {k : Nat} {m : EmitNotifyData} {A : List EmitNotifyData} :
    LossFirstFrom k (m :: A) ↔
      k ≤ m.seq.toNat ∧ (m.seq.toNat = k → LossFirstFrom (k + 1) A) := by
  constructor
  · intro h
    refine ⟨h [] m A rfl rfl, fun heq a n b hab ha => ?_⟩
    have hnext := h (m :: a) n b (by rw [hab]; rfl)
      (by rw [seqs, List.map_cons, heq, List.length_cons, List.range'_succ, ← ha]; rfl)
    rw [List.length_cons] at hnext
    omega
  · rintro ⟨hle, hrest⟩ a n b hab ha
    cases a with
    | nil =>
      obtain ⟨rfl, -⟩ := List.cons.inj hab
      exact hle
    | cons x a =>
      obtain ⟨rfl, rfl⟩ := List.cons.inj hab
      rw [seqs, List.map_cons, List.length_cons, List.range'_succ] at ha
      obtain ⟨heq, ha⟩ := List.cons.inj ha
      have hnext := hrest heq a n b rfl ha
      rw [List.length_cons]
      omega

theorem seqs_deliverable_iff {c : UInt32} {A : List EmitNotifyData}
    (hA : ∀ n ∈ A, n.seq < 0xffffffff) :
    seqs (deliverable c A) = List.range' c.toNat (deliverable c A).length ↔
      LossFirstFrom c.toNat A := by
  induction A generalizing c with
  | nil =>
    refine iff_of_true rfl fun a n b hab => ?_
    exact absurd hab.symm (List.append_ne_nil_of_right_ne_nil a (List.cons_ne_nil n b))
  | cons m A ih =>
    rw [lossFirstFrom_cons, deliverable]
    rcases Nat.lt_trichotomy m.seq.toNat c.toNat with hlt | heq | hgt
    · -- A duplicate or late arrival is dispatched.
      have hle : ¬ m.seq > c := UInt32.not_lt.2 (UInt32.le_iff_toNat_le.2 (Nat.le_of_lt hlt))
      rw [if_neg hle, seqs, List.map_cons, List.length_cons, List.range'_succ]
      refine iff_of_false (fun h => ?_) fun h => absurd h.1 (Nat.not_le_of_lt hlt)
      exact absurd (List.cons.inj h).1 (Nat.ne_of_lt hlt)
    · have hle : ¬ m.seq > c := UInt32.not_lt.2 (UInt32.le_iff_toNat_le.2 (Nat.le_of_eq heq))
      have hc : (nextSeq c).toNat = c.toNat + 1 := by
        refine nextSeq_of_lt (UInt32.lt_iff_toNat_lt.2 ?_)
        rw [← heq]
        exact UInt32.lt_iff_toNat_lt.1 (hA m List.mem_cons_self)
      have ih := ih (c := nextSeq c) fun n hn => hA n (List.mem_cons_of_mem m hn)
      rw [hc] at ih
      rw [if_neg hle, seqs, List.map_cons, List.length_cons, List.range'_succ, List.cons.injEq,
        and_iff_right heq, ← ih, seqs]
      exact ⟨fun h => ⟨Nat.le_of_eq heq.symm, fun _ => h⟩, fun h => h.2 heq⟩
    · have hgap : m.seq > c := UInt32.lt_iff_toNat_lt.2 hgt
      rw [if_pos hgap]
      exact iff_of_true rfl ⟨Nat.le_of_lt hgt, fun heq => absurd heq (Nat.ne_of_gt hgt)⟩

theorem mem_received {es : List Event} {n : EmitNotifyData} (h : n ∈ received es) :
    ∃ req, Event.notify req ∈ es ∧ accepted req = some n := by
  obtain ⟨e, he, hn⟩ := List.mem_filterMap.1 h
  cases e with
  | notify req => exact ⟨req, he, hn⟩
  | setSubscribed b => cases hn
  | idle cb => cases hn
  | expire => cases hn
  | response i resp rand => cases hn

theorem sid_of_received {sid : Str} {s t : Proxy} {es : List Event}
    (h : Run (step info) (fun _ e => ForSid sid e) s es t) : ∀ n ∈ received es, n.sid = sid := by
  intro n hn
  obtain ⟨req, hreq, ha⟩ := mem_received hn
  obtain ⟨-, -, -, -, ho, -⟩ := h.mem_step hreq
  exact ho n ha

/-- **Gap-free, at-most-once delivery** holds of a subscription exactly when its first notification
out of step, if there is one, comes after a loss. -/
theorem gap_free_iff {sid : Str} {s t : Proxy} {es : List Event} (h0 : Fresh sid s)
    (h : Run (step info) (fun _ e => ForSid sid e) s es t) (hp : t.pendingNotifies = [])
    (hw : ∀ n ∈ received es, n.seq < 0xffffffff) : GapFree s t ↔ LossFirst (received es) := by
  have hd := (progress_run h0.sid h0.listening h).dispatched_eq hp
  rw [h0.pending, List.nil_append, h0.seq] at hd
  rw [own_eq_self fun n hn => sid_of_received h n (deliverable_subset _ _ hn)] at hd
  have hiff := seqs_deliverable_iff (c := 0) hw
  rw [UInt32.toNat_zero, ← List.range_eq_range', ← lossFirst_iff] at hiff
  unfold GapFree
  rw [← hiff]
  constructor
  · rintro ⟨D, hD, hs⟩
    rw [hd] at hD
    rw [List.append_cancel_left hD]
    exact hs
  · exact fun hs => ⟨_, hd, hs⟩

theorem gap_free_sample : ∃ t, Run (step sampleInfo) (fun _ e => ForSid sampleSid e) sampleFresh
      [.notify (sampleNotify sampleSid 0), .idle passive, .notify (sampleNotify sampleSid 1),
        .idle passive] t ∧
    (GapFree sampleFresh t ↔ LossFirst (received [.notify (sampleNotify sampleSid 0),
      .idle passive, .notify (sampleNotify sampleSid 1), .idle passive])) := by
  have h : Run (step sampleInfo) (fun _ e => ForSid sampleSid e) sampleFresh
      [.notify (sampleNotify sampleSid 0), .idle passive, .notify (sampleNotify sampleSid 1),
        .idle passive] _ :=
    .cons (forSid_notify rfl) rfl (.cons rfl rfl (.cons (forSid_notify rfl) rfl
      (.cons rfl rfl .nil)))
  exact ⟨_, h, gap_free_iff ⟨rfl, rfl, rfl, rfl⟩ h rfl (by decide)⟩

/-- A duplicate is dispatched again, after which the loss of number 1 goes unseen. -/
theorem duplicate_hides_loss : ∃ t, Fresh sampleSid sampleFresh ∧
    Run (step sampleInfo) (fun _ e => ForSid sampleSid e) sampleFresh
      [.notify (sampleNotify sampleSid 0), .notify (sampleNotify sampleSid 0),
        .notify (sampleNotify sampleSid 2), .idle passive] t ∧
    t.pendingNotifies = [] ∧ ¬ GapFree sampleFresh t := by
  have h : Run (step sampleInfo) (fun _ e => ForSid sampleSid e) sampleFresh
      [.notify (sampleNotify sampleSid 0), .notify (sampleNotify sampleSid 0),
        .notify (sampleNotify sampleSid 2), .idle passive] _ :=
    .cons (forSid_notify rfl) rfl (.cons (forSid_notify rfl) rfl (.cons (forSid_notify rfl) rfl
      (.cons rfl rfl .nil)))
  refine ⟨_, ⟨rfl, rfl, rfl, rfl⟩, h, rfl, ?_⟩
  rintro ⟨D, hD, hs⟩
  have hseqs : seqs D = [0, 0, 2] := by
    have hcongr := congrArg seqs hD
    exact hcongr.symm.trans (by decide)
  have hlen : D.length = 3 := by
    have hl := congrArg List.length hseqs
    rwa [seqs, List.length_map] at hl
  rw [hseqs, hlen] at hs
  exact absurd hs (by decide)

end GUPnP.ServiceProxy
