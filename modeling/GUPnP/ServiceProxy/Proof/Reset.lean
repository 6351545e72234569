import GUPnP.ServiceProxy.Proof.Handlers
import Mathlib.Data.List.Chain

/-!
# Unsubscribed means reset

`UnsubscribedReset`: a proxy that is not subscribed holds no SID, counts from 0 and has no renewal
timer armed. The code breaks it in three places: an error of the session jumps past the code that
clears the SID and the timer, a failed renewal clears the SID but not the counter, and the dispatch
loop counts notifications although there is no SID. `ResetOk` says that a step takes none of these
branches where it matters; `unsubscribed_reset` proves the property of every run whose steps all
satisfy it. The invariant is `Tied`: without a SID nothing is counted and no timer runs, and a proxy
that is not subscribed has no SID.
-/

set_option autoImplicit false

namespace GUPnP.ServiceProxy

variable {info : Info} {cb : Proxy → XmlDoc → List Bool}

def UnsubscribedReset (s : Proxy) : Prop :=
  s.subscribed = false → s.sid = none ∧ s.seq = 0 ∧ s.subscriptionTimeoutSrc = none

/-- Some notify callback may unsubscribe while it handles the document. -/
def MayUnsubscribe (cb : Proxy → XmlDoc → List Bool) (doc : XmlDoc) : Prop :=
  ∃ s, false ∈ cb s doc

/-- The condition on a step, in the state before it: an error of the session is received only while
no SID is held; a response that refuses the subscription or names no SID is received only while the
counter is 0 (or the subscription is not wanted any more); and no notification with `SEQ` 0 is
dispatched while the proxy is not subscribed, nor right after one whose callbacks may
unsubscribe. -/
def ResetOk (s : Proxy) : Event → Prop
  | .response _ (.error _) _ => s.sid = none
  | .response _ (.http status _ sid _) _ =>
    (isSuccessful status = true ∧ sid ≠ none) ∨ s.subscribed = false ∨ s.seq = 0
  | .idle cb =>
    (s.subscribed = false → ∀ n ∈ s.pendingNotifies.head?, n.seq ≠ 0) ∧
      s.pendingNotifies.IsChain fun m n => MayUnsubscribe cb m.doc → n.seq ≠ 0
  | _ => True

/-! ## The invariant -/

structure Tied (s : Proxy) : Prop where
  noSid : s.sid = none → s.seq = 0 ∧ s.subscriptionTimeoutSrc = none
  notSubscribed : s.subscribed = false → s.sid = none

theorem Tied.reset {s : Proxy} (h : Tied s) : UnsubscribedReset s := fun hs =>
  ⟨h.notSubscribed hs, h.noSid (h.notSubscribed hs)⟩

theorem tied_init : Tied Proxy.init := ⟨fun _ => ⟨rfl, rfl⟩, fun _ => rfl⟩

theorem Tied.record {s : Proxy} (h : Tied s) (e : Effect) : Tied (s.record e) := ⟨h.1, h.2⟩

theorem Tied.subscribed_of_sid {s : Proxy} (h : Tied s) (hs : s.sid ≠ none) :
    s.subscribed = true := by
  cases hsub : s.subscribed with
  | true => rfl
  | false => exact absurd (h.notSubscribed hsub) hs

/-- Giving the SID up resets everything that depends on it. -/
theorem tied_unsubscribe {s : Proxy} (h : s.sid = none → s.seq = 0) : Tied (unsubscribe info s) := by
  refine ⟨fun _ => ⟨?_, rfl⟩, fun _ => unsubscribe_sid info s⟩
  rw [unsubscribe_seq]
  split
  · rename_i hs; exact h hs
  · rfl

theorem tied_subscribe (info : Info) {s : Proxy} (hsid : s.sid = none) (hseq : s.seq = 0) :
    Tied (subscribe info s) := by
  refine ⟨fun _ => ⟨by simp [hseq], by simp⟩, fun _ => by simp [hsid]⟩

theorem tied_setSubscribed {s : Proxy} (h : Tied s) (b : Bool) : Tied (setSubscribed info b s) := by
  obtain ⟨-, he⟩ | ⟨-, hs, he⟩ | ⟨-, -, he⟩ := setSubscribed_cases info b s
  · rwa [he]
  · rw [he]
    have hsid := h.notSubscribed hs
    exact (tied_subscribe info (s := { s with subscribed := true }) hsid (h.noSid hsid).1).record _
  · rw [he]
    exact (tied_unsubscribe (s := { s with subscribed := false }) fun hs => (h.noSid hs).1).record _

theorem tied_hdrErr {s : Proxy} (hsid : s.sid = none) (hseq : s.seq = 0)
    (ht : s.subscriptionTimeoutSrc = none) (e : LostError) : Tied (hdrErr e s) :=
  ⟨fun _ => ⟨hseq, ht⟩, fun _ => hsid⟩

/-! ## Responses -/

theorem tied_response {s : Proxy} (h : Tied s) {i : Nat} {resp : Response} {rand : Int → Int → Int}
    (ho : ResetOk s (.response i resp rand)) : Tied (subscribeGotResponse rand resp s) := by
  cases resp with
  | cancelled => exact h
  | error message =>
    obtain ⟨hseq, ht⟩ := h.noSid ho
    exact tied_hdrErr ho hseq ht _
  | http status reason sid timeout =>
    obtain ⟨hs, he⟩ | ⟨hs, g, -, -, he⟩ | ⟨hs, hno, e, he⟩ :=
      http_cases rand status reason sid timeout s
    · rw [he]
      have hsid := h.notSubscribed hs
      exact ⟨fun _ => ⟨(h.noSid hsid).1, rfl⟩, fun _ => hsid⟩
    · rw [he]
      refine ⟨fun hc => ?_, fun hc => ?_⟩
      · cases hc
      · rw [hs] at hc; cases hc
    · rw [he]
      rcases ho with hok | hc | hseq
      · exact absurd hok hno
      · rw [hs] at hc; cases hc
      · exact tied_hdrErr (s := { s with subscriptionTimeoutSrc := none, sid := none }) rfl hseq rfl e

/-! ## The dispatch loop -/

/-- If the callbacks take the SID away, one of their calls was an unsubscription. -/
theorem foldl_setSubscribed_sid (info : Info) {calls : List Bool} {s : Proxy}
    (hsub : s.subscribed = true)
    (hsid : s.sid ≠ none) (h : (calls.foldl (fun s b => setSubscribed info b s) s).sid = none) :
    false ∈ calls := by
  induction calls with
  | nil => exact absurd h hsid
  | cons b calls ih =>
    cases b with
    | false => exact List.mem_cons_self
    | true =>
      rw [List.foldl_cons, show setSubscribed info true s = s from if_pos hsub] at h
      exact List.mem_cons_of_mem _ (ih h)

theorem emitNotificationsForDoc_sid {n : EmitNotifyData} {s : Proxy} (hsub : s.subscribed = true)
    (hsid : s.sid ≠ none) (h : (emitNotificationsForDoc info cb n s).sid = none) :
    MayUnsubscribe cb n.doc :=
  ⟨s, foldl_setSubscribed_sid info (s := s.record (.dispatch n)) hsub hsid h⟩

theorem foldl_setSubscribed_tied {calls : List Bool} {s : Proxy} (h : Tied s) :
    Tied (calls.foldl (fun s b => setSubscribed info b s) s) := by
  induction calls generalizing s with
  | nil => exact h
  | cons b calls ih => exact ih (tied_setSubscribed h b)

/-- The loop's invariant: without a SID the next notification is not the initial event. -/
structure LoopTied (cb : Proxy → XmlDoc → List Bool) (rest : List EmitNotifyData) (s : Proxy) :
    Prop where
  tied : Tied s
  next : s.sid = none → ∀ n ∈ rest.head?, n.seq ≠ 0
  chain : rest.IsChain fun m n => MayUnsubscribe cb m.doc → n.seq ≠ 0

theorem loopTied_step {n : EmitNotifyData} {rest : List EmitNotifyData} {s : Proxy}
    (h : LoopTied cb (n :: rest) s) (hle : n.seq ≤ s.seq) :
    LoopTied cb rest (emitStep info cb n s) := by
  have hsid : s.sid ≠ none := by
    intro hs
    refine h.next hs n rfl ?_
    rw [(h.tied.noSid hs).1] at hle
    exact UInt32.le_antisymm hle (UInt32.zero_le)
  have hsub := h.tied.subscribed_of_sid hsid
  have hcount : Tied { s with seq := nextSeq s.seq } :=
    ⟨fun hs => absurd hs hsid, fun hs => by simp [hsub] at hs⟩
  have hchain := h.chain
  rw [List.isChain_cons] at hchain
  by_cases hown : s.sid = some n.sid
  · rw [emitStep_own hown]
    refine ⟨foldl_setSubscribed_tied (hcount.record _), fun hs m hm => ?_, hchain.2⟩
    have hmay : MayUnsubscribe cb n.doc :=
      emitNotificationsForDoc_sid (s := { s with seq := nextSeq s.seq }) hsub hsid hs
    exact hchain.1 m hm hmay
  · rw [emitStep_other hown]
    exact ⟨hcount, fun hs => absurd hs hsid, hchain.2⟩

theorem tied_emitNotifications {s : Proxy} (h : Tied s) (ho : ResetOk s (.idle cb)) :
    Tied (emitNotifications info cb s) := by
  by_cases hd : s.sid = none ∧ s.subscribed = true
  · rwa [emitNotifications_delayed hd]
  · have h0 : LoopTied cb s.pendingNotifies s := by
      refine ⟨h, fun hs => ho.1 ?_, ho.2⟩
      cases hsub : s.subscribed with
      | false => rfl
      | true => exact absurd ⟨hs, hsub⟩ hd
    rw [emitNotifications_eq hd]
    obtain ⟨hr, hI⟩ | ⟨hr, n, rest, -, -, hI⟩ := emitLoop_inv info cb (LoopTied cb)
      (fun n rest s h => ⟨h.tied.record _, h.next, h.chain⟩) (fun n rest s h hle => loopTied_step h hle)
      s.pendingNotifies s h0
    · rw [hr]
      exact ⟨hI.tied.noSid, hI.tied.notSubscribed⟩
    · rw [hr]
      have hu : Tied (unsubscribe info
          { (emitLoop info cb s.pendingNotifies s).1 with pendingNotifies := [] }) :=
        tied_unsubscribe fun hs => (hI.tied.noSid hs).1
      have hsu := tied_subscribe info (unsubscribe_sid info _)
        (hu.noSid (unsubscribe_sid info _)).1
      exact ⟨hsu.noSid, hsu.notSubscribed⟩

/-! ## Runs -/

theorem tied_step {s t : Proxy} {e : Event} (h : Tied s) (ho : ResetOk s e)
    (he : step info s e = some t) : Tied t := by
  cases e with
  | setSubscribed b =>
    obtain rfl := Option.some.inj he
    exact tied_setSubscribed h b
  | notify req =>
    rcases notify_step he with ⟨-, rfl⟩ | ⟨-, rfl⟩
    · exact h
    · obtain ⟨n, -, -, -, hq⟩ | ⟨status, hq⟩ := serverHandler_cases req s <;> rw [hq]
      · exact ⟨h.noSid, h.notSubscribed⟩
      · exact h.record _
  | idle cb =>
    obtain ⟨-, rfl⟩ := idle_step he
    exact tied_emitNotifications h ho
  | expire =>
    obtain ⟨-, rfl⟩ := expire_step he
    obtain ⟨_, _, -, -, hx⟩ | ⟨-, hx⟩ := subscriptionExpire_cases info s <;> rw [hx]
    · exact ⟨fun hs => ⟨(h.noSid hs).1, rfl⟩, h.notSubscribed⟩
    · exact ⟨fun hs => ⟨(h.noSid hs).1, rfl⟩, h.notSubscribed⟩
  | response i resp rand =>
    obtain ⟨msg, -, rfl⟩ := response_step he
    have hr : Tied (s.receive i msg resp) := ⟨h.noSid, h.notSubscribed⟩
    have ho' : ResetOk (s.receive i msg resp) (.response i resp rand) := by
      cases resp <;> exact ho
    exact tied_response hr ho'

/-- **Unsubscribed means reset**, in every run whose steps all satisfy `ResetOk`. -/
theorem unsubscribed_reset {es : List Event} {s : Proxy}
    (h : Run (step info) ResetOk Proxy.init es s) : UnsubscribedReset s :=
  (h.inv Tied (fun _ _ _ hI ho he => tied_step hI ho he) tied_init).reset

theorem unsubscribed_reset_sample : ∃ t, Run (step sampleInfo) ResetOk .init
    [.setSubscribed true, .response 0 (grant sampleSid) leastJitter,
      .notify (sampleNotify sampleSid 0), .idle passive, .setSubscribed false] t ∧
    t.subscribed = false ∧ UnsubscribedReset t := by
  have hidle : ∀ s n, s.subscribed = true → s.pendingNotifies = [n] →
      ResetOk s (.idle passive) := by
    intro s n hs hp
    refine ⟨fun h => ?_, ?_⟩
    · rw [hs] at h
      cases h
    · rw [hp]
      exact .singleton n
  have h : Run (step sampleInfo) ResetOk .init
      [.setSubscribed true, .response 0 (grant sampleSid) leastJitter,
        .notify (sampleNotify sampleSid 0), .idle passive, .setSubscribed false] _ :=
    .cons trivial rfl (.cons (.inl ⟨rfl, by simp⟩) rfl (.cons trivial rfl
      (.cons (hidle _ _ rfl rfl) rfl (.cons trivial rfl .nil))))
  exact ⟨_, h, rfl, unsubscribed_reset h⟩

/-- A renewal fails with an error of the session, and the SID stays. -/
theorem renewal_error_keeps_sid : ∃ t, Run (step sampleInfo) AnyStep .init
    [.setSubscribed true, .response 0 (grant sampleSid) leastJitter, .expire,
      .response 0 (.error "Connection terminated unexpectedly") leastJitter] t ∧
    ¬ UnsubscribedReset t := by
  have heval : ([.setSubscribed true, .response 0 (grant sampleSid) leastJitter, .expire,
      .response 0 (.error "Connection terminated unexpectedly") leastJitter].foldlM
        (step sampleInfo) .init).map (fun t => (t.subscribed, t.sid)) =
      some (false, some sampleSid) := by
    decide
  obtain ⟨t, hrun, ht⟩ := Run.exists_of_foldlM heval
  simp only [Prod.mk.injEq] at ht
  refine ⟨t, hrun, fun h => ?_⟩
  have hsid := (h ht.1).1
  rw [ht.2] at hsid
  cases hsid

end GUPnP.ServiceProxy
