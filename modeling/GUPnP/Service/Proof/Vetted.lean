import GUPnP.Service.Callbacks
import GUPnP.Service.Proof.Atomic

/-!
# Callbacks are vetted

`Segments` says what the segments of a `Callback` header are, and `Accepts` which of them are callbacks.
The scan of `subscribe` finds the first six (`scan_eq`, `callbackSegments_eq`), and what it accepts is
all that a subscription ever has for callbacks (`reached_invariant`).
-/

set_option autoImplicit false

namespace GUPnP.Service

variable {ctx : Context} {n : Network} {s : ServiceState} {es : List Event}

/-! ## What should be accepted -/

/-- The segments of a header, from each `<` to the next `>`. -/
inductive Segments : Str → List Str → Prop
  | done {header : Str} (h : ∀ a b, header = a ++ '<' :: b → '<' ∉ a → '>' ∉ b) : Segments header []
  | next {a segment rest : Str} {segments : List Str} (ha : '<' ∉ a) (hsegment : '>' ∉ segment)
      (h : Segments rest segments) :
      Segments (a ++ '<' :: (segment ++ '>' :: rest)) (segment :: segments)

/-- The URI that a URL is rewritten to: of the family of the context, with its interface where it is
link-local. A host that is no address has no family. -/
def Rewrites (n : Network) (url : Str) (uri : Uri) : Prop :=
  ∃ parsed, n.uriParse url = some parsed ∧
    match n.inetAddress (n.uriHost parsed) with
    | none => uri = parsed
    | some addr => addr.family = n.family ∧
        uri = if addr.linkLocal = true ∧ addr.family = .ipv6 then
          n.uriCopy parsed (n.uriHost parsed ++ '%' :: CString.printD n.index) else parsed

/-- A segment is accepted as this callback. -/
structure Accepts (n : Network) (segment : Str) (uri : Uri) : Prop where
  http : "http://".toList <+: segment
  length : segment.length ≤ 256
  rewrites : Rewrites n segment uri
  reaches : n.clientCanReach (n.uriHost uri) = true

/-- The callbacks that these segments are accepted as, in their order. -/
inductive AcceptedAs (n : Network) : List Str → List Uri → Prop
  | nil : AcceptedAs n [] []
  | accept {segment : Str} {uri : Uri} {segments : List Str} {uris : List Uri}
      (h : Accepts n segment uri) (hrest : AcceptedAs n segments uris) :
      AcceptedAs n (segment :: segments) (uri :: uris)
  | reject {segment : Str} {segments : List Str} {uris : List Uri}
      (h : ∀ uri, ¬ Accepts n segment uri) (hrest : AcceptedAs n segments uris) :
      AcceptedAs n (segment :: segments) uris

/-- A new subscription with these callbacks, answered with 200. -/
structure Subscribed (ctx : Context) (req : SubscriptionRequest) (accepted : List Uri)
    (s t : ServiceState) : Prop where
  fresh : s.subscriptions.lookup (generateSid ctx s.nextUuid) = none
  entry : ∃ d, t.subscriptions.lookup (generateSid ctx s.nextUuid) = some d ∧
    d.callbacks.toList = accepted
  others : ∀ sid, sid ≠ generateSid ctx s.nextUuid →
    t.subscriptions.lookup sid = s.subscriptions.lookup sid
  answer : ∃ ans msg, ans.status.code = 200 ∧ t.log = s.log ++ [.answer req ans, .notify msg]

/-- No subscription is new, and the answer is 412. -/
structure Refused (req : SubscriptionRequest) (s t : ServiceState) : Prop where
  subscriptions : t.subscriptions = s.subscriptions
  answer : ∃ ans, ans.status.code = 412 ∧ t.log = s.log ++ [.answer req ans]

/-- The callback that a segment is accepted as. -/
def vet (ctx : Context) (segment : Str) : Option Uri :=
  if "http://".toList <+: segment ∧ segment.length ≤ 256 then
    (ctx.rewriteUriToUri segment).filter ctx.canReach
  else none

/-! ## Segments -/

theorem exists_segments (header : Str) : ∃ segments, Segments header segments := by
  induction hlength : header.length using Nat.strong_induction_on generalizing header with
  | _ length ih =>
    by_cases h : ∃ a b, header = a ++ '<' :: b ∧ '<' ∉ a ∧ '>' ∈ b
    · obtain ⟨a, b, rfl, ha, hb⟩ := h
      obtain ⟨segment, rest, rfl, hsegment⟩ := List.eq_append_cons_of_mem hb
      obtain ⟨segments, hrest⟩ := ih rest.length (by simp at hlength; omega) rest rfl
      exact ⟨_, .next ha hsegment hrest⟩
    · exact ⟨[], .done fun a b hab ha hb => h ⟨a, b, hab, ha, hb⟩⟩

theorem dropWhile_ne_append {c : Char} {a : Str} (ha : c ∉ a) (b : Str) :
    (a ++ c :: b).dropWhile (· ≠ c) = c :: b := by
  rw [List.dropWhile_append_of_pos fun x hx => by simpa using fun h : x = c => ha (h ▸ hx)]
  simp

theorem takeWhile_ne_append {c : Char} {a : Str} (ha : c ∉ a) (b : Str) :
    (a ++ c :: b).takeWhile (· ≠ c) = a := by
  rw [List.takeWhile_append_of_pos fun x hx => by simpa using fun h : x = c => ha (h ▸ hx)]
  simp

theorem dropWhile_ne_eq_nil {c : Char} {a : Str} (ha : c ∉ a) : a.dropWhile (· ≠ c) = [] :=
  List.dropWhile_eq_nil_iff.2 fun x hx => by simpa using fun h : x = c => ha (h ▸ hx)

/-- The scan goes on at the `>`, which makes no difference. -/
theorem callbackSegments_cons (k : Nat) (rest : Str) :
    callbackSegments k ('>' :: rest) = callbackSegments k rest := by
  cases k with
  | zero => rfl
  | succ k => simp [callbackSegments]

theorem callbackSegments_succ {a segment : Str} (ha : '<' ∉ a) (hsegment : '>' ∉ segment) (k : Nat)
    (rest : Str) : callbackSegments (k + 1) (a ++ '<' :: (segment ++ '>' :: rest)) =
      segment :: callbackSegments k ('>' :: rest) := by
  rw [callbackSegments, dropWhile_ne_append ha]
  simp only [dropWhile_ne_append hsegment, takeWhile_ne_append hsegment]

theorem callbackSegments_eq_nil {header : Str}
    (h : ∀ a b, header = a ++ '<' :: b → '<' ∉ a → '>' ∉ b) (k : Nat) :
    callbackSegments k header = [] := by
  cases k with
  | zero => rfl
  | succ k =>
    by_cases hmem : '<' ∈ header
    · obtain ⟨a, b, rfl, ha⟩ := List.eq_append_cons_of_mem hmem
      rw [callbackSegments, dropWhile_ne_append ha]
      simp only [dropWhile_ne_eq_nil (h a b rfl ha)]
    · rw [callbackSegments, dropWhile_ne_eq_nil hmem]

/-- The scan finds the first segments. -/
theorem callbackSegments_eq {header : Str} {segments : List Str} (h : Segments header segments)
    (k : Nat) : callbackSegments k header = segments.take k := by
  induction h generalizing k with
  | done h => rw [callbackSegments_eq_nil h, List.take_nil]
  | next ha hsegment _ ih =>
    cases k with
    | zero => rfl
    | succ k => rw [callbackSegments_succ ha hsegment, callbackSegments_cons, ih, List.take_succ_cons]

/-! ## The buffer -/

/-- What the loop adds to the list for a segment. -/
def addSegment (ctx : Context) (list : List Uri) (segment : Str) : List Uri :=
  if "http://".toList <+: segment ∧ segment.length ≤ 256 then addSubscriptionCallback ctx list segment
  else list

theorem cString_of_drop {buffer b : Str} {start : Nat} (hb : buffer.drop start = b)
    (hnul : '\x00' ∉ b) : cString buffer start = b := by
  rw [cString, hb, List.takeWhile_eq_self_iff]
  intro c hc
  simpa using fun h : c = '\x00' => hnul (h ▸ hc)

theorem strchr_append {buffer a b : Str} {start : Nat} {c : Char}
    (h : buffer.drop start = a ++ c :: b) (hnul : '\x00' ∉ a ++ c :: b) (ha : c ∉ a) :
    strchr buffer start c = some (start + a.length) := by
  rw [strchr, cString_of_drop h hnul, if_pos (by simp), List.idxOf_append_of_notMem ha,
    List.idxOf_cons_self, Nat.add_zero]

theorem strchr_eq_none {buffer b : Str} {start : Nat} {c : Char} (h : buffer.drop start = b)
    (hnul : '\x00' ∉ b) (hc : c ∉ b) : strchr buffer start c = none := by
  rw [strchr, cString_of_drop h hnul, if_neg hc]

/-- With a NUL for its `>` the segment is a string of its own. -/
theorem cString_cut {buffer segment rest : Str} {start : Nat}
    (h : buffer.drop start = segment ++ '>' :: rest) (hnul : '\x00' ∉ segment ++ '>' :: rest) :
    cString (buffer.set (start + segment.length) '\x00') start = segment := by
  have hsegment : '\x00' ∉ segment := fun hmem => hnul (List.mem_append_left _ hmem)
  rw [cString, List.drop_set, if_neg (by omega), h, Nat.add_sub_cancel_left,
    List.set_append_right _ _ (Nat.le_refl _), Nat.sub_self, List.set_cons_zero,
    takeWhile_ne_append hsegment]

/-- The `>` is put back. -/
theorem set_set_cut {buffer rest : Str} {stop : Nat} (h : buffer.drop stop = '>' :: rest) :
    (buffer.set stop '\x00').set stop '>' = buffer := by
  have hget : buffer[stop]? = some '>' := by
    rw [← List.head?_drop, h]
    rfl
  rw [List.set_set]
  apply List.ext_getElem?
  intro i
  rw [List.getElem?_set]
  grind

/-- The loop reads the segments, and leaves the buffer as it was. -/
theorem scan_eq_foldl {buffer : Str} (hnul : '\x00' ∉ buffer) (k start : Nat) (list : List Uri) :
    scan ctx k buffer start list =
      ((callbackSegments k (buffer.drop start)).foldl (addSegment ctx) list, buffer) := by
  induction k generalizing start list with
  | zero => rfl
  | succ k ih =>
    have hsub : ∀ i, '\x00' ∉ buffer.drop i := fun i hc => hnul (List.drop_subset i buffer hc)
    by_cases hopen : '<' ∈ buffer.drop start
    · obtain ⟨a, b, hdrop, ha⟩ := List.eq_append_cons_of_mem hopen
      have hnext : buffer.drop (start + a.length + 1) = b := by
        rw [Nat.add_assoc, ← List.drop_drop, hdrop, ← List.drop_drop, List.drop_left]
        rfl
      rw [scan, strchr_append hdrop (hdrop ▸ hsub start) ha]
      simp only [cString_of_drop hnext (hnext ▸ hsub _)]
      by_cases hclose : '>' ∈ b
      · obtain ⟨segment, rest, rfl, hsegment⟩ := List.eq_append_cons_of_mem hclose
        have hstop : buffer.drop (start + a.length + 1 + segment.length) = '>' :: rest := by
          rw [← List.drop_drop, hnext, List.drop_left]
        rw [strchr_append hnext (hnext ▸ hsub _) hsegment, if_neg (by simp)]
        simp only
        rw [cString_cut hnext (hnext ▸ hsub _), set_set_cut hstop, ih, hstop, hdrop,
          callbackSegments_succ ha hsegment, List.foldl_cons]
        rfl
      · rw [strchr_eq_none hnext (hnext ▸ hsub _) hclose, ite_self, hdrop, callbackSegments,
          dropWhile_ne_append ha]
        simp only [dropWhile_ne_eq_nil hclose]
        rfl
    · rw [scan, strchr_eq_none rfl (hsub start) hopen, callbackSegments, dropWhile_ne_eq_nil hopen]
      rfl

/-! ## Accepting -/

theorem addSegment_eq (list : List Uri) (segment : Str) :
    addSegment ctx list segment = list ++ (vet ctx segment).toList := by
  unfold addSegment vet addSubscriptionCallback
  split
  · cases ctx.rewriteUriToUri segment with
    | none => simp
    | some uri =>
      by_cases hreach : ctx.canReach uri = true <;> simp [Option.filter, hreach]
  · simp

theorem foldl_addSegment (segments : List Str) (list : List Uri) :
    segments.foldl (addSegment ctx) list = list ++ segments.filterMap (vet ctx) := by
  induction segments generalizing list with
  | nil => simp
  | cons segment segments ih =>
    rw [List.foldl_cons, ih, addSegment_eq, List.append_assoc, List.filterMap_cons]
    cases vet ctx segment <;> rfl

theorem parseCallbacks_eq_foldl (callback : Str) :
    parseCallbacks ctx callback = (callbackSegments 6 callback).foldl (addSegment ctx) [] := by
  unfold parseCallbacks
  rw [List.foldl_filter]
  congr 1
  funext list segment
  simp only [addSegment, Bool.and_eq_true, List.isPrefixOf_iff_prefix, decide_eq_true_eq]

theorem parseCallbacks_eq (ctx : Context) {header : Str} {segments : List Str}
    (h : Segments header segments) :
    parseCallbacks ctx header = (segments.take 6).filterMap (vet ctx) := by
  rw [parseCallbacks_eq_foldl, callbackSegments_eq h, foldl_addSegment, List.nil_append]

/-- The loop of `subscribe` accepts what `parseCallbacks` says, and leaves the header as it was. -/
theorem scan_eq {header : Str} (hnul : '\x00' ∉ header) :
    scan ctx 6 header 0 [] = (parseCallbacks ctx header, header) := by
  rw [scan_eq_foldl hnul, List.drop_zero, parseCallbacks_eq_foldl]

theorem rewrites_iff {url : Str} {uri : Uri} :
    n.rewriteUriToUri url = some uri ↔ Rewrites n url uri := by
  unfold Network.rewriteUriToUri Rewrites
  cases n.uriParse url with
  | none => simp
  | some parsed =>
    cases haddr : n.inetAddress (n.uriHost parsed) with
    | none =>
      simp only [Option.some.injEq, exists_eq_left', haddr]
      exact eq_comm
    | some addr =>
      by_cases hfamily : addr.family = n.family
      · simp only [haddr, hfamily, ne_eq, not_true_eq_false, ↓reduceIte, Option.some.injEq,
          exists_eq_left', true_and]
        exact eq_comm
      · simp [haddr, hfamily]

theorem vet_eq_some {segment : Str} {uri : Uri} :
    vet (n.context ctx) segment = some uri ↔ Accepts n segment uri := by
  unfold vet
  rw [Option.ite_none_right_eq_some, Option.filter_eq_some_iff]
  show _ ∧ n.rewriteUriToUri segment = some uri ∧ n.clientCanReach (n.uriHost uri) = true ↔ _
  rw [rewrites_iff]
  exact ⟨fun ⟨⟨hhttp, hlength⟩, hrewrites, hreaches⟩ => ⟨hhttp, hlength, hrewrites, hreaches⟩,
    fun h => ⟨⟨h.http, h.length⟩, h.rewrites, h.reaches⟩⟩

theorem acceptedAs_vet (ctx : Context) (segments : List Str) :
    AcceptedAs n segments (segments.filterMap (vet (n.context ctx))) := by
  induction segments with
  | nil => exact .nil
  | cons segment segments ih =>
    rw [List.filterMap_cons]
    cases hvet : vet (n.context ctx) segment with
    | none =>
      refine .reject (fun uri haccepts => ?_) ih
      rw [vet_eq_some.2 haccepts] at hvet
      cases hvet
    | some uri => exact .accept (vet_eq_some.1 hvet) ih

/-! ## Subscribing -/

theorem refused_of_nil (query : ServiceState → Str → Option Str) (req : SubscriptionRequest)
    {header : Str} (hnone : parseCallbacks ctx header = []) :
    Refused req s (subscribe ctx query req header s) := by
  unfold subscribe
  rw [hnone]
  exact ⟨rfl, _, rfl, rfl⟩

theorem subscribed_of_ne_nil (hw : WellFormed ctx s) (query : ServiceState → Str → Option Str)
    (req : SubscriptionRequest) {header : Str} (hsome : parseCallbacks ctx header ≠ []) :
    Subscribed ctx req (parseCallbacks ctx header) s (subscribe ctx query req header s) := by
  obtain ⟨uri, uris, hcallbacks⟩ := List.exists_cons_of_ne_nil hsome
  have heq : subscribe ctx query req header s =
      sendInitialState query (generateSid ctx s.nextUuid) (s.answered ctx req ⟨[], uri, uris⟩) := by
    unfold subscribe
    rw [hcallbacks]
    rfl
  rw [heq, hcallbacks]
  exact ⟨lookup_next hw, ⟨_, lookup_subscribed query req _, rfl⟩,
    fun sid hne => lookup_subscribed_ne query req _ hne,
    ⟨_, _, rfl, log_subscribed query req _⟩⟩

theorem Refused.not_subscribed {req : SubscriptionRequest} {accepted : List Uri} {t : ServiceState}
    (h : Refused req s t) : ¬ Subscribed ctx req accepted s t := by
  rintro ⟨-, -, -, _, msg, -, hlog⟩
  obtain ⟨ans, -, hlog'⟩ := h.answer
  rw [hlog] at hlog'
  simpa using List.append_cancel_left hlog'

/-! ## Runs -/

/-- The callbacks of the subscription have passed the check. -/
def Reached (ctx : Context) (life : Life) (_ : List Effect) : Prop :=
  ∀ d, life = .alive d → ∀ uri ∈ d.callbacks.toList, ctx.canReach uri = true

/-- Nothing changes the list of callbacks of a subscription. -/
theorem notifySubscriber_callbacks (propertySet : PropertySet) (d : SubscriptionData) :
    (notifySubscriber propertySet d).1.callbacks = d.callbacks := by
  unfold notifySubscriber
  split <;> rfl

theorem notifyGotResponse_callbacks {i : Nat} {msg : NotifySubscriberData} {outcome : NotifyOutcome}
    {d d' : SubscriptionData} (h : (notifyGotResponse i msg outcome d).1 = some d') :
    d'.callbacks.toList = d.callbacks.toList := by
  obtain ⟨-, heq⟩ | ⟨-, heq⟩ | ⟨-, heq⟩ | ⟨-, next, hnext, heq⟩ | ⟨-, -, error, heq⟩ :=
    notifyGotResponse_cases i msg outcome d
  · rw [heq] at h
    cases h
    rfl
  · rw [heq] at h
    cases h
    exact d.callbacks.toList_first
  · rw [heq] at h
    cases h
  · rw [heq] at h
    cases h
    rw [notifySubscriber_callbacks]
    exact Cursor.toList_next hnext
  · rw [heq] at h
    cases h
    exact d.callbacks.toList_first

theorem mem_parseCallbacks {header : Str} {uri : Uri} (h : uri ∈ parseCallbacks ctx header) :
    ctx.canReach uri = true := by
  obtain ⟨segments, hsegments⟩ := exists_segments header
  rw [parseCallbacks_eq ctx hsegments] at h
  obtain ⟨segment, -, hvet⟩ := List.mem_filterMap.1 h
  unfold vet at hvet
  split at hvet
  · exact (Option.filter_eq_some_iff.1 hvet).2
  · cases hvet

theorem Reached.same {d d' : SubscriptionData} {log log' : List Effect}
    (h : Reached ctx (.alive d) log) (hkeep : d'.callbacks.toList = d.callbacks.toList) :
    Reached ctx (.alive d') log' := by
  intro d'' hd uri huri
  obtain rfl := Life.alive.inj hd
  exact h d rfl uri (hkeep ▸ huri)

theorem reached_invariant (ctx : Context) (sid : Str) :
    LifeInvariant ctx sid AnyStep (Reached ctx) where
  init := fun d hd => Life.noConfusion hd
  create := by
    intro req ans callbacks log src _ hgrants _ d hd uri huri
    obtain rfl := Life.alive.inj hd
    obtain ⟨header, -, hcallbacks⟩ := hgrants.callbacks
    rw [show (SubscriptionData.new callbacks sid src).callbacks = callbacks from rfl,
      ← hcallbacks] at huri
    exact mem_parseCallbacks huri
  event := fun _ h => h.same (congrArg Cursor.toList (notifySubscriber_callbacks ..))
  response := by
    intro s i msg outcome d _ _ _ h
    cases hr : (notifyGotResponse i msg outcome d).1 with
    | none => exact fun d' hd => Life.noConfusion hd
    | some d' => exact h.same (notifyGotResponse_callbacks hr)
  renew := by
    intro req d log src _ _ h
    refine h.same ?_
    rfl
  unsubscribe := by
    intro s req query d _ _ _ _ h
    split
    · exact fun d' hd => Life.noConfusion hd
    · refine h.same ?_
      rfl
  reject := fun _ _ _ h => h
  remove := fun _ d hd => Life.noConfusion hd

/-! ## The main result -/

/-- **Callbacks are vetted**: of every header `subscribe` accepts the right segments, and in every run a
subscription has only callbacks that passed the check. -/
theorem callbacks_vetted (h : Run (step (n.context ctx)) AnyStep .init es s) :
    (∀ query req header, '\x00' ∉ header → ∃ segments accepted, Segments header segments ∧
      AcceptedAs n (segments.take 6) accepted ∧
      scan (n.context ctx) 6 header 0 [] = (accepted, header) ∧
      (Subscribed (n.context ctx) req accepted s (subscribe (n.context ctx) query req header s) ↔
        accepted ≠ []) ∧
      (accepted = [] → Refused req s (subscribe (n.context ctx) query req header s))) ∧
    ∀ sid d, s.subscriptions.lookup sid = some d → ∀ uri ∈ d.callbacks.toList,
      n.clientCanReach (n.uriHost uri) = true := by
  constructor
  · intro query req header hnul
    obtain ⟨segments, hsegments⟩ := exists_segments header
    have hparse := parseCallbacks_eq (n.context ctx) hsegments
    refine ⟨segments, parseCallbacks (n.context ctx) header, hsegments,
      hparse ▸ acceptedAs_vet ctx _, scan_eq hnul, ⟨fun hsubscribed hnone => ?_, fun hsome => ?_⟩,
      fun hnone => refused_of_nil query req hnone⟩
    · exact (refused_of_nil query req hnone).not_subscribed hsubscribed
    · exact subscribed_of_ne_nil (wellFormed_run h) query req hsome
  · intro sid d hd
    exact lives_run (reached_invariant (n.context ctx) sid) h d (life_alive_iff.2 hd)

/-- A host on the network `10.0.0.0/24`. -/
def sampleNetwork : Network where
  uriParse uri := some uri
  uriHost uri := (uri.drop 7).takeWhile (· ≠ '/')
  uriCopy uri host := "http://".toList ++ host ++ (uri.drop 7).dropWhile (· ≠ '/')
  inetAddress host := if host.all fun c => c.isDigit || c == '.' then some ⟨.ipv4, false⟩ else none
  index := 2
  family := .ipv4
  clientCanReach host := "10.0.0.".toList.isPrefixOf host

/-- A header with three segments, of which the first is accepted. -/
def sampleHeader : Str := "<http://10.0.0.2/a><http://192.0.2.1/><ftp://10.0.0.2/>".toList

theorem callbacks_vetted_sample : ∃ s, Run (step (sampleNetwork.context sampleContext)) AnyStep .init
    [.request sampleSubscribe sampleQuery] s ∧
    (∃ segments accepted, Segments sampleHeader segments ∧
      AcceptedAs sampleNetwork (segments.take 6) accepted ∧
      scan (sampleNetwork.context sampleContext) 6 sampleHeader 0 [] = (accepted, sampleHeader) ∧
      accepted = ["http://10.0.0.2/a".toList]) ∧
    ∀ sid d, s.subscriptions.lookup sid = some d → ∀ uri ∈ d.callbacks.toList,
      sampleNetwork.clientCanReach (sampleNetwork.uriHost uri) = true := by
  have hrun : Run (step (sampleNetwork.context sampleContext)) AnyStep .init
      [.request sampleSubscribe sampleQuery] _ := .single trivial rfl
  obtain ⟨hheaders, hreached⟩ := callbacks_vetted hrun
  obtain ⟨segments, accepted, hsegments, haccepted, hscan, -, -⟩ :=
    hheaders sampleQuery sampleSubscribe sampleHeader (by decide)
  refine ⟨_, hrun, ⟨segments, accepted, hsegments, haccepted, hscan, ?_⟩, hreached⟩
  have heval : (scan (sampleNetwork.context sampleContext) 6 sampleHeader 0 []).1 =
      ["http://10.0.0.2/a".toList] := by decide
  rw [← heval, hscan]

end GUPnP.Service
