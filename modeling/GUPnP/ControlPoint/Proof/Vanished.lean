import GUPnP.ControlPoint.Proof.Documents
import GUPnP.Base.Run

/-!
# A resource that is gone

When a resource goes, the control point cancels one download for it, the first it finds. The resource
stays away as long as this one is all there is to stop (`Stops`): then every entry left for it is a
request that was cancelled (`Dead`), such an entry only ever goes away, and no proxy is created until
the resource is announced again (`vanished_stays`). A second download, or a timer that waits for the
next try, brings the proxy back (`vanished_returns`).
-/

set_option autoImplicit false

namespace GUPnP.ControlPoint

open Xml

/-! ## Resources come and go -/

/-- The announcement of a resource, or its withdrawal. Without a location nothing is announced. -/
def resourceEvent : Event → Option (Resource × Bool)
  | .resourceAvailable _ [] => none
  | .resourceAvailable usn (_ :: _) => (parseUsn usn).map fun resource => (resource, true)
  | .resourceUnavailable usn => (parseUsn usn).map fun resource => (resource, false)
  | _ => none

/-- The last that was heard of the resource is that it went. -/
def Vanished (es : List Event) (resource : Resource) : Prop :=
  (signalsOf resource (es.filterMap resourceEvent)).getLast? = some false

theorem not_vanished_nil (resource : Resource) : ¬ Vanished [] resource := nofun

theorem vanished_snoc {es : List Event} {e : Event} {resource : Resource}
    (h : resourceEvent e ≠ some (resource, true)) (hv : Vanished (es ++ [e]) resource) :
    resourceEvent e = some (resource, false) ∨ Vanished es resource := by
  unfold Vanished at hv ⊢
  rw [List.filterMap_append, signalsOf_append] at hv
  cases he : resourceEvent e with
  | none =>
    right
    simpa [he, signalsOf] using hv
  | some p =>
    obtain ⟨resource', b⟩ := p
    by_cases hr : resource' = resource
    · subst hr
      cases b with
      | true => exact absurd he h
      | false => exact .inl rfl
    · right
      have hnone : signalsOf resource (List.filterMap resourceEvent [e]) = [] := by
        simp only [List.filterMap_cons, he, List.filterMap_nil]
        exact signalsOf_ne hr b
      rwa [hnone, List.append_nil] at hv

/-- Every entry for the resource is a running request, and all of them but the first that is found
were cancelled before. -/
def OneToStop (s : ControlPointState) (resource : Resource) : Prop :=
  let gets := s.pendingGets.filter fun data => data.resource = resource
  (∀ data ∈ gets, data.phase = .running) ∧ ∀ data ∈ gets.tail, data.cancelled = true

instance (s : ControlPointState) (resource : Resource) : Decidable (OneToStop s resource) :=
  inferInstanceAs (Decidable (_ ∧ _))

/-- When a resource goes, the control point can stop all that could bring it back. -/
def Stops (s : ControlPointState) : Event → Prop
  | .resourceUnavailable usn => ∀ resource ∈ parseUsn usn, OneToStop s resource
  | _ => True

instance (s : ControlPointState) (e : Event) : Decidable (Stops s e) :=
  match e with
  | .resourceUnavailable usn =>
    inferInstanceAs (Decidable (∀ resource ∈ parseUsn usn, OneToStop s resource))
  | .resourceAvailable _ _ => .isTrue trivial
  | .gotDescriptionUrl _ _ => .isTrue trivial
  | .retryTimeout _ => .isTrue trivial
  | .docFinalized _ => .isTrue trivial

/-! ## Dead entries -/

/-- All entries for the resource are requests that were cancelled. -/
def Dead (resource : Resource) (s : ControlPointState) : Prop :=
  ∀ data ∈ s.pendingGets, data.resource = resource → data.phase = .running ∧ data.cancelled = true

/-- From `s` to `t` no proxy was created for the resource. -/
def Quiet (resource : Resource) (s t : ControlPointState) : Prop :=
  ∃ effects, t.log = s.log ++ effects ∧ .available resource ∉ effects

/-- The resource stays away from `s` to `t`. -/
structure Stays (resource : Resource) (s t : ControlPointState) : Prop where
  quiet : Quiet resource s t
  dead : Dead resource s → Dead resource t

section
variable {ctx : Context} {s t u : ControlPointState} {e : Event} {es : List Event}
  {resource other : Resource} {data : GetDescriptionUrlData}

theorem Stays.refl (resource : Resource) (s : ControlPointState) : Stays resource s s :=
  ⟨⟨[], by simp, by simp⟩, id⟩

theorem Stays.trans (h : Stays resource s t) (h' : Stays resource t u) : Stays resource s u := by
  obtain ⟨l, hl, hn⟩ := h.quiet
  obtain ⟨l', hl', hn'⟩ := h'.quiet
  refine ⟨⟨l ++ l', by rw [hl', hl, List.append_assoc], ?_⟩, fun hd => h'.dead (h.dead hd)⟩
  rw [List.mem_append, not_or]
  exact ⟨hn, hn'⟩

/-- An entry that goes away. -/
theorem stays_free (resource : Resource) (id : Nat) (s : ControlPointState) :
    Stays resource s (getDescriptionUrlDataFree id s) :=
  ⟨⟨[], by simp [getDescriptionUrlDataFree], by simp⟩, fun hd d hm =>
    hd d (List.mem_filter.1 hm).1⟩

/-- A document creates no proxy for another resource. -/
theorem stays_descriptionLoaded (hne : other ≠ resource) {location : Str} {doc : Node}
    (h : descriptionLoaded other.1 other.2 location doc s = some t) : Stays resource s t := by
  rcases descriptionLoaded_cases other h with rfl | ⟨element, -, rfl⟩
  · exact .refl resource t
  · refine ⟨⟨[.available other], addProxy_log, by simpa using Ne.symm hne⟩, fun hd d hm => ?_⟩
    rw [addProxy_pendingGets] at hm
    exact hd d hm

theorem stays_loadDescription (hne : other ≠ resource) {url : Str} {maxTries : Int} {timeout : Nat}
    (h : loadDescription ctx url other.1 other.2 maxTries timeout s = some t) :
    Stays resource s t := by
  unfold loadDescription at h
  split at h
  · exact stays_descriptionLoaded hne h
  split at h
  · exact Option.some.inj h ▸ .refl resource s
  split at h
  · obtain rfl := Option.some.inj h
    refine ⟨⟨_, rfl, by simp⟩, fun hd d hm => ?_⟩
    rcases List.mem_cons.1 hm with rfl | hm
    · exact fun hr => absurd hr hne
    · exact hd d hm
  · exact Option.some.inj h ▸ .refl resource s

theorem stays_newDescription (hne : data.resource ≠ resource) {doc : Node}
    (h : newDescription data doc s = some t) : Stays resource s t := by
  obtain ⟨u, hu, rfl⟩ := Option.map_eq_some_iff.1 h
  have hloaded := stays_descriptionLoaded hne hu
  split
  · exact hloaded
  · exact ⟨hloaded.quiet, hloaded.dead⟩

theorem stays_retryLater (hne : data.resource ≠ resource) (s : ControlPointState) :
    Stays resource s (retryLater data s) := by
  unfold retryLater
  dsimp only
  split
  · refine ⟨⟨_, rfl, by simp⟩, fun hd d hm => ?_⟩
    obtain ⟨d', hm', rfl⟩ := List.mem_map.1 hm
    split
    · exact fun hr => absurd hr hne
    · exact hd d' hm'
  · exact stays_free resource _ s

theorem stays_gotDescriptionUrl (hne : data.resource ≠ resource) {outcome : Outcome}
    (h : gotDescriptionUrl ctx data outcome s = some t) : Stays resource s t := by
  have hdoc : ∀ response, gotDocument ctx data response s = some t → Stays resource s t := by
    intro response hgot
    unfold gotDocument at hgot
    split at hgot
    · obtain ⟨u, hu, rfl⟩ := Option.map_eq_some_iff.1 hgot
      exact (stays_descriptionLoaded hne hu).trans (stays_free resource _ _)
    split at hgot
    · exact Option.some.inj hgot ▸ stays_retryLater hne s
    split at hgot
    · split at hgot
      · obtain ⟨u, hu, rfl⟩ := Option.map_eq_some_iff.1 hgot
        exact (stays_newDescription hne hu).trans (stays_free resource _ _)
      · exact Option.some.inj hgot ▸ stays_free resource _ s
    · exact Option.some.inj hgot ▸ stays_retryLater hne s
  cases outcome with
  | cancelled => exact Option.some.inj h ▸ stays_free resource _ s
  | failed => exact Option.some.inj h ▸ stays_free resource _ s
  | timedOut => exact hdoc none h
  | response status body => exact hdoc (some (status, body)) h

theorem stays_removeProxy (resource other : Resource) (s : ControlPointState) :
    Stays resource s (removeProxy other s) := by
  obtain ⟨udn, _ | serviceType⟩ := other
  · simp only [removeProxy]
    split
    · exact ⟨⟨_, rfl, by simp⟩, id⟩
    · exact .refl resource s
  · simp only [removeProxy]
    split
    · exact ⟨⟨_, rfl, by simp⟩, id⟩
    · exact .refl resource s

theorem stays_cancelGet (resource other : Resource) (s : ControlPointState) :
    Stays resource s (cancelGet other s) := by
  unfold cancelGet
  split
  · exact .refl resource s
  · refine ⟨⟨[], by simp, by simp⟩, fun hd d hm => ?_⟩
    obtain ⟨d', hm', rfl⟩ := List.mem_map.1 hm
    split
    · exact fun hr => ⟨(hd d' hm' hr).1, rfl⟩
    · exact hd d' hm'

theorem removeProxy_pendingGets (s : ControlPointState) :
    (removeProxy other s).pendingGets = s.pendingGets := by
  obtain ⟨udn, _ | serviceType⟩ := other <;> simp only [removeProxy] <;> split <;> rfl

/-- Where there is nothing else to stop, the cancellation leaves only dead entries. -/
theorem dead_resourceUnavailable {usn : Str} (hu : parseUsn usn = some resource)
    (hok : Stops s (.resourceUnavailable usn)) : Dead resource (resourceUnavailable usn s) := by
  obtain ⟨hrunning, hcancelled⟩ := hok resource hu
  simp only [resourceUnavailable, hu, cancelGet, ControlPointState.findGet, removeProxy_pendingGets,
    ← List.head?_filter]
  intro d hm hr
  cases hgets : s.pendingGets.filter (fun d => decide (d.resource = resource)) with
  | nil =>
    rw [hgets] at hm
    have hm : d ∈ s.pendingGets := by simpa [removeProxy_pendingGets] using hm
    have hin : d ∈ s.pendingGets.filter fun d => decide (d.resource = resource) :=
      List.mem_filter.2 ⟨hm, decide_eq_true hr⟩
    rw [hgets] at hin
    cases hin
  | cons first rest =>
    rw [hgets] at hm hrunning hcancelled
    obtain ⟨d', hm', rfl⟩ := List.mem_map.1 (show d ∈ s.pendingGets.map fun d =>
      if d.id = first.id then { d with cancelled := true } else d from hm)
    have hr' : d'.resource = resource := by
      split at hr <;> exact hr
    have hin : d' ∈ first :: rest := by
      rw [← hgets]
      exact List.mem_filter.2 ⟨hm', decide_eq_true hr'⟩
    have hphase := hrunning d' hin
    split
    · exact ⟨hphase, rfl⟩
    · rename_i hid
      rcases List.mem_cons.1 hin with rfl | hin
      · exact absurd rfl hid
      · exact ⟨hphase, hcancelled d' hin⟩

/-! ## Steps and runs -/

/-- What a step does to a resource whose entries are dead and that is not announced. -/
theorem stays_step (hd : Dead resource s) (hne : resourceEvent e ≠ some (resource, true))
    (he : step ctx s e = some t) : Stays resource s t := by
  unfold step at he
  cases e with
  | resourceAvailable usn locations =>
    dsimp only at he
    unfold resourceAvailable at he
    split at he
    · exact Option.some.inj he ▸ .refl resource s
    split at he
    · exact Option.some.inj he ▸ .refl resource s
    · rename_i udn serviceType hu
      have hr : (udn, serviceType) ≠ resource := fun hr => hne (by simp [resourceEvent, hu, hr])
      exact stays_loadDescription hr he
  | resourceUnavailable usn =>
    obtain rfl := Option.some.inj he
    unfold resourceUnavailable
    split
    · exact .refl resource s
    · exact (stays_removeProxy resource _ s).trans (stays_cancelGet resource _ _)
  | gotDescriptionUrl id outcome =>
    dsimp only at he
    split at he
    · cases he
    rename_i data hfind
    split at he
    · rename_i hphase
      by_cases hr : data.resource = resource
      · -- the request was cancelled, so this is all the session says
        have hcancelled := (hd data (List.mem_of_find?_eq_some hfind) hr).2
        rw [hphase.2 hcancelled] at he
        exact Option.some.inj he ▸ stays_free resource _ s
      · exact stays_gotDescriptionUrl hr he
    · cases he
  | retryTimeout id =>
    dsimp only at he
    split at he
    · cases he
    rename_i data hfind
    split at he
    · rename_i hphase
      obtain ⟨u, hu, rfl⟩ := Option.map_eq_some_iff.1 he
      have hr : data.resource ≠ resource := by
        intro hr
        have hrunning := (hd data (List.mem_of_find?_eq_some hfind) hr).1
        rw [hphase] at hrunning
        cases hrunning
      exact (stays_loadDescription hr hu).trans (stays_free resource _ _)
    · cases he
  | docFinalized url =>
    dsimp only at he
    split at he
    · obtain rfl := Option.some.inj he
      exact ⟨⟨[], by simp, by simp⟩, id⟩
    · cases he

/-- While a resource is gone, the entries for it are dead. -/
theorem dead_run (h : Run (step ctx) Stops .init es s) (hv : Vanished es resource) :
    Dead resource s := by
  induction h with
  | nil => exact absurd hv (not_vanished_nil resource)
  | @snoc es s t e hrun hok he ih =>
    by_cases hav : resourceEvent e = some (resource, true)
    · -- a resource that was just announced is not gone
      exfalso
      unfold Vanished at hv
      rw [List.filterMap_append, signalsOf_append] at hv
      simp [hav, signalsOf] at hv
    rcases vanished_snoc hav hv with hev | hv
    · cases e with
      | resourceUnavailable usn =>
        obtain rfl := Option.some.inj he
        refine dead_resourceUnavailable ?_ hok
        simpa [resourceEvent] using hev
      | resourceAvailable usn locations => cases locations <;> simp [resourceEvent] at hev
      | gotDescriptionUrl id outcome => cases hev
      | retryTimeout id => cases hev
      | docFinalized url => cases hev
    · exact (stays_step (ih hv) hav he).dead (ih hv)

/-- A resource went, and whenever one did, there was no more than one download to stop: then nothing
that happens creates a proxy for it until it is announced again. -/
theorem vanished_stays (h : Run (step ctx) Stops .init es s) (hv : Vanished es resource)
    (hne : resourceEvent e ≠ some (resource, true)) (he : step ctx s e = some t) :
    ∃ effects, t.log = s.log ++ effects ∧ .available resource ∉ effects :=
  (stays_step (dead_run h hv) hne he).quiet

end

/-- The device goes while its one download runs; the request completes as cancelled. -/
theorem vanished_stays_sample : ∃ s t effects, Run (step sampleContext) Stops .init
      [.resourceAvailable "uuid:1".toList ["http://10.0.0.2/1.xml".toList],
        .resourceUnavailable "uuid:1".toList] s ∧
    step sampleContext s (.gotDescriptionUrl 0 .cancelled) = some t ∧
    t.log = s.log ++ effects ∧ .available ("uuid:1".toList, none) ∉ effects := by
  have hrun : Run (step sampleContext) Stops .init
      [.resourceAvailable "uuid:1".toList ["http://10.0.0.2/1.xml".toList],
        .resourceUnavailable "uuid:1".toList] _ :=
    .cons trivial rfl (.single (by decide) rfl)
  have hv : Vanished [.resourceAvailable "uuid:1".toList ["http://10.0.0.2/1.xml".toList],
      .resourceUnavailable "uuid:1".toList] ("uuid:1".toList, none) := by
    unfold Vanished
    decide
  obtain ⟨effects, hlog, hnot⟩ := vanished_stays hrun hv
    (show resourceEvent (.gotDescriptionUrl 0 .cancelled) ≠ _ from nofun) rfl
  exact ⟨_, _, effects, hrun, rfl, hlog, hnot⟩

/-- The device is announced with two of its USNs, so two downloads run; when it goes, one of them is
cancelled, and the other creates its proxy. -/
theorem vanished_returns : ¬ ∀ (ctx : Context) (es : List Event) (s t : ControlPointState) (e : Event)
    (resource : Resource), Run (step ctx) AnyStep .init es s → Vanished es resource →
      resourceEvent e ≠ some (resource, true) → step ctx s e = some t →
      ∃ effects, t.log = s.log ++ effects ∧ .available resource ∉ effects := by
  intro h
  have hrun : Run (step sampleContext) AnyStep .init
      [.resourceAvailable "uuid:1".toList ["http://10.0.0.2/1.xml".toList],
        .resourceAvailable "uuid:1::upnp:rootdevice".toList ["http://10.0.0.2/1.xml".toList],
        .resourceUnavailable "uuid:1".toList] _ :=
    .cons trivial rfl (.cons trivial rfl (.single trivial rfl))
  have hv : Vanished [.resourceAvailable "uuid:1".toList ["http://10.0.0.2/1.xml".toList],
      .resourceAvailable "uuid:1::upnp:rootdevice".toList ["http://10.0.0.2/1.xml".toList],
      .resourceUnavailable "uuid:1".toList] ("uuid:1".toList, none) := by
    unfold Vanished
    decide
  obtain ⟨effects, hlog, hnot⟩ := h sampleContext _ _ _ (.gotDescriptionUrl 0 (.response 200 [])) _
    hrun hv nofun rfl
  have heffects : [.available ("uuid:1".toList, none)] = effects := List.append_cancel_left hlog
  rw [← heffects] at hnot
  exact hnot List.mem_cons_self

end GUPnP.ControlPoint
