import GUPnP.ControlPoint.Proof.Documents
import GUPnP.Base.Run

/-!
# The lists of proxies

No two proxies of the lists stand for one resource, and the lists hold what the last signal of each
resource says (`proxies_mirror`). Only two things touch the lists: a document adds one proxy that was
not there, and a resource that goes takes its proxy with it.
-/

set_option autoImplicit false

namespace GUPnP.ControlPoint

open Xml

/-- The lists have no duplicates and the signals announce what is in them. -/
structure Mirrors (s : ControlPointState) : Prop where
  devices : (s.devices.map (·.udn)).Nodup
  services : (s.services.map fun p => (p.udn, p.serviceType)).Nodup
  announces : Announces s.signals s.HasProxy

variable {ctx : Context} {s t : ControlPointState} {e : Event} {es : List Event}
  {resource : Resource} {location : Str} {element : Node}

/-! ## The proxies -/

theorem Mirrors.congr (h : Mirrors s) (hd : t.devices = s.devices) (hs : t.services = s.services)
    (hl : t.signals = s.signals) : Mirrors t where
  devices := hd ▸ h.devices
  services := hs ▸ h.services
  announces := by
    rw [hl]
    refine h.announces.congr ?_
    rintro ⟨udn, _ | serviceType⟩
    · simp only [ControlPointState.HasProxy, hd]
    · simp only [ControlPointState.HasProxy, hs]

theorem signals_addProxy :
    (addProxy resource location element s).signals = s.signals ++ [(resource, true)] := by
  rw [ControlPointState.signals, addProxy_log, List.filterMap_append]
  rfl

theorem Mirrors.addProxy (h : Mirrors s) (hnot : ¬ s.HasProxy resource) :
    Mirrors (addProxy resource location element s) where
  devices := by
    obtain ⟨udn, _ | serviceType⟩ := resource
    · exact List.nodup_cons.2 ⟨hnot, h.devices⟩
    · exact h.devices
  services := by
    obtain ⟨udn, _ | serviceType⟩ := resource
    · exact h.services
    · exact List.nodup_cons.2 ⟨hnot, h.services⟩
  announces := by
    rw [signals_addProxy]
    exact h.announces.announce hnot hasProxy_addProxy_iff

/-- The first entry with a key goes, and with it the first occurrence of the key. -/
theorem map_eraseP {α κ : Type} [DecidableEq κ] [BEq κ] [LawfulBEq κ] (f : α → κ) (l : List α)
    (k : κ) : (l.eraseP fun x => f x = k).map f = (l.map f).erase k := by
  induction l with
  | nil => rfl
  | cons x l ih =>
    by_cases hx : f x = k
    · rw [List.eraseP_cons_of_pos (by simpa using hx), List.map_cons, hx, List.erase_cons_head]
    · rw [List.eraseP_cons_of_neg (by simpa using hx), List.map_cons, List.map_cons, ih,
        List.erase_cons_tail (by simpa using hx)]

/-- A resource that goes takes its proxy with it. -/
theorem Mirrors.removeProxy (h : Mirrors s) (resource : Resource) :
    Mirrors (removeProxy resource s) := by
  obtain ⟨udn, _ | serviceType⟩ := resource
  · simp only [ControlPoint.removeProxy]
    split
    · rename_i hf
      have hdev : (s.devices.eraseP fun p => p.udn = udn).map (·.udn) =
          (s.devices.map (·.udn)).erase udn := map_eraseP (·.udn) s.devices udn
      refine ⟨?_, h.services, ?_⟩
      · show ((s.devices.eraseP fun p => p.udn = udn).map (·.udn)).Nodup
        rw [hdev]
        exact h.devices.erase udn
      · show Announces ((s.log ++ [_]).filterMap Effect.signal) _
        rw [List.filterMap_append]
        refine h.announces.withdraw (findDevice_isSome.1 hf) ?_
        rintro ⟨udn', _ | serviceType'⟩
        · simp only [ControlPointState.HasProxy, hdev, h.devices.mem_erase_iff]
          simp [and_comm]
        · simp [ControlPointState.HasProxy]
    · exact h
  · simp only [ControlPoint.removeProxy]
    split
    · rename_i hf
      have hserv : (s.services.eraseP fun p => p.udn = udn ∧ p.serviceType = serviceType).map
          (fun p => (p.udn, p.serviceType)) =
          (s.services.map fun p => (p.udn, p.serviceType)).erase (udn, serviceType) := by
        rw [← map_eraseP (fun p : ServiceProxy => (p.udn, p.serviceType))]
        simp only [Prod.mk.injEq]
      refine ⟨h.devices, ?_, ?_⟩
      · show ((s.services.eraseP fun p => p.udn = udn ∧ p.serviceType = serviceType).map
          fun p => (p.udn, p.serviceType)).Nodup
        rw [hserv]
        exact h.services.erase _
      · show Announces ((s.log ++ [_]).filterMap Effect.signal) _
        rw [List.filterMap_append]
        refine h.announces.withdraw (findService_isSome.1 hf) ?_
        rintro ⟨udn', _ | serviceType'⟩
        · simp [ControlPointState.HasProxy]
        · simp only [ControlPointState.HasProxy, hserv, h.services.mem_erase_iff]
          simp [and_comm]
    · exact h

/-! ## The handlers -/

theorem Mirrors.descriptionLoaded (h : Mirrors s) {udn : Str} {serviceType : Option Str} {doc : Node}
    (he : descriptionLoaded udn serviceType location doc s = some t) : Mirrors t := by
  rcases descriptionLoaded_cases (udn, serviceType) he with rfl | ⟨element, hnot, rfl⟩
  · exact h
  · exact h.addProxy hnot

theorem Mirrors.free (h : Mirrors s) (id : Nat) : Mirrors (getDescriptionUrlDataFree id s) :=
  h.congr rfl rfl rfl

theorem Mirrors.loadDescription (h : Mirrors s) {url udn : Str} {serviceType : Option Str}
    {maxTries : Int} {timeout : Nat}
    (he : loadDescription ctx url udn serviceType maxTries timeout s = some t) : Mirrors t := by
  unfold ControlPoint.loadDescription at he
  split at he
  · exact h.descriptionLoaded he
  split at he
  · exact Option.some.inj he ▸ h
  split at he
  · obtain rfl := Option.some.inj he
    exact h.congr rfl rfl (by simp [ControlPointState.signals, Effect.signal])
  · exact Option.some.inj he ▸ h

theorem Mirrors.newDescription (h : Mirrors s) {data : GetDescriptionUrlData} {doc : Node}
    (he : newDescription data doc s = some t) : Mirrors t := by
  obtain ⟨u, hu, rfl⟩ := Option.map_eq_some_iff.1 he
  have hloaded := h.descriptionLoaded hu
  split
  · exact hloaded
  · exact hloaded.congr rfl rfl rfl

theorem Mirrors.retryLater (h : Mirrors s) (data : GetDescriptionUrlData) :
    Mirrors (retryLater data s) := by
  unfold ControlPoint.retryLater
  dsimp only
  split
  · exact h.congr rfl rfl (by simp [ControlPointState.signals, Effect.signal])
  · exact h.free data.id

theorem Mirrors.gotDocument (h : Mirrors s) (ctx : Context) (data : GetDescriptionUrlData)
    (response : Option (Nat × Str)) (he : gotDocument ctx data response s = some t) : Mirrors t := by
  unfold ControlPoint.gotDocument at he
  split at he
  · obtain ⟨u, hu, rfl⟩ := Option.map_eq_some_iff.1 he
    exact (h.descriptionLoaded hu).free data.id
  split at he
  · exact Option.some.inj he ▸ h.retryLater data
  split at he
  · split at he
    · obtain ⟨u, hu, rfl⟩ := Option.map_eq_some_iff.1 he
      exact (h.newDescription hu).free data.id
    · exact Option.some.inj he ▸ h.free data.id
  · exact Option.some.inj he ▸ h.retryLater data

theorem Mirrors.gotDescriptionUrl (h : Mirrors s) {data : GetDescriptionUrlData} {outcome : Outcome}
    (he : gotDescriptionUrl ctx data outcome s = some t) : Mirrors t := by
  cases outcome with
  | cancelled => exact Option.some.inj he ▸ h.free data.id
  | failed => exact Option.some.inj he ▸ h.free data.id
  | timedOut => exact h.gotDocument ctx data none he
  | response status body => exact h.gotDocument ctx data (some (status, body)) he

theorem Mirrors.resourceAvailable (h : Mirrors s) {usn : Str} {locations : List Str}
    (he : resourceAvailable ctx usn locations s = some t) : Mirrors t := by
  unfold ControlPoint.resourceAvailable at he
  split at he
  · exact Option.some.inj he ▸ h
  split at he
  · exact Option.some.inj he ▸ h
  · exact h.loadDescription he

theorem Mirrors.resourceUnavailable (h : Mirrors s) (usn : Str) :
    Mirrors (resourceUnavailable usn s) := by
  unfold ControlPoint.resourceUnavailable
  split
  · exact h
  · rename_i resource _
    unfold cancelGet
    split
    · exact h.removeProxy resource
    · exact (h.removeProxy resource).congr rfl rfl rfl

/-! ## Steps and runs -/

theorem Mirrors.step (h : Mirrors s) (he : step ctx s e = some t) : Mirrors t := by
  unfold ControlPoint.step at he
  cases e with
  | resourceAvailable usn locations => exact h.resourceAvailable he
  | resourceUnavailable usn =>
    obtain rfl := Option.some.inj he
    exact h.resourceUnavailable usn
  | gotDescriptionUrl id outcome =>
    dsimp only at he
    split at he
    · cases he
    split at he
    · exact h.gotDescriptionUrl he
    · cases he
  | retryTimeout id =>
    dsimp only at he
    split at he
    · cases he
    split at he
    · obtain ⟨u, hu, rfl⟩ := Option.map_eq_some_iff.1 he
      exact (h.loadDescription hu).free _
    · cases he
  | docFinalized url =>
    dsimp only at he
    split at he
    · obtain rfl := Option.some.inj he
      exact h.congr rfl rfl rfl
    · cases he

theorem mirrors_init : Mirrors .init where
  devices := .nil
  services := .nil
  announces := announces_nil.congr fun r => by
    obtain ⟨udn, _ | serviceType⟩ := r <;> simp [ControlPointState.init, ControlPointState.HasProxy]

/-- In every reachable state no two proxies of the list have the same UDN, or the same UDN and service
type; the signals of every resource alternate, an available first, and the resource has a proxy
exactly if the last one was available. -/
theorem proxies_mirror (h : Run (step ctx) AnyStep .init es s) :
    (s.devices.map (·.udn)).Nodup ∧ (s.services.map fun p => (p.udn, p.serviceType)).Nodup ∧
      ∀ resource, Alternates (signalsOf resource s.signals) ∧
        (s.HasProxy resource ↔ (signalsOf resource s.signals).getLast? = some true) := by
  have hm : Mirrors s := h.inv Mirrors (fun _ _ _ hs _ he => hs.step he) mirrors_init
  exact ⟨hm.devices, hm.services, fun resource =>
    ⟨hm.announces.alternates resource, (hm.announces.last resource).symm⟩⟩

/-- The device is announced twice, found once, and gone. -/
theorem proxies_mirror_sample : ∃ s, Run (step sampleContext) AnyStep .init
      [.resourceAvailable "uuid:1".toList ["http://10.0.0.2/1.xml".toList],
        .gotDescriptionUrl 0 (.response 200 []),
        .resourceAvailable "uuid:1::upnp:rootdevice".toList ["http://10.0.0.2/1.xml".toList],
        .resourceUnavailable "uuid:1".toList] s ∧
    s.signals = [(("uuid:1".toList, none), true), (("uuid:1".toList, none), false)] ∧
    ¬ s.HasProxy ("uuid:1".toList, none) := by
  obtain ⟨s, h, hs⟩ : ∃ s, Run (step sampleContext) AnyStep .init
      [.resourceAvailable "uuid:1".toList ["http://10.0.0.2/1.xml".toList],
        .gotDescriptionUrl 0 (.response 200 []),
        .resourceAvailable "uuid:1::upnp:rootdevice".toList ["http://10.0.0.2/1.xml".toList],
        .resourceUnavailable "uuid:1".toList] s ∧
      s.signals = [(("uuid:1".toList, none), true), (("uuid:1".toList, none), false)] :=
    Run.exists_of_foldlM (by decide)
  refine ⟨s, h, hs, fun hp => ?_⟩
  have hlast := ((proxies_mirror h).2.2 ("uuid:1".toList, none)).2.1 hp
  rw [hs] at hlast
  exact absurd hlast (by decide)

end GUPnP.ControlPoint
