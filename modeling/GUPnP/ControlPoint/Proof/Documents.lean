import GUPnP.ControlPoint.Model
import GUPnP.Base.Signals

/-!
# What a document does to a control point

A walk over a description document creates proxies for one resource only, and a second one is never
created: `descriptionLoaded_cases` says that it does nothing or adds one proxy that was not there, where
it does not fail. The walk itself is gone through once, in `processDeviceList_inv`.
-/

set_option autoImplicit false

namespace GUPnP.ControlPoint

open Xml

/-! ## The walk -/

section
variable {udn location : Str} {serviceType : Option Str} {s t : ControlPointState}

/-- `create_and_report_device_proxy` or `create_and_report_service_proxy`, as the resource says. -/
def report (resource : Resource) (location : Str) (element : Node) (s : ControlPointState) :
    ControlPointState :=
  match resource with
  | (udn, some serviceType) => createAndReportServiceProxy element udn serviceType location s
  | (udn, none) => createAndReportDeviceProxy element udn location s

/-- What `report` keeps, the walk over the services keeps. -/
theorem processServices_inv {type : Str} (P : ControlPointState → Prop)
    (hP : ∀ element s, P s → P (report (udn, some type) location element s)) {elements : List Node}
    (h : elements.foldlM (processService udn location type) s = some t) (hs : P s) : P t := by
  induction elements generalizing s with
  | nil =>
    obtain rfl := Option.some.inj h
    exact hs
  | cons element elements ih =>
    rw [List.foldlM_cons] at h
    obtain ⟨u, hu, h⟩ := Option.bind_eq_some_iff.1 h
    refine ih h ?_
    unfold processService at hu
    split at hu
    · cases hu
    split at hu
    · exact Option.some.inj hu ▸ hs
    split at hu
    · exact Option.some.inj hu ▸ hs
    split at hu
    · obtain rfl := Option.some.inj hu
      exact hP element s hs
    · exact Option.some.inj hu ▸ hs

/-- What `report` keeps, the walk over the devices keeps. -/
theorem processDevice_inv (P : ControlPointState → Prop)
    (hP : ∀ element s, P s → P (report (udn, serviceType) location element s)) {element : Node}
    (h : processDevice udn serviceType location element s = some t) (hs : P s) : P t := by
  unfold processDevice at h
  split at h
  · exact Option.some.inj h ▸ hs
  split at h
  · cases serviceType with
    | none =>
      obtain rfl := Option.some.inj h
      exact hP element s hs
    | some type =>
      dsimp only at h
      split at h
      · exact processServices_inv P hP h hs
      · exact Option.some.inj h ▸ hs
  · exact Option.some.inj h ▸ hs

mutual

theorem processDeviceList_inv (P : ControlPointState → Prop)
    (hP : ∀ element s, P s → P (report (udn, serviceType) location element s)) :
    ∀ (node : Node) (s t : ControlPointState),
      processDeviceList udn serviceType location node s = some t → P s → P t
  | .document children, s, t, h, hs => by
    rw [processDeviceList] at h
    exact processDevices_inv P hP children s t h hs
  | .element _ _ children, s, t, h, hs => by
    rw [processDeviceList] at h
    exact processDevices_inv P hP children s t h hs
  | .text _, _, _, h, hs => Option.some.inj h ▸ hs
  | .cdata _, _, _, h, hs => Option.some.inj h ▸ hs
  | .comment _, _, _, h, hs => Option.some.inj h ▸ hs
  | .instruction _ _, _, _, h, hs => Option.some.inj h ▸ hs

theorem processDevices_inv (P : ControlPointState → Prop)
    (hP : ∀ element s, P s → P (report (udn, serviceType) location element s)) :
    ∀ (nodes : List Node) (s t : ControlPointState),
      processDevices udn serviceType location nodes s = some t → P s → P t
  | [], _, _, h, hs => Option.some.inj h ▸ hs
  | element :: rest, s, t, h, hs => by
    rw [processDevices] at h
    split at h
    · cases h
    split at h
    · exact processDevices_inv P hP rest s t h hs
    · obtain ⟨u, hu, h⟩ := Option.bind_eq_some_iff.1 h
      obtain ⟨v, hv, h⟩ := Option.bind_eq_some_iff.1 h
      exact processDevices_inv P hP rest v t h
        (processDevice_inv P hP hv (processEmbedded_inv P hP element s u hu hs))

theorem processEmbedded_inv (P : ControlPointState → Prop)
    (hP : ∀ element s, P s → P (report (udn, serviceType) location element s)) :
    ∀ (node : Node) (s t : ControlPointState),
      processEmbedded udn serviceType location node s = some t → P s → P t
  | .document children, s, t, h, hs => by
    rw [processEmbedded] at h
    exact processDeviceListOf_inv P hP children s t h hs
  | .element _ _ children, s, t, h, hs => by
    rw [processEmbedded] at h
    exact processDeviceListOf_inv P hP children s t h hs
  | .text _, _, _, h, hs => Option.some.inj h ▸ hs
  | .cdata _, _, _, h, hs => Option.some.inj h ▸ hs
  | .comment _, _, _, h, hs => Option.some.inj h ▸ hs
  | .instruction _ _, _, _, h, hs => Option.some.inj h ▸ hs

theorem processDeviceListOf_inv (P : ControlPointState → Prop)
    (hP : ∀ element s, P s → P (report (udn, serviceType) location element s)) :
    ∀ (nodes : List Node) (s t : ControlPointState),
      processDeviceListOf udn serviceType location nodes s = some t → P s → P t
  | [], _, _, h, hs => Option.some.inj h ▸ hs
  | child :: rest, s, t, h, hs => by
    rw [processDeviceListOf] at h
    split at h
    · exact processDeviceList_inv P hP child s t h hs
    · exact processDeviceListOf_inv P hP rest s t h hs

end

end

/-! ## One proxy at most -/

/-- The control point has a proxy for the resource. -/
def ControlPointState.HasProxy (s : ControlPointState) : Resource → Prop
  | (udn, some serviceType) => (udn, serviceType) ∈ s.services.map fun p => (p.udn, p.serviceType)
  | (udn, none) => udn ∈ s.devices.map (·.udn)

/-- The signals among the effects. -/
def Effect.signal : Effect → Option (Resource × Bool)
  | .available resource => some (resource, true)
  | .unavailable resource => some (resource, false)
  | .get _ _ => none
  | .retryAfter _ _ => none

/-- The signals the application saw. -/
def ControlPointState.signals (s : ControlPointState) : List (Resource × Bool) :=
  s.log.filterMap Effect.signal

section
variable {s t : ControlPointState} {resource : Resource} {location : Str} {element : Node}

theorem findService_isSome {udn serviceType : Str} :
    (s.findService udn serviceType).isSome = true ↔ s.HasProxy (udn, some serviceType) := by
  simp [ControlPointState.findService, ControlPointState.HasProxy, List.find?_isSome]

theorem findDevice_isSome {udn : Str} :
    (s.findDevice udn).isSome = true ↔ s.HasProxy (udn, none) := by
  simp [ControlPointState.findDevice, ControlPointState.HasProxy, List.find?_isSome]

/-- A proxy that is there is not created again. -/
theorem report_of_hasProxy (h : s.HasProxy resource) : report resource location element s = s := by
  obtain ⟨udn, _ | serviceType⟩ := resource
  · exact if_pos (findDevice_isSome.2 h)
  · exact if_pos (findService_isSome.2 h)

/-- The state with a new proxy and its signal. -/
def addProxy (resource : Resource) (location : Str) (element : Node) (s : ControlPointState) :
    ControlPointState :=
  match resource with
  | (udn, some serviceType) =>
    { s with services := ⟨element, udn, serviceType, location⟩ :: s.services,
             log := s.log ++ [.available (udn, some serviceType)] }
  | (udn, none) =>
    { s with devices := ⟨element, udn, location⟩ :: s.devices,
             log := s.log ++ [.available (udn, none)] }

theorem report_of_not_hasProxy (h : ¬ s.HasProxy resource) :
    report resource location element s = addProxy resource location element s := by
  obtain ⟨udn, _ | serviceType⟩ := resource
  · exact if_neg fun hf => h (findDevice_isSome.1 hf)
  · exact if_neg fun hf => h (findService_isSome.1 hf)

theorem hasProxy_addProxy_iff (r : Resource) :
    (addProxy resource location element s).HasProxy r ↔ s.HasProxy r ∨ r = resource := by
  obtain ⟨udn, _ | serviceType⟩ := resource <;> obtain ⟨udn', _ | serviceType'⟩ := r
  · simp [addProxy, ControlPointState.HasProxy, or_comm]
  · simp [addProxy, ControlPointState.HasProxy]
  · simp [addProxy, ControlPointState.HasProxy]
  · simp [addProxy, ControlPointState.HasProxy, or_comm]

theorem hasProxy_report_iff (r : Resource) :
    (report resource location element s).HasProxy r ↔ s.HasProxy r ∨ r = resource := by
  by_cases h : s.HasProxy resource
  · rw [report_of_hasProxy h]
    refine ⟨.inl, ?_⟩
    rintro (hr | rfl)
    · exact hr
    · exact h
  · rw [report_of_not_hasProxy h, hasProxy_addProxy_iff]

/-- A document adds one proxy for the resource, or nothing. -/
theorem descriptionLoaded_cases (resource : Resource) {doc : Node}
    (h : descriptionLoaded resource.1 resource.2 location doc s = some t) :
    t = s ∨ ∃ element, ¬ s.HasProxy resource ∧ t = addProxy resource location element s := by
  unfold descriptionLoaded at h
  split at h
  · exact .inl (Option.some.inj h).symm
  rename_i root _
  refine processDeviceList_inv (fun t => t = s ∨ ∃ element, ¬ s.HasProxy resource ∧
    t = addProxy resource location element s) ?_ root s t h (.inl rfl)
  rintro element t (rfl | ⟨element', hnot, rfl⟩)
  · by_cases h : t.HasProxy resource
    · exact .inl (report_of_hasProxy h)
    · exact .inr ⟨element, h, report_of_not_hasProxy h⟩
  · exact .inr ⟨element', hnot, report_of_hasProxy ((hasProxy_addProxy_iff resource).2 (.inr rfl))⟩

/-! ## What a new proxy leaves alone -/

@[simp] theorem addProxy_pendingGets :
    (addProxy resource location element s).pendingGets = s.pendingGets := by
  obtain ⟨udn, _ | serviceType⟩ := resource <;> rfl

@[simp] theorem addProxy_log :
    (addProxy resource location element s).log = s.log ++ [.available resource] := by
  obtain ⟨udn, _ | serviceType⟩ := resource <;> rfl

end

/-! ## A concrete device -/

/-- An element that holds text. -/
def leaf (name content : String) : Node := .element name.toList [] [.text content.toList]

/-- A root device with one service. -/
def sampleDocument : Node := .document [.element "root".toList [] [.element "device".toList []
  [leaf "deviceType" "urn:schemas-upnp-org:device:BinaryLight:1", leaf "UDN" "uuid:1",
    .element "serviceList".toList [] [.element "service".toList []
      [leaf "serviceType" "urn:schemas-upnp-org:service:SwitchPower:1"]]]]]

/-- A network on which every download gives this document. -/
def sampleContext : Context where
  rewriteUri := some
  messageNew _ := true
  xmlReadMemory _ := some sampleDocument

end GUPnP.ControlPoint
