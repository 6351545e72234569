import GUPnP.ControlPoint.Proof.Documents
import GUPnP.Discovery.Usn
import GUPnP.RootDevice.Model

/-!
# A control point finds what a root device announces

The root device walks its description document from the top and the control point walks the same
document from the bottom, each into the first `deviceList` of a device. Where no CDATA block is in their
way (`Walkable`) both come by every device in the tree (`InTree`), so a USN that is read as it was meant
leads to a proxy (`announced_resolves`).
-/

set_option autoImplicit false

namespace GUPnP.Discovery

open ControlPoint RootDevice Xml

/-! ## Device trees -/

/-- `device` is the element, or it is embedded in it at some depth. -/
inductive InTree (device : Node) : Node → Prop
  | self : InTree device device
  | embedded {element list child : Node} :
      getElement element ["deviceList".toList] = some list → child ∈ list.children →
      child.name = some "device".toList → InTree device child → InTree device element

/-- The device is in the tree of one of these nodes. -/
def InTrees (device : Node) (nodes : List Node) : Prop :=
  ∃ child ∈ nodes, child.name = some "device".toList ∧ InTree device child

/-- No CDATA block is among the devices and services of the device. -/
def Named (device : Node) : Prop :=
  ∀ listName ∈ ["deviceList".toList, "serviceList".toList], ∀ list,
    getElement device [listName] = some list → ∀ child ∈ list.children, child.name.isSome

/-- No CDATA block is among these nodes, nor in a list of a device in their trees. -/
structure Walkable (nodes : List Node) : Prop where
  named : ∀ child ∈ nodes, child.name.isSome
  devices : ∀ device, InTrees device nodes → Named device

/-- The device has a service of this type. -/
def Offers (device : Node) (serviceType : Str) : Prop :=
  ∃ list, getElement device ["serviceList".toList] = some list ∧
    ∃ child ∈ list.children, child.name = some "service".toList ∧
      getChildElementContent child "serviceType".toList = some serviceType

/-- The description of a device: its UDN, its type and the types of its services. -/
structure Described (device : Node) : Prop where
  udn : ∃ udn, getChildElementContent device "UDN".toList = some udn ∧ Udn udn
  deviceType : ∃ s domain type v, getChildElementContent device "deviceType".toList = some s ∧
    TypeOf "device".toList domain type v s
  serviceType : ∀ s, Offers device s → ∃ domain type v, TypeOf "service".toList domain type v s

/-- The UDN ends in no colon, and the types have no empty fields, so no `::`. -/
structure Separate (device : Node) : Prop where
  udn : ∀ udn, getChildElementContent device "UDN".toList = some udn → udn.getLast? ≠ some ':'
  deviceType : ∀ s, getChildElementContent device "deviceType".toList = some s →
    ¬ "::".toList <:+: s
  serviceType : ∀ s, Offers device s → ¬ "::".toList <:+: s

/-- What the USNs of a device stand for: its service in the USN of a service, else the device. -/
inductive StandsFor (device : Node) : Str → Resource → Prop
  | udn {udn : Str} : getChildElementContent device "UDN".toList = some udn →
      StandsFor device udn (udn, none)
  | rootdevice {udn : Str} : getChildElementContent device "UDN".toList = some udn →
      StandsFor device (udn ++ "::upnp:rootdevice".toList) (udn, none)
  | deviceType {udn s : Str} : getChildElementContent device "UDN".toList = some udn →
      getChildElementContent device "deviceType".toList = some s →
      StandsFor device (udn ++ "::".toList ++ s) (udn, none)
  | service {udn s : Str} : getChildElementContent device "UDN".toList = some udn →
      Offers device s → StandsFor device (udn ++ "::".toList ++ s) (udn, some s)

variable {device element : Node} {nodes : List Node} {resource : Resource} {location udn : Str}
  {serviceType : Option Str} {s t : ControlPointState}

theorem InTrees.cons (h : InTrees device nodes) (node : Node) : InTrees device (node :: nodes) := by
  obtain ⟨child, hchild, h⟩ := h
  exact ⟨child, List.mem_cons_of_mem node hchild, h⟩

theorem Walkable.tail {node : Node} (h : Walkable (node :: nodes)) : Walkable nodes where
  named child hchild := h.named child (List.mem_cons_of_mem node hchild)
  devices device hd := h.devices device (hd.cons node)

theorem Walkable.named_of_mem (h : Walkable nodes) (hmem : element ∈ nodes)
    (hname : element.name = some "device".toList) : Named element :=
  h.devices element ⟨element, hmem, hname, .self⟩

/-- What is below a device can be walked over. -/
theorem Walkable.embedded (h : Walkable nodes) (hmem : element ∈ nodes)
    (hname : element.name = some "device".toList) {list : Node}
    (hlist : getElement element ["deviceList".toList] = some list) : Walkable list.children where
  named := h.named_of_mem hmem hname _ List.mem_cons_self list hlist
  devices device hd := by
    obtain ⟨child, hchild, hcname, hin⟩ := hd
    exact h.devices device ⟨element, hmem, hname, .embedded hlist hchild hcname hin⟩

/-! ## What is registered -/

theorem standsFor_serviceResources {services : List Registration}
    (hudn : getChildElementContent device "UDN".toList = some udn)
    (h : serviceResources udn device = some services) {r : Registration} (hr : r ∈ services) :
    ∃ resource, StandsFor device r.usn resource := by
  unfold serviceResources at h
  split at h
  · obtain rfl := Option.some.inj h
    cases hr
  rename_i list hlist
  obtain ⟨children, hchildren, rfl⟩ := Option.map_eq_some_iff.1 h
  obtain ⟨child, hchild, hr⟩ := List.mem_filterMap.1 hr
  obtain ⟨hmem, hname⟩ := (childrenNamed_spec hchildren child).1 hchild
  obtain ⟨st, hst, rfl⟩ := Option.map_eq_some_iff.1 hr
  exact ⟨_, .service hudn ⟨list, hlist, child, hmem, hname, hst⟩⟩

/-- The USN of a registration stands for a device in one of these trees, or for one of its
services. -/
def StandsIn (nodes : List Node) (r : Registration) : Prop :=
  ∃ child ∈ nodes, child.name = some "device".toList ∧
    ∃ device resource, InTree device child ∧ StandsFor device r.usn resource

theorem StandsIn.cons {r : Registration} (h : StandsIn nodes r) (node : Node) :
    StandsIn (node :: nodes) r := by
  obtain ⟨child, hchild, h⟩ := h
  exact ⟨child, List.mem_cons_of_mem node hchild, h⟩

mutual

/-- `fill_resource_group` registers devices of the tree and their services. -/
theorem standsFor_fillResourceGroup : ∀ (element : Node) (resources : List Registration),
    fillResourceGroup element = some resources → ∀ r ∈ resources,
      ∃ device resource, InTree device element ∧ StandsFor device r.usn resource
  | .element name attributes children, resources, h, r, hr => by
    rw [fillResourceGroup] at h
    split at h
    · obtain rfl := Option.some.inj h
      cases hr
    rename_i udn type hown
    simp only [udnAndType, Option.bind_eq_some_iff, Option.map_eq_some_iff, Prod.mk.injEq] at hown
    obtain ⟨_, hudn, _, htype, rfl, rfl⟩ := hown
    obtain ⟨services, hservices, h⟩ := Option.bind_eq_some_iff.1 h
    obtain ⟨embedded, hembedded, h⟩ := Option.bind_eq_some_iff.1 h
    obtain rfl := Option.some.inj h
    rcases List.mem_append.1 hr with hr | hr
    · rcases List.mem_append.1 hr with hr | hr
      · rcases List.mem_cons.1 hr with rfl | hr
        · exact ⟨_, _, .self, .udn hudn⟩
        · obtain rfl := List.mem_singleton.1 hr
          exact ⟨_, _, .self, .deviceType hudn htype⟩
      · obtain ⟨resource, h⟩ := standsFor_serviceResources hudn hservices hr
        exact ⟨_, resource, .self, h⟩
    · obtain ⟨list, hlist, child, hchild, hname, device, resource, hin, h⟩ :=
        standsFor_fillDeviceList children embedded hembedded r hr
      refine ⟨device, resource, .embedded ?_ hchild hname hin, h⟩
      rw [getElement_singleton]
      exact hlist
  | .document _, _, h, r, hr => by obtain rfl := Option.some.inj h; cases hr
  | .text _, _, h, r, hr => by obtain rfl := Option.some.inj h; cases hr
  | .cdata _, _, h, r, hr => by obtain rfl := Option.some.inj h; cases hr
  | .comment _, _, h, r, hr => by obtain rfl := Option.some.inj h; cases hr
  | .instruction _ _, _, h, r, hr => by obtain rfl := Option.some.inj h; cases hr

theorem standsFor_fillDeviceList : ∀ (nodes : List Node) (resources : List Registration),
    fillDeviceList nodes = some resources → ∀ r ∈ resources,
      ∃ list, firstNamed "deviceList".toList nodes = some list ∧ StandsIn list.children r
  | [], _, h, r, hr => by obtain rfl := Option.some.inj h; cases hr
  | child :: rest, resources, h, r, hr => by
    rw [fillDeviceList] at h
    unfold firstNamed
    split at h
    · rename_i hname
      refine ⟨child, ?_, standsFor_fillDevices child resources h r hr⟩
      rw [List.find?_cons_of_pos (by simpa using hname)]
    · rename_i hname
      obtain ⟨list, hlist, h⟩ := standsFor_fillDeviceList rest resources h r hr
      refine ⟨list, ?_, h⟩
      rw [List.find?_cons_of_neg (by simpa using hname)]
      exact hlist

theorem standsFor_fillDevices : ∀ (list : Node) (resources : List Registration),
    fillDevices list = some resources → ∀ r ∈ resources, StandsIn list.children r
  | .document children, resources, h, r, hr => by
    rw [fillDevices] at h
    exact standsFor_fillEach children resources h r hr
  | .element _ _ children, resources, h, r, hr => by
    rw [fillDevices] at h
    exact standsFor_fillEach children resources h r hr
  | .text _, _, h, r, hr => by obtain rfl := Option.some.inj h; cases hr
  | .cdata _, _, h, r, hr => by obtain rfl := Option.some.inj h; cases hr
  | .comment _, _, h, r, hr => by obtain rfl := Option.some.inj h; cases hr
  | .instruction _ _, _, h, r, hr => by obtain rfl := Option.some.inj h; cases hr

theorem standsFor_fillEach : ∀ (nodes : List Node) (resources : List Registration),
    fillEach nodes = some resources → ∀ r ∈ resources, StandsIn nodes r
  | [], _, h, r, hr => by obtain rfl := Option.some.inj h; cases hr
  | child :: rest, resources, h, r, hr => by
    rw [fillEach] at h
    split at h
    · cases h
    rename_i name hname
    split at h
    · rename_i hdevice
      obtain ⟨here, hhere, h⟩ := Option.bind_eq_some_iff.1 h
      obtain ⟨others, hothers, h⟩ := Option.bind_eq_some_iff.1 h
      obtain rfl := Option.some.inj h
      rcases List.mem_append.1 hr with hr | hr
      · exact ⟨child, List.mem_cons_self, hdevice ▸ hname,
          standsFor_fillResourceGroup child here hhere r hr⟩
      · exact (standsFor_fillEach rest others hothers r hr).cons child
    · exact (standsFor_fillEach rest resources h r hr).cons child

end

theorem exists_serviceResources (h : Named element) (udn : Str) :
    ∃ services, serviceResources udn element = some services := by
  unfold serviceResources
  cases hlist : getElement element ["serviceList".toList] with
  | none => exact ⟨_, rfl⟩
  | some list =>
    dsimp only
    rw [childrenNamed_of_named (h _ (List.mem_cons_of_mem _ List.mem_cons_self) list hlist)]
    exact ⟨_, rfl⟩

mutual

/-- Without CDATA blocks in its way `fill_resource_group` does not fail. -/
theorem exists_fillResourceGroup : ∀ (element : Node), Named element →
    (∀ list, getElement element ["deviceList".toList] = some list → Walkable list.children) →
      ∃ resources, fillResourceGroup element = some resources
  | .element name attributes children, hn, hw => by
    rw [fillResourceGroup]
    split
    · exact ⟨_, rfl⟩
    rename_i udn type _
    obtain ⟨services, hservices⟩ := exists_serviceResources hn udn
    obtain ⟨embedded, hembedded⟩ := exists_fillDeviceList children fun list hlist =>
      hw list (by rw [getElement_singleton]; exact hlist)
    rw [hservices, hembedded]
    exact ⟨_, rfl⟩
  | .document _, _, _ => ⟨_, rfl⟩
  | .text _, _, _ => ⟨_, rfl⟩
  | .cdata _, _, _ => ⟨_, rfl⟩
  | .comment _, _, _ => ⟨_, rfl⟩
  | .instruction _ _, _, _ => ⟨_, rfl⟩

theorem exists_fillDeviceList : ∀ (nodes : List Node),
    (∀ list, firstNamed "deviceList".toList nodes = some list → Walkable list.children) →
      ∃ resources, fillDeviceList nodes = some resources
  | [], _ => ⟨_, rfl⟩
  | child :: rest, hw => by
    rw [fillDeviceList]
    unfold firstNamed at hw
    split
    · rename_i hname
      refine exists_fillDevices child (hw child ?_)
      rw [List.find?_cons_of_pos (by simpa using hname)]
    · rename_i hname
      refine exists_fillDeviceList rest fun list hlist => hw list ?_
      rw [List.find?_cons_of_neg (by simpa using hname)]
      exact hlist

theorem exists_fillDevices : ∀ (list : Node), Walkable list.children →
    ∃ resources, fillDevices list = some resources
  | .document children, hw => by
    rw [fillDevices]
    exact exists_fillEach children hw
  | .element _ _ children, hw => by
    rw [fillDevices]
    exact exists_fillEach children hw
  | .text _, _ => ⟨_, rfl⟩
  | .cdata _, _ => ⟨_, rfl⟩
  | .comment _, _ => ⟨_, rfl⟩
  | .instruction _ _, _ => ⟨_, rfl⟩

theorem exists_fillEach : ∀ (nodes : List Node), Walkable nodes →
    ∃ resources, fillEach nodes = some resources
  | [], _ => ⟨_, rfl⟩
  | child :: rest, hw => by
    obtain ⟨others, hothers⟩ := exists_fillEach rest hw.tail
    obtain ⟨name, hname⟩ := Option.isSome_iff_exists.1 (hw.named child List.mem_cons_self)
    rw [fillEach, hname]
    dsimp only
    split
    · rename_i hdevice
      have hcname := hdevice ▸ hname
      obtain ⟨here, hhere⟩ := exists_fillResourceGroup child (hw.named_of_mem List.mem_cons_self hcname)
        fun list hlist => hw.embedded List.mem_cons_self hcname hlist
      rw [hhere, hothers]
      exact ⟨_, rfl⟩
    · exact ⟨others, hothers⟩

end

/-! ## What is found -/

theorem hasProxy_report (resource : Resource) (location : Str) (element : Node)
    (s : ControlPointState) : (report resource location element s).HasProxy resource :=
  (hasProxy_report_iff resource).2 (.inr rfl)

theorem report_keeps (resource r : Resource) (location : Str) (element : Node)
    (s : ControlPointState) (h : s.HasProxy resource) :
    (report r location element s).HasProxy resource :=
  (hasProxy_report_iff resource).2 (.inl h)

theorem processDeviceList_eq (node : Node) :
    processDeviceList udn serviceType location node s =
      processDevices udn serviceType location node.children s := by
  cases node <;> simp [processDeviceList, processDevices, Node.children]

theorem processDeviceListOf_eq {list : Node} (h : firstNamed "deviceList".toList nodes = some list) :
    processDeviceListOf udn serviceType location nodes s =
      processDeviceList udn serviceType location list s := by
  induction nodes with
  | nil => cases h
  | cons child rest ih =>
    unfold firstNamed at h
    rw [processDeviceListOf]
    by_cases hname : child.name = some "deviceList".toList
    · rw [List.find?_cons_of_pos (by simpa using hname)] at h
      rw [if_pos hname, Option.some.inj h]
    · rw [List.find?_cons_of_neg (by simpa using hname)] at h
      rw [if_neg hname]
      exact ih h

theorem processEmbedded_eq {list : Node}
    (h : getElement element ["deviceList".toList] = some list) :
    processEmbedded udn serviceType location element s =
      processDeviceList udn serviceType location list s := by
  rw [getElement_singleton] at h
  cases element with
  | document children =>
    rw [processEmbedded]
    exact processDeviceListOf_eq h
  | element name attributes children =>
    rw [processEmbedded]
    exact processDeviceListOf_eq h
  | text content => cases h
  | cdata content => cases h
  | comment content => cases h
  | instruction target content => cases h

/-- Once the walk comes by the device, it has the proxy that the device is good for. -/
theorem processDevices_of_inTree
    (hreach : ∀ s t, processDevice udn serviceType location device s = some t →
      t.HasProxy (udn, serviceType))
    (hin : InTree device element) (hname : element.name = some "device".toList)
    (hmem : element ∈ nodes) (h : processDevices udn serviceType location nodes s = some t) :
    t.HasProxy (udn, serviceType) := by
  have hkeep := fun element s =>
    report_keeps (udn, serviceType) (udn, serviceType) location element s
  induction hin generalizing nodes s t with
  | self =>
    induction nodes generalizing s with
    | nil => cases hmem
    | cons child rest ih =>
      rw [processDevices] at h
      rcases List.mem_cons.1 hmem with rfl | hmem
      · rw [hname] at h
        dsimp only at h
        rw [if_neg (not_not.2 rfl)] at h
        obtain ⟨u, -, h⟩ := Option.bind_eq_some_iff.1 h
        obtain ⟨v, hv, h⟩ := Option.bind_eq_some_iff.1 h
        exact processDevices_inv _ hkeep rest v t h (hreach u v hv)
      · split at h
        · cases h
        split at h
        · exact ih hmem h
        · obtain ⟨u, -, h⟩ := Option.bind_eq_some_iff.1 h
          obtain ⟨v, -, h⟩ := Option.bind_eq_some_iff.1 h
          exact ih hmem h
  | @embedded element list child hlist hchild hcname _ ih =>
    induction nodes generalizing s with
    | nil => cases hmem
    | cons node rest ihrest =>
      rw [processDevices] at h
      rcases List.mem_cons.1 hmem with rfl | hmem
      · rw [hname] at h
        dsimp only at h
        rw [if_neg (not_not.2 rfl), processEmbedded_eq hlist, processDeviceList_eq] at h
        obtain ⟨u, hu, h⟩ := Option.bind_eq_some_iff.1 h
        obtain ⟨v, hv, h⟩ := Option.bind_eq_some_iff.1 h
        exact processDevices_inv _ hkeep rest v t h
          (processDevice_inv _ hkeep hv (ih hcname hchild hu))
      · split at h
        · cases h
        split at h
        · exact ihrest hmem h
        · obtain ⟨u, -, h⟩ := Option.bind_eq_some_iff.1 h
          obtain ⟨v, -, h⟩ := Option.bind_eq_some_iff.1 h
          exact ihrest hmem h

/-- The walk over the services finds one that answers for the type. -/
theorem processServiceList_of_mem {udn type type' : Str} {list child : Node}
    (hmem : child ∈ list.children) (hname : child.name = some "service".toList)
    (htype : getChildElementContent child "serviceType".toList = some type')
    (hcompare : compareServiceTypesVersioned type type' = true)
    (h : processServiceList udn location type list s = some t) : t.HasProxy (udn, some type) := by
  obtain ⟨before, after, hsplit⟩ := List.append_of_mem hmem
  unfold processServiceList at h
  rw [hsplit, List.foldlM_append] at h
  obtain ⟨u, -, h⟩ := Option.bind_eq_some_iff.1 h
  rw [List.foldlM_cons] at h
  obtain ⟨v, hv, h⟩ := Option.bind_eq_some_iff.1 h
  refine processServices_inv _ (fun element s => report_keeps _ (udn, some type) location element s) h ?_
  unfold processService at hv
  simp only [hname, htype, hcompare, ne_eq, not_true_eq_false, if_false, if_true] at hv
  exact Option.some.inj hv ▸ hasProxy_report (udn, some type) location child u

/-- The walk over the document finds what the USN of a device of its tree stands for. -/
theorem descriptionLoaded_of_inTree {doc root : Node} {usn : Str}
    (hroot : getElement doc ["root".toList] = some root)
    (helement : getElement root ["device".toList] = some element)
    (hin : InTree device element) (hd : Described device) (hs : StandsFor device usn resource)
    (h : descriptionLoaded resource.1 resource.2 location doc s = some t) : t.HasProxy resource := by
  rw [getElement_singleton] at helement
  have hmem := mem_of_firstNamed helement
  have hname : element.name = some "device".toList := by simpa using List.find?_some helement
  have hwalk : ∀ (udn : Str) (serviceType : Option Str),
      (∀ s t, processDevice udn serviceType location device s = some t →
        t.HasProxy (udn, serviceType)) →
      descriptionLoaded udn serviceType location doc s = some t → t.HasProxy (udn, serviceType) := by
    intro udn serviceType hreach h
    simp only [descriptionLoaded, hroot, processDeviceList_eq] at h
    exact processDevices_of_inTree hreach hin hname hmem h
  have hdevice : ∀ udn, getChildElementContent device "UDN".toList = some udn →
      descriptionLoaded udn none location doc s = some t → t.HasProxy (udn, none) := by
    intro udn hudn
    refine hwalk udn none fun s t hp => ?_
    simp only [processDevice, hudn, if_true] at hp
    exact Option.some.inj hp ▸ hasProxy_report (udn, none) location device s
  cases hs with
  | udn hudn => exact hdevice _ hudn h
  | rootdevice hudn => exact hdevice _ hudn h
  | deviceType hudn _ => exact hdevice _ hudn h
  | @service udn type hudn hoffers =>
    obtain ⟨domain, name, v, htype⟩ := hd.serviceType type hoffers
    obtain ⟨list, hlist, child, hchild, hcname, hst⟩ := hoffers
    refine hwalk udn (some type) (fun s t hp => ?_) h
    simp only [processDevice, hudn, if_true, hlist] at hp
    exact processServiceList_of_mem hchild hcname hst htype.compare_self hp

/-! ## Where the walk does not fail -/

theorem exists_processService (hname : element.name.isSome) (type : Str) (s : ControlPointState) :
    ∃ t, processService udn location type s element = some t := by
  obtain ⟨name, hname⟩ := Option.isSome_iff_exists.1 hname
  unfold processService
  rw [hname]
  dsimp only
  split
  · exact ⟨_, rfl⟩
  split
  · exact ⟨_, rfl⟩
  split <;> exact ⟨_, rfl⟩

theorem exists_foldlM_processService (h : ∀ child ∈ nodes, child.name.isSome) (type : Str)
    (s : ControlPointState) : ∃ t, nodes.foldlM (processService udn location type) s = some t := by
  induction nodes generalizing s with
  | nil => exact ⟨s, rfl⟩
  | cons child rest ih =>
    obtain ⟨u, hu⟩ := exists_processService (h child List.mem_cons_self) type s
    rw [List.foldlM_cons, hu]
    exact ih (fun c hc => h c (List.mem_cons_of_mem child hc)) u

theorem exists_processDevice (h : Named element) (s : ControlPointState) :
    ∃ t, processDevice udn serviceType location element s = some t := by
  unfold processDevice
  split
  · exact ⟨_, rfl⟩
  split
  · cases serviceType with
    | none => exact ⟨_, rfl⟩
    | some type =>
      dsimp only
      split
      · rename_i list hlist
        exact exists_foldlM_processService
          (h _ (List.mem_cons_of_mem _ List.mem_cons_self) list hlist) type s
      · exact ⟨_, rfl⟩
  · exact ⟨_, rfl⟩

mutual

theorem exists_processDeviceList : ∀ (node : Node) (s : ControlPointState), Walkable node.children →
    ∃ t, processDeviceList udn serviceType location node s = some t
  | .document children, s, hw => by
    rw [processDeviceList]
    exact exists_processDevices children s hw
  | .element _ _ children, s, hw => by
    rw [processDeviceList]
    exact exists_processDevices children s hw
  | .text _, _, _ => ⟨_, rfl⟩
  | .cdata _, _, _ => ⟨_, rfl⟩
  | .comment _, _, _ => ⟨_, rfl⟩
  | .instruction _ _, _, _ => ⟨_, rfl⟩

theorem exists_processDevices : ∀ (nodes : List Node) (s : ControlPointState), Walkable nodes →
    ∃ t, processDevices udn serviceType location nodes s = some t
  | [], _, _ => ⟨_, rfl⟩
  | element :: rest, s, hw => by
    obtain ⟨name, hname⟩ := Option.isSome_iff_exists.1 (hw.named element List.mem_cons_self)
    rw [processDevices, hname]
    dsimp only
    split
    · exact exists_processDevices rest s hw.tail
    · rename_i hdevice
      have hcname := not_not.1 hdevice ▸ hname
      obtain ⟨u, hu⟩ := exists_processEmbedded element s fun list hlist =>
        hw.embedded List.mem_cons_self hcname hlist
      obtain ⟨v, hv⟩ := exists_processDevice (hw.named_of_mem List.mem_cons_self hcname) u
      obtain ⟨t, ht⟩ := exists_processDevices rest v hw.tail
      exact ⟨t, Option.bind_eq_some_iff.2 ⟨u, hu, Option.bind_eq_some_iff.2 ⟨v, hv, ht⟩⟩⟩

theorem exists_processEmbedded : ∀ (node : Node) (s : ControlPointState),
    (∀ list, getElement node ["deviceList".toList] = some list → Walkable list.children) →
      ∃ t, processEmbedded udn serviceType location node s = some t
  | .document children, s, hw => by
    rw [processEmbedded]
    exact exists_processDeviceListOf children s fun list hlist =>
      hw list (by rw [getElement_singleton]; exact hlist)
  | .element _ _ children, s, hw => by
    rw [processEmbedded]
    exact exists_processDeviceListOf children s fun list hlist =>
      hw list (by rw [getElement_singleton]; exact hlist)
  | .text _, _, _ => ⟨_, rfl⟩
  | .cdata _, _, _ => ⟨_, rfl⟩
  | .comment _, _, _ => ⟨_, rfl⟩
  | .instruction _ _, _, _ => ⟨_, rfl⟩

theorem exists_processDeviceListOf : ∀ (nodes : List Node) (s : ControlPointState),
    (∀ list, firstNamed "deviceList".toList nodes = some list → Walkable list.children) →
      ∃ t, processDeviceListOf udn serviceType location nodes s = some t
  | [], _, _ => ⟨_, rfl⟩
  | child :: rest, s, hw => by
    rw [processDeviceListOf]
    unfold firstNamed at hw
    split
    · rename_i hname
      refine exists_processDeviceList child s (hw child ?_)
      rw [List.find?_cons_of_pos (by simpa using hname)]
    · rename_i hname
      refine exists_processDeviceListOf rest s fun list hlist => hw list ?_
      rw [List.find?_cons_of_neg (by simpa using hname)]
      exact hlist

end

/-- Without CDATA blocks in its way the walk over the document does not fail. -/
theorem exists_descriptionLoaded {doc root : Node}
    (hroot : getElement doc ["root".toList] = some root) (hw : Walkable root.children)
    (s : ControlPointState) : ∃ t, descriptionLoaded udn serviceType location doc s = some t := by
  unfold descriptionLoaded
  rw [hroot]
  exact exists_processDeviceList root s hw

/-! ## Every announcement leads to its proxy -/

/-- A USN of a device with a UDN and types that come apart is parsed as what it stands for. -/
theorem parseUsn_of_standsFor {usn : Str} (hd : Described device) (hs : Separate device)
    (h : StandsFor device usn resource) : parseUsn usn = some resource := by
  obtain ⟨udn, hudn, hu⟩ := hd.udn
  have hlast := hs.udn udn hudn
  have heq : ∀ {udn' : Str}, getChildElementContent device "UDN".toList = some udn' →
      udn' = udn := by
    intro udn' hudn'
    exact Option.some.inj (hudn'.symm.trans hudn)
  cases h with
  | udn h => exact heq h ▸ parseUsn_udn hu
  | rootdevice h =>
    obtain rfl := heq h
    exact parseUsn_rootdevice hu hlast
  | @deviceType _ type h htype =>
    obtain rfl := heq h
    obtain ⟨type', domain, name, v, htype', hof⟩ := hd.deviceType
    obtain rfl : type' = type := Option.some.inj (htype'.symm.trans htype)
    exact parseUsn_device hu hlast hof (hs.deviceType _ htype)
  | @service _ type h hoffers =>
    obtain rfl := heq h
    obtain ⟨domain, name, v, hof⟩ := hd.serviceType type hoffers
    exact parseUsn_service hu hlast hof (hs.serviceType type hoffers)

/-- The registrations of a document come from the devices of its tree. -/
theorem standsFor_registerResources {doc root element : Node} {resources : List Registration}
    (hroot : getElement doc ["root".toList] = some root)
    (helement : getElement root ["device".toList] = some element) (hd : Described element)
    (hreg : registerResources doc = some resources) {r : Registration} (hr : r ∈ resources) :
    ∃ device resource, InTree device element ∧ StandsFor device r.usn resource := by
  obtain ⟨udn, hudn, -⟩ := hd.udn
  unfold registerResources rootResource at hreg
  rw [hroot, Option.bind_some, helement, Option.bind_some, hudn, Option.getD_some] at hreg
  obtain ⟨filled, hfilled, rfl⟩ := Option.map_eq_some_iff.1 hreg
  rcases List.mem_cons.1 hr with rfl | hr
  · exact ⟨element, _, .self, .rootdevice hudn⟩
  · exact standsFor_fillResourceGroup element filled hfilled r hr

/-- Where no CDATA block is in the lists, a root device registers its document, and for every USN that
it registers a control point reads the device of the tree that it belongs to and, for the USN of a
service, the service type, and finds a proxy for them in the same document. -/
theorem announced_resolves {doc root element : Node}
    (hroot : getElement doc ["root".toList] = some root)
    (helement : getElement root ["device".toList] = some element)
    (hw : Walkable root.children)
    (hd : ∀ device, InTree device element → Described device)
    (hs : ∀ device, InTree device element → Separate device) :
    ∃ resources, registerResources doc = some resources ∧ ∀ r ∈ resources,
      ∃ device resource, InTree device element ∧ StandsFor device r.usn resource ∧
        parseUsn r.usn = some resource ∧ ∀ location s, ∃ t,
          descriptionLoaded resource.1 resource.2 location doc s = some t ∧ t.HasProxy resource := by
  have hmem : element ∈ root.children := by
    rw [getElement_singleton] at helement
    exact mem_of_firstNamed helement
  have hname : element.name = some "device".toList := by
    rw [getElement_singleton] at helement
    simpa using List.find?_some helement
  obtain ⟨filled, hfilled⟩ := exists_fillResourceGroup element (hw.named_of_mem hmem hname) fun list hlist =>
    hw.embedded hmem hname hlist
  have hreg : registerResources doc = some (rootResource element :: filled) := by
    unfold registerResources
    rw [hroot, Option.bind_some, helement, Option.bind_some, hfilled, Option.map_some]
  refine ⟨_, hreg, fun r hr => ?_⟩
  obtain ⟨device, resource, hin, hstands⟩ :=
    standsFor_registerResources hroot helement (hd element .self) hreg hr
  refine ⟨device, resource, hin, hstands,
    parseUsn_of_standsFor (hd device hin) (hs device hin) hstands, fun location s => ?_⟩
  obtain ⟨t, ht⟩ := exists_descriptionLoaded hroot hw s
  exact ⟨t, ht, descriptionLoaded_of_inTree hroot helement hin (hd device hin) hstands ht⟩

/-! ## Concrete devices -/

/-- A device with one service and no embedded devices. -/
def sampleDevice (udn : String) : Node := .element "device".toList []
  [leaf "deviceType" "urn:schemas-upnp-org:device:BinaryLight:1", leaf "UDN" udn,
    .element "serviceList".toList [] [.element "service".toList []
      [leaf "serviceType" "urn:schemas-upnp-org:service:SwitchPower:1"]]]

def sampleRoot (udn : String) : Node := .element "root".toList [] [sampleDevice udn]

theorem inTree_sampleDevice {udn : String} (h : InTree device (sampleDevice udn)) :
    device = sampleDevice udn := by
  cases h with
  | self => rfl
  | embedded hlist => cases hlist

theorem offers_sampleDevice {udn : String} {type : Str} (h : Offers (sampleDevice udn) type) :
    type = "urn:schemas-upnp-org:service:SwitchPower:1".toList := by
  obtain ⟨list, hlist, child, hchild, -, htype⟩ := h
  obtain rfl := Option.some.inj hlist
  obtain rfl := List.mem_singleton.1 hchild
  exact (Option.some.inj htype).symm

theorem walkable_sampleRoot (udn : String) : Walkable (sampleRoot udn).children where
  named child hchild := by
    obtain rfl := List.mem_singleton.1 hchild
    rfl
  devices device hd := by
    obtain ⟨child, hchild, -, hin⟩ := hd
    obtain rfl := List.mem_singleton.1 hchild
    rw [inTree_sampleDevice hin]
    intro listName hname list hlist child hchild
    rcases List.mem_cons.1 hname with rfl | hname
    · cases hlist
    · obtain rfl := List.mem_singleton.1 hname
      obtain rfl := Option.some.inj hlist
      rw [List.mem_singleton.1 hchild]
      rfl

theorem udn_sampleDevice (udn : String) :
    getChildElementContent (sampleDevice udn) "UDN".toList = some udn.toList := by
  show some (udn.toList ++ []) = _
  rw [List.append_nil]

theorem version_one : Version "1".toList where
  ne_nil := by decide
  digits c hc := by
    obtain rfl := List.mem_singleton.1 hc
    decide
  pos := by decide
  lt := by decide

theorem described_sampleDevice {udn : String} (h : Udn udn.toList) :
    Described (sampleDevice udn) where
  udn := ⟨udn.toList, udn_sampleDevice udn, h⟩
  deviceType := ⟨_, "schemas-upnp-org".toList, "BinaryLight".toList, "1".toList, rfl,
    by decide, by decide, by decide, version_one⟩
  serviceType type htype := offers_sampleDevice htype ▸
    ⟨"schemas-upnp-org".toList, "SwitchPower".toList, "1".toList,
      by decide, by decide, by decide, version_one⟩

/-- The service of a device is found. -/
theorem announced_resolves_sample : ∃ resource,
    parseUsn "uuid:1::urn:schemas-upnp-org:service:SwitchPower:1".toList = some resource ∧
    ∀ location s, ∃ t, descriptionLoaded resource.1 resource.2 location
      (.document [sampleRoot "uuid:1"]) s = some t ∧ t.HasProxy resource := by
  have hudn : Udn "uuid:1".toList := ⟨by decide, by decide⟩
  have hseparate : Separate (sampleDevice "uuid:1") := by
    refine ⟨fun udn hu => ?_, fun type ht => ?_, fun type ht => ?_⟩
    · obtain rfl := Option.some.inj ((udn_sampleDevice "uuid:1").symm.trans hu)
      decide
    · obtain rfl := Option.some.inj ht
      decide
    · rw [offers_sampleDevice ht]
      decide
  have hroot : getElement (.document [sampleRoot "uuid:1"]) ["root".toList] =
      some (sampleRoot "uuid:1") := rfl
  obtain ⟨resources, hreg, hresolves⟩ := announced_resolves hroot rfl (walkable_sampleRoot "uuid:1")
    (fun device h => inTree_sampleDevice h ▸ described_sampleDevice hudn)
    (fun device h => inTree_sampleDevice h ▸ hseparate)
  obtain ⟨device, resource, -, -, hparse, hproxy⟩ := hresolves
    ⟨"urn:schemas-upnp-org:service:SwitchPower:1".toList,
      "uuid:1::urn:schemas-upnp-org:service:SwitchPower:1".toList⟩ (by
        rw [← Option.some.inj hreg]
        decide)
  exact ⟨resource, hparse, hproxy⟩

/-- A UDN that ends in a colon cannot be told from the `::` that follows it. -/
theorem announced_unresolved : ¬ ∀ (doc root element : Node) (resources : List Registration)
    (r : Registration), getElement doc ["root".toList] = some root →
      getElement root ["device".toList] = some element →
      (∀ device, InTree device element → Described device) →
      registerResources doc = some resources → r ∈ resources →
      ∃ resource, parseUsn r.usn = some resource := by
  intro h
  have hudn : Udn "uuid:1:".toList := ⟨by decide, by decide⟩
  obtain ⟨resource, hparse⟩ := h (.document [sampleRoot "uuid:1:"]) _ _ _
    ⟨"upnp:rootdevice".toList, "uuid:1:::upnp:rootdevice".toList⟩ rfl rfl
    (fun device h => inTree_sampleDevice h ▸ described_sampleDevice hudn) rfl (by decide)
  exact absurd hparse (by
    rw [show parseUsn "uuid:1:::upnp:rootdevice".toList = none by decide]
    nofun)

end GUPnP.Discovery
