import GUPnP.DeviceInfo.Navigation
import GUPnP.Discovery.Resolve
import GUPnP.Discovery.TypeMatch

/-!
# Two ways to a service

A control point makes a proxy for a service that is announced, by a walk over the whole document; an
application that has the proxy of the root device gets to the same service from device to device. The
walk of the control point comes by the devices in a fixed order (`foldlM_postorder`) and the application
reaches the same devices (`reaches_iff`), so where the UDNs tell the devices apart both end at the same
element (`navigation_agrees`).
-/

set_option autoImplicit false

namespace GUPnP.Discovery

open ControlPoint Xml
open DeviceInfo (ResourceFactory ProxyType createDeviceInstance createServiceInstance listDevices
  listServices listedIn findOfType getDevice getService resourceTypeMatch lookupTypeWithFallback)

/-! ## The walk of the control point -/

mutual

/-- The devices of the trees below these nodes, those embedded in a device before it. -/
def postorder : List Node → List Node
  | [] => []
  | node :: rest =>
    if node.name ≠ some "device".toList then postorder rest
    else postorderBelow node ++ node :: postorder rest

def postorderBelow : Node → List Node
  | .document children => postorderOf children
  | .element _ _ children => postorderOf children
  | _ => []

def postorderOf : List Node → List Node
  | [] => []
  | child :: rest =>
    if child.name = some "deviceList".toList then postorderList child else postorderOf rest

def postorderList : Node → List Node
  | .document children => postorder children
  | .element _ _ children => postorder children
  | _ => []

end

section
variable {udn location : Str} {serviceType : Option Str} {nodes : List Node} {s t : ControlPointState}
  {device element : Node}

mutual

/-- The control point processes the devices one after the other. -/
theorem foldlM_postorder : ∀ (nodes : List Node) (s t : ControlPointState),
    processDevices udn serviceType location nodes s = some t →
      (postorder nodes).foldlM (fun s d => processDevice udn serviceType location d s) s = some t
  | [], _, _, h => h
  | node :: rest, s, t, h => by
    rw [processDevices] at h
    split at h
    · cases h
    rename_i name hname
    rw [postorder, hname]
    split at h
    · rename_i hne
      rw [if_pos fun heq => hne (Option.some.inj heq)]
      exact foldlM_postorder rest s t h
    · rename_i heq
      obtain ⟨u, hu, h⟩ := Option.bind_eq_some_iff.1 h
      obtain ⟨v, hv, h⟩ := Option.bind_eq_some_iff.1 h
      rw [if_neg (not_not.2 (congrArg some (not_not.1 heq))), List.foldlM_append]
      refine Option.bind_eq_some_iff.2 ⟨u, foldlM_postorderBelow node s u hu, ?_⟩
      rw [List.foldlM_cons]
      exact Option.bind_eq_some_iff.2 ⟨v, hv, foldlM_postorder rest v t h⟩

theorem foldlM_postorderBelow : ∀ (node : Node) (s t : ControlPointState),
    processEmbedded udn serviceType location node s = some t →
      (postorderBelow node).foldlM (fun s d => processDevice udn serviceType location d s) s = some t
  | .document children, s, t, h => by
    rw [processEmbedded] at h
    rw [postorderBelow]
    exact foldlM_postorderOf children s t h
  | .element _ _ children, s, t, h => by
    rw [processEmbedded] at h
    rw [postorderBelow]
    exact foldlM_postorderOf children s t h
  | .text _, _, _, h => h
  | .cdata _, _, _, h => h
  | .comment _, _, _, h => h
  | .instruction _ _, _, _, h => h

theorem foldlM_postorderOf : ∀ (nodes : List Node) (s t : ControlPointState),
    processDeviceListOf udn serviceType location nodes s = some t →
      (postorderOf nodes).foldlM (fun s d => processDevice udn serviceType location d s) s = some t
  | [], _, _, h => h
  | child :: rest, s, t, h => by
    rw [processDeviceListOf] at h
    rw [postorderOf]
    split at h
    · rename_i hname
      rw [if_pos hname]
      exact foldlM_postorderList child s t h
    · rename_i hname
      rw [if_neg hname]
      exact foldlM_postorderOf rest s t h

theorem foldlM_postorderList : ∀ (node : Node) (s t : ControlPointState),
    processDeviceList udn serviceType location node s = some t →
      (postorderList node).foldlM (fun s d => processDevice udn serviceType location d s) s = some t
  | .document children, s, t, h => by
    rw [processDeviceList] at h
    rw [postorderList]
    exact foldlM_postorder children s t h
  | .element _ _ children, s, t, h => by
    rw [processDeviceList] at h
    rw [postorderList]
    exact foldlM_postorder children s t h
  | .text _, _, _, h => h
  | .cdata _, _, _, h => h
  | .comment _, _, _, h => h
  | .instruction _ _, _, _, h => h

end

theorem postorderList_eq (node : Node) : postorderList node = postorder node.children := by
  cases node <;> simp [postorderList, postorder, Node.children]

theorem postorderOf_eq {list : Node} (h : firstNamed "deviceList".toList nodes = some list) :
    postorderOf nodes = postorder list.children := by
  induction nodes with
  | nil => cases h
  | cons child rest ih =>
    unfold firstNamed at h
    rw [postorderOf]
    by_cases hname : child.name = some "deviceList".toList
    · rw [List.find?_cons_of_pos (by simpa using hname)] at h
      rw [if_pos hname, Option.some.inj h, postorderList_eq]
    · rw [List.find?_cons_of_neg (by simpa using hname)] at h
      rw [if_neg hname]
      exact ih h

theorem postorderOf_none (h : firstNamed "deviceList".toList nodes = none) : postorderOf nodes = [] := by
  induction nodes with
  | nil => rfl
  | cons child rest ih =>
    unfold firstNamed at h ih
    rw [List.find?_eq_none] at h
    have hname := h child List.mem_cons_self
    rw [postorderOf, if_neg (by simpa using hname)]
    exact ih (List.find?_eq_none.2 fun node hnode => h node (List.mem_cons_of_mem child hnode))

/-- The devices embedded in a device are those of its first `deviceList`. -/
theorem postorderBelow_eq (node : Node) : postorderBelow node =
    match getElement node ["deviceList".toList] with
    | none => []
    | some list => postorder list.children := by
  rw [getElement_singleton]
  have hof : ∀ children, postorderOf children =
      match firstNamed "deviceList".toList children with
      | none => []
      | some list => postorder list.children := by
    intro children
    split
    · rename_i h
      exact postorderOf_none h
    · rename_i list h
      exact postorderOf_eq h
  cases node with
  | document children => exact hof children
  | element name attributes children => exact hof children
  | text content => rfl
  | cdata content => rfl
  | comment content => rfl
  | instruction target content => rfl

mutual

theorem inTrees_of_postorder : ∀ (nodes : List Node) (device : Node), device ∈ postorder nodes →
    InTrees device nodes
  | [], _, h => by cases h
  | node :: rest, device, h => by
    rw [postorder] at h
    split at h
    · exact (inTrees_of_postorder rest device h).cons node
    rename_i hname
    rcases List.mem_append.1 h with h | h
    · obtain ⟨list, hlist, child, hchild, hcname, hin⟩ := inTrees_of_postorderBelow node device h
      exact ⟨node, List.mem_cons_self, not_not.1 hname, .embedded hlist hchild hcname hin⟩
    rcases List.mem_cons.1 h with rfl | h
    · exact ⟨device, List.mem_cons_self, not_not.1 hname, .self⟩
    · exact (inTrees_of_postorder rest device h).cons node

theorem inTrees_of_postorderBelow : ∀ (node device : Node), device ∈ postorderBelow node →
    ∃ list, getElement node ["deviceList".toList] = some list ∧ InTrees device list.children
  | .document children, device, h => by
    rw [postorderBelow] at h
    rw [getElement_singleton]
    exact inTrees_of_postorderOf children device h
  | .element _ _ children, device, h => by
    rw [postorderBelow] at h
    rw [getElement_singleton]
    exact inTrees_of_postorderOf children device h
  | .text _, _, h => by cases h
  | .cdata _, _, h => by cases h
  | .comment _, _, h => by cases h
  | .instruction _ _, _, h => by cases h

theorem inTrees_of_postorderOf : ∀ (nodes : List Node) (device : Node),
    device ∈ postorderOf nodes →
      ∃ list, firstNamed "deviceList".toList nodes = some list ∧ InTrees device list.children
  | [], _, h => by cases h
  | child :: rest, device, h => by
    rw [postorderOf] at h
    unfold firstNamed
    split at h
    · rename_i hname
      refine ⟨child, ?_, inTrees_of_postorderList child device h⟩
      rw [List.find?_cons_of_pos (by simpa using hname)]
    · rename_i hname
      obtain ⟨list, hlist, h⟩ := inTrees_of_postorderOf rest device h
      refine ⟨list, ?_, h⟩
      rw [List.find?_cons_of_neg (by simpa using hname)]
      exact hlist

theorem inTrees_of_postorderList : ∀ (node device : Node), device ∈ postorderList node →
    InTrees device node.children
  | .document children, device, h => by
    rw [postorderList] at h
    exact inTrees_of_postorder children device h
  | .element _ _ children, device, h => by
    rw [postorderList] at h
    exact inTrees_of_postorder children device h
  | .text _, _, h => by cases h
  | .cdata _, _, h => by cases h
  | .comment _, _, h => by cases h
  | .instruction _ _, _, h => by cases h

end

/-- A device of the nodes is processed, and what is below it. -/
theorem postorder_of_mem (hmem : element ∈ nodes) (hname : element.name = some "device".toList) :
    element ∈ postorder nodes ∧ ∀ d ∈ postorderBelow element, d ∈ postorder nodes := by
  induction nodes with
  | nil => cases hmem
  | cons node rest ih =>
    rw [postorder]
    rcases List.mem_cons.1 hmem with rfl | hmem
    · rw [if_neg (not_not.2 hname)]
      exact ⟨List.mem_append_right _ List.mem_cons_self, fun d hd => List.mem_append_left _ hd⟩
    · obtain ⟨hself, hbelow⟩ := ih hmem
      split
      · exact ⟨hself, hbelow⟩
      · exact ⟨List.mem_append_right _ (List.mem_cons_of_mem node hself), fun d hd =>
          List.mem_append_right _ (List.mem_cons_of_mem node (hbelow d hd))⟩

/-- The control point comes by the devices of the trees. -/
theorem mem_postorder : device ∈ postorder nodes ↔ InTrees device nodes := by
  refine ⟨inTrees_of_postorder nodes device, ?_⟩
  rintro ⟨child, hchild, hname, hin⟩
  induction hin generalizing nodes with
  | self => exact (postorder_of_mem hchild hname).1
  | @embedded element list child hlist hmem hcname _ ih =>
    apply (postorder_of_mem hchild hname).2
    rw [postorderBelow_eq, hlist]
    exact ih hmem hcname

end

/-! ## The service that is found -/

/-- An element with this name and with a type that the comparison finds. -/
def isOfType (childName typeName : Str) (compare : Str → Bool) (child : Node) : Bool :=
  child.name == some childName &&
    match getChildElementContent child typeName with
    | some childType => compare childType
    | none => false

/-- A service with a type that the comparison finds. -/
abbrev isService (compare : Str → Bool) (child : Node) : Bool :=
  isOfType "service".toList "serviceType".toList compare child

section
variable {udn type location : Str} {nodes : List Node} {s t : ControlPointState} {element device : Node}

theorem processService_eq (h : processService udn location type s element = some t) :
    t = if isService (compareServiceTypesVersioned type) element then
      report (udn, some type) location element s
    else s := by
  unfold processService at h
  unfold isService isOfType
  cases hname : element.name with
  | none =>
    rw [hname] at h
    cases h
  | some name =>
    rw [hname] at h
    dsimp only at h
    by_cases heq : name = "service".toList
    · rw [if_neg (not_not.2 heq)] at h
      rw [heq, beq_self_eq_true, Bool.true_and]
      cases hprop : getChildElementContent element "serviceType".toList with
      | none =>
        rw [hprop] at h
        exact (Option.some.inj h).symm
      | some childType =>
        rw [hprop] at h
        dsimp only at h ⊢
        split at h
        · rename_i hcompare
          rw [if_pos hcompare]
          exact (Option.some.inj h).symm
        · rename_i hcompare
          rw [if_neg hcompare]
          exact (Option.some.inj h).symm
    · rw [if_pos heq] at h
      rw [beq_eq_false_iff_ne.2 fun hx => heq (Option.some.inj hx), Bool.false_and,
        if_neg Bool.false_ne_true]
      exact (Option.some.inj h).symm

/-- With a proxy for the service nothing is created. -/
theorem foldlM_processService_of_hasProxy (hs : s.HasProxy (udn, some type))
    (h : nodes.foldlM (processService udn location type) s = some t) : t = s := by
  induction nodes with
  | nil => exact (Option.some.inj h).symm
  | cons node rest ih =>
    rw [List.foldlM_cons] at h
    obtain ⟨u, hu, hrest⟩ := Option.bind_eq_some_iff.1 h
    have hsame := processService_eq hu
    rw [report_of_hasProxy hs, ite_self] at hsame
    subst hsame
    exact ih hrest

/-- Else the first service that matches gets the proxy. -/
theorem foldlM_processService (hs : ¬ s.HasProxy (udn, some type))
    (h : nodes.foldlM (processService udn location type) s = some t) :
    t = match nodes.find? (isService (compareServiceTypesVersioned type)) with
      | none => s
      | some element => addProxy (udn, some type) location element s := by
  induction nodes with
  | nil => exact (Option.some.inj h).symm
  | cons node rest ih =>
    rw [List.foldlM_cons] at h
    obtain ⟨u, hu, hrest⟩ := Option.bind_eq_some_iff.1 h
    have hstep := processService_eq hu
    by_cases hmatch : isService (compareServiceTypesVersioned type) node = true
    · rw [if_pos hmatch, report_of_not_hasProxy hs] at hstep
      subst hstep
      rw [List.find?_cons_of_pos hmatch]
      exact foldlM_processService_of_hasProxy ((hasProxy_addProxy_iff _).2 (.inr rfl)) hrest
    · rw [if_neg hmatch] at hstep
      subst hstep
      rw [List.find?_cons_of_neg hmatch]
      exact ih hrest

theorem findService_addProxy :
    (addProxy (udn, some type) location element s).findService udn type =
      some ⟨element, udn, type, location⟩ := by
  unfold ControlPointState.findService addProxy
  rw [List.find?_cons_of_pos (by simp)]

theorem findService_of_not_hasProxy (h : ¬ s.HasProxy (udn, some type)) :
    s.findService udn type = none := by
  cases hfind : s.findService udn type with
  | none => rfl
  | some proxy => exact absurd (findService_isSome.1 (by rw [hfind]; rfl)) h

/-- The service of this device that the control point makes a proxy for. -/
def foundIn (type : Str) (device : Node) : Option Node :=
  (getElement device ["serviceList".toList]).bind fun list =>
    list.children.find? (isService (compareServiceTypesVersioned type))

/-- What the control point does at the device with the UDN. -/
theorem processDevice_eq (hudn : getChildElementContent device "UDN".toList = some udn)
    (hs : ¬ s.HasProxy (udn, some type))
    (h : processDevice udn (some type) location device s = some t) :
    t = match foundIn type device with
      | none => s
      | some element => addProxy (udn, some type) location element s := by
  unfold processDevice at h
  unfold foundIn
  simp only [hudn, if_true] at h
  cases hlist : getElement device ["serviceList".toList] with
  | none =>
    rw [hlist] at h
    exact (Option.some.inj h).symm
  | some list =>
    rw [hlist] at h
    exact foldlM_processService hs h

theorem processDevice_of_hasProxy (hs : s.HasProxy (udn, some type))
    (h : processDevice udn (some type) location device s = some t) : t = s := by
  unfold processDevice at h
  split at h
  · exact (Option.some.inj h).symm
  split at h
  · dsimp only at h
    split at h
    · exact foldlM_processService_of_hasProxy hs h
    · exact (Option.some.inj h).symm
  · exact (Option.some.inj h).symm

theorem processDevice_of_ne (hne : getChildElementContent device "UDN".toList ≠ some udn)
    {serviceType : Option Str} (h : processDevice udn serviceType location device s = some t) :
    t = s := by
  unfold processDevice at h
  split at h
  · exact (Option.some.inj h).symm
  · rename_i prop hprop
    rw [if_neg fun heq => hne (by rw [hprop, heq])] at h
    exact (Option.some.inj h).symm

/-- Devices at which nothing happens. -/
theorem foldlM_processDevice_quiet
    (hquiet : ∀ d ∈ nodes, ∀ t, processDevice udn (some type) location d s = some t → t = s)
    (h : nodes.foldlM (fun s d => processDevice udn (some type) location d s) s = some t) : t = s := by
  induction nodes with
  | nil => exact (Option.some.inj h).symm
  | cons d nodes ih =>
    rw [List.foldlM_cons] at h
    obtain ⟨u, hu, hrest⟩ := Option.bind_eq_some_iff.1 h
    obtain rfl := hquiet d List.mem_cons_self u hu
    exact ih (fun d' hd' => hquiet d' (List.mem_cons_of_mem d hd')) hrest

/-- Where one device only has the UDN, only this one counts. -/
theorem foldlM_processDevice (hs : ¬ s.HasProxy (udn, some type))
    (hudn : getChildElementContent device "UDN".toList = some udn)
    (hunique : ∀ d ∈ nodes, getChildElementContent d "UDN".toList = some udn → d = device)
    (hmem : device ∈ nodes)
    (h : nodes.foldlM (fun s d => processDevice udn (some type) location d s) s = some t) :
    t = match foundIn type device with
      | none => s
      | some element => addProxy (udn, some type) location element s := by
  cases hfound : foundIn type device with
  | none =>
    refine foldlM_processDevice_quiet (fun d hd t ht => ?_) h
    by_cases heq : getChildElementContent d "UDN".toList = some udn
    · obtain rfl := hunique d hd heq
      have := processDevice_eq hudn hs ht
      rwa [hfound] at this
    · exact processDevice_of_ne heq ht
  | some element =>
    induction nodes with
    | nil => cases hmem
    | cons d nodes ih =>
      rw [List.foldlM_cons] at h
      obtain ⟨u, hu, hrest⟩ := Option.bind_eq_some_iff.1 h
      by_cases heq : getChildElementContent d "UDN".toList = some udn
      · obtain rfl := hunique d List.mem_cons_self heq
        have hstep := processDevice_eq hudn hs hu
        rw [hfound] at hstep
        subst hstep
        exact foldlM_processDevice_quiet (fun d _ t ht =>
          processDevice_of_hasProxy ((hasProxy_addProxy_iff _).2 (.inr rfl)) ht) hrest
      · obtain rfl := processDevice_of_ne heq hu
        refine ih (fun d hd => hunique d (List.mem_cons_of_mem _ hd)) ?_ hrest
        rcases List.mem_cons.1 hmem with rfl | hmem
        · exact absurd hudn heq
        · exact hmem

end

/-! ## From device to device -/

/-- The application gets from one device to another, by the lists of devices. -/
inductive Reaches (factory : ResourceFactory) (target : DeviceInfo.DeviceProxy) :
    DeviceInfo.DeviceProxy → Prop
  | refl : Reaches factory target target
  | next {info child : DeviceInfo.DeviceProxy} {devices : List DeviceInfo.DeviceProxy} :
      listDevices factory info = some devices → child ∈ devices → Reaches factory target child →
      Reaches factory target info

section
variable {factory : ResourceFactory} {info info' : DeviceInfo.DeviceProxy} {device element : Node}

/-- The devices of the list are those embedded in the element. -/
theorem listDevices_spec (factory : ResourceFactory) (h : Named info.element) : ∃ devices,
    listDevices factory info = some devices ∧ ∀ child, child ∈ devices ↔
      ∃ list node, getElement info.element ["deviceList".toList] = some list ∧
        node ∈ list.children ∧ node.name = some "device".toList ∧
          child = createDeviceInstance factory info node := by
  unfold listDevices listedIn
  cases hlist : getElement info.element ["deviceList".toList] with
  | none =>
    refine ⟨[], rfl, fun child => ⟨nofun, ?_⟩⟩
    rintro ⟨list, node, hlist', -⟩
    cases hlist'
  | some list =>
    have hnamed := h "deviceList".toList List.mem_cons_self list hlist
    dsimp only
    rw [childrenNamed_of_named hnamed]
    refine ⟨_, rfl, fun child => ?_⟩
    rw [List.mem_reverse, List.mem_map]
    constructor
    · rintro ⟨node, hnode, rfl⟩
      obtain ⟨hnode, hname⟩ := List.mem_filter.1 hnode
      exact ⟨list, node, rfl, hnode, of_decide_eq_true hname, rfl⟩
    · rintro ⟨list', node, hlist', hnode, hname, rfl⟩
      obtain rfl := Option.some.inj hlist'
      exact ⟨node, List.mem_filter.2 ⟨hnode, decide_eq_true hname⟩, rfl⟩

/-- Every device of the tree is reached. -/
theorem reaches_of_inTree (hnamed : ∀ d, InTree d info.element → Named d)
    (h : InTree device info.element) :
    ∃ target, Reaches factory target info ∧ target.element = device := by
  generalize helement : info.element = element at h
  induction h generalizing info with
  | self => exact ⟨info, .refl, helement⟩
  | @embedded element list child hlist hchild hname _ ih =>
    subst helement
    obtain ⟨devices, hdevices, hmem⟩ := listDevices_spec factory (hnamed _ .self)
    have hin := (hmem (createDeviceInstance factory info child)).2 ⟨list, child, hlist, hchild, hname, rfl⟩
    obtain ⟨target, hreach, htarget⟩ := ih
      (fun d hd => hnamed d (.embedded hlist hchild hname hd))
      (show (createDeviceInstance factory info child).element = child from rfl)
    exact ⟨target, .next hdevices hin hreach, htarget⟩

/-- What is reached is in the tree, and its UDN is that of its element. -/
theorem inTree_of_reaches (hnamed : ∀ d, InTree d info.element → Named d)
    (hudn : info.getUdn = getChildElementContent info.element "UDN".toList)
    (h : Reaches factory info' info) : InTree info'.element info.element ∧
      info'.location = info.location ∧
      info'.getUdn = getChildElementContent info'.element "UDN".toList := by
  induction h with
  | refl => exact ⟨.self, rfl, hudn⟩
  | @next info child devices hdevices hin _ ih =>
    obtain ⟨devices', hdevices', hmem⟩ := listDevices_spec factory (hnamed _ .self)
    obtain rfl : devices' = devices := Option.some.inj (hdevices'.symm.trans hdevices)
    obtain ⟨list, node, hlist, hnode, hname, rfl⟩ := (hmem child).1 hin
    obtain ⟨htree, hlocation, hown⟩ :=
      ih (fun d hd => hnamed d (.embedded hlist hnode hname hd)) rfl
    exact ⟨.embedded hlist hnode hname htree, hlocation, hown⟩

/-- Without CDATA blocks the loop for one child ends. -/
theorem findOfType_eq {childName typeName type : Str} {nodes : List Node}
    (h : ∀ child ∈ nodes, child.name.isSome) : findOfType childName typeName type nodes =
      some (nodes.find? (isOfType childName typeName (resourceTypeMatch type))) := by
  induction nodes with
  | nil => rfl
  | cons child rest ih =>
    have hrest := ih fun c hc => h c (List.mem_cons_of_mem child hc)
    obtain ⟨name, hname⟩ := Option.isSome_iff_exists.1 (h child List.mem_cons_self)
    have hstep : findOfType childName typeName type (child :: rest) =
        if isOfType childName typeName (resourceTypeMatch type) child then some (some child)
        else findOfType childName typeName type rest := by
      unfold isOfType
      rw [findOfType, hname]
      dsimp only
      by_cases heq : name = childName
      · rw [if_pos heq, heq, beq_self_eq_true, Bool.true_and]
        cases getChildElementContent child typeName <;> rfl
      · have hbeq : (some name == some childName) = false :=
          beq_eq_false_iff_ne.2 fun hx => heq (Option.some.inj hx)
        rw [if_neg heq, hbeq, Bool.false_and]
        rfl
    rw [hstep]
    by_cases hmatch : isOfType childName typeName (resourceTypeMatch type) child = true
    · rw [if_pos hmatch, List.find?_cons_of_pos hmatch]
    · rw [if_neg hmatch, List.find?_cons_of_neg hmatch]
      exact hrest

/-- What is asked for by its type: the first child of the list that matches. -/
theorem getService_eq (h : Named info.element) (type : Str) : getService factory info type =
    some (((getElement info.element ["serviceList".toList]).bind fun list =>
      list.children.find? (isService (resourceTypeMatch type))).map
        (createServiceInstance factory info)) := by
  unfold getService
  cases hlist : getElement info.element ["serviceList".toList] with
  | none => rfl
  | some list =>
    dsimp only
    rw [findOfType_eq (h _ (by simp) list hlist)]
    rfl

theorem getDevice_eq (h : Named info.element) (type : Str) : getDevice factory info type =
    some (((getElement info.element ["deviceList".toList]).bind fun list =>
      list.children.find? (isOfType "device".toList "deviceType".toList
        (resourceTypeMatch type))).map (createDeviceInstance factory info)) := by
  unfold getDevice
  cases hlist : getElement info.element ["deviceList".toList] with
  | none => rfl
  | some list =>
    dsimp only
    rw [findOfType_eq (h _ (by simp) list hlist)]
    rfl

/-- A service that is asked for by its type is one of the services. -/
theorem mem_listServices (h : Named info.element) {type : Str} {service : DeviceInfo.ServiceProxy}
    (hservice : getService factory info type = some (some service)) :
    ∃ services, listServices factory info = some services ∧ service ∈ services := by
  rw [getService_eq h, Option.some.injEq, Option.map_eq_some_iff] at hservice
  obtain ⟨node, hnode, rfl⟩ := hservice
  obtain ⟨list, hlist, hfind⟩ := Option.bind_eq_some_iff.1 hnode
  unfold listServices listedIn
  rw [hlist]
  dsimp only
  rw [childrenNamed_of_named (h _ (by simp) list hlist)]
  refine ⟨_, rfl, List.mem_reverse.2 (List.mem_map_of_mem (List.mem_filter.2 ?_))⟩
  have hof := List.find?_some hfind
  unfold isService isOfType at hof
  rw [Bool.and_eq_true, beq_iff_eq] at hof
  exact ⟨List.mem_of_find?_eq_some hfind, decide_eq_true hof.1⟩

/-- A device that is asked for by its type is one of the devices. -/
theorem mem_listDevices (h : Named info.element) {type : Str} {child : DeviceInfo.DeviceProxy}
    (hchild : getDevice factory info type = some (some child)) :
    ∃ devices, listDevices factory info = some devices ∧ child ∈ devices := by
  rw [getDevice_eq h, Option.some.injEq, Option.map_eq_some_iff] at hchild
  obtain ⟨node, hnode, rfl⟩ := hchild
  obtain ⟨list, hlist, hfind⟩ := Option.bind_eq_some_iff.1 hnode
  have hof := List.find?_some hfind
  unfold isOfType at hof
  rw [Bool.and_eq_true, beq_iff_eq] at hof
  obtain ⟨devices, hdevices, hmem⟩ := listDevices_spec factory h
  exact ⟨devices, hdevices,
    (hmem _).2 ⟨list, node, hlist, List.mem_of_find?_eq_some hfind, hof.1, rfl⟩⟩

end

/-! ## Both ways -/

/-- A type with a name of less than 2^32 bytes and a version. -/
def Typed (type : Str) : Prop :=
  ∃ p v, IsTypeName p ∧ IntVersion v ∧ p.length < 2 ^ 32 ∧ type = withVersion p v

/-- The types of objects are registered for the type as a whole, not for versions of it. -/
def Versionless (factory : ResourceFactory) (type : Str) : Prop :=
  ∀ p v w, type = withVersion p v → factory.lookup (withVersion p w) = none

/-- What a document has to be like: one root device; no CDATA blocks beside it or in the lists; UDNs that
tell the devices apart; and services with types. -/
structure Navigable (doc element : Node) : Prop where
  root : ∃ root, getElement doc ["root".toList] = some root ∧
    getElement root ["device".toList] = some element ∧ Walkable root.children ∧
    ∀ child ∈ root.children, child.name = some "device".toList → child = element
  distinct : ∀ device device' udn, InTree device element → InTree device' element →
    getChildElementContent device "UDN".toList = some udn →
    getChildElementContent device' "UDN".toList = some udn → device = device'
  typed : ∀ device type, InTree device element → Offers device type → Typed type

section
variable {factory : ResourceFactory} {info : DeviceInfo.DeviceProxy} {doc device element : Node}
  {type type' udn location : Str} {s : ControlPointState}

theorem Typed.compare_eq (h : Typed type) (h' : Typed type') :
    compareServiceTypesVersioned type type' = resourceTypeMatch type type' := by
  obtain ⟨p, v, hp, hv, hlt, rfl⟩ := h
  obtain ⟨q, w, hq, hw, hlt', rfl⟩ := h'
  exact (agree_of_lt hp hq hv hw hlt hlt').1

/-- The two comparisons find the same service of a device. -/
theorem foundIn_eq (htyped : ∀ type', Offers device type' → Typed type') (h : Typed type) :
    foundIn type device = (getElement device ["serviceList".toList]).bind fun list =>
      list.children.find? (isService (resourceTypeMatch type)) := by
  unfold foundIn
  cases hlist : getElement device ["serviceList".toList] with
  | none => rfl
  | some list =>
    simp only [Option.bind_some]
    have hsame : ∀ child ∈ list.children, isService (compareServiceTypesVersioned type) child =
        isService (resourceTypeMatch type) child := by
      intro child hchild
      unfold isService isOfType
      by_cases hname : child.name = some "service".toList
      · cases hcontent : getChildElementContent child "serviceType".toList with
        | none => rfl
        | some childType =>
          dsimp only
          rw [h.compare_eq (htyped childType ⟨list, hlist, child, hchild, hname, hcontent⟩)]
      · rw [beq_eq_false_iff_ne.2 hname, Bool.false_and, Bool.false_and]
    generalize list.children = nodes at hsame ⊢
    induction nodes with
    | nil => rfl
    | cons child rest ih =>
      rw [List.find?_cons, List.find?_cons, hsame child List.mem_cons_self,
        ih fun c hc => hsame c (List.mem_cons_of_mem child hc)]

theorem Navigable.named (h : Navigable doc element) (hin : InTree device element) : Named device := by
  obtain ⟨root, -, helement, hw, -⟩ := h.root
  rw [getElement_singleton] at helement
  have hname : element.name = some "device".toList := by simpa using List.find?_some helement
  exact hw.devices device ⟨element, mem_of_firstNamed helement, hname, hin⟩

theorem Navigable.descriptionLoaded (h : Navigable doc element) (hin : InTree device element)
    (hudn : getChildElementContent device "UDN".toList = some udn)
    (hs : ¬ s.HasProxy (udn, some type)) :
    ∃ t, descriptionLoaded udn (some type) location doc s = some t ∧ t.findService udn type =
      (foundIn type device).map fun element => ⟨element, udn, type, location⟩ := by
  obtain ⟨root, hroot, helement, hw, honly⟩ := h.root
  rw [getElement_singleton] at helement
  have hname : element.name = some "device".toList := by simpa using List.find?_some helement
  have htrees : ∀ d, d ∈ postorder root.children ↔ InTree d element := by
    intro d
    rw [mem_postorder]
    constructor
    · rintro ⟨child, hchild, hcname, hd⟩
      exact honly child hchild hcname ▸ hd
    · exact fun hd => ⟨element, mem_of_firstNamed helement, hname, hd⟩
  obtain ⟨t, ht⟩ : ∃ t, ControlPoint.descriptionLoaded udn (some type) location doc s = some t :=
    exists_descriptionLoaded hroot hw s
  refine ⟨t, ht, ?_⟩
  unfold ControlPoint.descriptionLoaded at ht
  rw [hroot] at ht
  dsimp only at ht
  rw [processDeviceList_eq] at ht
  rw [foldlM_processDevice hs hudn
    (fun d hd heq => h.distinct d device udn ((htrees d).1 hd) hin heq hudn)
    ((htrees device).2 hin) (foldlM_postorder _ _ _ ht)]
  cases foundIn type device with
  | none => exact findService_of_not_hasProxy hs
  | some element => exact findService_addProxy

/-- Types that are registered for all versions give the same object for each of them. -/
theorem Versionless.lookup_eq (h : Versionless factory type) (ht : Typed type) (ht' : Typed type')
    (hmatch : resourceTypeMatch type type' = true) (fallback : ProxyType) :
    DeviceInfo.lookupType factory fallback type' = DeviceInfo.lookupType factory fallback type := by
  obtain ⟨p, v, hp, hv, -, rfl⟩ := ht
  obtain ⟨q, w, hq, hw, hlt, rfl⟩ := ht'
  obtain ⟨rfl, -⟩ := (match_iff_of_lt hp hq hv hw hlt).1 hmatch
  unfold DeviceInfo.lookupType
  rw [h p v v rfl, h p v w rfl, strrchr_withVersion hv.toVersion, strrchr_withVersion hw.toVersion]

/-- From the proxy of the root device an application gets, by the lists of devices, to exactly the
devices of the document, and there it finds for the type of a service the element for which the control
point makes a proxy when that service of that device is announced, or neither finds one. The two proxies
have the same UDN, location and, where the factory does not tell versions apart, the same type. -/
theorem navigation_agrees (h : Navigable doc element) (top : DeviceInfo.DeviceProxy)
    (htop : top.element = element)
    (hudn : top.getUdn = getChildElementContent element "UDN".toList) :
    (∀ device, InTree device element ↔ ∃ info, Reaches factory info top ∧ info.element = device) ∧
    ∀ info udn type s, Reaches factory info top → info.getUdn = some udn → Typed type →
      ¬ s.HasProxy (udn, some type) →
      ∃ found, getService factory info type = some found ∧
        (∃ t, descriptionLoaded udn (some type) top.location doc s = some t ∧ t.findService udn type =
          found.map fun service => ⟨service.element, udn, type, top.location⟩) ∧
        ∀ service ∈ found, service.udn = some udn ∧ service.location = top.location ∧
          (Versionless factory type → service.type = lookupTypeWithFallback factory (some type)
            "serviceType".toList service.element .serviceProxy) := by
  subst htop
  have hnamed : ∀ d, InTree d top.element → Named d := fun d hd => h.named hd
  refine ⟨fun device => ⟨fun hin => reaches_of_inTree hnamed hin, ?_⟩, ?_⟩
  · rintro ⟨info, hreach, rfl⟩
    exact (inTree_of_reaches hnamed hudn hreach).1
  intro info udn type s hreach hget htype hs
  obtain ⟨hin, hlocation, hown⟩ := inTree_of_reaches hnamed hudn hreach
  have hcontent : getChildElementContent info.element "UDN".toList = some udn := hown.symm.trans hget
  have hoffers : ∀ type', Offers info.element type' → Typed type' := fun type' =>
    h.typed info.element type' hin
  refine ⟨_, getService_eq (h.named hin) type, ?_, ?_⟩
  · obtain ⟨t, ht, hfind⟩ : ∃ t, descriptionLoaded udn (some type) top.location doc s = some t ∧
        t.findService udn type = (foundIn type info.element).map fun element =>
          ⟨element, udn, type, top.location⟩ := h.descriptionLoaded hin hcontent hs
    refine ⟨t, ht, ?_⟩
    rw [hfind, foundIn_eq hoffers htype, Option.map_map]
    rfl
  · intro service hservice
    obtain ⟨node, hnode, rfl⟩ := Option.map_eq_some_iff.1 hservice
    refine ⟨hget, hlocation, fun hfactory => ?_⟩
    obtain ⟨list, hlist, hfind⟩ := Option.bind_eq_some_iff.1 hnode
    have hof := List.find?_some hfind
    unfold isService isOfType at hof
    rw [Bool.and_eq_true, beq_iff_eq] at hof
    obtain ⟨hname, hmatch⟩ := hof
    cases hnodeType : getChildElementContent node "serviceType".toList with
    | none =>
      rw [hnodeType] at hmatch
      cases hmatch
    | some nodeType =>
      rw [hnodeType] at hmatch
      have hnodeTyped := hoffers nodeType
        ⟨list, hlist, node, List.mem_of_find?_eq_some hfind, hname, hnodeType⟩
      have heq := hfactory.lookup_eq htype hnodeTyped hmatch .serviceProxy
      show lookupTypeWithFallback factory none "serviceType".toList node .serviceProxy = _
      unfold lookupTypeWithFallback
      rw [hnodeType]
      exact heq

end

theorem navigable_sample : Navigable (.document [sampleRoot "uuid:1"]) (sampleDevice "uuid:1") where
  root := ⟨sampleRoot "uuid:1", rfl, rfl, walkable_sampleRoot "uuid:1", fun _ hchild _ =>
    List.mem_singleton.1 hchild⟩
  distinct device device' _ h h' _ _ := by rw [inTree_sampleDevice h, inTree_sampleDevice h']
  typed device type h htype := by
    rw [inTree_sampleDevice h] at htype
    rw [offers_sampleDevice htype]
    exact ⟨"urn:schemas-upnp-org:service:SwitchPower".toList, ['1'],
      ⟨"schemas-upnp-org".toList, "service".toList, "SwitchPower".toList, by decide, by decide,
        by decide, by decide⟩, intVersion_one, by decide, by decide⟩

/-- The control point and the application get to the same service. -/
theorem navigation_agrees_sample : ∃ service t,
    getService ∅ ⟨.deviceProxy, sampleDevice "uuid:1", none, "http://a".toList⟩
        "urn:schemas-upnp-org:service:SwitchPower:1".toList = some (some service) ∧
      descriptionLoaded "uuid:1".toList (some "urn:schemas-upnp-org:service:SwitchPower:1".toList)
          "http://a".toList (.document [sampleRoot "uuid:1"]) .init = some t ∧
      t.findService "uuid:1".toList "urn:schemas-upnp-org:service:SwitchPower:1".toList =
        some ⟨service.element, "uuid:1".toList,
          "urn:schemas-upnp-org:service:SwitchPower:1".toList, "http://a".toList⟩ := by
  have htyped := navigable_sample.typed _ "urn:schemas-upnp-org:service:SwitchPower:1".toList .self
    ⟨_, rfl, _, List.mem_cons_self, rfl, by decide⟩
  obtain ⟨found, hfound, ⟨t, ht, hproxy⟩, -⟩ := (@navigation_agrees ∅ _ _ navigable_sample
    ⟨.deviceProxy, sampleDevice "uuid:1", none, "http://a".toList⟩ rfl rfl).2 _ _ _ .init .refl
    (udn_sampleDevice "uuid:1") htyped nofun
  obtain ⟨service, hservice⟩ := Option.isSome_iff_exists.1
    (show found.isSome by
      rw [← Option.some.inj hfound]
      decide)
  rw [hservice] at hfound hproxy
  exact ⟨service, t, hfound, ht, hproxy⟩

end GUPnP.Discovery
