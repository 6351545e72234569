import GUPnP.Xml.Node

/-!
# The root device (`gupnp-root-device.c`)

What a root device registers with its resource group, for SSDP to announce: a target and a USN for the
root device, and for each device and service of its description document. The loops over the devices and
services compare the name of each node with `strcmp` and fail on a CDATA block.
-/

set_option autoImplicit false

namespace GUPnP.RootDevice

open Xml

/-- A resource of a `GSSDPResourceGroup`. -/
structure Registration where
  target : Str
  usn : Str
  deriving DecidableEq, Repr

/-- The UDN and the type of a device; without them `fill_resource_group` registers nothing. -/
def udnAndType (element : Node) : Option (Str × Str) :=
  (getChildElementContent element "UDN".toList).bind fun udn =>
    (getChildElementContent element "deviceType".toList).map fun deviceType => (udn, deviceType)

/-- The device itself in `fill_resource_group`. -/
def deviceResources (udn deviceType : Str) : List Registration :=
  [⟨udn, udn⟩, ⟨deviceType, udn ++ "::".toList ++ deviceType⟩]

/-- A service of the device. -/
def serviceResource (udn : Str) (child : Node) : Option Registration :=
  (getChildElementContent child "serviceType".toList).map fun serviceType =>
    ⟨serviceType, udn ++ "::".toList ++ serviceType⟩

/-- The services of a device in `fill_resource_group`. -/
def serviceResources (udn : Str) (element : Node) : Option (List Registration) :=
  match getElement element ["serviceList".toList] with
  | none => some []
  | some child =>
    (childrenNamed "service".toList child).map fun nodes => nodes.filterMap (serviceResource udn)

mutual

/-- `fill_resource_group`, which leaves out what is below a device without a UDN or device type. -/
def fillResourceGroup : Node → Option (List Registration)
  | .element name attributes children =>
    match udnAndType (.element name attributes children) with
    | none => some []
    | some (udn, deviceType) => do
      let services ← serviceResources udn (.element name attributes children)
      let embedded ← fillDeviceList children
      some (deviceResources udn deviceType ++ services ++ embedded)
  | _ => some []

/-- The search for the `deviceList` among the children of a device. -/
def fillDeviceList : List Node → Option (List Registration)
  | [] => some []
  | child :: rest =>
    if child.name = some "deviceList".toList then fillDevices child else fillDeviceList rest

/-- The embedded devices. -/
def fillDevices : Node → Option (List Registration)
  | .document children => fillEach children
  | .element _ _ children => fillEach children
  | _ => some []

/-- Their loop. -/
def fillEach : List Node → Option (List Registration)
  | [] => some []
  | child :: rest =>
    match child.name with
    | none => none
    | some name =>
      if name = "device".toList then do
        let resources ← fillResourceGroup child
        let others ← fillEach rest
        some (resources ++ others)
      else fillEach rest

end

/-- The USN of the root device. A missing UDN is printed as `(null)`. -/
def rootResource (element : Node) : Registration :=
  let udn := (getChildElementContent element "UDN".toList).getD "(null)".toList
  ⟨"upnp:rootdevice".toList, udn ++ "::upnp:rootdevice".toList⟩

/-- The part of `gupnp_root_device_initable_init` that fills the resource group, for a document with a
root device. -/
def registerResources (doc : Node) : Option (List Registration) :=
  (getElement doc ["root".toList]).bind fun rootElement =>
    (getElement rootElement ["device".toList]).bind fun element =>
      (fillResourceGroup element).map fun resources => rootResource element :: resources

end GUPnP.RootDevice
