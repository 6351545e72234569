import GUPnP.Base.Table
import GUPnP.DeviceInfo.Model
import GUPnP.Xml.Node

/-!
# From a device to its devices and services (`gupnp-device-info.c`, `gupnp-device-proxy.c`)

A device proxy makes new proxies for the devices and services that its element contains. The type of
the object comes from the factory (`gupnp-resource-factory.c`), by the type of the device or service and
then by that type without its version.

The loops compare the name of each child with `strcmp`, which fails on a CDATA block, so their functions
return an `Option`; those that look for one child stop there.
-/

set_option autoImplicit false

namespace GUPnP.DeviceInfo

open Xml

/-! ## Types -/

/-- A `GType`: `GUPNP_TYPE_DEVICE_PROXY`, `GUPNP_TYPE_SERVICE_PROXY` or what the application
registered. -/
inductive ProxyType where
  | deviceProxy
  | serviceProxy
  | registered (n : Nat)
  deriving DecidableEq, Repr

/-- `proxy_type_hash` of a `GUPnPResourceFactory`. -/
abbrev ResourceFactory := Table Str ProxyType

/-- `GUPnPDeviceProxy` -/
structure DeviceProxy where
  type : ProxyType
  element : Node
  udn : Option Str
  location : Str

/-- `GUPnPServiceProxy` as a service info. -/
structure ServiceProxy where
  type : ProxyType
  element : Node
  udn : Option Str
  serviceType : Option Str
  location : Str

/-! ## The factory -/

/-- The part of `lookup_type_with_fallback` after the type is known. -/
def lookupType (types : ResourceFactory) (fallback : ProxyType) (upnpType : Str) : ProxyType :=
  match types.lookup upnpType with
  | some type => type
  | none =>
    match CString.strrchr ':' upnpType with
    | some (versionless, _) => (types.lookup versionless).getD fallback
    | none => fallback

/-- `lookup_type_with_fallback`. -/
def lookupTypeWithFallback (types : ResourceFactory) (requestedType : Option Str) (childNode : Str)
    (element : Node) (fallback : ProxyType) : ProxyType :=
  match requestedType.or (getChildElementContent element childNode) with
  | some upnpType => lookupType types fallback upnpType
  | none => fallback

/-- `gupnp_resource_factory_create_device_proxy`. -/
def createDeviceProxy (factory : ResourceFactory) (element : Node) (udn : Option Str)
    (location : Str) : DeviceProxy :=
  ⟨lookupTypeWithFallback factory none "deviceType".toList element .deviceProxy, element, udn,
    location⟩

/-- `gupnp_resource_factory_create_service_proxy`. -/
def createServiceProxy (factory : ResourceFactory) (element : Node) (udn serviceType : Option Str)
    (location : Str) : ServiceProxy :=
  ⟨lookupTypeWithFallback factory serviceType "serviceType".toList element .serviceProxy, element,
    udn, serviceType, location⟩

/-! ## A device -/

/-- `gupnp_device_info_get_udn`. -/
def DeviceProxy.getUdn (info : DeviceProxy) : Option Str :=
  info.udn.or (getChildElementContent info.element "UDN".toList)

section
variable (factory : ResourceFactory) (info : DeviceProxy)

/-- `gupnp_device_proxy_get_device`. -/
def createDeviceInstance (element : Node) : DeviceProxy :=
  createDeviceProxy factory element none info.location

/-- `gupnp_device_proxy_get_service`. -/
def createServiceInstance (element : Node) : ServiceProxy :=
  createServiceProxy factory element info.getUdn none info.location

/-- The children with this name of the list with this name. -/
def listedIn (listName childName : Str) (element : Node) : Option (List Node) :=
  match getElement element [listName] with
  | none => some []
  | some list => childrenNamed childName list

/-- `gupnp_device_info_list_devices`, which prepends each device. -/
def listDevices : Option (List DeviceProxy) :=
  (listedIn "deviceList".toList "device".toList info.element).map fun children =>
    (children.map (createDeviceInstance factory info)).reverse

/-- `gupnp_device_info_list_services`. -/
def listServices : Option (List ServiceProxy) :=
  (listedIn "serviceList".toList "service".toList info.element).map fun children =>
    (children.map (createServiceInstance factory info)).reverse

/-- The loop for the first child with this name whose type matches. -/
def findOfType (childName typeName type : Str) : List Node → Option (Option Node)
  | [] => some none
  | child :: rest =>
    match child.name with
    | none => none
    | some name =>
      if name = childName then
        match getChildElementContent child typeName with
        | none => findOfType childName typeName type rest
        | some childType =>
          if resourceTypeMatch type childType then some (some child)
          else findOfType childName typeName type rest
      else findOfType childName typeName type rest

/-- `gupnp_device_info_get_device`. -/
def getDevice (type : Str) : Option (Option DeviceProxy) :=
  match getElement info.element ["deviceList".toList] with
  | none => some none
  | some list =>
    (findOfType "device".toList "deviceType".toList type list.children).map
      (Option.map (createDeviceInstance factory info))

/-- `gupnp_device_info_get_service`. -/
def getService (type : Str) : Option (Option ServiceProxy) :=
  match getElement info.element ["serviceList".toList] with
  | none => some none
  | some list =>
    (findOfType "service".toList "serviceType".toList type list.children).map
      (Option.map (createServiceInstance factory info))

end

end GUPnP.DeviceInfo
