import GUPnP.Base.CString
import GUPnP.Base.Table

/-!
# The NetworkManager context manager (`gupnp-network-manager.c`)

The manager follows the devices of NetworkManager over D-Bus. A device that is activated gets its
contexts, at once or, where it is a wireless one, when the proxy of its access point is there. A
device that leaves the activated state loses them.

A device object and a context are numbers, counted up. A device object lives while it is referenced.
The calls for proxies that are still running are kept in lists; once the manager is disposed of they
complete with `G_IO_ERROR_CANCELLED`.
-/

set_option autoImplicit false

namespace GUPnP.NetworkManager

/-! ## Types -/

/-- `GSocketFamily`. -/
inductive SocketFamily where
  | invalid
  | ipv4
  | ipv6
  deriving DecidableEq, Repr

/-- A `GVariant`, as far as the manager tells the types apart. -/
inductive Variant where
  | string (value : Str)
  | objectPath (value : Str)
  | uint32 (value : Nat)
  | other
  deriving DecidableEq, Repr

/-- `NM_OLD_DEVICE_STATE_ACTIVATED`. -/
def oldDeviceStateActivated : Nat := 8

/-- `NM_DEVICE_STATE_ACTIVATED`. -/
def deviceStateActivated : Nat := 100

def isActivated (state : Nat) : Bool :=
  state = oldDeviceStateActivated || state = deviceStateActivated

/-- `NM_DEVICE_TYPE_WIFI`. -/
def deviceTypeWifi : Nat := 2

/-- A `GUPnPContext`, by the properties it is created with. -/
structure Context where
  id : Nat
  interface : Str
  network : Option Str
  port : Nat
  addressFamily : SocketFamily
  deriving DecidableEq, Repr

/-- `NMDevice`; `managed` is whether `manager` is not `NULL`, `connected` whether the handler of the
`g-signal` of its proxy is connected. -/
structure NMDevice where
  refCount : Nat
  managed : Bool
  contexts : List Context
  objectPath : Str
  connected : Bool
  wifiProxy : Bool
  apProxy : Option Str
  deriving DecidableEq, Repr

/-- What a handler finds: the cached properties of the device and of access points, the properties of
the manager, and whether a context of a family can be initialised. -/
structure Environment where
  interface : Option Variant
  state : Option Variant
  activeAccessPoint : Option Variant
  ssid : Str → Option Str
  port : Nat
  socketFamily : SocketFamily
  initialised : SocketFamily → Bool

/-- How the call for a proxy completes. -/
inductive Completion where
  | created
  | failed
  | cancelled
  deriving DecidableEq, Repr

/-- In the log `true` stands for `context-available`. `reported` is the last state of each device,
which the manager does not keep. -/
structure ManagerState where
  devices : Table Nat NMDevice
  nextDevice : Nat
  nmDevices : List Nat
  wifiCalls : List Nat
  apCalls : List (Nat × Str)
  nextContext : Nat
  log : List (Nat × Bool)
  reported : Nat → Option Nat
  disposed : Bool

/-- A manager right after its construction. -/
def ManagerState.init : ManagerState := ⟨∅, 0, [], [], [], 0, [], fun _ => none, false⟩

def ManagerState.modifyDevice (id : Nat) (f : NMDevice → NMDevice) (s : ManagerState) :
    ManagerState :=
  { s with devices := s.devices.modify id f }

def ManagerState.emit (available : Bool) (contexts : List Context) (s : ManagerState) :
    ManagerState :=
  { s with log := s.log ++ contexts.map fun c => (c.id, available) }

/-- A device has this state now. -/
def ManagerState.report (id state : Nat) (s : ManagerState) : ManagerState :=
  { s with reported := fun id' => if id' = id then some state else s.reported id' }

/-! ## Device objects -/

/-- `nm_device_ref`. -/
def nmDeviceRef (id : Nat) (s : ManagerState) : ManagerState :=
  s.modifyDevice id fun device => { device with refCount := device.refCount + 1 }

/-- `nm_device_unref`. -/
def nmDeviceUnref (id : Nat) (s : ManagerState) : ManagerState :=
  match s.devices.lookup id with
  | none => s
  | some device =>
    if device.refCount ≠ 1 then
      s.modifyDevice id fun device => { device with refCount := device.refCount - 1 }
    else
      let s := if device.managed then s.emit false device.contexts else s
      { s with devices := s.devices.erase id }

/-! ## Contexts -/

/-- A context of one family, where it can be initialised. -/
def createContext (id : Nat) (iface : Str) (network : Option Str) (env : Environment)
    (family : SocketFamily) (s : ManagerState) : ManagerState :=
  if !env.initialised family then s
  else
    let context : Context := ⟨s.nextContext, iface, network, env.port, family⟩
    let s := { s with nextContext := s.nextContext + 1 }
    let s := s.emit true [context]
    s.modifyDevice id fun device => { device with contexts := context :: device.contexts }

/-- `create_context_for_device`. The SSID is copied up to the first zero byte. -/
def createContextForDevice (id : Nat) (device : NMDevice) (env : Environment) (s : ManagerState) :
    ManagerState :=
  match env.interface with
  | some (.string iface) =>
    let network := (device.apProxy.bind env.ssid).map fun ssid => ssid.takeWhile (· ≠ '\x00')
    let s :=
      if env.socketFamily = .invalid ∨ env.socketFamily = .ipv4 then
        createContext id iface network env .ipv4 s
      else s
    if env.socketFamily = .invalid ∨ env.socketFamily = .ipv6 then
      createContext id iface network env .ipv6 s
    else s
  | _ => s

/-! ## Activation -/

/-- `ap_proxy_new_cb`. -/
def apProxyNewCb (id : Nat) (path : Str) (completion : Completion) (env : Environment)
    (s : ManagerState) : ManagerState :=
  match completion with
  | .created =>
    let s := s.modifyDevice id fun device => { device with apProxy := some path }
    let s :=
      match s.devices.lookup id with
      | none => s
      | some device => createContextForDevice id device env s
    nmDeviceUnref id s
  | .failed => nmDeviceUnref id (s.modifyDevice id fun device => { device with apProxy := none })
  | .cancelled =>
    nmDeviceUnref id (s.modifyDevice id fun device =>
      { device with apProxy := none, managed := false })

/-- `on_wifi_device_activated`. A string of a variant is never `NULL`. -/
def onWifiDeviceActivated (id : Nat) (env : Environment) (s : ManagerState) : ManagerState :=
  match env.activeAccessPoint with
  | some (.objectPath path) => nmDeviceRef id { s with apCalls := s.apCalls ++ [(id, path)] }
  | _ => s

/-- `on_device_activated`. -/
def onDeviceActivated (id : Nat) (device : NMDevice) (env : Environment) (s : ManagerState) :
    ManagerState :=
  if device.wifiProxy then onWifiDeviceActivated id env s
  else createContextForDevice id device env s

/-- `on_device_signal`, of the signal `StateChanged`. -/
def onDeviceSignal (id : Nat) (device : NMDevice) (newState : Nat) (env : Environment)
    (s : ManagerState) : ManagerState :=
  let s := s.report id newState
  if isActivated newState then onDeviceActivated id device env s
  else
    let s := s.emit false device.contexts
    s.modifyDevice id fun device => { device with contexts := [] }

/-- `use_new_device`. -/
def useNewDevice (id : Nat) (env : Environment) (s : ManagerState) : ManagerState :=
  let s := nmDeviceRef id { s with nmDevices := s.nmDevices ++ [id] }
  let s := s.modifyDevice id fun device => { device with connected := true }
  match env.state, s.devices.lookup id with
  | some (.uint32 state), some device =>
    let s := s.report id state
    if isActivated state then onDeviceActivated id device env s else s
  | _, _ => s

/-! ## Devices come and go -/

/-- `wifi_proxy_new_cb`. -/
def wifiProxyNewCb (id : Nat) (completion : Completion) (env : Environment) (s : ManagerState) :
    ManagerState :=
  match completion with
  | .created =>
    let s := s.modifyDevice id fun device => { device with wifiProxy := true }
    nmDeviceUnref id (useNewDevice id env s)
  | .failed => nmDeviceUnref id s
  | .cancelled => nmDeviceUnref id (s.modifyDevice id fun device => { device with managed := false })

/-- `nm_device_new`. -/
def nmDeviceNew (objectPath : Str) : NMDevice := ⟨1, true, [], objectPath, false, false, none⟩

/-- `device_proxy_new_cb`, of a call that succeeded. -/
def deviceProxyNewCb (objectPath : Str) (deviceType : Option Variant) (env : Environment)
    (s : ManagerState) : ManagerState :=
  match deviceType with
  | some (.uint32 type) =>
    let id := s.nextDevice
    let s := { s with nextDevice := id + 1, devices := s.devices.insert id (nmDeviceNew objectPath) }
    let s :=
      if type = deviceTypeWifi then nmDeviceRef id { s with wifiCalls := s.wifiCalls ++ [id] }
      else useNewDevice id env s
    nmDeviceUnref id s
  | _ => s

/-- `compare_device_path`. -/
def hasDevicePath (s : ManagerState) (objectPath : Str) (id : Nat) : Bool :=
  (s.devices.lookup id).any fun device => device.objectPath = objectPath

/-- `on_manager_signal`, of the signal `DeviceRemoved`. -/
def onDeviceRemoved (objectPath : Str) (s : ManagerState) : ManagerState :=
  match s.nmDevices.find? (hasDevicePath s objectPath) with
  | none => s
  | some id => nmDeviceUnref id { s with nmDevices := s.nmDevices.erase id }

/-- `gupnp_network_manager_dispose`. -/
def dispose (s : ManagerState) : ManagerState :=
  { s.nmDevices.foldl (fun s id => nmDeviceUnref id s) s with nmDevices := [], disposed := true }

/-! ## Steps -/

/-- A call for the proxy of a device or for the `i`th of the running calls for wireless proxies and for
access points completes, a device signals its state, NetworkManager removes a device, or the manager is
disposed of. -/
inductive Event where
  | deviceProxyNew (objectPath : Str) (deviceType : Option Variant) (env : Environment)
  | wifiProxyNew (i : Nat) (completion : Completion) (env : Environment)
  | apProxyNew (i : Nat) (completion : Completion) (env : Environment)
  | stateChanged (id newState : Nat) (env : Environment)
  | deviceRemoved (objectPath : Str)
  | dispose

/-- A call is cancelled if the manager is disposed of, and otherwise completes. -/
def completes (s : ManagerState) (completion : Completion) : Bool :=
  s.disposed == decide (completion = .cancelled)

/-- After its disposal nothing reaches the manager but the calls that were running. -/
def step (s : ManagerState) : Event → Option ManagerState
  | .deviceProxyNew objectPath deviceType env =>
    if s.disposed then none else some (deviceProxyNewCb objectPath deviceType env s)
  | .wifiProxyNew i completion env => do
    let id ← s.wifiCalls[i]?
    if completes s completion then
      some (wifiProxyNewCb id completion env { s with wifiCalls := s.wifiCalls.eraseIdx i })
    else none
  | .apProxyNew i completion env => do
    let (id, path) ← s.apCalls[i]?
    if completes s completion then
      some (apProxyNewCb id path completion env { s with apCalls := s.apCalls.eraseIdx i })
    else none
  | .stateChanged id newState env => do
    let device ← s.devices.lookup id
    if device.connected && !s.disposed then some (onDeviceSignal id device newState env s) else none
  | .deviceRemoved objectPath => if s.disposed then none else some (onDeviceRemoved objectPath s)
  | .dispose => if s.disposed then none else some (dispose s)

end GUPnP.NetworkManager
