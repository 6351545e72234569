import GUPnP.Base.CString
import GUPnP.Base.Table

/-!
# The Linux context manager (`gupnp-linux-context-manager.c`)

The manager follows the network interfaces by netlink messages. It has a context for each address of
an interface and emits `context-available` and `context-unavailable` as interfaces go up and down and
addresses come and go. A context is a number, counted up with each that is created.
-/

set_option autoImplicit false

namespace GUPnP.LinuxContextManager

/-! ## Types -/

/-- `NetworkInterface`: its flags, and its contexts by address. -/
structure NetworkInterface where
  up : Bool
  ignore : Bool
  preconfigured : Bool
  contexts : Table Str Nat

/-- `RtmAddrInfo`, as far as it decides what happens; no address is `none`. -/
structure RtmAddrInfo where
  ifaIndex : Nat
  tentative : Bool
  deprecated : Bool
  ipString : Option Str

/-- `struct ifinfomsg`: the index and the flags `IFF_UP`, `IFF_MULTICAST`, `IFF_LOOPBACK` and
`IFF_POINTOPOINT`. -/
structure IfInfoMsg where
  ifiIndex : Nat
  up : Bool
  multicast : Bool
  loopback : Bool
  pointToPoint : Bool

/-- In the log `true` stands for `context-available`. -/
structure ManagerState where
  interfaces : Table Nat NetworkInterface
  nextContext : Nat
  log : List (Nat × Bool)
  disposed : Bool

/-- A manager right after its construction. -/
def ManagerState.init : ManagerState := ⟨∅, 0, [], false⟩

/-! ## Interfaces -/

/-- The interface with this index is now `device`. -/
def ManagerState.setDevice (index : Nat) (device : NetworkInterface) (s : ManagerState) :
    ManagerState :=
  { s with interfaces := s.interfaces.insert index device }

def ManagerState.emit (available : Bool) (contexts : List Nat) (s : ManagerState) : ManagerState :=
  { s with log := s.log ++ contexts.map fun c => (c, available) }

/-- `network_device_create_context`. `created` is whether the context could be initialised. The ESSID,
which names the network of the context, is left out. -/
def networkDeviceCreateContext (index : Nat) (device : NetworkInterface) (ipString : Str)
    (created : Bool) (s : ManagerState) : ManagerState :=
  if (device.contexts.lookup ipString).isSome then s
  else if !created then s
  else
    let context := s.nextContext
    let s := { s with nextContext := context + 1 }
    let s := s.setDevice index { device with contexts := device.contexts.insert ipString context }
    if device.up then s.emit true [context] else s

/-- `network_device_up`. -/
def networkDeviceUp (index : Nat) (device : NetworkInterface) (s : ManagerState) : ManagerState :=
  if device.up then s
  else
    let s := s.setDevice index { device with up := true }
    s.emit true device.contexts.values

/-- `network_device_down`. -/
def networkDeviceDown (index : Nat) (device : NetworkInterface) (s : ManagerState) : ManagerState :=
  if !device.up then s
  else
    let s := s.setDevice index { device with up := false }
    s.emit false device.contexts.values

/-- `network_device_free`: it withdraws every context of the interface. -/
def networkDeviceFree (device : NetworkInterface) (s : ManagerState) : ManagerState :=
  s.emit false device.contexts.values

/-! ## Messages -/

/-- `create_context`. -/
def createContext (info : RtmAddrInfo) (ipString : Str) (created : Bool) (s : ManagerState) :
    ManagerState :=
  match s.interfaces.lookup info.ifaIndex with
  | none => s
  | some device =>
    if device.ignore then s
    else networkDeviceCreateContext info.ifaIndex device ipString created s

/-- `remove_context`. -/
def removeContext (info : RtmAddrInfo) (ipString : Str) (s : ManagerState) : ManagerState :=
  match s.interfaces.lookup info.ifaIndex with
  | none => s
  | some device =>
    let s :=
      match device.contexts.lookup ipString with
      | some context => if device.up then s.emit false [context] else s
      | none => s
    let contexts : Table Str Nat := device.contexts.erase ipString
    s.setDevice info.ifaIndex { device with
      contexts := contexts
      preconfigured := device.preconfigured && !contexts.values.isEmpty }

/-- `INTERFACE_IS_VALID`. -/
def IfInfoMsg.isValid (ifi : IfInfoMsg) : Bool :=
  (ifi.multicast || ifi.loopback) && !ifi.pointToPoint

/-- `handle_device_status_change`. -/
def handleDeviceStatusChange (ifi : IfInfoMsg) (s : ManagerState) : ManagerState :=
  match s.interfaces.lookup ifi.ifiIndex with
  | some device =>
    if ifi.up then networkDeviceUp ifi.ifiIndex device s
    else networkDeviceDown ifi.ifiIndex device s
  | none =>
    s.setDevice ifi.ifiIndex
      { up := ifi.up, ignore := !ifi.isValid, preconfigured := false, contexts := ∅ }

/-- `remove_device`. -/
def removeDevice (index : Nat) (s : ManagerState) : ManagerState :=
  match s.interfaces.lookup index with
  | none => s
  | some device => networkDeviceFree device { s with interfaces := s.interfaces.erase index }

/-- `gupnp_linux_context_manager_dispose`: every interface of the table is freed. -/
def dispose (s : ManagerState) : ManagerState :=
  let s := s.interfaces.values.foldl (fun s device => networkDeviceFree device s) s
  { s with interfaces := ∅, disposed := true }

/-- The netlink messages, and the disposal of the manager. An RTM_NEWADDR comes with whether a context
can be created for it, an RTM_NEWLINK with whether it is about a wireless status only. -/
inductive Event where
  | newAddr (info : RtmAddrInfo) (created : Bool)
  | delAddr (info : RtmAddrInfo)
  | newLink (ifi : IfInfoMsg) (isWireless : Bool)
  | delLink (index : Nat)
  | dispose

/-- `receive_netlink_message`, for one message. -/
def step (s : ManagerState) (e : Event) : Option ManagerState :=
  if s.disposed then none
  else
    match e with
    | .newAddr info created =>
      if info.tentative then some s
      else if info.deprecated then some s
      else
        match info.ipString with
        | none => some s
        | some ipString => some (createContext info ipString created s)
    | .delAddr info =>
      match info.ipString with
      | none => some s
      | some ipString => some (removeContext info ipString s)
    | .newLink ifi isWireless =>
      if isWireless then some s else some (handleDeviceStatusChange ifi s)
    | .delLink index => some (removeDevice index s)
    | .dispose => some (dispose s)

end GUPnP.LinuxContextManager
