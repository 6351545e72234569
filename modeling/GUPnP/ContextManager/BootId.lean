import GUPnP.ContextManager.Model

/-!
# Boot ids (`gupnp-context-manager.c`)

When a context comes or goes the manager gives the clients of its root devices a new boot-id. A root
device is a number; it lives while the application holds it or the manager does for its context.
`gssdp_resource_group_update` and `gssdp_client_set_boot_id` set the boot-id of a client.
-/

set_option autoImplicit false

namespace GUPnP.ContextManager

/-- `g_ptr_array_remove_fast`: the last element takes the place of the one that is removed. -/
def removeFast (x : Nat) (array : List Nat) : List Nat :=
  match array.idxOf? x, array.getLast? with
  | some i, some last => (array.set i last).dropLast
  | _, _ => array

/-- `objects` are the root devices in the values of the hash table `contexts`, each under the context
it is for, and `rootDevices` is the array of them. `held` are those the application has a reference
of. -/
structure BootState where
  manager : ManagerState
  uda10 : Bool
  bootId : Int
  clientBootId : Context → Int
  contextOf : Nat → Context
  held : Nat → Bool
  objects : List Nat
  rootDevices : List Nat

/-- A manager right after its construction at the time `now`, with this filter. The application
holds the devices it creates. -/
def BootState.init (filter : ContextFilter) (uda10 : Bool) (now : Int)
    (clientBootId : Context → Int) (contextOf : Nat → Context) : BootState where
  manager := { ManagerState.init with filter := filter }
  uda10 := uda10
  bootId := now
  clientBootId := clientBootId
  contextOf := contextOf
  held _ := true
  objects := []
  rootDevices := []

/-! ## The life of root devices -/

/-- The device is finalized: each weak reference removes it from the array once. -/
def finalizeDevice (d : Nat) (s : BootState) : BootState :=
  { s with rootDevices := Nat.repeat (removeFast d) (s.rootDevices.count d) s.rootDevices }

/-- What happens when a reference to the device was dropped. -/
def checkDevice (d : Nat) (s : BootState) : BootState :=
  if s.held d ∨ d ∈ s.objects then s else finalizeDevice d s

/-- The manager drops its reference. -/
def unrefDevice (s : BootState) (d : Nat) : BootState :=
  checkDevice d { s with objects := s.objects.erase d }

/-- `g_hash_table_remove (priv->contexts, context)` drops the devices of the context. -/
def dropObjects (c : Context) (s : BootState) : BootState :=
  (s.objects.filter fun d => s.contextOf d = c).foldl unrefDevice s

/-- `gupnp_context_manager_manage_root_device`. -/
def manageRootDevice (d : Nat) (s : BootState) : BootState :=
  { s with manager := ensureContext (s.contextOf d) s.manager
           objects := s.objects ++ [d]
           rootDevices := s.rootDevices ++ [d] }

/-- The application drops its reference. -/
def releaseDevice (d : Nat) (s : BootState) : BootState :=
  checkDevice d { s with held := fun d' => if d' = d then false else s.held d' }

/-! ## The boot id -/

/-- The increment of a `gint32`, which wraps where the overflow is undefined in C. -/
def increment (n : Int) : Int := (n + 1).bmod (2 ^ 32)

/-- `gssdp_client_set_boot_id`. -/
def setBootId (c : Context) (bootId : Int) (s : BootState) : BootState :=
  { s with clientBootId := fun c' => if c' = c then bootId else s.clientBootId c' }

/-- `handle_update`. -/
def handleUpdate (p : BootState × Int) (d : Nat) : BootState × Int :=
  let c := p.1.contextOf d
  let bootId := increment (p.1.clientBootId c)
  (setBootId c bootId p.1, bootId)

/-- `do_boot_id_update_for_root_devices`. -/
def doBootIdUpdateForRootDevices (s : BootState) : BootState :=
  if s.uda10 then s
  else
    let (s, bootId) := s.rootDevices.foldl handleUpdate (s, -1)
    if bootId > 1 then { s with bootId := bootId } else s

/-! ## Steps -/

/-- `on_context_available`, and then the handlers of the application. A context that is filtered does
not get to the boot ids. -/
def contextAvailable (c : Context) (s : BootState) : BootState :=
  let stopped := s.manager.synthesizedInternal || (onContextAvailable c s.manager).1
  let s := { s with manager := emitAvailable c s.manager }
  if stopped then s
  else
    let s := doBootIdUpdateForRootDevices s
    setBootId c s.bootId s

/-- `on_context_unavailable`, and then the handlers of the application. A context that was filtered
does not get to the boot ids. -/
def contextUnavailable (c : Context) (s : BootState) : BootState :=
  if s.manager.synthesizedInternal then { s with manager := emitUnavailable c s.manager }
  else
    let stopped := (onContextUnavailable c s.manager).1
    let s := dropObjects c s
    let s := { s with manager := emitUnavailable c s.manager }
    if stopped then s else doBootIdUpdateForRootDevices s

/-- A context comes or goes, the application gives a root device to the manager or drops its own
reference. -/
inductive BootEvent where
  | contextAvailable (c : Context)
  | contextUnavailable (c : Context)
  | manageRootDevice (d : Nat)
  | releaseDevice (d : Nat)

/-- A device can be managed while it lives. -/
def bootStep (s : BootState) : BootEvent → Option BootState
  | .contextAvailable c => some (contextAvailable c s)
  | .contextUnavailable c => some (contextUnavailable c s)
  | .manageRootDevice d => if s.held d ∨ d ∈ s.objects then some (manageRootDevice d s) else none
  | .releaseDevice d => if s.held d then some (releaseDevice d s) else none

end GUPnP.ContextManager
