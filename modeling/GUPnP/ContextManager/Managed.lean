import GUPnP.ContextManager.Model
import GUPnP.Base.Refs
import GUPnP.Base.Signals

/-!
# Managed objects (`gupnp-context-manager.c`)

An application creates control points and root devices, hands them to the manager and drops its own
references; the manager drops the objects of a context with the context. The handlers of
`ContextManager.Model` are here again with the arrays of objects, which are the values of the hash table
of the contexts, and with the application's handlers of the two signals. These may create, hand over and
drop objects; they do not come back to the filter or to `dispose`.

The arrays `control_points` and `root_devices` own nothing: an object leaves them by a weak
notification when its last reference is dropped.
-/

set_option autoImplicit false

namespace GUPnP.ContextManager.Managing

/-! ## Types -/

/-- What can be managed. -/
inductive Kind where
  | controlPoint
  | rootDevice
  deriving DecidableEq, Repr

/-- A `GUPnPControlPoint` or a `GUPnPRootDevice`: its identity and its context. -/
structure Object where
  id : Nat
  kind : Kind
  context : Context
  deriving DecidableEq, Repr

/-- What the application does with an object: `dropped` is that it drops its own reference. -/
inductive Action where
  | create (o : Object)
  | manage (o : Object)
  | drop (o : Object)
  deriving DecidableEq, Repr

/-- What the application sees and does. -/
inductive Happening where
  | signal (c : Context) (available : Bool)
  | created (o : Object)
  | managed (o : Object)
  | dropped (o : Object)
  | disposed
  deriving DecidableEq, Repr

/-- The manager with its objects: `objects` is the array of a context, `refs` are the references that
matter here and the arrays `control_points` and `root_devices`, and `held` are the objects the
application has a reference of its own to. -/
structure State where
  manager : ManagerState
  objects : Context → List Object
  refs : Refs Object Kind
  held : List Object
  log : List Happening

def State.init : State := ⟨.init, fun _ => [], .empty, [], []⟩

/-- The application's handlers of the two signals. -/
abbrev Application := State → Context → Bool → List Action

def State.add (happening : Happening) (s : State) : State := { s with log := s.log ++ [happening] }

/-! ## The application -/

/-- The array of a context is freed; there is an empty one in its place, or none. -/
def releaseObjects (c : Context) (s : State) : State :=
  { s with refs := s.refs.unrefAll (s.objects c)
           objects := Function.update s.objects c [] }

/-- `gupnp_context_manager_manage_control_point` and `gupnp_context_manager_manage_root_device`. -/
def manage (o : Object) (s : State) : State :=
  let s := { s with manager := ensureContext o.context s.manager }
  let s := { s with refs := s.refs.ref o }
  let s := { s with objects := Function.update s.objects o.context (s.objects o.context ++ [o]) }
  { s with refs := s.refs.add o o.kind }.add (.managed o)

/-- An object is created once, managed while it and the manager are there, and dropped by who has a
reference. -/
def act (s : State) : Action → State
  | .create o =>
    if Happening.created o ∈ s.log then s
    else { s with refs := s.refs.ref o, held := o :: s.held }.add (.created o)
  | .manage o => if s.refs.refs o = 0 ∨ s.manager.disposed = true then s else manage o s
  | .drop o =>
    if o ∈ s.held then { s with refs := s.refs.unref o, held := s.held.erase o }.add (.dropped o)
    else s

/-- A signal reaches the application. -/
def signal (app : Application) (c : Context) (available : Bool) (s : State) : State :=
  let s := { s with manager := { s.manager with log := s.manager.log ++ [(c, available)] } }
  let s := s.add (.signal c available)
  (app s c available).foldl act s

/-! ## The signals -/

section
variable (app : Application)

/-- An emission of `context-available`. -/
def emitAvailable (c : Context) (s : State) : State :=
  let (stopped, manager) := onContextAvailable c s.manager
  let s := { s with manager := manager }
  if stopped then s else signal app c true s

/-- An emission of `context-unavailable`; the hash table frees the array of the context. -/
def emitUnavailable (c : Context) (s : State) : State :=
  let released := if s.manager.synthesizedInternal then s else releaseObjects c s
  let (stopped, manager) := onContextUnavailable c released.manager
  let s := { released with manager := manager }
  if stopped then s else signal app c false s

/-- An emission that the class handlers are to ignore. -/
def synthesize (emit : State → State) (s : State) : State :=
  let s := emit { s with manager := { s.manager with synthesizedInternal := true } }
  { s with manager := { s.manager with synthesizedInternal := false } }

/-! ## The notifications of the filter -/

def setActive (c : Context) (active : Bool) (s : State) : State :=
  { s with manager := s.manager.setActive c active }

/-- A context that is now filtered loses its objects before it is withdrawn. -/
def filterOut (c : Context) (s : State) : State :=
  let s := { s with manager := { s.manager with filtered := c :: s.manager.filtered } }
  let s := releaseObjects c s
  synthesize (fun s => emitUnavailable app c (setActive c false s)) s

/-- The body of the loop of `on_context_filter_change_cb` over the contexts. -/
def filterChangeStep (s : State) (c : Context) : State :=
  if contextFiltered s.manager.filter c then
    if c ∈ s.manager.filtered then s else filterOut app c s
  else if c ∈ s.manager.filtered then
    let s := { s with manager := { s.manager with filtered := s.manager.filtered.erase c } }
    synthesize (emitAvailable app c) (setActive c true s)
  else s

/-- `on_context_filter_change_cb`. -/
def onContextFilterChange (s : State) : State :=
  if s.manager.filter.enabled then s.manager.contexts.foldl (filterChangeStep app) s else s

/-- The body of the loop of `on_context_filter_enabled_cb` that flushes the list. -/
def flushStep (s : State) : State :=
  match s.manager.filtered with
  | [] => s
  | c :: _ =>
    let s := emitAvailable app c (setActive c true s)
    { s with manager := { s.manager with filtered := s.manager.filtered.tail } }

/-- The body of its loop over the contexts. -/
def filterEnabledStep (s : State) (c : Context) : State :=
  if contextFiltered s.manager.filter c then filterOut app c s else s

/-- `on_context_filter_enabled_cb`. -/
def onContextFilterEnabled (s : State) : State :=
  if !s.manager.filter.enabled then Nat.repeat (flushStep app) s.manager.filtered.length s
  else if s.manager.filter.isEmpty then s
  else s.manager.contexts.foldl (filterEnabledStep app) s

/-- A notification reaches its handler. -/
def notified (s : State) : FilterProperty → State
  | .enabled => onContextFilterEnabled app s
  | .entries => onContextFilterChange app s

/-! ## Steps -/

/-- `gupnp_context_manager_dispose`: the hash table frees its arrays, and then the manager frees
`control_points` and `root_devices`. -/
def dispose (s : State) : State :=
  let s := s.manager.contexts.foldl (fun s c => releaseObjects c s) s
  { s with manager := ContextManager.dispose s.manager, refs := s.refs.free }.add .disposed

/-- Something happens to the manager, or the application does something of its own accord. -/
inductive Event where
  | manager (e : ContextManager.Event)
  | action (a : Action)

def step (s : State) (e : Event) : Option State :=
  match e with
  | .action a => some (act s a)
  | .manager e =>
    if s.manager.disposed then none
    else
      match e with
      | .contextAvailable c => some (emitAvailable app c s)
      | .contextUnavailable c => some (emitUnavailable app c s)
      | .filter op =>
        let (filter, properties) := FilterOp.apply s.manager.filter op
        some (properties.foldl (notified app) { s with manager := { s.manager with filter := filter } })
      | .dispose => some (dispose s)

end

end GUPnP.ContextManager.Managing
