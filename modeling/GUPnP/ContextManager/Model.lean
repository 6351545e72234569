import GUPnP.ContextManager.Filter

/-!
# The context manager (`gupnp-context-manager.c`)

The class handlers of the signals `context-available` and `context-unavailable`, the handlers of the
filter's notifications and `dispose`, as functions on the part of `GUPnPContextManagerPrivate` they
use. `refs` counts, for each context, the references the manager took less those it dropped, and
`log` is what the handlers of the application see of the two signals.

The class handlers run first (`G_SIGNAL_RUN_FIRST`), so an emission they stop never reaches the
application. The application's handlers neither change the filter nor drop the manager while they run.

`dispose` looks for `on_context_filter_change_cb` with the data `NULL`, with which it was not connected,
so that this handler stays with a filter that the application keeps. What a change of its entries then
does with the manager that is gone is left out: no step follows `dispose`.
-/

set_option autoImplicit false

namespace GUPnP.ContextManager

/-- `contexts` are the keys of the hash table, in the order of its iteration. In the log `true` stands
for `context-available`. -/
structure ManagerState where
  filter : ContextFilter
  contexts : List Context
  filtered : List Context
  synthesizedInternal : Bool
  active : Context → Bool
  refs : Context → Int
  log : List (Context × Bool)
  disposed : Bool

/-- A manager right after its construction. -/
def ManagerState.init : ManagerState where
  filter := .init
  contexts := []
  filtered := []
  synthesizedInternal := false
  active _ := true
  refs _ := 0
  log := []
  disposed := false

/-! ## What the handlers do to a context -/

/-- `g_object_set (context, "active", active, NULL)`. -/
def ManagerState.setActive (c : Context) (active : Bool) (s : ManagerState) : ManagerState :=
  { s with active := fun c' => if c' = c then active else s.active c' }

/-- `g_object_ref`. -/
def ManagerState.ref (c : Context) (s : ManagerState) : ManagerState :=
  { s with refs := fun c' => if c' = c then s.refs c' + 1 else s.refs c' }

/-- `g_object_unref`. -/
def ManagerState.unref (c : Context) (s : ManagerState) : ManagerState :=
  { s with refs := fun c' => if c' = c then s.refs c' - 1 else s.refs c' }

/-- `context_filtered`. -/
def contextFiltered (filter : ContextFilter) (c : Context) : Bool :=
  !filter.isEmpty && filter.enabled && !filter.checkContext c

/-- `ensure_context`. -/
def ensureContext (c : Context) (s : ManagerState) : ManagerState :=
  if c ∈ s.contexts then s
  else
    let s := s.ref c
    { s with contexts := s.contexts ++ [c] }

/-- `g_hash_table_remove (priv->contexts, context)`, which drops the reference of the key. -/
def removeContext (c : Context) (s : ManagerState) : ManagerState :=
  if c ∈ s.contexts then
    let s := s.unref c
    { s with contexts := s.contexts.erase c }
  else s

/-! ## The signals -/

/-- `on_context_available`, and whether it stops the emission. -/
def onContextAvailable (c : Context) (s : ManagerState) : Bool × ManagerState :=
  if s.synthesizedInternal then (false, s)
  else
    let s := ensureContext c s
    if contextFiltered s.filter c then
      let s := s.setActive c false
      let s := s.ref c
      (true, { s with filtered := c :: s.filtered })
    else (false, s)

/-- `on_context_unavailable`, and whether it stops the emission. -/
def onContextUnavailable (c : Context) (s : ManagerState) : Bool × ManagerState :=
  if s.synthesizedInternal then (false, s)
  else
    let s := s.setActive c false
    if c ∈ s.filtered then
      let s := s.unref c
      (true, removeContext c { s with filtered := s.filtered.erase c })
    else (false, removeContext c s)

/-- An emission of `context-available`. -/
def emitAvailable (c : Context) (s : ManagerState) : ManagerState :=
  let (stopped, s) := onContextAvailable c s
  if stopped then s else { s with log := s.log ++ [(c, true)] }

/-- An emission of `context-unavailable`. -/
def emitUnavailable (c : Context) (s : ManagerState) : ManagerState :=
  let (stopped, s) := onContextUnavailable c s
  if stopped then s else { s with log := s.log ++ [(c, false)] }

/-- An emission that the class handlers are to ignore. -/
def synthesize (emit : ManagerState → ManagerState) (s : ManagerState) : ManagerState :=
  let s := emit { s with synthesizedInternal := true }
  { s with synthesizedInternal := false }

/-! ## The notifications of the filter -/

/-- A context that is now filtered: it is prepended to the list and withdrawn. -/
def filterOut (c : Context) (s : ManagerState) : ManagerState :=
  let s := { s with filtered := c :: s.filtered }
  synthesize (fun s => emitUnavailable c (s.setActive c false)) s

/-- The body of the loop of `on_context_filter_change_cb` over the contexts. -/
def filterChangeStep (s : ManagerState) (c : Context) : ManagerState :=
  if contextFiltered s.filter c then
    if c ∈ s.filtered then s else filterOut c s
  else if c ∈ s.filtered then
    let s := { s with filtered := s.filtered.erase c }
    synthesize (emitAvailable c) (s.setActive c true)
  else s

/-- `on_context_filter_change_cb`. -/
def onContextFilterChange (s : ManagerState) : ManagerState :=
  if s.filter.enabled then s.contexts.foldl filterChangeStep s else s

/-- The body of the loop of `on_context_filter_enabled_cb` that flushes the list. The class handler is
not blocked here. -/
def flushStep (s : ManagerState) : ManagerState :=
  match s.filtered with
  | [] => s
  | c :: _ =>
    let s := emitAvailable c (s.setActive c true)
    { s with filtered := s.filtered.tail }

/-- The body of its loop over the contexts. -/
def filterEnabledStep (s : ManagerState) (c : Context) : ManagerState :=
  if contextFiltered s.filter c then filterOut c s else s

/-- `on_context_filter_enabled_cb`. While the filter is disabled an emission adds nothing to the list,
so the flush has as many rounds as the list has entries. -/
def onContextFilterEnabled (s : ManagerState) : ManagerState :=
  if !s.filter.enabled then Nat.repeat flushStep s.filtered.length s
  else if s.filter.isEmpty then s
  else s.contexts.foldl filterEnabledStep s

/-- A notification reaches its handler. -/
def notified (s : ManagerState) : FilterProperty → ManagerState
  | .enabled => onContextFilterEnabled s
  | .entries => onContextFilterChange s

/-! ## Steps -/

/-- `gupnp_context_manager_dispose`: the keys of the hash table and the list lose their references. -/
def dispose (s : ManagerState) : ManagerState :=
  let s := s.contexts.foldl (fun s c => s.unref c) s
  let s := s.filtered.foldl (fun s c => s.unref c) s
  { s with contexts := [], filtered := [], disposed := true }

/-- A context comes or goes (the implementation of the manager emits the signal), the application
changes the filter, or it drops the manager. -/
inductive Event where
  | contextAvailable (c : Context)
  | contextUnavailable (c : Context)
  | filter (op : FilterOp)
  | dispose

def step (s : ManagerState) (e : Event) : Option ManagerState :=
  if s.disposed then none
  else
    match e with
    | .contextAvailable c => some (emitAvailable c s)
    | .contextUnavailable c => some (emitUnavailable c s)
    | .filter op =>
      let (filter, properties) := FilterOp.apply s.filter op
      some (properties.foldl notified { s with filter := filter })
    | .dispose => some (dispose s)

end GUPnP.ContextManager
