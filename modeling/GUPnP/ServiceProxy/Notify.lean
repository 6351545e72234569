import GUPnP.Base.CString
import GUPnP.Base.Table

/-!
# The notify callbacks of a proxy (`notify_hash`)

A proxy keeps the callbacks for a variable in a record, in the order they were added, and calls them
when the variable changes (`emit_notification`). A callback may add and remove callbacks before it
returns. The loop that calls them therefore keeps its place in the record, as `next_emit`.

Records and callbacks are known by numbers, which stand for their addresses. The functions that are
called when a callback is removed do not enter the proxy.
-/

set_option autoImplicit false

namespace GUPnP.ServiceProxy.Notify

/-! ## Types -/

/-- `NotifyCallbackData` in its link of the list; `callback` stands for the function and its user
data. -/
structure NotifyCallbackData where
  id : Nat
  callback : Nat
  deriving DecidableEq, Repr

/-- `NotifyData`; `nextEmit` is a link of the list `callbacks`. -/
structure NotifyData where
  id : Nat
  type : Str
  callbacks : List NotifyCallbackData
  nextEmit : Option Nat
  deriving DecidableEq, Repr

/-- What happens to the callbacks of a variable while they are called. -/
inductive Entry where
  | called (id : Nat)
  | removed (id : Nat)
  deriving DecidableEq, Repr

/-- A run of `emit_notification`: its record `data`, the callback that is called, the callbacks there
were when it started and what has happened since. -/
structure Emission where
  varName : Str
  data : Nat
  current : Nat
  originals : List Nat
  trace : List Entry
  deriving DecidableEq, Repr

/-- The records of a proxy, and its emissions: the running one and those that are over. After an access
to a record that is gone nothing is defined. -/
structure ProxyState where
  notifyHash : Table Str NotifyData
  emission : Option Emission
  finished : List Emission
  nextId : Nat
  undefined : Bool

def ProxyState.init : ProxyState := ⟨∅, none, [], 0, false⟩

/-- The links of a list. -/
def ids (callbacks : List NotifyCallbackData) : List Nat := callbacks.map (·.id)

/-- `link->next`. -/
def nextOf (callbacks : List NotifyCallbackData) (id : Nat) : Option Nat :=
  ((ids callbacks).dropWhile (· ≠ id))[1]?

/-- The record the running emission has, if it is still there. -/
def ProxyState.emitted (s : ProxyState) (e : Emission) : Option NotifyData :=
  (s.notifyHash.lookup e.varName).filter (·.id = e.data)

/-! ## Callbacks come and go -/

/-- The record of a variable for callbacks of this type: a new one if there is none. -/
def ProxyState.recordFor (s : ProxyState) (varName type : Str) : Option NotifyData :=
  match s.notifyHash.lookup varName with
  | none => some ⟨s.nextId, type, [], none⟩
  | some data => if data.type ≠ type then none else some data

/-- `gupnp_service_proxy_add_notify_full`. -/
def addNotifyFull (varName type : Str) (callback : Nat) (s : ProxyState) : Bool × ProxyState :=
  match s.recordFor varName type with
  | none => (false, s)
  | some data =>
    let callbacks := data.callbacks ++ [⟨s.nextId + 1, callback⟩]
    let nextEmit := if data.nextEmit = none then (ids callbacks).getLast? else data.nextEmit
    (true, { s with
      notifyHash := s.notifyHash.insert varName
        { data with callbacks := callbacks, nextEmit := nextEmit }
      nextId := s.nextId + 2 })

/-- The running emission sees a callback of its record go. -/
def ProxyState.recordRemoval (s : ProxyState) (data id : Nat) : ProxyState :=
  { s with emission := s.emission.map fun e =>
      if e.data = data then { e with trace := e.trace ++ [.removed id] } else e }

/-- `gupnp_service_proxy_remove_notify`. -/
def removeNotify (varName : Str) (callback : Nat) (s : ProxyState) : Bool × ProxyState :=
  match s.notifyHash.lookup varName with
  | none => (false, s)
  | some data =>
    match data.callbacks.find? (·.callback = callback) with
    | none => (false, s)
    | some l =>
      let nextEmit := if data.nextEmit = some l.id then nextOf data.callbacks l.id else data.nextEmit
      let callbacks := data.callbacks.filter (·.id ≠ l.id)
      let s := s.recordRemoval data.id l.id
      if callbacks = [] then (true, { s with notifyHash := s.notifyHash.erase varName })
      else
        (true, { s with notifyHash :=
          s.notifyHash.insert varName { data with callbacks := callbacks, nextEmit := nextEmit } })

/-! ## Emissions -/

/-- The body of the loop of `emit_notification` up to the call, with `l` at this link; without a link
the loop is over. -/
def emitAt (e : Emission) (data : NotifyData) (l : Option Nat) (s : ProxyState) : ProxyState :=
  match l with
  | none => { s with emission := none, finished := s.finished ++ [e] }
  | some l =>
    if l ∈ ids data.callbacks then
      { s with
        notifyHash := s.notifyHash.insert e.varName { data with nextEmit := nextOf data.callbacks l }
        emission := some { e with current := l, trace := e.trace ++ [.called l] } }
    else { s with undefined := true }

/-- `emit_notification` up to the first call. -/
def emitNotification (varName : Str) (valueSet : Bool) (s : ProxyState) : ProxyState :=
  match s.notifyHash.lookup varName with
  | none => s
  | some data =>
    if valueSet then
      let l := (ids data.callbacks).head?
      emitAt ⟨varName, data.id, l.getD 0, ids data.callbacks, []⟩ data l s
    else s

/-- A callback has returned: the loop goes on at `data->next_emit`. -/
def returned (e : Emission) (s : ProxyState) : ProxyState :=
  match s.emitted e with
  | none => { s with undefined := true }
  | some data => emitAt e data data.nextEmit s

/-! ## Steps -/

/-- `valueSet` is what `gvalue_util_set_value_from_xml_node` returns. -/
inductive Event where
  | emitNotification (varName : Str) (valueSet : Bool)
  | addNotifyFull (varName type : Str) (callback : Nat)
  | removeNotify (varName : Str) (callback : Nat)
  | returned
  deriving DecidableEq, Repr

/-- Callbacks are added and removed at any time; one emission runs at a time. -/
def step (s : ProxyState) (e : Event) : Option ProxyState :=
  if s.undefined then none
  else
    match e, s.emission with
    | .emitNotification varName valueSet, none => some (emitNotification varName valueSet s)
    | .emitNotification _ _, some _ => none
    | .addNotifyFull varName type callback, _ => some (addNotifyFull varName type callback s).2
    | .removeNotify varName callback, _ => some (removeNotify varName callback s).2
    | .returned, some e => some (returned e s)
    | .returned, none => none

end GUPnP.ServiceProxy.Notify
