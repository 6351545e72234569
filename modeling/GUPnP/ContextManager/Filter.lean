import GUPnP.Base.CString
import Mathlib.Data.Finset.Erase
import Mathlib.Data.Finset.Insert

/-!
# The context filter (`gupnp-context-filter.c`)

A filter is switched on or off and has a set of entries, which are compared with the interface, the
host IP and the network of a context. Every operation gives the filter after it and the properties it
notifies (`g_object_notify`).
-/

set_option autoImplicit false

namespace GUPnP.ContextManager

/-- A `GUPnPContext`: its identity and what a filter looks at. -/
structure Context where
  id : Nat
  interface : Str
  hostIp : Str
  network : Str
  deriving DecidableEq, Repr

/-- `GUPnPContextFilterPrivate`; the hash table of the entries is a set. -/
structure ContextFilter where
  enabled : Bool
  entries : Finset Str
  deriving DecidableEq

/-- A filter right after its construction. -/
def ContextFilter.init : ContextFilter := ⟨false, ∅⟩

/-- The properties a filter notifies. -/
inductive FilterProperty where
  | enabled
  | entries
  deriving DecidableEq, Repr

namespace ContextFilter

/-- `gupnp_context_filter_set_enabled`. -/
def setEnabled (enable : Bool) (f : ContextFilter) : ContextFilter × List FilterProperty :=
  if f.enabled ≠ enable then ({ f with enabled := enable }, [.enabled]) else (f, [])

/-- `gupnp_context_filter_is_empty`. -/
def isEmpty (f : ContextFilter) : Bool := decide (f.entries = ∅)

/-- `gupnp_context_filter_add_entry`. -/
def addEntry (entry : Str) (f : ContextFilter) : ContextFilter × List FilterProperty :=
  if entry ∈ f.entries then (f, [])
  else ({ f with entries := insert entry f.entries }, [.entries])

/-- The body of the loop of `gupnp_context_filter_add_entryv`. -/
def addEntryvStep (p : ContextFilter × Bool) (entry : Str) : ContextFilter × Bool :=
  if entry ∈ p.1.entries then p
  else ({ p.1 with entries := insert entry p.1.entries }, true)

/-- `gupnp_context_filter_add_entryv`: notifies once if any entry is new. -/
def addEntryv (entries : List Str) (f : ContextFilter) : ContextFilter × List FilterProperty :=
  let (f, changed) := entries.foldl addEntryvStep (f, false)
  (f, if changed then [.entries] else [])

/-- `gupnp_context_filter_remove_entry`. -/
def removeEntry (entry : Str) (f : ContextFilter) : ContextFilter × List FilterProperty :=
  if entry ∈ f.entries then ({ f with entries := f.entries.erase entry }, [.entries]) else (f, [])

/-- `gupnp_context_filter_clear`: notifies also when there was no entry. -/
def clear (f : ContextFilter) : ContextFilter × List FilterProperty :=
  ({ f with entries := ∅ }, [.entries])

/-- `gupnp_context_filter_check_context`. -/
def checkContext (f : ContextFilter) (c : Context) : Bool :=
  decide (c.interface ∈ f.entries) || decide (c.hostIp ∈ f.entries) ||
    decide (c.network ∈ f.entries)

end ContextFilter

/-- The operations on a filter. -/
inductive FilterOp where
  | setEnabled (enable : Bool)
  | addEntry (entry : Str)
  | addEntryv (entries : List Str)
  | removeEntry (entry : Str)
  | clear

/-- The filter after an operation and what it notifies. -/
def FilterOp.apply (f : ContextFilter) : FilterOp → ContextFilter × List FilterProperty
  | .setEnabled enable => f.setEnabled enable
  | .addEntry entry => f.addEntry entry
  | .addEntryv entries => f.addEntryv entries
  | .removeEntry entry => f.removeEntry entry
  | .clear => f.clear

end GUPnP.ContextManager
