import GUPnP.GValue.Model

/-!
# Actions of a service (`gupnp-service-action.c`)

What the handler of the control URL makes of the document of a request, and how the implementation of
the action reads the arguments.
-/

set_option autoImplicit false

namespace GUPnP.Service

open Xml

/-- `GUPnPServiceAction`, as far as its arguments go. No message has so many of them that the count
wraps. -/
structure ServiceAction where
  name : Str
  node : Node
  argumentCount : Nat

namespace ServiceAction

/-- The part of `control_server_handler` that finds the action in the document and counts its
arguments. -/
def ofDocument (doc : Node) (actionName : Str) : Option ServiceAction :=
  (getElement doc ["Envelope".toList, "Body".toList, actionName]).map fun actionNode =>
    ⟨actionName, actionNode, actionNode.children.countP Node.isElement⟩

/-- The first of the nodes with the name of an argument. It compares names with `strcmp`, so that the
name of each node before must not be `NULL`. -/
def findArgument (argument : Str) : List Node → Option (Option Node)
  | [] => some none
  | node :: rest => do
    let name ← node.name
    if name = argument then some (some node) else findArgument argument rest

/-- `gupnp_service_action_get_value`: the value afterwards, and whether the argument was found and
set. -/
def getValue (glib : GLib) (action : ServiceAction) (argument : Str) (value : GValue) :
    Option (GValue × Bool) := do
  match ← findArgument argument action.node.children with
  | none => some (value, false)
  | some node => some (value.setValueFromXmlNode glib node)

/-- Elements with distinct names are found by them. -/
theorem findArgument_of_mem {nodes : List Node} {name : Str} {attributes : List (Str × Str)}
    {children : List Node} (hnames : (nodes.map Node.name).Nodup)
    (helements : ∀ node ∈ nodes, node.isElement) (h : .element name attributes children ∈ nodes) :
    findArgument name nodes = some (some (.element name attributes children)) := by
  induction nodes with
  | nil => cases h
  | cons node rest ih =>
    rw [List.map_cons, List.nodup_cons] at hnames
    have helement := helements node List.mem_cons_self
    cases node with
    | element first attributes' children' =>
      rw [findArgument]
      simp only [Node.name, Option.bind_eq_bind, Option.bind_some]
      rcases List.mem_cons.1 h with heq | hmem
      · rw [heq]
        injection heq with hname
        rw [if_pos hname.symm]
      · have hne : first ≠ name := by
          intro hname
          subst hname
          exact hnames.1 (List.mem_map.2 ⟨_, hmem, rfl⟩)
        rw [if_neg hne]
        exact ih hnames.2 (fun n hn => helements n (List.mem_cons_of_mem _ hn)) hmem
    | _ => cases helement

end ServiceAction

end GUPnP.Service
