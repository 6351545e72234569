import GUPnP.ServiceProxyAction.Proof.Serialize

/-!
# The arguments of an action

An action keeps its arguments in an array, and their positions in a hash table. `Store` says what the
two are after a history of calls of `addArgument` and `set`: every call keeps it (`Store.step`), so it
holds after all of them, and the request is written from what it describes (`argument_store`).
-/

set_option autoImplicit false

namespace GUPnP.ServiceProxyAction

open Xml

/-! ## Histories of calls -/

/-- A call; a call of `set` comes with a place for its error or without. -/
inductive ArgumentCall where
  | add (name : Str) (value : GValue)
  | set (location : Bool) (name : Str) (value : GValue)
  deriving DecidableEq, Repr

namespace ArgumentCall

def name : ArgumentCall → Str
  | add name _ => name
  | set _ name _ => name

def value : ArgumentCall → GValue
  | add _ value => value
  | set _ _ value => value

/-- The name that the call adds. -/
def newName : ArgumentCall → Option Str
  | add name _ => some name
  | set .. => none

/-- The value that the call adds an argument of this name with. -/
def adds (name : Str) (call : ArgumentCall) : Option GValue :=
  if call.newName = some name then some call.value else none

end ArgumentCall

/-- The value that the name was added with. -/
def added (calls : List ArgumentCall) (name : Str) : Option GValue :=
  calls.findSome? (ArgumentCall.adds name)

/-- The names in the order in which they were added. -/
def insertionOrder (calls : List ArgumentCall) : List Str :=
  (calls.filterMap ArgumentCall.newName).eraseDups

/-- What it takes after these calls for another one to succeed: a name that is new, or one that was
added, with a value of the same type. -/
def Succeeds (calls : List ArgumentCall) : ArgumentCall → Prop
  | .add name _ => added calls name = none
  | .set location name value =>
    location = true ∧ ∃ first, added calls name = some first ∧ value.type = first.type

/-- It is the value of the last of the calls for this name that succeeded. -/
def LastValue (calls : List ArgumentCall) (name : Str) (value : GValue) : Prop :=
  ∃ before call after, calls = before ++ call :: after ∧ call.name = name ∧ call.value = value ∧
    Succeeds before call ∧
    ∀ between later rest, after = between ++ later :: rest → later.name = name →
      ¬ Succeeds (before ++ call :: between) later

/-- A call: the action afterwards, and whether it succeeded. -/
def argumentCall (typeName : GType → Str) (action : Action) : ArgumentCall → Option (Action × Bool)
  | .add name value =>
    match addArgument action name value with
    | none => some (action, false)
    | some action => some (action, true)
  | .set location name value =>
    (set typeName location action name value).map fun (action, ok, _) => (action, ok)

/-- The calls one after the other. -/
def argumentCalls (typeName : GType → Str) (calls : List ArgumentCall) (action : Action) :
    Option Action :=
  calls.foldlM (fun action call => (argumentCall typeName action call).map Prod.fst) action

/-- What the array and the table are after these calls. -/
structure Store (calls : List ArgumentCall) (action : Action) : Prop where
  indexes : action.argMap.Indexes (action.args.map ActionArgument.name)
  names : action.args.map ActionArgument.name = insertionOrder calls
  values : ∀ arg ∈ action.args, LastValue calls arg.name arg.value
  types : ∀ arg ∈ action.args, ∃ first, added calls arg.name = some first ∧
    arg.value.type = first.type

variable {calls : List ArgumentCall} {call : ArgumentCall} {name : Str} {value : GValue}
  {action : Action} {typeName : GType → Str}

/-! ## One more call -/

theorem added_append (calls : List ArgumentCall) (call : ArgumentCall) (name : Str) :
    added (calls ++ [call]) name = (added calls name).or (call.adds name) := by
  rw [added, List.findSome?_append, added]
  congr 1
  rw [List.findSome?_cons]
  cases call.adds name <;> rfl

theorem adds_eq_none : call.adds name = none ↔ call.newName ≠ some name := by
  unfold ArgumentCall.adds
  split
  · rename_i h
    exact iff_of_false (Option.some_ne_none _) (not_not.2 h)
  · rename_i h
    exact iff_of_true rfl h

theorem mem_insertionOrder : name ∈ insertionOrder calls ↔ added calls name ≠ none := by
  rw [insertionOrder, List.mem_eraseDups, added, List.mem_filterMap, ne_eq,
    List.findSome?_eq_none_iff]
  simp only [adds_eq_none, ne_eq, not_forall, not_not, exists_prop]

/-- A name comes to the end of the order when it is added for the first time. -/
theorem insertionOrder_add (h : added calls name = none) (value : GValue) :
    insertionOrder (calls ++ [.add name value]) = insertionOrder calls ++ [name] := by
  have hnew : name ∉ calls.filterMap ArgumentCall.newName := by
    rw [← List.mem_eraseDups]
    exact mt mem_insertionOrder.1 (not_not.2 h)
  have hkept : [name].removeAll (calls.filterMap ArgumentCall.newName) = [name] := by
    rw [List.cons_removeAll, if_pos (by simpa using hnew)]
    rfl
  rw [insertionOrder, List.filterMap_append, List.eraseDups_append]
  show _ ++ ([name].removeAll (calls.filterMap ArgumentCall.newName)).eraseDups = _
  rw [hkept]
  rfl

/-- Any other call leaves the order. -/
theorem insertionOrder_of_known (h : ∀ name, call.newName = some name → added calls name ≠ none) :
    insertionOrder (calls ++ [call]) = insertionOrder calls := by
  rw [insertionOrder, List.filterMap_append, List.eraseDups_append]
  cases call with
  | set location name value => exact List.append_nil _
  | add name value =>
    have hold : name ∈ calls.filterMap ArgumentCall.newName := by
      rw [← List.mem_eraseDups]
      exact mem_insertionOrder.2 (h name rfl)
    show _ ++ ([name].removeAll (calls.filterMap ArgumentCall.newName)).eraseDups = _
    rw [List.cons_removeAll, if_neg (by simpa using hold)]
    exact List.append_nil _

theorem lastValue_self (h : Succeeds calls call) :
    LastValue (calls ++ [call]) call.name call.value := by
  refine ⟨calls, call, [], rfl, rfl, rfl, h, fun between later rest heq => ?_⟩
  cases between <;> cases heq

/-- A call for another name, or one that fails, is not the last one. -/
theorem LastValue.append (h : LastValue calls name value)
    (hcall : call.name = name → ¬ Succeeds calls call) :
    LastValue (calls ++ [call]) name value := by
  obtain ⟨before, last, after, rfl, hname, hvalue, hlast, hafter⟩ := h
  refine ⟨before, last, after ++ [call], by rw [List.append_assoc, List.cons_append], hname, hvalue,
    hlast, fun between later rest heq hlater => ?_⟩
  rcases List.eq_nil_or_concat rest with rfl | ⟨rest, final, rfl⟩
  · obtain ⟨rfl, hsingle⟩ := List.append_inj' heq rfl
    obtain rfl := List.singleton_inj.1 hsingle
    exact hcall hlater
  · rw [List.concat_eq_append, ← List.cons_append, ← List.append_assoc] at heq
    exact hafter between later rest (List.append_inj' heq rfl).1 hlater

/-! ## The store -/

theorem store_newPlain (actionName : Str) : Store [] (newPlain actionName) where
  indexes := Table.Indexes.empty
  names := rfl
  values := fun _ harg => nomatch harg
  types := fun _ harg => nomatch harg

namespace Store

/-- The table finds an argument of the name, or the name was not added. -/
theorem find (h : Store calls action) (name : Str) :
    (action.argMap.lookup name = none ∧ added calls name = none) ∨
      ∃ i arg, action.argMap.lookup name = some i ∧ action.args[i]? = some arg ∧
        arg.name = name := by
  cases hlookup : action.argMap.lookup name with
  | none =>
    have hnot := h.indexes.lookup_eq_none.1 hlookup
    rw [h.names, mem_insertionOrder] at hnot
    exact .inl ⟨rfl, not_not.1 hnot⟩
  | some i =>
    have hat := (h.indexes name i).1 hlookup
    rw [List.getElem?_map] at hat
    obtain ⟨arg, harg, hname⟩ := Option.map_eq_some_iff.1 hat
    exact .inr ⟨i, arg, rfl, harg, hname⟩

theorem types_append (h : Store calls action) (call : ArgumentCall) :
    ∀ arg ∈ action.args, ∃ first, added (calls ++ [call]) arg.name = some first ∧
      arg.value.type = first.type := by
  intro arg harg
  obtain ⟨first, hadded, htype⟩ := h.types arg harg
  exact ⟨first, by rw [added_append, hadded]; rfl, htype⟩

/-- A call that fails leaves the arguments as the history has them. -/
theorem keep (h : Store calls action) (hfail : ¬ Succeeds calls call) :
    Store (calls ++ [call]) action where
  indexes := h.indexes
  names := by
    rw [insertionOrder_of_known, h.names]
    intro name hname hnone
    cases call with
    | add name' value =>
      obtain rfl := Option.some.inj hname
      exact hfail hnone
    | set location name' value => cases hname
  values := fun arg harg => (h.values arg harg).append fun _ => hfail
  types := h.types_append call

/-- A new argument comes to the end. -/
theorem insert (h : Store calls action) (hnew : added calls name = none) (value : GValue) :
    Store (calls ++ [.add name value])
      { action with
        args := action.args ++ [⟨name, value⟩]
        argMap := action.argMap.insert name action.args.length } where
  indexes := by
    have hnot : name ∉ action.args.map ActionArgument.name := by
      rw [h.names, mem_insertionOrder]
      exact not_not.2 hnew
    have hinsert := h.indexes.insert hnot
    rw [List.length_map] at hinsert
    rw [List.map_append]
    exact hinsert
  names := by
    rw [List.map_append, h.names, insertionOrder_add hnew]
    rfl
  values := by
    intro arg harg
    rcases List.mem_append.1 harg with harg | harg
    · refine (h.values arg harg).append fun hname _ => ?_
      obtain ⟨first, hadded, -⟩ := h.types arg harg
      rw [← hname] at hadded
      exact absurd (hnew.symm.trans hadded) (by simp)
    · obtain rfl := List.mem_singleton.1 harg
      have hok : Succeeds calls (.add name value) := hnew
      exact lastValue_self hok
  types := by
    intro arg harg
    rcases List.mem_append.1 harg with harg | harg
    · exact h.types_append _ arg harg
    · obtain rfl := List.mem_singleton.1 harg
      have hadds : (ArgumentCall.add name value).adds name = some value := if_pos rfl
      refine ⟨value, ?_, rfl⟩
      rw [added_append, hnew, hadds]
      rfl

/-- No other argument has the name. -/
theorem name_ne (h : Store calls action) {i j : Nat} {arg other : ActionArgument}
    (hlookup : action.argMap.lookup arg.name = some i) (hother : action.args[j]? = some other)
    (hne : i ≠ j) : arg.name ≠ other.name := by
  intro hname
  have hj : action.argMap.lookup other.name = some j :=
    (h.indexes other.name j).2 (by rw [List.getElem?_map, hother]; rfl)
  rw [← hname, hlookup] at hj
  exact hne (Option.some.inj hj)

/-- A new value takes the place of the old one. -/
theorem update (h : Store calls action) {i : Nat} {arg : ActionArgument}
    (hlookup : action.argMap.lookup arg.name = some i) (harg : action.args[i]? = some arg)
    (htype : value.type = arg.value.type) :
    Store (calls ++ [.set true arg.name value])
      { action with args := action.args.set i { arg with value := value } } := by
  obtain ⟨hi, hget⟩ := List.getElem?_eq_some_iff.1 harg
  have hmem : arg ∈ action.args := List.mem_iff_getElem?.2 ⟨i, harg⟩
  obtain ⟨first, hadded, hfirst⟩ := h.types arg hmem
  have hok : Succeeds calls (.set true arg.name value) := ⟨rfl, first, hadded, htype.trans hfirst⟩
  have hnames : (action.args.set i { arg with value := value }).map ActionArgument.name =
      action.args.map ActionArgument.name := by
    have hmap : i < (action.args.map ActionArgument.name).length := by rwa [List.length_map]
    have hsame : arg.name = (action.args.map ActionArgument.name)[i] := by
      rw [List.getElem_map, hget]
    rw [List.map_set]
    dsimp only
    rw [hsame, List.set_getElem_self]
  have hcases : ∀ a ∈ action.args.set i { arg with value := value },
      a = { arg with value := value } ∨ a ∈ action.args ∧ arg.name ≠ a.name := by
    intro a ha
    obtain ⟨j, hj⟩ := List.mem_iff_getElem?.1 ha
    by_cases hij : i = j
    · subst hij
      rw [List.getElem?_set_self hi] at hj
      exact .inl (Option.some.inj hj).symm
    · rw [List.getElem?_set_ne hij] at hj
      exact .inr ⟨List.mem_iff_getElem?.2 ⟨j, hj⟩, h.name_ne hlookup hj hij⟩
  refine ⟨?_, ?_, fun a ha => ?_, fun a ha => ?_⟩
  · show action.argMap.Indexes ((action.args.set i _).map ActionArgument.name)
    rw [hnames]
    exact h.indexes
  · have hknown : ∀ name, (ArgumentCall.set true arg.name value).newName = some name →
        added calls name ≠ none := fun _ hname => nomatch hname
    rw [insertionOrder_of_known hknown, ← h.names]
    exact hnames
  · rcases hcases a ha with rfl | ⟨hold, hne⟩
    · exact lastValue_self hok
    · exact (h.values a hold).append fun hname => absurd hname hne
  · rcases hcases a ha with rfl | ⟨hold, -⟩
    · refine ⟨first, ?_, htype.trans hfirst⟩
      rw [added_append, hadded]
      rfl
    · exact h.types_append _ a hold

/-! ## What a call does -/

/-- The call succeeds as the history says, and changes nothing if it fails. -/
def Ends (typeName : GType → Str) (calls : List ArgumentCall) (action : Action)
    (call : ArgumentCall) : Prop :=
  ∃ action' ok, argumentCall typeName action call = some (action', ok) ∧
    (ok = true ↔ Succeeds calls call) ∧ (ok = false → action' = action) ∧
    Store (calls ++ [call]) action'

theorem ends_of_success {action' : Action}
    (hcall : argumentCall typeName action call = some (action', true))
    (hok : Succeeds calls call) (hstore : Store (calls ++ [call]) action') :
    Ends typeName calls action call :=
  ⟨action', true, hcall, iff_of_true rfl hok, fun hf => absurd hf (by decide), hstore⟩

theorem ends_of_failure (h : Store calls action)
    (hcall : argumentCall typeName action call = some (action, false))
    (hfail : ¬ Succeeds calls call) : Ends typeName calls action call :=
  ⟨action, false, hcall, iff_of_false Bool.false_ne_true hfail, fun _ => rfl, h.keep hfail⟩

theorem add_ends (typeName : GType → Str) (h : Store calls action) (name : Str) (value : GValue) :
    Ends typeName calls action (.add name value) := by
  rcases h.find name with ⟨hlookup, hnew⟩ | ⟨i, arg, hlookup, harg, hname⟩
  · have hadd : addArgument action name value = some { action with
        args := action.args ++ [⟨name, value⟩]
        argMap := action.argMap.insert name action.args.length } := by
      rw [addArgument, hlookup]
      rfl
    exact ends_of_success (by rw [argumentCall, hadd]) hnew (h.insert hnew value)
  · have hadd : addArgument action name value = none := by
      rw [addArgument, hlookup]
      rfl
    obtain ⟨first, hadded, -⟩ := h.types arg (List.mem_iff_getElem?.2 ⟨i, harg⟩)
    refine h.ends_of_failure (by rw [argumentCall, hadd]) fun hnew => ?_
    rw [← hname] at hnew
    cases hnew.symm.trans hadded

theorem set_ends (typeName : GType → Str) (h : Store calls action) (name : Str) (value : GValue) :
    Ends typeName calls action (.set true name value) := by
  rcases h.find name with ⟨hlookup, hnew⟩ | ⟨i, arg, hlookup, harg, rfl⟩
  · refine h.ends_of_failure ?_ ?_
    · simp only [argumentCall, set, Bool.not_true, Bool.false_eq_true, ↓reduceIte, hlookup,
        Option.map_some]
    · rintro ⟨-, first, hadded, -⟩
      cases hnew.symm.trans hadded
  · obtain ⟨first, hadded, hfirst⟩ := h.types arg (List.mem_iff_getElem?.2 ⟨i, harg⟩)
    by_cases htype : value.type = arg.value.type
    · refine ends_of_success ?_ ⟨rfl, first, hadded, htype.trans hfirst⟩
        (h.update hlookup harg htype)
      simp only [argumentCall, set, Bool.not_true, Bool.false_eq_true, ↓reduceIte, hlookup, harg,
        Option.bind_eq_bind, Option.bind_some, ne_eq, htype, not_true_eq_false, Option.map_some]
    · refine h.ends_of_failure ?_ ?_
      · simp only [argumentCall, set, Bool.not_true, Bool.false_eq_true, ↓reduceIte, hlookup, harg,
          Option.bind_eq_bind, Option.bind_some, ne_eq, htype, not_false_eq_true, Option.map_some]
      · rintro ⟨-, first', hadded', htype'⟩
        obtain rfl := Option.some.inj (hadded.symm.trans hadded')
        exact htype (htype'.trans hfirst.symm)

theorem step (typeName : GType → Str) (h : Store calls action) (call : ArgumentCall) :
    Ends typeName calls action call := by
  cases call with
  | add name value => exact h.add_ends typeName name value
  | set location name value =>
    cases location with
    | false => exact h.ends_of_failure rfl fun hok => absurd hok.1 (by decide)
    | true => exact h.set_ends typeName name value

/-- Any calls go through. -/
theorem run (typeName : GType → Str) (h : Store calls action) (more : List ArgumentCall) :
    ∃ action', argumentCalls typeName more action = some action' ∧
      Store (calls ++ more) action' := by
  induction more generalizing calls action with
  | nil =>
    refine ⟨action, rfl, ?_⟩
    rw [List.append_nil]
    exact h
  | cons call more ih =>
    obtain ⟨next, ok, hcall, -, -, hnext⟩ := h.step typeName call
    obtain ⟨last, hlast, hstore⟩ := ih hnext
    refine ⟨last, ?_, by rwa [List.append_assoc] at hstore⟩
    rw [argumentCalls, List.foldlM_cons, hcall]
    exact hlast

end Store

/-- **The array and the table are what the calls have made of them**, whatever calls these are: the
names are distinct, in the order in which they were added, and found at their positions; each has the
last value it was given; a call succeeds as the history says and changes nothing if it fails; and the
request has the arguments as they are. -/
theorem argument_store (typeName : GType → Str) (actionName : Str) (calls : List ArgumentCall) :
    ∃ action, argumentCalls typeName calls (newPlain actionName) = some action ∧
      Store calls action ∧ (action.args.map ActionArgument.name).Nodup ∧
      (∀ call, ∃ action' ok, argumentCall typeName action call = some (action', ok) ∧
        (ok = true ↔ Succeeds calls call) ∧ (ok = false → action' = action)) ∧
      ∀ glib serviceType, (serialize glib action serviceType).msgStr =
        some (header ++ "<u:".toList ++ action.name ++ " xmlns:u=\"".toList ++ serviceType ++
          "\">".toList ++ argumentsStr glib action.args ++ "</u:".toList ++ action.name ++ ['>'] ++
          "</s:Body></s:Envelope>".toList) := by
  obtain ⟨action, hcalls, hstore⟩ := (store_newPlain actionName).run typeName calls
  refine ⟨action, hcalls, hstore, hstore.indexes.nodup, fun call => ?_,
    fun glib serviceType => serialize_msgStr action serviceType⟩
  obtain ⟨action', ok, hcall, hok, hsame, -⟩ := hstore.step typeName call
  exact ⟨action', ok, hcall, hok, hsame⟩

end GUPnP.ServiceProxyAction
