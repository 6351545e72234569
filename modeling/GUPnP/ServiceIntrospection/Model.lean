import GUPnP.GValue.Model

/-!
# Introspection of services (`gupnp-service-introspection.c`)

The actions and state variables a service description document (SCPD) declares. The constructor reads
them from the document; the lists of their names are made when they are asked for the first time.

The loops over the children of an element compare the name of each child with `strcmp`, which fails on
a child without a name, so the functions that read the document return an `Option`.
-/

set_option autoImplicit false

namespace GUPnP.ServiceIntrospection

open Xml

/-! ## Types -/

/-- `GUPnPServiceActionArgDirection` -/
inductive Direction where
  | directionIn
  | directionOut
  deriving DecidableEq, Repr

/-- `GUPnPServiceActionArgInfo` -/
structure ActionArgInfo where
  name : Str
  direction : Direction
  relatedStateVariable : Str
  retval : Bool
  deriving DecidableEq, Repr

/-- `GUPnPServiceActionInfo` -/
structure ActionInfo where
  name : Str
  arguments : List ActionArgInfo
  deriving DecidableEq, Repr

/-- The limits of a numeric state variable. -/
structure Range where
  minimum : GValue
  maximum : GValue
  step : GValue
  deriving DecidableEq, Repr

/-- `GUPnPServiceStateVariableInfo`; `is_numeric` says whether there is a `range`. -/
structure StateVariableInfo where
  name : Str
  sendEvents : Bool
  type : GType
  defaultValue : GValue
  range : Option Range
  allowedValues : List Str
  deriving DecidableEq, Repr

/-- `GUPnPServiceIntrospectionPrivate` after its construction. -/
structure Introspection where
  stateVariables : List StateVariableInfo
  actions : List ActionInfo
  actionNames : List Str
  variableNames : List Str
  deriving DecidableEq, Repr

/-! ## Strings and children -/

/-- `g_ascii_isspace` -/
def asciiIsSpace (c : Char) : Bool := [' ', '\t', '\n', Char.ofNat 12, '\r'].contains c

/-- `g_strstrip` -/
def strstrip (s : Str) : Str :=
  ((s.dropWhile asciiIsSpace).reverse.dropWhile asciiIsSpace).reverse

/-- `xml_util_get_attribute_contents` -/
def getAttributeContents (node : Node) (attributeName : Str) : Option Str :=
  match node with
  | .element _ attributes _ =>
    (attributes.find? fun entry => entry.1 = attributeName).map Prod.snd
  | _ => none

/-! ## State variables -/

/-- `gupnp_data_type_to_gtype`; the types have their places in the file as numbers. -/
def gupnpDataTypeToGtype (dataType : Str) : Option GType :=
  if GValue.strcaseEq dataType "uuid".toList then some (.other 8)
  else if GValue.strcaseEq dataType "uri".toList then some (.other 7)
  else if GValue.strcaseEq dataType "time.tz".toList then some (.other 6)
  else if GValue.strcaseEq dataType "datetime.tz".toList then some (.other 4)
  else if GValue.strcaseEq dataType "datetime".toList then some (.other 3)
  else if GValue.strcaseEq dataType "date".toList then some (.other 2)
  else if GValue.strcaseEq dataType "time".toList then some (.other 5)
  else if GValue.strcaseEq dataType "bin.base64".toList then some (.other 0)
  else if GValue.strcaseEq dataType "bin.hex".toList then some (.other 1)
  else none

/-- The range of signed integers of this many bits. -/
def intRange (bits : Nat) : Range :=
  ⟨.int (.ofInt (-2 ^ (bits - 1))), .int (.ofInt (2 ^ (bits - 1) - 1)), .int 1⟩

/-- The range of unsigned integers of this many bits. -/
def uintRange (bits : Nat) : Range := ⟨.uint 0, .uint (.ofNat (2 ^ bits - 1)), .uint 1⟩

/-- `-G_MAXFLOAT` to `G_MAXFLOAT`. -/
def floatRange : Range := ⟨.float 0xFF7FFFFF, .float 0x7F7FFFFF, .float 0x3F800000⟩

/-- `-G_MAXDOUBLE` to `G_MAXDOUBLE`. -/
def doubleRange : Range :=
  ⟨.double 0xFFEFFFFFFFFFFFFF, .double 0x7FEFFFFFFFFFFFFF, .double 0x3FF0000000000000⟩

/-- `-MAX_FIXED_14_4` to `MAX_FIXED_14_4`, which is 10^14 as a `double`. -/
def fixedRange : Range :=
  ⟨.double 0xC2D6BCC41E900000, .double 0x42D6BCC41E900000, .double 0x3FF0000000000000⟩

/-- `set_variable_type`: the type and the range, if the data type is known. -/
def setVariableType (dataType : Str) : Option (GType × Option Range) :=
  if dataType = "string".toList then some (.string, none)
  else if dataType = "char".toList then some (.char, none)
  else if dataType = "boolean".toList then some (.boolean, none)
  else if dataType = "i1".toList then some (.int, some (intRange 8))
  else if dataType = "i2".toList then some (.int, some (intRange 16))
  else if dataType = "i4".toList ∨ dataType = "int".toList then some (.int, some (intRange 32))
  else if dataType = "ui1".toList then some (.uint, some (uintRange 8))
  else if dataType = "ui2".toList then some (.uint, some (uintRange 16))
  else if dataType = "ui4".toList then some (.uint, some (uintRange 32))
  else if dataType = "r4".toList then some (.float, some floatRange)
  else if dataType = "r8".toList ∨ dataType = "number".toList then some (.double, some doubleRange)
  else if dataType = "fixed.14.4".toList then some (.double, some fixedRange)
  else (gupnpDataTypeToGtype dataType).map fun type => (type, none)

section
variable (glib : GLib)

/-- `set_default_value` and `set_value_limit_by_name`: a value and the text of a child element. -/
def setValueByName (node : Node) (name : Str) (value : GValue) : GValue :=
  match getChildElementContent node name with
  | none => value
  | some str => (value.setValueFromString glib str).1

/-- `set_variable_limits` of a numeric variable. -/
def setRangeLimits (variableNode : Node) (range : Range) : Range :=
  match getElement variableNode ["allowedValueRange".toList] with
  | none => range
  | some limitNode =>
    { minimum := setValueByName glib limitNode "minimum".toList range.minimum
      maximum := setValueByName glib limitNode "maximum".toList range.maximum
      step := setValueByName glib limitNode "step".toList range.step }

/-- `set_variable_limits` of a variable that is not numeric. -/
def allowedValuesOf (variableNode : Node) (type : GType) (range : Option Range) :
    Option (List Str) :=
  if range.isSome ∨ type ≠ .string then some []
  else
    match getElement variableNode ["allowedValueList".toList] with
    | none => some []
    | some limitNode =>
      (childrenNamed "allowedValue".toList limitNode).map fun nodes => nodes.map Node.content

/-- Whether a state variable is evented: an element says so or, in some documents, an attribute. -/
def sendEventsOf (variableNode : Node) : Bool :=
  let sendEvents := (getChildElementContent variableNode "sendEventsAttribute".toList).or
    (getAttributeContents variableNode "sendEvents".toList)
  sendEvents.map strstrip == some "yes".toList

/-- `get_state_variable`: no variable without a known data type. -/
def getStateVariable (variableNode : Node) (name : Str) : Option (Option StateVariableInfo) :=
  match (getChildElementContent variableNode "dataType".toList).bind setVariableType with
  | none => some none
  | some (type, range) =>
    (allowedValuesOf variableNode type range).map fun allowedValues => some
      { name := strstrip name
        sendEvents := sendEventsOf variableNode
        type := type
        defaultValue :=
          setValueByName glib variableNode "defaultValue".toList (GValue.init glib type)
        range := range.map (setRangeLimits glib variableNode)
        allowedValues := allowedValues }

/-- What `get_state_variables` appends for a node. -/
def readStateVariable (variableNode : Node) : Option (List StateVariableInfo) :=
  match getChildElementContent variableNode "name".toList with
  | none => some []
  | some name => (getStateVariable glib variableNode name).map Option.toList

/-- `get_state_variables` -/
def getStateVariables (listElement : Node) : Option (List StateVariableInfo) := do
  let nodes ← childrenNamed "stateVariable".toList listElement
  (nodes.mapM (readStateVariable glib)).map List.flatten

/-! ## Actions -/

/-- `get_action_argument` -/
def getActionArgument (argumentNode : Node) : Option ActionArgInfo := do
  let name ← getChildElementContent argumentNode "name".toList
  let stateVar ← getChildElementContent argumentNode "relatedStateVariable".toList
  let direction ← getChildElementContent argumentNode "direction".toList
  some
    { name := strstrip name
      direction := if strstrip direction = "in".toList then .directionIn else .directionOut
      relatedStateVariable := strstrip stateVar
      retval := (getElement argumentNode ["retval".toList]).isSome }

/-- `get_action_arguments` -/
def getActionArguments (actionNode : Node) : Option (List ActionArgInfo) :=
  match getElement actionNode ["argumentList".toList] with
  | none => some []
  | some arglistNode =>
    (childrenNamed "argument".toList arglistNode).map fun nodes => nodes.filterMap getActionArgument

/-- What `get_actions` appends for a node. -/
def readAction (actionNode : Node) : Option (List ActionInfo) :=
  match getChildElementContent actionNode "name".toList with
  | none => some []
  | some name => (getActionArguments actionNode).map fun arguments => [⟨name, arguments⟩]

/-- `get_actions` -/
def getActions (listElement : Node) : Option (List ActionInfo) := do
  let nodes ← childrenNamed "action".toList listElement
  (nodes.mapM readAction).map List.flatten

/-! ## Construction -/

/-- The list a function reads from an element below `scpd`, if there is one. -/
def readList {α : Type} (read : Node → Option (List α)) (scpd : Node) (name : Str) :
    Option (List α) :=
  match getElement scpd ["scpd".toList, name] with
  | none => some []
  | some element => read element

/-- The text of the error `GUPNP_SERVICE_INTROSPECTION_ERROR_OTHER`. -/
def neitherActionsNorVariables : Str :=
  "Service description has neither actions nor variables".toList

/-- `gupnp_service_introspection_new`, by `construct_introspection_info`. -/
def new (scpd : Node) : Option (Except Str Introspection) := do
  let actions ← readList getActions scpd "actionList".toList
  let stateVariables ← readList (getStateVariables glib) scpd "serviceStateTable".toList
  if actions = [] ∧ stateVariables = [] then some (.error neitherActionsNorVariables)
  else some (.ok ⟨stateVariables, actions, [], []⟩)

end

/-! ## Accessors -/

namespace Introspection

/-- `gupnp_service_introspection_list_action_names` -/
def listActionNames (introspection : Introspection) : Introspection × List Str :=
  if introspection.actions = [] then (introspection, [])
  else
    let actionNames :=
      if introspection.actionNames = [] then
        introspection.actions.foldl (fun names info => names ++ [info.name])
          introspection.actionNames
      else introspection.actionNames
    ({ introspection with actionNames := actionNames }, actionNames)

/-- `gupnp_service_introspection_list_actions` -/
def listActions (introspection : Introspection) : List ActionInfo := introspection.actions

/-- `gupnp_service_introspection_list_state_variables` -/
def listStateVariables (introspection : Introspection) : List StateVariableInfo :=
  introspection.stateVariables

/-- `gupnp_service_introspection_list_state_variable_names` -/
def listStateVariableNames (introspection : Introspection) : Introspection × List Str :=
  if introspection.stateVariables = [] then (introspection, [])
  else
    let variableNames :=
      if introspection.variableNames = [] then
        introspection.stateVariables.foldl (fun names info => names ++ [info.name])
          introspection.variableNames
      else introspection.variableNames
    ({ introspection with variableNames := variableNames }, variableNames)

/-- `gupnp_service_introspection_get_state_variable` -/
def getStateVariable (introspection : Introspection) (variableName : Str) :
    Option StateVariableInfo :=
  if introspection.stateVariables = [] then none
  else introspection.stateVariables.find? fun info => info.name = variableName

/-- `gupnp_service_introspection_get_action`; it looks at the variables first. -/
def getAction (introspection : Introspection) (actionName : Str) : Option ActionInfo :=
  if introspection.stateVariables = [] then none
  else introspection.actions.find? fun info => info.name = actionName

end Introspection

/-- A call of an accessor that may change the introspection. -/
inductive Access where
  | listActionNames
  | listStateVariableNames
  deriving DecidableEq, Repr

/-- The introspection after a call. -/
def Introspection.access (introspection : Introspection) : Access → Introspection
  | .listActionNames => introspection.listActionNames.1
  | .listStateVariableNames => introspection.listStateVariableNames.1

end GUPnP.ServiceIntrospection
