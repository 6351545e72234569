import GUPnP.Service.Action
import GUPnP.ServiceProxyAction.Proof.Serialize
import GUPnP.Xml.Parse

/-!
# The arguments of an action on their way to the service

A control point builds an action from its arguments and serializes it; the service parses the message
and reads the arguments from it by name. `arguments_arrive`: every argument arrives with its value,
and they arrive in their order. The parser is any that reads well-formed documents.
-/

set_option autoImplicit false

namespace GUPnP.Control

open Xml Markup ServiceProxyAction Service

variable {glib : GLib} {action : Action} {name serviceType : Str} {args : List ActionArgument}

/-! ## Building the action -/

/-- The arguments added one after the other, where none is refused. -/
def addAll (action : Action) (args : List ActionArgument) : Option Action :=
  args.foldlM (fun action arg => addArgument action arg.name arg.value) action

/-- The map of an action has the names of its arguments. -/
def MapOk (action : Action) : Prop :=
  ∀ name, (action.argMap.lookup name).isSome ↔ name ∈ action.args.map ActionArgument.name

theorem addArgument_of_fresh {arg : ActionArgument} (hmap : MapOk action)
    (h : arg.name ∉ action.args.map ActionArgument.name) :
    ∃ action', addArgument action arg.name arg.value = some action' ∧ MapOk action' ∧
      action'.name = action.name ∧ action'.args = action.args ++ [arg] := by
  have hfree : ¬ (action.argMap.lookup arg.name).isSome := fun hs => h ((hmap arg.name).1 hs)
  refine ⟨_, if_neg hfree, fun name => ?_, rfl, rfl⟩
  rw [List.map_append, List.mem_append, ← hmap name]
  by_cases hname : name = arg.name
  · subst hname
    rw [AList.lookup_insert]
    exact ⟨fun _ => .inr List.mem_cons_self, fun _ => rfl⟩
  · rw [AList.lookup_insert_ne hname]
    refine ⟨.inl, fun hor => hor.resolve_right fun hmem => ?_⟩
    exact hname (List.mem_singleton.1 hmem)

/-- Arguments with new names are added in their order, one by one or from lists. -/
theorem addAll_of_fresh (hmap : MapOk action) (hdistinct : (args.map ActionArgument.name).Nodup)
    (h : ∀ arg ∈ args, arg.name ∉ action.args.map ActionArgument.name) :
    ∃ action', addAll action args = some action' ∧
      addArguments action (args.map ActionArgument.name) (args.map ActionArgument.value) = action' ∧
      action'.name = action.name ∧ action'.args = action.args ++ args := by
  induction args generalizing action with
  | nil => exact ⟨action, rfl, rfl, rfl, (List.append_nil _).symm⟩
  | cons arg args ih =>
    rw [List.map_cons, List.nodup_cons] at hdistinct
    obtain ⟨next, hadd, hmap', hname, hargs⟩ := addArgument_of_fresh hmap (h arg List.mem_cons_self)
    have hfresh : ∀ a ∈ args, a.name ∉ next.args.map ActionArgument.name := by
      intro a ha hmem
      rw [hargs, List.map_append, List.mem_append] at hmem
      rcases hmem with hmem | hmem
      · exact h a (List.mem_cons_of_mem arg ha) hmem
      · have hsame : a.name = arg.name := List.mem_singleton.1 hmem
        exact hdistinct.1 (hsame ▸ List.mem_map_of_mem ha)
    obtain ⟨action', hall, hlist, hname', hargs'⟩ := ih hmap' hdistinct.2 hfresh
    refine ⟨action', ?_, ?_, hname'.trans hname, ?_⟩
    · rw [addAll, List.foldlM_cons, hadd]
      exact hall
    · rw [List.map_cons, List.map_cons, addArguments, hadd]
      exact hlist
    · rw [hargs', hargs, List.append_assoc]
      rfl

/-! ## The document -/

/-- The element of an argument. -/
def argumentNode (arg : ActionArgument) : Node :=
  .element arg.name [] (if arg.value.text = [] then [] else [.text arg.value.text])

/-- The document of a request: an envelope with a body with the action with its arguments. -/
def requestDocument (name : Str) (args : List ActionArgument) : Node :=
  .document [.element "Envelope".toList [("encodingStyle".toList, soapEncoding)]
    [.element "Body".toList [] [.element name [] (args.map argumentNode)]]]

/-- An element with a text. -/
def textNode (name text : Str) : Node := .element name [] (if text = [] then [] else [.text text])

theorem toNode_parameter (p : Parameter) :
    p.tree.toNode = textNode (utf8 p.name) (utf8 (p.items.map TextItem.char)) := by
  rw [Parameter.tree, textNode, toNode]
  by_cases hp : p.items = []
  · rw [if_pos hp, hp]
    rfl
  · rw [if_neg hp, if_neg fun htext => hp (List.map_eq_nil_iff.1 (utf8_eq_nil.1 htext))]
    rfl

theorem toNode_tree {arg : ActionArgument} {p : Parameter} (h : Written glib arg p) :
    p.tree.toNode = argumentNode arg := by
  rw [toNode_parameter, ← h.name, ← h.text]
  rfl

theorem toNodes_trees {parameters : List Parameter}
    (h : List.Forall₂ (Written glib) args parameters) :
    toNodes (parameters.map Parameter.tree) = args.map argumentNode := by
  induction h with
  | nil => rfl
  | cons hp _ ih => rw [List.map_cons, List.map_cons, toNodes, toNode_tree hp, ih]

/-- The tree of an envelope. -/
theorem toNode_envelope (inner : Markup) :
    (Markup.element (some ['s'], "Envelope".toList)
      [.declare ['s'] soapEnvelope, .plain (some ['s'], "encodingStyle".toList) soapEncoding]
      [.element (some ['s'], "Body".toList) [] [inner]]).toNode =
    .element "Envelope".toList [("encodingStyle".toList, soapEncoding)]
      [.element "Body".toList [] [inner.toNode]] := by
  have hattributes : [Attribute.declare ['s'] soapEnvelope,
      .plain (some ['s'], "encodingStyle".toList) soapEncoding].filterMap Attribute.toNode =
      [("encodingStyle".toList, soapEncoding)] := by
    have hname : utf8 "encodingStyle".toList = "encodingStyle".toList := utf8_of_all (by decide)
    have hvalue : utf8 soapEncoding = soapEncoding := utf8_of_all (by decide)
    simp only [List.filterMap_cons, List.filterMap_nil, Attribute.toNode, hname, hvalue]
  have henvelope : utf8 "Envelope".toList = "Envelope".toList := utf8_of_all (by decide)
  have hbody : utf8 "Body".toList = "Body".toList := utf8_of_all (by decide)
  rw [toNode, hattributes, henvelope, toNodes, toNodes, toNode, hbody, toNodes, toNodes]
  rfl

theorem toNode_requestTree {name serviceType : List Char} {parameters : List Parameter}
    (h : List.Forall₂ (Written glib) args parameters) :
    .document [(requestTree name serviceType parameters).toNode] =
      requestDocument (utf8 name) args := by
  have haction : (actionTree name serviceType parameters).toNode =
      .element (utf8 name) [] (args.map argumentNode) := by
    rw [actionTree, toNode, toNodes_trees h]
    rfl
  rw [requestTree, toNode_envelope, haction]
  rfl

/-! ## Reading the arguments -/

theorem ofDocument_requestDocument (name : Str) (args : List ActionArgument) :
    ServiceAction.ofDocument (requestDocument name args) name =
      some ⟨name, .element name [] (args.map argumentNode), args.length⟩ := by
  have hone : ∀ (n : Str) a c, firstNamed n [.element n a c] = some (.element n a c) := by
    intro n a c
    simp only [firstNamed, List.find?_cons, Node.name, beq_self_eq_true]
  have hcount : (args.map argumentNode).countP Node.isElement = args.length := by
    rw [List.countP_eq_length.2, List.length_map]
    intro node hnode
    obtain ⟨arg, -, rfl⟩ := List.mem_map.1 hnode
    rfl
  unfold ServiceAction.ofDocument requestDocument
  simp only [getElement, Node.children, hone, Option.bind_some, Option.map_some, hcount]

theorem content_textNode (name text : Str) : (textNode name text).content = text := by
  unfold textNode
  split
  · rename_i htext
    rw [htext]
    rfl
  · exact List.append_nil _

theorem content_argumentNode (arg : ActionArgument) : (argumentNode arg).content = arg.value.text :=
  content_textNode arg.name arg.value.text

/-- Each argument is found by its name and read back. -/
theorem getValue_argument (hdistinct : (args.map ActionArgument.name).Nodup) {arg : ActionArgument}
    (harg : arg ∈ args) (hvalue : arg.value.Carried) {value : GValue}
    (htype : value.type = arg.value.type) (count : Nat) :
    ServiceAction.getValue glib ⟨name, .element name [] (args.map argumentNode), count⟩ arg.name value =
      some (arg.value, true) := by
  have hnames : ((args.map argumentNode).map Node.name).Nodup := by
    rw [List.map_map]
    have hcomp : Node.name ∘ argumentNode = some ∘ ActionArgument.name := rfl
    rw [hcomp, ← List.map_map]
    exact hdistinct.map fun _ _ h => Option.some.inj h
  have helements : ∀ node ∈ args.map argumentNode, node.isElement := by
    intro node hnode
    obtain ⟨a, -, rfl⟩ := List.mem_map.1 hnode
    rfl
  have hfind : ServiceAction.findArgument arg.name (args.map argumentNode) =
      some (some (argumentNode arg)) :=
    ServiceAction.findArgument_of_mem hnames helements (List.mem_map_of_mem harg)
  unfold ServiceAction.getValue
  simp only [Node.children, hfind, Option.bind_eq_bind, Option.bind_some]
  rw [GValue.setValueFromXmlNode, content_argumentNode,
    GValue.setValueFromString_text glib hvalue htype]

/-! ## The whole way -/

/-- A service type that may be a namespace name, as its bytes. -/
def IsServiceType (serviceType : Str) : Prop :=
  ∃ chars, IsNamespaceName chars ∧ serviceType = utf8 chars

/-- Every argument arrives at the service in its place, and is read by its name as its own type. -/
theorem arguments_arrive {parse : Str → Option Node} (hparse : Reads parse) (glib : GLib)
    (name serviceType : Str) (args : List ActionArgument) (hname : IsName name)
    (hservice : IsServiceType serviceType)
    (hargs : ∀ arg ∈ args, IsName arg.name ∧ arg.value.Carried)
    (hdistinct : (args.map ActionArgument.name).Nodup) :
    ∃ action message received,
      addAll (newPlain name) args = some action ∧
      newFromList name (args.map ActionArgument.name) (args.map ActionArgument.value) = action ∧
      (serialize glib action serviceType).msgStr = some message ∧
      parse message = some (requestDocument name args) ∧
      ServiceAction.ofDocument (requestDocument name args) name = some received ∧
      received.argumentCount = args.length ∧
      ∀ arg ∈ args, ∀ value : GValue, value.type = arg.value.type →
        received.getValue glib arg.name value = some (arg.value, true) := by
  have hmap : MapOk (newPlain name) := by
    intro n
    constructor
    · intro hsome
      cases hsome
    · intro hmem
      cases hmem
  have hfresh : ∀ arg ∈ args, arg.name ∉ (newPlain name).args.map ActionArgument.name :=
    fun _ _ hmem => absurd hmem List.not_mem_nil
  obtain ⟨action, hall, hlist, haction, hactionArgs⟩ := addAll_of_fresh hmap hdistinct hfresh
  obtain ⟨parameters, hwritten⟩ := exists_allWritten glib hargs
  obtain ⟨chars, hchars, rfl⟩ := hname
  obtain ⟨service, hnamespace, rfl⟩ := hservice
  have hargsEq : action.args = args := hactionArgs
  have hserialize := serialize_render service haction (hargsEq ▸ hwritten)
  have hread := hparse (requestTree chars service parameters) rfl
    (requestTree_wellFormed hchars hnamespace (ok_of_allWritten hwritten))
  rw [toNode_requestTree hwritten] at hread
  exact ⟨action, _, _, hall, hlist, hserialize, hread, ofDocument_requestDocument _ args, rfl,
    fun arg harg value htype => getValue_argument hdistinct harg (hargs arg harg).2 htype _⟩

/-- The arguments of `Seek`, with a target that has to be escaped. -/
def seekArguments : List ActionArgument :=
  [⟨"InstanceID".toList, .uint 0⟩, ⟨"Target".toList, .string (some "<&\">".toList)⟩,
    ⟨"Offset".toList, .int (-5)⟩]

theorem isName_of_ascii {name : Str} (h : IsNcName name)
    (hascii : name.all (fun c => decide (c.toNat < 128)) = true) : IsName name :=
  ⟨name, h, (utf8_of_all hascii).symm⟩

theorem isName_seek : IsName "Seek".toList :=
  isName_of_ascii (isNcName_of_all rfl (by decide) (by decide)) (by decide)

theorem isServiceType_seek : IsServiceType "urn:schemas-upnp-org:service:AVTransport:1".toList := by
  have hplain : "urn:schemas-upnp-org:service:AVTransport:1".toList.all isPlain = true := by decide
  exact ⟨_, ⟨by decide, by decide, fun c hc => (plain_of_all hplain c hc).2⟩,
    (utf8_of_all (by decide)).symm⟩

theorem seekArguments_ok : ∀ arg ∈ seekArguments, IsName arg.name ∧ arg.value.Carried := by
  intro arg harg
  unfold seekArguments at harg
  rcases List.mem_cons.1 harg with rfl | harg
  · exact ⟨isName_of_ascii (isNcName_of_all rfl (by decide) (by decide)) (by decide), trivial⟩
  rcases List.mem_cons.1 harg with rfl | harg
  · have hplain : "<&\">".toList.all (fun c => decide (IsXmlChar c ∧ c ≠ '\r')) = true := by decide
    exact ⟨isName_of_ascii (isNcName_of_all rfl (by decide) (by decide)) (by decide), "<&\">".toList,
      fun c hc => of_decide_eq_true (List.all_eq_true.1 hplain c hc),
      (utf8_of_all (by decide)).symm⟩
  · obtain rfl := List.mem_singleton.1 harg
    exact ⟨isName_of_ascii (isNcName_of_all rfl (by decide) (by decide)) (by decide), trivial⟩

theorem arguments_arrive_sample :
    Reads parse ∧ IsName "Seek".toList ∧
      IsServiceType "urn:schemas-upnp-org:service:AVTransport:1".toList ∧
      (∀ arg ∈ seekArguments, IsName arg.name ∧ arg.value.Carried) ∧
      (seekArguments.map ActionArgument.name).Nodup ∧
      ∃ action message received,
        addAll (newPlain "Seek".toList) seekArguments = some action ∧
        newFromList "Seek".toList (seekArguments.map ActionArgument.name)
          (seekArguments.map ActionArgument.value) = action ∧
        (serialize .plain action "urn:schemas-upnp-org:service:AVTransport:1".toList).msgStr =
          some message ∧
        parse message = some (requestDocument "Seek".toList seekArguments) ∧
        ServiceAction.ofDocument (requestDocument "Seek".toList seekArguments) "Seek".toList =
          some received ∧
        received.argumentCount = 3 ∧
        ∀ arg ∈ seekArguments, ∀ value : GValue, value.type = arg.value.type →
          received.getValue .plain arg.name value = some (arg.value, true) :=
  ⟨reads_parse, isName_seek, isServiceType_seek, seekArguments_ok, by decide,
    arguments_arrive reads_parse .plain _ _ _ isName_seek isServiceType_seek seekArguments_ok
      (by decide)⟩

/-- The service's view of an action: from the arguments to what the service parses. -/
def receive (name serviceType : Str) (args : List ActionArgument) : Option ServiceAction := do
  let action ← addAll (newPlain name) args
  let message ← (serialize .plain action serviceType).msgStr
  let document ← parse message
  ServiceAction.ofDocument document name

/-- An argument `u:a` has a valid XML name, but in the message its prefix is the one of the action,
and the service knows it as `a`. With an empty service type the prefix of the action is not declared,
and the service does not find the action. -/
theorem argument_lost :
    ((receive "Set".toList "urn:x".toList [⟨"u:a".toList, .int 1⟩]).bind fun received =>
      received.getValue .plain "u:a".toList (.int 0)) = some (.int 0, false) ∧
    (receive "Set".toList [] []).isNone := by
  decide +kernel

end GUPnP.Control
