import GUPnP.Base.Table
import GUPnP.Control.Arguments
import GUPnP.Gena.Protocol

/-!
# What an event carries

`createPropertySetStr` writes the queued notifications of a service (`create_property_set`), and
`emitNotificationsForDoc` hands the document of an event to the callbacks of a proxy
(`emit_notifications_for_doc`), while these leave the proxy alone. `event_contents_arrive`: the
callbacks of each variable are called with what their type reads in the values that were queued, in
their order, and the raw callbacks with the document after them. A callback that takes the type of the
value gets the value itself.
-/

set_option autoImplicit false

namespace GUPnP.Eventing

open Xml Markup ServiceProxyAction

/-! ## Writing a property set -/

/-- What `create_property_set` appends for a queued notification, a variable and its value. -/
def propertyStr (glib : GLib) (data : ActionArgument) : Str :=
  startElement "e:property".toList ++ startElement data.name ++
    (data.value.valueAppendToXmlString glib).1 ++ endElement data.name ++
    endElement "e:property".toList

/-- What every property set starts with. -/
def propertySetHeader : Str :=
  "<?xml version=\"1.0\"?>".toList ++ "<e:propertyset xmlns:e=".toList ++
    "\"urn:schemas-upnp-org:event-1-0\">".toList

/-- `create_property_set`: the contents of the `GBytes`. -/
def createPropertySetStr (glib : GLib) (queue : List ActionArgument) : Str :=
  propertySetHeader ++ queue.flatMap (propertyStr glib) ++ "</e:propertyset>".toList

/-! ## Calling the callbacks -/

/-- A call of a callback: with the value of a variable, or, of a raw one, with the document. -/
inductive Call where
  | notify (callback : Nat) (name : Str) (value : GValue)
  | raw (callback : Nat) (doc : Node)

/-- The records of `notify_hash`: their types and their callbacks. -/
structure NotifyHash where
  records : Table Str (GType × List Nat)
  raw : List Nat

/-- `emit_notification`. A node without a name is looked up as `NULL`. -/
def emitNotification (glib : GLib) (hash : NotifyHash) (varNode : Node) : Option (List Call) := do
  let name ← varNode.name
  match hash.records.lookup name with
  | none => some []
  | some (type, callbacks) =>
    match (GValue.init glib type).setValueFromXmlNode glib varNode with
    | (_, false) => some []
    | (value, true) => some (callbacks.map (.notify · name value))

/-- The inner loop of `emit_notifications_for_doc`, below the node `node`. -/
def emitProperty (glib : GLib) (hash : NotifyHash) (node : Node) : Option (List Call) := do
  let calls ← node.children.mapM fun varNode => do
    let name ← node.name
    if name = "property".toList then emitNotification glib hash varNode else some []
  some calls.flatten

/-- `xmlDocGetRootElement`. -/
def rootElement (doc : Node) : Option Node := doc.children.find? Node.isElement

/-- `emit_notifications_for_doc`. -/
def emitNotificationsForDoc (glib : GLib) (hash : NotifyHash) (doc : Node) : Option (List Call) := do
  let root ← rootElement doc
  let calls ← root.children.mapM (emitProperty glib hash)
  some (calls.flatten ++ hash.raw.map (.raw · doc))

/-- The document of an event as far as the subscription of a proxy is concerned. -/
def xmlDocOf (doc : Node) : XmlDoc where
  root := (rootElement doc).bind Node.name
  properties :=
    (((rootElement doc).map Node.children).getD []).flatMap fun node =>
      if node.name = some "property".toList then
        node.children.filterMap fun varNode => varNode.name.map fun name => (name, varNode.content)
      else []

variable {glib : GLib} {hash : NotifyHash} {queue : List ActionArgument} {data : ActionArgument}
  {parameters : List Parameter}

/-! ## The markup of a property set -/

def eventNamespace : List Char := "urn:schemas-upnp-org:event-1-0".toList

/-- The element of one variable. -/
def propertyTree (p : Parameter) : Markup := .element (some ['e'], "property".toList) [] [p.tree]

def propertySetTree (parameters : List Parameter) : Markup :=
  .element (some ['e'], "propertyset".toList) [.declare ['e'] eventNamespace]
    (parameters.map propertyTree)

theorem render_propertyTree (p : Parameter) :
    (propertyTree p).render = startElement "e:property".toList ++ p.tree.render ++
      endElement "e:property".toList := by
  simp only [propertyTree, render, renders, QName.render, startElement, endElement,
    List.flatMap_nil, List.append_assoc, List.append_nil, List.cons_append, List.nil_append,
    String.reduceToList]

theorem propertySetHeader_eq : propertySetHeader =
    xmlDeclaration ++ "<e:propertyset xmlns:e=\"".toList ++ eventNamespace ++ "\">".toList := by
  unfold propertySetHeader xmlDeclaration eventNamespace
  simp only [String.reduceToList, List.cons_append, List.nil_append]

theorem render_propertySetTree (parameters : List Parameter) :
    xmlDeclaration ++ (propertySetTree parameters).render =
      propertySetHeader ++ renders (parameters.map propertyTree) ++ "</e:propertyset>".toList := by
  rw [propertySetHeader_eq]
  simp only [propertySetTree, render, QName.render, Attribute.render, List.flatMap_cons,
    List.flatMap_nil, List.append_assoc, List.append_nil, List.cons_append, List.nil_append,
    String.reduceToList]

/-- A property is written as its markup. -/
theorem propertyStr_eq {p : Parameter} (h : Written glib data p) :
    propertyStr glib data = utf8 (propertyTree p).render := by
  rw [render_propertyTree, render_tree, propertyStr, h.name, h.items, utf8_startElement,
    utf8_endElement]
  simp only [utf8_append]
  rw [utf8_of_all (s := startElement "e:property".toList) (by decide),
    utf8_of_all (s := endElement "e:property".toList) (by decide)]
  simp only [List.append_assoc]

theorem flatMap_propertyStr (h : List.Forall₂ (Written glib) queue parameters) :
    queue.flatMap (propertyStr glib) = utf8 (renders (parameters.map propertyTree)) := by
  induction h with
  | nil => rfl
  | cons hp _ ih =>
    rw [List.flatMap_cons, List.map_cons, renders, utf8_append, ← ih, propertyStr_eq hp]

/-- What the service writes is the rendering of the markup. -/
theorem createPropertySetStr_eq (h : List.Forall₂ (Written glib) queue parameters) :
    createPropertySetStr glib queue =
      utf8 (xmlDeclaration ++ (propertySetTree parameters).render) := by
  rw [createPropertySetStr, flatMap_propertyStr h, render_propertySetTree]
  simp only [utf8_append]
  rw [utf8_of_all (s := propertySetHeader) (by decide +kernel),
    utf8_of_all (s := "</e:propertyset>".toList) (by decide)]

/-! ## Well-formedness -/

theorem isNcName_e : IsNcName ['e'] := isNcName_of_all rfl (by decide) (by decide)

theorem isNamespaceName_event : IsNamespaceName eventNamespace := by
  have hplain : eventNamespace.all isPlain = true := by decide
  exact ⟨by decide, by decide, fun c hc => (plain_of_all hplain c hc).2⟩

theorem allWellFormed_properties {scope : List (List Char)} (hscope : ['e'] ∈ scope)
    (h : ∀ p ∈ parameters, p.Ok) : AllWellFormed scope false (parameters.map propertyTree) := by
  induction parameters with
  | nil => trivial
  | cons p parameters ih =>
    have hname : NameIn (scopeIn scope []) (some ['e'], "property".toList) := by
      refine ⟨fun q hq => ?_, isNcName_of_all rfl (by decide) (by decide)⟩
      obtain rfl := Option.some.inj hq
      exact hscope
    have hproperty : (propertyTree p).WellFormed scope :=
      ⟨hname, fun a ha => absurd ha List.not_mem_nil, List.nodup_nil, List.nodup_nil,
        allWellFormed_cons (tree_wellFormed (h p List.mem_cons_self)) trivial⟩
    exact allWellFormed_cons hproperty (ih fun q hq => h q (List.mem_cons_of_mem p hq))

theorem propertySetTree_wellFormed (h : ∀ p ∈ parameters, p.Ok) :
    (propertySetTree parameters).WellFormed [] := by
  refine ⟨nameIn_declared (isNcName_of_all rfl (by decide) (by decide)), fun a ha => ?_,
    List.nodup_singleton ['e'], List.nodup_nil, allWellFormed_properties List.mem_cons_self h⟩
  obtain rfl := List.mem_singleton.1 ha
  exact ⟨isNcName_e, by decide, by decide, isNamespaceName_event⟩

/-! ## The document of a property set -/

def propertyNode (data : ActionArgument) : Node :=
  .element "property".toList [] [Control.argumentNode data]

/-- What a parser makes of a property set. -/
def propertySetDocument (queue : List ActionArgument) : Node :=
  .document [.element "propertyset".toList [] (queue.map propertyNode)]

theorem toNodes_properties (h : List.Forall₂ (Written glib) queue parameters) :
    toNodes (parameters.map propertyTree) = queue.map propertyNode := by
  have hname : utf8 "property".toList = "property".toList := utf8_of_all (by decide)
  induction h with
  | nil => rfl
  | @cons data p queue parameters hp _ ih =>
    have hproperty : (propertyTree p).toNode = propertyNode data := by
      rw [propertyTree, toNode, toNodes, toNodes, Control.toNode_tree hp, hname]
      rfl
    rw [List.map_cons, List.map_cons, toNodes, hproperty, ih]

theorem toNode_propertySetTree (h : List.Forall₂ (Written glib) queue parameters) :
    .document [(propertySetTree parameters).toNode] = propertySetDocument queue := by
  have hname : utf8 "propertyset".toList = "propertyset".toList := utf8_of_all (by decide)
  rw [propertySetTree, toNode, toNodes_properties h, hname]
  rfl

theorem xmlDocOf_propertySetDocument (queue : List ActionArgument) :
    xmlDocOf (propertySetDocument queue) = ⟨some "propertyset".toList,
      queue.map fun data => (data.name, data.value.text)⟩ := by
  have hproperties : (queue.map propertyNode).flatMap (fun node =>
      if node.name = some "property".toList then
        node.children.filterMap fun varNode => varNode.name.map fun name => (name, varNode.content)
      else []) = queue.map fun data => (data.name, data.value.text) := by
    induction queue with
    | nil => rfl
    | cons data queue ih =>
      have hname : (propertyNode data).name = some "property".toList := rfl
      have hchildren : (propertyNode data).children = [Control.argumentNode data] := rfl
      have hvar : (Control.argumentNode data).name = some data.name := rfl
      rw [List.map_cons, List.flatMap_cons, ih, if_pos hname, hchildren, List.filterMap_cons,
        hvar, Option.map_some, Control.content_argumentNode]
      rfl
  exact congrArg (XmlDoc.mk (some "propertyset".toList)) hproperties

/-! ## The calls -/

/-- What a callback of some type reads in the text of a value: `none` where it takes no texts. -/
def readAs (glib : GLib) (type : GType) (text : Str) : Option GValue :=
  match (GValue.init glib type).setValueFromString glib text with
  | (_, false) => none
  | (value, true) => some value

/-- The calls for a notification. -/
def callsFor (glib : GLib) (hash : NotifyHash) (data : ActionArgument) : List Call :=
  match hash.records.lookup data.name with
  | none => []
  | some (type, callbacks) =>
    match readAs glib type data.value.text with
    | none => []
    | some value => callbacks.map (.notify · data.name value)

/-- A callback of the type of the value reads the value. -/
theorem readAs_text (glib : GLib) {value : GValue} (hcarried : value.Carried) :
    readAs glib value.type value.text = some value := by
  have hinit : (GValue.init glib value.type).type = value.type := GValue.type_init ..
  rw [readAs, GValue.setValueFromString_text glib hcarried hinit]

theorem callsFor_type (glib : GLib) {callbacks : List Nat} (hcarried : data.value.Carried)
    (hrecord : hash.records.lookup data.name = some (data.value.type, callbacks)) :
    callsFor glib hash data = callbacks.map (.notify · data.name data.value) := by
  rw [callsFor, hrecord]
  dsimp only
  rw [readAs_text glib hcarried]

theorem emitNotification_argument (glib : GLib) (hash : NotifyHash) (data : ActionArgument) :
    emitNotification glib hash (Control.argumentNode data) = some (callsFor glib hash data) := by
  have hname : (Control.argumentNode data).name = some data.name := rfl
  unfold emitNotification callsFor
  rw [hname, Option.bind_eq_bind, Option.bind_some]
  cases hrecord : hash.records.lookup data.name with
  | none => rfl
  | some record =>
    obtain ⟨type, callbacks⟩ := record
    dsimp only
    rw [GValue.setValueFromXmlNode, Control.content_argumentNode, readAs]
    cases (GValue.init glib type).setValueFromString glib data.value.text with
    | mk value done => cases done <;> rfl

theorem emitProperty_property (glib : GLib) (hash : NotifyHash) (data : ActionArgument) :
    emitProperty glib hash (propertyNode data) = some (callsFor glib hash data) := by
  have hname : (propertyNode data).name = some "property".toList := rfl
  have hchildren : (propertyNode data).children = [Control.argumentNode data] := rfl
  unfold emitProperty
  rw [hchildren, hname, List.mapM_cons, List.mapM_nil]
  simp only [Option.bind_eq_bind, Option.bind_some, ↓reduceIte,
    emitNotification_argument glib hash data, Option.pure_def, List.flatten_cons,
    List.flatten_nil, List.append_nil]

theorem mapM_emitProperty (glib : GLib) (hash : NotifyHash) (queue : List ActionArgument) :
    (queue.map propertyNode).mapM (emitProperty glib hash) =
      some (queue.map (callsFor glib hash)) := by
  induction queue with
  | nil => rfl
  | cons data queue ih =>
    rw [List.map_cons, List.mapM_cons, emitProperty_property glib hash data, ih]
    rfl

/-- The values of an event arrive at the callbacks of their variables in the order in which they were
queued, each read as the type of the callbacks, and unchanged where that is the type of the value; and
the subscription of the proxy sees a property set with their texts. -/
theorem event_contents_arrive {parse : Str → Option Node} (hparse : Reads parse) (glib glib' : GLib)
    (hash : NotifyHash) (queue : List ActionArgument)
    (hqueue : ∀ data ∈ queue, IsName data.name ∧ data.value.Carried) :
    ∃ doc, parse (createPropertySetStr glib queue) = some doc ∧
      xmlDocOf doc = ⟨some "propertyset".toList, queue.map fun data => (data.name, data.value.text)⟩ ∧
      emitNotificationsForDoc glib' hash doc =
        some (queue.flatMap (callsFor glib' hash) ++ hash.raw.map (.raw · doc)) ∧
      ∀ data ∈ queue, ∀ callbacks,
        hash.records.lookup data.name = some (data.value.type, callbacks) →
        callsFor glib' hash data = callbacks.map (.notify · data.name data.value) := by
  obtain ⟨parameters, hwritten⟩ := exists_allWritten glib hqueue
  have hread := hparse (propertySetTree parameters) rfl
    (propertySetTree_wellFormed (ok_of_allWritten hwritten))
  rw [toNode_propertySetTree hwritten, ← createPropertySetStr_eq hwritten] at hread
  refine ⟨_, hread, xmlDocOf_propertySetDocument queue, ?_, fun data hdata callbacks hrecord =>
    callsFor_type glib' (hqueue data hdata).2 hrecord⟩
  have hroot : rootElement (propertySetDocument queue) =
      some (.element "propertyset".toList [] (queue.map propertyNode)) := rfl
  unfold emitNotificationsForDoc
  rw [hroot, Option.bind_eq_bind, Option.bind_some, Node.children,
    mapM_emitProperty glib' hash queue, Option.bind_eq_bind,
    Option.bind_some, List.flatMap_def]

/-- A proxy with two callbacks for a variable, one that takes the texts of another one, and one raw
callback. -/
def sampleHash : NotifyHash :=
  ⟨((∅ : Table Str (GType × List Nat)).insert "Target".toList (.string, [3, 4])).insert
    "Offset".toList (.string, [5]), [9]⟩

theorem event_contents_arrive_sample :
    ∃ doc, parse (createPropertySetStr .plain Control.seekArguments) = some doc ∧
      xmlDocOf doc = ⟨some "propertyset".toList,
        Control.seekArguments.map fun data => (data.name, data.value.text)⟩ ∧
      emitNotificationsForDoc .plain sampleHash doc =
        some (Control.seekArguments.flatMap (callsFor .plain sampleHash) ++
          sampleHash.raw.map (.raw · doc)) ∧
      ∀ data ∈ Control.seekArguments, ∀ callbacks,
        sampleHash.records.lookup data.name = some (data.value.type, callbacks) →
        callsFor .plain sampleHash data = callbacks.map (.notify · data.name data.value) :=
  event_contents_arrive reads_parse .plain .plain sampleHash Control.seekArguments
    Control.seekArguments_ok

end GUPnP.Eventing
