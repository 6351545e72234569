import GUPnP.GValue.RoundTrip
import GUPnP.ServiceProxyAction.Model

/-!
# The request of an action

`serialize` puts the message together out of order: the arguments behind the header, and then the
start tag of the action before them (`serialize_msgStr`). The result is the rendering of a well-formed
document, `requestTree` (`serialize_render`, `requestTree_wellFormed`).
-/

set_option autoImplicit false

namespace GUPnP.ServiceProxyAction

open Xml Markup

variable {glib : GLib} {action : Action} {name serviceType : Str}

/-! ## Putting the message together -/

theorem gStringInsert_append (a b val : Str) : gStringInsert (a ++ b) a.length val = a ++ val ++ b := by
  rw [gStringInsert, List.take_left, List.drop_left]

/-- Insertions at the position of the header go one behind the other. -/
theorem foldl_insertAtHeader (a b : Str) (vals : List Str) :
    vals.foldl insertAtHeader (a ++ b, a.length) =
      (a ++ vals.flatten ++ b, (a ++ vals.flatten).length) := by
  induction vals generalizing a with
  | nil => rw [List.flatten_nil, List.append_nil]; rfl
  | cons val vals ih =>
    have hlength : a.length + val.length = (a ++ val).length := List.length_append.symm
    rw [List.foldl_cons, insertAtHeader, gStringInsert_append, hlength, ih, List.flatten_cons,
      List.append_assoc a]

/-- The arguments in the message. -/
def argumentsStr (glib : GLib) (args : List ActionArgument) : Str :=
  args.flatMap fun arg => startElement arg.name ++ (arg.value.valueAppendToXmlString glib).1 ++
    endElement arg.name

theorem foldl_writeInParameter (args : List ActionArgument) (msgStr : Str) :
    args.foldl (writeInParameter glib) msgStr = msgStr ++ argumentsStr glib args := by
  induction args generalizing msgStr with
  | nil => exact (List.append_nil msgStr).symm
  | cons arg args ih =>
    have hcons : argumentsStr glib (arg :: args) = startElement arg.name ++
        (arg.value.valueAppendToXmlString glib).1 ++ endElement arg.name ++ argumentsStr glib args :=
      List.flatMap_cons
    rw [List.foldl_cons, ih, writeInParameter, hcons]
    simp only [List.append_assoc]

/-- The message is in order in the end. -/
theorem serialize_msgStr (action : Action) (serviceType : Str) :
    (serialize glib action serviceType).msgStr = some (header ++ "<u:".toList ++ action.name ++
      " xmlns:u=\"".toList ++ serviceType ++ "\">".toList ++ argumentsStr glib action.args ++
      "</u:".toList ++ action.name ++ ['>'] ++ "</s:Body></s:Envelope>".toList) := by
  have hfooter : writeFooter action (action.args.foldl (writeInParameter glib) header) =
      header ++ (argumentsStr glib action.args ++ "</u:".toList ++ action.name ++ ['>'] ++
        "</s:Body></s:Envelope>".toList) := by
    unfold writeFooter
    rw [foldl_writeInParameter]
    simp only [List.append_assoc]
  unfold serialize
  dsimp only
  rw [hfooter, foldl_insertAtHeader]
  dsimp only
  rw [gStringInsert_append]
  simp only [List.flatten_cons, List.flatten_nil, List.append_assoc, List.append_nil]

/-! ## The document -/

/-- An argument with the text that is written for its value. -/
structure Parameter where
  name : List Char
  items : List TextItem

/-- The element of an argument. -/
def Parameter.tree (p : Parameter) : Markup :=
  .element (none, p.name) [] (if p.items = [] then [] else [.text p.items])

def soapEnvelope : List Char := "http://schemas.xmlsoap.org/soap/envelope/".toList

def soapEncoding : List Char := "http://schemas.xmlsoap.org/soap/encoding/".toList

/-- The element of the action. -/
def actionTree (name serviceType : List Char) (parameters : List Parameter) : Markup :=
  .element (some ['u'], name) [.declare ['u'] serviceType] (parameters.map Parameter.tree)

/-- The document of a request. -/
def requestTree (name serviceType : List Char) (parameters : List Parameter) : Markup :=
  .element (some ['s'], "Envelope".toList)
    [.declare ['s'] soapEnvelope, .plain (some ['s'], "encodingStyle".toList) soapEncoding]
    [.element (some ['s'], "Body".toList) [] [actionTree name serviceType parameters]]

section
variable {parameters : List Parameter} {text : List Char}

theorem header_eq : header = xmlDeclaration ++ "<s:Envelope xmlns:s=\"".toList ++ soapEnvelope ++
    "\" s:encodingStyle=\"".toList ++ soapEncoding ++ "\"><s:Body>".toList := by
  unfold header xmlDeclaration soapEnvelope soapEncoding
  simp only [String.reduceToList, List.cons_append, List.nil_append]

theorem utf8_header : utf8 header = header := utf8_of_all (by decide +kernel)

theorem render_tree (p : Parameter) :
    p.tree.render = startElement p.name ++ p.items.flatMap TextItem.render ++ endElement p.name := by
  have hchildren : renders (if p.items = [] then [] else [.text p.items]) =
      p.items.flatMap TextItem.render := by
    split
    · rename_i hitems
      rw [hitems]
      rfl
    · rw [renders, renders, render, List.append_nil]
  rw [Parameter.tree, render, hchildren]
  simp only [QName.render, startElement, endElement, List.flatMap_nil, List.append_assoc,
    List.append_nil, List.cons_append, List.nil_append, String.reduceToList]

theorem render_requestTree (name serviceType : List Char) (parameters : List Parameter) :
    xmlDeclaration ++ (requestTree name serviceType parameters).render =
      header ++ "<u:".toList ++ name ++ " xmlns:u=\"".toList ++ serviceType ++ "\">".toList ++
        renders (parameters.map Parameter.tree) ++ "</u:".toList ++ name ++ ['>'] ++
        "</s:Body></s:Envelope>".toList := by
  rw [header_eq]
  simp only [requestTree, actionTree, render, renders, QName.render, Attribute.render,
    List.flatMap_cons, List.flatMap_nil, List.append_assoc, List.append_nil, List.cons_append,
    List.nil_append, String.reduceToList]

end

/-! ## Well-formedness -/

theorem isNcName_of_all {name : List Char} {c : Char} {rest : List Char} (h : name = c :: rest)
    (hstart : IsNameStartChar c) (hall : name.all (fun c => decide (IsNameChar c)) = true) :
    IsNcName name :=
  ⟨⟨c, rest, h, hstart⟩, fun d hd => of_decide_eq_true (List.all_eq_true.1 hall d hd)⟩

theorem isNcName_s : IsNcName ['s'] := isNcName_of_all rfl (by decide) (by decide)

theorem isNcName_u : IsNcName ['u'] := isNcName_of_all rfl (by decide) (by decide)

theorem isNcName_envelope : IsNcName "Envelope".toList := isNcName_of_all rfl (by decide) (by decide)

theorem isNcName_body : IsNcName "Body".toList := isNcName_of_all rfl (by decide) (by decide)

theorem isNcName_encodingStyle : IsNcName "encodingStyle".toList :=
  isNcName_of_all rfl (by decide) (by decide)

/-- A character of an address, which may stand in any attribute. -/
def isPlain (c : Char) : Bool :=
  32 ≤ c.toNat ∧ IsXmlChar c ∧ c ≠ '<' ∧ c ≠ '&' ∧ c ≠ '"'

theorem plain_of_all {value : List Char} (h : value.all isPlain = true) :
    ∀ c ∈ value, 32 ≤ c.toNat ∧ IsXmlChar c ∧ c ≠ '<' ∧ c ≠ '&' ∧ c ≠ '"' :=
  fun c hc => of_decide_eq_true (List.all_eq_true.1 h c hc)

theorem plain_soapEnvelope :
    ∀ c ∈ soapEnvelope, 32 ≤ c.toNat ∧ IsXmlChar c ∧ c ≠ '<' ∧ c ≠ '&' ∧ c ≠ '"' :=
  plain_of_all (by decide)

theorem plain_soapEncoding :
    ∀ c ∈ soapEncoding, 32 ≤ c.toNat ∧ IsXmlChar c ∧ c ≠ '<' ∧ c ≠ '&' ∧ c ≠ '"' :=
  plain_of_all (by decide)

/-- A parameter that may be written. -/
structure Parameter.Ok (p : Parameter) : Prop where
  name : IsNcName p.name
  items : ∀ item ∈ p.items, item.WellFormed

theorem tree_wellFormed {scope : List (List Char)} {p : Parameter} (h : p.Ok) :
    p.tree.WellFormed scope := by
  have hname : NameIn (scopeIn scope []) (none, p.name) :=
    ⟨fun q hq => absurd hq.symm (Option.some_ne_none q), h.name⟩
  refine ⟨hname, fun a ha => absurd ha List.not_mem_nil, List.nodup_nil, List.nodup_nil, ?_⟩
  split
  · trivial
  · rename_i hitems
    exact allWellFormed_cons ⟨hitems, h.items⟩ trivial

theorem allWellFormed_trees {scope : List (List Char)} {parameters : List Parameter}
    (h : ∀ p ∈ parameters, p.Ok) :
    AllWellFormed scope false (parameters.map Parameter.tree) := by
  induction parameters with
  | nil => trivial
  | cons p parameters ih =>
    exact allWellFormed_cons (tree_wellFormed (h p List.mem_cons_self))
      (ih fun q hq => h q (List.mem_cons_of_mem p hq))

/-- A name with the prefix that an element declares. -/
theorem nameIn_declared {scope : List (List Char)} {nsPrefix name : List Char} (h : IsNcName name) :
    NameIn (nsPrefix :: scope) (some nsPrefix, name) := by
  refine ⟨fun p hp => ?_, h⟩
  obtain rfl := Option.some.inj hp
  exact List.mem_cons_self

theorem actionTree_wellFormed {scope : List (List Char)} {name serviceType : List Char}
    {parameters : List Parameter} (hname : IsNcName name) (hservice : IsNamespaceName serviceType)
    (h : ∀ p ∈ parameters, p.Ok) : (actionTree name serviceType parameters).WellFormed scope := by
  refine ⟨nameIn_declared hname, fun a ha => ?_, List.nodup_singleton ['u'], List.nodup_nil,
    allWellFormed_trees h⟩
  obtain rfl := List.mem_singleton.1 ha
  exact ⟨isNcName_u, by decide, by decide, hservice⟩

theorem isNamespaceName_soapEnvelope : IsNamespaceName soapEnvelope :=
  ⟨by decide, by decide, fun c hc => (plain_soapEnvelope c hc).2⟩

/-- An envelope around an element. -/
theorem envelope_wellFormed {inner : Markup} (h : inner.WellFormed [['s']]) :
    (Markup.element (some ['s'], "Envelope".toList)
      [.declare ['s'] soapEnvelope, .plain (some ['s'], "encodingStyle".toList) soapEncoding]
      [.element (some ['s'], "Body".toList) [] [inner]]).WellFormed [] := by
  have hbody : (Markup.element (some ['s'], "Body".toList) [] [inner]).WellFormed [['s']] :=
    ⟨nameIn_declared isNcName_body, fun a ha => absurd ha List.not_mem_nil, List.nodup_nil,
      List.nodup_nil, allWellFormed_cons h trivial⟩
  refine ⟨nameIn_declared isNcName_envelope, fun a ha => ?_, List.nodup_singleton ['s'],
    List.nodup_singleton "encodingStyle".toList, allWellFormed_cons hbody trivial⟩
  rcases List.mem_cons.1 ha with rfl | ha
  · exact ⟨isNcName_s, by decide, by decide, isNamespaceName_soapEnvelope⟩
  · obtain rfl := List.mem_singleton.1 ha
    exact ⟨nameIn_declared isNcName_encodingStyle, by decide, plain_soapEncoding⟩

theorem requestTree_wellFormed {name serviceType : List Char} {parameters : List Parameter}
    (hname : IsNcName name) (hservice : IsNamespaceName serviceType) (h : ∀ p ∈ parameters, p.Ok) :
    (requestTree name serviceType parameters).WellFormed [] :=
  envelope_wellFormed (actionTree_wellFormed hname hservice h)

/-! ## Bytes -/

/-- A parameter is what is written for an argument. -/
structure Written (glib : GLib) (arg : ActionArgument) (p : Parameter) : Prop where
  ok : p.Ok
  name : arg.name = utf8 p.name
  items : (arg.value.valueAppendToXmlString glib).1 = utf8 (p.items.flatMap TextItem.render)
  text : arg.value.text = utf8 (p.items.map TextItem.char)

/-- A name, as its bytes. -/
def IsName (name : Str) : Prop := ∃ chars, IsNcName chars ∧ name = utf8 chars

theorem exists_written (glib : GLib) {arg : ActionArgument} (hname : IsName arg.name)
    (hvalue : arg.value.Carried) : ∃ p, Written glib arg p := by
  obtain ⟨chars, hchars, hbytes⟩ := hname
  obtain ⟨items, hitems, hwritten, htext⟩ := GValue.exists_items glib hvalue
  exact ⟨⟨chars, items⟩, ⟨hchars, hitems⟩, hbytes, hwritten, htext⟩

theorem exists_allWritten (glib : GLib) {args : List ActionArgument}
    (h : ∀ arg ∈ args, IsName arg.name ∧ arg.value.Carried) :
    ∃ parameters, List.Forall₂ (Written glib) args parameters := by
  induction args with
  | nil => exact ⟨[], .nil⟩
  | cons arg args ih =>
    obtain ⟨p, hp⟩ := exists_written glib (h arg List.mem_cons_self).1
      (h arg List.mem_cons_self).2
    obtain ⟨parameters, hparameters⟩ := ih fun a ha => h a (List.mem_cons_of_mem arg ha)
    exact ⟨p :: parameters, .cons hp hparameters⟩

theorem ok_of_allWritten {args : List ActionArgument} {parameters : List Parameter}
    (h : List.Forall₂ (Written glib) args parameters) : ∀ p ∈ parameters, p.Ok := by
  induction h with
  | nil => exact fun p hp => absurd hp List.not_mem_nil
  | cons hp _ ih =>
    intro q hq
    rcases List.mem_cons.1 hq with rfl | hq
    · exact hp.ok
    · exact ih q hq

theorem utf8_startElement (name : List Char) : startElement (utf8 name) = utf8 (startElement name) := by
  have hlt : utf8 ['<'] = ['<'] := utf8_of_all (by decide)
  have hgt : utf8 ['>'] = ['>'] := utf8_of_all (by decide)
  rw [startElement, startElement, utf8_append, utf8_append, hlt, hgt]

theorem utf8_endElement (name : List Char) : endElement (utf8 name) = utf8 (endElement name) := by
  have hlt : utf8 "</".toList = "</".toList := utf8_of_all (by decide)
  have hgt : utf8 ['>'] = ['>'] := utf8_of_all (by decide)
  rw [endElement, endElement, utf8_append, utf8_append, hlt, hgt]

theorem argumentsStr_eq {args : List ActionArgument} {parameters : List Parameter}
    (h : List.Forall₂ (Written glib) args parameters) :
    argumentsStr glib args = utf8 (renders (parameters.map Parameter.tree)) := by
  induction h with
  | nil => rfl
  | @cons arg p args parameters hp _ ih =>
    rw [List.map_cons, renders, utf8_append, render_tree, ← ih, utf8_append, utf8_append,
      ← utf8_startElement, ← utf8_endElement, ← hp.name, ← hp.items]
    exact List.flatMap_cons

/-- The message is the document of the request. -/
theorem serialize_render {name : List Char} (serviceType : List Char) {parameters : List Parameter}
    (hname : action.name = utf8 name)
    (hargs : List.Forall₂ (Written glib) action.args parameters) :
    (serialize glib action (utf8 serviceType)).msgStr =
      some (utf8 (xmlDeclaration ++ (requestTree name serviceType parameters).render)) := by
  rw [serialize_msgStr, argumentsStr_eq hargs, hname, render_requestTree]
  simp only [utf8_append]
  rw [utf8_header, utf8_of_all (s := "<u:".toList) (by decide),
    utf8_of_all (s := " xmlns:u=\"".toList) (by decide), utf8_of_all (s := "\">".toList) (by decide),
    utf8_of_all (s := "</u:".toList) (by decide), utf8_of_all (s := ['>']) (by decide),
    utf8_of_all (s := "</s:Body></s:Envelope>".toList) (by decide)]

end GUPnP.ServiceProxyAction
