import GUPnP.Control.Response

/-!
# The response to an action as a document: faults

What `returnError` writes is the rendering of `faultTree` (`render_fault`), whose element `UPnPError`
declares a default namespace. The tree a parser makes of it is `faultDocument`.
-/

set_option autoImplicit false

namespace GUPnP.Control

open Xml Markup ServiceProxyAction Service

variable {action : ActionResponse} {code items : List TextItem}

/-! ## The markup -/

/-- An element with a text. -/
def dataTree (name data : List Char) : Markup := Parameter.tree ⟨name, data.map .data⟩

def controlNamespace : List Char := "urn:schemas-upnp-org:control-1-0".toList

/-- The declaration of the default namespace. -/
def controlDefault : Attribute := .plain (none, "xmlns".toList) controlNamespace

/-- The element `UPnPError`, with these attributes. -/
def errorTree (attributes : List Attribute) (code items : List TextItem) : Markup :=
  .element (none, "UPnPError".toList) attributes
    [Parameter.tree ⟨"errorCode".toList, code⟩, Parameter.tree ⟨"errorDescription".toList, items⟩]

/-- The fault itself. -/
def bodyTree (attributes : List Attribute) (code items : List TextItem) : Markup :=
  .element (some ['s'], "Fault".toList) []
    [dataTree "faultcode".toList "s:Client".toList,
      dataTree "faultstring".toList "UPnPError".toList,
      .element (none, "detail".toList) [] [errorTree attributes code items]]

/-- The document of a fault. -/
def faultTree (attributes : List Attribute) (code items : List TextItem) : Markup :=
  .element (some ['s'], "Envelope".toList)
    [.declare ['s'] soapEnvelope, .plain (some ['s'], "encodingStyle".toList) soapEncoding]
    [.element (some ['s'], "Body".toList) [] [bodyTree attributes code items]]

/-- What a fault has before its code. -/
def faultStart : Str :=
  startElement "s:Fault".toList ++
  startElement "faultcode".toList ++ "s:Client".toList ++ endElement "faultcode".toList ++
  startElement "faultstring".toList ++ "UPnPError".toList ++ endElement "faultstring".toList ++
  startElement "detail".toList ++
  startElement "UPnPError xmlns=\"urn:schemas-upnp-org:control-1-0\"".toList ++
  startElement "errorCode".toList

/-- What it has between the code and the description. -/
def faultMiddle : Str := endElement "errorCode".toList ++ startElement "errorDescription".toList

/-- What it has behind the description. -/
def faultEnd : Str :=
  endElement "errorDescription".toList ++ endElement "UPnPError".toList ++
    endElement "detail".toList ++ endElement "s:Fault".toList

/-- Characters that stand for themselves. -/
theorem render_data (data : List Char) : (data.map TextItem.data).flatMap TextItem.render = data := by
  rw [List.flatMap_map]
  exact List.flatMap_singleton' data

theorem render_dataTree (name data : List Char) :
    (dataTree name data).render = startElement name ++ data ++ endElement name := by
  rw [dataTree, render_tree, render_data]

theorem render_errorTree (code items : List TextItem) :
    (errorTree [controlDefault] code items).render =
      startElement "UPnPError xmlns=\"urn:schemas-upnp-org:control-1-0\"".toList ++
      startElement "errorCode".toList ++ code.flatMap TextItem.render ++
        endElement "errorCode".toList ++
      startElement "errorDescription".toList ++ items.flatMap TextItem.render ++
        endElement "errorDescription".toList ++ endElement "UPnPError".toList := by
  have hstart : '<' :: (QName.render (none, "UPnPError".toList) ++
      [controlDefault].flatMap Attribute.render ++ ['>']) =
      startElement "UPnPError xmlns=\"urn:schemas-upnp-org:control-1-0\"".toList := rfl
  have hend : '<' :: '/' :: (QName.render (none, "UPnPError".toList) ++ ['>']) =
      endElement "UPnPError".toList := rfl
  rw [errorTree, render, renders, renders, renders, render_tree, render_tree, ← hstart, ← hend]
  simp only [List.append_assoc, List.cons_append, List.nil_append, List.append_nil]

theorem render_bodyTree (code items : List TextItem) :
    (bodyTree [controlDefault] code items).render = faultStart ++ code.flatMap TextItem.render ++
    faultMiddle ++
      items.flatMap TextItem.render ++ faultEnd := by
  have hstart : '<' :: (QName.render (some ['s'], "Fault".toList) ++
      ([] : List Attribute).flatMap Attribute.render ++ ['>']) = startElement "s:Fault".toList := rfl
  have hend : '<' :: '/' :: (QName.render (some ['s'], "Fault".toList) ++ ['>']) =
      endElement "s:Fault".toList := rfl
  have hdetail : '<' :: (QName.render (none, "detail".toList) ++
      ([] : List Attribute).flatMap Attribute.render ++ ['>']) = startElement "detail".toList := rfl
  have hdetail' : '<' :: '/' :: (QName.render (none, "detail".toList) ++ ['>']) =
      endElement "detail".toList := rfl
  rw [bodyTree, render, renders, renders, renders, renders, render_dataTree, render_dataTree, render,
    renders, renders, render_errorTree, faultStart, faultMiddle, faultEnd, ← hstart, ← hend, ← hdetail,
    ← hdetail']
  simp only [List.append_assoc, List.cons_append, List.nil_append, List.append_nil]

theorem render_faultTree (code items : List TextItem) :
    xmlDeclaration ++ (faultTree [controlDefault] code items).render =
      ServiceProxyAction.header ++ (bodyTree [controlDefault] code items).render ++
        "</s:Body></s:Envelope>".toList := by
  rw [header_eq]
  simp only [faultTree, render, renders, QName.render, Attribute.render, List.flatMap_cons,
    List.flatMap_nil, List.append_assoc, List.append_nil, List.cons_append, List.nil_append,
    String.reduceToList]

/-! ## The text -/

/-- How a number is written. -/
def digits (n : Nat) : List TextItem := (CString.printU n).map .data

theorem utf8_printU (n : Nat) : utf8 (CString.printU n) = CString.printU n := by
  refine utf8_of_ascii fun c hc => ?_
  have := GValue.toNat_of_printed (.inr (CString.mem_printU hc))
  omega

theorem render_fault (errorCode : UInt32) (text : List Char) (hstatus : action.msg.status = 500) :
    action.envelopeStr (ActionResponse.faultStr errorCode (utf8 text)) =
      utf8 (xmlDeclaration ++ (faultTree [controlDefault] (digits errorCode.toNat)
        (text.map escape)).render) := by
  have hfault : ActionResponse.faultStr errorCode (utf8 text) = faultStart ++
      CString.printU errorCode.toNat ++ faultMiddle ++ addContent (utf8 text) ++ faultEnd := by
    delta ActionResponse.faultStr faultStart faultMiddle faultEnd
    simp only [List.append_assoc]
  have hend : "</s:Body></s:Envelope>".toList = "</s:Body>".toList ++ "</s:Envelope>".toList := rfl
  rw [ActionResponse.envelopeStr, if_neg (not_not.2 hstatus), hfault, addContent_utf8,
    header_eq_header, render_faultTree, render_bodyTree, digits, render_data, hend]
  simp only [utf8_append, utf8_header, utf8_printU]
  rw [utf8_of_all (s := faultStart) (by decide +kernel),
    utf8_of_all (s := faultMiddle) (by decide), utf8_of_all (s := faultEnd) (by decide +kernel),
    utf8_of_all (s := "</s:Body>".toList) (by decide),
    utf8_of_all (s := "</s:Envelope>".toList) (by decide)]
  simp only [List.append_assoc, List.append_nil]

/-! ## The tree -/

theorem withoutDefaults_tree (p : Parameter) :
    p.tree.withoutDefaults = p.tree ∧ p.tree.DefaultsWellFormed := by
  have hnone : ∀ a ∈ ([] : List Attribute), a.isDefault → IsNamespaceName a.value :=
    fun a ha => absurd ha List.not_mem_nil
  unfold Parameter.tree
  split
  · exact ⟨rfl, hnone, Nat.zero_le 1, trivial⟩
  · exact ⟨rfl, hnone, Nat.zero_le 1, trivial, trivial⟩

theorem withoutDefaults_faultTree (code items : List TextItem) :
    (faultTree [controlDefault] code items).withoutDefaults = faultTree [] code items := by
  have hfilter : [controlDefault].filter (!·.isDefault) = [] := by decide
  have hattributes : [Attribute.declare ['s'] soapEnvelope,
      .plain (some ['s'], "encodingStyle".toList) soapEncoding].filter (!·.isDefault) =
      [.declare ['s'] soapEnvelope, .plain (some ['s'], "encodingStyle".toList) soapEncoding] := by
    decide
  simp only [faultTree, bodyTree, errorTree, dataTree, withoutDefaults, allWithoutDefaults,
    (withoutDefaults_tree _).1, hfilter, hattributes, List.filter_nil]

theorem isNamespaceName_control : IsNamespaceName controlNamespace := by
  have hplain : controlNamespace.all isPlain = true := by decide
  exact ⟨by decide, by decide, fun c hc => (plain_of_all hplain c hc).2⟩

theorem defaultsWellFormed_faultTree (code items : List TextItem) :
    (faultTree [controlDefault] code items).DefaultsWellFormed := by
  have hnone : ∀ a ∈ ([] : List Attribute), a.isDefault → IsNamespaceName a.value :=
    fun a ha => absurd ha List.not_mem_nil
  have herror : (errorTree [controlDefault] code items).DefaultsWellFormed := by
    refine ⟨fun a ha _ => ?_, by decide, (withoutDefaults_tree _).2, (withoutDefaults_tree _).2,
      trivial⟩
    obtain rfl := List.mem_singleton.1 ha
    exact isNamespaceName_control
  have hbody : (bodyTree [controlDefault] code items).DefaultsWellFormed :=
    ⟨hnone, Nat.zero_le 1, (withoutDefaults_tree _).2, (withoutDefaults_tree _).2,
      ⟨hnone, Nat.zero_le 1, herror, trivial⟩, trivial⟩
  refine ⟨fun a ha hdefault => ?_, by decide, ⟨hnone, Nat.zero_le 1, hbody, trivial⟩, trivial⟩
  rcases List.mem_cons.1 ha with rfl | ha
  · cases hdefault
  · obtain rfl := List.mem_singleton.1 ha
    exact absurd hdefault (by decide)

/-- A name of the fault. -/
theorem ok_of_all {name : List Char} {c : Char} {rest : List Char} {items : List TextItem}
    (hname : name = c :: rest) (hstart : IsNameStartChar c)
    (hall : name.all (fun c => decide (IsNameChar c)) = true) (hitems : ∀ i ∈ items, i.WellFormed) :
    Parameter.Ok ⟨name, items⟩ := ⟨isNcName_of_all hname hstart hall, hitems⟩

/-- A text of the fault. -/
theorem data_ok {data : List Char}
    (h : data.all (fun c => isPlain c && c ≠ '>' && c ≠ '\r') = true) :
    ∀ item ∈ data.map TextItem.data, item.WellFormed := by
  intro item hitem
  obtain ⟨c, hc, rfl⟩ := List.mem_map.1 hitem
  have hchar := List.all_eq_true.1 h c hc
  simp only [isPlain, Bool.and_eq_true, decide_eq_true_eq] at hchar
  exact ⟨hchar.1.1.2.1, hchar.1.1.2.2.1, hchar.1.1.2.2.2.1, hchar.1.2, hchar.2⟩

theorem digits_ok (n : Nat) : ∀ item ∈ digits n, item.WellFormed := by
  intro item hitem
  obtain ⟨c, hc, rfl⟩ := List.mem_map.1 hitem
  exact GValue.data_wellFormed (.inr (CString.mem_printU hc))

/-- An element of the fault without a prefix. -/
theorem plainElement_wellFormed {scope : List (List Char)} {name : List Char}
    {children : List Markup} (hname : IsNcName name) (h : AllWellFormed scope false children) :
    (Markup.element (none, name) [] children).WellFormed scope :=
  ⟨⟨fun q hq => absurd hq.symm (Option.some_ne_none q), hname⟩,
    fun _ ha => absurd ha List.not_mem_nil, List.nodup_nil, List.nodup_nil, h⟩

theorem faultTree_wellFormed (hcode : ∀ i ∈ code, i.WellFormed) (hitems : ∀ i ∈ items, i.WellFormed) :
    (faultTree [] code items).WellFormed [] := by
  have herror : (errorTree [] code items).WellFormed [['s']] :=
    plainElement_wellFormed (isNcName_of_all rfl (by decide) (by decide))
      (allWellFormed_cons (tree_wellFormed (ok_of_all rfl (by decide) (by decide) hcode))
        (allWellFormed_cons (tree_wellFormed (ok_of_all rfl (by decide) (by decide) hitems)) trivial))
  have hdetail : (Markup.element (none, "detail".toList) [] [errorTree [] code items]).WellFormed
      [['s']] :=
    plainElement_wellFormed (isNcName_of_all rfl (by decide) (by decide))
      (allWellFormed_cons herror trivial)
  have hfaultcode : (dataTree "faultcode".toList "s:Client".toList).WellFormed [['s']] :=
    tree_wellFormed (ok_of_all rfl (by decide) (by decide) (data_ok (by decide)))
  have hfaultstring : (dataTree "faultstring".toList "UPnPError".toList).WellFormed [['s']] :=
    tree_wellFormed (ok_of_all rfl (by decide) (by decide) (data_ok (by decide)))
  have hdetails : AllWellFormed [['s']] false
      [.element (none, "detail".toList) [] [errorTree [] code items]] :=
    allWellFormed_cons hdetail trivial
  exact envelope_wellFormed ⟨nameIn_declared (isNcName_of_all rfl (by decide) (by decide)),
    fun _ ha => absurd ha List.not_mem_nil, List.nodup_nil, List.nodup_nil,
    allWellFormed_cons hfaultcode (allWellFormed_cons hfaultstring hdetails)⟩

/-- The element of a fault with its code and its description. -/
def faultNode (code description : Str) : Node :=
  .element "Fault".toList [] [textNode "faultcode".toList "s:Client".toList,
    textNode "faultstring".toList "UPnPError".toList,
    .element "detail".toList [] [.element "UPnPError".toList []
      [textNode "errorCode".toList code, textNode "errorDescription".toList description]]]

/-- The document of a fault. -/
def faultDocument (code description : Str) : Node :=
  .document [.element "Envelope".toList [("encodingStyle".toList, soapEncoding)]
    [.element "Body".toList [] [faultNode code description]]]

theorem toNode_dataTree {name data : List Char}
    (hname : name.all (fun c => decide (c.toNat < 128)) = true)
    (hdata : data.all (fun c => decide (c.toNat < 128)) = true) :
    (dataTree name data).toNode = textNode name data := by
  have hchar : (data.map TextItem.data).map TextItem.char = data := by
    rw [List.map_map]
    exact List.map_id' data
  rw [dataTree, toNode_parameter, utf8_of_all hname, hchar, utf8_of_all hdata]

theorem toNode_faultTree (n : Nat) (text : List Char) :
    .document [(faultTree [] (digits n) (text.map escape)).toNode] =
      faultDocument (CString.printU n) (utf8 text) := by
  have hcode : (digits n).map TextItem.char = CString.printU n := by
    rw [digits, List.map_map]
    exact List.map_id' _
  have htext : (text.map escape).map TextItem.char = text := by
    rw [List.map_map]
    exact List.map_id'' char_escape text
  have hbody : (bodyTree [] (digits n) (text.map escape)).toNode =
      faultNode (CString.printU n) (utf8 text) := by
    rw [bodyTree, toNode, toNodes, toNodes, toNodes, toNodes,
      toNode_dataTree (by decide) (by decide), toNode_dataTree (by decide) (by decide), toNode,
      errorTree, toNodes, toNodes, toNode, toNodes, toNodes, toNodes, toNode_parameter,
      toNode_parameter, hcode, htext, utf8_printU, utf8_of_all (s := "Fault".toList) (by decide),
      utf8_of_all (s := "detail".toList) (by decide),
      utf8_of_all (s := "UPnPError".toList) (by decide),
      utf8_of_all (s := "errorCode".toList) (by decide),
      utf8_of_all (s := "errorDescription".toList) (by decide)]
    rfl
  rw [faultTree, toNode_envelope, hbody]
  rfl

end GUPnP.Control
