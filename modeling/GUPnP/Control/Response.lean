import GUPnP.Control.Arguments
import GUPnP.Service.ActionResponse

/-!
# The response to an action as a document

Whatever way the result values are set, the response with them is the document of a request for the
action with `Response` behind its name (`render_success`), and a fault is the rendering of
`faultTree` (`render_fault`).
-/

set_option autoImplicit false

namespace GUPnP.Control

open Xml Markup ServiceProxyAction Service

variable {glib : GLib} {gzip : Gzip} {serverId : Str} {action : ActionResponse}

/-! ## Setting results -/

/-- A call that sets result values. -/
inductive ResultCall where
  | setValue (argument : Str) (value : GValue)
  | setValues (argNames : List Str) (argValues : List GValue)

namespace ResultCall

def apply (glib : GLib) (action : ActionResponse) : ResultCall → Option ActionResponse
  | setValue argument value => action.setValue glib argument value
  | setValues argNames argValues => action.setValues glib argNames argValues

/-- The values a call sets; lists that do not line up are refused. -/
def results : ResultCall → List ActionArgument
  | setValue argument value => [⟨argument, value⟩]
  | setValues argNames argValues =>
    if argNames.length = argValues.length then List.zipWith ActionArgument.mk argNames argValues
    else []

end ResultCall

/-- One call after the other. -/
def setAll (glib : GLib) (calls : List ResultCall) (action : ActionResponse) :
    Option ActionResponse :=
  calls.foldlM (ResultCall.apply glib) action

/-- The values they set. -/
def allResults (calls : List ResultCall) : List ActionArgument := calls.flatMap ResultCall.results

theorem valuesStr_eq {argNames : List Str} {argValues : List GValue}
    (h : argNames.length = argValues.length) :
    ActionResponse.valuesStr glib argNames argValues =
      argumentsStr glib (List.zipWith ActionArgument.mk argNames argValues) := by
  induction argNames generalizing argValues with
  | nil => rfl
  | cons argName argNames ih =>
    cases argValues with
    | nil => cases h
    | cons value argValues =>
      have hlength : argNames.length = argValues.length := by
        simp only [List.length_cons] at h
        omega
      rw [ActionResponse.valuesStr, ih hlength]
      rfl

/-- Until the action has ended, a call appends its values. -/
theorem apply_of_running {str : Str} (hstatus : action.msg.status ≠ 500)
    (hstr : action.responseStr = some str) (call : ResultCall) :
    call.apply glib action =
      some { action with responseStr := some (str ++ argumentsStr glib call.results) } := by
  cases call with
  | setValue argument value =>
    have hone : argumentsStr glib [⟨argument, value⟩] =
        ActionResponse.valueStr glib argument value := List.flatMap_singleton ..
    rw [ResultCall.apply, ActionResponse.setValue, if_neg hstatus, hstr, ResultCall.results, hone]
    rfl
  | setValues argNames argValues =>
    rw [ResultCall.apply, ActionResponse.setValues, ResultCall.results]
    by_cases hguard : argNames = [] ∨ argValues = [] ∨ argNames.length ≠ argValues.length
    · have hnone : (if argNames.length = argValues.length then
          List.zipWith ActionArgument.mk argNames argValues else []) = [] := by
        rcases hguard with rfl | rfl | hne
        · simp only [List.zipWith_nil_left, ite_self]
        · simp only [List.zipWith_nil_right, ite_self]
        · exact if_neg hne
      rw [if_pos hguard, hnone]
      have hsame : str ++ argumentsStr glib [] = str := List.append_nil str
      rw [hsame, ← hstr]
    · have hlength : argNames.length = argValues.length := by
        simp only [not_or, not_not] at hguard
        exact hguard.2.2
      rw [if_neg hguard, if_neg hstatus, hstr, if_pos hlength, ← valuesStr_eq hlength]
      rfl

theorem setAll_of_running (glib : GLib) (action : ActionResponse) {str : Str}
    (hstatus : action.msg.status ≠ 500) (hstr : action.responseStr = some str)
    (calls : List ResultCall) :
    setAll glib calls action =
      some { action with responseStr := some (str ++ argumentsStr glib (allResults calls)) } := by
  induction calls generalizing action str with
  | nil =>
    have hsame : str ++ argumentsStr glib (allResults []) = str := List.append_nil str
    rw [hsame, ← hstr]
    rfl
  | cons call calls ih =>
    have hcons : argumentsStr glib (allResults (call :: calls)) =
        argumentsStr glib call.results ++ argumentsStr glib (allResults calls) := by
      rw [allResults, List.flatMap_cons]
      exact List.flatMap_append
    rw [setAll, List.foldlM_cons, apply_of_running hstatus hstr, hcons, ← List.append_assoc]
    exact ih _ hstatus rfl

/-- After an error nothing is set. -/
theorem setAll_of_failed (hstatus : action.msg.status = 500) (calls : List ResultCall) :
    setAll glib calls action = some action := by
  induction calls with
  | nil => rfl
  | cons call calls ih =>
    have hcall : call.apply glib action = some action := by
      cases call with
      | setValue argument value => exact if_pos hstatus
      | setValues argNames argValues =>
        rw [ResultCall.apply, ActionResponse.setValues, if_pos hstatus, ite_self]
    rw [setAll, List.foldlM_cons, hcall]
    exact ih

/-! ## Handing the response over -/

theorem not_mem_headers (http10 : Bool) (serverId : Str) :
    ("Content-Encoding".toList, "gzip".toList) ∉ ActionResponse.replaceHeader "Content-Type".toList
      "text/xml; charset=\"utf-8\"".toList (ServerMessage.new http10).headers ++ [] ++
        [("Ext".toList, []), ("Server".toList, serverId)] := by
  intro h
  have hserver : ("Content-Encoding".toList, "gzip".toList) ≠ ("Server".toList, serverId) := by
    intro heq
    have hname : "Content-Encoding".toList = "Server".toList := congrArg Prod.fst heq
    exact absurd hname (by decide)
  have hrest : ("Content-Encoding".toList, "gzip".toList) ∈ ActionResponse.replaceHeader
      "Content-Type".toList "text/xml; charset=\"utf-8\"".toList (ServerMessage.new http10).headers ++
        [("Ext".toList, [])] := by
    simp only [List.append_nil, List.mem_append, List.mem_cons, List.not_mem_nil, or_false, hserver]
      at h ⊢
    exact h
  cases http10 with
  | true => exact absurd hrest (by decide)
  | false => exact absurd hrest (by decide)

/-- The message of an ended action is decoded to the envelope. -/
theorem finalizeAction_spec (action : ActionResponse) (http10 : Bool) {str : Str} (gzip : Gzip)
    (serverId : Str)
    (hheaders : action.msg.headers = (ServerMessage.new http10).headers)
    (hbody : action.msg.body = []) (hstr : action.responseStr = some str) :
    ∃ ended, action.finalizeAction gzip serverId = some ended ∧
      ended.msg.status = action.msg.status ∧ ended.msg.reasonPhrase = action.msg.reasonPhrase ∧
      ended.msg.decoded gzip = action.envelopeStr str := by
  rw [ActionResponse.finalizeAction, hstr]
  refine ⟨_, rfl, rfl, rfl, ?_⟩
  unfold ServerMessage.decoded
  dsimp only
  rw [hheaders, hbody, List.nil_append]
  cases action.acceptGzip && decide ((action.envelopeStr str).length > 1024) with
  | true =>
    simp only [↓reduceIte, List.mem_append, List.mem_cons, true_or, or_true,
      gzip.decompress_compress]
  | false =>
    simp only [Bool.false_eq_true, ↓reduceIte]
    exact if_neg (not_mem_headers http10 serverId)

/-! ## A response with results -/

theorem header_eq_header : ActionResponse.header = ServiceProxyAction.header := rfl

/-- The name of the element with the results. -/
def responseName (name : List Char) : List Char := name ++ "Response".toList

theorem isNcName_responseName {name : List Char} (h : IsNcName name) :
    IsNcName (responseName name) := by
  obtain ⟨c, rest, rfl, hstart⟩ := h.start
  refine ⟨⟨c, rest ++ "Response".toList, rfl, hstart⟩, fun d hd => ?_⟩
  rcases List.mem_append.1 hd with hd | hd
  · exact h.chars d hd
  · have hall : "Response".toList.all (fun c => decide (IsNameChar c)) = true := by decide
    exact of_decide_eq_true (List.all_eq_true.1 hall d hd)

theorem utf8_responseName (name : List Char) :
    utf8 (responseName name) = utf8 name ++ "Response".toList := by
  rw [responseName, utf8_append, utf8_of_all (s := "Response".toList) (by decide)]

theorem render_success (action : ActionResponse) {name : List Char} (serviceType : List Char)
    {results : List ActionArgument} {parameters : List Parameter} (hname : action.name = utf8 name)
    (hstatus : action.msg.status ≠ 500) (hresults : List.Forall₂ (Written glib) results parameters) :
    action.envelopeStr (ActionResponse.newActionResponseStr action.name (some (utf8 serviceType)) ++
        argumentsStr glib results) =
      utf8 (xmlDeclaration ++ (requestTree (responseName name) serviceType parameters).render) := by
  rw [ActionResponse.envelopeStr, if_pos hstatus]
  delta ActionResponse.newActionResponseStr
  dsimp only
  rw [argumentsStr_eq hresults, hname, render_requestTree, header_eq_header]
  simp only [utf8_append, utf8_responseName]
  rw [utf8_header, utf8_of_all (s := "<u:".toList) (by decide),
    utf8_of_all (s := " xmlns:u=\"".toList) (by decide), utf8_of_all (s := "\">".toList) (by decide),
    utf8_of_all (s := "</u:".toList) (by decide), utf8_of_all (s := ['>']) (by decide),
    utf8_of_all (s := "</s:Body></s:Envelope>".toList) (by decide)]
  simp only [List.append_assoc, List.cons_append, List.nil_append, String.reduceToList]

end GUPnP.Control
