import GUPnP.Base.CInt
import GUPnP.Base.Select
import GUPnP.Xml.Node

/-!
# The icons of a device (`gupnp-device-info.c`)

`getIconUrl` chooses among the icons of a device description. An overflow of its `int` arithmetic is
undefined behaviour (`Undefined`), and so is `strcmp` on the name of a CDATA block.
-/

set_option autoImplicit false

namespace GUPnP.DeviceInfo

open Xml

/-- `Icon` -/
structure Icon where
  mimeType : Option Str
  width : Int
  height : Int
  depth : Int
  url : Option Str
  weight : Int
  deriving DecidableEq, Repr

/-- `icon_parse`; a number that is missing is -1. -/
def iconParse (element : Node) : Icon where
  mimeType := getChildElementContent element "mimetype".toList
  width := getChildElementContentInt element "width".toList
  height := getChildElementContentInt element "height".toList
  depth := getChildElementContentInt element "depth".toList
  url := getChildElementContent element "url".toList
  weight := 0

/-- What is asked of an icon. A negative number stands for any. -/
structure IconRequest where
  mimeType : Option Str
  depth : Int
  width : Int
  height : Int
  preferBigger : Bool
  deriving DecidableEq, Repr

/-! ## The list -/

/-- `mime_type_ok` -/
def IconRequest.mimeTypeOk (req : IconRequest) (icon : Icon) : Bool :=
  match req.mimeType with
  | none => true
  | some requested =>
    match icon.mimeType with
    | none => false
    | some mimeType => requested == mimeType

/-- The weight that the depth is compared by. -/
def IconRequest.depthWeight (req : IconRequest) (icon : Icon) : Except Undefined Int :=
  if 0 ≤ req.depth then CInt.sub req.depth icon.depth else pure icon.weight

/-- The difference of one size from the requested one. -/
def IconRequest.difference (req : IconRequest) (requested size : Int) : Except Undefined Int :=
  if req.preferBigger then CInt.sub size requested else CInt.sub requested size

/-- How one size changes the weight, where it is requested. -/
def IconRequest.addSize (req : IconRequest) (requested size weight : Int) : Except Undefined Int :=
  if 0 ≤ requested then do
    let difference ← req.difference requested size
    CInt.add weight difference
  else pure weight

/-- The weight of an icon that is not filtered out. -/
def IconRequest.sizeWeight (req : IconRequest) (icon : Icon) (weight : Int) : Except Undefined Int :=
  if req.width < 0 ∧ req.height < 0 then CInt.mul icon.width icon.height
  else do
    let weight ← req.addSize req.width icon.width weight
    req.addSize req.height icon.height weight

/-- What is done for an `icon` element. -/
def listIcon (req : IconRequest) (icons : List Icon) (element : Node) :
    Except Undefined (List Icon) := do
  let icon := iconParse element
  let weight ← req.depthWeight icon
  if req.mimeTypeOk icon ∧ 0 ≤ weight then do
    let weight ← req.sizeWeight icon weight
    pure ({ icon with weight := weight } :: icons)
  else pure icons

/-- The body of the loop over the icon list. -/
def listChild (req : IconRequest) (icons : List Icon) (element : Node) :
    Except Undefined (List Icon) :=
  match element.name with
  | none => throw .nullString
  | some name => if name = "icon".toList then listIcon req icons element else pure icons

/-! ## The choice -/

/-- The largest or smallest icon, when no size was requested. -/
def largestOrSmallest (req : IconRequest) (icons : List Icon) : Option Icon :=
  if req.height < 0 ∧ req.width < 0 then
    select (fun icon closest => (req.preferBigger && decide (closest.weight < icon.weight)) ||
      (!req.preferBigger && decide (icon.weight < closest.weight))) icons
  else none

/-- The first pass for a requested size, over the icons without a negative weight. -/
def closestPositive (icons : List Icon) : Option Icon :=
  select (fun icon closest => decide (icon.weight < closest.weight))
    (icons.filter fun icon => decide (0 ≤ icon.weight))

/-- The second pass, when all weights are negative. -/
def closestNegative (icons : List Icon) : Option Icon :=
  select (fun icon closest => decide (closest.weight < icon.weight)) icons

/-- `closest`, after the passes over the list. -/
def closestIcon (req : IconRequest) (icons : List Icon) : Option Icon :=
  ((largestOrSmallest req icons).or (closestPositive icons)).or (closestNegative icons)

/-- The URL and what is written to the out parameters. -/
structure IconUrl where
  url : Option Str
  mimeType : Option Str
  depth : Int
  width : Int
  height : Int
  deriving DecidableEq, Repr

/-- What is returned for an icon; `resolve` is `g_uri_parse_relative` to the base URL and
`g_uri_to_string_partial`. -/
def Icon.toUrl (resolve : Str → Option Str) (icon : Icon) : IconUrl where
  url := icon.url.bind resolve
  mimeType := icon.mimeType
  depth := icon.depth
  width := icon.width
  height := icon.height

/-- `gupnp_device_info_get_icon_url`; `none`: it returns `NULL` and writes nothing. -/
def getIconUrl (resolve : Str → Option Str) (device : Node) (req : IconRequest) :
    Except Undefined (Option IconUrl) :=
  match getElement device ["iconList".toList] with
  | none => pure none
  | some iconList => do
    let icons ← iconList.children.foldlM (listChild req) []
    if icons = [] then pure none
    else
      match closestIcon req icons with
      | some icon => pure (some (icon.toUrl resolve))
      | none => pure (some ⟨none, none, -1, -1, -1⟩)

end GUPnP.DeviceInfo
