import GUPnP.DeviceInfo.Icon

/-!
# Which icon is chosen

`fits_iff`: for a requested size an icon that fits it is chosen where one exists, if and only if no
CDATA block is in the list, no `int` overflows and the sum of what an icon leaves free (`slack`) ranks the
fitting icons first. `extremal_iff`: without a requested size the largest or smallest icon is chosen if
and only if no CDATA block is in the list and no `int` overflows.
-/

set_option autoImplicit false

namespace GUPnP.DeviceInfo

open Xml

variable {req : IconRequest} {icon : Icon} {l : List Icon}

/-! ## The statements -/

/-- Whether the node is an `icon` element. -/
def isIcon (element : Node) : Bool := element.name == some "icon".toList

/-- The icons in the description of a device. -/
def icons (device : Node) : List Icon :=
  match getElement device ["iconList".toList] with
  | none => []
  | some iconList => (iconList.children.filter isIcon).map iconParse

/-- No CDATA block is in the icon list. -/
def IconsNamed (device : Node) : Prop :=
  ∀ iconList, getElement device ["iconList".toList] = some iconList →
    ∀ child ∈ iconList.children, child.name.isSome

/-- The icon has the requested mime type and at most the requested depth. -/
structure Eligible (req : IconRequest) (icon : Icon) : Prop where
  mimeType : ∀ mimeType, req.mimeType = some mimeType → icon.mimeType = some mimeType
  depth : 0 ≤ req.depth → icon.depth ≤ req.depth

/-- The icon is within the requested size, or at least as large where bigger ones are preferred. -/
structure Fits (req : IconRequest) (icon : Icon) : Prop where
  width : 0 ≤ req.width → if req.preferBigger then req.width ≤ icon.width else icon.width ≤ req.width
  height : 0 ≤ req.height →
    if req.preferBigger then req.height ≤ icon.height else icon.height ≤ req.height

/-- What the documentation says of a request for a size. -/
def KeepsDocumentation (resolve : Str → Option Str) (device : Node) (req : IconRequest) : Prop :=
  ∃ result, getIconUrl resolve device req = .ok result ∧
    (∀ r, result = some r → ∃ icon ∈ icons device, r = icon.toUrl resolve ∧ Eligible req icon) ∧
    ((∃ icon ∈ icons device, Eligible req icon ∧ Fits req icon) →
      ∃ icon ∈ icons device, result = some (icon.toUrl resolve) ∧ Fits req icon)

/-- Without a requested size the icon has the largest area, or the smallest. -/
def ChoosesExtremal (resolve : Str → Option Str) (device : Node) (req : IconRequest) : Prop :=
  ∃ result, getIconUrl resolve device req = .ok result ∧
    ((∃ icon ∈ icons device, Eligible req icon) → ∃ r, result = some r) ∧
    ∀ r, result = some r → ∃ icon ∈ icons device, r = icon.toUrl resolve ∧ Eligible req icon ∧
      ∀ other ∈ icons device, Eligible req other →
        if req.preferBigger then other.width * other.height ≤ icon.width * icon.height
        else icon.width * icon.height ≤ other.width * other.height

/-- How far the depth of the icon is below the requested one. -/
def depthSlack (req : IconRequest) (icon : Icon) : Int :=
  if 0 ≤ req.depth then req.depth - icon.depth else 0

/-- How far a size is on the right side of the requested one. -/
def sizeSlack (req : IconRequest) (requested size : Int) : Int :=
  if 0 ≤ requested then if req.preferBigger then size - requested else requested - size else 0

/-- The sum of these. -/
def slack (req : IconRequest) (icon : Icon) : Int :=
  depthSlack req icon + sizeSlack req req.width icon.width + sizeSlack req req.height icon.height

/-- The differences of this icon from the request, and their sums, are `int`s. -/
structure SlackInRange (req : IconRequest) (icon : Icon) : Prop where
  depth : CInt.InRange (depthSlack req icon)
  sizes : Eligible req icon → CInt.InRange (sizeSlack req req.width icon.width) ∧
    CInt.InRange (depthSlack req icon + sizeSlack req req.width icon.width) ∧
    CInt.InRange (sizeSlack req req.height icon.height) ∧ CInt.InRange (slack req icon)

/-- The difference of the depth of this icon from the requested one, and its area, are `int`s. -/
structure AreaInRange (req : IconRequest) (icon : Icon) : Prop where
  depth : CInt.InRange (depthSlack req icon)
  area : Eligible req icon → CInt.InRange (icon.width * icon.height)

/-- If an icon fits, there is one that fits and leaves less free in sum than all that do not fit, apart
from those whose sum is negative and those before it with the same sum. -/
def FittingFirst (req : IconRequest) (l : List Icon) : Prop :=
  (∃ icon ∈ l, Eligible req icon ∧ Fits req icon) →
    ∃ (i : Nat) (icon : Icon), l[i]? = some icon ∧ Eligible req icon ∧ Fits req icon ∧
      ∀ (j : Nat) (other : Icon), l[j]? = some other → Eligible req other → ¬ Fits req other →
        slack req other < 0 ∨ slack req icon < slack req other ∨
          (slack req icon = slack req other ∧ j < i)

/-! ## Weights -/

theorem inRange_zero : CInt.InRange 0 := by decide

theorem mimeTypeOk_iff : req.mimeTypeOk icon = true ↔
    ∀ mimeType, req.mimeType = some mimeType → icon.mimeType = some mimeType := by
  unfold IconRequest.mimeTypeOk
  cases req.mimeType with
  | none => simp
  | some requested =>
    cases icon.mimeType with
    | none => simp
    | some mimeType =>
      simp only [beq_iff_eq, Option.some.injEq, forall_eq']
      exact eq_comm

theorem eligible_iff : Eligible req icon ↔
    req.mimeTypeOk icon = true ∧ 0 ≤ depthSlack req icon := by
  rw [mimeTypeOk_iff]
  unfold depthSlack
  constructor
  · rintro ⟨hmime, hdepth⟩
    refine ⟨hmime, ?_⟩
    split
    · rename_i hreq
      have := hdepth hreq
      omega
    · exact Int.le_refl 0
  · rintro ⟨hmime, hslack⟩
    refine ⟨hmime, fun hreq => ?_⟩
    rw [if_pos hreq] at hslack
    omega

instance : Decidable (Eligible req icon) := decidable_of_iff _ eligible_iff.symm

/-- The weight of an icon that is not filtered out. -/
def weight (req : IconRequest) (icon : Icon) : Int :=
  if req.width < 0 ∧ req.height < 0 then icon.width * icon.height else slack req icon

/-- What is listed of an icon. -/
def weigh (req : IconRequest) (icon : Icon) : Option Icon :=
  if Eligible req icon then some { icon with weight := weight req icon } else none

theorem gives_addSize (requested size weight : Int) (hweight : CInt.InRange weight) :
    Gives (req.addSize requested size weight)
      (CInt.InRange (sizeSlack req requested size) ∧
        CInt.InRange (weight + sizeSlack req requested size))
      (weight + sizeSlack req requested size) := by
  unfold IconRequest.addSize sizeSlack
  split
  · have hdifference : Gives (req.difference requested size)
        (CInt.InRange (if req.preferBigger then size - requested else requested - size))
        (if req.preferBigger then size - requested else requested - size) := by
      unfold IconRequest.difference
      split <;> exact Gives.ofInt _
    exact hdifference.bind fun _ => Gives.ofInt _
  · exact (Gives.pure weight).congr (by simp [inRange_zero, hweight]) (by simp)

/-- The weight of the icon is computed without an overflow. -/
def WeightInRange (req : IconRequest) (icon : Icon) : Prop :=
  if req.width < 0 ∧ req.height < 0 then CInt.InRange (icon.width * icon.height)
  else
    (CInt.InRange (sizeSlack req req.width icon.width) ∧
      CInt.InRange (depthSlack req icon + sizeSlack req req.width icon.width)) ∧
    (CInt.InRange (sizeSlack req req.height icon.height) ∧ CInt.InRange (slack req icon))

theorem gives_sizeWeight (hdepth : CInt.InRange (depthSlack req icon)) :
    Gives (req.sizeWeight icon (depthSlack req icon)) (WeightInRange req icon) (weight req icon) :=
  Gives.ite (fun _ => Gives.ofInt _) fun _ =>
    (gives_addSize req.width icon.width _ hdepth).bind fun hwidth =>
      gives_addSize req.height icon.height _ hwidth.2

theorem gives_depthWeight (hzero : icon.weight = 0) :
    Gives (req.depthWeight icon) (CInt.InRange (depthSlack req icon)) (depthSlack req icon) := by
  unfold IconRequest.depthWeight depthSlack
  split
  · exact Gives.ofInt _
  · exact (Gives.pure _).congr (by simp [inRange_zero]) fun _ => hzero

/-- No `int` overflows for this icon. -/
def NoOverflow (req : IconRequest) (icon : Icon) : Prop :=
  CInt.InRange (depthSlack req icon) ∧ (Eligible req icon → WeightInRange req icon)

theorem gives_listIcon (req : IconRequest) (listed : List Icon) (element : Node) :
    Gives (listIcon req listed element) (NoOverflow req (iconParse element))
      ((weigh req (iconParse element)).toList ++ listed) := by
  refine (gives_depthWeight rfl).bind
    (Q := Eligible req (iconParse element) → WeightInRange req (iconParse element)) fun hdepth => ?_
  unfold weigh
  by_cases heligible : Eligible req (iconParse element)
  · rw [if_pos (eligible_iff.1 heligible), if_pos heligible]
    refine Gives.congr ((gives_sizeWeight hdepth).bind fun _ => Gives.pure _) ?_ fun _ => rfl
    simp [heligible]
  · rw [if_neg fun h => heligible (eligible_iff.2 h), if_neg heligible]
    exact (Gives.pure _).congr (by simp [heligible]) fun _ => rfl

theorem gives_listChild (req : IconRequest) (listed : List Icon) (element : Node) :
    Gives (listChild req listed element)
      (element.name.isSome ∧ (isIcon element → NoOverflow req (iconParse element)))
      (if isIcon element then (weigh req (iconParse element)).toList ++ listed else listed) := by
  unfold listChild isIcon
  cases element.name with
  | none => exact ⟨fun h => Bool.noConfusion h.1, fun _ => ⟨_, rfl⟩⟩
  | some name =>
    by_cases hname : name = "icon".toList
    · rw [hname]
      exact (gives_listIcon req listed element).congr (by simp) fun _ => rfl
    · have hne : (some name == some "icon".toList) = false :=
        beq_eq_false_iff_ne.2 fun h => hname (Option.some.inj h)
      dsimp only
      rw [if_neg hname, hne]
      exact (Gives.pure listed).congr (by simp) fun _ => rfl

/-- The list of the icons that are not filtered out, the last one first. -/
def listed (req : IconRequest) (l : List Icon) : List Icon := (l.filterMap (weigh req)).reverse

theorem foldl_weigh (elements : List Node) (acc : List Icon) :
    elements.foldl (fun acc element => (weigh req (iconParse element)).toList ++ acc) acc =
      listed req (elements.map iconParse) ++ acc := by
  induction elements generalizing acc with
  | nil => rfl
  | cons element elements ih =>
    rw [List.foldl_cons, ih, List.map_cons, listed, listed, List.filterMap_cons]
    cases weigh req (iconParse element) <;> simp

theorem exists_closestIcon (req : IconRequest) (h : l ≠ []) :
    ∃ icon ∈ l, closestIcon req l = some icon := by
  obtain ⟨icon, hmem, hnegative⟩ :=
    @exists_select _ (fun icon closest : Icon => decide (closest.weight < icon.weight)) l h
  unfold closestIcon
  cases hfirst : (largestOrSmallest req l).or (closestPositive l) with
  | none => exact ⟨icon, hmem, hnegative⟩
  | some icon' =>
    refine ⟨icon', ?_, rfl⟩
    rcases Option.or_eq_some_iff.1 hfirst with hlargest | ⟨-, hpositive⟩
    · unfold largestOrSmallest at hlargest
      split at hlargest
      · exact mem_of_select hlargest
      · cases hlargest
    · exact (List.mem_filter.1 (mem_of_select hpositive)).1

theorem closestIcon_nil : closestIcon req [] = none := by
  unfold closestIcon largestOrSmallest
  split <;> rfl

/-- What is returned, where no `int` overflows. -/
theorem gives_getIconUrl (resolve : Str → Option Str) (device : Node) (req : IconRequest) :
    Gives (getIconUrl resolve device req)
      (IconsNamed device ∧ ∀ icon ∈ icons device, NoOverflow req icon)
      ((closestIcon req (listed req (icons device))).map (Icon.toUrl resolve)) := by
  unfold getIconUrl icons IconsNamed
  cases getElement device ["iconList".toList] with
  | none =>
    have hnone : closestIcon req (listed req []) = none := closestIcon_nil
    exact (Gives.pure none).congr (by simp) fun _ => by rw [hnone]; rfl
  | some iconList =>
    have hfold := Gives.foldlM (gives_listChild req) iconList.children []
    rw [← List.foldl_filter, foldl_weigh, List.append_nil] at hfold
    have hdefined : (∀ child ∈ iconList.children, child.name.isSome ∧
        (isIcon child → NoOverflow req (iconParse child))) ↔
        (∀ list, some iconList = some list → ∀ child ∈ list.children, child.name.isSome) ∧
          ∀ icon ∈ (iconList.children.filter isIcon).map iconParse, NoOverflow req icon := by
      constructor
      · intro h
        refine ⟨fun list hlist child hchild => ?_, fun icon hicon => ?_⟩
        · obtain rfl := Option.some.inj hlist
          exact (h child hchild).1
        · obtain ⟨child, hchild, rfl⟩ := List.mem_map.1 hicon
          obtain ⟨hmem, his⟩ := List.mem_filter.1 hchild
          exact (h child hmem).2 his
      · rintro ⟨hnamed, hover⟩ child hchild
        exact ⟨hnamed iconList rfl child hchild, fun his =>
          hover _ (List.mem_map_of_mem (List.mem_filter.2 ⟨hchild, his⟩))⟩
    refine (hfold.bind (Q := True) fun _ => ?_).congr ((iff_of_eq (and_true _)).trans hdefined) fun _ => rfl
    by_cases hnil : listed req ((iconList.children.filter isIcon).map iconParse) = []
    · rw [if_pos hnil, hnil, closestIcon_nil]
      exact Gives.pure none
    · obtain ⟨icon, -, hclosest⟩ := exists_closestIcon req hnil
      rw [if_neg hnil, hclosest]
      exact Gives.pure _

/-- The icon that is returned is one of the description that may be returned. -/
theorem eligible_of_closest (resolve : Str → Option Str) {m : Icon}
    (h : closestIcon req (listed req l) = some m) :
    ∃ icon ∈ l, Eligible req icon ∧ m.toUrl resolve = icon.toUrl resolve := by
  have hne : listed req l ≠ [] := by
    intro hnil
    rw [hnil, closestIcon_nil] at h
    cases h
  obtain ⟨m', hmem, hclosest⟩ := exists_closestIcon req hne
  obtain rfl := Option.some.inj (hclosest.symm.trans h)
  obtain ⟨icon, hicon, hweigh⟩ := List.mem_filterMap.1 (List.mem_reverse.1 hmem)
  obtain ⟨heligible, heq⟩ := Option.ite_none_right_eq_some.1 hweigh
  refine ⟨icon, hicon, heligible, ?_⟩
  rw [← Option.some.inj heq]
  rfl

/-! ## A requested size -/

theorem noOverflow_of_size (hsize : ¬ (req.width < 0 ∧ req.height < 0)) :
    NoOverflow req icon ↔ SlackInRange req icon := by
  unfold NoOverflow WeightInRange
  rw [if_neg hsize]
  constructor
  · rintro ⟨hdepth, hsizes⟩
    exact ⟨hdepth, fun h => ⟨(hsizes h).1.1, (hsizes h).1.2, (hsizes h).2.1, (hsizes h).2.2⟩⟩
  · rintro ⟨hdepth, hsizes⟩
    refine ⟨hdepth, fun h => ?_⟩
    obtain ⟨hwidth, hsum, hheight, hslack⟩ := hsizes h
    exact ⟨⟨hwidth, hsum⟩, hheight, hslack⟩

theorem sizeSlack_nonneg {requested size : Int}
    (h : 0 ≤ requested → if req.preferBigger then requested ≤ size else size ≤ requested) :
    0 ≤ sizeSlack req requested size := by
  unfold sizeSlack
  split
  · rename_i hrequested
    have hsize := h hrequested
    split
    · rename_i hbigger
      rw [if_pos hbigger] at hsize
      omega
    · rename_i hbigger
      rw [if_neg hbigger] at hsize
      omega
  · exact Int.le_refl 0

theorem Fits.slack_nonneg (h : Fits req icon) (heligible : Eligible req icon) :
    0 ≤ slack req icon := by
  have hdepth := (eligible_iff.1 heligible).2
  have hwidth := sizeSlack_nonneg h.width
  have hheight := sizeSlack_nonneg h.height
  unfold slack
  omega

/-- The icon leaves the least free in sum, but not less than nothing, and is the last of those. -/
structure Wins (req : IconRequest) (l : List Icon) (i : Nat) (icon : Icon) : Prop where
  get : l[i]? = some icon
  eligible : Eligible req icon
  nonneg : 0 ≤ slack req icon
  closest : ∀ (j : Nat) (other : Icon), l[j]? = some other → Eligible req other →
    slack req other < 0 ∨ slack req icon < slack req other ∨
      (slack req icon = slack req other ∧ j ≤ i)

/-- The candidates of the first pass. -/
def positive (req : IconRequest) (icon : Icon) : Option Icon :=
  (weigh req icon).filter fun icon => decide (0 ≤ icon.weight)

theorem closestPositive_listed (req : IconRequest) (l : List Icon) :
    closestPositive (listed req l) =
      select (fun icon closest => decide (icon.weight < closest.weight))
        (l.filterMap (positive req)).reverse := by
  unfold closestPositive listed positive
  rw [List.filter_reverse, List.filter_filterMap]

theorem positive_eq_some (hsize : ¬ (req.width < 0 ∧ req.height < 0)) {m : Icon} :
    positive req icon = some m ↔
      Eligible req icon ∧ 0 ≤ slack req icon ∧ m = { icon with weight := slack req icon } := by
  unfold positive weigh weight
  rw [if_neg hsize, Option.filter_eq_some_iff, Option.ite_none_right_eq_some, Option.some.injEq,
    decide_eq_true_eq]
  constructor
  · rintro ⟨⟨heligible, rfl⟩, hnonneg⟩
    exact ⟨heligible, hnonneg, rfl⟩
  · rintro ⟨heligible, hnonneg, rfl⟩
    exact ⟨⟨heligible, rfl⟩, hnonneg⟩

/-- Where some sum is not negative, the icon that wins is chosen. -/
theorem exists_wins (hsize : ¬ (req.width < 0 ∧ req.height < 0)) (hmem : icon ∈ l)
    (heligible : Eligible req icon) (hnonneg : 0 ≤ slack req icon) :
    ∃ i winner, Wins req l i winner ∧
      closestIcon req (listed req l) = some { winner with weight := slack req winner } := by
  have hpositive := (positive_eq_some hsize).2 ⟨heligible, hnonneg, rfl⟩
  have hpass : closestIcon req (listed req l) =
      (closestPositive (listed req l)).or (closestNegative (listed req l)) := by
    unfold closestIcon largestOrSmallest
    rw [if_neg fun h => hsize ⟨h.2, h.1⟩, Option.none_or]
  rw [hpass, closestPositive_listed]
  obtain ⟨-, hnone⟩ | ⟨i, winner, m, hselect, hget, hcandidate, hleast⟩ :=
    select_reverse Icon.weight (positive req) l
  · rw [hnone icon hmem] at hpositive
    cases hpositive
  · obtain ⟨hwinner, hzero, rfl⟩ := (positive_eq_some hsize).1 hcandidate
    refine ⟨i, winner, ⟨hget, hwinner, hzero, fun j other hother hother' => ?_⟩, by rw [hselect]; rfl⟩
    by_cases hneg : slack req other < 0
    · exact .inl hneg
    · exact .inr (hleast j other _ hother
        ((positive_eq_some hsize).2 ⟨hother', Int.not_lt.1 hneg, rfl⟩))

/-- The icon that wins fits if and only if the fitting ones are ranked first. -/
theorem Wins.fits_iff_fittingFirst {i : Nat} {winner : Icon} (h : Wins req l i winner)
    (hfits : ∃ icon ∈ l, Eligible req icon ∧ Fits req icon) :
    Fits req winner ↔ FittingFirst req l := by
  constructor
  · intro hwinner _
    refine ⟨i, winner, h.get, h.eligible, hwinner, fun j other hother heligible hnot => ?_⟩
    rcases h.closest j other hother heligible with hneg | hlt | ⟨heq, hle⟩
    · exact .inl hneg
    · exact .inr (.inl hlt)
    · refine .inr (.inr ⟨heq, Nat.lt_of_le_of_ne hle fun hij => hnot ?_⟩)
      rw [hij, h.get] at hother
      exact Option.some.inj hother ▸ hwinner
  · intro hfirst
    obtain ⟨k, icon, hicon, heligible, hfit, hbeats⟩ := hfirst hfits
    by_contra hnot
    have hnonneg := hfit.slack_nonneg heligible
    have hwinner := h.nonneg
    have hwins := h.closest k icon hicon heligible
    have hloses := hbeats i winner h.get h.eligible hnot
    omega

/-- **The documentation is kept for a requested size** if and only if no CDATA block is in the list, no
`int` overflows and the fitting icons are ranked first. -/
theorem fits_iff (resolve : Str → Option Str) (device : Node) (req : IconRequest)
    (hsize : 0 ≤ req.width ∨ 0 ≤ req.height) :
    KeepsDocumentation resolve device req ↔ IconsNamed device ∧
      (∀ icon ∈ icons device, SlackInRange req icon) ∧ FittingFirst req (icons device) := by
  have hsize : ¬ (req.width < 0 ∧ req.height < 0) := by omega
  have hgives := (gives_getIconUrl resolve device req).congr
    (and_congr_right' (forall₂_congr fun icon _ => noOverflow_of_size hsize)) fun _ => rfl
  constructor
  · rintro ⟨result, hresult, -, hfits⟩
    obtain ⟨⟨hnamed, hrange⟩, rfl⟩ := hgives.eq_ok_iff.1 hresult
    refine ⟨hnamed, hrange, fun hexists => ?_⟩
    have ⟨icon, hmem, heligible, hfit⟩ := hexists
    obtain ⟨i, winner, hwins, hclosest⟩ :=
      exists_wins hsize hmem heligible (hfit.slack_nonneg heligible)
    obtain ⟨chosen, -, hchosen, hchosenfit⟩ := hfits hexists
    rw [hclosest] at hchosen
    have hsame : winner.toUrl resolve = chosen.toUrl resolve := Option.some.inj hchosen
    have hwidth : winner.width = chosen.width := congrArg IconUrl.width hsame
    have hheight : winner.height = chosen.height := congrArg IconUrl.height hsame
    have hwinner : Fits req winner :=
      ⟨hwidth ▸ hchosenfit.width, hheight ▸ hchosenfit.height⟩
    exact (hwins.fits_iff_fittingFirst hexists).1 hwinner hexists
  · rintro ⟨hnamed, hrange, hfirst⟩
    refine ⟨_, hgives.1 ⟨hnamed, hrange⟩, fun r hr => ?_, fun hexists => ?_⟩
    · obtain ⟨m, hm, rfl⟩ := Option.map_eq_some_iff.1 hr
      obtain ⟨icon, hmem, heligible, hsame⟩ := eligible_of_closest resolve hm
      exact ⟨icon, hmem, hsame, heligible⟩
    · obtain ⟨icon, hmem, heligible, hfit⟩ := hexists
      obtain ⟨i, winner, hwins, hclosest⟩ :=
        exists_wins hsize hmem heligible (hfit.slack_nonneg heligible)
      refine ⟨winner, List.mem_of_getElem? hwins.get, by rw [hclosest]; rfl, ?_⟩
      exact (hwins.fits_iff_fittingFirst ⟨icon, hmem, heligible, hfit⟩).2 hfirst

def numberElement (name : String) (n : Int) : Node :=
  .element name.toList [] [.text (CString.printD n)]

/-- An icon of the MIME type `image/png` and the depth 24. -/
def iconElement (width height : Int) : Node :=
  .element "icon".toList [] [.element "mimetype".toList [] [.text "image/png".toList],
    numberElement "width" width, numberElement "height" height, numberElement "depth" 24,
    .element "url".toList [] [.text "/icon.png".toList]]

/-- A device with these icons. -/
def iconDevice (elements : List Node) : Node :=
  .element "device".toList [] [.element "iconList".toList [] elements]

/-- What is read of such an icon. -/
def pngIcon (width height : Int) : Icon :=
  ⟨some "image/png".toList, width, height, 24, some "/icon.png".toList, 0⟩

theorem iconsNamed_iconDevice (elements : List Node) (h : ∀ element ∈ elements, element.name.isSome) :
    IconsNamed (iconDevice elements) := by
  intro iconList hlist
  obtain rfl := Option.some.inj hlist
  exact h

theorem eligible_pngIcon (depth width height w h : Int) (preferBigger : Bool) (hdepth : depth < 0) :
    Eligible ⟨none, depth, width, height, preferBigger⟩ (pngIcon w h) where
  mimeType := nofun
  depth := fun hreq => absurd hreq (Int.not_le.2 hdepth)

/-- Three square icons and a width of at most 119. -/
theorem fits_iff_sample : (0 ≤ (119 : Int) ∨ 0 ≤ (-1 : Int)) ∧
    KeepsDocumentation some (iconDevice [iconElement 24 24, iconElement 48 48, iconElement 120 120])
      ⟨none, -1, 119, -1, false⟩ := by
  have hicons : icons (iconDevice [iconElement 24 24, iconElement 48 48, iconElement 120 120]) =
      [pngIcon 24 24, pngIcon 48 48, pngIcon 120 120] := by decide
  refine ⟨.inl (by decide),
    (fits_iff some _ _ (.inl (by decide))).2
      ⟨iconsNamed_iconDevice _ (by decide), fun icon hicon => ?_, fun _ => ?_⟩⟩
  · rw [hicons] at hicon
    have hcases : icon = pngIcon 24 24 ∨ icon = pngIcon 48 48 ∨ icon = pngIcon 120 120 := by
      simpa using hicon
    rcases hcases with rfl | rfl | rfl <;>
      exact ⟨by decide, fun _ => ⟨by decide, by decide, by decide, by decide⟩⟩
  · rw [hicons]
    refine ⟨1, pngIcon 48 48, rfl, eligible_pngIcon _ _ _ _ _ _ (by decide), ⟨by decide, by decide⟩,
      fun j other hother _ hnot => ?_⟩
    rcases j with _ | _ | _ | j
    · obtain rfl := Option.some.inj hother
      exact absurd ⟨by decide, by decide⟩ hnot
    · obtain rfl := Option.some.inj hother
      exact absurd ⟨by decide, by decide⟩ hnot
    · obtain rfl := Option.some.inj hother
      exact .inl (by decide)
    · cases hother

/-- An excess of the width that a deficit of the height cancels: the icon that is 120 pixels wide is
chosen for a width of at most 100. -/
theorem wider_chosen : ¬ ∀ (resolve : Str → Option Str) (device : Node) (req : IconRequest),
    0 ≤ req.width ∨ 0 ≤ req.height → KeepsDocumentation resolve device req := by
  intro h
  have hicons : icons (iconDevice [iconElement 48 48, iconElement 120 80]) =
      [pngIcon 48 48, pngIcon 120 80] := by decide
  have heval : getIconUrl some (iconDevice [iconElement 48 48, iconElement 120 80])
      ⟨none, -1, 100, 100, false⟩ = .ok (some ((pngIcon 120 80).toUrl some)) := by decide
  obtain ⟨result, hresult, -, hfits⟩ := h some (iconDevice [iconElement 48 48, iconElement 120 80])
    ⟨none, -1, 100, 100, false⟩ (.inl (by decide))
  obtain rfl := Except.ok.inj (heval.symm.trans hresult)
  rw [hicons] at hfits
  obtain ⟨icon, -, hsame, hfit⟩ := hfits ⟨pngIcon 48 48, List.mem_cons_self,
    eligible_pngIcon _ _ _ _ _ _ (by decide), ⟨by decide, by decide⟩⟩
  have hwidth : 120 = icon.width := congrArg IconUrl.width (Option.some.inj hsame)
  have hle : icon.width ≤ 100 := hfit.width (by decide)
  omega

/-! ## No requested size -/

theorem noOverflow_of_no_size (hsize : req.width < 0 ∧ req.height < 0) :
    NoOverflow req icon ↔ AreaInRange req icon := by
  unfold NoOverflow WeightInRange
  rw [if_pos hsize]
  exact ⟨fun h => ⟨h.1, h.2⟩, fun h => ⟨h.depth, h.area⟩⟩

/-- The pass over the areas, as the search for the least key. -/
theorem largestOrSmallest_eq (hsize : req.width < 0 ∧ req.height < 0) (listed : List Icon) :
    largestOrSmallest req listed =
      select (fun icon closest => decide
        ((if req.preferBigger then -icon.weight else icon.weight) <
          (if req.preferBigger then -closest.weight else closest.weight))) listed := by
  unfold largestOrSmallest
  rw [if_pos ⟨hsize.2, hsize.1⟩]
  congr 1
  funext icon closest
  cases req.preferBigger <;> simp

/-- The icon that is chosen is the largest or smallest one. -/
theorem extremal_of_closest (hsize : req.width < 0 ∧ req.height < 0) {m : Icon}
    (hm : closestIcon req (listed req l) = some m) :
    ∃ winner ∈ l, Eligible req winner ∧ m = { winner with weight := weight req winner } ∧
      ∀ other ∈ l, Eligible req other →
        if req.preferBigger then other.width * other.height ≤ winner.width * winner.height
        else winner.width * winner.height ≤ other.width * other.height := by
  have hweight : ∀ icon, weight req icon = icon.width * icon.height := fun icon => if_pos hsize
  unfold closestIcon at hm
  rw [largestOrSmallest_eq hsize] at hm
  obtain ⟨-, hnone⟩ | ⟨i, winner, m', hselect, hget, hcandidate, hleast⟩ := select_reverse
    (fun icon : Icon => if req.preferBigger then -icon.weight else icon.weight) (weigh req) l
  · have hnil : listed req l = [] := by
      rw [listed, List.filterMap_eq_nil_iff.2 hnone]
      rfl
    rw [hnil] at hm
    cases hm
  · rw [listed, hselect] at hm
    obtain rfl := Option.some.inj hm
    obtain ⟨heligible, heq⟩ := Option.ite_none_right_eq_some.1 hcandidate
    obtain rfl := Option.some.inj heq
    refine ⟨winner, List.mem_of_getElem? hget, heligible, rfl, fun other hother hother' => ?_⟩
    obtain ⟨j, hj⟩ := List.getElem?_of_mem hother
    have hle := hleast j other _ hj (if_pos hother')
    simp only [hweight] at hle
    split
    · rename_i hbigger
      simp only [hbigger, if_true] at hle
      omega
    · rename_i hbigger
      simp only [hbigger, Bool.false_eq_true, if_false] at hle
      omega

/-- **The largest or smallest icon is chosen** if and only if no CDATA block is in the list and no `int`
overflows. -/
theorem extremal_iff (resolve : Str → Option Str) (device : Node) (req : IconRequest)
    (hsize : req.width < 0 ∧ req.height < 0) :
    ChoosesExtremal resolve device req ↔
      IconsNamed device ∧ ∀ icon ∈ icons device, AreaInRange req icon := by
  have hgives := (gives_getIconUrl resolve device req).congr
    (and_congr_right' (forall₂_congr fun icon _ => noOverflow_of_no_size hsize)) fun _ => rfl
  constructor
  · rintro ⟨result, hresult, -⟩
    exact (hgives.eq_ok_iff.1 hresult).1
  · intro hrange
    refine ⟨_, hgives.1 hrange, ?_, fun r hr => ?_⟩
    · rintro ⟨icon, hmem, heligible⟩
      have hne : listed req (icons device) ≠ [] := List.ne_nil_of_mem
        (List.mem_reverse.2 (List.mem_filterMap.2 ⟨icon, hmem, if_pos heligible⟩))
      obtain ⟨m, -, hclosest⟩ := exists_closestIcon req hne
      exact ⟨_, by rw [hclosest]; rfl⟩
    · obtain ⟨m, hm, rfl⟩ := Option.map_eq_some_iff.1 hr
      obtain ⟨winner, hmem, heligible, rfl, hextremal⟩ := extremal_of_closest hsize hm
      exact ⟨winner, hmem, rfl, heligible, hextremal⟩

/-- The same icons, without a requested size. -/
theorem extremal_iff_sample : ((-1 : Int) < 0 ∧ (-1 : Int) < 0) ∧
    ChoosesExtremal some (iconDevice [iconElement 24 24, iconElement 48 48, iconElement 120 120])
      ⟨none, -1, -1, -1, true⟩ := by
  have hicons : icons (iconDevice [iconElement 24 24, iconElement 48 48, iconElement 120 120]) =
      [pngIcon 24 24, pngIcon 48 48, pngIcon 120 120] := by decide
  refine ⟨by decide, (extremal_iff some _ _ (by decide)).2
    ⟨iconsNamed_iconDevice _ (by decide), fun icon hicon => ?_⟩⟩
  rw [hicons] at hicon
  have hcases : icon = pngIcon 24 24 ∨ icon = pngIcon 48 48 ∨ icon = pngIcon 120 120 := by
    simpa using hicon
  rcases hcases with rfl | rfl | rfl <;> exact ⟨by decide, fun _ => by decide⟩

/-- The area of an icon of 65536 by 65536 pixels overflows. -/
theorem area_overflows : ¬ ∀ (resolve : Str → Option Str) (device : Node) (req : IconRequest),
    req.width < 0 ∧ req.height < 0 → ChoosesExtremal resolve device req := by
  intro h
  have heval : getIconUrl some (iconDevice [iconElement 65536 65536, iconElement 16 16])
      ⟨none, -1, -1, -1, true⟩ = .error .overflow := by decide
  obtain ⟨result, hresult, -⟩ := h some (iconDevice [iconElement 65536 65536, iconElement 16 16])
    ⟨none, -1, -1, -1, true⟩ (by decide)
  cases heval.symm.trans hresult

end GUPnP.DeviceInfo
