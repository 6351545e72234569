import GUPnP.Discovery.TypeMatch

/-!
# Types with and without a version

`resourceTypeMatch` cuts the type that is there at its last colon. Where the type has a version this is
the colon before the version, and the comparison follows the rule of UPnP (`match_versioned`). Where it
has none it is the colon before the name: two names then count as versions, and one type is taken for
another (`match_bare`, `resource_type_match_iff`).
-/

set_option autoImplicit false

namespace GUPnP.Discovery

open DeviceInfo

/-! ## Types -/

/-- `urn:domain:kind:name` or `urn:domain:kind:name:version`. -/
structure ResourceType where
  domain : Str
  kind : Str
  name : Str
  version : Option Str
  colons : ':' ∉ domain ∧ ':' ∉ kind ∧ ':' ∉ name
  decimal : ∀ v ∈ version, Decimal v

namespace ResourceType

/-- The type up to its kind. -/
def group (t : ResourceType) : Str := "urn".toList ++ ':' :: (t.domain ++ ':' :: t.kind)

/-- The type up to its name. -/
def bare (t : ResourceType) : Str := t.group ++ ':' :: t.name

/-- What stands before the last colon of the type. -/
def stem (t : ResourceType) : Str := if t.version.isSome then t.bare else t.group

/-- What stands after the last colon of the type. -/
def last (t : ResourceType) : Str := t.version.getD t.name

def text (t : ResourceType) : Str := t.stem ++ ':' :: t.last

end ResourceType

/-- The same type, in a version that is not newer. -/
def Matches (query base : ResourceType) : Prop :=
  query.domain = base.domain ∧ query.kind = base.kind ∧ query.name = base.name ∧
    ∀ v ∈ query.version, ∃ w ∈ base.version, number v ≤ number w

/-- The comparison tells the two types apart if they are to be told apart. -/
def ToldApart (query base : ResourceType) : Prop :=
  resourceTypeMatch query.text base.text = true ↔ Matches query base

/-- The name of the query is taken for a version that is not newer than the other name. -/
def NameAsVersion (query base : ResourceType) : Prop :=
  query.domain = base.domain ∧
    if base.name = [] then base.kind <+: query.kind
    else query.kind = base.kind ∧ versionNumber query.name ≤ versionNumber base.name

/-- What stands in the query where the type that is there has its version, if the length of the type is
cut to 32 bits. -/
def PassesAtCut (query base : ResourceType) : Prop :=
  query.text.take (base.stem.length % 2 ^ 32) = base.stem.take (base.stem.length % 2 ^ 32) ∧
    (base.last = [] ∨
      versionMatch (query.text.drop (base.stem.length % 2 ^ 32)) base.last = true)

variable {query base : ResourceType} {a b c d : Str}

/-! ## Colons -/

theorem append_colon_inj (ha : ':' ∉ a) (hc : ':' ∉ c) :
    a ++ ':' :: b = c ++ ':' :: d ↔ a = c ∧ b = d := by
  constructor
  · intro h
    induction a generalizing c with
    | nil =>
      cases c with
      | nil => exact ⟨rfl, (List.cons.inj h).2⟩
      | cons y c => exact absurd (List.cons.inj h).1 fun he => hc (he ▸ List.mem_cons_self)
    | cons x a ih =>
      cases c with
      | nil => exact absurd (List.cons.inj h).1 fun he => ha (he ▸ List.mem_cons_self)
      | cons y c =>
        obtain ⟨rfl, htail⟩ := List.cons.inj h
        obtain ⟨rfl, hrest⟩ := ih (fun hm => ha (List.mem_cons_of_mem x hm))
          (fun hm => hc (List.mem_cons_of_mem x hm)) htail
        exact ⟨rfl, hrest⟩
  · rintro ⟨rfl, rfl⟩
    rfl

theorem colon_prefix_colon (ha : ':' ∉ a) (hc : ':' ∉ c) :
    a ++ ':' :: b <+: c ++ ':' :: d ↔ a = c ∧ b <+: d := by
  constructor
  · rintro ⟨rest, hrest⟩
    rw [List.append_assoc, List.cons_append, append_colon_inj ha hc] at hrest
    exact ⟨hrest.1, rest, hrest.2⟩
  · rintro ⟨rfl, rest, rfl⟩
    exact ⟨rest, by simp⟩

theorem prefix_append_colon (ha : ':' ∉ a) : a <+: c ++ ':' :: d ↔ a <+: c := by
  constructor
  · intro h
    refine List.prefix_of_prefix_length_le h (List.prefix_append _ _) ?_
    by_contra hlong
    have hcolon : c ++ [':'] <+: a := by
      refine List.prefix_of_prefix_length_le ⟨d, by simp⟩ h ?_
      simp only [List.length_append, List.length_singleton]
      omega
    exact ha (hcolon.subset (by simp))
  · exact fun h => h.trans (List.prefix_append _ _)

namespace ResourceType

theorem isTypeName (t : ResourceType) : IsTypeName t.bare :=
  ⟨t.domain, t.kind, t.name, t.colons.1, t.colons.2.1, t.colons.2.2, by simp [bare, group]⟩

theorem last_not_mem (t : ResourceType) : ':' ∉ t.last := by
  unfold last
  cases hv : t.version with
  | none => exact t.colons.2.2
  | some v =>
    exact fun hm => absurd ((t.decimal v (by simp [hv])).digits ':' hm) (by decide)

/-- A type with its name and what may follow it. -/
theorem text_eq (t : ResourceType) :
    t.text = t.bare ++ (t.version.map (':' :: ·)).getD [] := by
  unfold text stem last
  cases hv : t.version with
  | none => simp [bare]
  | some v => simp

theorem group_prefix_text (t u : ResourceType) :
    t.group <+: u.text ↔ t.domain = u.domain ∧ t.kind <+: u.kind := by
  have htext : u.text = "urn".toList ++ ':' :: (u.domain ++ ':' :: (u.kind ++ ':' ::
      (u.name ++ (u.version.map (':' :: ·)).getD []))) := by
    rw [text_eq]
    simp [bare, group]
  rw [htext, group, colon_prefix_colon (by decide) (by decide),
    colon_prefix_colon t.colons.1 u.colons.1, prefix_append_colon t.colons.2.1]
  simp

theorem bare_inj {t u : ResourceType} :
    t.bare = u.bare ↔ t.domain = u.domain ∧ t.kind = u.kind ∧ t.name = u.name := by
  constructor
  · intro h
    simp only [bare, group, List.append_assoc, List.cons_append] at h
    obtain ⟨-, h⟩ := (append_colon_inj (by decide) (by decide)).1 h
    obtain ⟨hdomain, h⟩ := (append_colon_inj t.colons.1 u.colons.1).1 h
    exact ⟨hdomain, (append_colon_inj t.colons.2.1 u.colons.2.1).1 h⟩
  · rintro ⟨hdomain, hkind, hname⟩
    simp only [bare, group, hdomain, hkind, hname]

end ResourceType

/-! ## The comparison -/

/-- The comparison goes by the last colon of the type that is there. -/
theorem resourceTypeMatch_iff (query base : ResourceType) :
    resourceTypeMatch query.text base.text = true ↔ PassesAtCut query base := by
  have htake : base.text.take (base.stem.length % 2 ^ 32) =
      base.stem.take (base.stem.length % 2 ^ 32) := List.take_append_of_le_length (Nat.mod_le ..)
  unfold resourceTypeMatch PassesAtCut
  rw [show CString.strrchr ':' base.text = some (base.stem, base.last) from
    CString.strrchr_append base.last_not_mem]
  simp only [CString.strncmpEq, htake, beq_iff_eq]
  by_cases hpre : query.text.take (base.stem.length % 2 ^ 32) =
      base.stem.take (base.stem.length % 2 ^ 32)
  · rw [if_neg (not_not.2 hpre), and_iff_right hpre]
    by_cases hlast : base.last = []
    · simp [hlast]
    · rw [if_neg hlast, or_iff_right hlast]
      rfl
  · rw [if_pos hpre]
    exact ⟨fun h => absurd h (by decide), fun h => absurd h.1 hpre⟩

/-- **A type with a version, with less than 2^32 bytes before it, is told apart from all others.** -/
theorem match_versioned {w : Str} (hw : base.version = some w) (hlt : base.stem.length < 2 ^ 32) :
    PassesAtCut query base ↔ Matches query base := by
  have hstem : base.stem = base.bare := by simp [ResourceType.stem, hw]
  have hlast : base.last = w := by simp [ResourceType.last, hw]
  have hdecimal := base.decimal w (by simp [hw])
  unfold PassesAtCut
  rw [Nat.mod_eq_of_lt hlt, hstem, hlast, List.take_length, or_iff_right hdecimal.ne_nil,
    query.text_eq]
  have hbehind : versionMatch ((query.version.map (':' :: ·)).getD []) w = true ↔
      ∀ v ∈ query.version, ∃ w' ∈ base.version, number v ≤ number w' := by
    cases hv : query.version with
    | none => simp [versionMatch]
    | some v =>
      have hv' := query.decimal v (by simp [hv])
      simp [versionMatch_colon, hv'.ne_nil, hv'.versionNumber, hdecimal.versionNumber, hw]
  constructor
  · rintro ⟨htake, hmatch⟩
    have htail : (query.version.map (':' :: ·)).getD [] = [] ∨
        ∃ v, (query.version.map (':' :: ·)).getD [] = ':' :: v := by
      cases query.version with
      | none => exact .inl rfl
      | some v => exact .inr ⟨v, rfl⟩
    have hbare := eq_of_behind query.isTypeName base.isTypeName htail htake hmatch
    obtain ⟨hdomain, hkind, hname⟩ := ResourceType.bare_inj.1 hbare
    rw [hbare, List.drop_left, hbehind] at hmatch
    exact ⟨hdomain, hkind, hname, hmatch⟩
  · rintro ⟨hdomain, hkind, hname, hversion⟩
    rw [ResourceType.bare_inj.2 ⟨hdomain, hkind, hname⟩, List.take_left, List.drop_left]
    exact ⟨rfl, hbehind.2 hversion⟩

/-- Behind the kind of the type that is there stands the rest of the other kind, then the name. -/
theorem drop_group {rest : Str} (hdomain : query.domain = base.domain)
    (hkind : query.kind = base.kind ++ rest) : query.text.drop base.group.length =
      rest ++ ':' :: (query.name ++ (query.version.map (':' :: ·)).getD []) := by
  have hsplit : query.text = base.group ++ (rest ++ ':' :: (query.name ++
      (query.version.map (':' :: ·)).getD [])) := by
    rw [query.text_eq]
    simp [ResourceType.bare, ResourceType.group, hdomain, hkind]
  rw [hsplit, List.drop_left]

/-- A version behind a name is no part of the number that the name begins with. -/
theorem ResourceType.versionNumber_name (t : ResourceType) :
    versionNumber (t.name ++ (t.version.map (':' :: ·)).getD []) = versionNumber t.name := by
  cases t.version with
  | none => simp
  | some v => exact versionNumber_append t.name v

/-- Without a version the names are compared as versions. -/
theorem match_bare (hnone : base.version = none) (hlt : base.stem.length < 2 ^ 32) :
    PassesAtCut query base ↔ NameAsVersion query base := by
  have hstem : base.stem = base.group := by simp [ResourceType.stem, hnone]
  have hlast : base.last = base.name := by simp [ResourceType.last, hnone]
  have htake : query.text.take base.group.length = base.group ↔ base.group <+: query.text := by
    rw [List.prefix_iff_eq_take, eq_comm]
  unfold PassesAtCut NameAsVersion
  rw [Nat.mod_eq_of_lt hlt, hstem, hlast, List.take_length, htake, ResourceType.group_prefix_text,
    and_assoc, eq_comm]
  refine and_congr_right fun hdomain => ?_
  by_cases hname : base.name = []
  · simp [hname]
  rw [if_neg hname, or_iff_right hname]
  constructor
  · rintro ⟨⟨rest, hkind⟩, hmatch⟩
    rw [drop_group hdomain hkind.symm] at hmatch
    cases rest with
    | nil =>
      refine ⟨by simpa using hkind.symm, ?_⟩
      rw [List.nil_append, versionMatch_colon] at hmatch
      rw [← query.versionNumber_name]
      obtain hnil | hle := hmatch
      · rw [hnil]
        exact Nat.zero_le _
      · exact hle
    | cons c rest =>
      have hc : c ≠ ':' := by
        rintro rfl
        exact query.colons.2.1 (hkind ▸ by simp)
      rw [List.cons_append, versionMatch_of_ne hc] at hmatch
      exact absurd hmatch (by decide)
  · rintro ⟨hkind, hle⟩
    refine ⟨hkind ▸ List.prefix_rfl, ?_⟩
    have hnil : query.kind = base.kind ++ [] := by rw [hkind, List.append_nil]
    rw [drop_group hdomain hnil, List.nil_append, versionMatch_colon, query.versionNumber_name]
    exact .inr hle

theorem nameAsVersion_of_matches (h : Matches query base) : NameAsVersion query base := by
  obtain ⟨hdomain, hkind, hname, -⟩ := h
  refine ⟨hdomain, ?_⟩
  split
  · exact hkind ▸ List.prefix_rfl
  · exact ⟨hkind, hname ▸ le_refl _⟩

/-! ## Long types -/

theorem versionNumber_snoc (s : Str) : versionNumber (s ++ ['x']) = versionNumber s := by
  have hnumeral : CString.numeral (s ++ ['x']) = CString.numeral s :=
    CString.numeral_append (by decide) (by decide) (by decide) (by decide) s []
  simp only [versionNumber, CString.atoi, CString.strtol, hnumeral]

/-- A letter behind a version makes no difference. -/
theorem versionMatch_snoc {w : Str} (ha : a ≠ []) (h : versionMatch a w = true) :
    versionMatch (a ++ ['x']) w = true := by
  cases a with
  | nil => exact absurd rfl ha
  | cons c s =>
    by_cases hc : c = ':'
    · subst hc
      rw [versionMatch_colon] at h
      rw [List.cons_append, versionMatch_colon, versionNumber_snoc]
      obtain rfl | hle := h
      · exact .inr (Nat.zero_le _)
      · exact .inr hle
    · rw [versionMatch_of_ne hc] at h
      exact absurd h (by decide)

/-- The type without its version. -/
def ResourceType.anyVersion (t : ResourceType) : ResourceType where
  domain := t.domain
  kind := t.kind
  name := t.name
  version := none
  colons := t.colons
  decimal := by simp

/-- A type whose name starts with this one. -/
def ResourceType.longer (t : ResourceType) : ResourceType where
  domain := t.domain
  kind := t.kind
  name := t.name ++ ['x']
  version := none
  colons := ⟨t.colons.1, t.colons.2.1, by simpa using t.colons.2.2⟩
  decimal := by simp

/-- The end of a name is not looked at. -/
theorem passesAtCut_longer (hlong : 2 ^ 32 ≤ base.stem.length)
    (h : PassesAtCut base.anyVersion base) : PassesAtCut base.longer base := by
  have hany : base.anyVersion.text = base.bare := by
    rw [ResourceType.text_eq]
    simp [ResourceType.anyVersion, ResourceType.bare, ResourceType.group]
  have hlonger : base.longer.text = base.bare ++ ['x'] := by
    rw [ResourceType.text_eq]
    simp [ResourceType.longer, ResourceType.bare, ResourceType.group]
  have hbare : base.stem.length ≤ base.bare.length := by
    unfold ResourceType.stem
    split
    · exact le_refl _
    · simp [ResourceType.bare]
  have hlt : base.stem.length % 2 ^ 32 < base.bare.length :=
    (Nat.mod_lt _ (by decide)).trans_le (hlong.trans hbare)
  unfold PassesAtCut at h ⊢
  rw [hany] at h
  rw [hlonger, List.take_append_of_le_length hlt.le, List.drop_append_of_le_length hlt.le]
  refine ⟨h.1, h.2.imp_right (versionMatch_snoc ?_)⟩
  intro hnil
  exact absurd (List.drop_eq_nil_iff.1 hnil) (Nat.not_le_of_lt hlt)

/-- Every type of 2^32 bytes or more is taken for another one. -/
theorem exists_confused (hlong : 2 ^ 32 ≤ base.stem.length) : ∃ query, ¬ ToldApart query base := by
  by_contra hall
  simp only [not_exists, not_not] at hall
  have hany := hall base.anyVersion
  have hlonger := hall base.longer
  unfold ToldApart at hany hlonger
  rw [resourceTypeMatch_iff] at hany hlonger
  have hmatches : Matches base.anyVersion base := ⟨rfl, rfl, rfl, by simp [ResourceType.anyVersion]⟩
  obtain ⟨-, -, hname, -⟩ := hlonger.1 (passesAtCut_longer hlong (hany.2 hmatches))
  exact absurd hname (by simp [ResourceType.longer])

/-! ## The main result -/

/-- The types that the comparison tells apart: where the type that is there has a version, all; where it
has none, those whose names do not pass for versions. It has to be shorter than the lengths that are cut
to 32 bits. -/
structure Distinguished (query base : ResourceType) : Prop where
  length_lt : base.stem.length < 2 ^ 32
  names : base.version = none → NameAsVersion query base → Matches query base

theorem toldApart_iff (hlt : base.stem.length < 2 ^ 32) :
    ToldApart query base ↔ Distinguished query base := by
  unfold ToldApart
  rw [resourceTypeMatch_iff]
  cases hversion : base.version with
  | none =>
    rw [match_bare hversion hlt]
    exact ⟨fun h => ⟨hlt, fun _ => h.1⟩, fun h => ⟨h.names hversion, nameAsVersion_of_matches⟩⟩
  | some w =>
    have hnames : base.version = none → NameAsVersion query base → Matches query base := by
      simp [hversion]
    exact iff_of_true (match_versioned hversion hlt) ⟨hlt, hnames⟩

/-- The comparison keeps the rule if and only if the names of types without a version do not pass for
versions; a type of 2^32 bytes or more is always taken for some other. -/
theorem resource_type_match_iff (base : ResourceType) :
    ((∀ query, ToldApart query base) ↔ ∀ query, Distinguished query base) ∧
      (base.stem.length < 2 ^ 32 → ∀ query, ToldApart query base ↔ Distinguished query base) ∧
      (2 ^ 32 ≤ base.stem.length → ∃ query, ¬ ToldApart query base) := by
  refine ⟨⟨fun h query => ?_, fun h query => ?_⟩, fun hlt query => toldApart_iff hlt, exists_confused⟩
  · by_cases hlt : base.stem.length < 2 ^ 32
    · exact (toldApart_iff hlt).1 (h query)
    · obtain ⟨other, hother⟩ := exists_confused (Nat.le_of_not_lt hlt)
      exact absurd (h other) hother
  · exact (toldApart_iff (h query).length_lt).2 (h query)

/-- A service without a version. -/
def bareService (name : Str) (hname : ':' ∉ name) : ResourceType where
  domain := "schemas-upnp-org".toList
  kind := "service".toList
  name := name
  version := none
  colons := ⟨by decide, by decide, hname⟩
  decimal := by simp

/-- A control point that asks for a transport gets a directory. -/
theorem types_confused :
    resourceTypeMatch "urn:schemas-upnp-org:service:AVTransport".toList
      "urn:schemas-upnp-org:service:ContentDirectory".toList = true ∧
    ¬ ToldApart (bareService "AVTransport".toList (by decide))
      (bareService "ContentDirectory".toList (by decide)) := by
  have hmatch : resourceTypeMatch "urn:schemas-upnp-org:service:AVTransport".toList
      "urn:schemas-upnp-org:service:ContentDirectory".toList = true := by decide
  refine ⟨hmatch, fun h => ?_⟩
  obtain ⟨-, -, hname, -⟩ := h.1 hmatch
  exact absurd hname (by decide)

end GUPnP.Discovery
