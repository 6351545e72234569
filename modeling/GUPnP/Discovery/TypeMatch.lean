import GUPnP.DeviceInfo.Model
import GUPnP.Discovery.Usn

/-!
# The two comparisons of versions

`compareServiceTypesVersioned` of the control point and `resourceTypeMatch` of the device info compare
a type that is asked for with a type that is there. Both cut the types at a length they keep in a
`guint`, so they follow the rule of UPnP, and agree, for names shorter than 2^32 bytes
(`agree_of_lt`) and no longer (`not_agree_self`). The comparison of the control point is transitive
(`compare_trans`).
-/

set_option autoImplicit false

namespace GUPnP.Discovery

open ControlPoint DeviceInfo

/-! ## Types and their versions -/

/-- The name of a type: `urn:domain:kind:name`. -/
def IsTypeName (p : Str) : Prop :=
  ∃ domain kind name : Str, ':' ∉ domain ∧ ':' ∉ kind ∧ ':' ∉ name ∧
    p = "urn".toList ++ ':' :: (domain ++ ':' :: (kind ++ ':' :: name))

/-- The number of a version. -/
def number (v : Str) : Nat := Nat.ofDigitChars 10 v 0

/-- A decimal number of 31 bits. -/
structure Decimal (v : Str) : Prop where
  ne_nil : v ≠ []
  digits : ∀ c ∈ v, c.isDigit = true
  lt : number v < 2 ^ 31

/-- A positive decimal number of 31 bits. -/
structure IntVersion (v : Str) : Prop extends Version v where
  lt_int : number v < 2 ^ 31

/-- A type with its version. -/
def withVersion (p v : Str) : Str := p ++ ':' :: v

/-- The two comparisons agree on these types, and find a match if the names are the same and the
version that is there is no older. -/
def Agree (p v q w : Str) : Prop :=
  compareServiceTypesVersioned (withVersion p v) (withVersion q w) =
      resourceTypeMatch (withVersion p v) (withVersion q w) ∧
    (resourceTypeMatch (withVersion p v) (withVersion q w) = true ↔ p = q ∧ number v ≤ number w)

variable {p q v w a b c : Str}

theorem IsTypeName.count (h : IsTypeName p) : p.count ':' = 3 := by
  obtain ⟨domain, kind, name, hdomain, hkind, hname, rfl⟩ := h
  have hurn : ("urn".toList).count ':' = 0 := by decide
  simp only [List.count_append, List.count_cons, hurn, List.count_eq_zero.2 hdomain,
    List.count_eq_zero.2 hkind, List.count_eq_zero.2 hname]
  rfl

/-- No name goes on with a colon after another name. -/
theorem IsTypeName.not_prefix (hp : IsTypeName p) (hq : IsTypeName q) : ¬ p ++ [':'] <+: q := by
  intro hpre
  have hcount : (p ++ [':']).count ':' ≤ q.count ':' := hpre.sublist.count_le ':'
  rw [List.count_append, hp.count, hq.count] at hcount
  exact absurd hcount (by decide)

theorem strrchr_withVersion (hv : Version v) :
    CString.strrchr ':' (withVersion p v) = some (p, v) := CString.strrchr_append hv.not_mem

theorem Decimal.versionNumber (h : Decimal v) : versionNumber v = number v := by
  have hlt : number v < 2 ^ 31 := h.lt
  have hread : CString.strtol v = number v := by
    unfold CString.strtol
    rw [CString.numeral_of_digits h.ne_nil h.digits]
    simp only [Bool.false_eq_true, if_false]
    show min (number v : Int) (2 ^ 63 - 1) = number v
    omega
  have hmod : (number v : Int).bmod (2 ^ 32) % (2 ^ 32) = (number v : Int) % (2 ^ 32) :=
    Int.bmod_emod
  unfold DeviceInfo.versionNumber CString.atoi
  rw [hread, hmod]
  omega

theorem IntVersion.versionNumber (h : IntVersion v) : versionNumber v = number v :=
  Decimal.versionNumber ⟨h.ne_nil, h.digits, h.lt_int⟩

/-! ## What each comparison does -/

/-- When the control point finds a match. -/
theorem compare_iff : compareServiceTypesVersioned a b = true ↔
    ∃ p v q w, CString.strrchr ':' a = some (p, v) ∧ CString.strrchr ':' b = some (q, w) ∧
      p.length % 2 ^ 32 = q.length % 2 ^ 32 ∧ versionOf v ≠ 0 ∧ versionOf v ≤ versionOf w ∧
        a.take (p.length % 2 ^ 32) = b.take (p.length % 2 ^ 32) := by
  unfold compareServiceTypesVersioned
  constructor
  · intro h
    split at h
    · rename_i p v q w ha hb
      dsimp only at h
      split_ifs at h with hlen hv hw hle
      exact ⟨p, v, q, w, ha, hb, not_not.1 hlen, hv, Nat.le_of_not_lt hle, beq_iff_eq.1 h⟩
    · exact absurd h (by decide)
  · rintro ⟨p, v, q, w, ha, hb, hlen, hv, hle, htake⟩
    have hw : versionOf w ≠ 0 := by omega
    rw [ha, hb]
    simp only [if_neg (not_not.2 hlen), if_neg hv, if_neg hw, if_neg (Nat.not_lt.2 hle)]
    exact beq_iff_eq.2 htake

theorem compare_trans (h : compareServiceTypesVersioned a b = true)
    (h' : compareServiceTypesVersioned b c = true) : compareServiceTypesVersioned a c = true := by
  obtain ⟨p, v, q, w, ha, hb, hlen, hv, hle, htake⟩ := compare_iff.1 h
  obtain ⟨q', w', r, x, hb', hc, hlen', -, hle', htake'⟩ := compare_iff.1 h'
  rw [hb] at hb'
  obtain ⟨rfl, rfl⟩ := Prod.mk.inj (Option.some.inj hb')
  rw [← hlen] at htake'
  exact compare_iff.2 ⟨p, v, r, x, ha, hc, hlen.trans hlen', hv, hle.trans hle', htake.trans htake'⟩

theorem compare_withVersion (hv : Version v) (hw : Version w) :
    compareServiceTypesVersioned (withVersion p v) (withVersion q w) = true ↔
      p.length % 2 ^ 32 = q.length % 2 ^ 32 ∧ number v ≤ number w ∧
        p.take (p.length % 2 ^ 32) = q.take (p.length % 2 ^ 32) := by
  have htake : ∀ {s : Str} (t : Str) {n : Nat}, n = s.length % 2 ^ 32 →
      (withVersion s t).take n = s.take n := by
    intro s t n hn
    subst hn
    exact List.take_append_of_le_length (Nat.mod_le ..)
  rw [compare_iff]
  constructor
  · rintro ⟨p', v', q', w', ha, hb, hlen, -, hle, heq⟩
    rw [strrchr_withVersion hv] at ha
    rw [strrchr_withVersion hw] at hb
    obtain ⟨rfl, rfl⟩ := Prod.mk.inj (Option.some.inj ha)
    obtain ⟨rfl, rfl⟩ := Prod.mk.inj (Option.some.inj hb)
    rw [hv.versionOf, hw.versionOf] at hle
    rw [htake v rfl, htake w hlen] at heq
    exact ⟨hlen, hle, heq⟩
  · rintro ⟨hlen, hle, heq⟩
    refine ⟨p, v, q, w, strrchr_withVersion hv, strrchr_withVersion hw, hlen, ?_, ?_, ?_⟩
    · rw [hv.versionOf]
      exact Nat.pos_iff_ne_zero.1 hv.pos
    · rw [hv.versionOf, hw.versionOf]
      exact hle
    · rw [htake v rfl, htake w hlen]
      exact heq

/-- What `resourceTypeMatch` finds behind the part of the query that is as long as the name. -/
def versionMatch (rest w : Str) : Bool :=
  match rest with
  | [] => true
  | ':' :: queryVersion =>
    if queryVersion = [] then true
    else decide (versionNumber queryVersion ≤ versionNumber w)
  | _ :: _ => false

theorem match_withVersion (hw : Version w) (query : Str) :
    resourceTypeMatch query (withVersion q w) = true ↔
      query.take (q.length % 2 ^ 32) = q.take (q.length % 2 ^ 32) ∧
        versionMatch (query.drop (q.length % 2 ^ 32)) w = true := by
  have htake : (withVersion q w).take (q.length % 2 ^ 32) = q.take (q.length % 2 ^ 32) :=
    List.take_append_of_le_length (Nat.mod_le ..)
  unfold resourceTypeMatch
  rw [strrchr_withVersion hw]
  simp only [CString.strncmpEq, htake, beq_iff_eq, if_neg hw.ne_nil]
  by_cases hpre : query.take (q.length % 2 ^ 32) = q.take (q.length % 2 ^ 32)
  · rw [if_neg (not_not.2 hpre)]
    exact ⟨fun h => ⟨hpre, h⟩, fun h => h.2⟩
  · rw [if_pos hpre]
    exact ⟨fun h => absurd h (by decide), fun h => absurd h.1 hpre⟩

theorem versionMatch_colon :
    versionMatch (':' :: v) w = true ↔ v = [] ∨ versionNumber v ≤ versionNumber w := by
  unfold versionMatch
  by_cases hv : v = []
  · simp [hv]
  · simp [hv]

theorem versionMatch_of_ne {c : Char} (hc : c ≠ ':') (s : Str) : versionMatch (c :: s) w = false := by
  unfold versionMatch
  split
  · rename_i heq
    exact absurd heq (List.cons_ne_nil c s)
  · rename_i heq
    exact absurd (List.cons.inj heq).1 hc
  · rfl

/-- A version ends before a colon. -/
theorem versionNumber_append (s v : Str) : versionNumber (s ++ ':' :: v) = versionNumber s := by
  have hnumeral : CString.numeral (s ++ ':' :: v) = CString.numeral s :=
    CString.numeral_append (by decide) (by decide) (by decide) (by decide) s v
  simp only [versionNumber, CString.atoi, CString.strtol, hnumeral]

/-- A version that is not where the comparison looks for it makes no difference. -/
theorem versionMatch_append (ha : a ≠ []) (v v' : Str) :
    versionMatch (a ++ ':' :: v) w = versionMatch (a ++ ':' :: v') w := by
  cases a with
  | nil => exact absurd rfl ha
  | cons c s =>
    by_cases hc : c = ':'
    · subst hc
      rw [Bool.eq_iff_iff, List.cons_append, List.cons_append, versionMatch_colon, versionMatch_colon,
        versionNumber_append, versionNumber_append]
      simp
    · rw [List.cons_append, List.cons_append, versionMatch_of_ne hc, versionMatch_of_ne hc]

/-! ## Names of less than 2^32 bytes -/

/-- A name that is behind another name is the same name. -/
theorem eq_of_behind {tail : Str} (hp : IsTypeName p) (hq : IsTypeName q)
    (htail : tail = [] ∨ ∃ v, tail = ':' :: v) (htake : (p ++ tail).take q.length = q)
    (hmatch : versionMatch ((p ++ tail).drop q.length) w = true) : p = q := by
  have hpre : q <+: p ++ tail := by
    rw [← htake]
    exact List.take_prefix ..
  rcases Nat.lt_trichotomy p.length q.length with hshort | hlen | hlong
  · obtain rfl | ⟨v, rfl⟩ := htail
    · rw [List.append_nil] at hpre
      exact absurd hpre.length_le (Nat.not_le_of_lt hshort)
    · have hcolon : p ++ [':'] <+: p ++ ':' :: v := ⟨v, by simp⟩
      have hbehind : p ++ [':'] <+: q := by
        apply List.prefix_of_prefix_length_le hcolon hpre
        simp only [List.length_append, List.length_singleton]
        omega
      exact absurd hbehind (hp.not_prefix hq)
  · rw [← htake, ← hlen]
    exact (List.take_left ..).symm
  · have hpre' : q <+: p := List.prefix_of_prefix_length_le hpre (List.prefix_append ..) hlong.le
    obtain ⟨rest, rfl⟩ := hpre'
    rw [List.append_assoc, List.drop_left] at hmatch
    cases rest with
    | nil => simp at hlong
    | cons c rest =>
      by_cases hc : c = ':'
      · subst hc
        exact absurd ⟨rest, by simp⟩ (hq.not_prefix hp)
      · rw [List.cons_append, versionMatch_of_ne hc] at hmatch
        exact absurd hmatch (by decide)

theorem match_iff_of_lt (hp : IsTypeName p) (hq : IsTypeName q) (hv : IntVersion v)
    (hw : IntVersion w) (hlt : q.length < 2 ^ 32) :
    resourceTypeMatch (withVersion p v) (withVersion q w) = true ↔ p = q ∧ number v ≤ number w := by
  rw [match_withVersion hw.toVersion, Nat.mod_eq_of_lt hlt, List.take_length]
  constructor
  · rintro ⟨htake, hmatch⟩
    obtain rfl := eq_of_behind hp hq (.inr ⟨v, rfl⟩) htake hmatch
    refine ⟨rfl, ?_⟩
    rw [withVersion, List.drop_left, versionMatch_colon, hv.versionNumber, hw.versionNumber] at hmatch
    exact hmatch.resolve_left hv.ne_nil
  · rintro ⟨rfl, hle⟩
    refine ⟨List.take_left .., ?_⟩
    rw [withVersion, List.drop_left, versionMatch_colon, hv.versionNumber, hw.versionNumber]
    exact .inr hle

theorem agree_of_lt (hp : IsTypeName p) (hq : IsTypeName q) (hv : IntVersion v) (hw : IntVersion w)
    (hltp : p.length < 2 ^ 32) (hltq : q.length < 2 ^ 32) : Agree p v q w := by
  have hmatch := match_iff_of_lt hp hq hv hw hltq
  refine ⟨?_, hmatch⟩
  rw [Bool.eq_iff_iff, hmatch, compare_withVersion hv.toVersion hw.toVersion, Nat.mod_eq_of_lt hltp,
    Nat.mod_eq_of_lt hltq, List.take_length]
  constructor
  · rintro ⟨hlen, hle, htake⟩
    rw [hlen, List.take_length] at htake
    exact ⟨htake, hle⟩
  · rintro ⟨rfl, hle⟩
    exact ⟨rfl, hle, List.take_length.symm⟩

/-! ## Longer names -/

theorem intVersion_of_digit {c : Char} (hc : c.isDigit = true) (hpos : 0 < number [c])
    (hlt : number [c] < 2 ^ 31) : IntVersion [c] where
  ne_nil := List.cons_ne_nil c []
  digits := by
    intro d hd
    obtain rfl := List.mem_singleton.1 hd
    exact hc
  pos := hpos
  lt := by
    show number [c] < 2 ^ 32
    omega
  lt_int := hlt

theorem intVersion_one : IntVersion ['1'] := intVersion_of_digit (by decide) (by decide) (by decide)

theorem intVersion_two : IntVersion ['2'] := intVersion_of_digit (by decide) (by decide) (by decide)

/-- With a name of 2^32 bytes or more the version that is asked for is not looked at. -/
theorem match_long (hlong : 2 ^ 32 ≤ p.length) (hw : Version w) (v v' : Str) :
    resourceTypeMatch (withVersion p v) (withVersion p w) =
      resourceTypeMatch (withVersion p v') (withVersion p w) := by
  have hlt : p.length % 2 ^ 32 < p.length := (Nat.mod_lt _ (by decide)).trans_le hlong
  have hrest : p.drop (p.length % 2 ^ 32) ≠ [] := by
    intro hnil
    have := List.drop_eq_nil_iff.1 hnil
    omega
  rw [Bool.eq_iff_iff, match_withVersion hw, match_withVersion hw, withVersion, withVersion,
    List.take_append_of_le_length hlt.le, List.take_append_of_le_length hlt.le,
    List.drop_append_of_le_length hlt.le, List.drop_append_of_le_length hlt.le,
    versionMatch_append hrest v v']

theorem not_agree_self (hlong : 2 ^ 32 ≤ p.length) :
    ¬ (Agree p ['1'] p ['1'] ∧ Agree p ['2'] p ['1']) := by
  rintro ⟨⟨-, hsame⟩, ⟨-, hnewer⟩⟩
  have hmatch := hsame.2 ⟨rfl, le_refl _⟩
  rw [match_long hlong intVersion_one.toVersion ['1'] ['2']] at hmatch
  exact absurd (hnewer.1 hmatch).2 (by decide)

/-- A name that is longer by a multiple of 2^32 bytes is taken for the name it starts with. -/
theorem not_agree_append {rest : Str} (hlt : p.length < 2 ^ 32) (hne : rest ≠ [])
    (hlen : rest.length % 2 ^ 32 = 0) : ¬ Agree p ['1'] (p ++ rest) ['1'] := by
  rintro ⟨hsame, hrule⟩
  have hfound : compareServiceTypesVersioned (withVersion p ['1']) (withVersion (p ++ rest) ['1']) =
      true := by
    rw [compare_withVersion intVersion_one.toVersion intVersion_one.toVersion, List.length_append,
      Nat.mod_eq_of_lt hlt, List.take_left, List.take_length]
    exact ⟨by omega, le_refl _, rfl⟩
  rw [hsame, hrule] at hfound
  exact hne (List.self_eq_append_right.1 hfound.1)

/-! ## The main results -/

/-- **The two comparisons follow the rule and agree for names of less than 2^32 bytes**, and of no
more. The comparison of the control point is transitive for all strings. -/
theorem comparisons_agree (p : Str) (hp : IsTypeName p) :
    ((∀ q, IsTypeName q → q.length ≤ p.length → ∀ v w, IntVersion v → IntVersion w →
      Agree p v q w ∧ Agree q v p w) ↔ p.length < 2 ^ 32) ∧
    ∀ a b c, compareServiceTypesVersioned a b = true → compareServiceTypesVersioned b c = true →
      compareServiceTypesVersioned a c = true := by
  refine ⟨⟨fun h => ?_, fun hlt q hq hle v w hv hw => ?_⟩, fun a b c => compare_trans⟩
  · by_contra hlong
    have hone := h p hp (le_refl _) _ _ intVersion_one intVersion_one
    have htwo := h p hp (le_refl _) _ _ intVersion_two intVersion_one
    exact not_agree_self (Nat.le_of_not_lt hlong) ⟨hone.1, htwo.1⟩
  · have hltq : q.length < 2 ^ 32 := by omega
    exact ⟨agree_of_lt hp hq hv hw hlt hltq, agree_of_lt hq hp hv hw hltq hlt⟩

theorem isTypeName_append {name rest : Str} (hname : ':' ∉ name) (hrest : ':' ∉ rest) :
    IsTypeName ("urn:a:b:".toList ++ name ++ rest) := by
  refine ⟨['a'], ['b'], name ++ rest, by decide, by decide, ?_, ?_⟩
  · rw [List.mem_append]
    exact not_or.2 ⟨hname, hrest⟩
  · rw [List.append_assoc]
    rfl

theorem comparisons_agree_small :
    Agree ("urn:a:b:".toList ++ ['c'] ++ []) ['1'] ("urn:a:b:".toList ++ ['c'] ++ []) ['2'] ∧
      compareServiceTypesVersioned "a:1".toList "a:3".toList = true := by
  have hname : IsTypeName ("urn:a:b:".toList ++ ['c'] ++ []) :=
    isTypeName_append (by decide) (by decide)
  constructor
  · exact ((comparisons_agree _ hname).1.2 (by decide) _ hname (le_refl _) _ _ intVersion_one
      intVersion_two).1
  · exact (comparisons_agree _ hname).2 _ "a:2".toList _ (by decide) (by decide)

/-- The control point takes the type `urn:a:b:cxx…x:1` for `urn:a:b:c:1`. -/
theorem comparisons_disagree :
    IsTypeName ("urn:a:b:".toList ++ ['c'] ++ []) ∧
      IsTypeName ("urn:a:b:".toList ++ ['c'] ++ List.replicate (2 ^ 32) 'x') ∧ IntVersion ['1'] ∧
        ¬ Agree ("urn:a:b:".toList ++ ['c'] ++ []) ['1']
          ("urn:a:b:".toList ++ ['c'] ++ List.replicate (2 ^ 32) 'x') ['1'] := by
  have hrest : ':' ∉ List.replicate (2 ^ 32) 'x' := by
    intro hmem
    exact absurd (List.eq_of_mem_replicate hmem) (by decide)
  refine ⟨isTypeName_append (by decide) (by decide), isTypeName_append (by decide) hrest,
    intVersion_one, ?_⟩
  rw [List.append_nil]
  apply not_agree_append (by decide)
  · intro hnil
    have hlen := congrArg List.length hnil
    rw [List.length_replicate] at hlen
    exact absurd hlen (by decide)
  · rw [List.length_replicate]
    exact Nat.mod_self _

end GUPnP.Discovery
