import GUPnP.LinuxContextManager.Model
import GUPnP.Base.Run
import GUPnP.Base.Signals

/-!
# Contexts come and go in turn

A context is announced while it is in the table of an interface that is up (`Announced`). Every
function changes one interface, so what it must emit is the difference at that interface
(`announced_iff`, `announced_setDevice`). `network_device_free` emits for every context of the
interface, whether it is announced or not; with interfaces that are up, or have no context, when they
are freed, the signals of every context alternate (`signals_alternate`).
-/

set_option autoImplicit false

namespace GUPnP.LinuxContextManager

/-- The context is in the table of an interface that is up. -/
def Announced (s : ManagerState) (c : Nat) : Prop :=
  ∃ index device, s.interfaces.lookup index = some device ∧ device.up = true ∧
    c ∈ device.contexts.values

/-- The context is announced on an interface with another index. -/
def Elsewhere (s : ManagerState) (index c : Nat) : Prop :=
  ∃ i device, i ≠ index ∧ s.interfaces.lookup i = some device ∧ device.up = true ∧
    c ∈ device.contexts.values

/-- An interface that can be freed: it is up, or it has no contexts. -/
def Freeable (device : NetworkInterface) : Prop := device.up = true ∨ device.contexts.values = []

instance (device : NetworkInterface) : Decidable (Freeable device) :=
  inferInstanceAs (Decidable (_ ∨ _))

/-- The interfaces that are freed can be. -/
def FreesUp (s : ManagerState) : Event → Prop
  | .delLink index => ∀ device ∈ s.interfaces.lookup index, Freeable device
  | .dispose => ∀ device ∈ s.interfaces.values, Freeable device
  | _ => True

instance (s : ManagerState) (e : Event) : Decidable (FreesUp s e) :=
  match e with
  | .delLink index =>
    inferInstanceAs (Decidable (∀ device ∈ s.interfaces.lookup index, Freeable device))
  | .dispose => inferInstanceAs (Decidable (∀ device ∈ s.interfaces.values, Freeable device))
  | .newAddr _ _ => .isTrue trivial
  | .delAddr _ => .isTrue trivial
  | .newLink _ _ => .isTrue trivial

/-- No context has two addresses. -/
def Distinct (contexts : Table Str Nat) : Prop :=
  ∀ a a' c, contexts.lookup a = some c → contexts.lookup a' = some c → a = a'

/-- What holds between messages. -/
structure Good (s : ManagerState) : Prop where
  distinct : ∀ index device, s.interfaces.lookup index = some device → Distinct device.contexts
  disjoint : ∀ i i' device device' c, s.interfaces.lookup i = some device →
    s.interfaces.lookup i' = some device' → c ∈ device.contexts.values →
    c ∈ device'.contexts.values → i = i'
  fresh : ∀ index device c, s.interfaces.lookup index = some device →
    c ∈ device.contexts.values → c < s.nextContext
  announces : Announces s.log (Announced s)

section
variable {s t : ManagerState} {index c : Nat} {device device' : NetworkInterface}

/-! ## One interface -/

theorem announced_iff (hl : s.interfaces.lookup index = some device) :
    Announced s c ↔ device.up = true ∧ c ∈ device.contexts.values ∨ Elsewhere s index c := by
  constructor
  · rintro ⟨i, d, hi, hup, hc⟩
    by_cases hne : i = index
    · subst hne
      obtain rfl : d = device := Option.some.inj (hi.symm.trans hl)
      exact .inl ⟨hup, hc⟩
    · exact .inr ⟨i, d, hne, hi, hup, hc⟩
  · rintro (⟨hup, hc⟩ | ⟨i, d, -, hi, hup, hc⟩)
    · exact ⟨index, device, hl, hup, hc⟩
    · exact ⟨i, d, hi, hup, hc⟩

theorem announced_none (hl : s.interfaces.lookup index = none) :
    Announced s c ↔ Elsewhere s index c := by
  constructor
  · rintro ⟨i, d, hi, hup, hc⟩
    refine ⟨i, d, ?_, hi, hup, hc⟩
    rintro rfl
    rw [hl] at hi
    cases hi
  · rintro ⟨i, d, -, hi, hup, hc⟩
    exact ⟨i, d, hi, hup, hc⟩

/-- The other interfaces do not change with this one. -/
theorem elsewhere_congr (h : ∀ i, i ≠ index → t.interfaces.lookup i = s.interfaces.lookup i) :
    Elsewhere t index c ↔ Elsewhere s index c := by
  constructor
  · rintro ⟨i, d, hne, hi, hup, hc⟩
    exact ⟨i, d, hne, h i hne ▸ hi, hup, hc⟩
  · rintro ⟨i, d, hne, hi, hup, hc⟩
    exact ⟨i, d, hne, (h i hne).trans hi, hup, hc⟩

theorem lookup_setDevice (i : Nat) : (s.setDevice index device).interfaces.lookup i =
    if i = index then some device else s.interfaces.lookup i := by
  unfold ManagerState.setDevice
  split
  · rename_i h
    subst h
    exact AList.lookup_insert _
  · rename_i h
    exact AList.lookup_insert_ne h

theorem announced_setDevice (hi : t.interfaces = (s.setDevice index device').interfaces) :
    Announced t c ↔
      device'.up = true ∧ c ∈ device'.contexts.values ∨ Elsewhere s index c := by
  have hl : t.interfaces.lookup index = some device' := by
    rw [hi, lookup_setDevice, if_pos rfl]
  have helse : Elsewhere t index c ↔ Elsewhere s index c :=
    elsewhere_congr fun i hne => by rw [hi, lookup_setDevice, if_neg hne]
  rw [announced_iff hl, helse]

/-- A context of this interface is on no other. -/
theorem Good.not_elsewhere (h : Good s) (hl : s.interfaces.lookup index = some device)
    (hc : c ∈ device.contexts.values) : ¬ Elsewhere s index c := by
  rintro ⟨i, d, hne, hi, -, hc'⟩
  exact hne (h.disjoint i index d device c hi hl hc' hc)

theorem Good.nodup (h : Good s) (hl : s.interfaces.lookup index = some device) :
    device.contexts.values.Nodup :=
  Table.nodup_values (h.distinct index device hl)

/-- The interface gets other flags, loses contexts or gets the new one. -/
theorem Good.setDevice (h : Good s) (hi : t.interfaces = (s.setDevice index device').interfaces)
    (hnext : s.nextContext ≤ t.nextContext) (hdistinct : Distinct device'.contexts)
    (hold : ∀ c ∈ device'.contexts.values,
      (∃ device, s.interfaces.lookup index = some device ∧ c ∈ device.contexts.values) ∨
        c = s.nextContext ∧ s.nextContext < t.nextContext)
    (hann : Announces t.log fun c =>
      device'.up = true ∧ c ∈ device'.contexts.values ∨ Elsewhere s index c) : Good t where
  distinct i d hd := by
    rw [hi, lookup_setDevice] at hd
    split at hd
    · obtain rfl := Option.some.inj hd
      exact hdistinct
    · exact h.distinct i d hd
  disjoint i i' d d' c hd hd' hc hc' := by
    have hother : ∀ {i d}, i ≠ index → s.interfaces.lookup i = some d →
        c ∈ d.contexts.values → c ∈ device'.contexts.values → False := by
      intro i d hne hd hc hin
      rcases hold c hin with ⟨d', hd', hc'⟩ | ⟨heq, -⟩
      · exact hne (h.disjoint i index d d' c hd hd' hc hc')
      · have hlt := h.fresh i d c hd hc
        omega
    rw [hi, lookup_setDevice] at hd hd'
    split at hd
    · rename_i hidx
      obtain rfl := Option.some.inj hd
      split at hd'
      · rename_i hidx'
        exact hidx.trans hidx'.symm
      · rename_i hne
        exact (hother hne hd' hc' hc).elim
    · rename_i hne
      split at hd'
      · obtain rfl := Option.some.inj hd'
        exact (hother hne hd hc hc').elim
      · exact h.disjoint i i' d d' c hd hd' hc hc'
  fresh i d c hd hc := by
    rw [hi, lookup_setDevice] at hd
    split at hd
    · obtain rfl := Option.some.inj hd
      rcases hold c hc with ⟨d, hd, hc⟩ | ⟨rfl, hlt⟩
      · have hlt := h.fresh index d c hd hc
        omega
      · exact hlt
    · have hlt := h.fresh i d c hd hc
      omega
  announces := hann.congr fun _ => announced_setDevice hi

/-- What is announced, as it is before the interface changes. -/
theorem Good.announces_at (h : Good s) (hl : s.interfaces.lookup index = some device) :
    Announces s.log fun c =>
      device.up = true ∧ c ∈ device.contexts.values ∨ Elsewhere s index c :=
  h.announces.congr fun _ => (announced_iff hl).symm

/-! ## Addresses -/

theorem mem_values_insert {t : Table Str Nat} {a : Str} {b : Nat} (ha : t.lookup a = none) (c : Nat) :
    c ∈ Table.values (t.insert a b) ↔ c ∈ t.values ∨ c = b := by
  rw [Table.mem_values, Table.mem_values]
  constructor
  · rintro ⟨k, hk⟩
    by_cases hka : k = a
    · subst hka
      rw [AList.lookup_insert] at hk
      exact .inr (Option.some.inj hk).symm
    · rw [AList.lookup_insert_ne hka] at hk
      exact .inl ⟨k, hk⟩
  · rintro (⟨k, hk⟩ | rfl)
    · refine ⟨k, ?_⟩
      rw [AList.lookup_insert_ne]
      · exact hk
      · rintro rfl
        rw [ha] at hk
        cases hk
    · exact ⟨a, AList.lookup_insert _⟩

theorem mem_values_erase {t : Table Str Nat} (hd : Distinct t) {a : Str} {b : Nat}
    (ha : t.lookup a = some b) (c : Nat) :
    c ∈ Table.values (t.erase a) ↔ c ∈ t.values ∧ c ≠ b := by
  rw [Table.mem_values, Table.mem_values]
  constructor
  · rintro ⟨k, hk⟩
    by_cases hka : k = a
    · subst hka
      rw [AList.lookup_erase] at hk
      cases hk
    · rw [AList.lookup_erase_ne hka] at hk
      refine ⟨⟨k, hk⟩, ?_⟩
      rintro rfl
      exact hka (hd k a c hk ha)
  · rintro ⟨⟨k, hk⟩, hne⟩
    refine ⟨k, ?_⟩
    rw [AList.lookup_erase_ne]
    · exact hk
    · rintro rfl
      exact hne (Option.some.inj (hk.symm.trans ha))

theorem distinct_insert {t : Table Str Nat} (hd : Distinct t) {a : Str} {b : Nat}
    (hb : b ∉ t.values) : Distinct (t.insert a b) := by
  intro k k' c hk hk'
  rw [Table.mem_values] at hb
  by_cases hka : k = a
  · by_cases hka' : k' = a
    · exact hka.trans hka'.symm
    · subst hka
      rw [AList.lookup_insert] at hk
      rw [AList.lookup_insert_ne hka'] at hk'
      obtain rfl := Option.some.inj hk
      exact absurd ⟨k', hk'⟩ hb
  · rw [AList.lookup_insert_ne hka] at hk
    by_cases hka' : k' = a
    · subst hka'
      rw [AList.lookup_insert] at hk'
      obtain rfl := Option.some.inj hk'
      exact absurd ⟨k, hk⟩ hb
    · rw [AList.lookup_insert_ne hka'] at hk'
      exact hd k k' c hk hk'

theorem distinct_erase {t : Table Str Nat} (hd : Distinct t) (a : Str) : Distinct (t.erase a) := by
  intro k k' c hk hk'
  by_cases hka : k = a
  · subst hka
    rw [AList.lookup_erase] at hk
    cases hk
  by_cases hka' : k' = a
  · subst hka'
    rw [AList.lookup_erase] at hk'
    cases hk'
  rw [AList.lookup_erase_ne hka] at hk
  rw [AList.lookup_erase_ne hka'] at hk'
  exact hd k k' c hk hk'

/-- A new address brings a new context, announced if the interface is up. -/
theorem Good.createContext (h : Good s) (info : RtmAddrInfo) (ipString : Str) (created : Bool) :
    Good (createContext info ipString created s) := by
  unfold LinuxContextManager.createContext
  split
  · exact h
  rename_i device hl
  split
  · exact h
  unfold networkDeviceCreateContext
  split
  · exact h
  rename_i hnone
  have hnone : device.contexts.lookup ipString = none := by simpa using hnone
  split
  · exact h
  have hnew : s.nextContext ∉ device.contexts.values := fun hin =>
    absurd (h.fresh _ _ _ hl hin) (Nat.lt_irrefl _)
  have hmem := mem_values_insert (b := s.nextContext) hnone
  have helse : ¬ Elsewhere s info.ifaIndex s.nextContext := by
    rintro ⟨i, d, -, hi, -, hin⟩
    exact absurd (h.fresh i d _ hi hin) (Nat.lt_irrefl _)
  have hold : ∀ c ∈ Table.values (device.contexts.insert ipString s.nextContext),
      (∃ device, s.interfaces.lookup info.ifaIndex = some device ∧ c ∈ device.contexts.values) ∨
        c = s.nextContext ∧ s.nextContext < s.nextContext + 1 := by
    intro c hc
    rcases (hmem c).1 hc with hc | rfl
    · exact .inl ⟨device, hl, hc⟩
    · exact .inr ⟨rfl, Nat.lt_succ_self _⟩
  dsimp only
  split
  · rename_i hup
    refine h.setDevice rfl (Nat.le_succ _) (distinct_insert (h.distinct _ _ hl) hnew) hold ?_
    refine (h.announces_at hl).announce ?_ fun c => ?_
    · rintro (⟨-, hin⟩ | he)
      · exact hnew hin
      · exact helse he
    · simp only [hmem, hup, true_and]
      tauto
  · rename_i hup
    refine h.setDevice rfl (Nat.le_succ _) (distinct_insert (h.distinct _ _ hl) hnew) hold ?_
    refine (h.announces_at hl).congr fun c => ?_
    simp only [hup, false_and, Bool.false_eq_true]

/-- An address that goes takes its context with it, withdrawn if the interface is up. -/
theorem Good.removeContext (h : Good s) (info : RtmAddrInfo) (ipString : Str) :
    Good (removeContext info ipString s) := by
  unfold LinuxContextManager.removeContext
  split
  · exact h
  rename_i device hl
  have hdistinct := distinct_erase (h.distinct _ _ hl) ipString
  cases hlook : device.contexts.lookup ipString with
  | none =>
    have hsame : device.contexts.erase ipString = device.contexts := by
      refine AList.ext ?_
      exact List.kerase_of_notMem_keys fun hk => by
        have hin : ipString ∈ device.contexts := hk
        rw [← AList.lookup_isSome, hlook] at hin
        cases hin
    refine h.setDevice rfl le_rfl hdistinct (fun c hc => .inl ⟨device, hl, ?_⟩) ?_
    · rwa [hsame] at hc
    · refine (h.announces_at hl).congr fun c => ?_
      rw [hsame]
  | some context =>
    have hmem := mem_values_erase (h.distinct _ _ hl) hlook
    have hin : context ∈ device.contexts.values := Table.mem_values.2 ⟨ipString, hlook⟩
    have helse := h.not_elsewhere hl hin
    have hold : ∀ c ∈ Table.values (device.contexts.erase ipString),
        (∃ device, s.interfaces.lookup info.ifaIndex = some device ∧
          c ∈ device.contexts.values) ∨ c = s.nextContext ∧ s.nextContext < s.nextContext :=
      fun c hc => .inl ⟨device, hl, ((hmem c).1 hc).1⟩
    by_cases hup : device.up = true
    · simp only [hup, if_true]
      refine h.setDevice rfl le_rfl hdistinct hold ?_
      refine (h.announces_at hl).withdraw (.inl ⟨hup, hin⟩) fun c => ?_
      simp only [hmem, hup, true_and]
      constructor
      · rintro (⟨hc, hne⟩ | he)
        · exact ⟨.inl hc, hne⟩
        · refine ⟨.inr he, ?_⟩
          rintro rfl
          exact helse he
      · rintro ⟨hc | he, hne⟩
        · exact .inl ⟨hc, hne⟩
        · exact .inr he
    · simp only [hup, if_false, Bool.false_eq_true]
      refine h.setDevice rfl le_rfl hdistinct hold ?_
      refine (h.announces_at hl).congr fun c => ?_
      simp only [hup, false_and, Bool.false_eq_true]

/-! ## Links -/

/-- An interface that goes up announces its contexts, one that goes down withdraws them, and a new one
has none. -/
theorem Good.handleDeviceStatusChange (h : Good s) (ifi : IfInfoMsg) :
    Good (handleDeviceStatusChange ifi s) := by
  unfold LinuxContextManager.handleDeviceStatusChange
  split
  · rename_i device hl
    have hdistinct := h.distinct _ _ hl
    have hold : ∀ c ∈ device.contexts.values,
        (∃ device, s.interfaces.lookup ifi.ifiIndex = some device ∧
          c ∈ device.contexts.values) ∨ c = s.nextContext ∧ s.nextContext < s.nextContext :=
      fun c hc => .inl ⟨device, hl, hc⟩
    split
    · unfold networkDeviceUp
      split
      · exact h
      rename_i hup
      refine h.setDevice rfl le_rfl hdistinct hold ?_
      refine (h.announces_at hl).announceAll (h.nodup hl) (fun c hc => ?_) fun c => ?_
      · rintro (⟨hup', -⟩ | he)
        · exact hup hup'
        · exact h.not_elsewhere hl hc he
      · simp only [hup, false_and, true_and, Bool.false_eq_true]
        tauto
    · unfold networkDeviceDown
      split
      · exact h
      rename_i hup
      have hup : device.up = true := by simpa using hup
      refine h.setDevice rfl le_rfl hdistinct hold ?_
      refine (h.announces_at hl).withdrawAll (h.nodup hl) (fun c hc => .inl ⟨hup, hc⟩) fun c => ?_
      · simp only [hup, true_and, Bool.false_eq_true, false_and, false_or]
        constructor
        · exact fun he => ⟨.inr he, fun hc => h.not_elsewhere hl hc he⟩
        · rintro ⟨hc | he, hnot⟩
          · exact absurd hc hnot
          · exact he
  · rename_i hl
    have hempty : ∀ c, c ∉ Table.values (∅ : Table Str Nat) := fun c hc => by cases hc
    refine h.setDevice rfl le_rfl (fun a a' c ha => by cases ha) (fun c hc => absurd hc (hempty c)) ?_
    refine h.announces.congr fun c => ?_
    rw [announced_none hl]
    exact ⟨fun hc => hc.resolve_left fun hc => hempty c hc.2, .inr⟩

/-- An interface that is up, or has no contexts, leaves nothing announced when it is removed. -/
theorem Good.removeDevice (h : Good s) (hf : ∀ device ∈ s.interfaces.lookup index, Freeable device) :
    Good (removeDevice index s) := by
  unfold LinuxContextManager.removeDevice
  split
  · exact h
  rename_i device hl
  have hlookup : ∀ i d, (s.interfaces.erase index).lookup i = some d →
      i ≠ index ∧ s.interfaces.lookup i = some d := by
    intro i d hi
    by_cases hne : i = index
    · subst hne
      rw [AList.lookup_erase] at hi
      cases hi
    · rw [AList.lookup_erase_ne hne] at hi
      exact ⟨hne, hi⟩
  have hann : ∀ t : ManagerState, t.interfaces = s.interfaces.erase index →
      ∀ c, Announced t c ↔ Elsewhere s index c := by
    intro t ht c
    have hnone : t.interfaces.lookup index = none := by rw [ht, AList.lookup_erase]
    rw [announced_none hnone]
    exact elsewhere_congr fun i hne => by rw [ht, AList.lookup_erase_ne hne]
  refine ⟨fun i d hd => h.distinct i d (hlookup i d hd).2, ?_, ?_, ?_⟩
  · intro i i' d d' c hd hd'
    exact h.disjoint i i' d d' c (hlookup i d hd).2 (hlookup i' d' hd').2
  · intro i d c hd
    exact h.fresh i d c (hlookup i d hd).2
  · rcases hf device hl with hup | hnil
    · refine h.announces.withdrawAll (h.nodup hl)
        (fun c hc => (announced_iff hl).2 (.inl ⟨hup, hc⟩)) fun c => ?_
      rw [hann _ rfl, announced_iff hl]
      constructor
      · exact fun he => ⟨.inr he, fun hc => h.not_elsewhere hl hc he⟩
      · rintro ⟨⟨-, hc⟩ | he, hnot⟩
        · exact absurd hc hnot
        · exact he
    · simp only [networkDeviceFree, ManagerState.emit, hnil, List.map_nil, List.append_nil]
      refine h.announces.congr fun c => ?_
      rw [hann _ rfl, announced_iff hl, hnil]
      simp

/-! ## Disposal -/

theorem foldl_networkDeviceFree (devices : List NetworkInterface) :
    (devices.foldl (fun s device => networkDeviceFree device s) s).log =
      s.log ++ (devices.flatMap fun device => device.contexts.values).map fun c => (c, false) := by
  induction devices generalizing s with
  | nil => simp
  | cons device devices ih =>
    rw [List.foldl_cons, ih, List.flatMap_cons, List.map_append, ← List.append_assoc]
    rfl

theorem Good.nodup_flatMap (h : Good s) :
    (s.interfaces.values.flatMap fun device => device.contexts.values).Nodup := by
  have hl : ∀ e ∈ s.interfaces.entries, s.interfaces.lookup e.1 = some e.2 := fun e he =>
    AList.mem_lookup_iff.2 he
  unfold Table.values
  rw [List.flatMap_map, List.nodup_flatMap]
  refine ⟨fun e he => h.nodup (hl e he), ?_⟩
  refine (List.nodupKeys_iff_pairwise.1 s.interfaces.nodupKeys).imp_of_mem ?_
  intro e e' he he' hne
  refine List.disjoint_left.2 ?_
  intro c hc hc'
  exact hne (h.disjoint _ _ _ _ c (hl e he) (hl e' he') hc hc')

theorem Good.dispose (h : Good s) (hf : ∀ device ∈ s.interfaces.values, Freeable device) :
    Good (dispose s) := by
  have hempty : ∀ i d, (∅ : Table Nat NetworkInterface).lookup i ≠ some d := fun i d hi => by
    cases hi
  refine ⟨fun i d hd => absurd hd (hempty i d), fun i i' d d' c hd => absurd hd (hempty i d),
    fun i d c hd => absurd hd (hempty i d), ?_⟩
  unfold LinuxContextManager.dispose
  simp only [foldl_networkDeviceFree]
  have hup : ∀ {c}, c ∈ s.interfaces.values.flatMap (fun device => device.contexts.values) →
      Announced s c := by
    intro c hc
    obtain ⟨device, hdevice, hc⟩ := List.mem_flatMap.1 hc
    obtain ⟨i, hi⟩ := Table.mem_values.1 hdevice
    refine ⟨i, device, hi, ?_, hc⟩
    rcases hf device hdevice with hup | hnil
    · exact hup
    · rw [hnil] at hc
      cases hc
  refine h.announces.withdrawAll h.nodup_flatMap (fun c hc => hup hc) fun c => ?_
  refine iff_of_false ?_ ?_
  · rintro ⟨i, d, hi, -⟩
    exact hempty i d hi
  · rintro ⟨⟨i, d, hi, -, hc⟩, hnot⟩
    exact hnot (List.mem_flatMap.2 ⟨d, Table.mem_values.2 ⟨i, hi⟩, hc⟩)

/-! ## Steps and runs -/

theorem Good.step {e : Event} (h : Good s) (hok : FreesUp s e) (he : step s e = some t) : Good t := by
  simp only [LinuxContextManager.step, Option.ite_none_left_eq_some] at he
  replace he := he.2
  cases e with
  | newAddr info created =>
    dsimp only at he
    split at he
    · exact Option.some.inj he ▸ h
    split at he
    · exact Option.some.inj he ▸ h
    split at he
    · exact Option.some.inj he ▸ h
    · exact Option.some.inj he ▸ h.createContext info _ created
  | delAddr info =>
    dsimp only at he
    split at he
    · exact Option.some.inj he ▸ h
    · exact Option.some.inj he ▸ h.removeContext info _
  | newLink ifi isWireless =>
    dsimp only at he
    split at he
    · exact Option.some.inj he ▸ h
    · exact Option.some.inj he ▸ h.handleDeviceStatusChange ifi
  | delLink index => exact Option.some.inj he ▸ h.removeDevice hok
  | dispose => exact Option.some.inj he ▸ h.dispose hok

theorem good_init : Good .init where
  distinct i d hd := by cases hd
  disjoint i i' d d' c hd := by cases hd
  fresh i d c hd := by cases hd
  announces := announces_nil.congr fun c => by
    refine ⟨?_, False.elim⟩
    rintro ⟨i, d, hd, -⟩
    cases hd

/-- Whenever an interface is removed, and at the disposal, every interface that is freed is up or has
no contexts: then the signals of every context alternate, an available first, and the last one was
available exactly if its address is in the table of an interface that is up. -/
theorem signals_alternate {es : List Event} (h : Run LinuxContextManager.step FreesUp .init es s)
    (c : Nat) :
    Alternates (signalsOf c s.log) ∧ ((signalsOf c s.log).getLast? = some true ↔
      ∃ index device address, s.interfaces.lookup index = some device ∧
        device.contexts.lookup address = some c ∧ device.up = true) := by
  have hg : Good s := h.inv Good (fun _ _ _ hs ho he => hs.step ho he) good_init
  refine ⟨hg.announces.alternates c, (hg.announces.last c).trans ?_⟩
  constructor
  · rintro ⟨index, device, hl, hup, hc⟩
    obtain ⟨address, ha⟩ := Table.mem_values.1 hc
    exact ⟨index, device, address, hl, ha, hup⟩
  · rintro ⟨index, device, address, hl, ha, hup⟩
    exact ⟨index, device, hl, hup, Table.mem_values.2 ⟨address, ha⟩⟩

end

/-! ## A concrete interface -/

def sampleLink (up : Bool) : IfInfoMsg := ⟨2, up, true, false, false⟩

def sampleAddress : RtmAddrInfo := ⟨2, false, false, some "10.0.0.2".toList⟩

/-- The interface goes down and up again, and is removed while it is up. -/
theorem signals_alternate_sample : ∃ s, Run step FreesUp .init
      [.newLink (sampleLink true) false, .newAddr sampleAddress true,
        .newLink (sampleLink false) false, .newLink (sampleLink true) false, .delLink 2] s ∧
    signalsOf 0 s.log = [true, false, true, false] ∧ Alternates (signalsOf 0 s.log) ∧
    ¬ ∃ index device address, s.interfaces.lookup index = some device ∧
      device.contexts.lookup address = some 0 ∧ device.up = true := by
  obtain ⟨s, h, hs⟩ : ∃ s, Run step FreesUp .init
      [.newLink (sampleLink true) false, .newAddr sampleAddress true,
        .newLink (sampleLink false) false, .newLink (sampleLink true) false, .delLink 2] s ∧
      signalsOf 0 s.log = [true, false, true, false] :=
    Run.exists_of_foldlM_ok (by decide)
  obtain ⟨halternates, hlast⟩ := signals_alternate h 0
  refine ⟨s, h, hs, halternates, fun hin => ?_⟩
  have hlast := hlast.2 hin
  rw [hs] at hlast
  exact absurd hlast (by decide)

/-- An interface that is down is removed: its context is withdrawn a second time. -/
theorem signals_repeat : ¬ ∀ (es : List Event) (s : ManagerState) (c : Nat),
    Run step AnyStep .init es s → Alternates (signalsOf c s.log) := by
  intro h
  obtain ⟨s, hrun, hs⟩ : ∃ s, Run step AnyStep .init
      [.newLink (sampleLink true) false, .newAddr sampleAddress true,
        .newLink (sampleLink false) false, .delLink 2] s ∧
      signalsOf 0 s.log = [true, false, false] :=
    Run.exists_of_foldlM (by decide)
  have halternates := h _ s 0 hrun
  rw [hs] at halternates
  exact absurd halternates (by decide)

end GUPnP.LinuxContextManager
