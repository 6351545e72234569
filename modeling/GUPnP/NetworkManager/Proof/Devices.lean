import GUPnP.Base.Run
import GUPnP.NetworkManager.Model

/-!
# Devices and their contexts

What it means that the contexts of a device follow its state (`Follows`), and what each function does
to the device objects: it changes one (`Changes`), and what holds of the others stays (`Others`).
-/

set_option autoImplicit false

namespace GUPnP.NetworkManager

variable {s t u : ManagerState} {id : Nat} {d : NMDevice} {env : Environment} {e : Event}
  {es : List Event} {f g : NMDevice → Option NMDevice} {new : List Context}

/-! ## Following -/

/-- A call for an access point of the device is running. -/
def Pending (s : ManagerState) (id : Nat) : Prop := ∃ path, (id, path) ∈ s.apCalls

/-- The state the device reported last is an activated one. -/
def ReportedActivated (s : ManagerState) (id : Nat) : Prop :=
  (s.reported id).any isActivated = true

/-- The contexts of one family. -/
def countFamily (family : SocketFamily) (contexts : List Context) : Nat :=
  contexts.countP fun context => context.addressFamily = family

def OnePerFamily (contexts : List Context) : Prop := ∀ family, countFamily family contexts ≤ 1

/-- The contexts of the device follow its state. -/
def DeviceFollows (s : ManagerState) (id : Nat) : Prop :=
  ∀ d, s.devices.lookup id = some d →
    (¬ Pending s id → d.contexts ≠ [] → ReportedActivated s id) ∧ OnePerFamily d.contexts

def Follows (s : ManagerState) : Prop := ∀ id, DeviceFollows s id

/-- Contexts of this family are created here. -/
def creates (env : Environment) (family : SocketFamily) : Bool :=
  (match env.interface with
    | some (.string _) => true
    | _ => false) &&
  family ≠ .invalid && (env.socketFamily = .invalid || env.socketFamily = family) &&
  env.initialised family

/-- There is no context of a family of which one is created. -/
def Room (env : Environment) (contexts : List Context) : Prop :=
  ∀ family, creates env family = true → countFamily family contexts = 0

/-- Contexts are created in turn. A device that is activated has none of the families that are created
for it at once. Of a device that is not freed when its call for an access point completes the same
holds; and if that was its last call and its last state is not an activated one, the device has no
contexts and gets none. -/
def InTurn (s : ManagerState) : Event → Prop
  | .stateChanged id newState env =>
    isActivated newState = true → ∀ d, s.devices.lookup id = some d → d.wifiProxy = false →
      Room env d.contexts
  | .apProxyNew i completion env =>
    ∀ id path d, s.apCalls[i]? = some (id, path) → s.devices.lookup id = some d → d.refCount ≠ 1 →
      (completion = .created → Room env d.contexts) ∧
      ((∀ path, (id, path) ∉ s.apCalls.eraseIdx i) → ¬ ReportedActivated s id →
        d.contexts = [] ∧ (completion = .created → ∀ family, creates env family = false))
  | _ => True

/-! ## One device changes -/

/-- Of the device objects only this one changes, or is freed. -/
structure Changes (id : Nat) (f : NMDevice → Option NMDevice) (s t : ManagerState) : Prop where
  self : t.devices.lookup id = (s.devices.lookup id).bind f
  others : ∀ id', id' ≠ id → t.devices.lookup id' = s.devices.lookup id'
  apCalls : t.apCalls = s.apCalls
  wifiCalls : t.wifiCalls = s.wifiCalls
  reported : t.reported = s.reported
  nextDevice : t.nextDevice = s.nextDevice

theorem Changes.trans (h : Changes id f s t) (h' : Changes id g t u) :
    Changes id (fun d => (f d).bind g) s u where
  self := by rw [h'.self, h.self, Option.bind_assoc]
  others id' hne := (h'.others id' hne).trans (h.others id' hne)
  apCalls := h'.apCalls.trans h.apCalls
  wifiCalls := h'.wifiCalls.trans h.wifiCalls
  reported := h'.reported.trans h.reported
  nextDevice := h'.nextDevice.trans h.nextDevice

theorem Changes.eq_some (h : Changes id f s t) (hl : s.devices.lookup id = some d) :
    t.devices.lookup id = f d := by
  rw [h.self, hl, Option.bind_some]

theorem changes_none (s : ManagerState) : Changes id some s s :=
  ⟨(Option.bind_fun_some _).symm, fun _ _ => rfl, rfl, rfl, rfl, rfl⟩

theorem changes_modify (id : Nat) (f : NMDevice → NMDevice) (s : ManagerState) :
    Changes id (fun d => some (f d)) s (s.modifyDevice id f) where
  self := by
    rw [ManagerState.modifyDevice, Table.lookup_modify_self]
    exact Option.map_eq_bind
  others id' hne := Table.lookup_modify_ne hne ..
  apCalls := rfl
  wifiCalls := rfl
  reported := rfl
  nextDevice := rfl

/-- What is left of a device object that loses a reference. -/
def NMDevice.unref (d : NMDevice) : Option NMDevice :=
  if d.refCount ≠ 1 then some { d with refCount := d.refCount - 1 } else none

theorem changes_unref (id : Nat) (s : ManagerState) :
    Changes id NMDevice.unref s (nmDeviceUnref id s) := by
  unfold nmDeviceUnref
  cases hl : s.devices.lookup id with
  | none =>
    refine ⟨?_, fun _ _ => rfl, rfl, rfl, rfl, rfl⟩
    rw [hl]
    rfl
  | some d =>
    dsimp only
    by_cases href : d.refCount ≠ 1
    · rw [if_pos href]
      refine ⟨?_, fun id' hne => Table.lookup_modify_ne hne .., rfl, rfl, rfl, rfl⟩
      rw [ManagerState.modifyDevice, Table.lookup_modify_self, hl]
      exact (if_pos href).symm
    · rw [if_neg href]
      have herased : ∀ s' : ManagerState, s'.devices = s.devices → s'.apCalls = s.apCalls →
          s'.wifiCalls = s.wifiCalls → s'.reported = s.reported → s'.nextDevice = s.nextDevice →
          Changes id NMDevice.unref s { s' with devices := s'.devices.erase id } := by
        intro s' hdevices happ hwifi hreported hnext
        refine ⟨?_, fun id' hne => ?_, happ, hwifi, hreported, hnext⟩
        · show (s'.devices.erase id).lookup id = _
          rw [AList.lookup_erase, hl]
          exact (if_neg href).symm
        · show (s'.devices.erase id).lookup id' = _
          rw [AList.lookup_erase_ne hne, hdevices]
      split
      · exact herased _ rfl rfl rfl rfl rfl
      · exact herased _ rfl rfl rfl rfl rfl

/-! ## Contexts are created -/

/-- The device with more contexts. -/
def NMDevice.addContexts (new : List Context) (d : NMDevice) : NMDevice :=
  { d with contexts := new ++ d.contexts }

theorem createContext_spec (id : Nat) (iface : Str) (network : Option Str) (env : Environment)
    (family : SocketFamily) (s : ManagerState) :
    ∃ new, Changes id (fun d => some (d.addContexts new)) s
        (createContext id iface network env family s) ∧
      ∀ f, countFamily f new = (env.initialised family && decide (family = f)).toNat := by
  unfold createContext
  cases hinit : env.initialised family with
  | false => exact ⟨[], changes_none s, fun f => rfl⟩
  | true =>
    refine ⟨[⟨s.nextContext, iface, network, env.port, family⟩], ?_, fun f => ?_⟩
    · have hchanges := changes_modify id (fun d => { d with
        contexts := ⟨s.nextContext, iface, network, env.port, family⟩ :: d.contexts })
        ({ s with nextContext := s.nextContext + 1 }.emit true
          [⟨s.nextContext, iface, network, env.port, family⟩])
      exact ⟨hchanges.self, hchanges.others, rfl, rfl, rfl, rfl⟩
    · rw [countFamily, List.countP_singleton]
      by_cases hf : family = f <;> simp [hf]

/-- The same where the manager may leave the family out. -/
theorem createContextIf_spec (id : Nat) (iface : Str) (network : Option Str) (env : Environment)
    (family : SocketFamily) (allowed : Prop) [Decidable allowed] (s : ManagerState) :
    ∃ new, Changes id (fun d => some (d.addContexts new)) s
        (if allowed then createContext id iface network env family s else s) ∧
      ∀ f, countFamily f new =
        (decide allowed && env.initialised family && decide (family = f)).toNat := by
  by_cases hallowed : allowed
  · simp only [hallowed, decide_true, Bool.true_and]
    exact createContext_spec id iface network env family s
  · simp only [hallowed, decide_false, Bool.false_and]
    exact ⟨[], changes_none s, fun f => rfl⟩

theorem countFamily_append (family : SocketFamily) (contexts contexts' : List Context) :
    countFamily family (contexts ++ contexts') =
      countFamily family contexts + countFamily family contexts' := List.countP_append

/-- The device gets a context of each family of which one is created. -/
theorem createContextForDevice_spec (id : Nat) (d : NMDevice) (env : Environment)
    (s : ManagerState) :
    ∃ new, Changes id (fun d => some (d.addContexts new)) s (createContextForDevice id d env s) ∧
      ∀ family, countFamily family new = (creates env family).toNat := by
  unfold createContextForDevice
  cases hiface : env.interface with
  | none =>
    refine ⟨[], changes_none s, fun family => ?_⟩
    simp [countFamily, creates, hiface]
  | some value =>
    cases value with
    | string iface =>
      dsimp only
      obtain ⟨ipv4, hchanges, hipv4⟩ := createContextIf_spec id iface
        ((d.apProxy.bind env.ssid).map fun ssid => ssid.takeWhile (· ≠ '\x00')) env .ipv4
        (env.socketFamily = .invalid ∨ env.socketFamily = .ipv4) s
      obtain ⟨ipv6, hchanges', hipv6⟩ := createContextIf_spec id iface
        ((d.apProxy.bind env.ssid).map fun ssid => ssid.takeWhile (· ≠ '\x00')) env .ipv6
        (env.socketFamily = .invalid ∨ env.socketFamily = .ipv6) _
      refine ⟨ipv6 ++ ipv4, ?_, fun family => ?_⟩
      · have hboth := hchanges.trans hchanges'
        simp only [Option.bind_some, NMDevice.addContexts, ← List.append_assoc] at hboth
        exact hboth
      · rw [countFamily_append, hipv4, hipv6]
        cases family <;> simp [creates, hiface]
    | objectPath path =>
      refine ⟨[], changes_none s, fun family => ?_⟩
      simp [countFamily, creates, hiface]
    | uint32 n =>
      refine ⟨[], changes_none s, fun family => ?_⟩
      simp [countFamily, creates, hiface]
    | other =>
      refine ⟨[], changes_none s, fun family => ?_⟩
      simp [countFamily, creates, hiface]

/-- The device has one context per family afterwards if and only if there was room. -/
theorem onePerFamily_append {contexts : List Context} (h : OnePerFamily contexts)
    (hnew : ∀ family, countFamily family new = (creates env family).toNat) :
    OnePerFamily (new ++ contexts) ↔ Room env contexts := by
  refine forall_congr' fun family => ?_
  have hone := h family
  rw [countFamily_append, hnew]
  cases creates env family with
  | false =>
    simp only [Bool.toNat_false, Nat.zero_add, Bool.false_eq_true, false_implies, iff_true]
    exact hone
  | true =>
    simp only [Bool.toNat_true, true_implies]
    omega

/-! ## The other devices -/

/-- What holds of the other devices is as before. -/
structure Others (id : Nat) (s t : ManagerState) : Prop where
  devices : ∀ id', id' ≠ id → t.devices.lookup id' = s.devices.lookup id'
  apCalls : ∀ id', id' ≠ id → ∀ path, (id', path) ∈ t.apCalls ↔ (id', path) ∈ s.apCalls
  reported : ∀ id', id' ≠ id → t.reported id' = s.reported id'

theorem Changes.other (h : Changes id f s t) : Others id s t where
  devices := h.others
  apCalls id' _ path := by rw [h.apCalls]
  reported id' _ := by rw [h.reported]

theorem Others.trans (h : Others id s t) (h' : Others id t u) : Others id s u where
  devices id' hne := (h'.devices id' hne).trans (h.devices id' hne)
  apCalls id' hne path := (h'.apCalls id' hne path).trans (h.apCalls id' hne path)
  reported id' hne := (h'.reported id' hne).trans (h.reported id' hne)

theorem others_report (id state : Nat) (s : ManagerState) : Others id s (s.report id state) :=
  ⟨fun _ _ => rfl, fun _ _ _ => Iff.rfl, fun _ hne => if_neg hne⟩

theorem others_call (id : Nat) (path : Str) (s : ManagerState) :
    Others id s { s with apCalls := s.apCalls ++ [(id, path)] } := by
  refine ⟨fun _ _ => rfl, fun id' hne path' => ?_, fun _ _ => rfl⟩
  simp [hne]

/-- So only the device itself is to be looked at. -/
theorem follows_iff (h : Follows s) (ho : Others id s t) : Follows t ↔ DeviceFollows t id := by
  refine ⟨fun ht => ht id, fun ht id' => ?_⟩
  by_cases hne : id' = id
  · rw [hne]
    exact ht
  · intro d hd
    rw [ho.devices id' hne] at hd
    obtain ⟨hstate, hone⟩ := h id' d hd
    refine ⟨fun hpending hcontexts => ?_, hone⟩
    have hreported := hstate (fun ⟨path, hmem⟩ => hpending ⟨path, (ho.apCalls id' hne path).2 hmem⟩)
      hcontexts
    rw [ReportedActivated, ho.reported id' hne]
    exact hreported

/-- A reference that is dropped does not matter. -/
theorem deviceFollows_unref (h : DeviceFollows s id) : DeviceFollows (nmDeviceUnref id s) id := by
  have hc := changes_unref id s
  intro d hd
  cases hl : s.devices.lookup id with
  | none =>
    rw [hc.self, hl] at hd
    cases hd
  | some old =>
    rw [hc.eq_some hl, NMDevice.unref, Option.ite_none_right_eq_some] at hd
    obtain ⟨-, rfl⟩ : _ ∧ _ := ⟨hd.1, Option.some.inj hd.2⟩
    obtain ⟨hstate, hone⟩ := h old hl
    refine ⟨fun hpending hcontexts => ?_, hone⟩
    rw [ReportedActivated, hc.reported]
    exact hstate (fun ⟨path, hmem⟩ => hpending ⟨path, hc.apCalls ▸ hmem⟩) hcontexts

theorem follows_unref (h : Follows s) (id : Nat) : Follows (nmDeviceUnref id s) :=
  (follows_iff h (changes_unref id s).other).2 (deviceFollows_unref (h id))

theorem deviceFollows_iff (hl : s.devices.lookup id = some d) : DeviceFollows s id ↔
    (¬ Pending s id → d.contexts ≠ [] → ReportedActivated s id) ∧ OnePerFamily d.contexts := by
  refine ⟨fun h => h d hl, fun h d' hl' => ?_⟩
  obtain rfl := Option.some.inj (hl.symm.trans hl')
  exact h

/-- A device without contexts follows any state. -/
theorem deviceFollows_nil (h : ∀ d, s.devices.lookup id = some d → d.contexts = []) :
    DeviceFollows s id := by
  intro d hd
  rw [h d hd]
  exact ⟨fun _ hne => absurd rfl hne, fun family => Nat.zero_le 1⟩

/-! ## Devices that wait for their wireless proxy -/

/-- A device whose call for its wireless proxy is running has no contexts, no call for an access point,
and no signal of it is heard. -/
structure Good (s : ManagerState) : Prop where
  live : ∀ id d, s.devices.lookup id = some d → id < s.nextDevice
  nodup : s.wifiCalls.Nodup
  fresh : ∀ id ∈ s.wifiCalls, id < s.nextDevice
  idle : ∀ id ∈ s.wifiCalls, ∀ d, s.devices.lookup id = some d → d.contexts = [] ∧ d.connected = false
  calls : ∀ id path, (id, path) ∈ s.apCalls → id < s.nextDevice ∧ id ∉ s.wifiCalls

theorem good_init : Good .init where
  live _ _ hl := by cases hl
  nodup := .nil
  fresh _ hmem := absurd hmem List.not_mem_nil
  idle _ hmem := absurd hmem List.not_mem_nil
  calls _ _ hmem := absurd hmem List.not_mem_nil

/-- A device that does not wait may change, and of one that waits what does not matter here. -/
theorem good_of_changes (h : Good s) (hc : Changes id f s t)
    (hf : id ∉ s.wifiCalls ∨
      ∀ d d', f d = some d' → d'.contexts = d.contexts ∧ d'.connected = d.connected) : Good t := by
  have hold : ∀ id' d', t.devices.lookup id' = some d' → ∃ d, s.devices.lookup id' = some d ∧
      (id' ≠ id → d' = d) ∧ (id' = id → f d = some d') := by
    intro id' d' hd'
    by_cases hne : id' = id
    · subst hne
      rw [hc.self] at hd'
      obtain ⟨d, hd, hfd⟩ := Option.bind_eq_some_iff.1 hd'
      exact ⟨d, hd, fun hne => absurd rfl hne, fun _ => hfd⟩
    · rw [hc.others id' hne] at hd'
      exact ⟨d', hd', fun _ => rfl, fun heq => absurd heq hne⟩
  refine ⟨fun id' d' hd' => ?_, ?_, ?_, fun id' hmem d' hd' => ?_, ?_⟩
  · obtain ⟨d, hd, -⟩ := hold id' d' hd'
    rw [hc.nextDevice]
    exact h.live id' d hd
  · rw [hc.wifiCalls]
    exact h.nodup
  · rw [hc.wifiCalls, hc.nextDevice]
    exact h.fresh
  · rw [hc.wifiCalls] at hmem
    obtain ⟨d, hd, hother, hself⟩ := hold id' d' hd'
    have hidle := h.idle id' hmem d hd
    by_cases hne : id' = id
    · rcases hf with hout | hf
      · exact absurd (hne ▸ hmem) hout
      · obtain ⟨hcontexts, hconnected⟩ := hf d d' (hself hne)
        rw [hcontexts, hconnected]
        exact hidle
    · rw [hother hne]
      exact hidle
  · rw [hc.apCalls, hc.wifiCalls, hc.nextDevice]
    exact h.calls

theorem good_unref (h : Good s) (id : Nat) : Good (nmDeviceUnref id s) := by
  refine good_of_changes h (changes_unref id s) (.inr fun d d' hd' => ?_)
  rw [NMDevice.unref, Option.ite_none_right_eq_some] at hd'
  obtain rfl := Option.some.inj hd'.2
  exact ⟨rfl, rfl⟩

theorem good_report (h : Good s) (id state : Nat) : Good (s.report id state) :=
  ⟨h.live, h.nodup, h.fresh, h.idle, h.calls⟩

theorem good_call (h : Good s) (hlt : id < s.nextDevice) (hout : id ∉ s.wifiCalls) (path : Str) :
    Good { s with apCalls := s.apCalls ++ [(id, path)] } := by
  refine ⟨h.live, h.nodup, h.fresh, h.idle, fun id' path' hmem => ?_⟩
  rcases List.mem_append.1 hmem with hmem | hmem
  · exact h.calls id' path' hmem
  · obtain ⟨rfl, -⟩ := Prod.mk.inj (List.mem_singleton.1 hmem)
    exact ⟨hlt, hout⟩

/-! ## Activation -/

theorem onDeviceActivated_spec (hl : s.devices.lookup id = some d) (env : Environment) :
    ∃ new n, (onDeviceActivated id d env s).devices.lookup id =
        some { d with refCount := n, contexts := new ++ d.contexts } ∧
      Others id s (onDeviceActivated id d env s) ∧
      (onDeviceActivated id d env s).reported = s.reported ∧
      (d.wifiProxy = true → new = []) ∧
      (d.wifiProxy = false → ∀ family, countFamily family new = (creates env family).toNat) := by
  by_cases hwifi : d.wifiProxy = true
  · have heq : onDeviceActivated id d env s = onWifiDeviceActivated id env s := if_pos hwifi
    rw [heq]
    unfold onWifiDeviceActivated
    split
    · rename_i path hpath
      have hc := changes_modify id (fun device => { device with refCount := device.refCount + 1 })
        { s with apCalls := s.apCalls ++ [(id, path)] }
      exact ⟨[], d.refCount + 1, hc.eq_some hl, (others_call id path s).trans hc.other, rfl,
        fun _ => rfl, fun hf => absurd (hwifi.symm.trans hf) Bool.noConfusion⟩
    · exact ⟨[], d.refCount, hl, (changes_none s).other, rfl, fun _ => rfl,
        fun hf => absurd (hwifi.symm.trans hf) Bool.noConfusion⟩
  · have heq : onDeviceActivated id d env s = createContextForDevice id d env s := if_neg hwifi
    rw [heq]
    obtain ⟨new, hc, hnew⟩ := createContextForDevice_spec id d env s
    exact ⟨new, d.refCount, hc.eq_some hl, hc.other, hc.reported, fun ht => absurd ht hwifi,
      fun _ => hnew⟩

theorem good_activated (h : Good s) (hl : s.devices.lookup id = some d) (hout : id ∉ s.wifiCalls)
    (env : Environment) : Good (onDeviceActivated id d env s) := by
  unfold onDeviceActivated onWifiDeviceActivated
  split
  · split
    · rename_i path hpath
      exact good_of_changes (good_call h (h.live id d hl) hout path) (changes_modify id _ _) (.inl hout)
    · exact h
  · obtain ⟨new, hc, -⟩ := createContextForDevice_spec id d env s
    exact good_of_changes h hc (.inl hout)

/-- A device that is used gets an object with one reference more, and its handler. -/
theorem changes_use (id : Nat) (s : ManagerState) :
    Changes id (fun d => some { d with refCount := d.refCount + 1, connected := true }) s
      ((nmDeviceRef id { s with nmDevices := s.nmDevices ++ [id] }).modifyDevice id fun device =>
        { device with connected := true }) := by
  have hc := (changes_modify id (fun device => { device with refCount := device.refCount + 1 })
    { s with nmDevices := s.nmDevices ++ [id] }).trans
      (changes_modify id (fun device => { device with connected := true }) _)
  exact ⟨hc.self, hc.others, rfl, rfl, rfl, rfl⟩

/-- A device without contexts follows its state when it is used. -/
theorem useNewDevice_spec (hempty : ∀ d, s.devices.lookup id = some d → d.contexts = [])
    (env : Environment) :
    DeviceFollows (useNewDevice id env s) id ∧ Others id s (useNewDevice id env s) := by
  have hc := changes_use id s
  unfold useNewDevice
  dsimp only
  generalize hused : (nmDeviceRef id { s with nmDevices := s.nmDevices ++ [id] }).modifyDevice id
    (fun device => { device with connected := true }) = s' at hc
  have hempty' : ∀ d, s'.devices.lookup id = some d → d.contexts = [] := by
    intro d hd
    rw [hc.self] at hd
    obtain ⟨old, hold, hd⟩ := Option.bind_eq_some_iff.1 hd
    obtain rfl := Option.some.inj hd
    exact hempty old hold
  split
  · rename_i state device hstate hl
    have hl' : (s'.report id state).devices.lookup id = some device := hl
    split
    · rename_i hactivated
      obtain ⟨new, n, hself, ho, hreported, hwifi, hnew⟩ := onDeviceActivated_spec hl' env
      refine ⟨fun d hd => ?_, (hc.other.trans (others_report id state s')).trans ho⟩
      rw [hself] at hd
      obtain rfl := Option.some.inj hd
      refine ⟨fun _ _ => ?_, ?_⟩
      · rw [ReportedActivated, hreported, ManagerState.report]
        simpa using hactivated
      · dsimp only
        rw [hempty' device hl, List.append_nil]
        intro family
        cases hproxy : device.wifiProxy with
        | true =>
          rw [hwifi hproxy]
          exact Nat.zero_le 1
        | false =>
          rw [hnew hproxy]
          exact Bool.toNat_le _
    · exact ⟨deviceFollows_nil hempty', hc.other.trans (others_report id state s')⟩
  · exact ⟨deviceFollows_nil hempty', hc.other⟩

theorem good_useNewDevice (h : Good s) (hout : id ∉ s.wifiCalls) (env : Environment) :
    Good (useNewDevice id env s) := by
  have hc := changes_use id s
  have hgood := good_of_changes h hc (.inl hout)
  unfold useNewDevice
  dsimp only
  generalize hused : (nmDeviceRef id { s with nmDevices := s.nmDevices ++ [id] }).modifyDevice id
    (fun device => { device with connected := true }) = s' at hc hgood
  have hout' : id ∉ s'.wifiCalls := by
    rw [hc.wifiCalls]
    exact hout
  split
  · rename_i state device hstate hl
    split
    · exact good_activated (good_report hgood id state) hl hout' env
    · exact good_report hgood id state
  · exact hgood

end GUPnP.NetworkManager
