import GUPnP.NetworkManager.Proof.Devices

/-!
# Contexts follow the state of their device

A wireless device whose call for the access point completes gets its contexts whatever state it has by
then, and a device that is activated gets contexts although it may have some. `contexts_follow_iff`:
in a run the contexts of the devices always follow their states exactly where every step creates
contexts in turn (`InTurn`).
-/

set_option autoImplicit false

namespace GUPnP.NetworkManager

variable {s t u : ManagerState} {id : Nat} {d : NMDevice} {env : Environment} {e : Event}
  {es : List Event} {new : List Context}

/-! ## New devices -/

theorem good_new (h : Good s) (objectPath : Str) :
    Good { s with nextDevice := s.nextDevice + 1
                  devices := s.devices.insert s.nextDevice (nmDeviceNew objectPath) } := by
  refine ⟨fun id d hl => ?_, h.nodup, fun id hmem => Nat.lt_succ_of_lt (h.fresh id hmem),
    fun id hmem d hl => ?_, fun id path hmem => ⟨Nat.lt_succ_of_lt (h.calls id path hmem).1,
      (h.calls id path hmem).2⟩⟩
  · by_cases hne : id = s.nextDevice
    · exact hne ▸ Nat.lt_succ_self _
    · rw [AList.lookup_insert_ne hne] at hl
      exact Nat.lt_succ_of_lt (h.live id d hl)
  · have hlt := h.fresh id hmem
    rw [AList.lookup_insert_ne (Nat.ne_of_lt hlt)] at hl
    exact h.idle id hmem d hl

theorem others_new (objectPath : Str) (s : ManagerState) :
    Others s.nextDevice s { s with
      nextDevice := s.nextDevice + 1
      devices := s.devices.insert s.nextDevice (nmDeviceNew objectPath) } :=
  ⟨fun _ hne => AList.lookup_insert_ne hne, fun _ _ _ => Iff.rfl, fun _ _ => rfl⟩

/-- A new device that waits for its wireless proxy. -/
theorem good_newWifi (h : Good s) (objectPath : Str) :
    Good { s with nextDevice := s.nextDevice + 1
                  devices := s.devices.insert s.nextDevice (nmDeviceNew objectPath)
                  wifiCalls := s.wifiCalls ++ [s.nextDevice] } := by
  have hnew := good_new h objectPath
  have hout : s.nextDevice ∉ s.wifiCalls := fun hmem => Nat.lt_irrefl _ (h.fresh _ hmem)
  refine ⟨hnew.live, h.nodup.append (List.nodup_singleton _) ?_, fun id hmem => ?_,
    fun id hmem d hl => ?_, fun id path hmem => ⟨(hnew.calls id path hmem).1, fun hin => ?_⟩⟩
  · intro id hid hid'
    obtain rfl := List.mem_singleton.1 hid'
    exact hout hid
  · rcases List.mem_append.1 hmem with hmem | hmem
    · exact hnew.fresh id hmem
    · obtain rfl := List.mem_singleton.1 hmem
      exact Nat.lt_succ_self _
  · rcases List.mem_append.1 hmem with hmem | hmem
    · exact hnew.idle id hmem d hl
    · obtain rfl := List.mem_singleton.1 hmem
      have hlookup : (s.devices.insert s.nextDevice (nmDeviceNew objectPath)).lookup s.nextDevice =
          some (nmDeviceNew objectPath) := AList.lookup_insert _
      obtain rfl := Option.some.inj (hlookup.symm.trans hl)
      exact ⟨rfl, rfl⟩
  · rcases List.mem_append.1 hin with hin | hin
    · exact (hnew.calls id path hmem).2 hin
    · obtain rfl := List.mem_singleton.1 hin
      exact Nat.lt_irrefl _ (h.calls _ path hmem).1

/-- A new device follows its state. -/
theorem deviceProxyNewCb_spec (h : Good s) (objectPath : Str) (deviceType : Option Variant)
    (env : Environment) :
    Good (deviceProxyNewCb objectPath deviceType env s) ∧
      (Follows s → Follows (deviceProxyNewCb objectPath deviceType env s)) := by
  have ho := others_new objectPath s
  have hempty : ∀ d, (s.devices.insert s.nextDevice (nmDeviceNew objectPath)).lookup s.nextDevice =
      some d → d.contexts = [] := by
    intro d hd
    rw [AList.lookup_insert] at hd
    obtain rfl := Option.some.inj hd
    rfl
  unfold deviceProxyNewCb
  split
  · rename_i type
    dsimp only
    split
    · have hc := changes_modify s.nextDevice
        (fun device => { device with refCount := device.refCount + 1 })
        { s with nextDevice := s.nextDevice + 1
                 devices := s.devices.insert s.nextDevice (nmDeviceNew objectPath)
                 wifiCalls := s.wifiCalls ++ [s.nextDevice] }
      have hgood := good_of_changes (good_newWifi h objectPath) hc (.inr fun d d' hd' => by
        obtain rfl := Option.some.inj hd'
        exact ⟨rfl, rfl⟩)
      refine ⟨good_unref hgood _, fun hfollows => follows_unref ?_ _⟩
      have ho' : Others s.nextDevice s _ :=
        ho.trans ⟨hc.other.devices, hc.other.apCalls, hc.other.reported⟩
      refine (follows_iff hfollows ho').2 (deviceFollows_nil fun d hd => ?_)
      rw [hc.self] at hd
      obtain ⟨old, hold, hd⟩ := Option.bind_eq_some_iff.1 hd
      obtain rfl := Option.some.inj hd
      exact hempty old hold
    · have hout : s.nextDevice ∉ s.wifiCalls := fun hmem => Nat.lt_irrefl _ (h.fresh _ hmem)
      have hgood := good_useNewDevice (good_new h objectPath) hout env
      obtain ⟨hself, ho'⟩ := useNewDevice_spec (s := { s with
        nextDevice := s.nextDevice + 1
        devices := s.devices.insert s.nextDevice (nmDeviceNew objectPath) }) hempty env
      exact ⟨good_unref hgood _, fun hfollows =>
        follows_unref ((follows_iff hfollows (ho.trans ho')).2 hself) _⟩
  · exact ⟨h, fun hfollows => hfollows⟩

/-- A call that completed. -/
theorem good_wifiCompleted (h : Good s) (i : Nat) :
    Good { s with wifiCalls := s.wifiCalls.eraseIdx i } := by
  have hsub := List.eraseIdx_sublist s.wifiCalls i
  exact ⟨h.live, h.nodup.sublist hsub, fun id hmem => h.fresh id (hsub.subset hmem),
    fun id hmem => h.idle id (hsub.subset hmem),
    fun id path hmem => ⟨(h.calls id path hmem).1, fun hin =>
      (h.calls id path hmem).2 (hsub.subset hin)⟩⟩

/-- The device of such a call waits no more. -/
theorem not_waiting (h : Good s) {i : Nat} (hcall : s.wifiCalls[i]? = some id) :
    id ∉ s.wifiCalls.eraseIdx i := by
  rw [List.mem_eraseIdx_iff_getElem?]
  rintro ⟨j, hne, hj⟩
  have hlt := (List.getElem?_eq_some_iff.1 hj).1
  exact hne ((List.getElem?_inj hlt h.nodup).1 (hj.trans hcall.symm))

/-- A device that gets its wireless proxy follows its state. -/
theorem wifiProxyNewCb_spec (h : Good s) (hout : id ∉ s.wifiCalls)
    (hempty : ∀ d, s.devices.lookup id = some d → d.contexts = []) (completion : Completion)
    (env : Environment) :
    Good (wifiProxyNewCb id completion env s) ∧
      (Follows s → Follows (wifiProxyNewCb id completion env s)) := by
  have hmodified : ∀ f : NMDevice → NMDevice, (∀ d, (f d).contexts = d.contexts) →
      ∀ d, (s.modifyDevice id f).devices.lookup id = some d → d.contexts = [] := by
    intro f hf d hd
    rw [ManagerState.modifyDevice, Table.lookup_modify_self] at hd
    obtain ⟨old, hold, rfl⟩ := Option.map_eq_some_iff.1 hd
    rw [hf]
    exact hempty old hold
  cases completion with
  | created =>
    have hc := changes_modify id (fun device => { device with wifiProxy := true }) s
    have hused := good_useNewDevice (good_of_changes h hc (.inl hout)) hout env
    obtain ⟨hself, ho⟩ := useNewDevice_spec
      (hmodified (fun device => { device with wifiProxy := true }) fun _ => rfl) env
    exact ⟨good_unref hused id, fun hfollows =>
      follows_unref ((follows_iff hfollows (hc.other.trans ho)).2 hself) id⟩
  | failed => exact ⟨good_unref h id, fun hfollows => follows_unref hfollows id⟩
  | cancelled =>
    have hc := changes_modify id (fun device => { device with managed := false }) s
    have hself := deviceFollows_nil
      (hmodified (fun device => { device with managed := false }) fun _ => rfl)
    exact ⟨good_unref (good_of_changes h hc (.inl hout)) id, fun hfollows =>
      follows_unref ((follows_iff hfollows hc.other).2 hself) id⟩

/-! ## A call for an access point completes -/

/-- The device object when the call has completed, before its reference is dropped. -/
theorem apProxyNewCb_cases (hl : s.devices.lookup id = some d) (path : Str) (completion : Completion)
    (env : Environment) :
    ∃ new f u, apProxyNewCb id path completion env s = nmDeviceUnref id u ∧ Changes id f s u ∧
      (∃ d', f d = some d' ∧ d'.contexts = new ++ d.contexts ∧ d'.refCount = d.refCount) ∧
      (completion ≠ .created → new = []) ∧
      (completion = .created → ∀ family, countFamily family new = (creates env family).toNat) := by
  cases completion with
  | created =>
    have hc := changes_modify id (fun device => { device with apProxy := some path }) s
    have hd := hc.eq_some hl
    obtain ⟨new, hc', hnew⟩ := createContextForDevice_spec id { d with apProxy := some path } env
      (s.modifyDevice id fun device => { device with apProxy := some path })
    refine ⟨new, _, _, ?_, hc.trans hc', ⟨_, rfl, rfl, rfl⟩, fun hne => absurd rfl hne, fun _ => hnew⟩
    unfold apProxyNewCb
    dsimp only
    rw [hd]
  | failed =>
    exact ⟨[], _, _, rfl, changes_modify id _ s, ⟨_, rfl, rfl, rfl⟩, fun _ => rfl,
      fun hf => Completion.noConfusion hf⟩
  | cancelled =>
    exact ⟨[], _, _, rfl, changes_modify id _ s, ⟨_, rfl, rfl, rfl⟩, fun _ => rfl,
      fun hf => Completion.noConfusion hf⟩

/-- A device object that is not there is not created. -/
theorem apProxyNewCb_none (hl : s.devices.lookup id = none) (path : Str) (completion : Completion)
    (env : Environment) :
    ∃ f, Changes id f s (apProxyNewCb id path completion env s) := by
  cases completion with
  | created =>
    have hc := changes_modify id (fun device => { device with apProxy := some path }) s
    have hnone : (s.modifyDevice id fun device => { device with apProxy := some path }).devices.lookup
        id = none := by
      rw [hc.self, hl]
      rfl
    unfold apProxyNewCb
    dsimp only
    rw [hnone]
    exact ⟨_, hc.trans (changes_unref id _)⟩
  | failed => exact ⟨_, (changes_modify id _ s).trans (changes_unref id _)⟩
  | cancelled => exact ⟨_, (changes_modify id _ s).trans (changes_unref id _)⟩

theorem new_eq_nil_iff (hnew : ∀ family, countFamily family new = (creates env family).toNat) :
    new = [] ↔ ∀ family, creates env family = false := by
  constructor
  · intro hnil family
    have hcount := hnew family
    rw [hnil] at hcount
    exact Bool.toNat_eq_zero.1 hcount.symm
  · intro hnone
    refine List.eq_nil_iff_forall_not_mem.2 fun context hmem => ?_
    have hcount := hnew context.addressFamily
    rw [hnone, Bool.toNat_false, countFamily, List.countP_eq_zero] at hcount
    exact hcount context hmem (decide_eq_true rfl)

/-- Without the call, for the other devices nothing is different. -/
theorem others_completed {i : Nat} {path : Str} (hcall : s.apCalls[i]? = some (id, path)) :
    Others id s { s with apCalls := s.apCalls.eraseIdx i } := by
  refine ⟨fun _ _ => rfl, fun id' hne path' => ⟨fun hmem => (List.eraseIdx_sublist ..).subset hmem,
    fun hmem => ?_⟩, fun _ _ => rfl⟩
  obtain ⟨j, hj⟩ := List.mem_iff_getElem?.1 hmem
  refine List.mem_eraseIdx_iff_getElem?.2 ⟨j, fun heq => hne ?_, hj⟩
  rw [heq, hcall] at hj
  exact (congrArg Prod.fst (Option.some.inj hj)).symm

theorem inTurn_completed {i : Nat} {path : Str} {completion : Completion}
    (hcall : s.apCalls[i]? = some (id, path)) (hl : s.devices.lookup id = some d) :
    InTurn s (.apProxyNew i completion env) ↔ (d.refCount ≠ 1 →
      (completion = .created → Room env d.contexts) ∧
      ((∀ path, (id, path) ∉ s.apCalls.eraseIdx i) → ¬ ReportedActivated s id →
        d.contexts = [] ∧ (completion = .created → ∀ family, creates env family = false))) := by
  refine ⟨fun h => h id path d hcall hl, fun h id' path' d' hcall' hl' => ?_⟩
  rw [hcall] at hcall'
  obtain ⟨rfl, rfl⟩ := Prod.mk.inj (Option.some.inj hcall')
  obtain rfl := Option.some.inj (hl.symm.trans hl')
  exact h

/-- Of the device of the call it is the condition. -/
theorem follows_completed (h : Follows s) {i : Nat} {path : Str}
    (hcall : s.apCalls[i]? = some (id, path)) (completion : Completion) (env : Environment) :
    Follows (apProxyNewCb id path completion env { s with apCalls := s.apCalls.eraseIdx i }) ↔
      InTurn s (.apProxyNew i completion env) := by
  have ho := others_completed hcall
  cases hl : s.devices.lookup id with
  | none =>
    obtain ⟨f, hc⟩ := apProxyNewCb_none (s := { s with apCalls := s.apCalls.eraseIdx i }) hl path
      completion env
    rw [follows_iff h (ho.trans hc.other)]
    refine ⟨fun _ id' path' d hcall' hd => ?_, fun _ => deviceFollows_nil fun d hd => ?_⟩
    · rw [hcall] at hcall'
      obtain ⟨rfl, rfl⟩ := Prod.mk.inj (Option.some.inj hcall')
      exact absurd (hl.symm.trans hd) nofun
    · rw [hc.self, hl] at hd
      cases hd
  | some d =>
    obtain ⟨new, f, u, heq, hc, ⟨d', hd', hcontexts, hrefs⟩, hnone, hnew⟩ :=
      apProxyNewCb_cases (s := { s with apCalls := s.apCalls.eraseIdx i }) hl path completion env
    have hunref := changes_unref id u
    have hlookup : (nmDeviceUnref id u).devices.lookup id = d'.unref := by
      rw [hunref.self, hc.eq_some hl, hd', Option.bind_some]
    rw [inTurn_completed hcall hl, heq, follows_iff h ((ho.trans hc.other).trans hunref.other)]
    by_cases href : d.refCount = 1
    · refine ⟨fun _ hne => absurd href hne, fun _ => deviceFollows_nil fun d'' hd'' => ?_⟩
      rw [hlookup, NMDevice.unref, hrefs, if_neg (not_not.2 href)] at hd''
      cases hd''
    · rw [NMDevice.unref, hrefs, if_pos href] at hlookup
      have hpending : Pending (nmDeviceUnref id u) id ↔ ∃ path, (id, path) ∈ s.apCalls.eraseIdx i := by
        rw [Pending, hunref.apCalls, hc.apCalls]
      have hreported : ReportedActivated (nmDeviceUnref id u) id ↔ ReportedActivated s id := by
        rw [ReportedActivated, hunref.reported, hc.reported]
        rfl
      rw [deviceFollows_iff hlookup, hpending, hreported, hcontexts]
      have hold := (h id d hl).2
      by_cases hcreated : completion = .created
      · have hcount := hnew hcreated
        rw [onePerFamily_append hold hcount, ne_eq, List.append_eq_nil_iff, new_eq_nil_iff hcount,
          not_exists]
        simp only [hcreated, true_implies, href, ne_eq, not_false_eq_true]
        rw [and_comm]
        refine and_congr_right fun _ => imp_congr_right fun _ => ?_
        rw [not_imp_comm, and_comm]
      · rw [hnone hcreated, List.nil_append]
        simp only [hcreated, false_implies, href, ne_eq, not_false_eq_true, true_implies, and_true,
          not_exists, true_and, hold]
        exact imp_congr_right fun _ => not_imp_comm

/-! ## A device signals its state -/

theorem inTurn_signal {newState : Nat} (hl : s.devices.lookup id = some d) :
    InTurn s (.stateChanged id newState env) ↔
      (isActivated newState = true → d.wifiProxy = false → Room env d.contexts) := by
  refine ⟨fun h hactivated hwifi => h hactivated d hl hwifi, fun h hactivated d' hl' hwifi => ?_⟩
  obtain rfl := Option.some.inj (hl.symm.trans hl')
  exact h hactivated hwifi

theorem follows_signal (h : Follows s) (hl : s.devices.lookup id = some d) (newState : Nat)
    (env : Environment) :
    Follows (onDeviceSignal id d newState env s) ↔ InTurn s (.stateChanged id newState env) := by
  have ho := others_report id newState s
  rw [inTurn_signal hl]
  unfold onDeviceSignal
  dsimp only
  by_cases hactivated : isActivated newState = true
  · rw [if_pos hactivated]
    have hl' : (s.report id newState).devices.lookup id = some d := hl
    obtain ⟨new, n, hself, ho', hreported, hwifi, hnew⟩ := onDeviceActivated_spec hl' env
    have hnow : ReportedActivated (onDeviceActivated id d env (s.report id newState)) id := by
      rw [ReportedActivated, hreported, ManagerState.report]
      simpa using hactivated
    have hold := (h id d hl).2
    rw [follows_iff h (ho.trans ho'), deviceFollows_iff hself]
    cases hproxy : d.wifiProxy with
    | true =>
      refine ⟨fun _ _ hf => Bool.noConfusion hf, fun _ => ⟨fun _ _ => hnow, ?_⟩⟩
      rw [hwifi hproxy]
      exact hold
    | false =>
      rw [onePerFamily_append hold (hnew hproxy)]
      exact ⟨fun hboth _ _ => hboth.2, fun hroom => ⟨fun _ _ => hnow, hroom hactivated rfl⟩⟩
  · rw [if_neg hactivated]
    refine ⟨fun _ ht => absurd ht hactivated, fun _ => ?_⟩
    have hc := changes_modify id (fun device => { device with contexts := [] })
      ((s.report id newState).emit false d.contexts)
    refine (follows_iff h (ho.trans ⟨hc.others, hc.other.apCalls, hc.other.reported⟩)).2 ?_
    refine deviceFollows_nil fun d' hd' => ?_
    rw [hc.self] at hd'
    obtain ⟨old, -, hd'⟩ := Option.bind_eq_some_iff.1 hd'
    obtain rfl := Option.some.inj hd'
    rfl

theorem good_signal (h : Good s) (hl : s.devices.lookup id = some d) (hconnected : d.connected = true)
    (newState : Nat) (env : Environment) : Good (onDeviceSignal id d newState env s) := by
  have hout : id ∉ s.wifiCalls := fun hmem =>
    Bool.noConfusion (hconnected.symm.trans (h.idle id hmem d hl).2)
  have hgood := good_report h id newState
  unfold onDeviceSignal
  dsimp only
  split
  · exact good_activated hgood hl hout env
  · have hc := changes_modify id (fun device => { device with contexts := [] })
      ((s.report id newState).emit false d.contexts)
    exact good_of_changes hgood ⟨hc.self, hc.others, rfl, rfl, rfl, rfl⟩ (.inl hout)

/-! ## Steps -/

theorem good_apCompleted (h : Good s) (i : Nat) : Good { s with apCalls := s.apCalls.eraseIdx i } :=
  ⟨h.live, h.nodup, h.fresh, h.idle,
    fun id path hmem => h.calls id path ((List.eraseIdx_sublist ..).subset hmem)⟩

theorem good_completed (h : Good s) (hout : id ∉ s.wifiCalls) (path : Str) (completion : Completion)
    (env : Environment) : Good (apProxyNewCb id path completion env s) := by
  cases hl : s.devices.lookup id with
  | none =>
    obtain ⟨f, hc⟩ := apProxyNewCb_none hl path completion env
    exact good_of_changes h hc (.inl hout)
  | some d =>
    obtain ⟨new, f, u, heq, hc, -⟩ := apProxyNewCb_cases hl path completion env
    rw [heq]
    exact good_unref (good_of_changes h hc (.inl hout)) id

/-- The manager drops its references. -/
theorem unrefAll (ids : List Nat) (h : Good s) :
    Good (ids.foldl (fun s id => nmDeviceUnref id s) s) ∧
      (Follows s → Follows (ids.foldl (fun s id => nmDeviceUnref id s) s)) := by
  induction ids generalizing s with
  | nil => exact ⟨h, fun hfollows => hfollows⟩
  | cons id ids ih =>
    obtain ⟨hgood, hall⟩ := ih (good_unref h id)
    exact ⟨hgood, fun hfollows => hall (follows_unref hfollows id)⟩

/-- A device that is removed keeps following its state, for as long as it lives. -/
theorem onDeviceRemoved_spec (h : Good s) (objectPath : Str) :
    Good (onDeviceRemoved objectPath s) ∧ (Follows s → Follows (onDeviceRemoved objectPath s)) := by
  unfold onDeviceRemoved
  split
  · exact ⟨h, fun hfollows => hfollows⟩
  · rename_i id hfound
    have hgood : Good { s with nmDevices := s.nmDevices.erase id } :=
      ⟨h.live, h.nodup, h.fresh, h.idle, h.calls⟩
    refine ⟨good_unref hgood id, fun hfollows => ?_⟩
    have hfollows' : Follows { s with nmDevices := s.nmDevices.erase id } := hfollows
    exact follows_unref hfollows' id

/-- A step keeps the invariant, and the contexts following if and only if it creates them in turn. -/
theorem step_spec (h : Good s) (hstep : step s e = some t) :
    Good t ∧ (Follows s → (Follows t ↔ InTurn s e)) := by
  have hfree : ∀ {P Q : Prop}, P → (Q → Follows t) → P ∧ (Q → (Follows t ↔ True)) :=
    fun hp hq => ⟨hp, fun hfollows => iff_true_intro (hq hfollows)⟩
  cases e with
  | deviceProxyNew objectPath deviceType env =>
    obtain ⟨-, hstep⟩ := Option.ite_none_left_eq_some.1 hstep
    obtain rfl := Option.some.inj hstep
    obtain ⟨hgood, hfollows⟩ := deviceProxyNewCb_spec h objectPath deviceType env
    exact hfree hgood hfollows
  | wifiProxyNew i completion env =>
    obtain ⟨id, hcall, hstep⟩ := Option.bind_eq_some_iff.1 hstep
    obtain ⟨-, hstep⟩ := Option.ite_none_right_eq_some.1 hstep
    obtain rfl := Option.some.inj hstep
    obtain ⟨hgood, hfollows⟩ := wifiProxyNewCb_spec (good_wifiCompleted h i) (not_waiting h hcall)
      (fun d hd => (h.idle id (List.mem_of_getElem? hcall) d hd).1) completion env
    exact hfree hgood hfollows
  | apProxyNew i completion env =>
    obtain ⟨⟨id, path⟩, hcall, hstep⟩ := Option.bind_eq_some_iff.1 hstep
    obtain ⟨-, hstep⟩ := Option.ite_none_right_eq_some.1 hstep
    obtain rfl := Option.some.inj hstep
    have hout := (h.calls id path (List.mem_of_getElem? hcall)).2
    exact ⟨good_completed (good_apCompleted h i) hout path completion env,
      fun hfollows => follows_completed hfollows hcall completion env⟩
  | stateChanged id newState env =>
    obtain ⟨d, hl, hstep⟩ := Option.bind_eq_some_iff.1 hstep
    obtain ⟨hheard, hstep⟩ := Option.ite_none_right_eq_some.1 hstep
    obtain rfl := Option.some.inj hstep
    have hconnected := (Bool.and_eq_true_iff.1 hheard).1
    exact ⟨good_signal h hl hconnected newState env,
      fun hfollows => follows_signal hfollows hl newState env⟩
  | deviceRemoved objectPath =>
    obtain ⟨-, hstep⟩ := Option.ite_none_left_eq_some.1 hstep
    obtain rfl := Option.some.inj hstep
    obtain ⟨hgood, hfollows⟩ := onDeviceRemoved_spec h objectPath
    exact hfree hgood hfollows
  | dispose =>
    obtain ⟨-, hstep⟩ := Option.ite_none_left_eq_some.1 hstep
    obtain rfl := Option.some.inj hstep
    obtain ⟨hgood, hfollows⟩ := unrefAll s.nmDevices h
    exact hfree ⟨hgood.live, hgood.nodup, hgood.fresh, hgood.idle, hgood.calls⟩ hfollows

/-! ## The main result -/

/-- **The contexts of all devices always follow their states exactly where they are created in
turn.** -/
theorem contexts_follow_iff (es : List Event) (t : ManagerState) (h : Run step AnyStep .init es t) :
    Always step Follows .init es ↔ Run step InTurn .init es t := by
  refine Run.always_iff (fun s e t hgood hstep => (step_spec hgood hstep).1)
    (fun s e t hgood hfollows hstep => (step_spec hgood hstep).2 hfollows) good_init ?_ h
  refine fun id => deviceFollows_nil fun d hd => ?_
  cases hd

/-- What the handlers of a wireless device find. -/
def wirelessEnv : Environment where
  interface := some (.string "wlan0".toList)
  state := some (.uint32 30)
  activeAccessPoint := some (.objectPath "/ap/1".toList)
  ssid _ := some "home".toList
  port := 0
  socketFamily := .invalid
  initialised _ := true

/-- The wireless device 0 is used, and then activated. -/
def wirelessEvents : List Event :=
  [.deviceProxyNew "/dev/1".toList (some (.uint32 2)) wirelessEnv, .wifiProxyNew 0 .created wirelessEnv,
    .stateChanged 0 100 wirelessEnv]

/-- The families of the contexts of device 0. -/
def familiesOf (s : ManagerState) : Option (List SocketFamily) :=
  (s.devices.lookup 0).map fun d => d.contexts.map Context.addressFamily

/-- The call for its access point completes. -/
def completedEvents : List Event := wirelessEvents ++ [.apProxyNew 0 .created wirelessEnv]

theorem contexts_follow_wireless : ∃ t, Run step AnyStep .init completedEvents t ∧
    familiesOf t = some [.ipv6, .ipv4] ∧
    (Always step Follows .init completedEvents ↔ Run step InTurn .init completedEvents t) := by
  have hlast : (completedEvents.foldlM step .init).map familiesOf = some (some [.ipv6, .ipv4]) := by
    decide
  obtain ⟨t, hrun, hend⟩ := Run.exists_of_foldlM hlast
  exact ⟨t, hrun, hend, contexts_follow_iff completedEvents t hrun⟩

/-- A wireless device that is deactivated before the call for its access point completes has contexts
then; and one that is activated twice gets two of each family. -/
theorem contexts_unfollowed :
    (∃ es t, Run step AnyStep .init es t ∧ ¬ Follows t ∧ familiesOf t = some [.ipv6, .ipv4]) ∧
    ∃ es t, Run step AnyStep .init es t ∧ ¬ Follows t ∧
      familiesOf t = some [.ipv6, .ipv4, .ipv6, .ipv4] := by
  constructor
  · let es : List Event := wirelessEvents ++ [.stateChanged 0 110 wirelessEnv,
      .apProxyNew 0 .created wirelessEnv]
    have hlast : (es.foldlM step .init).map (fun t => (t.apCalls, t.reported 0, familiesOf t)) =
        some ([], some 110, some [.ipv6, .ipv4]) := by decide
    obtain ⟨t, hrun, hend⟩ := Run.exists_of_foldlM hlast
    obtain ⟨hcalls, hreported, hfamilies⟩ :
        t.apCalls = [] ∧ t.reported 0 = some 110 ∧ familiesOf t = some [.ipv6, .ipv4] := by
      simpa only [Prod.mk.injEq] using hend
    refine ⟨es, t, hrun, fun hfollows => ?_, hfamilies⟩
    obtain ⟨d, hd, hmap⟩ := Option.map_eq_some_iff.1 hfamilies
    have hactivated := (hfollows 0 d hd).1 (fun ⟨path, hmem⟩ => ?_) fun hnil => ?_
    · rw [ReportedActivated, hreported] at hactivated
      exact absurd hactivated (by decide)
    · rw [hcalls] at hmem
      exact absurd hmem List.not_mem_nil
    · rw [hnil] at hmap
      cases hmap
  · let es : List Event := wirelessEvents ++ [.stateChanged 0 100 wirelessEnv,
      .apProxyNew 0 .created wirelessEnv, .apProxyNew 0 .created wirelessEnv]
    have hlast : (es.foldlM step .init).map familiesOf = some (some [.ipv6, .ipv4, .ipv6, .ipv4]) := by
      decide
    obtain ⟨t, hrun, hend⟩ := Run.exists_of_foldlM hlast
    refine ⟨es, t, hrun, fun hfollows => ?_, hend⟩
    obtain ⟨d, hd, hmap⟩ := Option.map_eq_some_iff.1 hend
    have hcount : (d.contexts.map Context.addressFamily).count .ipv4 ≤ 1 := by
      rw [List.count, List.countP_map]
      exact (hfollows 0 d hd).2 .ipv4
    rw [hmap] at hcount
    exact absurd hcount (by decide)

end GUPnP.NetworkManager
