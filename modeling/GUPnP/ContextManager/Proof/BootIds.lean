import GUPnP.Base.Run
import GUPnP.Base.Signals
import GUPnP.ContextManager.BootId

/-!
# Networks and their boot ids

An update counts the boot-id of a context up once for each of its root devices
(`doBootIdUpdate_eq`), and the manager takes over where the last device of its array
got to. So contexts with different numbers of devices come apart, and a context that was not there
for an update lags behind. `boot_ids_agree`: they agree, and never decrease, in the runs in which
every update counts evenly, and root devices only come to contexts that have the manager's boot-id.
-/

set_option autoImplicit false

namespace GUPnP.ContextManager

variable {s t : BootState} {c : Context} {d : Nat} {e : BootEvent} {es es' : List BootEvent}

/-! ## Agreement -/

/-- The application was told that the context is there. -/
def Announced (s : BootState) (c : Context) : Prop :=
  (signalsOf c s.manager.log).getLast? = some true

/-- An announced context with a root device that the manager manages. -/
def Carries (s : BootState) (c : Context) : Prop :=
  Announced s c ∧ ∃ d ∈ s.objects, s.contextOf d = c

/-- All networks have the boot-id of the manager. -/
def Agreed (s : BootState) : Prop := ∀ c, Carries s c → s.clientBootId c = s.bootId

/-- How often the array of root devices has a device of this context. -/
def devicesOn (s : BootState) (c : Context) : Nat := (s.rootDevices.map s.contextOf).count c

/-- What this context would be counted up to. -/
def countedUp (s : BootState) (c : Context) : Int := s.clientBootId c + devicesOn s c

/-- No counter overflows, and the contexts apart from `c` that carry devices are as far from their
number of devices as the context of the last device is. -/
structure CountsEvenly (s : BootState) (c : Context) : Prop where
  noOverflow : ∀ d ∈ s.rootDevices, countedUp s (s.contextOf d) < 2 ^ 31
  even : ∀ last ∈ s.rootDevices.getLast?, ∀ c', c' ≠ c → Carries s c' →
    countedUp s c' = countedUp s (s.contextOf last) ∧ 1 < countedUp s (s.contextOf last)

/-- The boot-id of the context is not ahead of the number it is given. -/
def NotAhead (s : BootState) (c : Context) : Prop :=
  match s.rootDevices.getLast? with
  | none => s.clientBootId c ≤ s.bootId
  | some last =>
    if 1 < countedUp s (s.contextOf last) then s.clientBootId c ≤ countedUp s (s.contextOf last)
    else s.clientBootId c ≤ s.bootId

/-- The condition on the steps. -/
def Even (s : BootState) : BootEvent → Prop
  | .contextAvailable c =>
    (onContextAvailable c s.manager).1 = false → CountsEvenly s c ∧ NotAhead s c
  | .contextUnavailable c =>
    (onContextUnavailable c s.manager).1 = false → CountsEvenly (dropObjects c s) c
  | .manageRootDevice d =>
    Announced s (s.contextOf d) → s.clientBootId (s.contextOf d) = s.bootId
  | .releaseDevice _ => True

/-- What holds between events. -/
structure BootInv (s : BootState) : Prop where
  agreed : Agreed s
  uda : s.uda10 = false
  notSynthesized : s.manager.synthesizedInternal = false
  range : ∀ c, -2 ^ 31 ≤ s.clientBootId c ∧ s.clientBootId c < 2 ^ 31
  bootId : -2 ^ 31 ≤ s.bootId ∧ s.bootId < 2 ^ 31

/-! ## An update -/

theorem increment_of_lt {n : Int} (hlow : -2 ^ 31 ≤ n) (h : n + 1 < 2 ^ 31) : increment n = n + 1 :=
  Int.bmod_eq_of_le (by omega) (by omega)

/-- Without an overflow every context is counted up by its devices. -/
theorem foldl_handleUpdate (l : List Nat) (s : BootState) (out : Int)
    (hlow : ∀ c, -2 ^ 31 ≤ s.clientBootId c)
    (hhigh : ∀ c, s.clientBootId c + (l.map s.contextOf).count c < 2 ^ 31) :
    l.foldl handleUpdate (s, out) =
      ({ s with clientBootId := fun c => s.clientBootId c + (l.map s.contextOf).count c },
        match l.getLast? with
        | none => out
        | some last => s.clientBootId (s.contextOf last) +
            (l.map s.contextOf).count (s.contextOf last)) := by
  induction l using List.reverseRecOn with
  | nil => simp
  | append_singleton l d ih =>
    have hcount : ∀ c, ((l ++ [d]).map s.contextOf).count c =
        (l.map s.contextOf).count c + if s.contextOf d = c then 1 else 0 := by
      intro c
      simp only [List.map_append, List.map_cons, List.map_nil, List.count_append,
        List.count_singleton, beq_iff_eq]
    have hprefix : ∀ c, s.clientBootId c + (l.map s.contextOf).count c < 2 ^ 31 := by
      intro c
      have := hhigh c
      rw [hcount] at this
      omega
    have hself := hhigh (s.contextOf d)
    rw [hcount, if_pos rfl] at hself
    have hinc := increment_of_lt (n := s.clientBootId (s.contextOf d) +
      (l.map s.contextOf).count (s.contextOf d))
      (by have := hlow (s.contextOf d); omega) (by omega)
    have hfun : (fun c' => if c' = s.contextOf d then s.clientBootId (s.contextOf d) +
        ((l.map s.contextOf).count (s.contextOf d) : Int) + 1 else
          s.clientBootId c' + (l.map s.contextOf).count c') =
        fun c => s.clientBootId c + (((l ++ [d]).map s.contextOf).count c : Nat) := by
      funext c
      rw [hcount]
      by_cases hc : c = s.contextOf d
      · subst hc
        simp only [if_true]
        omega
      · rw [if_neg hc, if_neg (Ne.symm hc)]
        simp
    have hout : s.clientBootId (s.contextOf d) +
        ((l.map s.contextOf).count (s.contextOf d) : Int) + 1 =
        s.clientBootId (s.contextOf d) +
          (((l ++ [d]).map s.contextOf).count (s.contextOf d) : Nat) := by
      rw [hcount, if_pos rfl]
      omega
    rw [List.foldl_append, ih hprefix, List.foldl_cons, List.foldl_nil, handleUpdate]
    simp only [setBootId, hinc, List.getLast?_concat, hfun]
    rw [hout]

/-- Where the last root device of the array takes the manager. -/
def updatedBootId (s : BootState) : Int :=
  match s.rootDevices.getLast? with
  | none => s.bootId
  | some last =>
    if 1 < countedUp s (s.contextOf last) then countedUp s (s.contextOf last) else s.bootId

theorem updatedBootId_nil (h : s.rootDevices = []) : updatedBootId s = s.bootId := by
  rw [updatedBootId, h]
  rfl

theorem countedUp_nil (h : s.rootDevices = []) (c : Context) :
    countedUp s c = s.clientBootId c := by
  simp [countedUp, devicesOn, h]

theorem countedUp_of_not_mem (h : c ∉ s.rootDevices.map s.contextOf) :
    countedUp s c = s.clientBootId c := by
  rw [countedUp, devicesOn, List.count_eq_zero_of_not_mem h]
  omega

/-- The context keeps or raises its boot-id. -/
theorem le_countedUp (s : BootState) (c : Context) : s.clientBootId c ≤ countedUp s c := by
  unfold countedUp
  omega

/-- No context overflows if those of the devices do not. -/
theorem countedUp_range (hrange : ∀ c, -2 ^ 31 ≤ s.clientBootId c ∧ s.clientBootId c < 2 ^ 31)
    (hno : ∀ d ∈ s.rootDevices, countedUp s (s.contextOf d) < 2 ^ 31) (c : Context) :
    -2 ^ 31 ≤ countedUp s c ∧ countedUp s c < 2 ^ 31 := by
  refine ⟨Int.le_trans (hrange c).1 (le_countedUp s c), ?_⟩
  by_cases hc : c ∈ s.rootDevices.map s.contextOf
  · obtain ⟨d, hd, rfl⟩ := List.mem_map.1 hc
    exact hno d hd
  · rw [countedUp_of_not_mem hc]
    exact (hrange c).2

theorem updatedBootId_range (hbootId : -2 ^ 31 ≤ s.bootId ∧ s.bootId < 2 ^ 31)
    (hcounted : ∀ c, -2 ^ 31 ≤ countedUp s c ∧ countedUp s c < 2 ^ 31) :
    -2 ^ 31 ≤ updatedBootId s ∧ updatedBootId s < 2 ^ 31 := by
  unfold updatedBootId
  split
  · exact hbootId
  · split
    · exact hcounted _
    · exact hbootId

/-- Without an overflow every context is counted up by its devices, and the manager follows the last of
them. -/
theorem doBootIdUpdate_eq (huda : s.uda10 = false)
    (hrange : ∀ c, -2 ^ 31 ≤ s.clientBootId c ∧ s.clientBootId c < 2 ^ 31)
    (hno : ∀ d ∈ s.rootDevices, countedUp s (s.contextOf d) < 2 ^ 31) :
    doBootIdUpdateForRootDevices s =
      { s with clientBootId := countedUp s, bootId := updatedBootId s } := by
  have hfold := foldl_handleUpdate s.rootDevices s (-1) (fun c => (hrange c).1)
    fun c => (countedUp_range hrange hno c).2
  unfold doBootIdUpdateForRootDevices
  rw [if_neg (by rw [huda]; decide), hfold]
  dsimp only
  cases hlast : s.rootDevices.getLast? with
  | none =>
    have hnil : s.rootDevices = [] := List.getLast?_eq_none_iff.1 hlast
    have hnone : ¬ (-1 : Int) > 1 := by decide
    dsimp only
    rw [if_neg hnone, updatedBootId_nil hnil]
    rfl
  | some last =>
    have hid : updatedBootId s = if 1 < countedUp s (s.contextOf last) then
        countedUp s (s.contextOf last) else s.bootId := by
      rw [updatedBootId, hlast]
    rw [hid]
    dsimp only
    split
    · rename_i hpos
      have hpos : 1 < countedUp s (s.contextOf last) := hpos
      rw [if_pos hpos]
      rfl
    · rename_i hpos
      have hpos : ¬ 1 < countedUp s (s.contextOf last) := hpos
      rw [if_neg hpos]
      rfl

/-- An update that counts evenly brings every other context to the boot-id of the manager. -/
theorem CountsEvenly.updated {c' : Context} (heven : CountsEvenly s c) (hne : c' ≠ c)
    (hc' : Carries s c') (hagreed : s.clientBootId c' = s.bootId) :
    countedUp s c' = updatedBootId s := by
  cases hlast : s.rootDevices.getLast? with
  | none =>
    have hnil : s.rootDevices = [] := List.getLast?_eq_none_iff.1 hlast
    rw [countedUp_nil hnil, updatedBootId_nil hnil, hagreed]
  | some last =>
    obtain ⟨hsame, hpos⟩ := heven.even last hlast c' hne hc'
    rw [hsame, updatedBootId, hlast]
    dsimp only
    rw [if_pos hpos]

theorem NotAhead.le_updated (hahead : NotAhead s c) : s.clientBootId c ≤ updatedBootId s := by
  unfold NotAhead at hahead
  unfold updatedBootId
  split
  · rename_i hlast
    rwa [hlast] at hahead
  · rename_i last hlast
    rw [hlast] at hahead
    dsimp only at hahead
    split
    · rename_i hpos
      rwa [if_pos hpos] at hahead
    · rename_i hpos
      rwa [if_neg hpos] at hahead

/-! ## The manager below -/

theorem ensureContext_frame (c : Context) (m : ManagerState) :
    (ensureContext c m).log = m.log ∧
      (ensureContext c m).synthesizedInternal = m.synthesizedInternal := by
  unfold ensureContext
  split <;> exact ⟨rfl, rfl⟩

/-- The class handlers log nothing. -/
theorem onContextAvailable_frame (c : Context) (m : ManagerState) :
    (onContextAvailable c m).2.log = m.log ∧
      (onContextAvailable c m).2.synthesizedInternal = m.synthesizedInternal := by
  unfold onContextAvailable
  split
  · exact ⟨rfl, rfl⟩
  · dsimp only
    split
    · exact ensureContext_frame c m
    · exact ensureContext_frame c m

theorem onContextUnavailable_frame (c : Context) (m : ManagerState) :
    (onContextUnavailable c m).2.log = m.log ∧
      (onContextUnavailable c m).2.synthesizedInternal = m.synthesizedInternal := by
  have hremove : ∀ m : ManagerState, (removeContext c m).log = m.log ∧
      (removeContext c m).synthesizedInternal = m.synthesizedInternal := by
    intro m
    unfold removeContext
    split <;> exact ⟨rfl, rfl⟩
  unfold onContextUnavailable
  split
  · exact ⟨rfl, rfl⟩
  · dsimp only
    split
    · exact hremove _
    · exact hremove _

theorem emitAvailable_log (c : Context) (m : ManagerState) :
    (emitAvailable c m).log =
      m.log ++ if (onContextAvailable c m).1 then [] else [(c, true)] := by
  have hlog := (onContextAvailable_frame c m).1
  unfold emitAvailable
  dsimp only
  split
  · rw [hlog, List.append_nil]
  · rw [hlog]

theorem emitAvailable_synthesized (c : Context) (m : ManagerState) :
    (emitAvailable c m).synthesizedInternal = m.synthesizedInternal := by
  have hsame := (onContextAvailable_frame c m).2
  unfold emitAvailable
  dsimp only
  split
  · exact hsame
  · exact hsame

theorem emitUnavailable_log (c : Context) (m : ManagerState) :
    (emitUnavailable c m).log =
      m.log ++ if (onContextUnavailable c m).1 then [] else [(c, false)] := by
  have hlog := (onContextUnavailable_frame c m).1
  unfold emitUnavailable
  dsimp only
  split
  · rw [hlog, List.append_nil]
  · rw [hlog]

theorem emitUnavailable_synthesized (c : Context) (m : ManagerState) :
    (emitUnavailable c m).synthesizedInternal = m.synthesizedInternal := by
  have hsame := (onContextUnavailable_frame c m).2
  unfold emitUnavailable
  dsimp only
  split
  · exact hsame
  · exact hsame

/-- What the end of root devices leaves alone. -/
structure SameIds (s t : BootState) : Prop where
  manager : t.manager = s.manager
  uda : t.uda10 = s.uda10
  bootId : t.bootId = s.bootId
  clientBootId : t.clientBootId = s.clientBootId
  contextOf : t.contextOf = s.contextOf
  objects : ∀ d ∈ t.objects, d ∈ s.objects

theorem sameIds_checkDevice (d : Nat) (s : BootState) : SameIds s (checkDevice d s) := by
  unfold checkDevice
  split
  · exact ⟨rfl, rfl, rfl, rfl, rfl, fun _ hd => hd⟩
  · exact ⟨rfl, rfl, rfl, rfl, rfl, fun _ hd => hd⟩

theorem SameIds.trans {u : BootState} (h : SameIds s t) (h' : SameIds t u) : SameIds s u :=
  ⟨h'.manager.trans h.manager, h'.uda.trans h.uda, h'.bootId.trans h.bootId,
    h'.clientBootId.trans h.clientBootId, h'.contextOf.trans h.contextOf,
    fun d hd => h.objects d (h'.objects d hd)⟩

theorem sameIds_foldl (ds : List Nat) (s : BootState) : SameIds s (ds.foldl unrefDevice s) := by
  induction ds generalizing s with
  | nil => exact ⟨rfl, rfl, rfl, rfl, rfl, fun _ hd => hd⟩
  | cons d ds ih =>
    have hone : SameIds s (unrefDevice s d) := by
      have hcheck := sameIds_checkDevice d { s with objects := s.objects.erase d }
      exact ⟨hcheck.manager, hcheck.uda, hcheck.bootId, hcheck.clientBootId, hcheck.contextOf,
        fun d' hd' => List.mem_of_mem_erase (hcheck.objects d' hd')⟩
    exact hone.trans (ih _)

/-- Nothing new carries devices. -/
theorem Carries.of_sameIds (h : SameIds s t) (hc : Carries t c) : Carries s c := by
  obtain ⟨hannounced, d, hd, hcontext⟩ := hc
  refine ⟨?_, d, h.objects d hd, by rw [← h.contextOf]; exact hcontext⟩
  unfold Announced at hannounced ⊢
  rwa [h.manager] at hannounced

theorem BootInv.of_sameIds (hinv : BootInv s) (h : SameIds s t) : BootInv t := by
  refine ⟨fun c hc => ?_, h.uda.trans hinv.uda, ?_, fun c => ?_, ?_⟩
  · rw [h.clientBootId, h.bootId]
    exact hinv.agreed c (hc.of_sameIds h)
  · rw [h.manager]
    exact hinv.notSynthesized
  · rw [h.clientBootId]
    exact hinv.range c
  · rw [h.bootId]
    exact hinv.bootId

/-! ## Steps -/

/-- Signals for another context say nothing about this one. -/
theorem announced_append_ne {c c' : Context} {b : Bool} {m : ManagerState} (hne : c' ≠ c) :
    (signalsOf c' (m.log ++ [(c, b)])).getLast? = (signalsOf c' m.log).getLast? := by
  rw [signalsOf_append, signalsOf_ne (Ne.symm hne), List.append_nil]

/-- A signal for another context makes this one carry no devices. -/
theorem Carries.of_signal {u : BootState} {c' : Context} {b : Bool}
    (hlog : u.manager.log = s.manager.log ++ [(c, b)]) (hobjects : u.objects = s.objects)
    (hcontext : u.contextOf = s.contextOf) (hne : c' ≠ c) (h : Carries u c') : Carries s c' := by
  obtain ⟨hannounced, d, hd, hd'⟩ := h
  refine ⟨?_, d, hobjects ▸ hd, hcontext ▸ hd'⟩
  rw [Announced, hlog, announced_append_ne hne] at hannounced
  exact hannounced

/-- A context that has gone carries none. -/
theorem not_carries_of_signal {u : BootState} {log : List (Context × Bool)}
    (hlog : u.manager.log = log ++ [(c, false)]) : ¬ Carries u c := by
  rintro ⟨hannounced, -⟩
  rw [Announced, hlog, signalsOf_append, signalsOf_self, List.getLast?_concat] at hannounced
  cases hannounced

theorem contextAvailable_spec (hinv : BootInv s) (hok : Even s (.contextAvailable c)) :
    BootInv (contextAvailable c s) ∧
      ∀ c', s.clientBootId c' ≤ (contextAvailable c s).clientBootId c' := by
  have hlog := emitAvailable_log c s.manager
  have hsynthesized := (emitAvailable_synthesized c s.manager).trans hinv.notSynthesized
  unfold contextAvailable
  dsimp only
  rw [hinv.notSynthesized, Bool.false_or]
  cases hstopped : (onContextAvailable c s.manager).1 with
  | true =>
    rw [hstopped] at hlog
    rw [if_pos rfl, List.append_nil] at hlog
    rw [if_pos rfl]
    refine ⟨⟨fun c' hc' => hinv.agreed c' ?_, hinv.uda, hsynthesized, hinv.range, hinv.bootId⟩,
      fun c' => Int.le_refl _⟩
    obtain ⟨hannounced, hd⟩ := hc'
    unfold Announced at hannounced
    rw [hlog] at hannounced
    exact ⟨hannounced, hd⟩
  | false =>
    rw [hstopped] at hlog
    obtain ⟨heven, hahead⟩ := hok hstopped
    let u : BootState := { s with manager := emitAvailable c s.manager }
    have hlog' : u.manager.log = s.manager.log ++ [(c, true)] := hlog
    have hcarries : ∀ c', c' ≠ c → Carries u c' → Carries s c' := fun c' hne hc' =>
      hc'.of_signal hlog' rfl rfl hne
    have heven' : CountsEvenly u c := ⟨heven.noOverflow, fun last hlast c' hne hc' =>
      heven.even last hlast c' hne (hcarries c' hne hc')⟩
    have hcounted : ∀ c, -2 ^ 31 ≤ countedUp u c ∧ countedUp u c < 2 ^ 31 :=
      countedUp_range hinv.range heven'.noOverflow
    have hbootId := updatedBootId_range hinv.bootId hcounted
    have hle : s.clientBootId c ≤ updatedBootId u := NotAhead.le_updated (s := u) hahead
    have hupdate : doBootIdUpdateForRootDevices { s with manager := emitAvailable c s.manager } =
        { u with clientBootId := countedUp u, bootId := updatedBootId u } :=
      doBootIdUpdate_eq hinv.uda hinv.range heven'.noOverflow
    simp only [Bool.false_eq_true, ↓reduceIte, hupdate, setBootId]
    refine ⟨⟨fun c' hc' => ?_, hinv.uda, hsynthesized, fun c' => ?_, hbootId⟩, fun c' => ?_⟩
    · dsimp only
      split
      · rfl
      · rename_i hne
        exact heven'.updated hne hc' (hinv.agreed c' (hcarries c' hne hc'))
    · dsimp only
      split
      · exact hbootId
      · exact hcounted c'
    · split
      · rename_i heq
        rw [heq]
        exact hle
      · exact le_countedUp u c'

theorem contextUnavailable_spec (hinv : BootInv s) (hok : Even s (.contextUnavailable c)) :
    BootInv (contextUnavailable c s) ∧
      ∀ c', s.clientBootId c' ≤ (contextUnavailable c s).clientBootId c' := by
  have hlog := emitUnavailable_log c s.manager
  have hsynthesized := (emitUnavailable_synthesized c s.manager).trans hinv.notSynthesized
  have hdrop : SameIds s (dropObjects c s) := sameIds_foldl _ s
  have hinv' := hinv.of_sameIds hdrop
  unfold contextUnavailable
  dsimp only
  rw [if_neg (by rw [hinv.notSynthesized]; decide), hdrop.manager]
  cases hstopped : (onContextUnavailable c s.manager).1 with
  | true =>
    rw [hstopped, if_pos rfl, List.append_nil] at hlog
    rw [if_pos rfl]
    refine ⟨⟨fun c' hc' => hinv'.agreed c' ?_, hinv'.uda, hsynthesized, hinv'.range, hinv'.bootId⟩,
      fun c' => Int.le_of_eq (congrFun hdrop.clientBootId c').symm⟩
    obtain ⟨hannounced, hd⟩ := hc'
    unfold Announced at hannounced
    rw [hlog] at hannounced
    refine ⟨?_, hd⟩
    rw [Announced, hdrop.manager]
    exact hannounced
  | false =>
    rw [hstopped] at hlog
    have heven : CountsEvenly (dropObjects c s) c := hok hstopped
    let u : BootState := { dropObjects c s with manager := emitUnavailable c s.manager }
    have hlog' : u.manager.log = (dropObjects c s).manager.log ++ [(c, false)] := by
      rw [hdrop.manager]
      exact hlog
    have hcarries : ∀ c', Carries u c' → c' ≠ c ∧ Carries (dropObjects c s) c' := by
      intro c' hc'
      have hne : c' ≠ c := by
        rintro rfl
        exact not_carries_of_signal hlog' hc'
      exact ⟨hne, hc'.of_signal hlog' rfl rfl hne⟩
    have heven' : CountsEvenly u c := ⟨heven.noOverflow, fun last hlast c' hne hc' =>
      heven.even last hlast c' hne (hcarries c' hc').2⟩
    have hcounted : ∀ c, -2 ^ 31 ≤ countedUp u c ∧ countedUp u c < 2 ^ 31 :=
      countedUp_range hinv'.range heven'.noOverflow
    have hupdate : doBootIdUpdateForRootDevices
        { dropObjects c s with manager := emitUnavailable c s.manager } =
        { u with clientBootId := countedUp u, bootId := updatedBootId u } :=
      doBootIdUpdate_eq hinv'.uda hinv'.range heven'.noOverflow
    simp only [Bool.false_eq_true, ↓reduceIte, hupdate]
    refine ⟨⟨fun c' hc' => ?_, hinv'.uda, hsynthesized, hcounted,
      updatedBootId_range hinv'.bootId hcounted⟩, fun c' => ?_⟩
    · obtain ⟨hne, hold⟩ := hcarries c' hc'
      exact heven'.updated hne hc' (hinv'.agreed c' hold)
    have hle := le_countedUp u c'
    have hsame : u.clientBootId c' = s.clientBootId c' := congrFun hdrop.clientBootId c'
    exact Int.le_trans (Int.le_of_eq hsame.symm) hle

theorem manageRootDevice_spec (hinv : BootInv s) (hok : Even s (.manageRootDevice d)) :
    BootInv (manageRootDevice d s) := by
  have hframe := ensureContext_frame (s.contextOf d) s.manager
  refine ⟨fun c hc => ?_, hinv.uda, hframe.2.trans hinv.notSynthesized, hinv.range, hinv.bootId⟩
  obtain ⟨hannounced, d', hd', hcontext⟩ := hc
  have hsaid : (signalsOf c (ensureContext (s.contextOf d) s.manager).log).getLast? = some true :=
    hannounced
  rw [hframe.1] at hsaid
  have hcontext : s.contextOf d' = c := hcontext
  rcases List.mem_append.1 hd' with hd' | hd'
  · exact hinv.agreed c ⟨hsaid, d', hd', hcontext⟩
  · rw [List.mem_singleton.1 hd'] at hcontext
    rw [← hcontext] at hsaid ⊢
    exact hok hsaid

/-- Every step that meets the condition keeps the agreement, and takes no context back. -/
theorem bootStep_spec (hinv : BootInv s) (hok : Even s e) (hstep : bootStep s e = some t) :
    BootInv t ∧ ∀ c, s.clientBootId c ≤ t.clientBootId c := by
  cases e with
  | contextAvailable c =>
    obtain rfl := Option.some.inj hstep
    exact contextAvailable_spec hinv hok
  | contextUnavailable c =>
    obtain rfl := Option.some.inj hstep
    exact contextUnavailable_spec hinv hok
  | manageRootDevice d =>
    obtain ⟨-, hstep⟩ := Option.ite_none_right_eq_some.1 hstep
    obtain rfl := Option.some.inj hstep
    exact ⟨manageRootDevice_spec hinv hok, fun c => Int.le_refl _⟩
  | releaseDevice d =>
    obtain ⟨-, hstep⟩ := Option.ite_none_right_eq_some.1 hstep
    obtain rfl := Option.some.inj hstep
    have hcheck := sameIds_checkDevice d
      { s with held := fun d' => if d' = d then false else s.held d' }
    have hsame : SameIds s (releaseDevice d s) := ⟨hcheck.manager, hcheck.uda, hcheck.bootId,
      hcheck.clientBootId, hcheck.contextOf, hcheck.objects⟩
    exact ⟨hinv.of_sameIds hsame, fun c => Int.le_of_eq (congrFun hsame.clientBootId c).symm⟩

/-- In a run whose steps meet the condition all networks have the boot-id of the manager, and none goes
back. -/
theorem boot_ids_agree (filter : ContextFilter) (now : Int) (clientBootId : Context → Int)
    (contextOf : Nat → Context) (hnow : -2 ^ 31 ≤ now ∧ now < 2 ^ 31)
    (hclients : ∀ c, -2 ^ 31 ≤ clientBootId c ∧ clientBootId c < 2 ^ 31)
    (h : Run bootStep Even (.init filter false now clientBootId contextOf) es s)
    (h' : Run bootStep Even s es' t) :
    Agreed t ∧ ∀ c, s.clientBootId c ≤ t.clientBootId c := by
  have hinit : BootInv (.init filter false now clientBootId contextOf) := by
    refine ⟨fun c hc => ?_, rfl, rfl, hclients, hnow⟩
    obtain ⟨-, d, hd, -⟩ := hc
    exact absurd hd List.not_mem_nil
  have hs : BootInv s :=
    h.inv BootInv (fun _ _ _ hinv hok hstep => (bootStep_spec hinv hok hstep).1) hinit
  have ht := h'.inv (fun u => BootInv u ∧ ∀ c, s.clientBootId c ≤ u.clientBootId c)
    (fun u e v hu hok hstep => ?_) ⟨hs, fun c => Int.le_refl _⟩
  · exact ⟨ht.1.agreed, ht.2⟩
  · obtain ⟨hv, hle⟩ := bootStep_spec hu.1 hok hstep
    exact ⟨hv, fun c => Int.le_trans (hu.2 c) (hle c)⟩

/-- Two networks. -/
def lan : Context := ⟨0, "eth0".toList, "10.0.0.1".toList, "lan".toList⟩

def wlan : Context := ⟨1, "wlan0".toList, "10.0.1.1".toList, "wlan".toList⟩

/-- Device 2 is on the second network. -/
def sampleContextOf (d : Nat) : Context := if d = 2 then wlan else lan

def sampleInit : BootState := .init .init false 1000 (fun _ => 0) sampleContextOf

theorem boot_ids_agree_sample : ∃ s t,
    Run bootStep Even sampleInit [.contextAvailable lan, .manageRootDevice 0] s ∧
    Run bootStep Even s [.contextAvailable wlan] t ∧ t.clientBootId lan = 1001 ∧
    Agreed t ∧ ∀ c, s.clientBootId c ≤ t.clientBootId c := by
  have hfirst : Even sampleInit (.contextAvailable lan) := by
    refine fun _ => ⟨⟨fun d hd => absurd hd List.not_mem_nil, fun last hlast => ?_⟩, ?_⟩
    · cases hlast
    · show (0 : Int) ≤ 1000
      decide
  have hmanage : Even (contextAvailable lan sampleInit) (.manageRootDevice 0) := fun _ => rfl
  have hsecond : Even (manageRootDevice 0 (contextAvailable lan sampleInit))
      (.contextAvailable wlan) := by
    have hcounted : countedUp (manageRootDevice 0 (contextAvailable lan sampleInit)) lan = 1001 := by
      decide
    refine fun _ => ⟨⟨fun d hd => ?_, fun last hlast c' _ hc' => ?_⟩, ?_⟩
    · obtain rfl : d = 0 := List.mem_singleton.1 hd
      show countedUp _ lan < 2 ^ 31
      rw [hcounted]
      decide
    · obtain rfl : 0 = last := Option.some.inj hlast
      obtain ⟨-, d, hd, hcontext⟩ := hc'
      obtain rfl : d = 0 := List.mem_singleton.1 hd
      subst hcontext
      show countedUp _ lan = countedUp _ lan ∧ 1 < countedUp _ lan
      rw [hcounted]
      decide
    · show NotAhead _ wlan
      have hahead : (if 1 < countedUp (manageRootDevice 0 (contextAvailable lan sampleInit)) lan then
          (0 : Int) ≤ countedUp (manageRootDevice 0 (contextAvailable lan sampleInit)) lan
          else (0 : Int) ≤ 1000) := by
        rw [hcounted]
        decide
      exact hahead
  have hrun : Run bootStep Even sampleInit [.contextAvailable lan, .manageRootDevice 0]
      (manageRootDevice 0 (contextAvailable lan sampleInit)) :=
    .cons hfirst rfl (.single hmanage rfl)
  have hrun' : Run bootStep Even (manageRootDevice 0 (contextAvailable lan sampleInit))
      [.contextAvailable wlan] _ := .single hsecond rfl
  exact ⟨_, _, hrun, hrun', by decide, boot_ids_agree .init 1000 (fun _ => 0) sampleContextOf
    (by decide) (fun _ => by decide) hrun hrun'⟩

/-- With two devices on one network and one on the other, the arrival of the first network again leaves
them with different boot-ids; and a client whose boot-id is ahead of the manager's is set back. -/
theorem boot_ids_differ :
    (∃ es t, Run bootStep AnyStep sampleInit es t ∧ ¬ Agreed t) ∧
    ∃ es s t c, Run bootStep AnyStep (.init .init false 1000 (fun _ => 2000) sampleContextOf) [] s ∧
      Run bootStep AnyStep s es t ∧ t.clientBootId c < s.clientBootId c := by
  constructor
  · let es : List BootEvent := [.contextAvailable lan, .manageRootDevice 0, .manageRootDevice 1,
      .contextAvailable wlan, .manageRootDevice 2, .contextAvailable ⟨2, [], [], []⟩]
    have hlast : (es.foldlM bootStep sampleInit).map (fun t => (signalsOf lan t.manager.log, t.objects,
        t.contextOf 0, t.clientBootId lan, t.bootId)) = some ([true], [0, 1, 2], lan, 1004, 1003) := by
      decide +kernel
    obtain ⟨t, hrun, hend⟩ := Run.exists_of_foldlM hlast
    simp only [Prod.mk.injEq] at hend
    obtain ⟨hlog, hobjects, hcontext, hlan, hmanager⟩ := hend
    refine ⟨es, t, hrun, fun hagreed => ?_⟩
    have hsame := hagreed lan ⟨by rw [Announced, hlog]; rfl, 0, by rw [hobjects]; decide, hcontext⟩
    rw [hlan, hmanager] at hsame
    exact absurd hsame (by decide)
  · refine ⟨[.contextAvailable lan], _, _, lan, .nil, .single trivial rfl, ?_⟩
    decide

end GUPnP.ContextManager
