import GUPnP.Base.After
import GUPnP.Base.Run
import GUPnP.ServiceProxy.Notify
import Mathlib.Data.List.Sort

/-!
# Callbacks that change the callbacks

`next_emit` is the first callback with a number after that of the callback that runs, whatever was
added and removed meanwhile (`Good.emission`), since new callbacks have higher numbers. So an emission
calls what was there when it started, in that order, as long as its record stays: `callbacks_iff` says
that it does as long as no callback removes the last callback of the variable that is being emitted,
with which `gupnp_service_proxy_remove_notify` frees the record.
-/

set_option autoImplicit false

namespace GUPnP.ServiceProxy.Notify

variable {s t : ProxyState} {e : Emission} {es : List Event} {links : List Nat} {n : Nat}

/-! ## What an emission should do -/

def Entry.called? : Entry → Option Nat
  | .called id => some id
  | .removed _ => none

def Entry.removed? : Entry → Option Nat
  | .called _ => none
  | .removed id => some id

def Emission.called (e : Emission) : List Nat := e.trace.filterMap Entry.called?

def Emission.removed (e : Emission) : List Nat := e.trace.filterMap Entry.removed?

/-- What was there at the start was called or removed. -/
def Emission.Complete (e : Emission) : Prop := ∀ id ∈ e.originals, id ∈ e.called ∨ id ∈ e.removed

/-- What was there at the start is called once at most and in order, nothing is called after it was
removed, and after as many calls as there were callbacks none is left out. -/
structure Emission.Sound (e : Emission) : Prop where
  nodup : e.originals.Nodup
  once : (e.called.filter (· ∈ e.originals)).Sublist e.originals
  notRemoved : e.trace.Pairwise fun a b => ∀ id, a = .removed id → b ≠ .called id
  soon : e.originals.length ≤ e.called.length → e.Complete

/-- The emissions do what they should, and the record of the running one is there for its loop to go
on. -/
def Kept (s : ProxyState) : Prop :=
  (∀ e, s.emission = some e → e.Sound ∧ (s.emitted e).isSome = true) ∧
    (∀ e ∈ s.finished, e.Sound ∧ e.Complete) ∧ s.undefined = false

/-- The step does not remove the last callback of the variable that is being emitted. -/
def KeepsLast (s : ProxyState) : Event → Prop
  | .removeNotify varName callback =>
    ∀ e data, s.emission = some e → s.emitted e = some data → e.varName = varName →
      data.callbacks.map (·.callback) ≠ [callback]
  | _ => True

/-! ## A running emission -/

/-- An emission that has called `current`, where `links` are the callbacks there are. -/
structure Running (e : Emission) (links : List Nat) (nextId : Nat) : Prop where
  originals : e.originals.Pairwise (· < ·)
  called : e.called.Pairwise (· < ·)
  last : e.current ∈ e.called ∧ ∀ id ∈ e.called, id ≤ e.current
  covered : ∀ id ∈ e.originals, id ∈ e.called ∨ id ∈ e.removed ∨ (e.current < id ∧ id ∈ links)
  gone : ∀ id ∈ e.removed, id ∉ links
  notRemoved : e.trace.Pairwise fun a b => ∀ id, a = .removed id → b ≠ .called id
  newer : ∀ id, id ∈ links ∨ id ∈ e.called → id ∈ e.originals ∨ ∀ o ∈ e.originals, o < id
  bound : ∀ id, id ∈ e.originals ∨ id ∈ e.removed ∨ id ∈ e.called → id < nextId

theorem pairwise_filter_sublist {a b : List Nat} (ha : a.Pairwise (· < ·)) (hb : b.Pairwise (· < ·)) :
    (a.filter (· ∈ b)).Sublist b := by
  have hnodup : (a.filter (· ∈ b)).Nodup := (ha.filter _).imp fun hlt => Nat.ne_of_lt hlt
  refine List.sublist_of_subperm_of_pairwise (List.subperm_of_subset hnodup fun x hx => ?_)
    (ha.filter _) hb
  simpa using (List.mem_filter.1 hx).2

theorem Running.sound (h : Running e links n) : e.Sound := by
  refine ⟨h.originals.imp (fun hlt => Nat.ne_of_lt hlt), pairwise_filter_sublist h.called h.originals,
    h.notRemoved, fun hlength => ?_⟩
  by_contra hnot
  obtain ⟨id, hid, hleft⟩ : ∃ id ∈ e.originals, ¬ (id ∈ e.called ∨ id ∈ e.removed) := by
    simpa [Emission.Complete] using hnot
  rw [not_or] at hleft
  obtain hcalled | hremoved | ⟨hlt, -⟩ := h.covered id hid
  · exact hleft.1 hcalled
  · exact hleft.2 hremoved
  -- All that was called stood before it, so that it is one call short.
  have hsub : (id :: e.called).Subperm e.originals := by
    refine List.subperm_of_subset (List.nodup_cons.2
      ⟨hleft.1, h.called.imp fun hlt => Nat.ne_of_lt hlt⟩) ?_
    intro x hx
    rcases List.mem_cons.1 hx with rfl | hx
    · exact hid
    · rcases h.newer x (.inr hx) with hx' | hx'
      · exact hx'
      · have := hx' id hid
        have := h.last.2 x hx
        omega
  have := hsub.length_le
  simp only [List.length_cons] at this
  omega

theorem Running.complete (h : Running e links n) (hend : firstAfter e.current links = none) :
    e.Complete := by
  intro id hid
  obtain hcalled | hremoved | ⟨hlt, hlink⟩ := h.covered id hid
  · exact .inl hcalled
  · exact .inr hremoved
  · exact absurd (firstAfter_eq_none_iff.1 hend id hlink) (Nat.not_le.2 hlt)

@[simp] theorem called_append (e : Emission) (entries : List Entry) :
    ({ e with trace := e.trace ++ entries } : Emission).called =
      e.called ++ entries.filterMap Entry.called? := List.filterMap_append

@[simp] theorem removed_append (e : Emission) (entries : List Entry) :
    ({ e with trace := e.trace ++ entries } : Emission).removed =
      e.removed ++ entries.filterMap Entry.removed? := List.filterMap_append

theorem mem_removed {id : Nat} : id ∈ e.removed ↔ .removed id ∈ e.trace := by
  simp only [Emission.removed, List.mem_filterMap]
  constructor
  · rintro ⟨entry, hmem, hentry⟩
    cases entry with
    | called => simp [Entry.removed?] at hentry
    | removed id' =>
      obtain rfl : id' = id := by simpa [Entry.removed?] using hentry
      exact hmem
  · exact fun h => ⟨_, h, rfl⟩

/-- The first callback is called. -/
theorem running_start {varName : Str} {data l : Nat} (hlinks : links.Pairwise (· < ·))
    (hl : links.head? = some l) (hbound : ∀ id ∈ links, id < n) :
    Running ⟨varName, data, l, links, [.called l]⟩ links n := by
  obtain ⟨rest, rfl⟩ := List.head?_eq_some_iff.1 hl
  have hcons := List.pairwise_cons.1 hlinks
  refine ⟨hlinks, ?_, ?_, fun id hid => ?_, ?_, ?_, fun id hid => ?_, fun id hid => ?_⟩
  · simp [Emission.called, Entry.called?]
  · simp [Emission.called, Entry.called?]
  · rcases List.mem_cons.1 hid with rfl | hrest
    · exact .inl (by simp [Emission.called, Entry.called?])
    · exact .inr (.inr ⟨hcons.1 id hrest, hid⟩)
  · simp [Emission.removed, Entry.removed?]
  · simp
  · rcases hid with hid | hid
    · exact .inl hid
    · obtain rfl : id = l := by simpa [Emission.called, Entry.called?] using hid
      exact .inl List.mem_cons_self
  · rcases hid with hid | hid | hid
    · exact hbound id hid
    · simp [Emission.removed, Entry.removed?] at hid
    · obtain rfl : id = l := by simpa [Emission.called, Entry.called?] using hid
      exact hbound id List.mem_cons_self

/-- The next callback is called. -/
theorem Running.call (h : Running e links n) {l : Nat} (hlinks : links.Pairwise (· < ·))
    (hl : firstAfter e.current links = some l) (hbound : ∀ id ∈ links, id < n) :
    Running { e with current := l, trace := e.trace ++ [.called l] } links n := by
  obtain ⟨hmem, hlt, hleast⟩ := (firstAfter_eq_some_iff hlinks).1 hl
  have hcalled : ({ e with current := l, trace := e.trace ++ [.called l] } : Emission).called =
      e.called ++ [l] := called_append e [.called l]
  have hremoved : ({ e with current := l, trace := e.trace ++ [.called l] } : Emission).removed =
      e.removed := (removed_append e [.called l]).trans (List.append_nil _)
  refine ⟨h.originals, ?_, ?_, fun id hid => ?_, ?_, ?_, fun id hid => ?_, fun id hid => ?_⟩
  · rw [hcalled, List.pairwise_append]
    refine ⟨h.called, List.pairwise_singleton _ l, fun a ha b hb => ?_⟩
    have := h.last.2 a ha
    simp only [List.mem_singleton] at hb
    omega
  · rw [hcalled]
    refine ⟨by simp, fun id hid => ?_⟩
    show id ≤ l
    rcases List.mem_append.1 hid with hid | hid
    · have := h.last.2 id hid
      omega
    · exact Nat.le_of_eq (List.mem_singleton.1 hid)
  · rw [hcalled, hremoved]
    rcases h.covered id hid with hc | hr | ⟨hgt, hlink⟩
    · exact .inl (List.mem_append_left _ hc)
    · exact .inr (.inl hr)
    · by_cases hid' : id = l
      · exact .inl (by simp [hid'])
      · have := hleast id hlink hgt
        exact .inr (.inr ⟨show l < id by omega, hlink⟩)
  · rw [hremoved]
    exact h.gone
  · rw [List.pairwise_append]
    refine ⟨h.notRemoved, List.pairwise_singleton _ _, fun a ha b hb id hid hb' => ?_⟩
    rw [List.mem_singleton.1 hb] at hb'
    obtain rfl : l = id := by simpa using hb'
    exact h.gone l (mem_removed.2 (hid ▸ ha)) hmem
  · rw [hcalled] at hid
    rcases hid with hid | hid
    · exact h.newer id (.inl hid)
    · rcases List.mem_append.1 hid with hid | hid
      · exact h.newer id (.inr hid)
      · rw [List.mem_singleton.1 hid]
        exact h.newer l (.inl hmem)
  · rw [hcalled, hremoved] at hid
    rcases hid with hid | hid | hid
    · exact h.bound id (.inl hid)
    · exact h.bound id (.inr (.inl hid))
    · rcases List.mem_append.1 hid with hid | hid
      · exact h.bound id (.inr (.inr hid))
      · rw [List.mem_singleton.1 hid]
        exact hbound l hmem

/-- A callback comes. -/
theorem Running.add (h : Running e links n) {m : Nat} (hm : n ≤ m) :
    Running e (links ++ [m]) (m + 1) := by
  refine ⟨h.originals, h.called, h.last, fun id hid => ?_, fun id hid hlink => ?_, h.notRemoved,
    fun id hid => ?_, fun id hid => ?_⟩
  · rcases h.covered id hid with hc | hr | ⟨hgt, hlink⟩
    · exact .inl hc
    · exact .inr (.inl hr)
    · exact .inr (.inr ⟨hgt, List.mem_append_left _ hlink⟩)
  · have := h.bound id (.inr (.inl hid))
    rcases List.mem_append.1 hlink with hlink | hlink
    · exact h.gone id hid hlink
    · have := List.mem_singleton.1 hlink
      omega
  · rcases hid with hid | hid
    · rcases List.mem_append.1 hid with hid | hid
      · exact h.newer id (.inl hid)
      · refine .inr fun o ho => ?_
        have := h.bound o (.inl ho)
        have := List.mem_singleton.1 hid
        omega
    · exact h.newer id (.inr hid)
  · have := h.bound id hid
    omega

/-- A callback goes. -/
theorem Running.remove (h : Running e links n) {l : Nat} (hl : l < n) :
    Running { e with trace := e.trace ++ [.removed l] } (links.filter (· ≠ l)) n := by
  have hcalled : ({ e with trace := e.trace ++ [.removed l] } : Emission).called = e.called :=
    (called_append e [.removed l]).trans (List.append_nil _)
  have hremoved : ({ e with trace := e.trace ++ [.removed l] } : Emission).removed =
      e.removed ++ [l] := removed_append e [.removed l]
  refine ⟨h.originals, ?_, ?_, fun id hid => ?_, fun id hid hlink => ?_, ?_, fun id hid => ?_,
    fun id hid => ?_⟩
  · rw [hcalled]
    exact h.called
  · rw [hcalled]
    exact h.last
  · rw [hcalled, hremoved]
    rcases h.covered id hid with hc | hr | ⟨hgt, hlink⟩
    · exact .inl hc
    · exact .inr (.inl (List.mem_append_left _ hr))
    · by_cases hid' : id = l
      · exact .inr (.inl (by simp [hid']))
      · exact .inr (.inr ⟨hgt, List.mem_filter.2 ⟨hlink, by simpa using hid'⟩⟩)
  · obtain ⟨hlink, hne⟩ := List.mem_filter.1 hlink
    rw [hremoved] at hid
    rcases List.mem_append.1 hid with hid | hid
    · exact h.gone id hid hlink
    · simp [List.mem_singleton.1 hid] at hne
  · rw [List.pairwise_append]
    refine ⟨h.notRemoved, List.pairwise_singleton _ _, fun a _ b hb id _ hb' => ?_⟩
    rw [List.mem_singleton.1 hb] at hb'
    cases hb'
  · rw [hcalled] at hid
    exact h.newer id (hid.imp_left fun hid => (List.mem_filter.1 hid).1)
  · rw [hcalled, hremoved] at hid
    rcases hid with hid | hid | hid
    · exact h.bound id (.inl hid)
    · rcases List.mem_append.1 hid with hid | hid
      · exact h.bound id (.inr (.inl hid))
      · rw [List.mem_singleton.1 hid]
        exact hl
    · exact h.bound id (.inr (.inr hid))

/-! ## The records -/

structure GoodRecord (data : NotifyData) (nextId : Nat) : Prop where
  nonempty : data.callbacks ≠ []
  sorted : (ids data.callbacks).Pairwise (· < ·)
  links : ∀ id ∈ ids data.callbacks, id < nextId
  id : data.id < nextId

/-- The records of a table have different numbers. -/
structure GoodTable (hash : Table Str NotifyData) (nextId : Nat) : Prop where
  records : ∀ varName data, hash.lookup varName = some data → GoodRecord data nextId
  distinct : ∀ varName varName' data data', hash.lookup varName = some data →
    hash.lookup varName' = some data' → data.id = data'.id → varName = varName'

theorem GoodRecord.mono {data : NotifyData} {m : Nat} (h : GoodRecord data n) (hm : n ≤ m) :
    GoodRecord data m :=
  ⟨h.nonempty, h.sorted, fun id hid => Nat.lt_of_lt_of_le (h.links id hid) hm,
    Nat.lt_of_lt_of_le h.id hm⟩

/-- A record comes or changes. -/
theorem GoodTable.insert {hash : Table Str NotifyData} {varName : Str} {data : NotifyData} {m : Nat}
    (h : GoodTable hash n) (hm : n ≤ m) (hdata : GoodRecord data m)
    (hid : ∀ varName' data', hash.lookup varName' = some data' → data'.id = data.id →
      varName' = varName) : GoodTable (hash.insert varName data) m := by
  refine ⟨fun v d hv => ?_, fun v v' d d' hv hv' he => ?_⟩
  · by_cases hvar : v = varName
    · rw [hvar, AList.lookup_insert] at hv
      exact Option.some.inj hv ▸ hdata
    · rw [AList.lookup_insert_ne hvar] at hv
      exact (h.records v d hv).mono hm
  · by_cases hvar : v = varName <;> by_cases hvar' : v' = varName
    · rw [hvar, hvar']
    · rw [hvar, AList.lookup_insert] at hv
      rw [AList.lookup_insert_ne hvar'] at hv'
      rw [hvar, hid v' d' hv' (by rw [← he, ← Option.some.inj hv])]
    · rw [AList.lookup_insert_ne hvar] at hv
      rw [hvar', AList.lookup_insert] at hv'
      rw [hvar', hid v d hv (by rw [he, ← Option.some.inj hv'])]
    · rw [AList.lookup_insert_ne hvar] at hv
      rw [AList.lookup_insert_ne hvar'] at hv'
      exact h.distinct v v' d d' hv hv' he

theorem GoodTable.erase {hash : Table Str NotifyData} (h : GoodTable hash n) (varName : Str) :
    GoodTable (hash.erase varName) n := by
  have hlookup : ∀ v d, (hash.erase varName).lookup v = some d → hash.lookup v = some d := by
    intro v d hv
    by_cases hvar : v = varName
    · rw [hvar, AList.lookup_erase] at hv
      cases hv
    · rwa [AList.lookup_erase_ne hvar] at hv
  exact ⟨fun v d hv => h.records v d (hlookup v d hv),
    fun v v' d d' hv hv' => h.distinct v v' d d' (hlookup v d hv) (hlookup v' d' hv')⟩

theorem nextOf_eq {callbacks : List NotifyCallbackData} {l : Nat}
    (hsorted : (ids callbacks).Pairwise (· < ·)) (hl : l ∈ ids callbacks) :
    nextOf callbacks l = firstAfter l (ids callbacks) := by
  obtain ⟨before, after, hsplit⟩ := List.append_of_mem hl
  have hnot : ∀ x ∈ before, x ≠ l := by
    rw [hsplit] at hsorted
    intro x hx
    exact Nat.ne_of_lt ((List.pairwise_append.1 hsorted).2.2 x hx l List.mem_cons_self)
  rw [nextOf, hsplit, firstAfter_eq_next (hsplit ▸ hsorted),
    List.dropWhile_append_of_pos (by simpa using hnot), List.dropWhile_cons_of_neg (by simp),
    List.getElem?_cons_succ, List.head?_eq_getElem?]

theorem emitted_eq_some_iff {data : NotifyData} :
    s.emitted e = some data ↔ s.notifyHash.lookup e.varName = some data ∧ data.id = e.data := by
  simp [ProxyState.emitted, Option.filter_eq_some_iff]

/-! ## The invariant -/

structure Good (s : ProxyState) : Prop where
  table : GoodTable s.notifyHash s.nextId
  running : ∀ e, s.emission = some e → ∃ data, s.emitted e = some data ∧
    Running e (ids data.callbacks) s.nextId ∧
    data.nextEmit = firstAfter e.current (ids data.callbacks)
  finished : ∀ e ∈ s.finished, e.Sound ∧ e.Complete
  defined : s.undefined = false

theorem good_init : Good .init where
  table := ⟨fun _ _ h => by simp [ProxyState.init] at h,
    fun _ _ _ _ h => by simp [ProxyState.init] at h⟩
  running _ h := by simp [ProxyState.init] at h
  finished _ h := by simp [ProxyState.init] at h
  defined := rfl

theorem Good.kept (hg : Good s) : Kept s := by
  refine ⟨fun e he => ?_, hg.finished, hg.defined⟩
  obtain ⟨data, hdata, hrun, -⟩ := hg.running e he
  exact ⟨hrun.sound, by rw [hdata]; rfl⟩

/-- A callback is called: the emission `e` has just come to it. -/
theorem Good.called (hg : Good s) {data : NotifyData} (hdata : s.emitted e = some data)
    (hrun : Running e (ids data.callbacks) s.nextId) (hl : e.current ∈ ids data.callbacks) :
    Good { s with
      notifyHash := s.notifyHash.insert e.varName
        { data with nextEmit := nextOf data.callbacks e.current }
      emission := some e } := by
  obtain ⟨hlookup, hid⟩ := emitted_eq_some_iff.1 hdata
  have hrecord := hg.table.records e.varName data hlookup
  refine ⟨hg.table.insert (Nat.le_refl _) ⟨hrecord.nonempty, hrecord.sorted, hrecord.links, hrecord.id⟩
    fun v d hv he => hg.table.distinct v e.varName d data hv hlookup he, ?_, hg.finished, hg.defined⟩
  rintro _ ⟨⟩
  exact ⟨_, emitted_eq_some_iff.2 ⟨AList.lookup_insert _, hid⟩, hrun, nextOf_eq hrecord.sorted hl⟩

theorem good_emitNotification (hg : Good s) (varName : Str) (valueSet : Bool) :
    Good (emitNotification varName valueSet s) := by
  unfold emitNotification
  split
  · exact hg
  rename_i data hlookup
  split
  · have hrecord := hg.table.records varName data hlookup
    cases hl : (ids data.callbacks).head? with
    | none =>
      rw [List.head?_eq_none_iff, ids, List.map_eq_nil_iff] at hl
      exact absurd hl hrecord.nonempty
    | some l =>
      have hmem : l ∈ ids data.callbacks := List.mem_of_head? hl
      simp only [emitAt, if_pos hmem]
      exact hg.called (emitted_eq_some_iff.2 ⟨hlookup, rfl⟩)
        (running_start hrecord.sorted hl hrecord.links) hmem
  · exact hg

theorem good_returned (hg : Good s) (he : s.emission = some e) : Good (returned e s) := by
  obtain ⟨data, hdata, hrun, hnext⟩ := hg.running e he
  have hrecord := hg.table.records e.varName data (emitted_eq_some_iff.1 hdata).1
  unfold returned
  simp only [hdata, hnext]
  cases hl : firstAfter e.current (ids data.callbacks) with
  | none =>
    refine ⟨hg.table, fun _ h => (by cases h), fun e' he' => ?_, hg.defined⟩
    rcases List.mem_append.1 he' with he' | he'
    · exact hg.finished e' he'
    · rw [List.mem_singleton.1 he']
      exact ⟨hrun.sound, hrun.complete hl⟩
  | some l =>
    have hmem := (mem_of_firstAfter hl).1
    simp only [emitAt, if_pos hmem]
    have hcall := hrun.call hrecord.sorted hl hrecord.links
    exact Good.called (e := { e with current := l, trace := e.trace ++ [.called l] })
      hg hdata hcall hmem

theorem ids_append (callbacks : List NotifyCallbackData) (id callback : Nat) :
    ids (callbacks ++ [⟨id, callback⟩]) = ids callbacks ++ [id] := by
  simp [ids]

theorem ids_filter (callbacks : List NotifyCallbackData) (id : Nat) :
    ids (callbacks.filter (·.id ≠ id)) = (ids callbacks).filter (· ≠ id) := by
  rw [ids, ids, List.filter_map]
  rfl

/-- A callback at the end of a record. -/
theorem goodRecord_append {data : NotifyData} {callback : Nat} {nextEmit : Option Nat}
    (hsorted : (ids data.callbacks).Pairwise (· < ·)) (hlinks : ∀ id ∈ ids data.callbacks, id < n)
    (hid : data.id ≤ n) :
    GoodRecord { data with
      callbacks := data.callbacks ++ [⟨n + 1, callback⟩], nextEmit := nextEmit } (n + 2) := by
  refine ⟨by simp, ?_, fun id hmem => ?_, ?_⟩
  · show (ids (data.callbacks ++ _)).Pairwise _
    rw [ids_append, List.pairwise_append]
    refine ⟨hsorted, List.pairwise_singleton _ _, fun a ha b hb => ?_⟩
    have := hlinks a ha
    have := List.mem_singleton.1 hb
    omega
  · change id ∈ ids (data.callbacks ++ _) at hmem
    rw [ids_append] at hmem
    rcases List.mem_append.1 hmem with hmem | hmem
    · have := hlinks id hmem
      omega
    · have := List.mem_singleton.1 hmem
      omega
  · show data.id < n + 2
    omega

/-- The place stays the first after the callback that runs. -/
theorem nextEmit_append {data : NotifyData} {current id callback : Nat}
    (hnext : data.nextEmit = firstAfter current (ids data.callbacks)) (hlt : current < id) :
    (if data.nextEmit = none then (ids (data.callbacks ++ [⟨id, callback⟩])).getLast?
      else data.nextEmit) = firstAfter current (ids (data.callbacks ++ [⟨id, callback⟩])) := by
  rw [hnext, ids_append, firstAfter_append hlt, List.getLast?_concat]
  cases firstAfter current (ids data.callbacks) <;> rfl

theorem recordFor_cases {varName type : Str} {data : NotifyData}
    (h : s.recordFor varName type = some data) :
    s.notifyHash.lookup varName = some data ∨
      s.notifyHash.lookup varName = none ∧ data = ⟨s.nextId, type, [], none⟩ := by
  unfold ProxyState.recordFor at h
  split at h
  · rename_i hlookup
    exact .inr ⟨hlookup, (Option.some.inj h).symm⟩
  · rename_i hlookup
    split at h
    · cases h
    · exact .inl (h ▸ hlookup)

/-- A record that is there, or a new one. -/
theorem recordFor_good (hg : Good s) {varName type : Str} {data : NotifyData}
    (h : s.recordFor varName type = some data) :
    (ids data.callbacks).Pairwise (· < ·) ∧ (∀ id ∈ ids data.callbacks, id < s.nextId) ∧
      data.id ≤ s.nextId ∧
      ∀ v d, s.notifyHash.lookup v = some d → d.id = data.id → v = varName := by
  rcases recordFor_cases h with hlookup | ⟨-, rfl⟩
  · have hrecord := hg.table.records varName data hlookup
    exact ⟨hrecord.sorted, hrecord.links, hrecord.id.le,
      fun v d hv he => hg.table.distinct v varName d data hv hlookup he⟩
  · refine ⟨.nil, fun id hid => (by cases hid), Nat.le_refl _, fun v d hv he => ?_⟩
    have := (hg.table.records v d hv).id
    exact absurd he (Nat.ne_of_lt this)

theorem good_addNotifyFull (hg : Good s) (varName type : Str) (callback : Nat) :
    Good (addNotifyFull varName type callback s).2 := by
  unfold addNotifyFull
  split
  · exact hg
  rename_i data hdata
  simp only
  obtain ⟨hsorted, hlinks, hid, hdistinct⟩ := recordFor_good hg hdata
  refine ⟨hg.table.insert (Nat.le_add_right s.nextId 2)
    (goodRecord_append hsorted hlinks hid) hdistinct,
    fun e he => ?_, hg.finished, hg.defined⟩
  obtain ⟨d, hd, hrun, hnext⟩ := hg.running e he
  obtain ⟨hv, hide⟩ := emitted_eq_some_iff.1 hd
  have hrun' := hrun.add (Nat.le_succ s.nextId)
  by_cases hvar : e.varName = varName
  · subst hvar
    have hsame : data = d := by
      rcases recordFor_cases hdata with hlookup | ⟨hnone, -⟩
      · exact Option.some.inj (hlookup.symm.trans hv)
      · rw [hv] at hnone
        cases hnone
    subst hsame
    have hlt : e.current < s.nextId + 1 := by
      have := hrun.bound e.current (.inr (.inr hrun.last.1))
      omega
    refine ⟨_, emitted_eq_some_iff.2 ⟨AList.lookup_insert _, hide⟩, ?_, nextEmit_append hnext hlt⟩
    show Running e (ids (data.callbacks ++ _)) _
    rw [ids_append]
    exact hrun'
  · refine ⟨d, emitted_eq_some_iff.2 ⟨?_, hide⟩, ?_, hnext⟩
    · rw [← hv]
      exact AList.lookup_insert_ne hvar
    · exact ⟨hrun.originals, hrun.called, hrun.last, hrun.covered, hrun.gone, hrun.notRemoved,
        hrun.newer, hrun'.bound⟩

/-! ## Removals -/

/-- The running emission after a callback of a record is gone: unless the record is its own, the
same. -/
theorem emission_recordRemoval {data id : Nat} {e' : Emission}
    (h : (s.recordRemoval data id).emission = some e') : ∃ e, s.emission = some e ∧
      e' = if e.data = data then { e with trace := e.trace ++ [.removed id] } else e := by
  obtain ⟨e, he, rfl⟩ := Option.map_eq_some_iff.1 h
  exact ⟨e, he, rfl⟩

theorem goodRecord_filter {data : NotifyData} {id : Nat} {nextEmit : Option Nat}
    (h : GoodRecord data n) (hne : data.callbacks.filter (·.id ≠ id) ≠ []) :
    GoodRecord
      { data with callbacks := data.callbacks.filter (·.id ≠ id), nextEmit := nextEmit } n := by
  refine ⟨hne, ?_, fun i hi => ?_, h.id⟩
  · show (ids (data.callbacks.filter _)).Pairwise _
    rw [ids_filter]
    exact h.sorted.filter _
  · change i ∈ ids (data.callbacks.filter _) at hi
    rw [ids_filter] at hi
    exact h.links i (List.mem_filter.1 hi).1

/-- The last callback of a record. -/
theorem callbacks_of_filter_eq_nil {data : NotifyData} {l : NotifyCallbackData}
    (h : GoodRecord data n) (hmem : l ∈ data.callbacks)
    (hnil : data.callbacks.filter (·.id ≠ l.id) = []) : data.callbacks = [l] := by
  have hnodup : (data.callbacks.map (·.id)).Nodup := h.sorted.imp fun hlt => Nat.ne_of_lt hlt
  have hall : ∀ x ∈ data.callbacks, x = l := by
    intro x hx
    have hid : x.id = l.id := by simpa using List.filter_eq_nil_iff.1 hnil x hx
    exact List.inj_on_of_nodup_map hnodup hx hmem hid
  have hone := List.eq_replicate_iff.2 ⟨rfl, hall⟩
  have hlength : data.callbacks.length ≤ 1 := by
    rw [hone] at hnodup
    by_contra hlong
    obtain ⟨k, hk⟩ : ∃ k, data.callbacks.length = k + 2 := ⟨data.callbacks.length - 2, by omega⟩
    simp [hk, List.replicate_succ] at hnodup
  have hpos := List.length_pos_iff.2 h.nonempty
  rw [hone, show data.callbacks.length = 1 by omega]
  rfl

/-- An emission of another record is of another variable. -/
theorem varName_ne_of_emitted {varName : Str} {data d : NotifyData}
    (hlookup : s.notifyHash.lookup varName = some data) (hd : s.emitted e = some d)
    (hne : e.data ≠ data.id) : e.varName ≠ varName := by
  rintro rfl
  obtain ⟨hv, hid⟩ := emitted_eq_some_iff.1 hd
  obtain rfl := Option.some.inj (hlookup.symm.trans hv)
  exact hne hid.symm

/-- An emission of this record is of its variable. -/
theorem Good.eq_of_emitted (hg : Good s) {varName : Str} {data d : NotifyData}
    (hlookup : s.notifyHash.lookup varName = some data) (hd : s.emitted e = some d)
    (he : e.data = data.id) : e.varName = varName ∧ d = data := by
  obtain ⟨hv, hid⟩ := emitted_eq_some_iff.1 hd
  have hvar := hg.table.distinct e.varName varName d data hv hlookup (hid.trans he)
  exact ⟨hvar, Option.some.inj ((hvar ▸ hv).symm.trans hlookup)⟩

/-- A record that no emission runs for goes with its last callback. -/
theorem good_lastRemoved (hg : Good s) {varName : Str} {data : NotifyData} (id : Nat)
    (hlookup : s.notifyHash.lookup varName = some data)
    (hidle : ∀ e, s.emission = some e → e.data ≠ data.id) :
    Good { s.recordRemoval data.id id with notifyHash := s.notifyHash.erase varName } := by
  refine ⟨hg.table.erase varName, fun e' he' => ?_, hg.finished, hg.defined⟩
  obtain ⟨e, he, rfl⟩ := emission_recordRemoval he'
  obtain ⟨d, hd, hrun, hnext⟩ := hg.running e he
  obtain ⟨hv, hid⟩ := emitted_eq_some_iff.1 hd
  rw [if_neg (hidle e he)]
  refine ⟨d, emitted_eq_some_iff.2 ⟨?_, hid⟩, hrun, hnext⟩
  rw [← hv]
  exact AList.lookup_erase_ne (varName_ne_of_emitted hlookup hd (hidle e he))

/-- A record loses a callback, and the place of an emission of it stays right. -/
theorem good_callbackRemoved (hg : Good s) {varName : Str} {data : NotifyData}
    {l : NotifyCallbackData} (hlookup : s.notifyHash.lookup varName = some data)
    (hmem : l ∈ data.callbacks) (hne : data.callbacks.filter (·.id ≠ l.id) ≠ []) :
    Good { s.recordRemoval data.id l.id with
      notifyHash := s.notifyHash.insert varName
        { data with
          callbacks := data.callbacks.filter (·.id ≠ l.id)
          nextEmit := if data.nextEmit = some l.id then nextOf data.callbacks l.id
            else data.nextEmit } } := by
  have hrecord := hg.table.records varName data hlookup
  have hmemid : l.id ∈ ids data.callbacks := List.mem_map_of_mem hmem
  refine ⟨hg.table.insert (Nat.le_refl _) (goodRecord_filter hrecord hne)
    fun v d hv he => hg.table.distinct v varName d data hv hlookup he, fun e' he' => ?_, hg.finished,
    hg.defined⟩
  obtain ⟨e, he, rfl⟩ := emission_recordRemoval he'
  obtain ⟨d, hd, hrun, hnext⟩ := hg.running e he
  by_cases hdata : e.data = data.id
  · obtain ⟨rfl, rfl⟩ := hg.eq_of_emitted hlookup hd hdata
    rw [if_pos hdata]
    refine ⟨_, emitted_eq_some_iff.2 ⟨AList.lookup_insert _, hdata.symm⟩, ?_, ?_⟩
    · show Running _ (ids (d.callbacks.filter _)) _
      rw [ids_filter]
      exact hrun.remove (hrecord.links l.id hmemid)
    · show (if d.nextEmit = some l.id then nextOf d.callbacks l.id else d.nextEmit) =
        firstAfter e.current (ids (d.callbacks.filter _))
      rw [ids_filter, firstAfter_filter hrecord.sorted, ← hnext, nextOf_eq hrecord.sorted hmemid]
  · rw [if_neg hdata]
    obtain ⟨hv, hid⟩ := emitted_eq_some_iff.1 hd
    refine ⟨d, emitted_eq_some_iff.2 ⟨?_, hid⟩, hrun, hnext⟩
    rw [← hv]
    exact AList.lookup_insert_ne (varName_ne_of_emitted hlookup hd hdata)

theorem good_removeNotify (hg : Good s) {varName : Str} {callback : Nat}
    (hok : KeepsLast s (.removeNotify varName callback)) :
    Good (removeNotify varName callback s).2 := by
  unfold removeNotify
  split
  · exact hg
  rename_i data hlookup
  split
  · exact hg
  rename_i l hl
  have hmem : l ∈ data.callbacks := List.mem_of_find?_eq_some hl
  simp only
  split
  · rename_i hnil
    refine good_lastRemoved hg l.id hlookup fun e he hdata => ?_
    obtain ⟨d, hd, -, -⟩ := hg.running e he
    obtain ⟨hvar, rfl⟩ := hg.eq_of_emitted hlookup hd hdata
    have hcallback : l.callback = callback := by simpa using List.find?_some hl
    refine hok e d he hd hvar ?_
    rw [callbacks_of_filter_eq_nil (hg.table.records varName d hlookup) hmem hnil, List.map_singleton,
      hcallback]
  · rename_i hne
    exact good_callbackRemoved hg hlookup hmem hne

/-- Otherwise the record of the running emission is gone. -/
theorem not_kept_removeNotify {varName : Str} {callback : Nat}
    (hnot : ¬ KeepsLast s (.removeNotify varName callback)) :
    ¬ Kept (removeNotify varName callback s).2 := by
  simp only [KeepsLast, not_forall, not_not] at hnot
  obtain ⟨e, data, he, hdata, rfl, hlast⟩ := hnot
  obtain ⟨hlookup, hid⟩ := emitted_eq_some_iff.1 hdata
  obtain ⟨l, hcallbacks, rfl⟩ := List.map_eq_singleton_iff.1 hlast
  have hremove : (removeNotify e.varName l.callback s).2 =
      { s.recordRemoval data.id l.id with notifyHash := s.notifyHash.erase e.varName } := by
    simp [removeNotify, hlookup, hcallbacks]
    rfl
  rw [hremove]
  rintro ⟨hkept, -⟩
  have hemission : (s.recordRemoval data.id l.id).emission =
      some { e with trace := e.trace ++ [.removed l.id] } := by
    simp [ProxyState.recordRemoval, he, hid]
  obtain ⟨-, hsome⟩ := hkept _ hemission
  simp [ProxyState.emitted] at hsome

/-! ## Runs -/

theorem good_step {event : Event} (hg : Good s) (hok : KeepsLast s event)
    (h : step s event = some t) : Good t := by
  unfold step at h
  simp only [hg.defined, Bool.false_eq_true, ↓reduceIte] at h
  split at h
  · obtain rfl := Option.some.inj h
    exact good_emitNotification hg _ _
  · cases h
  · obtain rfl := Option.some.inj h
    exact good_addNotifyFull hg _ _ _
  · obtain rfl := Option.some.inj h
    exact good_removeNotify hg hok
  · rename_i e he
    obtain rfl := Option.some.inj h
    exact good_returned hg he
  · cases h

/-- In a run every emission calls what was registered when it started and was not removed before its
turn, once and in order, nothing that was removed, and finds its record at every turn of its loop, if
and only if no callback removes the last callback of the variable that is emitted. -/
theorem callbacks_iff (h : Run step AnyStep .init es s) :
    Always step Kept .init es ↔ Run step KeepsLast .init es s := by
  refine h.always_iff_of_inv (fun s e t hg hok hstep => good_step hg hok hstep) (fun s hg => hg.kept)
    (fun s e t hg hok hstep => ?_) good_init
  cases e with
  | removeNotify varName callback =>
    simp only [step, hg.defined, Bool.false_eq_true, ↓reduceIte] at hstep
    obtain rfl := Option.some.inj hstep
    exact not_kept_removeNotify hok
  | emitNotification varName valueSet => exact absurd trivial hok
  | addNotifyFull varName type callback => exact absurd trivial hok
  | returned => exact absurd trivial hok

/-- A callback that removes itself, with another one behind it, and one that adds a third. -/
def sampleEvents : List Event :=
  [.addNotifyFull ['v'] ['i'] 1, .addNotifyFull ['v'] ['i'] 2, .emitNotification ['v'] true,
    .removeNotify ['v'] 1, .returned, .addNotifyFull ['v'] ['i'] 3, .returned, .returned]

instance (s : ProxyState) (event : Event) : Decidable (KeepsLast s event) :=
  match event with
  | .removeNotify varName callback =>
    match he : s.emission with
    | none => isTrue fun e data h => by simp [he] at h
    | some e =>
      match hd : s.emitted e with
      | none => isTrue fun e' data h hdata => by
          obtain rfl := Option.some.inj (he.symm.trans h)
          simp [hd] at hdata
      | some data =>
        decidable_of_iff (e.varName = varName → data.callbacks.map (·.callback) ≠ [callback])
          ⟨fun h e' data' he' hdata' => by
            obtain rfl := Option.some.inj (he.symm.trans he')
            obtain rfl := Option.some.inj (hd.symm.trans hdata')
            exact h, fun h => h e data he hd⟩
  | .emitNotification _ _ => isTrue trivial
  | .addNotifyFull _ _ _ => isTrue trivial
  | .returned => isTrue trivial

theorem callbacks_iff_sample : ∃ s, Run step KeepsLast .init sampleEvents s ∧
    s.finished.map Emission.called = [[1, 3, 5]] ∧ Kept s := by
  obtain ⟨s, h, hs⟩ : ∃ s, Run step KeepsLast .init sampleEvents s ∧
      s.finished.map Emission.called = [[1, 3, 5]] := Run.exists_of_foldlM_ok (by decide)
  exact ⟨s, h, hs, (callbacks_iff h.any).2 h sampleEvents s (List.prefix_refl _) h.any⟩

/-- A single callback that removes itself: its record is gone when it returns. -/
theorem callback_removes_last : ∃ s, Run step AnyStep .init
    [.addNotifyFull ['v'] ['i'] 1, .emitNotification ['v'] true, .removeNotify ['v'] 1, .returned] s ∧
    s.undefined = true ∧ ¬ Kept s := by
  obtain ⟨s, h, hs⟩ : ∃ s, Run step AnyStep .init
      [.addNotifyFull ['v'] ['i'] 1, .emitNotification ['v'] true, .removeNotify ['v'] 1, .returned] s ∧
      s.undefined = true := Run.exists_of_foldlM (by decide)
  refine ⟨s, h, hs, fun hk => ?_⟩
  rw [hk.2.2] at hs
  cases hs

end GUPnP.ServiceProxy.Notify
