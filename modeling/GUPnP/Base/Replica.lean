import GUPnP.Base.Run
import Mathlib.Logic.Function.Basic

/-!
# Stores that are followed through their writes

A store of values by keys is copied by sending a snapshot of some keys and the writes. Writes wait in a
queue until they are flushed, and a snapshot overtakes the queue. `replay_sent`: whenever a snapshot
was sent, what was sent and then the queue make the copy equal to the store at the keys of the last
snapshot, although the queue may have values that are older than the snapshot.
-/

set_option autoImplicit false

namespace GUPnP

variable {κ β : Type} {writes : List (κ × β)} {store : κ → Option β} {key : κ} {value : β}

/-! ## Writes -/

/-- The writes that make a copy of these keys. -/
def snapshot (keys : List κ) (store : κ → Option β) : List (κ × β) :=
  keys.filterMap fun key => (store key).map fun value => (key, value)

theorem mem_snapshot {keys : List κ} {write : κ × β} (h : write ∈ snapshot keys store) :
    write.1 ∈ keys ∧ store write.1 = some write.2 := by
  obtain ⟨key, hkey, hwrite⟩ := List.mem_filterMap.1 h
  obtain ⟨value, hvalue, rfl⟩ := Option.map_eq_some_iff.1 hwrite
  exact ⟨hkey, hvalue⟩

variable [DecidableEq κ]

/-- A store after some writes. -/
def replay (writes : List (κ × β)) (store : κ → Option β) : κ → Option β :=
  writes.foldl (fun store write => Function.update store write.1 (some write.2)) store

@[simp] theorem replay_nil : replay [] store = store := rfl

theorem replay_append (writes writes' : List (κ × β)) (store : κ → Option β) :
    replay (writes ++ writes') store = replay writes' (replay writes store) := List.foldl_append

theorem replay_snoc (writes : List (κ × β)) (key : κ) (value : β) (store : κ → Option β) :
    replay (writes ++ [(key, value)]) store =
      Function.update (replay writes store) key (some value) := replay_append ..

/-- A key that is not written keeps its value. -/
theorem replay_of_not_mem (h : key ∉ writes.map Prod.fst) : replay writes store key = store key := by
  induction writes generalizing store with
  | nil => rfl
  | cons write writes ih =>
    rw [List.map_cons, List.mem_cons, not_or] at h
    have hrest : replay writes (Function.update store write.1 (some write.2)) key =
        Function.update store write.1 (some write.2) key := ih h.2
    exact hrest.trans (Function.update_of_ne h.1 _ _)

/-- A key that is written has the value of its last write, whatever it had before. -/
theorem replay_of_mem (h : key ∈ writes.map Prod.fst) (store store' : κ → Option β) :
    replay writes store key = replay writes store' key ∧
      ∃ value, replay writes store key = some value := by
  induction writes using List.reverseRecOn with
  | nil => cases h
  | append_singleton writes write ih =>
    rw [replay_snoc, replay_snoc]
    by_cases hkey : key = write.1
    · subst hkey
      rw [Function.update_self, Function.update_self]
      exact ⟨rfl, write.2, rfl⟩
    · rw [Function.update_of_ne hkey, Function.update_of_ne hkey]
      refine ih ?_
      rw [List.map_append, List.mem_append] at h
      exact h.resolve_right fun hlast => hkey (List.mem_singleton.1 hlast)

/-- A snapshot copies its keys. -/
theorem replay_snapshot {keys : List κ} (hkey : key ∈ keys) (hvalue : store key = some value)
    (store' : κ → Option β) : replay (snapshot keys store) store' key = some value := by
  induction keys generalizing store' with
  | nil => cases hkey
  | cons first keys ih =>
    by_cases hmem : key ∈ keys
    · cases hfirst : store first with
      | none =>
        have hskip : snapshot (first :: keys) store = snapshot keys store := by
          rw [snapshot, List.filterMap_cons, hfirst]
          rfl
        rw [hskip]
        exact ih hmem store'
      | some v =>
        have hcons : snapshot (first :: keys) store = (first, v) :: snapshot keys store := by
          rw [snapshot, List.filterMap_cons, hfirst]
          rfl
        rw [hcons]
        exact ih hmem _
    · obtain rfl : key = first := (List.mem_cons.1 hkey).resolve_right hmem
      have hcons : snapshot (key :: keys) store = (key, value) :: snapshot keys store := by
        rw [snapshot, List.filterMap_cons, hvalue]
        rfl
      have hlast : key ∉ (snapshot keys store).map Prod.fst := by
        intro h
        obtain ⟨write, hwrite, rfl⟩ := List.mem_map.1 h
        exact hmem (mem_snapshot hwrite).1
      rw [hcons]
      have hrest : replay (snapshot keys store) (Function.update store' key (some value)) key =
          Function.update store' key (some value) key := replay_of_not_mem hlast
      exact hrest.trans (Function.update_self ..)

/-! ## A store and what it sends -/

/-- A store with the writes in its queue, and what was sent. `keys` are those of the last snapshot, if
there was one. -/
structure Publisher (κ β : Type) where
  store : κ → Option β
  queue : List (κ × β)
  sent : List (κ × β)
  keys : Option (List κ)

/-- `restart` forgets what was sent: a new copy is begun. -/
inductive Publication (κ β : Type) where
  | write (key : κ) (value : β)
  | flush
  | snapshot (keys : List κ)
  | restart

namespace Publisher

def init (store : κ → Option β) : Publisher κ β := ⟨store, [], [], none⟩

def step (p : Publisher κ β) : Publication κ β → Option (Publisher κ β)
  | .write key value => some { p with
      store := Function.update p.store key (some value)
      queue := p.queue ++ [(key, value)] }
  | .flush => some { p with sent := p.sent ++ p.queue, queue := [] }
  | .snapshot keys => some { p with sent := p.sent ++ GUPnP.snapshot keys p.store, keys := some keys }
  | .restart => some { p with sent := [], keys := none }

/-- The last writes in the queue are the values of the store, and so are those of the keys of the
snapshot. Only keys with a value are written. -/
structure Consistent (p : Publisher κ β) : Prop where
  written : ∀ write ∈ p.sent ++ p.queue, ∃ value, p.store write.1 = some value
  queued : ∀ key value, replay p.queue (fun _ => none) key = some value → p.store key = some value
  copied : ∀ keys, p.keys = some keys → ∀ key ∈ keys,
    replay (p.sent ++ p.queue) (fun _ => none) key = p.store key

theorem consistent_init (store : κ → Option β) : Consistent (init store) where
  written := nofun
  queued := nofun
  copied := nofun

variable {p q : Publisher κ β}

theorem Consistent.write (h : Consistent p) (key : κ) (value : β) :
    Consistent { p with store := Function.update p.store key (some value)
                        queue := p.queue ++ [(key, value)] } where
  written write hmem := by
    dsimp only at hmem ⊢
    by_cases hkey : write.1 = key
    · exact ⟨value, by rw [hkey, Function.update_self]⟩
    · rw [Function.update_of_ne hkey]
      rw [← List.append_assoc] at hmem
      refine h.written write ((List.mem_append.1 hmem).resolve_right fun hlast => ?_)
      obtain rfl := List.mem_singleton.1 hlast
      exact hkey rfl
  queued k v hreplay := by
    dsimp only at hreplay ⊢
    rw [replay_snoc] at hreplay
    by_cases hkey : k = key
    · subst hkey
      rw [Function.update_self] at hreplay ⊢
      exact hreplay
    · rw [Function.update_of_ne hkey] at hreplay ⊢
      exact h.queued k v hreplay
  copied keys hkeys k hk := by
    dsimp only
    rw [← List.append_assoc, replay_snoc]
    by_cases hkey : k = key
    · rw [hkey, Function.update_self, Function.update_self]
    · rw [Function.update_of_ne hkey, Function.update_of_ne hkey]
      exact h.copied keys hkeys k hk

theorem Consistent.flush (h : Consistent p) :
    Consistent { p with sent := p.sent ++ p.queue, queue := [] } where
  written write hmem := by
    dsimp only at hmem
    rw [List.append_nil] at hmem
    exact h.written write hmem
  queued := nofun
  copied keys hkeys k hk := by
    dsimp only
    rw [List.append_nil]
    exact h.copied keys hkeys k hk

theorem Consistent.snapshot (h : Consistent p) (keys : List κ) :
    Consistent { p with sent := p.sent ++ GUPnP.snapshot keys p.store, keys := some keys } where
  written write hmem := by
    dsimp only at hmem
    rw [List.append_assoc] at hmem
    rcases List.mem_append.1 hmem with hmem | hmem
    · exact h.written write (List.mem_append_left _ hmem)
    rcases List.mem_append.1 hmem with hmem | hmem
    · exact ⟨write.2, (mem_snapshot hmem).2⟩
    · exact h.written write (List.mem_append_right _ hmem)
  queued := h.queued
  copied keys' hkeys k hk := by
    obtain rfl := Option.some.inj hkeys
    dsimp only
    rw [replay_append]
    cases hvalue : p.store k with
    | some value =>
      by_cases hqueue : k ∈ p.queue.map Prod.fst
      · -- The queue has writes that are older than the snapshot, but its last one is not.
        obtain ⟨hsame, v, hv⟩ := replay_of_mem hqueue
          (replay (p.sent ++ GUPnP.snapshot keys p.store) fun _ => none) fun _ => none
        have hstore := h.queued k v (hsame.symm.trans hv)
        rw [hv, ← hstore, hvalue]
      · rw [replay_of_not_mem hqueue, replay_append]
        exact replay_snapshot hk hvalue _
    | none =>
      have hnone : k ∉ (p.sent ++ GUPnP.snapshot keys p.store ++ p.queue).map Prod.fst := by
        intro hmem
        obtain ⟨write, hwrite, rfl⟩ := List.mem_map.1 hmem
        have hwritten : ∃ value, p.store write.1 = some value := by
          rw [List.append_assoc] at hwrite
          rcases List.mem_append.1 hwrite with hwrite | hwrite
          · exact h.written write (List.mem_append_left _ hwrite)
          rcases List.mem_append.1 hwrite with hwrite | hwrite
          · exact ⟨write.2, (mem_snapshot hwrite).2⟩
          · exact h.written write (List.mem_append_right _ hwrite)
        obtain ⟨value, hv⟩ := hwritten
        cases hvalue.symm.trans hv
      rw [← replay_append, replay_of_not_mem hnone]

theorem Consistent.restart (h : Consistent p) : Consistent { p with sent := [], keys := none } where
  written write hmem := h.written write (List.mem_append_right _ hmem)
  queued := h.queued
  copied := nofun

theorem consistent_step {e : Publication κ β} (h : Consistent p) (he : p.step e = some q) :
    Consistent q := by
  cases e with
  | write key value =>
    obtain rfl := Option.some.inj he
    exact h.write key value
  | flush =>
    obtain rfl := Option.some.inj he
    exact h.flush
  | snapshot keys =>
    obtain rfl := Option.some.inj he
    exact h.snapshot keys
  | restart =>
    obtain rfl := Option.some.inj he
    exact h.restart

/-- What was sent and then the queue make the store, at the keys of the last snapshot. -/
theorem replay_sent {es : List (Publication κ β)} {s : κ → Option β} {keys : List κ}
    (h : Run step AnyStep (init s) es p) (hkeys : p.keys = some keys) {key : κ} (hkey : key ∈ keys) :
    replay (p.sent ++ p.queue) (fun _ => none) key = p.store key :=
  (h.inv Consistent (fun _ _ _ hc _ he => consistent_step hc he) (consistent_init s)).copied keys hkeys
    key hkey

end Publisher

end GUPnP
