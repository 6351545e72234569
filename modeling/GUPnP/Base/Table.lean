import Mathlib.Data.List.AList

/-!
# Hash tables

A hash table is a list of entries with distinct keys (`AList`). Mathlib has its lookup, insertion
and removal; here are the walk over all values (`mapValues`, `g_hash_table_foreach` with a callback
that updates the value) and the walk that may drop entries (`filterMapValues`,
`g_hash_table_iter_remove`), each with what it does to a lookup.
-/

set_option autoImplicit false

namespace GUPnP

/-- A table from `κ` to `β`. -/
abbrev Table (κ β : Type) := AList fun _ : κ => β

namespace Table

variable {κ β : Type}

/-- The value kept for a key, if `f` keeps one. -/
def keep (f : κ → β → Option β) (e : Sigma fun _ : κ => β) : Option (Sigma fun _ : κ => β) :=
  (f e.1 e.2).map fun b => ⟨e.1, b⟩

theorem keep_fst {f : κ → β → Option β} {e e' : Sigma fun _ : κ => β} (h : keep f e = some e') :
    e'.1 = e.1 := by
  obtain ⟨b, -, rfl⟩ := Option.map_eq_some_iff.1 h
  rfl

theorem filterMap_keys_sublist (f : κ → β → Option β) (l : List (Sigma fun _ : κ => β)) :
    (l.filterMap (keep f)).keys.Sublist l.keys := by
  induction l with
  | nil => exact .slnil
  | cons e l ih =>
    rw [List.filterMap_cons]
    split
    · exact .cons _ ih
    · rename_i e' he
      rw [List.keys_cons, List.keys_cons, keep_fst he]
      exact ih.cons_cons _

/-- Updates every value, dropping the entries for which `f` gives none. -/
def filterMapValues (f : κ → β → Option β) (t : Table κ β) : Table κ β where
  entries := t.entries.filterMap (keep f)
  nodupKeys := List.nodupKeys_iff_pairwise.2
    ((List.nodupKeys_iff_pairwise.1 t.nodupKeys).filterMap _ fun a b hab a' ha b' hb => by
      rw [keep_fst ha, keep_fst hb]; exact hab)

/-- Updates every value. -/
def mapValues (f : κ → β → β) (t : Table κ β) : Table κ β :=
  filterMapValues (fun k b => some (f k b)) t

/-- All values. -/
def values (t : Table κ β) : List β := t.entries.map (·.2)

variable [DecidableEq κ]

theorem mem_values {t : Table κ β} {b : β} : b ∈ values t ↔ ∃ k, t.lookup k = some b := by
  constructor
  · intro h
    obtain ⟨⟨k, b'⟩, he, rfl⟩ := List.mem_map.1 h
    exact ⟨k, AList.mem_lookup_iff.2 he⟩
  · rintro ⟨k, h⟩
    exact List.mem_map.2 ⟨⟨k, b⟩, AList.mem_lookup_iff.1 h, rfl⟩

/-- Where no value has two keys, the values are distinct. -/
theorem nodup_values {t : Table κ β}
    (h : ∀ k k' b, t.lookup k = some b → t.lookup k' = some b → k = k') : (values t).Nodup := by
  refine List.Nodup.map_on ?_ t.nodupKeys.nodup
  rintro ⟨k, b⟩ he ⟨k', b'⟩ he' rfl
  rw [h k k' b (AList.mem_lookup_iff.2 he) (AList.mem_lookup_iff.2 he')]

/-- Updates the value of one key, if it is there. -/
def modify (k : κ) (f : β → β) (t : Table κ β) : Table κ β :=
  mapValues (fun k' b => if k' = k then f b else b) t

theorem dlookup_filterMap {f : κ → β → Option β} {l : List (Sigma fun _ : κ => β)}
    (hl : l.NodupKeys) (k : κ) :
    (l.filterMap (keep f)).dlookup k = (l.dlookup k).bind (f k) := by
  induction l with
  | nil => rfl
  | cons e l ih =>
    obtain ⟨k', b⟩ := e
    obtain ⟨hk, hl⟩ := List.nodupKeys_cons.1 hl
    have hnot : k' ∉ (l.filterMap (keep f)).keys := fun h =>
      hk ((filterMap_keys_sublist f l).subset h)
    by_cases h : k = k'
    · subst h
      rw [List.dlookup_cons_eq, Option.bind_some, List.filterMap_cons]
      cases hf : f k b with
      | none =>
        simp only [keep, hf, Option.map_none]
        exact List.dlookup_eq_none.2 hnot
      | some b' => simp [keep, hf]
    · rw [List.dlookup_cons_ne _ _ h, ← ih hl, List.filterMap_cons]
      split
      · rfl
      · rename_i e' he
        obtain ⟨b', -, rfl⟩ := Option.map_eq_some_iff.1 he
        exact List.dlookup_cons_ne (β := fun _ => β) _ ⟨k', b'⟩ h

@[simp] theorem lookup_filterMapValues (f : κ → β → Option β) (t : Table κ β) (k : κ) :
    (filterMapValues f t).lookup k = (t.lookup k).bind (f k) :=
  dlookup_filterMap t.nodupKeys k

@[simp] theorem lookup_mapValues (f : κ → β → β) (t : Table κ β) (k : κ) :
    (mapValues f t).lookup k = (t.lookup k).map (f k) := by
  rw [mapValues, lookup_filterMapValues]
  cases t.lookup k <;> rfl

theorem lookup_modify (k : κ) (f : β → β) (t : Table κ β) (k' : κ) :
    (modify k f t).lookup k' = (t.lookup k').map fun b => if k' = k then f b else b :=
  lookup_mapValues _ t k'

theorem lookup_modify_self (k : κ) (f : β → β) (t : Table κ β) :
    (modify k f t).lookup k = (t.lookup k).map f := by
  rw [lookup_modify]
  simp

theorem lookup_modify_ne {k k' : κ} (h : k' ≠ k) (f : β → β) (t : Table κ β) :
    (modify k f t).lookup k' = t.lookup k' := by
  rw [lookup_modify]
  simp [h]

theorem flatMap_filter_entries {γ : Type} {l : List (Sigma fun _ : κ => β)} (hl : l.NodupKeys)
    (k : κ) (g : β → List γ) (p : γ → Bool)
    (hp : ∀ e ∈ l, ∀ x ∈ g e.2, p x = decide (e.1 = k)) :
    (l.flatMap fun e => g e.2).filter p = (l.dlookup k).toList.flatMap g := by
  induction l with
  | nil => rfl
  | cons e l ih =>
    obtain ⟨k', b⟩ := e
    obtain ⟨hk, hl⟩ := List.nodupKeys_cons.1 hl
    have ih := ih hl fun e he => hp e (List.mem_cons_of_mem _ he)
    have hb := hp ⟨k', b⟩ List.mem_cons_self
    rw [List.flatMap_cons, List.filter_append, ih]
    by_cases h : k' = k
    · subst h
      rw [List.filter_eq_self.2 fun x hx => by simp [hb x hx], List.dlookup_eq_none.2 hk,
        List.dlookup_cons_eq]
      simp
    · rw [List.filter_eq_nil_iff.2 fun x hx => by simp [hb x hx, h],
        List.dlookup_cons_ne _ _ (Ne.symm h)]
      rfl

/-- What a walk over all values yields about one key, when each value yields things about its own
key. -/
theorem flatMap_filter {γ : Type} (t : Table κ β) (k : κ) (g : β → List γ) (p : γ → Bool)
    (hp : ∀ k' b, t.lookup k' = some b → ∀ x ∈ g b, p x = decide (k' = k)) :
    (t.entries.flatMap fun e => g e.2).filter p = (t.lookup k).toList.flatMap g :=
  flatMap_filter_entries t.nodupKeys k g p fun e he => hp e.1 e.2 (AList.mem_lookup_iff.2 he)

/-! ## Tables of positions -/

/-- The table has the keys of the list, each with its position. -/
def Indexes (t : Table κ Nat) (keys : List κ) : Prop :=
  ∀ k i, t.lookup k = some i ↔ keys[i]? = some k

namespace Indexes

variable {t : Table κ Nat} {keys : List κ} {k : κ}

theorem empty : Indexes (∅ : Table κ Nat) [] := by
  intro k i
  simp

theorem lookup_eq_none (h : Indexes t keys) : t.lookup k = none ↔ k ∉ keys := by
  rw [List.mem_iff_getElem?, Option.eq_none_iff_forall_ne_some]
  constructor
  · rintro hnone ⟨i, hi⟩
    exact hnone i ((h k i).2 hi)
  · intro hnot i hi
    exact hnot ⟨i, (h k i).1 hi⟩

/-- There is one position for a key, so the keys are distinct. -/
theorem nodup (h : Indexes t keys) : keys.Nodup := by
  refine List.nodup_iff_injective_getElem.2 fun i j heq => Fin.ext ?_
  have hi : t.lookup keys[i.1] = some i.1 := (h _ _).2 (List.getElem?_eq_getElem i.2)
  have hj : t.lookup keys[j.1] = some j.1 := (h _ _).2 (List.getElem?_eq_getElem j.2)
  dsimp only at heq
  rw [heq, hj] at hi
  exact (Option.some.inj hi).symm

/-- A new key comes to the end. -/
theorem insert (h : Indexes t keys) (hk : k ∉ keys) :
    Indexes (AList.insert k keys.length t) (keys ++ [k]) := by
  intro k' i
  by_cases heq : k' = k
  · subst heq
    rw [AList.lookup_insert, Option.some.injEq, List.getElem?_append]
    split
    · rename_i hi
      refine iff_of_false (by omega) fun hget => hk (List.mem_iff_getElem?.2 ⟨i, hget⟩)
    · rename_i hi
      constructor
      · rintro rfl
        rw [Nat.sub_self]
        rfl
      · intro hget
        have hlt := (List.getElem?_eq_some_iff.1 hget).1
        rw [List.length_singleton] at hlt
        omega
  · rw [AList.lookup_insert_ne heq, h, List.getElem?_append]
    split
    · rfl
    · rename_i hi
      refine iff_of_false (fun hget => hi (List.getElem?_eq_some_iff.1 hget).1) fun hget => heq ?_
      exact List.mem_singleton.1 (List.mem_iff_getElem?.2 ⟨_, hget⟩)

end Indexes

end Table

end GUPnP
