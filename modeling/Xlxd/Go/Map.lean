/-
  Xlxd.Go.Map — a Go `map[string]T` as one `range` over it visits it: its entries in
  visiting order, each key once. Go picks a fresh order for every `range`, so the same map
  visited in another order is a `Jmap` whose entries are a permutation of these, and a
  property "for every iteration order" quantifies over all of them. `get?` is `m[k]` with
  its comma-ok, `set` is `m[k] = v`, and `Same` is equality of maps: the same value under
  every key, whatever order a range visits them in.
-/

import Mathlib.Data.List.Perm.Basic
import Mathlib.Data.List.Nodup

namespace Xlxd.Go

structure Jmap (α : Type) where
  entries : List (String × α)
  nodup : (entries.map Prod.fst).Nodup

namespace Jmap

variable {α β : Type}

instance [DecidableEq α] : DecidableEq (Jmap α) := fun a b =>
  decidable_of_iff (a.entries = b.entries) ⟨fun h => by cases a; cases b; cases h; rfl, fun h => h ▸ rfl⟩

def keys (m : Jmap α) : List String := m.entries.map Prod.fst

def get? (m : Jmap α) (k : String) : Option α := m.entries.lookup k

def empty : Jmap α := ⟨[], List.nodup_nil⟩

/-- Two maps are the same map: they hold the same value under every key. -/
def Same (m m' : Jmap α) : Prop := ∀ k, m.get? k = m'.get? k

theorem nodup_map_fst_update {l : List (String × α)} (h : (l.map Prod.fst).Nodup) (k : String) (v : α) :
    ((l.map fun e => if e.1 = k then (k, v) else e).map Prod.fst).Nodup := by
  have : (l.map fun e => if e.1 = k then (k, v) else e).map Prod.fst = l.map Prod.fst := by
    simp only [List.map_map]
    exact List.map_congr_left fun e _ => by by_cases he : e.1 = k <;> simp [he]
  rwa [this]

/-- `m[k] = v`: the entry of `k` takes the value `v`; a new key is visited last. -/
def set (m : Jmap α) (k : String) (v : α) : Jmap α :=
  if h : k ∈ m.keys then ⟨m.entries.map fun e => if e.1 = k then (k, v) else e, nodup_map_fst_update m.nodup k v⟩
  else ⟨m.entries ++ [(k, v)], by simpa [List.nodup_append, keys] using And.intro m.nodup h⟩

/-- The map with each value `v` under `k` replaced by `f k v`. -/
def map (f : String → α → β) (m : Jmap α) : Jmap β :=
  ⟨m.entries.map fun e => (e.1, f e.1 e.2), by simpa [List.map_map, Function.comp_def] using m.nodup⟩

/-! ## Lemmas -/

@[simp] theorem map_entries (f : String → α → β) (m : Jmap α) :
    (m.map f).entries = m.entries.map fun e => (e.1, f e.1 e.2) := rfl

theorem set_of_not_mem {m : Jmap α} {k : String} (h : k ∉ m.keys) (v : α) :
    (m.set k v).entries = m.entries ++ [(k, v)] := by
  simp [set, h]

theorem lookup_map (f : String → α → β) (l : List (String × α)) (k : String) :
    (l.map fun e => (e.1, f e.1 e.2)).lookup k = (l.lookup k).map (f k) := by
  induction l with
  | nil => rfl
  | cons e l ih =>
    obtain ⟨k', v'⟩ := e
    by_cases h : k = k'
    · subst h; simp [List.lookup_cons]
    · have hb : (k == k') = false := by simpa using h
      simp [List.lookup_cons, hb, ih]

theorem lookup_eq_some_iff {l : List (String × α)} (h : (l.map Prod.fst).Nodup) {k : String} {v : α} :
    l.lookup k = some v ↔ (k, v) ∈ l := by
  induction l with
  | nil => simp
  | cons e l ih =>
    obtain ⟨k', v'⟩ := e
    simp only [List.map_cons, List.nodup_cons] at h
    by_cases hk : k = k'
    · subst hk
      have : (k, v) ∉ l := fun hm => h.1 (List.mem_map.mpr ⟨_, hm, rfl⟩)
      simp only [List.lookup_cons, beq_self_eq_true, Option.some.injEq, List.mem_cons, this, or_false]
      exact ⟨fun hv => by rw [← hv], fun he => (congrArg Prod.snd he).symm⟩
    · have hb : (k == k') = false := by simpa using hk
      have hne : (k, v) ≠ (k', v') := fun he => hk (congrArg Prod.fst he)
      simp [List.lookup_cons, hb, ih h.2, hne]

/-- In a map, `m[k]` is `v` exactly when `(k, v)` is one of its entries. -/
theorem get?_eq_some_iff {m : Jmap α} {k : String} {v : α} : m.get? k = some v ↔ (k, v) ∈ m.entries :=
  lookup_eq_some_iff m.nodup

theorem mem_keys_iff {m : Jmap α} {k : String} : k ∈ m.keys ↔ ∃ v, m.get? k = some v := by
  simp [keys, get?_eq_some_iff]

/-- A range may visit any entry first: the same map in an order that starts with `e`. -/
theorem exists_visit_first {m : Jmap α} {e : String × α} (h : e ∈ m.entries) :
    ∃ m' : Jmap α, m'.entries.Perm m.entries ∧ ∃ rest, m'.entries = e :: rest := by
  obtain ⟨s, t, hst⟩ := List.append_of_mem h
  have hp : (e :: (s ++ t)).Perm m.entries := hst ▸ List.perm_middle.symm
  exact ⟨⟨_, (hp.map Prod.fst).nodup_iff.mpr m.nodup⟩, hp, _, rfl⟩

@[simp] theorem get?_map (f : String → α → β) (m : Jmap α) (k : String) :
    (m.map f).get? k = (m.get? k).map (f k) :=
  lookup_map f m.entries k

/-- Copying a map's entries, in the order a range visits them, into a map holding none of
their keys appends them in that order. -/
theorem foldl_set (f : String → α → β) (l : List (String × α)) (hl : (l.map Prod.fst).Nodup)
    (acc : Jmap β) (hacc : ∀ k ∈ l.map Prod.fst, k ∉ acc.keys) :
    (l.foldl (fun m e => m.set e.1 (f e.1 e.2)) acc).entries = acc.entries ++ l.map fun e => (e.1, f e.1 e.2) := by
  induction l generalizing acc with
  | nil => simp
  | cons e l ih =>
    simp only [List.map_cons, List.nodup_cons] at hl hacc
    have he : e.1 ∉ acc.keys := hacc e.1 (List.mem_cons_self _ _)
    rw [List.foldl_cons, ih hl.2 _ ?_, set_of_not_mem he]
    · simp
    · intro k hk hk'
      rw [keys, set_of_not_mem he] at hk'
      simp only [List.map_append, List.map_cons, List.map_nil, List.mem_append, List.mem_singleton] at hk'
      rcases hk' with hk' | rfl
      · exact hacc k (List.mem_cons_of_mem _ hk) hk'
      · exact hl.1 hk

/-- A map copied into an empty one, value by value through `f`, is `m.map f`. -/
theorem foldl_set_empty (f : String → α → β) (m : Jmap α) :
    (m.entries.foldl (fun c e => c.set e.1 (f e.1 e.2)) empty).entries = (m.map f).entries := by
  simpa [empty] using foldl_set f m.entries m.nodup empty (by simp [empty, keys])

end Jmap

end Xlxd.Go
