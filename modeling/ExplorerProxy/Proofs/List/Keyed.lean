import Mathlib.Data.List.Nodup

/-!
# Pairs under keys

Lists of keys with values, as far as caches and records need them: what dropping a key
leaves, and that under distinct keys a look-up finds just the pairs of the list.
-/

namespace ExplorerProxy

set_option autoImplicit false

variable {κ ν : Type} [DecidableEq κ]

theorem notMem_map_fst_filter (l : List (κ × ν)) (k : κ) :
    k ∉ (l.filter (·.1 != k)).map Prod.fst := by
  intro hk
  obtain ⟨p, hp, rfl⟩ := List.mem_map.mp hk
  have hne := (List.mem_filter.mp hp).2
  simp at hne

theorem nodup_filter {l : List (κ × ν)} (hd : (l.map Prod.fst).Nodup) (k : κ) :
    ((l.filter (·.1 != k)).map Prod.fst).Nodup :=
  hd.sublist (List.filter_sublist.map Prod.fst)

theorem notMem_of_lookup_eq_none {l : List (κ × ν)} {k : κ} (hk : l.lookup k = none) :
    k ∉ l.map Prod.fst := by
  intro hmem
  obtain ⟨p, hp, rfl⟩ := List.mem_map.mp hmem
  have hne := List.lookup_eq_none_iff.mp hk p hp
  simp at hne

theorem lookup_eq_none_of_notMem {l : List (κ × ν)} {k : κ} (hk : k ∉ l.map Prod.fst) :
    l.lookup k = none := by
  rw [List.lookup_eq_none_iff]
  intro p hp
  rw [bne_iff_ne]
  rintro rfl
  exact hk (List.mem_map_of_mem hp)

theorem filter_eq_self_of_notMem {l : List (κ × ν)} {k : κ} (hk : k ∉ l.map Prod.fst) :
    l.filter (·.1 != k) = l := by
  rw [List.filter_eq_self]
  intro p hp
  rw [bne_iff_ne]
  rintro rfl
  exact hk (List.mem_map_of_mem hp)

theorem lookup_eq_some_iff_mem {h : List (κ × ν)} (hd : (h.map Prod.fst).Nodup) (k : κ) (v : ν) :
    h.lookup k = some v ↔ (k, v) ∈ h := by
  rw [List.lookup_eq_some_iff]
  constructor
  · rintro ⟨front, rest, rfl, _⟩
    exact List.mem_append_right front List.mem_cons_self
  · intro hmem
    obtain ⟨front, rest, rfl⟩ := List.append_of_mem hmem
    refine ⟨front, rest, rfl, ?_⟩
    rw [List.map_append, List.nodup_append] at hd
    intro p hp
    rw [bne_iff_ne]
    exact (hd.2.2 p.1 (List.mem_map_of_mem hp) k List.mem_cons_self).symm

end ExplorerProxy
