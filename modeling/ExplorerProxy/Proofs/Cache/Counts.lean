import ExplorerProxy.Proofs.Cache.Refinement

/-!
# What the counters of a cache count

Each lookup counts as a hit or as a miss, and each insertion of a key that was not held
is an entry or has cost one. No counter of events ever goes back.
-/

namespace ExplorerProxy

set_option autoImplicit false

section List

variable {κ ν : Type} [BEq κ]

/-- A key that was not held becomes a pair of the list, for which another may have to go. -/
theorem RecencyList.length_add_evictions_insert (l : RecencyList κ ν) (hcap : l.capacity ≠ 0)
    {k : κ} (hk : l.contains k = false) (v : ν) :
    (l.insert k v).items.length + (l.insert k v).evictions = l.items.length + l.evictions + 1 := by
  rw [insert, if_neg hcap, if_neg (by simp [hk])]
  split
  · simp only [List.length_cons]
    omega
  · simp only [List.length_cons, List.length_dropLast]
    omega

end List

namespace Cache

variable {κ ν : Type} [BEq κ] [Hashable κ] {c : Cache κ ν}

theorem hits_get (c : Cache κ ν) (k : κ) :
    (c.get k).2.hits = c.hits + if (c.value? k).isSome then 1 else 0 := by
  cases he : c.entries[k]? with
  | none => rw [get_of_none he, value?_of_none he]; rfl
  | some e => rw [get_of_some he, value?_of_some he]; rfl

theorem misses_get (c : Cache κ ν) (k : κ) :
    (c.get k).2.misses = c.misses + if (c.value? k).isSome then 0 else 1 := by
  cases he : c.entries[k]? with
  | none => rw [get_of_none he, value?_of_none he]; rfl
  | some e => rw [get_of_some he, value?_of_some he]; rfl

@[simp] theorem evictions_get (c : Cache κ ν) (k : κ) : (c.get k).2.evictions = c.evictions := by
  cases he : c.entries[k]? with
  | none => rw [get_of_none he]; rfl
  | some e => rw [get_of_some he]; rfl

@[simp] theorem held_get (c : Cache κ ν) (k : κ) : (c.get k).2.held = c.held := by
  cases he : c.entries[k]? with
  | none => rw [get_of_none he]; rfl
  | some e => rw [get_of_some he]; rfl

/-- Making room counts no lookups, and only adds to the evictions. -/
theorem counts_makeRoomUpTo (n : Nat) (c : Cache κ ν) :
    (c.makeRoomUpTo n).2.hits = c.hits ∧ (c.makeRoomUpTo n).2.misses = c.misses ∧
      c.evictions ≤ (c.makeRoomUpTo n).2.evictions := by
  induction n generalizing c with
  | zero => exact ⟨rfl, rfl, Nat.le_refl _⟩
  | succ n ih =>
    simp only [makeRoomUpTo]
    split
    · exact ⟨rfl, rfl, Nat.le_refl _⟩
    · cases he : c.evict? with
      | none => exact ⟨rfl, rfl, Nat.le_refl _⟩
      | some p =>
        obtain ⟨s, _, hp⟩ := evict?_eq_some he
        obtain ⟨hhits, hmisses, hevictions⟩ := ih p.2
        rw [hp] at hhits hmisses hevictions
        simp only [hp]
        exact ⟨hhits, hmisses, Nat.le_of_succ_le hevictions⟩

theorem counts_insert (c : Cache κ ν) (k : κ) (v : ν) :
    (c.insert k v).hits = c.hits ∧ (c.insert k v).misses = c.misses ∧
      c.evictions ≤ (c.insert k v).evictions := by
  by_cases hcap : c.capacity = 0
  · rw [insert_of_capacity_zero hcap]
    exact ⟨rfl, rfl, Nat.le_refl _⟩
  · cases he : c.entries[k]? with
    | some e =>
      rw [insert_of_some hcap he]
      exact ⟨rfl, rfl, Nat.le_refl _⟩
    | none =>
      rw [insert_of_none hcap he]
      exact counts_makeRoomUpTo _ c.drawStamp

/-- No event that a cache has counted is missing from what a later one has counted. -/
structure CountsLe (c c' : Cache κ ν) : Prop where
  hits : c.hits ≤ c'.hits
  misses : c.misses ≤ c'.misses
  evictions : c.evictions ≤ c'.evictions

theorem CountsLe.refl (c : Cache κ ν) : CountsLe c c :=
  ⟨Nat.le_refl _, Nat.le_refl _, Nat.le_refl _⟩

theorem CountsLe.trans {c c' c'' : Cache κ ν} (h : CountsLe c c') (h' : CountsLe c' c'') :
    CountsLe c c'' :=
  ⟨h.hits.trans h'.hits, h.misses.trans h'.misses, h.evictions.trans h'.evictions⟩

theorem countsLe_get (c : Cache κ ν) (k : κ) : CountsLe c (c.get k).2 := by
  refine ⟨?_, ?_, ?_⟩
  · rw [hits_get]
    exact Nat.le_add_right _ _
  · rw [misses_get]
    exact Nat.le_add_right _ _
  · rw [evictions_get]

theorem countsLe_insert (c : Cache κ ν) (k : κ) (v : ν) : CountsLe c (c.insert k v) := by
  obtain ⟨hhits, hmisses, hevictions⟩ := c.counts_insert k v
  exact ⟨hhits.ge, hmisses.ge, hevictions⟩

theorem InStep.held_eq_length (hc : InStep c) : c.held = c.asList.items.length :=
  hc.held_eq.trans hc.length_items.symm

variable [LawfulBEq κ]

theorem InStep.held_insert (hc : InStep c) (h : c.nextStamp < lastStamp)
    (hcap : c.capacity ≠ 0) (k : κ) (v : ν) :
    (c.insert k v).held + (c.insert k v).evictions =
      c.held + c.evictions + if c.contains k then 0 else 1 := by
  rw [contains_eq_isSome_value?]
  cases he : c.entries[k]? with
  | some e =>
    rw [insert_of_some hcap he, value?_of_some he]
    rfl
  | none =>
    have hlist := hc.asList_insert h k v
    have hk : c.asList.contains k = false := by
      rw [hc.contains_asList, contains_eq_isSome_value?, value?_of_none he]
      rfl
    have hcount := c.asList.length_add_evictions_insert hcap hk v
    rw [← hlist] at hcount
    rw [(hc.insert h k v).held_eq_length, hc.held_eq_length, value?_of_none he]
    exact hcount

theorem toNat_ofNat_of_le_lastStamp {n : Nat} (h : n ≤ lastStamp) : (UInt64.ofNat n).toNat = n := by
  have hlast : lastStamp = UInt64.size - 1 := rfl
  have hpos : 0 < UInt64.size := by decide
  exact UInt64.toNat_ofNat_of_lt' (by omega)

end Cache

end ExplorerProxy
