import ExplorerProxy.Cache.Basic

/-!
# Which values a cache holds

How each operation changes the values under the keys, whatever the stamps are.
Nothing here needs the two indexes of a cache to agree: dropping keys can only
lose values, and an insertion gives no key a value but its own.
-/

namespace ExplorerProxy.Cache

set_option autoImplicit false

variable {κ ν : Type} [BEq κ] [Hashable κ]

@[simp] theorem entries_drawStamp (c : Cache κ ν) : c.drawStamp.entries = c.entries := rfl

@[simp] theorem value?_drawStamp (c : Cache κ ν) (k : κ) : c.drawStamp.value? k = c.value? k := rfl

@[simp] theorem value?_empty [LawfulBEq κ] (capacity : Nat) (k : κ) :
    (empty capacity : Cache κ ν).value? k = none := by
  simp [value?, empty]

theorem contains_eq_isSome_value? [LawfulBEq κ] (c : Cache κ ν) (k : κ) :
    c.contains k = (c.value? k).isSome := by
  simp [contains, value?]

theorem value?_of_some {c : Cache κ ν} {k : κ} {e : CacheEntry ν} (he : c.entries[k]? = some e) :
    c.value? k = some e.value := by
  rw [value?, he]
  rfl

theorem value?_of_none {c : Cache κ ν} {k : κ} (hk : c.entries[k]? = none) : c.value? k = none := by
  rw [value?, hk]
  rfl

theorem get_of_some {c : Cache κ ν} {k : κ} {e : CacheEntry ν} (he : c.entries[k]? = some e) :
    c.get k = (some e.value,
      { c.drawStamp.refresh k e e.value c.nextStamp with hits := c.hits + 1 }) := by
  simp only [get, entries_drawStamp, he]
  rfl

theorem get_of_none {c : Cache κ ν} {k : κ} (hk : c.entries[k]? = none) :
    c.get k = (none, { c.drawStamp with misses := c.misses + 1 }) := by
  simp only [get, entries_drawStamp, hk]
  rfl

theorem get_fst (c : Cache κ ν) (k : κ) : (c.get k).1 = c.value? k := by
  cases he : c.entries[k]? with
  | none => rw [get_of_none he, value?_of_none he]
  | some e => rw [get_of_some he, value?_of_some he]

@[simp] theorem capacity_get (c : Cache κ ν) (k : κ) : (c.get k).2.capacity = c.capacity := by
  cases he : c.entries[k]? with
  | none => rw [get_of_none he]; rfl
  | some e => rw [get_of_some he]; rfl

theorem value?_refresh [LawfulBEq κ] (c : Cache κ ν) (k j : κ) (e : CacheEntry ν) (v : ν)
    (n : Nat) : (c.refresh k e v n).value? j = if k == j then some v else c.value? j := by
  simp only [value?, refresh, Std.HashMap.getElem?_insert]
  split <;> rfl

theorem value?_push [LawfulBEq κ] (c : Cache κ ν) (k j : κ) (v : ν) (n : Nat) :
    (c.push k v n).value? j = if k == j then some v else c.value? j := by
  simp only [value?, push, Std.HashMap.getElem?_insert]
  split <;> rfl

theorem value?_get [LawfulBEq κ] (c : Cache κ ν) (k j : κ) :
    (c.get k).2.value? j = c.value? j := by
  cases he : c.entries[k]? with
  | none =>
    rw [get_of_none he]
    rfl
  | some e =>
    have hr := value?_refresh c.drawStamp k j e e.value c.nextStamp
    rw [get_of_some he]
    refine hr.trans ?_
    split
    · rw [← eq_of_beq ‹(k == j) = true›, value?_of_some he]
    · rfl

theorem evict?_eq_some {c d : Cache κ ν} {k : κ} (h : c.evict? = some (k, d)) :
    ∃ s, c.recency.minEntry? = some (s, k) ∧ d = { c with
      entries := c.entries.erase k
      recency := c.recency.erase s
      evictions := c.evictions + 1 } := by
  obtain ⟨⟨s, j⟩, hmin, heq⟩ := Option.map_eq_some_iff.mp h
  obtain ⟨rfl, rfl⟩ := Prod.mk.inj heq
  exact ⟨s, hmin, rfl⟩

theorem value?_evict? [LawfulBEq κ] {c d : Cache κ ν} {k : κ} (h : c.evict? = some (k, d))
    (j : κ) : d.value? j = if k == j then none else c.value? j := by
  obtain ⟨s, _, rfl⟩ := evict?_eq_some h
  simp only [value?, Std.HashMap.getElem?_erase]
  split <;> rfl

theorem value?_of_makeRoomUpTo [LawfulBEq κ] (n : Nat) (c : Cache κ ν) {j : κ} {v : ν}
    (h : (c.makeRoomUpTo n).2.value? j = some v) : c.value? j = some v := by
  induction n generalizing c with
  | zero => exact h
  | succ n ih =>
    simp only [makeRoomUpTo] at h
    split at h
    · exact h
    · cases he : c.evict? with
      | none => simpa only [he] using h
      | some p =>
        simp only [he] at h
        have hp := ih p.2 h
        rw [value?_evict? he] at hp
        split at hp
        · simp at hp
        · exact hp

@[simp] theorem capacity_makeRoomUpTo (n : Nat) (c : Cache κ ν) :
    (c.makeRoomUpTo n).2.capacity = c.capacity := by
  induction n generalizing c with
  | zero => rfl
  | succ n ih =>
    simp only [makeRoomUpTo]
    split
    · rfl
    · cases he : c.evict? with
      | none => rfl
      | some p =>
        obtain ⟨s, _, hp⟩ := evict?_eq_some he
        simp only [ih, hp]

theorem insert_of_capacity_zero {c : Cache κ ν} (h : c.capacity = 0) (k : κ) (v : ν) :
    c.insert k v = c := if_pos h

theorem insert_of_some {c : Cache κ ν} (hcap : c.capacity ≠ 0) {k : κ} {e : CacheEntry ν}
    (he : c.entries[k]? = some e) (v : ν) :
    c.insert k v = c.drawStamp.refresh k e v c.nextStamp := by
  simp only [insert, if_neg hcap, entries_drawStamp, he]

theorem insert_of_none {c : Cache κ ν} (hcap : c.capacity ≠ 0) {k : κ}
    (hk : c.entries[k]? = none) (v : ν) :
    c.insert k v = c.drawStamp.makeRoom.2.push k v c.nextStamp := by
  simp only [insert, if_neg hcap, entries_drawStamp, hk]

@[simp] theorem capacity_insert (c : Cache κ ν) (k : κ) (v : ν) :
    (c.insert k v).capacity = c.capacity := by
  by_cases hcap : c.capacity = 0
  · rw [insert_of_capacity_zero hcap]
  · cases he : c.entries[k]? with
    | none =>
      rw [insert_of_none hcap he]
      exact capacity_makeRoomUpTo _ c.drawStamp
    | some e =>
      rw [insert_of_some hcap he]
      rfl

theorem value?_insert_self [LawfulBEq κ] {c : Cache κ ν} (h : c.capacity ≠ 0) (k : κ) (v : ν) :
    (c.insert k v).value? k = some v := by
  cases he : c.entries[k]? with
  | none => rw [insert_of_none h he, value?_push, if_pos BEq.rfl]
  | some e => rw [insert_of_some h he, value?_refresh, if_pos BEq.rfl]

theorem value?_of_insert_of_ne [LawfulBEq κ] {c : Cache κ ν} {k j : κ} {v w : ν} (hne : k ≠ j)
    (h : (c.insert k v).value? j = some w) : c.value? j = some w := by
  have hbeq : ¬ (k == j) = true := by simpa using hne
  by_cases hcap : c.capacity = 0
  · rwa [insert_of_capacity_zero hcap] at h
  · cases he : c.entries[k]? with
    | none =>
      rw [insert_of_none hcap he, value?_push, if_neg hbeq] at h
      exact value?_of_makeRoomUpTo _ c.drawStamp h
    | some e => rwa [insert_of_some hcap he, value?_refresh, if_neg hbeq] at h

end ExplorerProxy.Cache
