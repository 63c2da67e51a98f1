import ExplorerProxy.Proofs.Cache.Values
import Mathlib.Data.List.Nodup
import Mathlib.Data.List.Sort

/-!
# The two indexes of a cache

A cache is in step when its two indexes are inverse to each other, all stamps lie
below the next one, and the counted entries are those held, within the capacity.
An empty cache is in step, and each operation keeps a cache in step as long as the
stamps have not run out. In step, an eviction takes the key with the least stamp,
and one eviction makes room.
-/

namespace ExplorerProxy

set_option autoImplicit false

section Index

variable {κ : Type}

theorem minEntry?_eq_head?_toList (t : Std.TreeMap Nat κ) : t.minEntry? = t.toList.head? := by
  change Std.DTreeMap.Internal.Impl.Const.minEntry? t.inner.inner =
    (Std.DTreeMap.Internal.Impl.Const.toList t.inner.inner).head?
  rw [Std.DTreeMap.Internal.Impl.Const.toList_eq_toListModel_map]
  generalize t.inner.inner = m
  induction m using Std.DTreeMap.Internal.Impl.Const.minEntry?.induct_unfolding <;> simp_all

theorem mem_toList_iff (t : Std.TreeMap Nat κ) (s : Nat) (k : κ) :
    (s, k) ∈ t.toList ↔ t[s]? = some k :=
  Std.TreeMap.mem_toList_iff_getElem?_eq_some

theorem pairwise_toList (t : Std.TreeMap Nat κ) : t.toList.Pairwise fun a b => a.1 < b.1 := by
  apply Std.TreeMap.ordered_keys_toList.imp
  intro a b h
  exact Nat.compare_eq_lt.mp h

/-- The list of an index is the only one in the order of stamps with its entries. -/
theorem toList_eq_of_mem_iff (t : Std.TreeMap Nat κ) {l : List (Nat × κ)}
    (hl : l.Pairwise fun a b => a.1 < b.1) (h : ∀ s k, (s, k) ∈ l ↔ t[s]? = some k) :
    t.toList = l := by
  have nodup {m : List (Nat × κ)} (hm : m.Pairwise fun a b => a.1 < b.1) : m.Nodup := by
    apply hm.imp
    intro a b hab heq
    exact absurd (congrArg Prod.fst heq) (Nat.ne_of_lt hab)
  refine List.Perm.eq_of_pairwise ?_ (pairwise_toList t) hl ?_
  · intro a b _ _ hab hba
    omega
  · apply (List.perm_ext_iff_of_nodup (nodup (pairwise_toList t)) (nodup hl)).mpr
    rintro ⟨s, k⟩
    rw [mem_toList_iff, h]

theorem toList_erase (t : Std.TreeMap Nat κ) (s : Nat) :
    (t.erase s).toList = t.toList.filter (·.1 != s) := by
  apply toList_eq_of_mem_iff
  · exact (pairwise_toList t).filter _
  · intro r k
    rw [List.mem_filter, mem_toList_iff, Std.TreeMap.getElem?_erase]
    by_cases hr : s = r
    · simp [hr]
    · simp [hr, Ne.symm hr]

theorem toList_insert_of_lt (t : Std.TreeMap Nat κ) {n : Nat} (k : κ)
    (h : ∀ s j, t[s]? = some j → s < n) : (t.insert n k).toList = t.toList ++ [(n, k)] := by
  apply toList_eq_of_mem_iff
  · rw [List.pairwise_append]
    refine ⟨pairwise_toList t, List.pairwise_singleton _ _, ?_⟩
    rintro ⟨s, j⟩ hs b hb
    rw [List.mem_singleton.mp hb]
    exact h s j ((mem_toList_iff t s j).mp hs)
  · intro s j
    rw [List.mem_append, mem_toList_iff, List.mem_singleton, Std.TreeMap.getElem?_insert]
    by_cases hs : n = s
    · subst hs
      have hn : t[n]? ≠ some j := fun hj => absurd (h n j hj) (Nat.lt_irrefl n)
      simp [hn, eq_comm]
    · simp [hs, Ne.symm hs]

end Index

namespace Cache

variable {κ ν : Type} [BEq κ] [Hashable κ]

/-- Both indexes tell the same story. -/
structure Indexed (c : Cache κ ν) : Prop where
  /-- A stamp leads to a key just when it is the stamp of that key. -/
  stamped : ∀ s k, c.recency[s]? = some k ↔ ∃ v, c.entries[k]? = some (CacheEntry.mk v s)
  /-- Stamps are drawn in ascending order. -/
  below : ∀ s k, c.recency[s]? = some k → s < c.nextStamp
  size_recency : c.recency.size = c.size
  size_le : c.size ≤ c.capacity

/-- The indexes agree, and the counted entries are those held. In the middle of an
insertion only the first is true. -/
structure InStep (c : Cache κ ν) : Prop extends Indexed c where
  held_eq : c.held = c.size

theorem inStep_empty [LawfulBEq κ] (capacity : Nat) : InStep (empty capacity : Cache κ ν) where
  stamped := by simp [empty]
  below := by simp [empty]
  size_recency := by simp [empty, size]
  size_le := by simp [empty, size]
  held_eq := by simp [empty, size]

theorem nextStamp_drawStamp {c : Cache κ ν} (h : c.nextStamp < lastStamp) :
    c.drawStamp.nextStamp = c.nextStamp + 1 := by
  simp only [drawStamp]
  omega

theorem InStep.drawStamp {c : Cache κ ν} (hc : InStep c) (h : c.nextStamp < lastStamp) :
    InStep c.drawStamp where
  stamped := hc.stamped
  below := by
    intro s k hs
    have hlt := hc.below s k hs
    rw [nextStamp_drawStamp h]
    omega
  size_recency := hc.size_recency
  size_le := hc.size_le
  held_eq := hc.held_eq

/-- The keys that are held, the most recently used first. -/
def keysByUse (c : Cache κ ν) : List κ := c.recency.toList.reverse.map (·.2)

theorem Indexed.recency_stamp {c : Cache κ ν} (hc : Indexed c) {k : κ} {e : CacheEntry ν}
    (he : c.entries[k]? = some e) : c.recency[e.stamp]? = some k :=
  (hc.stamped e.stamp k).mpr ⟨e.value, he⟩

theorem Indexed.stamp_eq {c : Cache κ ν} (hc : Indexed c) {s : Nat} {k : κ} {e : CacheEntry ν}
    (hs : c.recency[s]? = some k) (he : c.entries[k]? = some e) : s = e.stamp := by
  obtain ⟨v, hv⟩ := (hc.stamped s k).mp hs
  have heq : e = ⟨v, s⟩ := Option.some.inj (he.symm.trans hv)
  rw [heq]

theorem Indexed.mem_keysByUse {c : Cache κ ν} (hc : Indexed c) (k : κ) :
    k ∈ c.keysByUse ↔ (c.value? k).isSome := by
  simp only [keysByUse, List.mem_map, List.mem_reverse, Prod.exists, value?, Option.isSome_map]
  constructor
  · rintro ⟨s, j, hs, rfl⟩
    obtain ⟨v, hv⟩ := (hc.stamped s j).mp ((mem_toList_iff _ _ _).mp hs)
    simp [hv]
  · intro h
    obtain ⟨e, he⟩ := Option.isSome_iff_exists.mp h
    exact ⟨e.stamp, k, (mem_toList_iff _ _ _).mpr (hc.recency_stamp he), rfl⟩

theorem Indexed.nodup_keysByUse {c : Cache κ ν} (hc : Indexed c) : c.keysByUse.Nodup := by
  rw [keysByUse, List.map_reverse, List.nodup_reverse]
  refine List.Nodup.map_on ?_ ((pairwise_toList c.recency).imp ?_)
  · rintro ⟨s, k⟩ hs ⟨r, j⟩ hr heq
    have hk := (mem_toList_iff _ _ _).mp hs
    have hj := (mem_toList_iff _ _ _).mp hr
    obtain rfl : k = j := heq
    obtain ⟨v, hv⟩ := (hc.stamped s k).mp hk
    rw [hc.stamp_eq hj hv]
  · intro a b hab heq
    exact absurd (congrArg Prod.fst heq) (Nat.ne_of_lt hab)

theorem Indexed.length_keysByUse {c : Cache κ ν} (hc : Indexed c) :
    c.keysByUse.length = c.size := by
  rw [keysByUse, List.length_map, List.length_reverse, Std.TreeMap.length_toList, hc.size_recency]

theorem Indexed.stamp_eq_iff {c : Cache κ ν} (hc : Indexed c) {s : Nat} {j k : κ} {e : CacheEntry ν}
    (hs : c.recency[s]? = some j) (he : c.entries[k]? = some e) : s = e.stamp ↔ j = k := by
  constructor
  · rintro rfl
    exact Option.some.inj (hs.symm.trans (hc.recency_stamp he))
  · rintro rfl
    exact hc.stamp_eq hs he

theorem Indexed.mem_recency {c : Cache κ ν} (hc : Indexed c) {k : κ} {e : CacheEntry ν}
    (he : c.entries[k]? = some e) : e.stamp ∈ c.recency :=
  Std.TreeMap.mem_iff_isSome_getElem?.mpr (by rw [hc.recency_stamp he]; rfl)

theorem contains_recency_of_lt {c : Cache κ ν} {n : Nat}
    (hn : ∀ s j, c.recency[s]? = some j → s < n) : c.recency.contains n = false := by
  rw [Std.TreeMap.contains_eq_isSome_getElem?, Option.isSome_eq_false_iff,
    Option.isNone_iff_eq_none]
  by_contra h
  obtain ⟨j, hj⟩ := Option.ne_none_iff_exists'.mp h
  exact absurd (hn n j hj) (Nat.lt_irrefl n)

theorem keysByUse_push {c : Cache κ ν} {n : Nat} (hn : ∀ s j, c.recency[s]? = some j → s < n)
    (k : κ) (v : ν) : (c.push k v n).keysByUse = k :: c.keysByUse := by
  simp [keysByUse, push, toList_insert_of_lt _ k hn]

theorem size_refresh [LawfulBEq κ] {c : Cache κ ν} {k : κ} {e : CacheEntry ν}
    (he : c.entries[k]? = some e) (v : ν) (n : Nat) : (c.refresh k e v n).size = c.size := by
  have hk : k ∈ c.entries := Std.HashMap.mem_iff_isSome_getElem?.mpr (by rw [he]; rfl)
  simp only [size, refresh, Std.HashMap.size_insert, if_pos hk]

section NewStamp

variable [LawfulBEq κ] {c : Cache κ ν} (hc : Indexed c) {n : Nat}
variable (hn : ∀ s j, c.recency[s]? = some j → s < n)
include hc hn

theorem Indexed.keysByUse_refresh {k : κ} {e : CacheEntry ν} (he : c.entries[k]? = some e) (v : ν) :
    (c.refresh k e v n).keysByUse = k :: c.keysByUse.filter (· != k) := by
  have hrest : c.recency.toList.filter (·.1 != e.stamp) =
      c.recency.toList.filter (·.2 != k) := by
    apply List.filter_congr
    rintro ⟨s, j⟩ hs
    have hiff := hc.stamp_eq_iff ((mem_toList_iff _ _ _).mp hs) he
    rw [Bool.eq_iff_iff, bne_iff_ne, bne_iff_ne, Ne, hiff]
  have hnew : ∀ s j, (c.recency.erase e.stamp)[s]? = some j → s < n := by
    intro s j hs
    rw [Std.TreeMap.getElem?_erase] at hs
    split at hs
    · simp at hs
    · exact hn s j hs
  simp only [keysByUse, refresh]
  rw [toList_insert_of_lt _ k hnew, toList_erase, hrest, List.reverse_append, List.map_append,
    List.filter_map, ← List.filter_reverse]
  rfl

theorem Indexed.refresh {k : κ} {e : CacheEntry ν} (he : c.entries[k]? = some e) (v : ν)
    (hnext : n < c.nextStamp) : Indexed (c.refresh k e v n) where
  stamped := by
    intro s j
    simp only [Cache.refresh, Std.TreeMap.getElem?_insert, Std.TreeMap.getElem?_erase,
      Std.HashMap.getElem?_insert, Nat.compare_eq_eq, beq_iff_eq]
    by_cases hs : n = s
    · subst hs
      by_cases hk : k = j
      · simp [hk]
      · have hnone : ¬ ∃ w, c.entries[j]? = some (CacheEntry.mk w n) := by
          intro h
          exact absurd (hn n j ((hc.stamped n j).mpr h)) (Nat.lt_irrefl n)
        simpa [hk] using hnone
    · by_cases hk : k = j
      · subst hk
        have hnone : ¬ (e.stamp ≠ s ∧ c.recency[s]? = some k) := by
          rintro ⟨hne, hj⟩
          exact hne (hc.stamp_eq hj he).symm
        simpa [hs] using hnone
      · have hold : c.recency[s]? = some j → e.stamp ≠ s := by
          rintro hj rfl
          exact hk (Option.some.inj ((hc.recency_stamp he).symm.trans hj))
        simp only [if_neg hs, beq_eq_false_iff_ne.mpr hk, Bool.false_eq_true, if_false,
          ← hc.stamped s j]
        split
        · simp only [reduceCtorEq, false_iff]
          intro hj
          exact hold hj ‹_›
        · exact Iff.rfl
  below := by
    intro s j hs
    simp only [Cache.refresh, Std.TreeMap.getElem?_insert, Std.TreeMap.getElem?_erase,
      Nat.compare_eq_eq] at hs ⊢
    split at hs
    · omega
    · split at hs
      · simp at hs
      · exact hc.below s j hs
  size_recency := by
    have hpos : 0 < c.recency.size := by
      rw [← Std.TreeMap.length_toList]
      exact List.length_pos_of_mem ((mem_toList_iff _ _ _).mpr (hc.recency_stamp he))
    have hnot : (c.recency.erase e.stamp).contains n = false := by
      rw [Std.TreeMap.contains_erase, contains_recency_of_lt hn, Bool.and_false]
    rw [size_refresh he v n, ← hc.size_recency]
    simp only [Cache.refresh, Std.TreeMap.size_insert, hnot, Std.TreeMap.size_erase,
      Std.TreeMap.contains_iff_mem.mpr (hc.mem_recency he), if_true, Bool.false_eq_true, if_false]
    omega
  size_le := (size_refresh he v n).trans_le hc.size_le

theorem Indexed.push {k : κ} (hk : c.entries[k]? = none) (v : ν) (hnext : n < c.nextStamp)
    (hroom : c.size < c.capacity) : InStep (c.push k v n) := by
  have hsize : (c.push k v n).size = c.size + 1 := by
    have hmem : k ∉ c.entries := by simp [Std.HashMap.mem_iff_isSome_getElem?, hk]
    simp only [size, Cache.push, Std.HashMap.size_insert, if_neg hmem]
  refine ⟨⟨?_, ?_, ?_, ?_⟩, rfl⟩
  · intro s j
    simp only [Cache.push, Std.TreeMap.getElem?_insert, Std.HashMap.getElem?_insert,
      Nat.compare_eq_eq, beq_iff_eq]
    by_cases hs : n = s
    · subst hs
      by_cases hj : k = j
      · simp [hj]
      · have hnone : ¬ ∃ w, c.entries[j]? = some (CacheEntry.mk w n) := by
          intro h
          exact absurd (hn n j ((hc.stamped n j).mpr h)) (Nat.lt_irrefl n)
        simpa [hj] using hnone
    · by_cases hj : k = j
      · subst hj
        have hnone : c.recency[s]? ≠ some k := by
          intro h
          obtain ⟨w, hw⟩ := (hc.stamped s k).mp h
          simp [hk] at hw
        simpa [hs] using hnone
      · simp [hs, hj, hc.stamped s j]
  · intro s j hs
    simp only [Cache.push, Std.TreeMap.getElem?_insert, Nat.compare_eq_eq] at hs ⊢
    split at hs
    · omega
    · exact hc.below s j hs
  · rw [hsize, ← hc.size_recency]
    simp only [Cache.push, Std.TreeMap.size_insert, contains_recency_of_lt hn,
      Bool.false_eq_true, if_false]
  · rw [hsize]
    exact hroom

end NewStamp

section Eviction

variable {c d : Cache κ ν} {k : κ}

/-- The dropped key has the least stamp of all. -/
theorem toList_recency_of_evict? (h : c.evict? = some (k, d)) :
    ∃ s, c.recency.toList = (s, k) :: d.recency.toList ∧
      d = { c with
        entries := c.entries.erase k
        recency := c.recency.erase s
        evictions := c.evictions + 1 } := by
  obtain ⟨s, hmin, rfl⟩ := evict?_eq_some h
  rw [minEntry?_eq_head?_toList] at hmin
  obtain ⟨rest, hlist⟩ := List.head?_eq_some_iff.mp hmin
  have hsorted := pairwise_toList c.recency
  refine ⟨s, ?_, rfl⟩
  rw [hlist, List.pairwise_cons] at hsorted
  rw [toList_erase, hlist, List.filter_cons_of_neg (by simp)]
  congr 1
  symm
  apply List.filter_eq_self.mpr
  intro a ha
  have hlt := hsorted.1 a ha
  simp only [bne_iff_ne]
  omega

theorem keysByUse_of_evict? (h : c.evict? = some (k, d)) : c.keysByUse = d.keysByUse ++ [k] := by
  obtain ⟨s, hlist, _⟩ := toList_recency_of_evict? h
  rw [keysByUse, hlist, List.reverse_cons, List.map_append]
  rfl

theorem Indexed.exists_evict? (hc : Indexed c) (h : 0 < c.size) :
    ∃ k d, c.evict? = some (k, d) := by
  rw [← hc.size_recency, ← Std.TreeMap.length_toList] at h
  obtain ⟨⟨s, k⟩, rest, hlist⟩ := List.exists_cons_of_length_pos h
  simp only [evict?, minEntry?_eq_head?_toList, hlist, List.head?_cons, Option.map_some]
  exact ⟨k, _, rfl⟩

theorem Indexed.entry_of_evict? (hc : Indexed c) (h : c.evict? = some (k, d)) :
    ∃ e, c.entries[k]? = some e ∧ ∀ s j, c.recency[s]? = some j → e.stamp ≤ s := by
  obtain ⟨r, hlist, _⟩ := toList_recency_of_evict? h
  have hr : c.recency[r]? = some k :=
    (mem_toList_iff _ _ _).mp (by rw [hlist]; exact List.mem_cons_self)
  obtain ⟨v, hv⟩ := (hc.stamped r k).mp hr
  refine ⟨⟨v, r⟩, hv, ?_⟩
  intro s j hs
  have hsorted := pairwise_toList c.recency
  have hmem := (mem_toList_iff _ _ _).mpr hs
  rw [hlist, List.pairwise_cons] at hsorted
  rw [hlist] at hmem
  rcases List.mem_cons.mp hmem with heq | hmem
  · exact Nat.le_of_eq (congrArg Prod.fst heq).symm
  · exact Nat.le_of_lt (hsorted.1 (s, j) hmem)

theorem makeRoom_of_lt (h : c.size < c.capacity) : c.makeRoom = ([], c) := by
  simp only [makeRoom]
  cases c.recency.size with
  | zero => rfl
  | succ n => simp only [makeRoomUpTo, if_pos h]

variable [LawfulBEq κ]

theorem Indexed.size_of_evict? (hc : Indexed c) (h : c.evict? = some (k, d)) :
    d.size + 1 = c.size := by
  obtain ⟨e, he, _⟩ := hc.entry_of_evict? h
  obtain ⟨s, hlist, heq⟩ := toList_recency_of_evict? h
  have hk : k ∈ c.entries := Std.HashMap.mem_iff_isSome_getElem?.mpr (by rw [he]; rfl)
  have hpos : 0 < c.size := by
    rw [← hc.size_recency, ← Std.TreeMap.length_toList, hlist]
    exact Nat.succ_pos _
  have hsize : d.size = c.size - 1 := by
    rw [heq]
    simp only [size, Std.HashMap.size_erase, if_pos hk]
  omega

theorem Indexed.of_evict? (hc : Indexed c) (h : c.evict? = some (k, d)) : Indexed d := by
  have hsize := hc.size_of_evict? h
  obtain ⟨r, hlist, heq⟩ := toList_recency_of_evict? h
  obtain ⟨e, he, _⟩ := hc.entry_of_evict? h
  have hr : c.recency[r]? = some k :=
    (mem_toList_iff _ _ _).mp (by rw [hlist]; exact List.mem_cons_self)
  refine ⟨?_, ?_, ?_, ?_⟩
  · intro s j
    rw [heq]
    simp only [Std.TreeMap.getElem?_erase, Nat.compare_eq_eq, Std.HashMap.getElem?_erase,
      beq_iff_eq]
    by_cases hs : c.recency[s]? = some j
    · have hiff : r = s ↔ k = j := by
        rw [hc.stamp_eq hr he, eq_comm, eq_comm (a := k)]
        exact hc.stamp_eq_iff hs he
      by_cases hj : k = j
      · simp [hj, hiff.mpr hj]
      · have hne : r ≠ s := fun heq => hj (hiff.mp heq)
        simpa [hne, hj] using hc.stamped s j
    · have hnone : ¬ ∃ w, c.entries[j]? = some (CacheEntry.mk w s) :=
        fun hw => hs ((hc.stamped s j).mpr hw)
      split <;> split <;> simp_all
  · intro s j hs
    rw [heq] at hs ⊢
    simp only [Std.TreeMap.getElem?_erase] at hs
    split at hs
    · simp at hs
    · exact hc.below s j hs
  · rw [← Std.TreeMap.length_toList]
    have hlen := congrArg List.length hlist
    rw [Std.TreeMap.length_toList, List.length_cons, hc.size_recency] at hlen
    omega
  · have hle := hc.size_le
    rw [heq] at hsize ⊢
    simp only at hsize ⊢
    omega

/-- A full cache drops one key, and no second one. -/
theorem Indexed.makeRoom_of_full (hc : Indexed c) (hfull : c.size = c.capacity)
    (h : c.evict? = some (k, d)) : c.makeRoom = ([k], d) := by
  have hsize := hc.size_of_evict? h
  have hroom : d.size < d.capacity := by
    obtain ⟨s, _, heq⟩ := toList_recency_of_evict? h
    have hcap : d.capacity = c.capacity := by rw [heq]
    omega
  have hdone : d.makeRoomUpTo (c.recency.size - 1) = ([], d) := by
    have hd := makeRoom_of_lt hroom
    have hlen := (hc.of_evict? h).size_recency
    rwa [makeRoom, hlen, show d.size = c.recency.size - 1 by rw [hc.size_recency]; omega] at hd
  have hpos : c.recency.size = c.recency.size - 1 + 1 := by
    rw [hc.size_recency]
    omega
  rw [makeRoom, hpos]
  simp only [makeRoomUpTo, hfull, Nat.lt_irrefl, if_false, h, hdone]

end Eviction

end Cache

end ExplorerProxy
