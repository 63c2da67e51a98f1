import ExplorerProxy.Cache.RecencyList
import ExplorerProxy.Proofs.Cache.InStep

/-!
# A cache seen as a list

The pairs of a cache in the order of their latest use. On a cache in step, every
operation does to this list what the same operation of a recency list does, so
that nothing about stamps and indexes is needed beyond this module.
-/

namespace ExplorerProxy

set_option autoImplicit false

section Pairs

variable {κ ν : Type} (f g : κ → Option ν)

def pairsOf (ks : List κ) : List (κ × ν) := ks.filterMap fun k => (f k).map fun v => (k, v)

theorem pairsOf_cons {k : κ} {v : ν} (hk : f k = some v) (ks : List κ) :
    pairsOf f (k :: ks) = (k, v) :: pairsOf f ks := by
  simp [pairsOf, hk]

theorem pairsOf_cons_none {k : κ} (hk : f k = none) (ks : List κ) :
    pairsOf f (k :: ks) = pairsOf f ks := by
  simp [pairsOf, hk]

theorem pairsOf_concat {k : κ} {v : ν} (hk : f k = some v) (ks : List κ) :
    pairsOf f (ks ++ [k]) = pairsOf f ks ++ [(k, v)] := by
  simp [pairsOf, hk]

theorem pairsOf_congr {ks : List κ} (h : ∀ k ∈ ks, f k = g k) : pairsOf f ks = pairsOf g ks := by
  apply List.filterMap_congr
  intro k hk
  rw [h k hk]

theorem map_fst_pairsOf {ks : List κ} (h : ∀ k ∈ ks, (f k).isSome) :
    (pairsOf f ks).map Prod.fst = ks := by
  induction ks with
  | nil => rfl
  | cons k ks ih =>
    obtain ⟨v, hv⟩ := Option.isSome_iff_exists.mp (h k List.mem_cons_self)
    rw [pairsOf_cons f hv, List.map_cons, ih fun j hj => h j (List.mem_cons_of_mem k hj)]

variable [BEq κ] [LawfulBEq κ]

theorem filter_pairsOf (ks : List κ) (k : κ) :
    (pairsOf f ks).filter (·.1 != k) = pairsOf f (ks.filter (· != k)) := by
  induction ks with
  | nil => rfl
  | cons j ks ih =>
    cases hj : f j with
    | none =>
      rw [pairsOf_cons_none f hj, ih]
      by_cases h : j = k
      · simp [h]
      · simp [h, pairsOf_cons_none f hj]
    | some v =>
      rw [pairsOf_cons f hj]
      by_cases h : j = k
      · simpa [h] using ih
      · simp [h, ih, pairsOf_cons f hj]

theorem lookup_pairsOf {ks : List κ} {k : κ} (h : (f k).isSome → k ∈ ks) :
    (pairsOf f ks).lookup k = f k := by
  induction ks with
  | nil =>
    have hnone : f k = none := by simpa using h
    rw [hnone]
    rfl
  | cons j ks ih =>
    by_cases hk : k = j
    · subst hk
      cases hv : f k with
      | none =>
        rw [pairsOf_cons_none f hv, ih (by simp [hv]), hv]
      | some v => simp [pairsOf_cons f hv]
    · have hrest := ih fun hs => (List.mem_cons.mp (h hs)).resolve_left hk
      cases hv : f j with
      | none => rw [pairsOf_cons_none f hv, hrest]
      | some v => simp [pairsOf_cons f hv, List.lookup_cons, beq_eq_false_iff_ne.mpr hk, hrest]

end Pairs

namespace Cache

variable {κ ν : Type} [BEq κ] [Hashable κ]

def items (c : Cache κ ν) : List (κ × ν) := pairsOf c.value? c.keysByUse

/-- The cache without its stamps. -/
def asList (c : Cache κ ν) : RecencyList κ ν :=
  ⟨c.capacity, c.items, c.hits, c.misses, c.evictions⟩

variable {c : Cache κ ν}

theorem asList_empty (capacity : Nat) :
    (empty capacity : Cache κ ν).asList = RecencyList.empty capacity := by
  simp [asList, items, keysByUse, pairsOf, empty, RecencyList.empty]

theorem asList_clear (c : Cache κ ν) : c.clear.asList = c.asList.clear := by
  simp [asList, items, keysByUse, pairsOf, clear, RecencyList.clear]

theorem Indexed.map_fst_items (hc : Indexed c) : c.items.map Prod.fst = c.keysByUse :=
  map_fst_pairsOf _ fun k hk => (hc.mem_keysByUse k).mp hk

theorem Indexed.length_items (hc : Indexed c) : c.items.length = c.size := by
  rw [← hc.length_keysByUse, ← hc.map_fst_items, List.length_map]

theorem Indexed.size_asList (hc : Indexed c) : c.asList.size = c.size := hc.length_items

theorem InStep.stats_asList (hc : InStep c) : c.asList.stats = c.stats := by
  simp only [RecencyList.stats, stats, asList, hc.length_items, hc.held_eq]

theorem Indexed.isEmpty_asList (hc : Indexed c) : c.asList.isEmpty = c.isEmpty := by
  rw [RecencyList.isEmpty, isEmpty, ← hc.size_asList, RecencyList.size]
  cases c.asList.items <;> rfl

section Lawful

variable [LawfulBEq κ]

theorem Indexed.value?_asList (hc : Indexed c) (k : κ) : c.asList.value? k = c.value? k := by
  exact lookup_pairsOf _ (hc.mem_keysByUse k).mpr

theorem Indexed.contains_asList (hc : Indexed c) (k : κ) : c.asList.contains k = c.contains k := by
  rw [RecencyList.contains, hc.value?_asList, contains_eq_isSome_value?]

theorem Indexed.items_refresh (hc : Indexed c) {n : Nat}
    (hn : ∀ s j, c.recency[s]? = some j → s < n) {k : κ} {e : CacheEntry ν}
    (he : c.entries[k]? = some e) (v : ν) :
    (c.refresh k e v n).items = (k, v) :: c.items.filter (·.1 != k) := by
  have hk : (c.refresh k e v n).value? k = some v := by simp [value?_refresh]
  rw [items, hc.keysByUse_refresh hn he, pairsOf_cons _ hk, items, filter_pairsOf]
  congr 1
  apply pairsOf_congr
  intro j hj
  have hne : k ≠ j := Ne.symm (bne_iff_ne.mp (List.mem_filter.mp hj).2)
  rw [value?_refresh, if_neg (by simpa using hne)]

theorem Indexed.items_push (hc : Indexed c) {n : Nat}
    (hn : ∀ s j, c.recency[s]? = some j → s < n) {k : κ} (hk : c.value? k = none) (v : ν) :
    (c.push k v n).items = (k, v) :: c.items := by
  have hv : (c.push k v n).value? k = some v := by simp [value?_push]
  rw [items, keysByUse_push hn, pairsOf_cons _ hv, items]
  congr 1
  apply pairsOf_congr
  intro j hj
  have hne : k ≠ j := by
    rintro rfl
    have hsome := (hc.mem_keysByUse k).mp hj
    simp [hk] at hsome
  rw [value?_push, if_neg (by simpa using hne)]

theorem Indexed.items_of_evict? (hc : Indexed c) {d : Cache κ ν} {k : κ}
    (h : c.evict? = some (k, d)) : d.items = c.items.dropLast := by
  have hkeys := keysByUse_of_evict? h
  have hlast : k ∈ c.keysByUse := by rw [hkeys]; simp
  obtain ⟨v, hv⟩ := Option.isSome_iff_exists.mp ((hc.mem_keysByUse k).mp hlast)
  have hnodup := hc.nodup_keysByUse
  rw [hkeys] at hnodup
  rw [items, items, hkeys, pairsOf_concat _ hv, List.dropLast_concat]
  apply pairsOf_congr
  intro j hj
  have hne : k ≠ j := by
    rintro rfl
    exact (List.nodup_append.mp hnodup).2.2 k hj k (by simp) rfl
  rw [value?_evict? h, if_neg (by simpa using hne)]

theorem InStep.get (hc : InStep c) (h : c.nextStamp < lastStamp) (k : κ) : InStep (c.get k).2 := by
  have hd := hc.drawStamp h
  cases he : c.entries[k]? with
  | none =>
    rw [get_of_none he]
    exact ⟨⟨hd.stamped, hd.below, hd.size_recency, hd.size_le⟩, hd.held_eq⟩
  | some e =>
    have hnext : c.nextStamp < c.drawStamp.nextStamp := by
      rw [nextStamp_drawStamp h]
      exact Nat.lt_succ_self _
    have hr := hd.toIndexed.refresh hc.below he e.value hnext
    rw [get_of_some he]
    refine ⟨⟨hr.stamped, hr.below, hr.size_recency, hr.size_le⟩, ?_⟩
    exact hc.held_eq.trans (size_refresh (c := c.drawStamp) he e.value c.nextStamp).symm

theorem InStep.asList_get (hc : InStep c) (k : κ) :
    ((c.get k).1, (c.get k).2.asList) = c.asList.get k := by
  rw [RecencyList.get, hc.value?_asList]
  cases he : c.entries[k]? with
  | none =>
    rw [get_of_none he, value?_of_none he]
    rfl
  | some e =>
    have hitems := hc.toIndexed.items_refresh hc.below he e.value
    rw [get_of_some he, value?_of_some he]
    exact congrArg (fun l => (some e.value, RecencyList.mk c.capacity l (c.hits + 1) c.misses
      c.evictions)) hitems

/-- A cache with room for one more key, made by at most one eviction from another. -/
structure RoomMade (c d : Cache κ ν) : Prop where
  indexed : Indexed d
  room : d.size < d.capacity
  stamps : ∀ (s : Nat) (j : κ), d.recency[s]? = some j → c.recency[s]? = some j
  nextStamp_eq : d.nextStamp = c.nextStamp
  asList_eq : d.asList = if c.size < c.capacity then c.asList else
    { c.asList with items := c.items.dropLast, evictions := c.evictions + 1 }

theorem InStep.roomMade (hc : InStep c) (hcap : c.capacity ≠ 0) : RoomMade c c.makeRoom.2 := by
  rcases Nat.lt_or_ge c.size c.capacity with hlt | hge
  · rw [makeRoom_of_lt hlt]
    exact ⟨hc.toIndexed, hlt, fun _ _ h => h, rfl, (if_pos hlt).symm⟩
  · have hfull : c.size = c.capacity := Nat.le_antisymm hc.size_le hge
    obtain ⟨k, d, h⟩ := hc.exists_evict? (by omega)
    have hsize := hc.size_of_evict? h
    have hitems := hc.items_of_evict? h
    have hd := hc.of_evict? h
    rw [hc.makeRoom_of_full hfull h]
    obtain ⟨r, _, heq⟩ := evict?_eq_some h
    have hcapd : d.capacity = c.capacity := by rw [heq]
    have hlt : d.size < d.capacity := by omega
    refine ⟨hd, hlt, ?_, by rw [heq], ?_⟩
    · intro s j hs
      rw [heq, Std.TreeMap.getElem?_erase] at hs
      split at hs
      · simp at hs
      · exact hs
    · rw [if_neg (by omega), asList, hitems, heq]
      rfl

theorem InStep.roomMade_drawStamp (hc : InStep c) (h : c.nextStamp < lastStamp)
    (hcap : c.capacity ≠ 0) {k : κ} (hk : c.entries[k]? = none) :
    RoomMade c.drawStamp c.drawStamp.makeRoom.2 ∧
      (∀ s j, c.drawStamp.makeRoom.2.recency[s]? = some j → s < c.nextStamp) ∧
      c.drawStamp.makeRoom.2.value? k = none := by
  have hroom := (hc.drawStamp h).roomMade hcap
  refine ⟨hroom, fun s j hs => hc.below s j (hroom.stamps s j hs), ?_⟩
  by_contra hne
  obtain ⟨v, hv⟩ := Option.ne_none_iff_exists'.mp hne
  have hold := value?_of_makeRoomUpTo _ c.drawStamp hv
  rw [value?_drawStamp, value?_of_none hk] at hold
  simp at hold

theorem InStep.insert (hc : InStep c) (h : c.nextStamp < lastStamp) (k : κ) (v : ν) :
    InStep (c.insert k v) := by
  have hnext : c.nextStamp < c.drawStamp.nextStamp := by
    rw [nextStamp_drawStamp h]
    exact Nat.lt_succ_self _
  by_cases hcap : c.capacity = 0
  · rwa [insert_of_capacity_zero hcap]
  · cases he : c.entries[k]? with
    | some e =>
      rw [insert_of_some hcap he]
      refine ⟨(hc.drawStamp h).toIndexed.refresh hc.below he v hnext, ?_⟩
      exact hc.held_eq.trans (size_refresh (c := c.drawStamp) he v c.nextStamp).symm
    | none =>
      obtain ⟨hroom, hnew, hk⟩ := hc.roomMade_drawStamp h hcap he
      rw [insert_of_none hcap he]
      refine hroom.indexed.push hnew ?_ v ?_ hroom.room
      · simpa [value?] using hk
      · rwa [hroom.nextStamp_eq]

theorem InStep.asList_insert (hc : InStep c) (h : c.nextStamp < lastStamp) (k : κ) (v : ν) :
    (c.insert k v).asList = c.asList.insert k v := by
  by_cases hcap : c.capacity = 0
  · rw [insert_of_capacity_zero hcap, RecencyList.insert, if_pos (by exact hcap)]
  · have hcapl : c.asList.capacity ≠ 0 := hcap
    rw [RecencyList.insert, if_neg hcapl, RecencyList.contains, hc.value?_asList]
    cases he : c.entries[k]? with
    | some e =>
      have hitems := hc.toIndexed.items_refresh hc.below he v
      rw [insert_of_some hcap he, value?_of_some he, if_pos Option.isSome_some]
      exact congrArg (fun l => RecencyList.mk c.capacity l c.hits c.misses c.evictions) hitems
    | none =>
      obtain ⟨hroom, hnew, hk⟩ := hc.roomMade_drawStamp h hcap he
      have hitems := hroom.indexed.items_push hnew hk v
      have hlist := hroom.asList_eq
      have hlen : c.asList.items.length = c.size := hc.length_items
      rw [insert_of_none hcap he, value?_of_none he, if_neg (by simp), hlen]
      generalize c.drawStamp.makeRoom.2 = d at *
      have hpush : (d.push k v c.nextStamp).asList = { d.asList with items := (k, v) :: d.items } :=
        congrArg (fun l => RecencyList.mk d.capacity l d.hits d.misses d.evictions) hitems
      have hd : d.items = d.asList.items := rfl
      rw [hpush, hd, hlist]
      rcases Nat.lt_or_ge c.size c.capacity with hlt | hge
      · rw [if_pos (by exact hlt), if_pos (by exact hlt)]
        rfl
      · rw [if_neg (by exact Nat.not_lt.mpr hge), if_neg (by exact Nat.not_lt.mpr hge)]
        rfl

theorem inStep_clear (c : Cache κ ν) : InStep c.clear where
  stamped := by simp [clear]
  below := by simp [clear]
  size_recency := by simp [clear, size]
  size_le := by simp [clear, size]
  held_eq := by simp [clear, size]

end Lawful

end Cache

end ExplorerProxy
