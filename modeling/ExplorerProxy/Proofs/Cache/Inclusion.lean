import ExplorerProxy.Proofs.Cache.Counts
import ExplorerProxy.Proofs.Cache.Latest

/-!
# More room

Two caches of different capacity to which the same is done. They come apart at every lookup
that only the larger one answers, and at every eviction. What stays is that the list of the
smaller one is part of the list of the larger one, and that it is full if it is not all of
it. So the larger cache answers whatever the smaller one answers, and evicts no more.
-/

namespace ExplorerProxy

set_option autoImplicit false

section Parts

variable {κ ν : Type} {c : Nat} {xs ys : List (κ × ν)}

/-- As much of a list of pairs with distinct keys as there is room for, in its order. -/
structure PartOf (c : Nat) (xs ys : List (κ × ν)) : Prop where
  nodup : (ys.map Prod.fst).Nodup
  sublist : xs.Sublist ys
  length_eq : xs.length = min c ys.length

theorem sublist_dropLast (h : xs.Sublist ys) : xs.dropLast.Sublist ys.dropLast := by
  have hback := h.reverse.tail.reverse
  rwa [List.tail_reverse, List.tail_reverse, List.reverse_reverse, List.reverse_reverse] at hback

namespace PartOf

theorem nodup_part (h : PartOf c xs ys) : (xs.map Prod.fst).Nodup :=
  h.nodup.sublist (h.sublist.map Prod.fst)

theorem eq_of_lt (h : PartOf c xs ys) (hlt : xs.length < c) : xs = ys := by
  have hlength := h.length_eq
  exact h.sublist.eq_of_length (by omega)

theorem cons {k : κ} (hd : (ys.map Prod.fst).Nodup) (hk : k ∉ ys.map Prod.fst)
    (hsub : xs.Sublist ys) (hlength : xs.length + 1 = min c (ys.length + 1)) (v : ν) :
    PartOf c ((k, v) :: xs) ((k, v) :: ys) :=
  ⟨List.nodup_cons.mpr ⟨hk, hd⟩, hsub.cons_cons _, hlength⟩

/-- A key that is new to a full part costs its last pair. -/
theorem cons_dropLast {k : κ} (hc : 0 < c) (hfull : xs.length = c) (hd : (ys.map Prod.fst).Nodup)
    (hk : k ∉ ys.map Prod.fst) (hsub : xs.dropLast.Sublist ys) (v : ν) :
    PartOf c ((k, v) :: xs.dropLast) ((k, v) :: ys) := by
  have hle := hsub.length_le
  rw [List.length_dropLast] at hle
  refine cons hd hk hsub ?_ v
  rw [List.length_dropLast]
  omega

end PartOf

variable [DecidableEq κ] {k : κ}

theorem length_filter_of_lookup (hd : (xs.map Prod.fst).Nodup) {v : ν}
    (hk : xs.lookup k = some v) : (xs.filter (·.1 != k)).length + 1 = xs.length := by
  obtain ⟨front, rest, rfl, hne⟩ := List.lookup_eq_some_iff.mp hk
  rw [List.map_append, List.map_cons, List.nodup_middle, List.nodup_cons, List.mem_append,
    not_or] at hd
  obtain ⟨⟨hfront, hrest⟩, _⟩ := hd
  rw [List.filter_append, List.filter_cons_of_neg (by simp), filter_eq_self_of_notMem hfront,
    filter_eq_self_of_notMem hrest]
  simp only [List.length_append, List.length_cons]
  omega

namespace PartOf

theorem lookup_eq_some (h : PartOf c xs ys) {v : ν} (hk : xs.lookup k = some v) :
    ys.lookup k = some v := by
  rw [lookup_eq_some_iff_mem h.nodup]
  exact h.sublist.subset ((lookup_eq_some_iff_mem h.nodup_part k v).mp hk)

theorem front (h : PartOf c xs ys) {u : ν} (hk : xs.lookup k = some u) (v : ν) :
    PartOf c ((k, v) :: xs.filter (·.1 != k)) ((k, v) :: ys.filter (·.1 != k)) := by
  have hxs := length_filter_of_lookup h.nodup_part hk
  have hys := length_filter_of_lookup h.nodup (h.lookup_eq_some hk)
  have hlength := h.length_eq
  refine cons (nodup_filter h.nodup k) (notMem_map_fst_filter ys k) (h.sublist.filter _) ?_ v
  omega

theorem sublist_filter (h : PartOf c xs ys) (hk : xs.lookup k = none) :
    xs.Sublist (ys.filter (·.1 != k)) := by
  have hxs := h.sublist.filter (·.1 != k)
  rwa [filter_eq_self_of_notMem (notMem_of_lookup_eq_none hk)] at hxs

theorem front_right (h : PartOf c xs ys) (hk : xs.lookup k = none) {v : ν}
    (hv : ys.lookup k = some v) : PartOf c xs ((k, v) :: ys.filter (·.1 != k)) := by
  have hys := length_filter_of_lookup h.nodup hv
  have hlength := h.length_eq
  refine ⟨?_, (h.sublist_filter hk).cons _, ?_⟩
  · exact List.nodup_cons.mpr ⟨notMem_map_fst_filter ys k, nodup_filter h.nodup k⟩
  · rw [List.length_cons]
    omega

end PartOf

end Parts

namespace RecencyList

variable {κ ν : Type} {l m : RecencyList κ ν}

/-- A list with less room beside one with more, after the same operations. -/
structure Within (l m : RecencyList κ ν) : Prop where
  capacity_le : l.capacity ≤ m.capacity
  part : PartOf l.capacity l.items m.items
  hits_le : l.hits ≤ m.hits
  evictions_le : 0 < l.capacity → m.evictions ≤ l.evictions

theorem within_empty {c d : Nat} (h : c ≤ d) :
    (empty c : RecencyList κ ν).Within (empty d) :=
  ⟨h, ⟨List.nodup_nil, List.Sublist.refl [], (Nat.min_zero c).symm⟩, Nat.le_refl 0,
    fun _ => Nat.le_refl 0⟩

theorem Within.clear (h : l.Within m) : l.clear.Within m.clear :=
  ⟨h.capacity_le, ⟨List.nodup_nil, List.Sublist.refl [], (Nat.min_zero _).symm⟩, h.hits_le,
    h.evictions_le⟩

variable [DecidableEq κ]

theorem nodup_insert (hd : (l.items.map Prod.fst).Nodup) (k : κ) (v : ν) :
    ((l.insert k v).items.map Prod.fst).Nodup := by
  by_cases hcap : l.capacity = 0
  · rwa [insert_of_capacity_zero hcap]
  · cases hk : l.value? k with
    | some u =>
      rw [insert_of_some hcap hk]
      exact List.nodup_cons.mpr ⟨notMem_map_fst_filter l.items k, nodup_filter hd k⟩
    | none =>
      have hnew := notMem_of_lookup_eq_none hk
      rcases Nat.lt_or_ge l.items.length l.capacity with hroom | hfull
      · rw [insert_of_room hk hroom]
        exact List.nodup_cons.mpr ⟨hnew, hd⟩
      · have hsub := (List.dropLast_sublist l.items).map Prod.fst
        rw [insert_of_full hcap hk hfull]
        exact List.nodup_cons.mpr ⟨fun hmem => hnew (hsub.subset hmem), hd.sublist hsub⟩

theorem hits_insert (l : RecencyList κ ν) (k : κ) (v : ν) : (l.insert k v).hits = l.hits := by
  simp only [insert]
  repeat' split
  all_goals rfl

namespace Within

theorem get (h : l.Within m) (k : κ) : (l.get k).2.Within (m.get k).2 := by
  cases hl : l.value? k with
  | some v =>
    rw [get_of_some hl, get_of_some (h.part.lookup_eq_some hl)]
    exact ⟨h.capacity_le, h.part.front hl v, Nat.succ_le_succ h.hits_le, h.evictions_le⟩
  | none =>
    rw [get_of_none hl]
    cases hm : m.value? k with
    | some v =>
      rw [get_of_some hm]
      exact ⟨h.capacity_le, h.part.front_right hl hm, h.hits_le.trans (Nat.le_succ _),
        h.evictions_le⟩
    | none =>
      rw [get_of_none hm]
      exact ⟨h.capacity_le, h.part, h.hits_le, h.evictions_le⟩

theorem insert_of_room (h : l.Within m) {k : κ} (hl : l.value? k = none)
    (hroom : l.items.length < l.capacity) (v : ν) : (l.insert k v).Within (m.insert k v) := by
  have heq := h.part.eq_of_lt hroom
  have hlength := h.part.length_eq
  have hm : m.value? k = none := by
    rw [value?, ← heq]
    exact hl
  have hroomm : m.items.length < m.capacity := by
    rw [← heq]
    exact hroom.trans_le h.capacity_le
  rw [RecencyList.insert_of_room hl hroom, RecencyList.insert_of_room hm hroomm]
  refine ⟨h.capacity_le, ?_, h.hits_le, h.evictions_le⟩
  refine .cons h.part.nodup (notMem_of_lookup_eq_none hm) h.part.sublist ?_ v
  change l.items.length + 1 = min l.capacity (m.items.length + 1)
  omega

/-- A new key in the smaller list, which is full, costs it a pair, whatever becomes of the
larger one. -/
theorem insert_of_full (h : l.Within m) (hcap : l.capacity ≠ 0) {k : κ} (hl : l.value? k = none)
    (hfull : l.capacity ≤ l.items.length) (v : ν) : (l.insert k v).Within (m.insert k v) := by
  have hpos : 0 < l.capacity := Nat.pos_of_ne_zero hcap
  have hcapm : m.capacity ≠ 0 := Nat.ne_zero_of_lt (hpos.trans_le h.capacity_le)
  have hlength : l.items.length = l.capacity := by
    have hpart := h.part.length_eq
    omega
  rw [RecencyList.insert_of_full hcap hl hfull]
  cases hm : m.value? k with
  | some w =>
    have hsub := (List.dropLast_sublist l.items).trans (h.part.sublist_filter hl)
    rw [insert_of_some hcapm hm]
    refine ⟨h.capacity_le, ?_, h.hits_le, fun _ => (h.evictions_le hpos).trans (Nat.le_succ _)⟩
    exact .cons_dropLast hpos hlength (nodup_filter h.part.nodup k)
      (notMem_map_fst_filter m.items k) hsub v
  | none =>
    have hnew := notMem_of_lookup_eq_none hm
    rcases Nat.lt_or_ge m.items.length m.capacity with hroomm | hfullm
    · have hsub := (List.dropLast_sublist l.items).trans h.part.sublist
      rw [RecencyList.insert_of_room hm hroomm]
      refine ⟨h.capacity_le, ?_, h.hits_le, fun _ => (h.evictions_le hpos).trans (Nat.le_succ _)⟩
      exact .cons_dropLast hpos hlength h.part.nodup hnew hsub v
    · have hkeys := (List.dropLast_sublist m.items).map Prod.fst
      rw [RecencyList.insert_of_full hcapm hm hfullm]
      refine ⟨h.capacity_le, ?_, h.hits_le, fun _ => Nat.succ_le_succ (h.evictions_le hpos)⟩
      exact .cons_dropLast hpos hlength (h.part.nodup.sublist hkeys)
        (fun hmem => hnew (hkeys.subset hmem)) (sublist_dropLast h.part.sublist) v

theorem insert (h : l.Within m) (k : κ) (v : ν) : (l.insert k v).Within (m.insert k v) := by
  by_cases hcap : l.capacity = 0
  · have hlength := h.part.length_eq
    have hnil : l.items = [] := List.length_eq_zero_iff.mp (by omega)
    have hcapm := m.capacity_perform (.insert k v)
    rw [insert_of_capacity_zero hcap]
    refine ⟨h.capacity_le.trans_eq hcapm.symm, ⟨nodup_insert h.part.nodup k v, ?_, ?_⟩,
      h.hits_le.trans_eq (m.hits_insert k v).symm, fun hpos => absurd hcap hpos.ne'⟩
    · rw [hnil]
      exact List.nil_sublist _
    · rw [hnil, hcap, Nat.zero_min]
      rfl
  · cases hl : l.value? k with
    | some u =>
      have hcapm : m.capacity ≠ 0 := fun hzero => hcap (Nat.le_zero.mp (hzero ▸ h.capacity_le))
      rw [insert_of_some hcap hl, insert_of_some hcapm (h.part.lookup_eq_some hl)]
      exact ⟨h.capacity_le, h.part.front hl v, h.hits_le, h.evictions_le⟩
    | none =>
      rcases Nat.lt_or_ge l.items.length l.capacity with hroom | hfull
      · exact h.insert_of_room hl hroom v
      · exact h.insert_of_full hcap hl hfull v

theorem perform (h : l.Within m) (op : CacheOp κ ν) : (l.perform op).2.Within (m.perform op).2 := by
  cases op with
  | get k => exact h.get k
  | insert k v => exact h.insert k v
  | clear => exact h.clear
  | _ => exact h

theorem found (h : l.Within m) {op : CacheOp κ ν} {v : ν}
    (hv : (l.perform op).1 = .found (some v)) : (m.perform op).1 = .found (some v) := by
  cases op with
  | get k =>
    cases hl : l.value? k with
    | none =>
      simp only [RecencyList.perform, get_of_none hl] at hv
      cases hv
    | some u =>
      simp only [RecencyList.perform, get_of_some hl] at hv
      simp only [RecencyList.perform, get_of_some (h.part.lookup_eq_some hl), hv]
  | _ => cases hv

theorem run (h : l.Within m) (ops : List (CacheOp κ ν)) :
    (runOps RecencyList.perform l ops).2.Within (runOps RecencyList.perform m ops).2 ∧
      ∀ (i : Nat) (v : ν),
        (runOps RecencyList.perform l ops).1[i]? = some (CacheAnswer.found (some v)) →
        (runOps RecencyList.perform m ops).1[i]? = some (CacheAnswer.found (some v)) := by
  induction ops generalizing l m with
  | nil => exact ⟨h, fun _ _ hv => hv⟩
  | cons op ops ih =>
    obtain ⟨hwithin, hfound⟩ := ih (h.perform op)
    refine ⟨hwithin, fun i v hv => ?_⟩
    cases i with
    | zero => exact congrArg some (h.found (Option.some.inj hv))
    | succ i => exact hfound i v hv

end Within

end RecencyList

theorem stampsDrawn_le_length {κ ν : Type} (capacity : Nat) (ops : List (CacheOp κ ν)) :
    stampsDrawn capacity ops ≤ ops.length := by
  induction ops with
  | nil => exact Nat.le_refl 0
  | cons op ops ih =>
    have hop : op.draws capacity ≤ 1 := by
      cases op with
      | insert k v =>
        simp only [CacheOp.draws]
        split <;> omega
      | _ => simp [CacheOp.draws]
    simp only [stampsDrawn, List.length_cons]
    omega

section Caches

variable {κ ν : Type} [DecidableEq κ] [Hashable κ]

/-- A cache with less room beside one with more: whatever it holds, the other holds as well,
in the same order of use, and it reports no more hits and, if it has any room, no fewer
evictions. -/
structure Cache.CoveredBy (c d : Cache κ ν) : Prop where
  value?_eq_some : ∀ k v, c.value? k = some v → d.value? k = some v
  order : c.keysByUse.Sublist d.keysByUse
  hits_le : c.stats.hits ≤ d.stats.hits
  evictions_le : 0 < c.capacity → d.stats.evictions ≤ c.stats.evictions

theorem Cache.InStep.coveredBy {c d : Cache κ ν} (hc : c.InStep) (hd : d.InStep)
    (h : c.asList.Within d.asList) (hhits : d.hits ≤ lastStamp)
    (hevictions : c.evictions ≤ lastStamp) : c.CoveredBy d where
  value?_eq_some k v hv := by
    rw [← hc.value?_asList] at hv
    rw [← hd.value?_asList]
    exact h.part.lookup_eq_some hv
  order := by
    rw [← hc.map_fst_items, ← hd.map_fst_items]
    exact h.part.sublist.map Prod.fst
  hits_le := by
    have hle : c.hits ≤ d.hits := h.hits_le
    rw [UInt64.le_iff_toNat_le, stats, stats, toNat_ofNat_of_le_lastStamp hhits,
      toNat_ofNat_of_le_lastStamp (hle.trans hhits)]
    exact hle
  evictions_le hcap := by
    have hle : d.evictions ≤ c.evictions := h.evictions_le hcap
    rw [UInt64.le_iff_toNat_le, stats, stats, toNat_ofNat_of_le_lastStamp hevictions,
      toNat_ofNat_of_le_lastStamp (hle.trans hevictions)]
    exact hle

theorem Cache.coveredBy_run {c d : Nat} (hle : c ≤ d) {ops : List (CacheOp κ ν)}
    (h : ops.length ≤ lastStamp) : (run c ops).2.CoveredBy (run d ops).2 := by
  have hc : stampsDrawn c ops ≤ lastStamp := (stampsDrawn_le_length c ops).trans h
  have hd : stampsDrawn d ops ≤ lastStamp := (stampsDrawn_le_length d ops).trans h
  have hlistc : (run c ops).2.asList = (RecencyList.run c ops).2 :=
    congrArg Prod.snd (asList_run hc)
  have hlistd : (run d ops).2.asList = (RecencyList.run d ops).2 :=
    congrArg Prod.snd (asList_run hd)
  have hcountc := RecencyList.counts_run c ops
  have hcountd := RecencyList.counts_run d ops
  rw [← hlistc] at hcountc
  rw [← hlistd] at hcountd
  have hhits : (run d ops).2.hits = (run d ops).2.asList.hits := rfl
  have hevictions : (run c ops).2.evictions = (run c ops).2.asList.evictions := rfl
  refine (inStep_run hc).coveredBy (inStep_run hd) ?_ (by omega) (by omega)
  rw [hlistc, hlistd]
  exact ((RecencyList.within_empty hle).run ops).1

/-- More room never hurts. After the same operations, and after each front part of them, the
cache with more room holds what the other one holds, in the same order of use, with no fewer
hits and no more evictions; and every lookup that the smaller one answers has the same answer
from the larger one. -/
theorem run_coveredBy_of_le {c d : Nat} (hle : c ≤ d) (ops : List (CacheOp κ ν))
    (h : ops.length ≤ Cache.lastStamp) :
    (∀ n, (Cache.run c (ops.take n)).2.CoveredBy (Cache.run d (ops.take n)).2) ∧
      ∀ (i : Nat) (v : ν), (Cache.run c ops).1[i]? = some (.found (some v)) →
        (Cache.run d ops).1[i]? = some (.found (some v)) := by
  constructor
  · intro n
    exact Cache.coveredBy_run hle ((List.length_take_le' n ops).trans h)
  · have hanswers : ∀ e, (Cache.run e ops).1 = (RecencyList.run e ops).1 := fun e =>
      congrArg Prod.fst (Cache.asList_run ((stampsDrawn_le_length e ops).trans h))
    rw [hanswers c, hanswers d]
    exact ((RecencyList.within_empty hle).run ops).2

end Caches

/-- A key that only the larger cache still has, a lookup that both answer, and a new key that
costs the smaller cache a second pair and the larger one its first. -/
theorem run_coveredBy_of_le_of_apart :
    ∃ ops : List (CacheOp Nat Char), 2 ≤ 3 ∧ ops.length ≤ Cache.lastStamp ∧
      ops = [.insert 1 'a', .insert 2 'b', .insert 3 'c', .get 1, .get 3, .insert 4 'd', .get 3] ∧
      (Cache.run 2 ops).2.CoveredBy (Cache.run 3 ops).2 ∧
      (Cache.run 2 ops).1[3]? = some (.found none) ∧
      (Cache.run 3 ops).1[3]? = some (.found (some 'a')) ∧
      (Cache.run 3 ops).1[6]? = some (.found (some 'c')) := by
  let ops : List (CacheOp Nat Char) :=
    [.insert 1 'a', .insert 2 'b', .insert 3 'c', .get 1, .get 3, .insert 4 'd', .get 3]
  have h : ops.length ≤ Cache.lastStamp := by decide
  have hanswers : ∀ e, (Cache.run e ops).1 = (RecencyList.run e ops).1 := fun e =>
    congrArg Prod.fst (Cache.asList_run ((stampsDrawn_le_length e ops).trans h))
  obtain ⟨hcovered, hfound⟩ := run_coveredBy_of_le (c := 2) (d := 3) (by decide) ops h
  refine ⟨ops, by decide, h, rfl, hcovered ops.length, ?_, ?_, hfound 6 'c' ?_⟩
  · rw [hanswers 2]
    decide
  · rw [hanswers 3]
    decide
  · rw [hanswers 2]
    decide

end ExplorerProxy
