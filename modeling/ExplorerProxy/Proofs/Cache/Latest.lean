import ExplorerProxy.Proofs.Cache.Refinement
import ExplorerProxy.Proofs.List.Keyed
import Mathlib.Data.List.Dedup

/-!
# The latest values

Keys get values one after another. A recency list that follows, by an insertion for a
new value and by a lookup for a value that it has, holds the keys that got a value
last, as many as there is room for. So what it holds can be told from the values given
so far, without looking at the list.
-/

namespace ExplorerProxy

set_option autoImplicit false

section Latest

variable {κ ν : Type} [DecidableEq κ]

/-- The latest value of each key, out of values given to keys, the latest first. -/
def latest : List (κ × ν) → List (κ × ν)
  | [] => []
  | (k, v) :: h => (k, v) :: (latest h).filter (·.1 != k)

/-- A key got a value, and since then fewer than `c` distinct other keys got one. -/
def GivenWithin (c : Nat) (h : List (κ × ν)) (k : κ) (v : ν) : Prop :=
  ∃ since before, h = since ++ (k, v) :: before ∧ k ∉ since.map Prod.fst ∧
    (since.map Prod.fst).dedup.length < c

theorem latest_sublist (h : List (κ × ν)) : (latest h).Sublist h := by
  induction h with
  | nil => exact List.Sublist.refl []
  | cons p h ih => exact (List.filter_sublist.trans ih).cons_cons p

theorem latest_eq_self {h : List (κ × ν)} (hd : (h.map Prod.fst).Nodup) : latest h = h := by
  induction h with
  | nil => rfl
  | cons p h ih =>
    obtain ⟨hp, hd⟩ := List.nodup_cons.mp hd
    rw [latest, ih hd, filter_eq_self_of_notMem hp]

theorem nodup_latest (h : List (κ × ν)) : ((latest h).map Prod.fst).Nodup := by
  induction h with
  | nil => exact List.nodup_nil
  | cons p h ih =>
    exact List.nodup_cons.mpr ⟨notMem_map_fst_filter (latest h) p.1, nodup_filter ih p.1⟩

/-- The keys before the latest value of a key are those that got one since. -/
theorem latest_append (since before : List (κ × ν)) {k : κ} (v : ν)
    (hk : k ∉ since.map Prod.fst) :
    ∃ front rest, latest (since ++ (k, v) :: before) = front ++ (k, v) :: rest ∧
      k ∉ front.map Prod.fst ∧ ∀ x, x ∈ front.map Prod.fst ↔ x ∈ since.map Prod.fst := by
  induction since with
  | nil => exact ⟨[], _, rfl, hk, fun _ => Iff.rfl⟩
  | cons p since ih =>
    obtain ⟨j, w⟩ := p
    obtain ⟨hkj, hks⟩ := not_or.mp (List.mem_cons.not.mp hk)
    obtain ⟨front, rest, heq, hkf, hset⟩ := ih hks
    refine ⟨(j, w) :: front.filter (·.1 != j), rest.filter (·.1 != j), ?_, ?_, ?_⟩
    · have hkeep : ((k, v) :: rest).filter (·.1 != j) = (k, v) :: rest.filter (·.1 != j) :=
        List.filter_cons_of_pos (bne_iff_ne.mpr hkj)
      rw [List.cons_append, latest, heq, List.filter_append, hkeep]
      rfl
    · intro hmem
      rcases List.mem_cons.mp hmem with hkj' | hmem
      · exact hkj hkj'
      · exact hkf ((List.filter_sublist.map Prod.fst).subset hmem)
    · intro x
      by_cases hxj : x = j
      · simp [hxj]
      · have hx := hset x
        simp only [List.mem_map, List.map_cons, List.mem_cons, List.mem_filter, bne_iff_ne, hxj,
          false_or] at hx ⊢
        rw [← hx]
        constructor
        · rintro ⟨p, ⟨hp, _⟩, rfl⟩
          exact ⟨p, hp, rfl⟩
        · rintro ⟨p, hp, rfl⟩
          exact ⟨p, ⟨hp, hxj⟩, rfl⟩

theorem take_filter_take {l : List (κ × ν)} (hl : (l.map Prod.fst).Nodup) (k : κ) (n : Nat) :
    ((l.take (n + 1)).filter (·.1 != k)).take n = (l.filter (·.1 != k)).take n := by
  induction l generalizing n with
  | nil => rfl
  | cons p l ih =>
    obtain ⟨hp, hl⟩ := List.nodup_cons.mp hl
    by_cases hk : p.1 = k
    · have hrest : l.filter (·.1 != k) = l := filter_eq_self_of_notMem (hk ▸ hp)
      have hcut : (l.take n).filter (·.1 != k) = l.take n := by
        refine filter_eq_self_of_notMem fun hmem => ?_
        exact hp (hk ▸ ((List.take_sublist n l).map Prod.fst).subset hmem)
      rw [List.take_succ_cons, List.filter_cons_of_neg (by simp [hk]),
        List.filter_cons_of_neg (by simp [hk]), hcut, hrest, List.take_take, Nat.min_self]
    · rw [List.take_succ_cons, List.filter_cons_of_pos (by simp [hk]),
        List.filter_cons_of_pos (by simp [hk])]
      cases n with
      | zero => rfl
      | succ n => rw [List.take_succ_cons, List.take_succ_cons, ih hl]

theorem lookup_take_of_split (front rest : List (κ × ν)) {k : κ} (v : ν)
    (hk : k ∉ front.map Prod.fst) (c : Nat) :
    ((front ++ (k, v) :: rest).take c).lookup k = if front.length < c then some v else none := by
  have hnone : ∀ m, (front.take m).lookup k = none := by
    intro m
    refine lookup_eq_none_of_notMem fun hmem => hk ?_
    rw [List.map_take] at hmem
    exact List.mem_of_mem_take hmem
  rw [List.take_append, List.lookup_append, hnone, Option.none_or]
  split
  · obtain ⟨m, hm⟩ : ∃ m, c - front.length = m + 1 := ⟨c - front.length - 1, by omega⟩
    rw [hm, List.take_succ_cons, List.lookup_cons_self]
  · have hzero : c - front.length = 0 := by omega
    rw [hzero, List.take_zero, List.lookup_nil]

/-- The first keys of the latest values, as told from all values. -/
theorem lookup_take_latest (c : Nat) (h : List (κ × ν)) (k : κ) (v : ν) :
    ((latest h).take c).lookup k = some v ↔ GivenWithin c h k v := by
  -- the keys in front of `k` are distinct, so that their number is its place
  have hsplit : ∀ since before w, h = since ++ (k, w) :: before → k ∉ since.map Prod.fst →
      ((latest h).take c).lookup k =
        if (since.map Prod.fst).dedup.length < c then some w else none := by
    intro since before w heq hk
    obtain ⟨front, rest, hlatest, hkf, hset⟩ := latest_append since before w hk
    have hnodup := nodup_latest h
    rw [heq, hlatest, List.map_append] at hnodup
    have hperm : (front.map Prod.fst).Perm (since.map Prod.fst).dedup := by
      rw [List.perm_ext_iff_of_nodup (List.nodup_append.mp hnodup).1 (List.nodup_dedup _)]
      intro x
      rw [hset x, List.mem_dedup]
    rw [heq, hlatest, lookup_take_of_split front rest w hkf, ← hperm.length_eq, List.length_map]
  constructor
  · intro hv
    cases hw : h.lookup k with
    | none =>
      obtain ⟨l₁, l₂, heq, _⟩ := List.lookup_eq_some_iff.mp hv
      have hmem : (k, v) ∈ h := by
        refine (latest_sublist h).subset (List.mem_of_mem_take (i := c) ?_)
        rw [heq]
        simp
      have hne := List.lookup_eq_none_iff.mp hw _ hmem
      simp at hne
    | some w =>
      obtain ⟨since, before, heq, hne⟩ := List.lookup_eq_some_iff.mp hw
      have hk : k ∉ since.map Prod.fst := by
        intro hmem
        obtain ⟨p, hp, rfl⟩ := List.mem_map.mp hmem
        simpa using hne p hp
      rw [hsplit since before w heq hk] at hv
      split at hv
      · obtain rfl := Option.some.inj hv
        exact ⟨since, before, heq, hk, by assumption⟩
      · cases hv
  · rintro ⟨since, before, heq, hk, hc⟩
    rw [hsplit since before v heq hk, if_pos hc]

namespace RecencyList

/-- A list holds the latest values, as many as there is room for. -/
def Follows (l : RecencyList κ ν) (h : List (κ × ν)) : Prop :=
  l.items = (latest h).take l.capacity

variable {l : RecencyList κ ν} {h : List (κ × ν)}

theorem follows_empty (capacity : Nat) : (empty capacity : RecencyList κ ν).Follows [] :=
  (List.take_nil).symm

theorem Follows.value?_eq_some (hl : l.Follows h) (k : κ) (v : ν) :
    l.value? k = some v ↔ GivenWithin l.capacity h k v := by
  rw [value?, hl]
  exact lookup_take_latest l.capacity h k v

theorem Follows.length_le (hl : l.Follows h) : l.items.length ≤ l.capacity := by
  rw [hl, List.length_take]
  exact Nat.min_le_left _ _

theorem length_others_lt {k : κ} {v : ν} (hv : l.value? k = some v) :
    (l.others k).length < l.items.length := by
  obtain ⟨l₁, l₂, heq, _⟩ := List.lookup_eq_some_iff.mp hv
  rw [others, List.length_filter_lt_length_iff_exists]
  refine ⟨(k, v), ?_, by simp⟩
  rw [heq]
  simp

theorem Follows.front (hl : l.Follows h) (k : κ) (v : ν) :
    ((k, v) :: l.others k).take l.capacity = (latest ((k, v) :: h)).take l.capacity := by
  rw [others, hl, latest]
  cases l.capacity with
  | zero => rfl
  | succ n => rw [List.take_succ_cons, List.take_succ_cons, take_filter_take (nodup_latest h)]

theorem Follows.front_of_some (hl : l.Follows h) {k : κ} {u : ν} (hu : l.value? k = some u)
    (v : ν) : (k, v) :: l.others k = (latest ((k, v) :: h)).take l.capacity := by
  have hlt := length_others_lt hu
  have hle := hl.length_le
  rw [← hl.front k v, List.take_of_length_le]
  rw [List.length_cons]
  omega

theorem Follows.get_of_some (hl : l.Follows h) {k : κ} {v : ν} (hv : l.value? k = some v) :
    (l.get k).2.Follows ((k, v) :: h) := by
  rw [RecencyList.get_of_some hv]
  exact hl.front_of_some hv v

theorem Follows.get_of_none (hl : l.Follows h) {k : κ} (hv : l.value? k = none) :
    (l.get k).2.Follows h := by
  rw [RecencyList.get_of_none hv]
  exact hl

theorem Follows.insert (hl : l.Follows h) (k : κ) (v : ν) :
    (l.insert k v).Follows ((k, v) :: h) := by
  have hle := hl.length_le
  by_cases hcap : l.capacity = 0
  · rw [insert_of_capacity_zero hcap, Follows, hcap, List.take_zero]
    exact List.length_eq_zero_iff.mp (by omega)
  · cases hu : l.value? k with
    | some u =>
      rw [insert_of_some hcap hu]
      exact hl.front_of_some hu v
    | none =>
      obtain ⟨n, hn⟩ : ∃ n, l.capacity = n + 1 := ⟨l.capacity - 1, by omega⟩
      have hothers : l.others k = l.items :=
        filter_eq_self_of_notMem (notMem_of_lookup_eq_none hu)
      have hfront := hl.front k v
      rw [hothers, hn, List.take_succ_cons] at hfront
      rcases Nat.lt_or_ge l.items.length l.capacity with hroom | hfull
      · rw [insert_of_room hu hroom]
        simp only [Follows]
        rw [hn, ← hfront, List.take_of_length_le (by omega)]
      · have hlen : l.items.length - 1 = n := by omega
        rw [insert_of_full hcap hu hfull]
        simp only [Follows]
        rw [hn, ← hfront, List.dropLast_eq_take, hlen]

end RecencyList

end Latest

/-- A cache in step, with at most `n` stamps drawn, that holds the latest of the values
given so far. -/
structure Cache.Tracks {κ ν : Type} [DecidableEq κ] [Hashable κ] (c : Cache κ ν)
    (h : List (κ × ν)) (n : Nat) : Prop where
  inStep : c.InStep
  stamps : c.nextStamp ≤ n
  follows : c.asList.Follows h

section Tracks

variable {κ ν : Type} [DecidableEq κ] [Hashable κ] {c : Cache κ ν} {h : List (κ × ν)} {n : Nat}

theorem Cache.tracks_empty (capacity : Nat) : (empty capacity : Cache κ ν).Tracks [] 0 :=
  ⟨inStep_empty capacity, Nat.le_refl 0, by
    rw [asList_empty]
    exact RecencyList.follows_empty capacity⟩

namespace Cache.Tracks

theorem mono (hc : c.Tracks h n) {m : Nat} (hnm : n ≤ m) : c.Tracks h m :=
  ⟨hc.inStep, hc.stamps.trans hnm, hc.follows⟩

theorem nextStamp_drawStamp_le (hc : c.Tracks h n) : c.drawStamp.nextStamp ≤ n + 1 := by
  have hstamps := hc.stamps
  have hdraw : c.drawStamp.nextStamp ≤ c.nextStamp + 1 := Nat.min_le_left _ _
  omega

theorem value?_eq_some (hc : c.Tracks h n) (k : κ) (v : ν) :
    c.value? k = some v ↔ GivenWithin c.capacity h k v := by
  rw [← hc.inStep.value?_asList]
  exact hc.follows.value?_eq_some k v

theorem size_eq (hc : c.Tracks h n) (hd : (h.map Prod.fst).Nodup) :
    c.size = min c.capacity h.length := by
  have hitems : c.asList.items = h.take c.capacity := by
    rw [hc.follows, latest_eq_self hd]
    rfl
  have hlength : c.asList.items.length = c.size := hc.inStep.length_items
  rw [← hlength, hitems, List.length_take]

theorem value?_eq_some_iff_mem (hc : c.Tracks h n) (hd : (h.map Prod.fst).Nodup)
    (hroom : h.length ≤ c.capacity) (k : κ) (v : ν) : c.value? k = some v ↔ (k, v) ∈ h := by
  have hitems : c.asList.items = h := by
    rw [hc.follows, latest_eq_self hd]
    exact List.take_of_length_le hroom
  rw [← hc.inStep.value?_asList, RecencyList.value?, hitems, lookup_eq_some_iff_mem hd]

theorem get_of_some (hc : c.Tracks h n) (hn : n < lastStamp) {k : κ} {v : ν}
    (hv : c.value? k = some v) : (c.get k).2.Tracks ((k, v) :: h) (n + 1) := by
  have hlist : (c.get k).2.asList = (c.asList.get k).2 :=
    congrArg Prod.snd (hc.inStep.asList_get k)
  refine ⟨hc.inStep.get (hc.stamps.trans_lt hn) k, ?_, ?_⟩
  · rw [nextStamp_get]
    exact hc.nextStamp_drawStamp_le
  · rw [hlist]
    apply hc.follows.get_of_some
    rwa [hc.inStep.value?_asList]

theorem get_of_none (hc : c.Tracks h n) (hn : n < lastStamp) {k : κ}
    (hv : c.value? k = none) : (c.get k).2.Tracks h (n + 1) := by
  have hlist : (c.get k).2.asList = (c.asList.get k).2 :=
    congrArg Prod.snd (hc.inStep.asList_get k)
  refine ⟨hc.inStep.get (hc.stamps.trans_lt hn) k, ?_, ?_⟩
  · rw [nextStamp_get]
    exact hc.nextStamp_drawStamp_le
  · rw [hlist]
    apply hc.follows.get_of_none
    rwa [hc.inStep.value?_asList]

theorem insert (hc : c.Tracks h n) (hn : n < lastStamp) (k : κ) (v : ν) :
    (c.insert k v).Tracks ((k, v) :: h) (n + 1) := by
  have hlt : c.nextStamp < lastStamp := hc.stamps.trans_lt hn
  refine ⟨hc.inStep.insert hlt k v, ?_, ?_⟩
  · by_cases hcap : c.capacity = 0
    · rw [insert_of_capacity_zero hcap]
      exact hc.stamps.trans (Nat.le_succ n)
    · rw [nextStamp_insert hcap]
      exact hc.nextStamp_drawStamp_le
  · rw [hc.inStep.asList_insert hlt]
    exact hc.follows.insert k v

end Cache.Tracks

end Tracks

end ExplorerProxy
