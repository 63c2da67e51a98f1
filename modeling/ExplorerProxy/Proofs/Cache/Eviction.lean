import ExplorerProxy.Proofs.Cache.Counts
import ExplorerProxy.Proofs.Cache.Refinement
import Mathlib.Data.List.Perm.Subperm
import Mathlib.Data.List.ReduceOption

/-!
# Making room

An insertion drops keys in a loop until there is room, or no stamp is left. The loop is
stated here without a bound on its rounds; whatever the indexes are, it ends, and it does
what the cache does. Between two operations the indexes agree, so that the loop has at
most one round, which finds the key with the least stamp.
-/

namespace ExplorerProxy

set_option autoImplicit false

namespace Cache

variable {κ ν : Type} [BEq κ] [Hashable κ]

/-- The rounds of the loop that makes room, each with the key that it drops, or with none
if it finds no stamp and leaves the loop; and the cache in the end. -/
inductive MakesRoom : Cache κ ν → List (Option κ) → Cache κ ν → Prop where
  | room {c : Cache κ ν} (hroom : c.size < c.capacity) : MakesRoom c [] c
  | drop {c d e : Cache κ ν} {k : κ} {rounds : List (Option κ)} (hfull : c.capacity ≤ c.size)
      (hk : c.evict? = some (k, d)) (hmore : MakesRoom d rounds e) :
      MakesRoom c (some k :: rounds) e
  | nothing {c : Cache κ ν} (hfull : c.capacity ≤ c.size) (hnone : c.evict? = none) :
      MakesRoom c [none] c

theorem evict?_eq_none {c : Cache κ ν} (h : c.recency.size = 0) : c.evict? = none := by
  rw [← Std.TreeMap.length_toList, List.length_eq_zero_iff] at h
  rw [evict?, minEntry?_eq_head?_toList, h]
  rfl

theorem size_recency_of_evict? {c d : Cache κ ν} {k : κ} (h : c.evict? = some (k, d)) :
    d.recency.size + 1 = c.recency.size := by
  obtain ⟨s, hlist, _⟩ := toList_recency_of_evict? h
  rw [← Std.TreeMap.length_toList, ← Std.TreeMap.length_toList, hlist, List.length_cons]

/-- Each round takes a stamp, so that their number bounds the rounds. -/
theorem makesRoom_makeRoomUpTo (n : Nat) (c : Cache κ ν) (hn : c.recency.size ≤ n) :
    ∃ rounds, MakesRoom c rounds (c.makeRoomUpTo n).2 ∧
      rounds.reduceOption = (c.makeRoomUpTo n).1 := by
  induction n generalizing c with
  | zero =>
    rcases Nat.lt_or_ge c.size c.capacity with hroom | hfull
    · exact ⟨[], .room hroom, rfl⟩
    · exact ⟨[none], .nothing hfull (evict?_eq_none (Nat.le_zero.mp hn)), rfl⟩
  | succ n ih =>
    rcases Nat.lt_or_ge c.size c.capacity with hroom | hfull
    · rw [makeRoomUpTo, if_pos hroom]
      exact ⟨[], .room hroom, rfl⟩
    · rw [makeRoomUpTo, if_neg (Nat.not_lt.mpr hfull)]
      cases hk : c.evict? with
      | none => exact ⟨[none], .nothing hfull hk, rfl⟩
      | some found =>
        obtain ⟨k, d⟩ := found
        have hsize := size_recency_of_evict? hk
        obtain ⟨rounds, hrounds, hkeys⟩ := ih d (by omega)
        refine ⟨some k :: rounds, .drop hfull hk hrounds, ?_⟩
        rw [List.reduceOption_cons_of_some, hkeys]

theorem makesRoom_makeRoom (c : Cache κ ν) :
    ∃ rounds, MakesRoom c rounds c.makeRoom.2 ∧ rounds.reduceOption = c.makeRoom.1 :=
  makesRoom_makeRoomUpTo _ c (Nat.le_refl _)

theorem MakesRoom.unique {c d e : Cache κ ν} {rounds rounds' : List (Option κ)}
    (h : MakesRoom c rounds d) (h' : MakesRoom c rounds' e) : rounds = rounds' ∧ d = e := by
  induction h generalizing rounds' with
  | room hroom =>
    cases h' with
    | room => exact ⟨rfl, rfl⟩
    | drop hfull => omega
    | nothing hfull => omega
  | drop hfull hk _ ih =>
    cases h' with
    | room hroom => omega
    | drop _ hk' hmore =>
      obtain ⟨rfl, rfl⟩ := Prod.mk.inj (Option.some.inj (hk.symm.trans hk'))
      obtain ⟨rfl, rfl⟩ := ih hmore
      exact ⟨rfl, rfl⟩
    | nothing _ hnone => cases hk.symm.trans hnone
  | nothing hfull hnone =>
    cases h' with
    | room hroom => omega
    | drop _ hk => cases hnone.symm.trans hk
    | nothing => exact ⟨rfl, rfl⟩

def IsOldest (c : Cache κ ν) (k : κ) : Prop :=
  ∃ e, c.entries[k]? = some e ∧
    ∀ (j : κ) (f : CacheEntry ν), c.entries[j]? = some f → e.stamp ≤ f.stamp

theorem Indexed.isOldest_of_evict? {c d : Cache κ ν} (hc : Indexed c) {k : κ}
    (h : c.evict? = some (k, d)) : c.IsOldest k := by
  obtain ⟨e, he, hleast⟩ := hc.entry_of_evict? h
  exact ⟨e, he, fun j f hf => hleast f.stamp j (hc.recency_stamp hf)⟩

/-- When the indexes agree, one round is enough, and it finds the oldest key. -/
theorem Indexed.rounds_of_makesRoom [LawfulBEq κ] {c d : Cache κ ν} {rounds : List (Option κ)}
    (hc : Indexed c) (hcap : c.capacity ≠ 0) (h : MakesRoom c rounds d) :
    rounds.length ≤ 1 ∧ none ∉ rounds ∧ ∀ k, some k ∈ rounds → c.IsOldest k := by
  have hle := hc.size_le
  cases h with
  | room => exact ⟨Nat.zero_le _, List.not_mem_nil, fun k hk => absurd hk List.not_mem_nil⟩
  | nothing hfull hnone =>
    obtain ⟨k, e, hk⟩ := hc.exists_evict? (by omega)
    cases hnone.symm.trans hk
  | drop hfull hk hmore =>
    have hsize := hc.size_of_evict? hk
    have hcapacity := congrArg Cache.capacity (evict?_eq_some hk).choose_spec.2
    cases hmore with
    | room =>
      refine ⟨Nat.le_refl _, by simp, fun j hj => ?_⟩
      obtain rfl := Option.some.inj (List.mem_singleton.mp hj)
      exact hc.isOldest_of_evict? hk
    | drop hfull' => simp only at hcapacity; omega
    | nothing hfull' => simp only at hcapacity; omega

theorem nextStamp_runOps (c : Cache κ ν) (ops : List (CacheOp κ ν))
    (h : c.nextStamp + stampsDrawn c.capacity ops ≤ lastStamp) :
    (runOps perform c ops).2.nextStamp = c.nextStamp + stampsDrawn c.capacity ops := by
  induction ops generalizing c with
  | nil => rfl
  | cons op ops ih =>
    have hsum : stampsDrawn c.capacity (op :: ops) =
        op.draws c.capacity + stampsDrawn c.capacity ops := rfl
    have hone := nextStamp_perform (c := c) op (by omega)
    have hmore := ih (c.perform op).2 (by rw [hone, c.capacity_perform op]; omega)
    rw [hone, c.capacity_perform op] at hmore
    rw [hsum, ← Nat.add_assoc]
    exact hmore

theorem Indexed.drawStamp {c : Cache κ ν} (hc : Indexed c) (h : c.nextStamp ≤ lastStamp) :
    Indexed c.drawStamp where
  stamped := hc.stamped
  below := by
    intro s k hs
    have hlt := hc.below s k hs
    simp only [Cache.drawStamp]
    omega
  size_recency := hc.size_recency
  size_le := hc.size_le

theorem Indexed.stamp_injective {c : Cache κ ν} (hc : Indexed c) {j k : κ} {e f : CacheEntry ν}
    (he : c.entries[j]? = some e) (hf : c.entries[k]? = some f) (h : e.stamp = f.stamp) : j = k :=
  (hc.stamp_eq_iff (hc.recency_stamp he) hf).mp h

theorem Indexed.size_le_nextStamp {c : Cache κ ν} (hc : Indexed c) : c.size ≤ c.nextStamp := by
  have hnodup : (c.recency.toList.map Prod.fst).Nodup := by
    rw [List.Nodup, List.pairwise_map]
    exact (pairwise_toList c.recency).imp Nat.ne_of_lt
  have hsub : c.recency.toList.map Prod.fst ⊆ List.range c.nextStamp := by
    intro s hs
    obtain ⟨⟨s, k⟩, hsk, rfl⟩ := List.mem_map.mp hs
    exact List.mem_range.mpr (hc.below s k ((mem_toList_iff _ _ _).mp hsk))
  have hlen := (hnodup.subperm hsub).length_le
  rwa [List.length_map, Std.TreeMap.length_toList, List.length_range, hc.size_recency] at hlen

end Cache

section Main

variable {κ ν : Type} [BEq κ] [Hashable κ] [LawfulBEq κ]

/-- After every run that does not use up the stamps of a cache, its two indexes are inverse
to each other: a stamp leads to a key just when it is the stamp of that key, no two keys
have the same stamp, all stamps lie below the next one, and both indexes have as many
entries as the statistics report, which are within the capacity. So a new key makes room
for itself in at most one round, which finds the key with the least stamp. -/
theorem indexes_inverse_of_run (capacity : Nat) (ops : List (CacheOp κ ν))
    (h : stampsDrawn capacity ops ≤ Cache.lastStamp) :
    let c := (Cache.run capacity ops).2
    (∀ (s : Nat) (k : κ),
      c.recency[s]? = some k ↔ ∃ e, c.entries[k]? = some e ∧ e.stamp = s) ∧
    (∀ (j k : κ) (e f : CacheEntry ν), c.entries[j]? = some e → c.entries[k]? = some f →
      e.stamp = f.stamp → j = k) ∧
    (∀ (s : Nat) (k : κ), c.recency[s]? = some k → s < c.nextStamp) ∧
    c.recency.size = c.entries.size ∧ c.entries.size ≤ capacity ∧
    c.stats.entries.toNat = c.entries.size ∧
    ∀ (k : κ) (v : ν), capacity ≠ 0 → c.entries[k]? = none →
      ∃ rounds d, Cache.MakesRoom c.drawStamp rounds d ∧
        c.insert k v = d.push k v c.nextStamp ∧
        (∀ rounds' d', Cache.MakesRoom c.drawStamp rounds' d' → rounds' = rounds ∧ d' = d) ∧
        rounds.length ≤ 1 ∧ none ∉ rounds ∧ ∀ j, some j ∈ rounds → c.IsOldest j := by
  intro c
  have hc : c.InStep := Cache.inStep_run h
  have hcap : c.capacity = capacity := Cache.capacity_runOps _ ops
  have hnext : c.nextStamp ≤ Cache.lastStamp := by
    have hdrawn := (Cache.empty capacity : Cache κ ν).nextStamp_runOps ops
      (by simpa [Cache.empty] using h)
    have hstart : (Cache.empty capacity : Cache κ ν).nextStamp = 0 := rfl
    rw [hstart, Nat.zero_add] at hdrawn
    exact hdrawn.trans_le h
  have hentries : c.stats.entries.toNat = c.size := by
    have hle := hc.size_le_nextStamp.trans hnext
    rw [← hc.held_eq] at hle ⊢
    exact Cache.toNat_ofNat_of_le_lastStamp hle
  refine ⟨?_, ?_, hc.below, hc.size_recency, hc.size_le.trans_eq hcap, hentries, ?_⟩
  · intro s k
    rw [hc.stamped s k]
    constructor
    · rintro ⟨v, hv⟩
      exact ⟨_, hv, rfl⟩
    · rintro ⟨⟨v, _⟩, he, rfl⟩
      exact ⟨v, he⟩
  · intro j k e f he hf
    exact hc.stamp_injective he hf
  · intro k v hne hk
    obtain ⟨rounds, hrounds, _⟩ := Cache.makesRoom_makeRoom c.drawStamp
    have hindexed := hc.toIndexed.drawStamp hnext
    obtain ⟨hone, hfound, holdest⟩ :=
      hindexed.rounds_of_makesRoom (hcap.trans_ne hne) hrounds
    refine ⟨rounds, _, hrounds, Cache.insert_of_none (hcap.trans_ne hne) hk v, ?_, hone, hfound,
      holdest⟩
    intro rounds' d' h'
    exact h'.unique hrounds

theorem indexes_inverse_of_run_of_full :
    let ops : List (CacheOp Nat Char) := [.insert 1 'a', .insert 2 'b', .get 1]
    let c := (Cache.run 2 ops).2
    stampsDrawn 2 ops ≤ Cache.lastStamp ∧ 2 ≠ 0 ∧ c.entries[3]? = none ∧
      ∃ rounds d, Cache.MakesRoom c.drawStamp rounds d ∧
        c.insert 3 'c' = d.push 3 'c' c.nextStamp ∧ rounds.length ≤ 1 ∧ none ∉ rounds ∧
        ∀ j, some j ∈ rounds → c.IsOldest j := by
  intro ops c
  have h : stampsDrawn 2 ops ≤ Cache.lastStamp := by decide
  have hlist : c.asList = (RecencyList.run 2 ops).2 := congrArg Prod.snd (Cache.asList_run h)
  have hvalue : c.value? 3 = none := by
    rw [← (Cache.inStep_run h).value?_asList, hlist]
    decide
  have hentry : c.entries[3]? = none := Option.map_eq_none_iff.mp hvalue
  obtain ⟨_, _, _, _, _, _, hinsert⟩ := indexes_inverse_of_run 2 ops h
  obtain ⟨rounds, d, hrounds, heq, _, hone⟩ := hinsert 3 'c' (by decide) hentry
  exact ⟨h, by decide, hentry, rounds, d, hrounds, heq, hone⟩

end Main

end ExplorerProxy
