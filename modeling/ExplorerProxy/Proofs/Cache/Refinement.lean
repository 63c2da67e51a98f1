import ExplorerProxy.Proofs.Cache.AsList

/-!
# Runs of cache operations

A cache answers every sequence of operations as a recency list does, as long as it
has stamps to draw. Each operation has the cache for itself, so the operations of
several callers are a sequence as well, in whatever order they come.
-/

namespace ExplorerProxy

set_option autoImplicit false

inductive CacheOp (κ ν : Type) where
  | get (k : κ)
  | insert (k : κ) (v : ν)
  | contains (k : κ)
  | size
  | isEmpty
  | clear
  | stats
  deriving DecidableEq, Repr

inductive CacheAnswer (ν : Type) where
  | found (v : Option ν)
  | flag (b : Bool)
  | count (n : Nat)
  | counters (s : CacheStats)
  | done
  deriving DecidableEq, Repr

section Operations

variable {κ ν : Type} [BEq κ]

def Cache.perform [Hashable κ] (c : Cache κ ν) : CacheOp κ ν → CacheAnswer ν × Cache κ ν
  | .get k => (.found (c.get k).1, (c.get k).2)
  | .insert k v => (.done, c.insert k v)
  | .contains k => (.flag (c.contains k), c)
  | .size => (.count c.size, c)
  | .isEmpty => (.flag c.isEmpty, c)
  | .clear => (.done, c.clear)
  | .stats => (.counters c.stats, c)

def RecencyList.perform (l : RecencyList κ ν) : CacheOp κ ν → CacheAnswer ν × RecencyList κ ν
  | .get k => (.found (l.get k).1, (l.get k).2)
  | .insert k v => (.done, l.insert k v)
  | .contains k => (.flag (l.contains k), l)
  | .size => (.count l.size, l)
  | .isEmpty => (.flag l.isEmpty, l)
  | .clear => (.done, l.clear)
  | .stats => (.counters l.stats, l)

/-- The answers to operations one after another, and what they lead to. -/
def runOps {σ : Type} (perform : σ → CacheOp κ ν → CacheAnswer ν × σ) :
    σ → List (CacheOp κ ν) → List (CacheAnswer ν) × σ
  | s, [] => ([], s)
  | s, op :: ops =>
    let one := perform s op
    let more := runOps perform one.2 ops
    (one.1 :: more.1, more.2)

def Cache.run [Hashable κ] (capacity : Nat) (ops : List (CacheOp κ ν)) :
    List (CacheAnswer ν) × Cache κ ν :=
  runOps perform (empty capacity) ops

def RecencyList.run (capacity : Nat) (ops : List (CacheOp κ ν)) :
    List (CacheAnswer ν) × RecencyList κ ν :=
  runOps perform (empty capacity) ops

def CacheOp.draws (capacity : Nat) : CacheOp κ ν → Nat
  | .get _ => 1
  | .insert _ _ => if capacity = 0 then 0 else 1
  | _ => 0

def stampsDrawn (capacity : Nat) : List (CacheOp κ ν) → Nat
  | [] => 0
  | op :: ops => op.draws capacity + stampsDrawn capacity ops

end Operations

section Step

variable {κ ν : Type} [BEq κ] [Hashable κ] {c : Cache κ ν}

theorem Cache.capacity_perform (c : Cache κ ν) (op : CacheOp κ ν) :
    (c.perform op).2.capacity = c.capacity := by
  cases op with
  | get k => exact c.capacity_get k
  | insert k v => exact c.capacity_insert k v
  | _ => rfl

theorem Cache.capacity_runOps (c : Cache κ ν) (ops : List (CacheOp κ ν)) :
    (runOps Cache.perform c ops).2.capacity = c.capacity := by
  induction ops generalizing c with
  | nil => rfl
  | cons op ops ih => exact (ih (c.perform op).2).trans (c.capacity_perform op)

theorem Cache.nextStamp_get (c : Cache κ ν) (k : κ) :
    (c.get k).2.nextStamp = c.drawStamp.nextStamp := by
  cases he : c.entries[k]? with
  | none => rw [get_of_none he]
  | some e => rw [get_of_some he]; rfl

theorem Cache.nextStamp_makeRoomUpTo (n : Nat) (c : Cache κ ν) :
    (c.makeRoomUpTo n).2.nextStamp = c.nextStamp := by
  induction n generalizing c with
  | zero => rfl
  | succ n ih =>
    simp only [makeRoomUpTo]
    split
    · rfl
    · cases he : c.evict? with
      | none => rfl
      | some p =>
        obtain ⟨s, _, hp⟩ := evict?_eq_some he
        simp only [ih, hp]

theorem Cache.nextStamp_insert (hcap : c.capacity ≠ 0) (k : κ) (v : ν) :
    (c.insert k v).nextStamp = c.drawStamp.nextStamp := by
  cases he : c.entries[k]? with
  | none =>
    rw [insert_of_none hcap he]
    exact nextStamp_makeRoomUpTo _ c.drawStamp
  | some e =>
    rw [insert_of_some hcap he]
    rfl

theorem Cache.nextStamp_perform (op : CacheOp κ ν)
    (h : c.nextStamp + op.draws c.capacity ≤ lastStamp) :
    (c.perform op).2.nextStamp = c.nextStamp + op.draws c.capacity := by
  cases op with
  | get k => exact (c.nextStamp_get k).trans (nextStamp_drawStamp h)
  | insert k v =>
    by_cases hcap : c.capacity = 0
    · simp only [perform, insert_of_capacity_zero hcap, CacheOp.draws, if_pos hcap, Nat.add_zero]
    · simp only [CacheOp.draws, if_neg hcap] at h ⊢
      exact (nextStamp_insert hcap k v).trans (nextStamp_drawStamp h)
  | _ => rfl

variable [LawfulBEq κ]

theorem Cache.InStep.perform (hc : InStep c) (op : CacheOp κ ν)
    (h : c.nextStamp + op.draws c.capacity ≤ lastStamp) : InStep (c.perform op).2 := by
  cases op with
  | get k => exact hc.get h k
  | insert k v =>
    by_cases hcap : c.capacity = 0
    · simpa only [Cache.perform, insert_of_capacity_zero hcap] using hc
    · simp only [CacheOp.draws, if_neg hcap] at h
      exact hc.insert h k v
  | clear => exact inStep_clear c
  | _ => exact hc

/-- One operation answers as the list does, and does to the list what the list does. -/
theorem Cache.InStep.asList_perform (hc : InStep c) (op : CacheOp κ ν)
    (h : c.nextStamp + op.draws c.capacity ≤ lastStamp) :
    ((c.perform op).1, (c.perform op).2.asList) = c.asList.perform op := by
  cases op with
  | get k =>
    have hget := hc.asList_get k
    simp only [Cache.perform, RecencyList.perform, ← hget]
  | insert k v =>
    by_cases hcap : c.capacity = 0
    · have hcapl : c.asList.capacity = 0 := hcap
      simp only [Cache.perform, RecencyList.perform, insert_of_capacity_zero hcap,
        RecencyList.insert, if_pos hcapl]
    · simp only [CacheOp.draws, if_neg hcap] at h
      simp only [Cache.perform, RecencyList.perform, hc.asList_insert h]
  | contains k => simp only [Cache.perform, RecencyList.perform, hc.contains_asList]
  | size => simp only [Cache.perform, RecencyList.perform, hc.size_asList]
  | isEmpty => simp only [Cache.perform, RecencyList.perform, hc.isEmpty_asList]
  | clear => simp only [Cache.perform, RecencyList.perform, asList_clear]
  | stats => simp only [Cache.perform, RecencyList.perform, hc.stats_asList]

/-- A run keeps a cache in step, and goes as the run of the list does. -/
theorem Cache.InStep.runOps (hc : InStep c) (ops : List (CacheOp κ ν))
    (h : c.nextStamp + stampsDrawn c.capacity ops ≤ lastStamp) :
    InStep (runOps Cache.perform c ops).2 ∧
      ((runOps Cache.perform c ops).1, (runOps Cache.perform c ops).2.asList) =
        ExplorerProxy.runOps RecencyList.perform c.asList ops := by
  induction ops generalizing c with
  | nil => exact ⟨hc, rfl⟩
  | cons op ops ih =>
    have hsum : stampsDrawn c.capacity (op :: ops) =
        op.draws c.capacity + stampsDrawn c.capacity ops := rfl
    have hop : c.nextStamp + op.draws c.capacity ≤ lastStamp := by omega
    have hnext := nextStamp_perform op hop
    have hstep := hc.asList_perform op hop
    obtain ⟨hin, hrun⟩ := ih (hc.perform op hop) (by rw [hnext, capacity_perform]; omega)
    refine ⟨hin, ?_⟩
    simp only [ExplorerProxy.runOps, ← hstep, ← hrun]

end Step

section Counts

variable {κ ν : Type} [BEq κ]

theorem RecencyList.capacity_perform (l : RecencyList κ ν) (op : CacheOp κ ν) :
    (l.perform op).2.capacity = l.capacity := by
  cases op with
  | get k =>
    simp only [perform, get]
    split <;> rfl
  | insert k v =>
    simp only [perform, insert]
    repeat' split
    all_goals rfl
  | _ => rfl

/-- Each counted event has a stamp of its own. -/
theorem RecencyList.counts_perform (l : RecencyList κ ν) (op : CacheOp κ ν) :
    (l.perform op).2.hits + (l.perform op).2.misses + (l.perform op).2.evictions ≤
      l.hits + l.misses + l.evictions + op.draws l.capacity := by
  cases op with
  | get k =>
    simp only [perform, get, CacheOp.draws]
    split <;> simp only <;> omega
  | insert k v =>
    by_cases hcap : l.capacity = 0
    · simp only [perform, insert, if_pos hcap]
      exact Nat.le_add_right _ _
    · simp only [perform, insert, if_neg hcap, CacheOp.draws]
      repeat' split
      all_goals simp only
      all_goals omega
  | _ => exact Nat.le_refl _

theorem RecencyList.counts_runOps (l : RecencyList κ ν) (ops : List (CacheOp κ ν)) :
    (runOps perform l ops).2.hits + (runOps perform l ops).2.misses +
        (runOps perform l ops).2.evictions ≤
      l.hits + l.misses + l.evictions + stampsDrawn l.capacity ops := by
  induction ops generalizing l with
  | nil => exact Nat.le_refl _
  | cons op ops ih =>
    have hsum : stampsDrawn l.capacity (op :: ops) =
        op.draws l.capacity + stampsDrawn l.capacity ops := rfl
    have hone := l.counts_perform op
    have hmore := ih (l.perform op).2
    rw [l.capacity_perform op] at hmore
    simp only [runOps]
    omega

theorem RecencyList.counts_run (capacity : Nat) (ops : List (CacheOp κ ν)) :
    (run capacity ops).2.hits + (run capacity ops).2.misses + (run capacity ops).2.evictions ≤
      stampsDrawn capacity ops := by
  have hcounts := (empty capacity : RecencyList κ ν).counts_runOps ops
  simpa only [run, empty, Nat.zero_add] using hcounts

end Counts

section Main

variable {κ ν : Type} [BEq κ] [Hashable κ] [LawfulBEq κ]

theorem Cache.inStep_run {capacity : Nat} {ops : List (CacheOp κ ν)}
    (h : stampsDrawn capacity ops ≤ lastStamp) : InStep (run capacity ops).2 := by
  have hstart := inStep_empty (κ := κ) (ν := ν) capacity
  exact (hstart.runOps ops (by simpa [empty] using h)).1

theorem Cache.asList_run {capacity : Nat} {ops : List (CacheOp κ ν)}
    (h : stampsDrawn capacity ops ≤ lastStamp) :
    ((run capacity ops).1, (run capacity ops).2.asList) = RecencyList.run capacity ops := by
  have hstart := inStep_empty (κ := κ) (ν := ν) capacity
  have hrun := (hstart.runOps ops (by simpa [empty] using h)).2
  rwa [asList_empty] at hrun

/-- Every sequence of operations that does not use up the stamps of a cache is answered
as by a recency list, whose keys are distinct and within the capacity; and none of the
counts that the statistics report outgrows a word. -/
theorem run_cache_eq_run_recencyList (capacity : Nat) (ops : List (CacheOp κ ν))
    (h : stampsDrawn capacity ops ≤ Cache.lastStamp) :
    (Cache.run capacity ops).1 = (RecencyList.run capacity ops).1 ∧
      (Cache.run capacity ops).2.asList = (RecencyList.run capacity ops).2 ∧
      ((RecencyList.run capacity ops).2.items.map Prod.fst).Nodup ∧
      (RecencyList.run capacity ops).2.items.length ≤ capacity ∧
      (RecencyList.run capacity ops).2.hits < UInt64.size ∧
      (RecencyList.run capacity ops).2.misses < UInt64.size ∧
      (RecencyList.run capacity ops).2.evictions < UInt64.size := by
  have hin := Cache.inStep_run h
  have hanswers : (Cache.run capacity ops).1 = (RecencyList.run capacity ops).1 :=
    congrArg Prod.fst (Cache.asList_run h)
  have hlist : (Cache.run capacity ops).2.asList = (RecencyList.run capacity ops).2 :=
    congrArg Prod.snd (Cache.asList_run h)
  have hkeys : (RecencyList.run capacity ops).2.items.map Prod.fst =
      (Cache.run capacity ops).2.keysByUse := by
    rw [← hlist]
    exact hin.map_fst_items
  have hcounts := RecencyList.counts_run capacity ops
  have hlast : Cache.lastStamp = UInt64.size - 1 := rfl
  have hsize : 0 < UInt64.size := by decide
  refine ⟨hanswers, hlist, ?_, ?_, by omega, by omega, by omega⟩
  · rw [hkeys]
    exact hin.nodup_keysByUse
  · rw [← List.length_map (f := Prod.fst), hkeys, hin.length_keysByUse]
    exact hin.size_le.trans_eq (Cache.capacity_runOps _ ops)

/-- A key that was looked up outlives one that was stored after it. -/
theorem run_cache_eq_run_recencyList_of_full :
    stampsDrawn 2 [.insert 1 'a', .insert 2 'b', .get 1, .insert 3 'c', .get 2, .stats] ≤
        Cache.lastStamp ∧
      (Cache.run 2 [.insert 1 'a', .insert 2 'b', .get 1, .insert 3 'c', .get 2, .stats]).1 =
        [.done, .done, .found (some 'a'), .done, .found none, .counters ⟨1, 1, 1, 2, 2⟩] := by
  have h : stampsDrawn 2 [.insert 1 'a', .insert 2 'b', .get 1, .insert 3 'c', .get 2, .stats] ≤
      Cache.lastStamp := by decide
  exact ⟨h, (run_cache_eq_run_recencyList 2 _ h).1.trans (by decide)⟩

end Main

end ExplorerProxy
