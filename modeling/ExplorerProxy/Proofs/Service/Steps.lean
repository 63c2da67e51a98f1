import ExplorerProxy.Proofs.Cache.Values
import ExplorerProxy.Service.Basic

/-!
# The critical sections of the service

Beginning a lookup and storing a value are the only steps that touch a cache. What
each of them does to the values that are held, in every case.
-/

namespace ExplorerProxy

set_option autoImplicit false

/-- A source that gives the same values to all calls. -/
def Source.fixed (holders : List String) (abi : Json) : Source
  | _, .holders, _ => ⟨.ok holders, .ofMillis 0, []⟩
  | _, .abi, _ => ⟨.ok abi, .ofMillis 0, []⟩

namespace Service

variable (s : Service) (k : Kind)

theorem cache_withCache (j : Kind) (c : Cache Subject k.Value)
    (P : (i : Kind) → Cache Subject i.Value → Prop) (hk : P k c) (hj : j ≠ k → P j (s.cache j)) :
    P j ((s.withCache k c).cache j) := by
  by_cases h : j = k
  · subst h
    rwa [cache_withCache_self]
  · rw [cache_withCache_of_ne s h]
    exact hj h

section Begin

variable {network address : String}

theorem begin_of_unknown (h : Network.ofTag? network = none) :
    s.begin k network address = (.settled (.error (.unsupportedNetwork network)), s) := by
  simp only [begin, h]

theorem begin_of_held {n : Network} (h : Network.ofTag? network = some n) {v : k.Value}
    (hv : (s.cache k).value? ⟨n, address⟩ = some v) :
    s.begin k network address =
      (.settled (.ok v), s.withCache k ((s.cache k).get ⟨n, address⟩).2) := by
  have hget : ((s.cache k).get ⟨n, address⟩).1 = some v := by rw [Cache.get_fst, hv]
  simp only [begin, h, hget]

theorem begin_of_missing {n : Network} (h : Network.ofTag? network = some n)
    (hv : (s.cache k).value? ⟨n, address⟩ = none) :
    s.begin k network address =
      (.asking ⟨n, address⟩, s.withCache k ((s.cache k).get ⟨n, address⟩).2) := by
  have hget : ((s.cache k).get ⟨n, address⟩).1 = none := by rw [Cache.get_fst, hv]
  simp only [begin, h, hget]

/-- Beginning a lookup touches a cache, if at all, by one lookup in it. -/
theorem begin_snd (network address : String) :
    (s.begin k network address).2 = s ∨
      ∃ n, Network.ofTag? network = some n ∧
        (s.begin k network address).2 = s.withCache k ((s.cache k).get ⟨n, address⟩).2 := by
  cases h : Network.ofTag? network with
  | none => exact Or.inl (by rw [begin_of_unknown s k h])
  | some n =>
    refine Or.inr ⟨n, rfl, ?_⟩
    cases hv : (s.cache k).value? ⟨n, address⟩ with
    | none => rw [begin_of_missing s k h hv]
    | some v => rw [begin_of_held s k h hv]

theorem value?_begin (network address : String) (j : Kind) (x : Subject) :
    ((s.begin k network address).2.cache j).value? x = (s.cache j).value? x := by
  rcases begin_snd s k network address with h | ⟨n, _, h⟩
  · rw [h]
  · rw [h]
    refine cache_withCache s k j _ (fun i c => c.value? x = (s.cache i).value? x) ?_ ?_
    · exact Cache.value?_get _ _ _
    · intro _
      rfl

theorem capacity_begin (network address : String) (j : Kind) :
    ((s.begin k network address).2.cache j).capacity = (s.cache j).capacity := by
  rcases begin_snd s k network address with h | ⟨n, _, h⟩
  · rw [h]
  · rw [h]
    refine cache_withCache s k j _ (fun i c => c.capacity = (s.cache i).capacity) ?_ ?_
    · exact Cache.capacity_get _ _
    · intro _
      rfl

end Begin

section Store

variable (subject : Subject) (v : k.Value)

theorem capacity_store (j : Kind) :
    ((s.store k subject v).cache j).capacity = (s.cache j).capacity := by
  refine cache_withCache s k j _ (fun i c => c.capacity = (s.cache i).capacity) ?_ ?_
  · exact Cache.capacity_insert _ _ _
  · intro _
    rfl

theorem value?_store_self (h : (s.cache k).capacity ≠ 0) :
    ((s.store k subject v).cache k).value? subject = some v := by
  rw [store, cache_withCache_self]
  exact Cache.value?_insert_self h _ _

theorem store_of_capacity_zero (h : (s.cache k).capacity = 0) : s.store k subject v = s := by
  rw [store, Cache.insert_of_capacity_zero h]
  cases k <;> rfl

theorem value?_of_store {j : Kind} {x : Subject} {w : j.Value}
    (hne : ¬ (j = k ∧ x = subject)) (h : ((s.store k subject v).cache j).value? x = some w) :
    (s.cache j).value? x = some w := by
  by_cases hj : j = k
  · subst hj
    rw [store, cache_withCache_self] at h
    exact Cache.value?_of_insert_of_ne (fun hx => hne ⟨rfl, hx.symm⟩) h
  · rwa [store, cache_withCache_of_ne s hj] at h

end Store

end Service

end ExplorerProxy
