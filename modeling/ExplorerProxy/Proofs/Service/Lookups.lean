import ExplorerProxy.Proofs.Service.Steps
import ExplorerProxy.Service.Session

/-!
# Lookups from beginning to end

A lookup that has the service for itself ends in one of three ways: the network is
unknown, the value is in the cache, or the source is asked, again and again as the
policy has it.
-/

namespace ExplorerProxy

set_option autoImplicit false

namespace Session

/-- The answers to successive calls for a subject, if no other calls come between. -/
def reply (source : Source) (w : Session) (k : Kind) (subject : Subject) (i : Nat) :
    Reply k.Value :=
  source (List.replicate i ⟨k, subject⟩ ++ w.past) k subject

/-- The attempts that are made when the source has to be asked. -/
def attempts (source : Source) (w : Session) (k : Kind) (subject : Subject) :
    RetryRun FetchError k.Value :=
  w.service.policy.run FetchError.isTransient fun i => (w.reply source k subject i).outcome

variable (source : Source) (w : Session) (k : Kind) {network address : String}

theorem asked_of_missing {n : Network} (h : Network.ofTag? network = some n)
    (hv : (w.service.cache k).value? ⟨n, address⟩ = none) :
    (w.service.lookup k network address fun s i => (w.reply source k s i).outcome).asked =
      some (⟨n, address⟩, w.attempts source k ⟨n, address⟩) := by
  simp only [Service.lookup, Service.begin_of_missing _ _ h hv, Service.policy_withCache]
  rfl

variable [Timer]

theorem lookup_of_unknown (h : Network.ofTag? network = none) :
    (w.lookup source k network address).answer = .error (.unsupportedNetwork network) ∧
      (w.lookup source k network address).calls = [] ∧
      (w.lookup source k network address).session = w := by
  simp only [lookup, Service.lookup, Service.begin_of_unknown _ _ h]
  exact ⟨trivial, trivial, rfl⟩

theorem lookup_of_held {n : Network} (h : Network.ofTag? network = some n) {v : k.Value}
    (hv : (w.service.cache k).value? ⟨n, address⟩ = some v) :
    (w.lookup source k network address).answer = .ok v ∧
      (w.lookup source k network address).calls = [] ∧
      (w.lookup source k network address).session = { w with
        service := w.service.withCache k ((w.service.cache k).get ⟨n, address⟩).2 } := by
  simp only [lookup, Service.lookup, Service.begin_of_held _ _ h hv]
  exact ⟨trivial, trivial, rfl⟩

theorem lookup_of_missing {n : Network} (h : Network.ofTag? network = some n)
    (hv : (w.service.cache k).value? ⟨n, address⟩ = none) :
    (w.lookup source k network address).answer = (w.attempts source k ⟨n, address⟩).result ∧
      (w.lookup source k network address).calls =
        List.replicate (w.attempts source k ⟨n, address⟩).calls ⟨k, ⟨n, address⟩⟩ ∧
      (w.lookup source k network address).session =
        { service := (w.service.withCache k ((w.service.cache k).get ⟨n, address⟩).2).conclude k
            ⟨n, address⟩ (w.attempts source k ⟨n, address⟩).result
          now := (w.attempts source k ⟨n, address⟩).ends
            (Timer.clock fun i => (w.reply source k ⟨n, address⟩ i).takes) w.now
          past := List.replicate (w.attempts source k ⟨n, address⟩).calls ⟨k, ⟨n, address⟩⟩ ++
            w.past } := by
  simp only [lookup, Service.lookup, Service.begin_of_missing _ _ h hv, Service.policy_withCache]
  exact ⟨rfl, rfl, rfl⟩

theorem lookup_of_missing_calls_ne_nil {n : Network} (h : Network.ofTag? network = some n)
    (hv : (w.service.cache k).value? ⟨n, address⟩ = none) :
    (w.lookup source k network address).calls ≠ [] := by
  rw [(lookup_of_missing source w k h hv).2.1]
  intro hnil
  have hlen := congrArg List.length hnil
  rw [List.length_replicate, List.length_nil, RetryRun.calls] at hlen
  omega

/-- A value that was found is in the cache, if there is room for one at all. -/
theorem value?_of_lookup_ok {v : k.Value} (h : (w.lookup source k network address).answer = .ok v)
    (hcap : (w.service.cache k).capacity ≠ 0) :
    ∃ n, Network.ofTag? network = some n ∧
      ((w.lookup source k network address).session.service.cache k).value? ⟨n, address⟩ =
        some v := by
  cases hn : Network.ofTag? network with
  | none =>
    rw [(lookup_of_unknown source w k hn).1] at h
    cases h
  | some n =>
    refine ⟨n, rfl, ?_⟩
    cases hv : (w.service.cache k).value? ⟨n, address⟩ with
    | some u =>
      obtain ⟨hanswer, _, hsession⟩ := lookup_of_held source w k hn hv
      rw [hsession, Service.cache_withCache_self, Cache.value?_get, hv]
      exact congrArg some (Except.ok.inj (hanswer.symm.trans h))
    | none =>
      obtain ⟨hanswer, _, hsession⟩ := lookup_of_missing source w k hn hv
      have hcap' : ((w.service.withCache k ((w.service.cache k).get ⟨n, address⟩).2).cache
          k).capacity ≠ 0 := by
        rwa [Service.cache_withCache_self, Cache.capacity_get]
      rw [hsession, hanswer.symm.trans h]
      exact Service.value?_store_self _ k _ v hcap'

theorem lookup_cache_of_ne {j : Kind} (hj : j ≠ k) (network address : String) :
    (w.lookup source k network address).session.service.cache j = w.service.cache j := by
  cases h : Network.ofTag? network with
  | none => rw [(lookup_of_unknown source w k h).2.2]
  | some n =>
    cases hv : (w.service.cache k).value? ⟨n, address⟩ with
    | some v =>
      rw [(lookup_of_held source w k h hv).2.2]
      exact Service.cache_withCache_of_ne _ hj _
    | none =>
      rw [(lookup_of_missing source w k h hv).2.2]
      rw [Service.conclude.eq_def]
      split
      · exact (Service.cache_withCache_of_ne _ hj _).trans (Service.cache_withCache_of_ne _ hj _)
      · exact Service.cache_withCache_of_ne _ hj _

theorem capacity_lookup (network address : String) (j : Kind) :
    ((w.lookup source k network address).session.service.cache j).capacity =
      (w.service.cache j).capacity := by
  have hbegin := Service.capacity_begin w.service k network address j
  cases h : Network.ofTag? network with
  | none => rw [(lookup_of_unknown source w k h).2.2]
  | some n =>
    cases hv : (w.service.cache k).value? ⟨n, address⟩ with
    | some v =>
      rw [Service.begin_of_held _ _ h hv] at hbegin
      rw [(lookup_of_held source w k h hv).2.2]
      exact hbegin
    | none =>
      rw [Service.begin_of_missing _ _ h hv] at hbegin
      rw [(lookup_of_missing source w k h hv).2.2, Service.conclude.eq_def]
      split
      · exact (Service.capacity_store _ _ _ _ _).trans hbegin
      · exact hbegin

end Session

end ExplorerProxy
