import ExplorerProxy.Cache.Basic
import ExplorerProxy.Retry.Policy
import ExplorerProxy.Service.Source
import ExplorerProxy.Service.Stats

/-!
# The service

The service answers lookups from its caches where it can, and asks its source
otherwise, under its retry policy. It keeps one cache for each kind of lookup, and
stores in it what the source found; failures are never stored.
-/

namespace ExplorerProxy

set_option autoImplicit false

structure Service where
  policy : RetryPolicy
  holders : Cache Subject (List String)
  abis : Cache Subject Json

namespace Service

def fresh (policy : RetryPolicy) (holdersCapacity abiCapacity : Nat) : Service :=
  ⟨policy, .empty holdersCapacity, .empty abiCapacity⟩

def cache (s : Service) : (k : Kind) → Cache Subject k.Value
  | .holders => s.holders
  | .abi => s.abis

def withCache (s : Service) : (k : Kind) → Cache Subject k.Value → Service
  | .holders, c => { s with holders := c }
  | .abi, c => { s with abis := c }

@[simp] theorem cache_withCache_self (s : Service) (k : Kind) (c : Cache Subject k.Value) :
    (s.withCache k c).cache k = c := by
  cases k <;> rfl

@[simp] theorem policy_withCache (s : Service) (k : Kind) (c : Cache Subject k.Value) :
    (s.withCache k c).policy = s.policy := by
  cases k <;> rfl

theorem cache_withCache_of_ne (s : Service) {k j : Kind} (h : j ≠ k)
    (c : Cache Subject k.Value) : (s.withCache k c).cache j = s.cache j := by
  cases k <;> cases j <;> first | rfl | exact absurd rfl h

def stats (s : Service) : ServiceStats := ⟨s.holders.stats, s.abis.stats⟩

def detail (s : Service) : String :=
  s!"ExplorerService \x7b retry: {s.policy.detail}, holders: {s.holders.text}, " ++
    s!"abis: {s.abis.text}, .. \x7d"

inductive Opening (α : Type) where
  /-- It is answered without asking the source. -/
  | settled (answer : Except FetchError α)
  /-- The source is to be asked. -/
  | asking (subject : Subject)

/-- Begins a lookup: an unknown network is refused, and a value in the cache is the
answer. -/
def begin (s : Service) (k : Kind) (network address : String) : Opening k.Value × Service :=
  match Network.ofTag? network with
  | none => (.settled (.error (.unsupportedNetwork network)), s)
  | some n =>
    let (found, cache) := (s.cache k).get ⟨n, address⟩
    match found with
    | some v => (.settled (.ok v), s.withCache k cache)
    | none => (.asking ⟨n, address⟩, s.withCache k cache)

def store (s : Service) (k : Kind) (subject : Subject) (v : k.Value) : Service :=
  s.withCache k ((s.cache k).insert subject v)

end Service

end ExplorerProxy
