import ExplorerProxy.Retry.Run
import ExplorerProxy.Service.Basic

/-!
# Lookups, one after another

A lookup that has the service for itself from beginning to end.
-/

namespace ExplorerProxy.Service

set_option autoImplicit false

structure Lookup (α : Type) where
  answer : Except FetchError α
  /-- The subject that the source was asked about and the record of the calls, if
  it was asked. -/
  asked : Option (Subject × RetryRun FetchError α)
  service : Service

def Lookup.calls {α : Type} (l : Lookup α) : Nat :=
  match l.asked with
  | none => 0
  | some (_, run) => run.calls

/-- Stores the value of a successful run, and nothing otherwise. -/
def conclude (s : Service) (k : Kind) (subject : Subject) :
    Except FetchError k.Value → Service
  | .ok v => s.store k subject v
  | .error _ => s

/-- Looks up an address on a network, given the answers that the source has for
the successive calls about a subject. -/
def lookup (s : Service) (k : Kind) (network address : String)
    (answers : Subject → Nat → Except FetchError k.Value) : Lookup k.Value :=
  match s.begin k network address with
  | (.settled answer, s) => ⟨answer, none, s⟩
  | (.asking subject, s) =>
    let run := s.policy.run FetchError.isTransient (answers subject)
    ⟨run.result, some (subject, run), s.conclude k subject run.result⟩

end ExplorerProxy.Service
