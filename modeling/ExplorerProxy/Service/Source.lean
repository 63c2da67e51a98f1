import ExplorerProxy.Duration
import ExplorerProxy.Error
import ExplorerProxy.Log.Event
import ExplorerProxy.Service.Kind
import ExplorerProxy.Subject

/-!
# Sources

What a service asks when its caches do not know: something that answers each call
in time with a value or an error. An answer may depend on all calls made before it.
-/

namespace ExplorerProxy

set_option autoImplicit false

/-- The answer to a call, the time that it takes, and what is reported meanwhile. -/
structure Reply (α : Type) where
  outcome : Except FetchError α
  takes : Duration
  events : List Log.Event

structure Call where
  kind : Kind
  subject : Subject
  deriving DecidableEq, Repr

/-- The answers to calls, each after a list of earlier calls, the latest first. -/
abbrev Source : Type := List Call → (k : Kind) → Subject → Reply k.Value

end ExplorerProxy
