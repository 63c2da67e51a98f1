import ExplorerProxy.Cache.Events
import ExplorerProxy.Retry.Events
import ExplorerProxy.Service.Lookup

/-!
# What a service reports

The reports of a lookup: of the cache, of the attempts at the source, and of the
storing of what was found, all inside the span of the lookup.
-/

namespace ExplorerProxy.Service

set_option autoImplicit false

def lookupSpan (k : Kind) (network address : String) : Log.Span :=
  ⟨"scanproxy.service_lookup",
    [⟨"kind", .text k.name⟩, ⟨"network", .shown network⟩, ⟨"address", .shown address⟩]⟩

def beginEvents (s : Service) (k : Kind) (network address : String) : List Log.Event :=
  match Network.ofTag? network with
  | none => []
  | some n => (s.cache k).getEvents ⟨n, address⟩

def foundEvent : (k : Kind) → Subject → k.Value → Log.Event
  | .holders, subject, addresses => ⟨.debug, .service, "Caching token holders",
      [⟨"key", .shown subject.text⟩, ⟨"count", .number addresses.length⟩], []⟩
  | .abi, subject, _ =>
    ⟨.debug, .service, "Caching contract ABI", [⟨"key", .shown subject.text⟩], []⟩

def storeEvents (s : Service) (k : Kind) (subject : Subject) (v : k.Value) : List Log.Event :=
  foundEvent k subject v :: (s.cache k).insertEvents subject

def lookupEvents (s : Service) (k : Kind) (network address : String)
    (answers : Subject → Nat → Except FetchError k.Value)
    (callEvents : Subject → Nat → List Log.Event) : List Log.Event :=
  let inside :=
    match s.begin k network address with
    | (.settled _, _) => []
    | (.asking subject, s) =>
      let run := s.policy.run FetchError.isTransient (answers subject)
      s.policy.events FetchError.isTransient FetchError.message (callEvents subject) run ++
        match run.result with
        | .ok v => s.storeEvents k subject v
        | .error _ => []
  (s.beginEvents k network address ++ inside).map (·.within (lookupSpan k network address))

end ExplorerProxy.Service
