import ExplorerProxy.Service.Stats
import ExplorerProxy.Subject
import ExplorerProxy.Wire.Basic

/-!
# The records on the wire

The values that the proxy sends and that a client reads back: networks, subjects,
statistics and error bodies. Each is written as an object with its fields in a
fixed order, a network as its tag. The detailed texts name the fields as well.
-/

namespace ExplorerProxy

set_option autoImplicit false

structure ErrorBody where
  code : String
  message : String
  deriving DecidableEq, Repr

def ErrorBody.detail (e : ErrorBody) : String :=
  s!"ErrorResponse \x7b code: {Text.quote e.code}, message: {Text.quote e.message} \x7d"

def CacheStats.detail (s : CacheStats) : String :=
  s!"CacheStats \x7b hits: {s.hits}, misses: {s.misses}, evictions: {s.evictions}, " ++
    s!"entries: {s.entries}, capacity: {s.capacity} \x7d"

def ServiceStats.detail (s : ServiceStats) : String :=
  s!"ServiceStats \x7b holders: {s.holders.detail}, abi: {s.abi.detail} \x7d"

namespace Wire

def ofWord (n : UInt64) : Json := .whole (Int.ofNat n.toNat)

def toWord? : Json → Option UInt64
  | .whole n => if 0 ≤ n ∧ n.toNat < UInt64.size then some (UInt64.ofNat n.toNat) else none
  | _ => none

instance : Wire Network where
  shape := .tag (Network.all.map Network.tag)
  toJson n := .string n.tag
  ofJson?
    | .string s => Network.ofTag? s
    | _ => none

instance : Wire Subject where
  shape := .record [("network", shape Network), ("address", .text)]
  toJson s := .object [("network", toJson s.network), ("address", .string s.address)]
  ofJson?
    | .object [(_, network), (_, .string address)] => (ofJson? network).map (⟨·, address⟩)
    | _ => none

instance : Wire ErrorBody where
  shape := .record [("code", .text), ("message", .text)]
  toJson e := .object [("code", .string e.code), ("message", .string e.message)]
  ofJson?
    | .object [(_, .string code), (_, .string message)] => some ⟨code, message⟩
    | _ => none

instance : Wire CacheStats where
  shape := .record [("hits", .word), ("misses", .word), ("evictions", .word),
    ("entries", .word), ("capacity", .word)]
  toJson s := .object [("hits", ofWord s.hits), ("misses", ofWord s.misses),
    ("evictions", ofWord s.evictions), ("entries", ofWord s.entries),
    ("capacity", ofWord s.capacity)]
  ofJson?
    | .object [(_, hits), (_, misses), (_, evictions), (_, entries), (_, capacity)] => do
      return ⟨← toWord? hits, ← toWord? misses, ← toWord? evictions, ← toWord? entries,
        ← toWord? capacity⟩
    | _ => none

instance : Wire ServiceStats where
  shape := .record [("holders", shape CacheStats), ("abi", shape CacheStats)]
  toJson s := .object [("holders", toJson s.holders), ("abi", toJson s.abi)]
  ofJson?
    | .object [(_, holders), (_, abi)] => do return ⟨← ofJson? holders, ← ofJson? abi⟩
    | _ => none

end Wire

end ExplorerProxy
