import ExplorerProxy.Json.Value

/-!
# Kinds of lookups

A lookup asks for the holders of a token or for the published interface of a
contract. The kind decides the type of the value that is found.
-/

namespace ExplorerProxy

set_option autoImplicit false

inductive Kind where
  | holders
  | abi
  deriving DecidableEq, Repr

namespace Kind

def name : Kind → String
  | .holders => "holders"
  | .abi => "abi"

/-- What a lookup of a kind finds: addresses, or a JSON value. -/
abbrev Value : Kind → Type
  | .holders => List String
  | .abi => Json

def toJson : (k : Kind) → k.Value → Json
  | .holders, addresses => .array (addresses.map .string)
  | .abi, v => v

end Kind

end ExplorerProxy
