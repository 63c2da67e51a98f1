import ExplorerProxy.Service.Kind
import ExplorerProxy.Text.Percent

/-!
# Routes

The paths that the proxy answers. A path is matched before it is decoded, so an
escaped slash stays inside its segment. Only the last segment must not be empty.
-/

namespace ExplorerProxy.Api

set_option autoImplicit false

/-- What a path asks for. The segments of a lookup are as they stand in the path. -/
inductive Route where
  | lookup (kind : Kind) (network address : String)
  | health
  | stats
  deriving DecidableEq, Repr

/-- The path of a request target: what stands before the query, after the scheme
and the host if the target names them. -/
def pathOf (target : List Char) : List Char :=
  let upToQuery := target.takeWhile fun c => c != '?' && c != '#'
  match upToQuery with
  | '/' :: _ => upToQuery
  | _ =>
    match (upToQuery.dropWhile (· != ':')).drop 3 with
    | [] => upToQuery
    | rest =>
      match rest.dropWhile (· != '/') with
      | [] => ['/']
      | path => path

def Route.ofPath? (path : List Char) : Option Route :=
  match (path.splitOn '/').map String.ofList with
  | ["", "health"] => some .health
  | ["", "stats"] => some .stats
  | ["", "holders", network, address] =>
    if address.isEmpty then none else some (.lookup .holders network address)
  | ["", "abi", network, address] =>
    if address.isEmpty then none else some (.lookup .abi network address)
  | _ => none

def decodeSegments (network address : String) : Except String (String × String) :=
  match Text.percentDecode? network with
  | none => .error "network"
  | some n =>
    match Text.percentDecode? address with
    | none => .error "token_address"
    | some a => .ok (n, a)

end ExplorerProxy.Api
