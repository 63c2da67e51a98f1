import ExplorerProxy.Address.Ipv6

/-!
# Socket addresses

An IP address and a port, as the listen address is configured and shown. An IPv6
address stands in brackets and may have a numeric scope.
-/

namespace ExplorerProxy

set_option autoImplicit false

inductive SocketAddress where
  | v4 (ip : Ipv4) (port : UInt16)
  | v6 (ip : Ipv6) (scope : UInt32) (port : UInt16)
  deriving DecidableEq, Repr

namespace SocketAddress

/-- A decimal number below a bound; leading zeros are allowed, a sign is not. -/
def decimal? (bound : Nat) (cs : List Char) : Option Nat := do
  if cs.isEmpty then none
  else
    let ds ← cs.mapM Number.digit?
    let n := ds.foldl (fun n d => 10 * n + d) 0
    if n < bound then some n else none

def port? : List Char → Option UInt16
  | ':' :: cs => (decimal? UInt16.size cs).map .ofNat
  | _ => none

def parseV6? (cs : List Char) : Option SocketAddress := do
  let inside := cs.takeWhile (· != ']')
  let ip ← Ipv6.parse? (inside.takeWhile (· != '%'))
  let scope ←
    match inside.dropWhile (· != '%') with
    | [] => some 0
    | _ :: digits => decimal? UInt32.size digits
  match cs.dropWhile (· != ']') with
  | _ :: rest => do return .v6 ip (.ofNat scope) (← port? rest)
  | [] => none

def parse? (s : String) : Option SocketAddress :=
  match s.toList with
  | '[' :: cs => parseV6? cs
  | cs => do
    return .v4 (← Ipv4.parse? (cs.takeWhile (· != ':'))) (← port? (cs.dropWhile (· != ':')))

def text : SocketAddress → String
  | .v4 ip port => s!"{ip.text}:{port}"
  | .v6 ip scope port =>
    if scope = 0 then s!"[{ip.mixedText}]:{port}" else s!"[{ip.mixedText}%{scope}]:{port}"

end SocketAddress

end ExplorerProxy
