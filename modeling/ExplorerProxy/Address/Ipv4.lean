import ExplorerProxy.Number.Whole

/-!
# IPv4 addresses

Four numbers of eight bits, written with points between them. The strict form
has four decimal numbers without leading zeros.
-/

namespace ExplorerProxy

set_option autoImplicit false

structure Ipv4 where
  a : UInt8
  b : UInt8
  c : UInt8
  d : UInt8
  deriving DecidableEq, Repr

namespace Ipv4

def ofNat (n : Nat) : Ipv4 :=
  ⟨.ofNat (n >>> 24), .ofNat (n >>> 16), .ofNat (n >>> 8), .ofNat n⟩

def text (x : Ipv4) : String := s!"{x.a}.{x.b}.{x.c}.{x.d}"

def octet? (cs : List Char) : Option UInt8 := do
  if cs.isEmpty ∨ 3 < cs.length ∨ (1 < cs.length ∧ cs.head? = some '0') then none
  else
    let ds ← cs.mapM Number.digit?
    let n := ds.foldl (fun n d => 10 * n + d) 0
    if n < 256 then some (.ofNat n) else none

def parse? (cs : List Char) : Option Ipv4 :=
  match cs.splitOn '.' with
  | [a, b, c, d] => do return ⟨← octet? a, ← octet? b, ← octet? c, ← octet? d⟩
  | _ => none

end Ipv4

end ExplorerProxy
