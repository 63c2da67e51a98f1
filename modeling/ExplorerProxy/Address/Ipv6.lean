import ExplorerProxy.Address.Ipv4
import ExplorerProxy.Text.Quoted

/-!
# IPv6 addresses

Eight groups of sixteen bits, written in base sixteen with colons between them.
One run of zero groups may be left out between two colons, and the last two
groups may be written as an IPv4 address. The canonical text leaves out the
longest run of at least two zero groups, the first of several.
-/

namespace ExplorerProxy

set_option autoImplicit false

structure Ipv6 where
  groups : Vector UInt16 8
  deriving DecidableEq, Repr

namespace Ipv6

def group? (cs : List Char) : Option UInt16 := do
  if cs.isEmpty ∨ 4 < cs.length then none
  else
    let ds ← cs.mapM Number.hexDigit?
    return .ofNat (ds.foldl (fun n d => 16 * n + d) 0)

def pair (high low : UInt8) : UInt16 := .ofNat (256 * high.toNat + low.toNat)

def pieces? : List (List Char) → Option (List UInt16)
  | [] => some []
  | [last] =>
    match Ipv4.parse? last with
    | some x => some [pair x.a x.b, pair x.c x.d]
    | none => (group? last).map ([·])
  | piece :: more => do return (← group? piece) :: (← pieces? more)

def groups? (cs : List Char) : Option (List UInt16) :=
  if cs.isEmpty then some [] else pieces? (cs.splitOn ':')

def splitGap : List Char → Option (List Char × List Char)
  | ':' :: ':' :: rest => some ([], rest)
  | c :: rest => (splitGap rest).map fun (before, after) => (c :: before, after)
  | [] => none

def ofList? (l : List UInt16) : Option Ipv6 :=
  if h : l.toArray.size = 8 then some ⟨⟨l.toArray, h⟩⟩ else none

/-- Reads an address. A gap stands for at least one group, and no IPv4 address
stands before it. -/
def parse? (cs : List Char) : Option Ipv6 :=
  match splitGap cs with
  | none => groups? cs >>= ofList?
  | some (before, after) => do
    if before.contains '.' then none
    else
      let head ← groups? before
      let tail ← groups? after
      if head.length + tail.length < 8 then
        ofList? (head ++ List.replicate (8 - head.length - tail.length) 0 ++ tail)
      else none

def zeroRun (l : List UInt16) : Nat := (l.takeWhile (· == 0)).length

/-- The place and the length of the longest run of zero groups, the first of
several; `i` is the place of the head of the list. -/
def longestRun (i : Nat) : List UInt16 → Nat × Nat
  | [] => (i, 0)
  | g :: rest =>
    let later := longestRun (i + 1) rest
    let here := zeroRun (g :: rest)
    if later.2 ≤ here then (i, here) else later

def joined (l : List UInt16) : String :=
  ":".intercalate (l.map fun g => String.ofList (Text.hexDigits g.toNat))

def text (x : Ipv6) : String :=
  let l := x.groups.toList
  let (i, n) := longestRun 0 l
  if 1 < n then joined (l.take i) ++ "::" ++ joined (l.drop (i + n)) else joined l

def mapped? (x : Ipv6) : Option Ipv4 :=
  match x.groups.toList with
  | [0, 0, 0, 0, 0, 0xffff, g, h] => some (Ipv4.ofNat (65536 * g.toNat + h.toNat))
  | _ => none

def mixedText (x : Ipv6) : String :=
  match x.mapped? with
  | some v4 => "::ffff:" ++ v4.text
  | none => x.text

end Ipv6

end ExplorerProxy
