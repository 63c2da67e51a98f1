import ExplorerProxy.Address.Ipv6
import ExplorerProxy.Text.Percent
import ExplorerProxy.Url.Label

/-!
# Hosts of addresses on the web

A host is a domain name, an IPv4 address in one of its many spellings, or an IPv6
address in brackets. Where the scheme gives hosts no meaning it is any text
without delimiters. Domain names are of ASCII characters; a label that begins with
`xn--` is the encoded form of one with others. How a name is encoded that has others
in it is taken as given.
-/

namespace ExplorerProxy

set_option autoImplicit false

inductive UrlError where
  | noScheme
  | emptyHost
  | port
  | domainName
  | ipv4
  | ipv6
  | hostCharacter
  deriving DecidableEq, Repr, Inhabited

def UrlError.message : UrlError → String
  | .noScheme => "relative URL without a base"
  | .emptyHost => "empty host"
  | .port => "invalid port number"
  | .domainName => "invalid international domain name"
  | .ipv4 => "invalid IPv4 address"
  | .ipv6 => "invalid IPv6 address"
  | .hostCharacter => "invalid domain character"

/-- How a domain name with other characters than ASCII is read: the bytes of such a name
stand for a name in ASCII characters, or for none. -/
class InternationalNames where
  ascii? : List UInt8 → Option (List Char)

/-- No such name is read. -/
abbrev InternationalNames.plainOnly : InternationalNames := ⟨fun _ => none⟩

inductive Host where
  | domain (name : String)
  | ipv4 (ip : Ipv4)
  | ipv6 (ip : Ipv6)
  deriving DecidableEq, Repr

namespace Host

def text : Host → String
  | .domain name => name
  | .ipv4 ip => ip.text
  | .ipv6 ip => s!"[{ip.text}]"

def forbiddenInDomain (c : Char) : Bool :=
  c.toNat ≤ 0x20 || c.toNat == 0x7f || "%#/:<>?@[\\]^|".toList.contains c

def forbiddenInHost (c : Char) : Bool :=
  "\x00\t\n\r #/:<>?@[\\]^|".toList.contains c

/-- A number in one of the spellings of IPv4 addresses: decimal, octal after a
zero, or in base sixteen after `0x`. None when it is no number. -/
def number? (cs : List Char) : Option Nat :=
  let inBase (base : Nat) (ds : List Char) : Option Nat := do
    let ns ← ds.mapM Number.hexDigit?
    if ns.all (· < base) then some (ns.foldl (fun n d => base * n + d) 0) else none
  match cs with
  | [] => none
  | '0' :: 'x' :: ds => inBase 16 ds
  | '0' :: 'X' :: ds => inBase 16 ds
  | '0' :: d :: ds => inBase 8 (d :: ds)
  | ds => inBase 10 ds

/-- The labels of a name; one empty label at the end does not count. -/
def labels (cs : List Char) : List (List Char) :=
  let parts := cs.splitOn '.'
  if parts.getLast? = some [] then parts.dropLast else parts

/-- A name whose last label is a number is to be an IPv4 address. -/
def endsInNumber (cs : List Char) : Bool :=
  match (labels cs).getLast? with
  | none => false
  | some last => (!last.isEmpty && last.all fun c => '0' ≤ c && c ≤ '9') || (number? last).isSome

/-- Reads an IPv4 address: one to four numbers, the last of which fills the bits
that are left. -/
def parseIpv4 (cs : List Char) : Except UrlError Ipv4 :=
  let parts := labels cs
  match parts.mapM number? with
  | none => .error .ipv4
  | some ns =>
    match ns.getLast? with
    | none => .error .ipv4
    | some last =>
      let front := ns.dropLast
      let room := Nat.pow 256 (4 - front.length)
      if 4 < ns.length ∨ front.any (255 < ·) ∨ room ≤ last then .error .ipv4
      else .ok (.ofNat (front.foldl (fun n d => 256 * n + d) 0 * room + last))

def parseBracketed (cs : List Char) : Except UrlError Host :=
  match cs.getLast? with
  | some ']' =>
    match Ipv6.parse? cs.dropLast with
    | some ip => .ok (.ipv6 ip)
    | none => .error .ipv6
  | _ => .error .ipv6

/-- Reads a domain name of ASCII characters. Letters are folded to lower case. -/
def plainName? (bytes : List UInt8) : Option (List Char) :=
  let name := bytes.map fun b => (Char.ofNat b.toNat).toLower
  if name.any forbiddenInDomain || !Label.areName (name.splitOn '.') then none else some name

section Names

variable [InternationalNames]

def name? (bytes : List UInt8) : Option (List Char) :=
  if bytes.any (0x80 ≤ ·) then InternationalNames.ascii? bytes else plainName? bytes

/-- Reads the host of an address whose scheme knows hosts. Escapes are decoded first. -/
def parse (cs : List Char) : Except UrlError Host :=
  match cs with
  | '[' :: rest => parseBracketed rest
  | _ =>
    match name? (Text.percentDecode (Text.utf8Bytes (String.ofList cs))) with
    | none => .error .domainName
    | some name =>
      if name.isEmpty then .error .emptyHost
      else if endsInNumber name then (parseIpv4 name).map .ipv4
      else .ok (.domain (String.ofList name))

end Names

def parseOpaque (cs : List Char) : Except UrlError Host :=
  match cs with
  | '[' :: rest => parseBracketed rest
  | _ =>
    if cs.any forbiddenInHost then .error .hostCharacter
    else
      let escape (b : UInt8) : Bool := b < 0x20 || 0x7f ≤ b
      .ok (.domain (String.ofList (Text.percentEncode escape (Text.utf8Bytes (String.ofList cs)))))

end Host

end ExplorerProxy
