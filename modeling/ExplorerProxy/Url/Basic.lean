import ExplorerProxy.Url.Host

/-!
# Addresses on the web

Reading an address as browsers do: control characters and spaces around it, and
tabs and line ends inside it, are passed over. A scheme is needed. What decides
where a request goes is kept: the scheme, the host and the port. The path, the
query and the fragment accept any text.
-/

namespace ExplorerProxy

set_option autoImplicit false

/-- The parts of an address that decide where a request for it goes. -/
structure Url where
  scheme : String
  host : Option Host
  /-- The port, unless it is the one that the scheme implies. -/
  port : Option Nat
  deriving DecidableEq, Repr

namespace Url

inductive Family where
  /-- Backslashes are slashes, and there is always a host. -/
  | web
  /-- A host only where there are two slashes, and drive letters. -/
  | file
  /-- A host only where there are two slashes. -/
  | other
  deriving DecidableEq, Repr

def family : String → Family
  | "http" | "https" | "ws" | "wss" | "ftp" => .web
  | "file" => .file
  | _ => .other

def impliedPort : String → Option Nat
  | "http" | "ws" => some 80
  | "https" | "wss" => some 443
  | "ftp" => some 21
  | _ => none

def isMargin (c : Char) : Bool := c.toNat ≤ 0x20

def isIgnored (c : Char) : Bool := c == '\t' || c == '\n' || c == '\r'

def significant (cs : List Char) : List Char :=
  let cs := cs.dropWhile isMargin
  ((cs.reverse.dropWhile isMargin).reverse).filter fun c => !isIgnored c

def isLetter (c : Char) : Bool := ('a' ≤ c && c ≤ 'z') || ('A' ≤ c && c ≤ 'Z')

def inScheme (c : Char) : Bool :=
  isLetter c || ('0' ≤ c && c ≤ '9') || c == '+' || c == '-' || c == '.'

def splitScheme? (cs : List Char) : Option (String × List Char) :=
  if (cs.head?.map isLetter).getD false then
    match cs.dropWhile inScheme with
    | ':' :: rest => some (String.ofList ((cs.takeWhile inScheme).map Char.toLower), rest)
    | _ => none
  else none

def isSlash (family : Family) (c : Char) : Bool :=
  c == '/' || (c == '\\' && family != .other)

def endsAuthority (family : Family) (c : Char) : Bool :=
  isSlash family c || c == '?' || c == '#'

def splitLastAt (cs : List Char) : Option (List Char × List Char) :=
  if cs.contains '@' then
    let back := cs.reverse
    some ((back.dropWhile (· != '@')).tail.reverse, (back.takeWhile (· != '@')).reverse)
  else none

def splitHost (inside : Bool) : List Char → List Char × List Char
  | [] => ([], [])
  | c :: rest =>
    if c == ':' && !inside then ([], c :: rest)
    else
      let inside := if c == '[' then true else if c == ']' then false else inside
      let (host, after) := splitHost inside rest
      (c :: host, after)

/-- Reads a port, after its colon. No digits are no port. -/
def parsePort (scheme : String) (cs : List Char) : Except UrlError (Option Nat) :=
  match (cs.takeWhile (· != '\\')).mapM Number.digit? with
  | none => .error .port
  | some [] => .ok none
  | some ds =>
    let port := ds.foldl (fun n d => 10 * n + d) 0
    if UInt16.size ≤ port then .error .port
    else .ok (if impliedPort scheme = some port then none else some port)

def isDriveLetter : List Char → Bool
  | [c, d] => isLetter c && (d == ':' || d == '|')
  | _ => false

section Reading

variable [InternationalNames]

/-- Reads host and port, which is all that is left of a text. The host is empty
only where the scheme gives hosts no meaning and no port follows; it must not be
empty after a name or a password either. -/
def parseHostPort (scheme : String) (named : Bool) (cs : List Char) : Except UrlError Url := do
  let (hostText, after) := splitHost false cs
  if hostText.isEmpty then
    if family scheme = .web ∨ !after.isEmpty ∨ named then .error .emptyHost
    else .ok ⟨scheme, none, none⟩
  else
    let host ← if family scheme = .other then Host.parseOpaque hostText else Host.parse hostText
    match after with
    | _ :: digits => do return ⟨scheme, some host, ← parsePort scheme digits⟩
    | [] => .ok ⟨scheme, some host, none⟩

/-- Reads an address after its scheme and its slashes. Before the last at sign
stand a name and a password, of which nothing but a colon is as good as none. -/
def parseAuthority (scheme : String) (cs : List Char) : Except UrlError Url :=
  let authority := cs.takeWhile fun c => !endsAuthority (family scheme) c
  match splitLastAt authority with
  | none => parseHostPort scheme false authority
  | some (user, rest) =>
    if user.isEmpty ∧ rest.isEmpty ∧ authority.length < cs.length then .error .emptyHost
    else parseHostPort scheme (!user.isEmpty && user != [':']) rest

/-- Reads the address of a file after its scheme. The host of this machine is as
good as none. -/
def parseFile (cs : List Char) : Except UrlError Url :=
  match cs with
  | a :: b :: rest =>
    if isSlash .file a && isSlash .file b then
      let hostText := rest.takeWhile fun c => !endsAuthority .file c
      if hostText.isEmpty || isDriveLetter hostText then .ok ⟨"file", none, none⟩
      else
        match Host.parse hostText with
        | .error e => .error e
        | .ok host =>
          .ok ⟨"file", if host = .domain "localhost" then none else some host, none⟩
    else .ok ⟨"file", none, none⟩
  | _ => .ok ⟨"file", none, none⟩

def parse (s : String) : Except UrlError Url :=
  match splitScheme? (significant s.toList) with
  | none => .error .noScheme
  | some (scheme, rest) =>
    match family scheme with
    | .web => parseAuthority scheme (rest.dropWhile (isSlash .web))
    | .file => parseFile rest
    | .other =>
      match rest with
      | '/' :: '/' :: rest => parseAuthority scheme rest
      | _ => .ok ⟨scheme, none, none⟩

end Reading

def isWebPage (u : Url) : Bool := u.scheme == "http" || u.scheme == "https"

def hostText (u : Url) : Option String := u.host.map Host.text

end Url

end ExplorerProxy
