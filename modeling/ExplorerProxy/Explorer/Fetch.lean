import ExplorerProxy.Endpoints
import ExplorerProxy.Explorer.Headers
import ExplorerProxy.Page.Events
import ExplorerProxy.Page.Holders
import ExplorerProxy.Service.Source

/-!
# Asking the explorer sites

A lookup is answered from one page of the explorer site of its network. How the
web answers a request is taken as given: the fetch of a page, redirects followed,
ends with a status and a body, in time or not. Only web pages can be fetched.
-/

namespace ExplorerProxy.Explorer

set_option autoImplicit false

inductive PageOutcome where
  /-- No complete answer came in time. -/
  | timeout
  /-- The connection failed before the answer was complete. -/
  | broken
  | answer (status : Nat) (body : String)
  deriving DecidableEq, Repr

/-- A request for a page: its address, what that says about where to send the
request, and the headers. -/
structure PageRequest where
  page : String
  url : Url
  headers : List (String × String)
  deriving DecidableEq, Repr

def pageRequest (page : String) (url : Url) : PageRequest := ⟨page, url, headers url.hostText⟩

/-- How successive requests end. -/
abbrev Web : Type := Nat → PageRequest → PageOutcome

/-- A web in which no connection can be made. -/
def unreachable : Web := fun _ _ => .broken

structure FetchedPage where
  status : Nat
  body : String
  deriving DecidableEq, Repr

def page (t : Endpoints) : Kind → Subject → String
  | .holders, s => t.holdersPage s.network s.address
  | .abi, s => t.addressPage s.network s.address

def extract : (k : Kind) → (body : String) → Subject → Except FetchError k.Value
  | .holders, body, s => .ok (Page.holders body s.address)
  | .abi, body, s => Page.abi body s.address

section Asking

variable [InternationalNames]

def fetchPage (fetch : PageRequest → PageOutcome) (page : String) : Except FetchError FetchedPage :=
  match Url.parse page with
  | .error cause => .error (.invalidUrl page cause)
  | .ok url =>
    match if url.isWebPage then fetch (pageRequest page url) else .broken with
    | .timeout => .error (.request page .timeout)
    | .broken => .error (.request page .connection)
    | .answer status body =>
      if Http.isSuccess status then .ok ⟨status, body⟩ else .error (.status page status)

def lookup (t : Endpoints) (fetch : PageRequest → PageOutcome) (k : Kind) (s : Subject) :
    Except FetchError k.Value :=
  match fetchPage fetch (page t k s) with
  | .error e => .error e
  | .ok fetched => extract k fetched.body s

end Asking

def pageSpan (page : String) : Log.Span := ⟨"scanproxy.fetch_page", [⟨"url", .shown page⟩]⟩

def lookupSpan : Kind → Subject → Log.Span
  | .holders, s => ⟨"scanproxy.fetch_holders", [⟨"network", .shown s.network.tag⟩,
      ⟨"chain", .shown s.network.chainName⟩, ⟨"token_address", .shown s.address⟩]⟩
  | .abi, s => ⟨"scanproxy.fetch_abi", [⟨"network", .shown s.network.tag⟩,
      ⟨"chain", .shown s.network.chainName⟩, ⟨"address", .shown s.address⟩]⟩

def fetchedEvent (fetched : FetchedPage) : Log.Event :=
  ⟨.debug, .explorer, "Fetched explorer page",
    [⟨"status", .shown (Http.statusText fetched.status)⟩,
      ⟨"bytes", .number fetched.body.utf8ByteSize⟩], []⟩

def extractEvents : Kind → (body : String) → Subject → List Log.Event
  | .holders, body, s => [⟨.debug, .explorer, "Extracted token holders",
      [⟨"count", .number (Page.holders body s.address).length⟩], []⟩]
  | .abi, body, _ => Page.abiEvents body

section Reporting

variable [InternationalNames]

def lookupEvents (t : Endpoints) (fetch : PageRequest → PageOutcome) (k : Kind) (s : Subject) :
    List Log.Event :=
  match fetchPage fetch (page t k s) with
  | .error _ => []
  | .ok fetched =>
    ((fetchedEvent fetched).within (pageSpan (page t k s)) ::
      extractEvents k fetched.body s).map (·.within (lookupSpan k s))

/-- The explorer sites as a source; each call is one request. -/
def source (t : Endpoints) (web : Web) : Source := fun past k s =>
  let fetch := web past.length
  ⟨lookup t fetch k s, .ofMillis 0, lookupEvents t fetch k s⟩

end Reporting

end ExplorerProxy.Explorer
