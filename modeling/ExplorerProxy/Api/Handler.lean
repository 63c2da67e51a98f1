import ExplorerProxy.Api.Response
import ExplorerProxy.Api.Route
import ExplorerProxy.Service.Session

/-!
# Answering requests

Each request is answered by its route. A lookup is answered by the service, for
the decoded segments of the path; a path that cannot be decoded is refused before
the service is asked. A request for the head of a response gets the response to
the full request without its body.
-/

namespace ExplorerProxy.Api

set_option autoImplicit false

/-- The refusal of a path one of whose segments, named here, is no text. -/
def undecodable (segment : String) : Failure :=
  .badRequest s!"Invalid URL: Invalid UTF-8 in `{segment}`"

def lookupResponse (k : Kind) : Except FetchError k.Value → Response
  | .ok v => .json 200 (k.toJson v).write
  | .error e => (Failure.lookup e).response

def receivedEvent (k : Kind) (network address : String) : Log.Event :=
  let message :=
    match k with
    | .holders => "Received holders request"
    | .abi => "Received ABI request"
  ⟨.info, .api, message, [⟨"network", .shown network⟩, ⟨"token_address", .shown address⟩], []⟩

def failureEvents (f : Failure) : List Log.Event :=
  if Http.isServerError f.statusCode.1 then
    [⟨.warn, .api, "Request failed",
      [⟨"error", .shown f.message⟩, ⟨"code", .text f.statusCode.2⟩], []⟩]
  else []

variable [Timer]

def handleLookup (source : Source) (w : Session) (k : Kind) (network address : String) :
    Outcome Response :=
  match decodeSegments network address with
  | .error segment =>
    ⟨(undecodable segment).response, [], failureEvents (undecodable segment), w⟩
  | .ok (network, address) =>
    let found := w.lookup source k network address
    let failed :=
      match found.answer with
      | .ok _ => []
      | .error e => failureEvents (.lookup e)
    { answer := lookupResponse k found.answer
      calls := found.calls
      events := receivedEvent k network address :: (found.events ++ failed)
      session := found.session }

def handleRoute (source : Source) (w : Session) : Route → Outcome Response
  | .lookup k network address => handleLookup source w k network address
  | .health => ⟨.json 200 "\x7b\"status\":\"ok\"\x7d", [], [], w⟩
  | .stats => ⟨.json 200 (Wire.write w.service.stats), [], [], w⟩

def handle (source : Source) (w : Session) (method target : String) : Outcome Response :=
  match Route.ofPath? (pathOf target.toList) with
  | none => ⟨.notFound, [], [], w⟩
  | some route =>
    if method = "GET" then handleRoute source w route
    else if method = "HEAD" then
      let full := handleRoute source w route
      { full with answer := { full.answer with body := "" } }
    else ⟨.wrongMethod, [], [], w⟩

end ExplorerProxy.Api
