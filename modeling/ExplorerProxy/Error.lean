import ExplorerProxy.Http.Status
import ExplorerProxy.Json.Lexeme
import ExplorerProxy.Network
import ExplorerProxy.Text.Quoted
import ExplorerProxy.Url.Host

/-!
# Errors

Why a lookup fails, and why a configuration is refused. Each error is a cause with
what it concerns; its wording is one function. A lookup that failed on its way to
the explorer may succeed later, and only such a failure is tried again.
-/

namespace ExplorerProxy

set_option autoImplicit false

inductive RequestFault where
  | timeout
  | connection
  deriving DecidableEq, Repr

inductive FetchError where
  | unsupportedNetwork (name : String)
  | request (url : String) (fault : RequestFault)
  | status (url : String) (code : Nat)
  | invalidUrl (url : String) (cause : UrlError)
  /-- No requests can be sent at all. -/
  | noClient
  | malformedAbi (address : String) (cause : Json.ReadError)
  deriving DecidableEq, Repr

namespace FetchError

def message : FetchError → String
  | .unsupportedNetwork name => s!"Unsupported network: {name}"
  | .request url _ => s!"Request to {url} failed"
  | .status url code => s!"Explorer returned HTTP {Http.statusText code} for {url}"
  | .invalidUrl url _ => s!"Invalid explorer URL {url}"
  | .noClient => "Failed to initialize HTTP client"
  | .malformedAbi address _ => s!"Malformed ABI for {address}"

def isTransient : FetchError → Bool
  | .request _ _ => true
  | .status _ _ => true
  | _ => false

end FetchError

inductive ConfigError where
  | invalidValue (key value reason : String)
  | invalidEndpoint (network : Network) (url : String) (cause : UrlError)
  deriving DecidableEq, Repr

namespace ConfigError

def message : ConfigError → String
  | .invalidValue key value reason => s!"Invalid value {Text.quote value} for {key}: {reason}"
  | .invalidEndpoint network url _ =>
    s!"Invalid endpoint {Text.quote url} for network {network.tag}"

def source? : ConfigError → Option String
  | .invalidValue _ _ _ => none
  | .invalidEndpoint _ _ cause => some cause.message

def chain (e : ConfigError) : String :=
  match e.source? with
  | some source => s!"{e.message}: {source}"
  | none => e.message

end ConfigError

inductive ProxyError where
  | fetch (e : FetchError)
  | config (e : ConfigError)
  deriving DecidableEq, Repr

def ProxyError.message : ProxyError → String
  | .fetch e => s!"Scrape error: {e.message}"
  | .config e => s!"Configuration error: {e.message}"

end ExplorerProxy
