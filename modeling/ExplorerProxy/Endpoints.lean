import ExplorerProxy.Error
import ExplorerProxy.Url.Basic

/-!
# Endpoints

The explorer site to ask for each network: a built-in one, or one given in its
place. A given site must be an address on the web, and is kept as it was written
but for the slashes at its end, so that a page is the site, a slash and a path.
-/

namespace ExplorerProxy

set_option autoImplicit false

def trimSlashes (s : String) : String :=
  String.ofList (s.toList.reverse.dropWhile (· == '/')).reverse

/-- The sites given in place of built-in ones. -/
structure Endpoints where
  given? : Network → Option String

namespace Endpoints

def builtIn : Endpoints := ⟨fun _ => none⟩

def base (t : Endpoints) (n : Network) : String := (t.given? n).getD n.defaultBase

def set (t : Endpoints) (n : Network) (site : String) : Endpoints :=
  ⟨fun m => if m = n then some site else t.given? m⟩

def override [InternationalNames] (t : Endpoints) (n : Network) (url : String) :
    Except ConfigError Endpoints :=
  match Url.parse url with
  | .error cause => .error (.invalidEndpoint n url cause)
  | .ok _ => .ok (t.set n (trimSlashes url))

def resolve (t : Endpoints) (tag : String) : Except FetchError (Network × String) :=
  match Network.ofTag? tag with
  | some n => .ok (n, t.base n)
  | none => .error (.unsupportedNetwork tag)

def holdersPage (t : Endpoints) (n : Network) (token : String) : String :=
  s!"{t.base n}/token/generic-tokenholders2?a={token}"

def addressPage (t : Endpoints) (n : Network) (address : String) : String :=
  s!"{t.base n}/address/{address}"

end Endpoints

end ExplorerProxy
