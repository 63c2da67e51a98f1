import ExplorerProxy.Error
import ExplorerProxy.Json.Writer
import ExplorerProxy.Wire.Records

/-!
# Responses

What a client is told. An error has a status, a code for programs and a message
for people; the message is the wording of the error itself.
-/

namespace ExplorerProxy.Api

set_option autoImplicit false

structure Response where
  status : Nat
  contentType : Option String
  allow : Option String
  body : String
  deriving DecidableEq, Repr

namespace Response

def json (status : Nat) (body : String) : Response := ⟨status, some "application/json", none, body⟩

def notFound : Response := ⟨404, none, none, ""⟩

def wrongMethod : Response := ⟨405, none, some "GET,HEAD", ""⟩

end Response

inductive Failure where
  | lookup (e : FetchError)
  | badRequest (message : String)
  deriving DecidableEq, Repr

namespace Failure

def message : Failure → String
  | .lookup e => e.message
  | .badRequest message => message

def statusCode : Failure → Nat × String
  | .badRequest _ => (400, "INVALID_REQUEST")
  | .lookup (.unsupportedNetwork _) => (400, "UNSUPPORTED_NETWORK")
  | .lookup (.invalidUrl _ _) => (400, "INVALID_REQUEST")
  | .lookup (.request _ .timeout) => (504, "UPSTREAM_TIMEOUT")
  | .lookup (.request _ .connection) => (502, "UPSTREAM_UNAVAILABLE")
  | .lookup (.status _ _) => (502, "UPSTREAM_UNAVAILABLE")
  | .lookup (.malformedAbi _ _) => (502, "MALFORMED_ABI")
  | .lookup .noClient => (500, "INTERNAL")

def body (f : Failure) : ErrorBody := ⟨f.statusCode.2, f.message⟩

def response (f : Failure) : Response := .json f.statusCode.1 (Wire.write f.body)

end Failure

end ExplorerProxy.Api
