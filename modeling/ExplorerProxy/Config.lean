import ExplorerProxy.Address.Socket
import ExplorerProxy.Endpoints
import ExplorerProxy.Number.Whole
import ExplorerProxy.Retry.Policy
import ExplorerProxy.Text.Blank

/-!
# Configuration

The settings of the proxy, and how they are read from variables. A variable that
is not set keeps its default; one that is set but not valid is an error, which
names the variable and its value as it was set. Variables are read in a fixed
order, and the first fault is reported.
-/

namespace ExplorerProxy

set_option autoImplicit false

structure Config where
  listenAddress : SocketAddress
  requestTimeout : Duration
  retry : RetryPolicy
  holdersCapacity : UInt64
  abiCapacity : UInt64
  endpoints : Endpoints

namespace Config

def defaultAddress : SocketAddress := .v4 ⟨127, 0, 0, 1⟩ 5003

def defaultCapacity : UInt64 := 10240

def standard : Config :=
  ⟨defaultAddress, .ofSecs 30, .standard, defaultCapacity, defaultCapacity, .builtIn⟩

def listenKey : String := "SCANPROXY_LISTEN_ADDR"
def timeoutKey : String := "SCANPROXY_REQUEST_TIMEOUT_SECS"
def attemptsKey : String := "SCANPROXY_RETRY_ATTEMPTS"
def baseDelayKey : String := "SCANPROXY_RETRY_BASE_DELAY_MS"
def holdersCapacityKey : String := "SCANPROXY_HOLDERS_CACHE_CAPACITY"
def abiCapacityKey : String := "SCANPROXY_ABI_CACHE_CAPACITY"

def endpointKey (n : Network) : String := "SCANPROXY_ENDPOINT_" ++ n.capitals

abbrev Variables : Type := String → Option String

abbrev ValueReader (α : Type) : Type := String → Except String α

def setting {α : Type} (vars : Variables) (key : String) (reader : ValueReader α) :
    Except ConfigError (Option α) :=
  match vars key with
  | none => .ok none
  | some value =>
    match reader (Text.trimBlanks value) with
    | .ok a => .ok (some a)
    | .error reason => .error (.invalidValue key value reason)

def socketAddress : ValueReader SocketAddress := fun s =>
  match SocketAddress.parse? s with
  | some a => .ok a
  | none => .error "invalid socket address syntax"

def word64 : ValueReader UInt64 := fun s =>
  match Number.word64? s with
  | .ok n => .ok n
  | .error e => .error e.message

def positive64 : ValueReader UInt64 := fun s => do
  let n ← word64 s
  if n = 0 then .error "must be at least 1" else .ok n

def positive32 : ValueReader UInt32 := fun s =>
  match Number.word32? s with
  | .ok n => if n = 0 then .error "must be at least 1" else .ok n
  | .error e => .error e.message

section Sites

variable [InternationalNames]

/-- The site of a network, if its variable is set. It is not trimmed. -/
def endpointFrom (vars : Variables) (t : Endpoints) (n : Network) : Except ConfigError Endpoints :=
  match vars (endpointKey n) with
  | none => .ok t
  | some url => t.override n url

def ofVariables (vars : Variables) : Except ConfigError Config := do
  let listenAddress ← setting vars listenKey socketAddress
  let timeout ← setting vars timeoutKey positive64
  let attempts ← setting vars attemptsKey positive32
  let baseDelay ← setting vars baseDelayKey word64
  let holdersCapacity ← setting vars holdersCapacityKey word64
  let abiCapacity ← setting vars abiCapacityKey word64
  let endpoints ← Network.all.foldlM (endpointFrom vars) Endpoints.builtIn
  return {
    listenAddress := listenAddress.getD standard.listenAddress
    requestTimeout := (timeout.map Duration.ofSecs).getD standard.requestTimeout
    retry := {
      maxAttempts := attempts.getD standard.retry.maxAttempts
      baseDelay := (baseDelay.map Duration.ofMillis).getD standard.retry.baseDelay
      maxDelay := standard.retry.maxDelay }
    holdersCapacity := holdersCapacity.getD standard.holdersCapacity
    abiCapacity := abiCapacity.getD standard.abiCapacity
    endpoints }

end Sites

end Config

end ExplorerProxy
