import ExplorerProxy.Config
import ExplorerProxy.Dotenv
import ExplorerProxy.Log.Filter
import ExplorerProxy.Log.Line

/-!
# Start-up

How the program starts: variables and a file of variables are read, the
configuration is made from them, and the listen address is bound. Every step is
reported; a failure ends the program.
-/

namespace ExplorerProxy.Startup

set_option autoImplicit false

def version : String := "0.1.0"

def filterKey : String := "RUST_LOG"

def formatKey : String := "SCANPROXY_LOG_FORMAT"

def filter (env : Dotenv.Environment) : Log.Filter :=
  ((env.lookup filterKey).bind Log.Filter.parse?).getD Log.Filter.standard

def printsJson (env : Dotenv.Environment) : Bool := env.lookup formatKey == some "json"

inductive Failure where
  | config (e : ConfigError)
  | bind (reason : String)
  deriving DecidableEq, Repr

def Failure.message : Failure → String
  | .config e => e.chain
  | .bind reason => reason

def configuredEvent (c : Config) : Log.Event :=
  ⟨.info, .startup, "Starting scanproxy",
    [⟨"version", .text version⟩, ⟨"retry_attempts", .number c.retry.maxAttempts.toNat⟩,
      ⟨"holders_cache_capacity", .number c.holdersCapacity.toNat⟩,
      ⟨"abi_cache_capacity", .number c.abiCapacity.toNat⟩], []⟩

def boundEvent (a : SocketAddress) : Log.Event :=
  ⟨.info, .startup, "Starting server", [⟨"address", .shown a.text⟩], []⟩

def failedEvent (f : Failure) : Log.Event :=
  ⟨.error, .program, "scanproxy error: " ++ f.message, [], []⟩

/-- Starts with the given variables; `bind` binds an address, or gives the reason why
it cannot. Returns the reports as well. -/
def start [InternationalNames] (env : Dotenv.Environment)
    (bind : SocketAddress → Except String SocketAddress) : Except Failure Config × List Log.Event :=
  match Config.ofVariables (fun key => env.lookup key) with
  | .error e => (.error (.config e), [failedEvent (.config e)])
  | .ok config =>
    match bind config.listenAddress with
    | .error reason =>
      (.error (.bind reason), [configuredEvent config, failedEvent (.bind reason)])
    | .ok bound => (.ok config, [configuredEvent config, boundEvent bound])

end ExplorerProxy.Startup
