import ExplorerProxy.Api.Handler
import ExplorerProxy.Explorer.Fetch
import ExplorerProxy.Service.OfConfig
import ExplorerProxy.Startup

/-!
# The command line

Starts with the variables of the process and of the file `.env`, prints the reports
of the start, and answers requests: each line of standard input holds a method and
a target, and the status and the body of the response are printed for it. The web
behind the explorer sites is not part of this program; no connection to it can be
made. Names of sites are of ASCII characters only.
-/

namespace ExplorerProxy.Main

set_option autoImplicit false

/-- The variables that the program knows. -/
def keys : List String :=
  [Startup.filterKey, Startup.formatKey, Config.listenKey, Config.timeoutKey, Config.attemptsKey,
    Config.baseDelayKey, Config.holdersCapacityKey, Config.abiCapacityKey] ++
    Network.all.map Config.endpointKey

def processVariables : IO Dotenv.Environment :=
  keys.filterMapM fun key => do return (← IO.getEnv key).map fun value => (key, value)

/-- The variables of the process, with those of the file of variables if there is one. -/
def allVariables (own : Dotenv.Environment) : IO Dotenv.Environment := do
  try
    return Dotenv.load own (← IO.FS.readFile ".env")
  catch _ => return own

/-- Prints the events that the filter lets through. The time is that since the start. -/
def report (filter : Log.Filter) (asJson : Bool) (events : List Log.Event) : IO Unit := do
  let now ← IO.monoMsNow
  for e in events do
    if filter.prints e then
      IO.println (if asJson then e.toJson.write else e.line s!"{now}ms")

partial def serve [Timer] (source : Source) (log : List Log.Event → IO Unit) (w : Session) :
    IO Unit := do
  let line ← (← IO.getStdin).getLine
  if line.isEmpty then return
  let words := (line.toList.splitOn ' ').map fun cs => Text.trimBlanks (String.ofList cs)
  let done :=
    match words with
    | [method, target] => Api.handle source w method target
    | _ => ⟨Api.Response.notFound, [], [], w⟩
  log done.events
  IO.println s!"{done.answer.status} {done.answer.body}"
  serve source log done.session

end ExplorerProxy.Main

/-- Starts the proxy; the exit code is 1 when it does not start. -/
def main : IO UInt32 := do
  let _ : ExplorerProxy.InternationalNames := .plainOnly
  let _ : ExplorerProxy.Timer := .millis
  let own ← ExplorerProxy.Main.processVariables
  let all ← ExplorerProxy.Main.allVariables own
  let log := ExplorerProxy.Main.report (ExplorerProxy.Startup.filter own)
    (ExplorerProxy.Startup.printsJson all)
  let (started, events) := ExplorerProxy.Startup.start all .ok
  log events
  match started with
  | .error _ => return 1
  | .ok config =>
    let source := ExplorerProxy.Explorer.source config.endpoints ExplorerProxy.Explorer.unreachable
    ExplorerProxy.Main.serve source log (.start (.ofConfig config))
    return 0
