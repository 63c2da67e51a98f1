import ExplorerProxy.Service.Events

/-!
# Sessions

A service at work with its source: the clock, in milliseconds, and the calls made so
far. Looking something up gives the answer, the calls made for it, and the reports.
-/

namespace ExplorerProxy

set_option autoImplicit false

structure Session where
  service : Service
  now : Nat
  /-- The calls made so far, the latest first. -/
  past : List Call

structure Outcome (α : Type) where
  answer : α
  calls : List Call
  events : List Log.Event
  session : Session

namespace Session

def start (s : Service) : Session := ⟨s, 0, []⟩

def lookup [Timer] (source : Source) (w : Session) (k : Kind) (network address : String) :
    Outcome (Except FetchError k.Value) :=
  let reply (subject : Subject) (i : Nat) : Reply k.Value :=
    source (List.replicate i ⟨k, subject⟩ ++ w.past) k subject
  let answers (subject : Subject) (i : Nat) := (reply subject i).outcome
  let l := w.service.lookup k network address answers
  let calls :=
    match l.asked with
    | none => []
    | some (subject, run) => List.replicate run.calls ⟨k, subject⟩
  let now :=
    match l.asked with
    | none => w.now
    | some (subject, run) => run.ends (Timer.clock fun i => (reply subject i).takes) w.now
  { answer := l.answer
    calls
    events := w.service.lookupEvents k network address answers fun subject i =>
      (reply subject i).events
    session := ⟨l.service, now, calls ++ w.past⟩ }

end Session

end ExplorerProxy
