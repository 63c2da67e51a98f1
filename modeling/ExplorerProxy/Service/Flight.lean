import ExplorerProxy.Service.Session

/-!
# Lookups side by side

A request passes through phases: it begins, waits for calls to the source, rests
between them, stores what was found and is answered. Between two phases of one
request others may take steps of their own. Each step is one function on the
service, which sees no other request.

Requests that start together are moved on in the order of their list. Each goes on
until it has to wait; then the clock jumps to the next instant at which one of
them can go on.
-/

namespace ExplorerProxy

set_option autoImplicit false

structure Request where
  kind : Kind
  network : String
  address : String
  deriving DecidableEq, Repr

inductive Phase (α : Type) where
  | arrived
  /-- The call of the given attempt is made or about to be made. -/
  | calling (subject : Subject) (attempt : UInt32)
  /-- The given attempt follows after a wait. -/
  | resting (subject : Subject) (attempt : UInt32) (wait : Duration)
  | storing (subject : Subject) (value : α)
  | answered (answer : Except FetchError α)
  | dropped

namespace Phase

variable {α : Type}

def ofOpening : Service.Opening α → Phase α
  | .settled answer => .answered answer
  | .asking subject => .calling subject 1

def afterCall (p : RetryPolicy) (subject : Subject) (attempt : UInt32) :
    Except FetchError α → Phase α
  | .ok v => .storing subject v
  | .error e =>
    match p.afterFailure attempt e.isTransient with
    | .again wait => .resting subject (attempt + 1) wait
    | _ => .answered (.error e)

/-- The client goes away: nothing more is done for a request that is not answered. -/
def drop : Phase α → Phase α
  | .answered r => .answered r
  | _ => .dropped

def answer? : Phase α → Option (Except FetchError α)
  | .answered r => some r
  | _ => none

def isOver : Phase α → Bool
  | .answered _ => true
  | .dropped => true
  | _ => false

end Phase

/-- A request on its way: its phase, the reply to the call that is out, and the
instant from which it can go on. -/
structure Flight where
  request : Request
  phase : Phase request.kind.Value
  reply? : Option (Reply request.kind.Value)
  due : Nat

variable [Timer]

namespace Flight

def start (now : Nat) (r : Request) : Flight := ⟨r, .arrived, none, now⟩

def goTo (f : Flight) (phase : Phase f.request.kind.Value) (due : Nat) : Flight :=
  ⟨f.request, phase, none, due⟩

def span (f : Flight) : Log.Span :=
  Service.lookupSpan f.request.kind f.request.network f.request.address

def canMove (f : Flight) (now : Nat) : Bool := !f.phase.isOver && f.due ≤ now

/-- One step of a request that can go on. -/
def move (source : Source) (w : Session) (f : Flight) : Outcome Flight :=
  let k := f.request.kind
  let policy := w.service.policy
  match f.phase with
  | .arrived =>
    let (opening, service) := w.service.begin k f.request.network f.request.address
    ⟨f.goTo (.ofOpening opening) w.now, [],
      w.service.beginEvents k f.request.network f.request.address, { w with service }⟩
  | .calling subject attempt =>
    match f.reply? with
    | none =>
      let reply := source w.past k subject
      ⟨{ f with reply? := some reply, due := w.now + Timer.lasts reply.takes }, [⟨k, subject⟩], [],
        { w with past := ⟨k, subject⟩ :: w.past }⟩
    | some reply =>
      let phase := Phase.afterCall policy subject attempt reply.outcome
      let wait :=
        match phase with
        | .resting _ _ wait => Timer.lasts wait
        | _ => 0
      ⟨f.goTo phase (w.now + wait), [],
        reply.events ++
          policy.outcomeEvents FetchError.isTransient FetchError.message attempt reply.outcome, w⟩
  | .resting subject attempt _ => ⟨f.goTo (.calling subject attempt) w.now, [], [], w⟩
  | .storing subject value =>
    ⟨f.goTo (.answered (.ok value)) w.now, [], w.service.storeEvents k subject value,
      { w with service := w.service.store k subject value }⟩
  | _ => ⟨f, [], [], w⟩

/-- Steps of a request until it has to wait or is over; `n` bounds their number. -/
def moveOn (source : Source) : Nat → Session → Flight → Outcome Flight
  | 0, w, f => ⟨f, [], [], w⟩
  | n + 1, w, f =>
    if f.canMove w.now then
      let one := f.move source w
      let more := moveOn source n one.session one.answer
      ⟨more.answer, one.calls ++ more.calls, one.events.map (·.within f.span) ++ more.events,
        more.session⟩
    else ⟨f, [], [], w⟩

end Flight

namespace Session

/-- A bound on the steps of one request: three for each attempt, and those before
the first and after the last. -/
def stepBound (w : Session) : Nat := 3 * w.service.policy.limit.toNat + 3

/-- All requests go on, in the order of their list, until they have to wait. -/
def round (source : Source) (bound : Nat) (w : Session) : List Flight → Outcome (List Flight)
  | [] => ⟨[], [], [], w⟩
  | f :: flights =>
    let one := f.moveOn source bound w
    let more := round source bound one.session flights
    ⟨one.answer :: more.answer, one.calls ++ more.calls, one.events ++ more.events, more.session⟩

def nextDue (flights : List Flight) : Option Nat :=
  ((flights.filter fun f => !f.phase.isOver).map Flight.due).min?

/-- Rounds until all requests are over; `n` bounds their number. -/
def rounds (source : Source) (bound : Nat) : Nat → Session → List Flight → Outcome (List Flight)
  | 0, w, flights => ⟨flights, [], [], w⟩
  | n + 1, w, flights =>
    let one := w.round source bound flights
    match nextDue one.answer with
    | none => one
    | some due =>
      let more :=
        rounds source bound n { one.session with now := max one.session.now due } one.answer
      ⟨more.answer, one.calls ++ more.calls, one.events ++ more.events, more.session⟩

def together (source : Source) (w : Session) (requests : List Request) : Outcome (List Flight) :=
  w.rounds source w.stepBound (w.stepBound * requests.length + 1)
    (requests.map (Flight.start w.now))

end Session

end ExplorerProxy
