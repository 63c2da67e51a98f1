import ExplorerProxy.Log.Event
import ExplorerProxy.Retry.Policy

/-!
# Runs of attempts

A run repeats a call under a policy: until it succeeds, until it fails for good,
or until all attempts are used up. The outcomes of the successive calls are given
as a function of their number, from zero. A run is recorded as the failures that
another attempt followed, each with the wait after it, and the last outcome.
-/

namespace ExplorerProxy

set_option autoImplicit false

/-- How long the calls of a run last, by their number, and the waits after them. -/
structure Clock where
  call : Nat → Nat
  wait : Duration → Nat

/-- Calls and waits last as sleeps of their durations do. -/
def Timer.clock [Timer] (takes : Nat → Duration) : Clock := ⟨fun i => lasts (takes i), lasts⟩

structure RetryRun (ε α : Type) where
  /-- The failures that another attempt followed, and the waits after them. -/
  earlier : List (ε × Duration)
  result : Except ε α

namespace RetryRun

variable {ε α : Type}

def calls (r : RetryRun ε α) : Nat := r.earlier.length + 1

def waits (r : RetryRun ε α) : List Duration := r.earlier.map (·.2)

def after (r : RetryRun ε α) (failure : ε) (wait : Duration) : RetryRun ε α :=
  { r with earlier := (failure, wait) :: r.earlier }

/-- When the calls of a run start and when it ends by a clock, from call number `i` on,
which starts at `now`. -/
def schedule (clock : Clock) : List Duration → Nat → Nat → List Nat × Nat
  | [], i, now => ([now], now + clock.call i)
  | wait :: waits, i, now =>
    let later := schedule clock waits (i + 1) (now + clock.call i + clock.wait wait)
    (now :: later.1, later.2)

/-- When the calls start, if the first starts at `now`. -/
def starts (r : RetryRun ε α) (clock : Clock) (now : Nat) : List Nat :=
  (schedule clock r.waits 0 now).1

/-- When the run ends, if its first call starts at `now`. -/
def ends (r : RetryRun ε α) (clock : Clock) (now : Nat) : Nat :=
  (schedule clock r.waits 0 now).2

end RetryRun

namespace RetryPolicy

variable {ε α : Type}

/-- Runs a call from attempt number `attempt` on; `left` bounds the attempts after
that one. -/
def runFrom (p : RetryPolicy) (transient : ε → Bool) (call : Nat → Except ε α) :
    Nat → UInt32 → RetryRun ε α
  | 0, attempt => ⟨[], call (attempt.toNat - 1)⟩
  | left + 1, attempt =>
    match call (attempt.toNat - 1) with
    | .ok v => ⟨[], .ok v⟩
    | .error e =>
      match p.afterFailure attempt (transient e) with
      | .again wait => (runFrom p transient call left (attempt + 1)).after e wait
      | _ => ⟨[], .error e⟩

def run (p : RetryPolicy) (transient : ε → Bool) (call : Nat → Except ε α) : RetryRun ε α :=
  runFrom p transient call (p.limit.toNat - 1) 1

end RetryPolicy

end ExplorerProxy
