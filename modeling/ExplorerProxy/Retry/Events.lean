import ExplorerProxy.Retry.Run

/-!
# What a run of attempts reports
-/

namespace ExplorerProxy.RetryPolicy

set_option autoImplicit false

/-- A success is reported when it is not that of the first attempt. -/
def successEvents (attempt : UInt32) : List Log.Event :=
  if 1 < attempt then
    [⟨.debug, .retry, "Request succeeded after retry", [⟨"attempt", .number attempt.toNat⟩], []⟩]
  else []

def failureEvents (p : RetryPolicy) (attempt : UInt32) (message : String) :
    Verdict → List Log.Event
  | .permanent =>
    [⟨.debug, .retry, "Non-retryable error, not retrying", [⟨"error", .shown message⟩], []⟩]
  | .exhausted =>
    [⟨.warn, .retry, "Max attempts exceeded",
      [⟨"error", .shown message⟩, ⟨"attempts", .number attempt.toNat⟩], []⟩]
  | .again wait =>
    [⟨.warn, .retry, "Retryable error, backing off",
      [⟨"error", .shown message⟩, ⟨"attempt", .number attempt.toNat⟩,
        ⟨"max_attempts", .number p.limit.toNat⟩, ⟨"delay_ms", .number wait.wholeMillis⟩], []⟩]

variable {ε α : Type}

def outcomeEvents (p : RetryPolicy) (transient : ε → Bool) (message : ε → String)
    (attempt : UInt32) : Except ε α → List Log.Event
  | .ok _ => successEvents attempt
  | .error e => p.failureEvents attempt (message e) (p.afterFailure attempt (transient e))

/-- The reports of a run, from call number `i` on. The reports of a call itself, by
its number, come before the report on its outcome. -/
def eventsFrom (p : RetryPolicy) (transient : ε → Bool) (message : ε → String)
    (callEvents : Nat → List Log.Event) (result : Except ε α) :
    Nat → List (ε × Duration) → List Log.Event
  | i, [] => callEvents i ++ p.outcomeEvents transient message (.ofNat (i + 1)) result
  | i, (e, _) :: earlier =>
    callEvents i ++
      (p.outcomeEvents transient message (.ofNat (i + 1)) (.error e : Except ε α) ++
        eventsFrom p transient message callEvents result (i + 1) earlier)

def events (p : RetryPolicy) (transient : ε → Bool) (message : ε → String)
    (callEvents : Nat → List Log.Event) (r : RetryRun ε α) : List Log.Event :=
  p.eventsFrom transient message callEvents r.result 0 r.earlier

end ExplorerProxy.RetryPolicy
