import ExplorerProxy.Duration

/-!
# Retry policies

A policy bounds the attempts at a call and sets the waits between them: the base
delay doubles with every retry, up to the longest delay. Waits are in whole
milliseconds.
-/

namespace ExplorerProxy

set_option autoImplicit false

structure RetryPolicy where
  maxAttempts : UInt32
  baseDelay : Duration
  maxDelay : Duration
  deriving DecidableEq, Repr

namespace RetryPolicy

/-- Three attempts, half a second before the second, no wait above thirty seconds. -/
def standard : RetryPolicy := ⟨3, .ofMillis 500, .ofSecs 30⟩

def never : RetryPolicy := { standard with maxAttempts := 1 }

/-- The attempts that are made at most; there is always a first one. -/
def limit (p : RetryPolicy) : UInt32 := max p.maxAttempts 1

/-- `2 ^ retry`, at most the largest number of 64 bits. -/
def factor (retry : UInt32) : Nat := if retry < 64 then Nat.pow 2 retry.toNat else UInt64.size - 1

/-- The wait before retry number `retry`, counted from zero. The product is at most
the largest number of 128 bits, and the result is cut to its low 64 bits. -/
def backoff (p : RetryPolicy) (retry : UInt32) : Duration :=
  let grown := min (p.baseDelay.wholeMillis * factor retry) (Nat.pow 2 128 - 1)
  .ofMillis (.ofNat (min grown p.maxDelay.wholeMillis))

inductive Verdict where
  | permanent
  | exhausted
  | again (wait : Duration)
  deriving DecidableEq, Repr

/-- What follows the failure of attempt number `attempt`, counted from one. -/
def afterFailure (p : RetryPolicy) (attempt : UInt32) (transient : Bool) : Verdict :=
  if !transient then .permanent
  else if p.limit ≤ attempt then .exhausted
  else .again (p.backoff (attempt - 1))

def detail (p : RetryPolicy) : String :=
  s!"RetryPolicy \x7b max_attempts: {p.maxAttempts}, base_delay: {p.baseDelay.text}, " ++
    s!"max_delay: {p.maxDelay.text} \x7d"

end RetryPolicy

end ExplorerProxy
