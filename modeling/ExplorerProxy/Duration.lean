/-!
# Durations

A span of time in whole nanoseconds, at most `2 ^ 64` seconds, and its parts:
whole milliseconds for delays, and the text with the largest fitting unit. How long a
sleep of a duration lasts on a clock is taken as given.
-/

namespace ExplorerProxy

set_option autoImplicit false

structure Duration where
  nanos : Nat
  nanos_lt : nanos < UInt64.size * 1000000000
  deriving DecidableEq, Repr

namespace Duration

def longest : Duration := ⟨UInt64.size * 1000000000 - 1, by decide⟩

def ofNanos (n : Nat) : Duration :=
  if h : n < UInt64.size * 1000000000 then ⟨n, h⟩ else longest

theorem ofMillis_lt (ms : UInt64) : ms.toNat * 1000000 < UInt64.size * 1000000000 := by
  have := ms.toNat_lt_size
  omega

def ofMillis (ms : UInt64) : Duration := ⟨ms.toNat * 1000000, ofMillis_lt ms⟩

theorem ofSecs_lt (secs : UInt64) : secs.toNat * 1000000000 < UInt64.size * 1000000000 := by
  have := secs.toNat_lt_size
  omega

def ofSecs (secs : UInt64) : Duration := ⟨secs.toNat * 1000000000, ofSecs_lt secs⟩

def wholeMillis (d : Duration) : Nat := d.nanos / 1000000

/-- A decimal fraction: a point and the digits of `rest / unit`, where `unit` is
a power of ten with `places` zeros, without trailing zeros; nothing for zero. -/
def fraction (places rest : Nat) : List Char :=
  if rest = 0 then []
  else
    let digits := Nat.toDigits 10 rest
    let padded := List.replicate (places - digits.length) '0' ++ digits
    '.' :: (padded.reverse.dropWhile (· == '0')).reverse

def inUnit (nanos places : Nat) (unit : String) : String :=
  toString (nanos / Nat.pow 10 places) ++
    String.ofList (fraction places (nanos % Nat.pow 10 places)) ++ unit

def text (d : Duration) : String :=
  if 1000000000 ≤ d.nanos then inUnit d.nanos 9 "s"
  else if 1000000 ≤ d.nanos then inUnit d.nanos 6 "ms"
  else if 1000 ≤ d.nanos then inUnit d.nanos 3 "µs"
  else inUnit d.nanos 0 "ns"

end Duration

/-- How long sleeps last, in milliseconds on the clock of a runtime. A sleep of no time is
over at once. -/
class Timer where
  lasts : Duration → Nat
  lasts_zero : lasts (.ofMillis 0) = 0

/-- Sleeps are over at the first tick that is not early, with one tick in a millisecond. -/
abbrev Timer.millis : Timer := ⟨fun d => (d.nanos + 999999) / 1000000, by decide⟩

end ExplorerProxy
