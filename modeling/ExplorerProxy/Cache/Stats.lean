import ExplorerProxy.Number.Decimal

/-!
# Cache statistics

A snapshot of the counters of a cache, the share of lookups that were answered
from it, and its text.
-/

namespace ExplorerProxy

set_option autoImplicit false

structure CacheStats where
  hits : UInt64
  misses : UInt64
  evictions : UInt64
  entries : UInt64
  capacity : UInt64
  deriving DecidableEq, Repr

namespace CacheStats

/-- The percentage of lookups that were hits; zero when there were none. The
count of lookups wraps at 64 bits. -/
def hitRate (s : CacheStats) : Float :=
  let lookups := s.hits + s.misses
  if lookups = 0 then 0.0 else s.hits.toFloat / lookups.toFloat * 100.0

def text (s : CacheStats) : String :=
  s!"hits={s.hits}, misses={s.misses}, evictions={s.evictions}, " ++
    s!"entries={s.entries}/{s.capacity}, hit_rate={Number.oneDecimal s.hitRate}%"

end CacheStats

end ExplorerProxy
