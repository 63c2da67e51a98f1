import ExplorerProxy.Cache.Stats

/-!
# Service statistics

The service keeps one cache for token holders and one for contract interfaces;
its statistics are the counters of both.
-/

namespace ExplorerProxy

set_option autoImplicit false

structure ServiceStats where
  holders : CacheStats
  abi : CacheStats
  deriving DecidableEq, Repr

end ExplorerProxy
