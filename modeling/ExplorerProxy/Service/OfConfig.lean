import ExplorerProxy.Config
import ExplorerProxy.Service.Basic

/-!
# The service of a configuration
-/

namespace ExplorerProxy.Service

set_option autoImplicit false

def ofConfig (c : Config) : Service :=
  .fresh c.retry c.holdersCapacity.toNat c.abiCapacity.toNat

end ExplorerProxy.Service
