import ExplorerProxy.Cache.Basic
import ExplorerProxy.Log.Event
import ExplorerProxy.Subject

/-!
# What a cache reports

The events of each cache operation, as functions of the cache before it. The
operations themselves do not depend on them.
-/

namespace ExplorerProxy.Cache

set_option autoImplicit false

variable {ν : Type}

def about (message : String) (k : Subject) : Log.Event :=
  ⟨.debug, .cache, message, [⟨"key", .shown k.text⟩], []⟩

def getEvents (c : Cache Subject ν) (k : Subject) : List Log.Event :=
  [about (if c.contains k then "Cache hit" else "Cache miss") k]

def insertEvents (c : Cache Subject ν) (k : Subject) : List Log.Event :=
  if c.capacity = 0 ∨ c.contains k then []
  else (c.pushedOut k).map (about "Evicting LRU cache entry") ++ [about "Inserting cache entry" k]

def clearEvents (c : Cache Subject ν) : List Log.Event :=
  [⟨.debug, .cache, "Clearing cache", [⟨"entries", .number c.size⟩], []⟩]

end ExplorerProxy.Cache
