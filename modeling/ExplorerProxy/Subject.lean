import ExplorerProxy.Network
import ExplorerProxy.Text.Quoted

/-!
# Subjects

What a request asks about: an address on a network. The address is kept exactly
as it was given, since it goes into page addresses and link matching literally.
-/

namespace ExplorerProxy

set_option autoImplicit false

/-- An address on a network; results are cached under it. -/
structure Subject where
  network : Network
  address : String
  deriving DecidableEq, Hashable, Repr

namespace Subject

def text (s : Subject) : String := s!"{s.network.tag}:{s.address}"

def detail (s : Subject) : String :=
  s!"CacheKey \x7b network: {s.network.label}, address: {Text.quote s.address} \x7d"

end Subject

end ExplorerProxy
