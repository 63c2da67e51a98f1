/-!
# Tables of ranges

A property of characters as a table of ranges of code points, both ends included.
-/

namespace ExplorerProxy.Text

set_option autoImplicit false

def inRanges (ranges : Array (Nat × Nat)) (c : Char) : Bool :=
  ranges.any fun r => r.1 ≤ c.toNat && c.toNat ≤ r.2

def findRange? {α : Type} (ranges : Array (Nat × Nat × α)) (c : Char) : Option α :=
  (ranges.find? fun r => r.1 ≤ c.toNat && c.toNat ≤ r.2.1).map fun r => r.2.2

end ExplorerProxy.Text
