/-!
# Networks

The closed set of networks, each with the tag that requests use, the chain it
stands for, and the explorer site that is asked by default.
-/

namespace ExplorerProxy

set_option autoImplicit false

inductive Network where
  | eth
  | bsc
  | polygon
  | mumbai
  deriving DecidableEq, Hashable, Repr, Inhabited

namespace Network

def all : List Network := [.eth, .bsc, .polygon, .mumbai]

def tag : Network → String
  | .eth => "eth"
  | .bsc => "bsc"
  | .polygon => "polygon"
  | .mumbai => "mumbai"

def label : Network → String
  | .eth => "Eth"
  | .bsc => "Bsc"
  | .polygon => "Polygon"
  | .mumbai => "Mumbai"

def capitals : Network → String
  | .eth => "ETH"
  | .bsc => "BSC"
  | .polygon => "POLYGON"
  | .mumbai => "MUMBAI"

def chainId : Network → Nat
  | .eth => 1
  | .bsc => 56
  | .polygon => 137
  | .mumbai => 80001

/-- The name of the chain; one without a name shows its identifier. -/
def chainName : Network → String
  | .eth => "mainnet"
  | .bsc => "bsc"
  | .polygon => "polygon"
  | .mumbai => "80001"

def defaultBase : Network → String
  | .eth => "https://etherscan.io"
  | .bsc => "https://bscscan.com"
  | .polygon => "https://polygonscan.com"
  | .mumbai => "https://mumbai.polygonscan.com"

/-- The network with a given tag. Tags are exact: nothing is trimmed or folded. -/
def ofTag? : String → Option Network
  | "eth" => some .eth
  | "bsc" => some .bsc
  | "polygon" => some .polygon
  | "mumbai" => some .mumbai
  | _ => none

@[simp] theorem ofTag?_tag (n : Network) : ofTag? n.tag = some n := by
  cases n <;> rfl

theorem eq_tag {s : String} {n : Network} (h : ofTag? s = some n) : s = n.tag := by
  unfold ofTag? at h
  split at h <;> cases h <;> rfl

theorem mem_all (n : Network) : n ∈ all := by
  cases n <;> decide

end Network

end ExplorerProxy
