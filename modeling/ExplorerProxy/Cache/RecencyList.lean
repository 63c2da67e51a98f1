import ExplorerProxy.Cache.Stats

/-!
# The cache as a list

What a bounded cache means, without indexes or stamps: the pairs of keys and
values that are held, the most recently used first. A use moves a pair to the
front, and a new key in a full list costs the last pair.
-/

namespace ExplorerProxy

set_option autoImplicit false

/-- The pairs held, the most recently used first, and the counts so far. -/
structure RecencyList (κ ν : Type) where
  capacity : Nat
  items : List (κ × ν)
  hits : Nat
  misses : Nat
  evictions : Nat
  deriving DecidableEq, Repr

namespace RecencyList

variable {κ ν : Type} [BEq κ]

def empty (capacity : Nat) : RecencyList κ ν := ⟨capacity, [], 0, 0, 0⟩

def value? (l : RecencyList κ ν) (k : κ) : Option ν := l.items.lookup k

def others (l : RecencyList κ ν) (k : κ) : List (κ × ν) := l.items.filter (·.1 != k)

def contains (l : RecencyList κ ν) (k : κ) : Bool := (l.value? k).isSome

def size (l : RecencyList κ ν) : Nat := l.items.length

def isEmpty (l : RecencyList κ ν) : Bool := l.items.isEmpty

def get (l : RecencyList κ ν) (k : κ) : Option ν × RecencyList κ ν :=
  match l.value? k with
  | some v => (some v, { l with items := (k, v) :: l.others k, hits := l.hits + 1 })
  | none => (none, { l with misses := l.misses + 1 })

/-- Stores a value at the front. A new key in a full list costs the last pair. -/
def insert (l : RecencyList κ ν) (k : κ) (v : ν) : RecencyList κ ν :=
  if l.capacity = 0 then l
  else if l.contains k then { l with items := (k, v) :: l.others k }
  else if l.items.length < l.capacity then { l with items := (k, v) :: l.items }
  else { l with items := (k, v) :: l.items.dropLast, evictions := l.evictions + 1 }

def clear (l : RecencyList κ ν) : RecencyList κ ν := { l with items := [] }

def stats (l : RecencyList κ ν) : CacheStats :=
  ⟨.ofNat l.hits, .ofNat l.misses, .ofNat l.evictions, .ofNat l.items.length, .ofNat l.capacity⟩

section Cases

variable {l : RecencyList κ ν} {k : κ}

theorem get_of_some {v : ν} (hv : l.value? k = some v) :
    l.get k = (some v, { l with items := (k, v) :: l.others k, hits := l.hits + 1 }) := by
  rw [get, hv]

theorem get_of_none (hv : l.value? k = none) :
    l.get k = (none, { l with misses := l.misses + 1 }) := by
  rw [get, hv]

theorem insert_of_capacity_zero (hcap : l.capacity = 0) (k : κ) (v : ν) : l.insert k v = l :=
  if_pos hcap

theorem insert_of_some (hcap : l.capacity ≠ 0) {u : ν} (hu : l.value? k = some u) (v : ν) :
    l.insert k v = { l with items := (k, v) :: l.others k } := by
  rw [insert, if_neg hcap, contains, hu]
  rfl

theorem insert_of_room (hu : l.value? k = none) (hroom : l.items.length < l.capacity) (v : ν) :
    l.insert k v = { l with items := (k, v) :: l.items } := by
  have hcap : l.capacity ≠ 0 := Nat.ne_zero_of_lt hroom
  rw [insert, if_neg hcap, contains, hu, if_pos hroom]
  rfl

theorem insert_of_full (hcap : l.capacity ≠ 0) (hu : l.value? k = none)
    (hfull : l.capacity ≤ l.items.length) (v : ν) :
    l.insert k v =
      { l with items := (k, v) :: l.items.dropLast, evictions := l.evictions + 1 } := by
  rw [insert, if_neg hcap, contains, hu, if_neg (Nat.not_lt.mpr hfull)]
  rfl

end Cases

end RecencyList

end ExplorerProxy
