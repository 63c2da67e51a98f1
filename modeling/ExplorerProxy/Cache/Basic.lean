import Std.Data.HashMap
import Std.Data.TreeMap
import ExplorerProxy.Cache.Stats

/-!
# The bounded cache

A cache keeps a value per key, up to a fixed number of keys. When it is full, a
new key takes the place of the one that was used least recently; a lookup that
finds its key counts as a use, and so does an insertion.

Uses are ordered by stamps drawn from a counter. Two indexes are kept in step:
from each key to its value and its latest stamp, and from each latest stamp back
to its key, so that the least recently used key is the first of the second index.
-/

namespace ExplorerProxy

set_option autoImplicit false

structure CacheEntry (ν : Type) where
  value : ν
  stamp : Nat
  deriving Repr

/-- A cache of values under keys. -/
structure Cache (κ ν : Type) [BEq κ] [Hashable κ] where
  /-- The most keys that can be held. With none, nothing is ever stored. -/
  capacity : Nat
  entries : Std.HashMap κ (CacheEntry ν)
  /-- The keys by the stamp of their latest use. -/
  recency : Std.TreeMap Nat κ
  hits : Nat
  misses : Nat
  evictions : Nat
  /-- The count of entries that the statistics report. -/
  held : Nat
  /-- The stamp of the next use. -/
  nextStamp : Nat

namespace Cache

variable {κ ν : Type} [BEq κ] [Hashable κ]

def empty (capacity : Nat) : Cache κ ν :=
  ⟨capacity, ∅, ∅, 0, 0, 0, 0, 0⟩

/-- Stamps are numbers of 64 bits; the last one is drawn again and again. -/
def lastStamp : Nat := UInt64.size - 1

def drawStamp (c : Cache κ ν) : Cache κ ν :=
  { c with nextStamp := min (c.nextStamp + 1) lastStamp }

def size (c : Cache κ ν) : Nat := c.entries.size

def isEmpty (c : Cache κ ν) : Bool := c.size == 0

/-- Whether a key is held. Asking is not a use of the key. -/
def contains (c : Cache κ ν) (k : κ) : Bool := c.entries.contains k

/-- The value under a key. Reading it this way is not a use of the key. -/
def value? (c : Cache κ ν) (k : κ) : Option ν := c.entries[k]?.map (·.value)

/-- Gives a held key a new stamp and a value; `e` is its entry so far. -/
def refresh (c : Cache κ ν) (k : κ) (e : CacheEntry ν) (value : ν) (stamp : Nat) : Cache κ ν :=
  { c with
    entries := c.entries.insert k ⟨value, stamp⟩
    recency := (c.recency.erase e.stamp).insert stamp k }

/-- Looks a key up. A key that is found becomes the most recently used one. -/
def get (c : Cache κ ν) (k : κ) : Option ν × Cache κ ν :=
  let stamp := c.nextStamp
  let c := c.drawStamp
  match c.entries[k]? with
  | some e => (some e.value, { c.refresh k e e.value stamp with hits := c.hits + 1 })
  | none => (none, { c with misses := c.misses + 1 })

/-- Drops the least recently used key, and returns it. -/
def evict? (c : Cache κ ν) : Option (κ × Cache κ ν) :=
  c.recency.minEntry?.map fun oldest =>
    (oldest.2, { c with
      entries := c.entries.erase oldest.2
      recency := c.recency.erase oldest.1
      evictions := c.evictions + 1 })

/-- Drops keys until there is room for one more, or no stamp is left; `n` bounds
the keys dropped. Returns the dropped keys as well. -/
def makeRoomUpTo : Nat → Cache κ ν → List κ × Cache κ ν
  | 0, c => ([], c)
  | n + 1, c =>
    if c.size < c.capacity then ([], c)
    else
      match c.evict? with
      | none => ([], c)
      | some (k, c) =>
        let (ks, c) := makeRoomUpTo n c
        (k :: ks, c)

def makeRoom (c : Cache κ ν) : List κ × Cache κ ν := c.makeRoomUpTo c.recency.size

def push (c : Cache κ ν) (k : κ) (value : ν) (stamp : Nat) : Cache κ ν :=
  let entries := c.entries.insert k ⟨value, stamp⟩
  { c with entries, recency := c.recency.insert stamp k, held := entries.size }

/-- Stores a value under a key, which becomes the most recently used one. Any
earlier value of the key is replaced; a new key may push the oldest one out. -/
def insert (c : Cache κ ν) (k : κ) (value : ν) : Cache κ ν :=
  if c.capacity = 0 then c
  else
    let stamp := c.nextStamp
    let c := c.drawStamp
    match c.entries[k]? with
    | some e => c.refresh k e value stamp
    | none => c.makeRoom.2.push k value stamp

def pushedOut (c : Cache κ ν) (k : κ) : List κ :=
  if c.capacity = 0 ∨ c.contains k then [] else c.makeRoom.1

/-- Drops all keys. The counts of lookups and evictions stay. -/
def clear (c : Cache κ ν) : Cache κ ν :=
  { c with entries := ∅, recency := ∅, held := 0 }

def stats (c : Cache κ ν) : CacheStats :=
  ⟨.ofNat c.hits, .ofNat c.misses, .ofNat c.evictions, .ofNat c.held, .ofNat c.capacity⟩

def text (c : Cache κ ν) : String := s!"LruCache \x7b max_entries: {c.capacity}, .. \x7d"

end Cache

end ExplorerProxy
