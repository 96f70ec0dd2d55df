import RepoWatch.Channel.Multicast
import RepoWatch.Json.Basic
import RepoWatch.Query.Basic
/-!
# The cache

The latest data of each query, with a log of the queries whose entry was changed by storing. To
store is to insert and then to announce; nothing is announced when an equal value is stored,
removed or cleared. Changes come as long as somebody holds the cache.
-/

namespace RepoWatch

structure Cache where
  /-- The entries, one for a query. -/
  entries : List (Query × Json)
  changes : Multicast Query
  /-- How many hold the cache. -/
  holders : Nat

namespace Cache

/-- How many changes a follower may lag behind before it loses some. -/
def changeCapacity : Nat := 256

/-- A cache without entries, held by the one who made it. -/
def empty : Cache := ⟨[], .empty changeCapacity, 1⟩

def get? (c : Cache) (q : Query) : Option Json := c.entries.lookup q

def size (c : Cache) : Nat := c.entries.length

def isEmpty (c : Cache) : Bool := c.entries.isEmpty

def erase (c : Cache) (q : Query) : Cache :=
  { c with entries := c.entries.filter fun e => e.1 != q }

def clear (c : Cache) : Cache := { c with entries := [] }

/-- Whether the entry of a query is equal to a value. -/
def holds (c : Cache) (q : Query) (data : Json) : Bool :=
  match c.get? q with
  | some cached => cached == data
  | none => false

/-- Makes a value the entry of a query, unless the entry is equal to it. -/
def insert (c : Cache) (q : Query) (data : Json) : Cache :=
  if c.holds q data then c else { c with entries := (q, data) :: (c.erase q).entries }

/-- Tells the followers that the entry of a query was changed. -/
def announce (c : Cache) (q : Query) : Cache := { c with changes := c.changes.send q }

/-- Stores a value: inserts it and announces the change, if it is one. -/
def put (c : Cache) (q : Query) (data : Json) : Cache :=
  if c.holds q data then c else (c.insert q data).announce q

/-- The position from which a follower sees all changes from now on. -/
def follow (c : Cache) : Nat := c.changes.sent

def retain (c : Cache) : Cache := { c with holders := c.holders + 1 }

def release (c : Cache) : Cache := { c with holders := c.holders - 1 }

/-- Whether nobody holds the cache any more. -/
def isClosed (c : Cache) : Bool := c.holders == 0

/-- What the follower at a position finds next, and its position afterwards. -/
def nextChange (c : Cache) (position : Nat) : Arrival Query × Nat :=
  let next := c.changes.receive position
  (next.1.arrival c.isClosed, next.2)

end Cache
end RepoWatch
