/-!
# Bounded multicast logs

A log keeps the newest values sent to it, and every reader has a position of its own. A reader
that falls further behind than the log reaches back is told how many values it has lost, and goes
on with the oldest value that is still held.
-/

namespace RepoWatch

structure Multicast (α : Type) where
  /-- How many values are held at most. -/
  capacity : Nat
  sent : Nat
  /-- The newest values, the oldest of them first. -/
  held : List α
  held_length : held.length = min sent capacity

inductive Delivery (α : Type) where
  | value (value : α)
  | lagged (lost : Nat)
  | nothing
deriving DecidableEq, Repr

/-- What a reader finds, now that values may have stopped to come. -/
inductive Arrival (α : Type) where
  | value (value : α)
  | lagged (lost : Nat)
  /-- Nothing new, so far. -/
  | empty
  /-- Nothing new, ever. -/
  | closed
deriving DecidableEq, Repr

/-- What a reader finds for what it gets, from a log that is closed or not. -/
def Delivery.arrival {α : Type} (isClosed : Bool) : Delivery α → Arrival α
  | .value a => .value a
  | .lagged lost => .lagged lost
  | .nothing => if isClosed then .closed else .empty

namespace Multicast

variable {α : Type}

/-- A log of the given capacity to which nothing was sent. -/
def empty (capacity : Nat) : Multicast α := ⟨capacity, 0, [], by simp⟩

/-- Sends a value; the oldest one gives way when the log is full. -/
def send (m : Multicast α) (value : α) : Multicast α where
  capacity := m.capacity
  sent := m.sent + 1
  held := (m.held ++ [value]).drop (m.held.length + 1 - m.capacity)
  held_length := by
    have := m.held_length
    simp only [List.length_drop, List.length_append, List.length_cons, List.length_nil]
    omega

/-- The position of the oldest value that is held. -/
def oldest (m : Multicast α) : Nat := m.sent - m.held.length

/-- What the reader at a position gets, and its position afterwards. -/
def receive (m : Multicast α) (position : Nat) : Delivery α × Nat :=
  if position < m.oldest then (.lagged (m.oldest - position), m.oldest)
  else
    match m.held[position - m.oldest]? with
    | some value => (.value value, position + 1)
    | none => (.nothing, position)

/-- Everything the reader at a position gets until nothing is left. -/
def drain (m : Multicast α) (position : Nat) : List (Delivery α) :=
  if position < m.oldest then .lagged (m.oldest - position) :: m.held.map .value
  else (m.held.drop (position - m.oldest)).map .value

end Multicast
end RepoWatch
