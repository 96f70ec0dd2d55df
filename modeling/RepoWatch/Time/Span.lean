/-!
# Spans of time

How long something takes, in whole nanoseconds. The longest span that can be waited for has
`2 ^ 64 - 1` full seconds.
-/

namespace RepoWatch

structure Span where
  nanoseconds : Nat
deriving DecidableEq, Repr

namespace Span

def zero : Span := ⟨0⟩

def perSecond : Nat := 1000000000

def perMillisecond : Nat := 1000000

def ofSeconds (n : Nat) : Span := ⟨n * perSecond⟩

def ofMilliseconds (n : Nat) : Span := ⟨n * perMillisecond⟩

def seconds (s : Span) : Nat := s.nanoseconds / perSecond

/-- The nanoseconds beyond the full seconds. -/
def subsecond (s : Span) : Nat := s.nanoseconds % perSecond

/-- The milliseconds, a part of one counting as a whole one. -/
def millisecondsUp (s : Span) : Nat := (s.nanoseconds + (perMillisecond - 1)) / perMillisecond

def longest : Span := ⟨0x10000000000000000 * perSecond - 1⟩

/-- A multiple of a span; nothing when it is longer than the longest. -/
def scale? (s : Span) (factor : Nat) : Option Span :=
  if s.nanoseconds * factor ≤ longest.nanoseconds then some ⟨s.nanoseconds * factor⟩ else none

end Span
end RepoWatch
