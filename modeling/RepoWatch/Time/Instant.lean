import RepoWatch.Time.Span
/-!
# Instants

A moment of universal time: a day, a second of the day, and nanoseconds. A moment within a leap
second belongs to the second before it, with a billion nanoseconds or more.
-/

namespace RepoWatch

structure Instant where
  /-- The days since the first of January 1970. -/
  day : Int
  second : Nat
  /-- The nanoseconds since that second; a billion or more within a leap second. -/
  nanosecond : Nat
deriving DecidableEq, Repr

namespace Instant

def secondsPerDay : Nat := 86400

/-- The moment that lies the given seconds and nanoseconds after the beginning of 1970. -/
def ofUnix (seconds : Int) (nanosecond : Nat) : Instant :=
  ⟨seconds.fdiv secondsPerDay, (seconds.fmod secondsPerDay).toNat, nanosecond⟩

def unixSeconds (i : Instant) : Int := i.day * secondsPerDay + i.second

def inLeapSecond (i : Instant) : Bool := Span.perSecond ≤ i.nanosecond

/-- The leap second that lies between two times of day and that the seconds between them do not
count: it begins after the earlier time and is the place of one of the two. -/
def leapBetween (later earlier : Instant) : Int :=
  if earlier.second < later.second then if earlier.inLeapSecond then 1 else 0
  else if later.second < earlier.second then if later.inLeapSecond then -1 else 0
  else 0

/-- The nanoseconds from `earlier` to `later`. -/
def nanosecondsSince (later earlier : Instant) : Int :=
  (later.unixSeconds - earlier.unixSeconds + leapBetween later earlier) * Span.perSecond
    + (later.nanosecond - earlier.nanosecond)

/-- How long it takes from `now` until a moment; no time when the moment has passed. -/
def spanFrom (moment now : Instant) : Span := ⟨(moment.nanosecondsSince now).toNat⟩

/-- The moment a number of milliseconds after one that is in no leap second. -/
def addMilliseconds (i : Instant) (n : Nat) : Instant :=
  let nanoseconds := i.nanosecond + n * Span.perMillisecond
  ofUnix (i.unixSeconds + (nanoseconds / Span.perSecond : Nat)) (nanoseconds % Span.perSecond)

/-- The moment a number of seconds after, or before, a given one. -/
def addSeconds (i : Instant) (n : Int) : Instant := ofUnix (i.unixSeconds + n) i.nanosecond

end Instant
end RepoWatch
