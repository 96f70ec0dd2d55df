import RepoWatch.Fetch.Plan
/-!
# Carrying out plans

The environment of a fetch: a server with an answer for each call, a clock, and the records of
what happened. The clock counts milliseconds and moves only by waiting, so a run is determined by
what the server answers.
-/

namespace RepoWatch

structure Answer (ι : Type) where
  /-- The answer, given when it is taken. -/
  content : Instant → ι
  delay : Nat

structure Environment (ι : Type) where
  /-- The answer to the call with a number, counted from zero. -/
  server : Nat → Answer ι
  /-- The moment at which the clock shows zero. -/
  origin : Instant
  clock : Nat
  /-- The calls so far with their times, the latest first. -/
  calls : List (Query × Nat)
  /-- The notes not taken yet, the latest first. -/
  notes : List Note

/-- The answers of a list, one after the other, and the same answer ever after. -/
def Answer.sequence {ι : Type} (answers : List (Answer ι)) (after : Answer ι) (n : Nat) :
    Answer ι := answers.getD n after

namespace Environment

variable {ι α : Type}

def present (e : Environment ι) : Instant := e.origin.addMilliseconds e.clock

def atTime (e : Environment ι) (clock : Nat) : Environment ι := { e with clock }

def recordCall (e : Environment ι) (query : Query) : Environment ι :=
  { e with calls := (query, e.clock) :: e.calls }

def recordNote (e : Environment ι) (note : Note) : Environment ι :=
  { e with notes := note :: e.notes }

def nextAnswer (e : Environment ι) : Answer ι := e.server e.calls.length

/-- The longest time for which a timer can be set, in seconds. -/
def timerLimit : Nat := 0x7FFFFFFFFFFFFFFF

/-- How long a timer runs that is set for a longer time: thirty years, in milliseconds. -/
def farFuture : Nat := 30 * 365 * 86400 * 1000

def timerMilliseconds (span : Span) : Nat :=
  if timerLimit < span.seconds then farFuture else span.millisecondsUp

end Environment

inductive Outcome (α : Type) where
  | finished (result : α)
  | crashed (reason : String)

/-- How far a plan gets without waiting. -/
inductive Pause (ι α : Type) where
  | finished (result : α)
  | crashed (reason : String)
  /-- The rest of the plan has to wait until the clock shows a time. -/
  | until (time : Nat) (rest : Plan ι α)

namespace Plan

variable {ι α : Type}

/-- Carries a plan out to its end; the clock jumps over the waits. -/
def run : Plan ι α → Environment ι → Outcome α × Environment ι
  | .done a, e => (.finished a, e)
  | .call query next, e =>
    let answer := e.nextAnswer
    let e := (e.recordCall query).atTime (e.clock + answer.delay)
    (next (answer.content e.present)).run e
  | .wait span next, e => (next ()).run (e.atTime (e.clock + Environment.timerMilliseconds span))
  | .now next, e => (next e.present).run e
  | .note n next, e => next.run (e.recordNote n)
  | .crash reason, e => (.crashed reason, e)

/-- Carries a plan out until it has to wait. -/
def advance : Plan ι α → Environment ι → Pause ι α × Environment ι
  | .done a, e => (.finished a, e)
  | .call query next, e =>
    let answer := e.nextAnswer
    let e := e.recordCall query
    if answer.delay = 0 then (next (answer.content e.present)).advance e
    else (.until (e.clock + answer.delay) (.now fun t => next (answer.content t)), e)
  | .wait span next, e =>
    let delay := Environment.timerMilliseconds span
    if delay = 0 then (next ()).advance e
    else (.until (e.clock + delay) (.wait .zero next), e)
  | .now next, e => (next e.present).advance e
  | .note n next, e => next.advance (e.recordNote n)
  | .crash reason, e => (.crashed reason, e)

end Plan
end RepoWatch
