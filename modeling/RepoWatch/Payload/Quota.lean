import RepoWatch.Failure
import RepoWatch.Payload.Decoder
import RepoWatch.Time.Timestamp
/-!
# The quota of an account

How many calls an account may make in a period, and when the period ends. The words for the
reset are kept as received; what they say is read only when a fetch has to wait for it.
-/

namespace RepoWatch.Payload

structure Quota where
  limit : Int32
  cost : Int32
  remaining : Int32
  /-- When the period ends, as received. -/
  resetAt : String
deriving DecidableEq, Repr

namespace Quota

def decode : Decoder Quota :=
  record "FetcherRateLimit" <|
    Quota.mk <$> required "limit" signedWord <*> required "cost" signedWord
      <*> required "remaining" signedWord <*> required "resetAt" string

def isExhausted (q : Quota) : Bool := q.remaining ≤ 0

/-- The number of calls made, if it fits a word. -/
def used? (q : Quota) : Option Int :=
  let used := q.limit.toInt - q.remaining.toInt
  if -0x80000000 ≤ used ∧ used < 0x80000000 then some used else none

/-- The text of a quota up to the reset; nothing when the number of calls does not fit a word. -/
def usageText? (q : Quota) : Option String :=
  q.used?.map fun used =>
    "RateLimit: calls=" ++ toString used ++ "/" ++ toString q.limit.toInt
      ++ " (+" ++ toString q.cost.toInt ++ ")"

/-- The text of a quota; nothing when the number of calls does not fit a word. -/
def text? (q : Quota) : Option String :=
  q.usageText?.map fun usage => usage ++ ", reset=" ++ q.resetAt

/-- How long it takes from `now` until the reset; no time when the reset has passed. -/
def untilReset (q : Quota) (now : Instant) : Except ErrorChain Span :=
  match Timestamp.read q.resetAt with
  | .ok reset => .ok (reset.spanFrom now)
  | .error why =>
    .error ((ErrorChain.ofText why.message).wrap
      (.plain ("Invalid rate limit reset date: " ++ q.resetAt)))

end Quota
end RepoWatch.Payload
