import RepoWatch.Fetch.Plan
/-!
# Retrying

A failed fetch is tried again after a pause, up to a number of attempts. The pause doubles from
attempt to attempt, thirty-one times at most. The last error says how many attempts there were.
What is counted is counted in words, and a number that does not fit a word is beyond what can be
computed.
-/

namespace RepoWatch

/-- How often a fetch is tried, and how long the pauses are. -/
structure RetryPolicy where
  /-- The number of attempts asked for; there is always one. -/
  attempts : UInt32
  /-- Half the first pause. -/
  baseDelay : Span
deriving DecidableEq, Repr

namespace RetryPolicy

/-- The number of failed attempts with which a fetch is given up. -/
def limit (p : RetryPolicy) : UInt32 := max p.attempts 1

/-- The greatest number of times that the pause doubles. -/
def doublingLimit : UInt32 := 31

def additionOverflow : String := "attempt to add with overflow"

def multiplicationOverflow : String := "attempt to multiply with overflow"

def delayOverflow : String := "overflow when multiplying duration by scalar"

/-- The word for a number, if it fits. -/
def word (n : Nat) (overflow : String) : Except String UInt32 :=
  if n < UInt32.size then .ok (UInt32.ofNat n) else .error overflow

/-- The number of failed attempts after one more. -/
def oneMore (failed : UInt32) : Except String UInt32 := word (failed.toNat + 1) additionOverflow

/-- By how much the base delay is multiplied after a number of failed attempts. -/
def factor (failed : UInt32) : Except String UInt32 :=
  word (Nat.pow 2 (min failed doublingLimit).toNat) multiplicationOverflow

/-- The pause after a number of failed attempts. -/
def delay (p : RetryPolicy) (failed : UInt32) : Except String Span := do
  let some span := p.baseDelay.scale? (← factor failed).toNat | throw delayOverflow
  return span

def exhausted (failed : UInt32) (e : ErrorChain) : ErrorChain :=
  e.wrap (.plain ("Failed after " ++ toString failed.toNat ++ " attempts"))

theorem toNat_oneMore {failed more : UInt32} (h : oneMore failed = .ok more) :
    more.toNat = failed.toNat + 1 := by
  unfold oneMore word at h
  split at h
  · rename_i hfits
    obtain rfl := Except.ok.inj h
    exact UInt32.toNat_ofNat_of_lt' hfits
  · cases h

end RetryPolicy

namespace Plan

variable {ι α : Type}

/-- Tries a fetch after a number of failed attempts. -/
def attempt (policy : RetryPolicy) (operation : Operation)
    (fetch : Plan ι (Except ErrorChain α)) (failed : UInt32) : Plan ι (Except ErrorChain α) :=
  fetch.bind fun
    | .ok a => .done (.ok a)
    | .error e =>
      match _h : RetryPolicy.oneMore failed with
      | .error reason => .crash reason
      | .ok more =>
        .note (.attemptFailed more.toNat operation e.top)
          (if policy.limit ≤ more then .done (.error (RetryPolicy.exhausted more e))
          else
            match policy.delay more with
            | .error reason => .crash reason
            | .ok span => .wait span fun _ => attempt policy operation fetch more)
termination_by UInt32.size - failed.toNat
decreasing_by
  have hmore := RetryPolicy.toNat_oneMore _h
  have hlt := more.toNat_lt
  simp only [UInt32.size]
  omega

/-- Tries a fetch as often as the policy allows, until it succeeds. -/
def retrying (policy : RetryPolicy) (operation : Operation)
    (fetch : Plan ι (Except ErrorChain α)) : Plan ι (Except ErrorChain α) :=
  attempt policy operation fetch 0

end Plan
end RepoWatch
