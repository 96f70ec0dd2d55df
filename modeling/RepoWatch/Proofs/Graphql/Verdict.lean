import RepoWatch.Graphql.Exchange
import RepoWatch.Proofs.Fetch.Course
import RepoWatch.Proofs.Payload.Grammar
import RepoWatch.Proofs.Text.Search
/-!
# Verdicts on answers

A client gives data or an error, and a fetch makes a reply or a fault of it. Data counts as a whole
or not at all: it is the reply, unchanged, unless it tells a quota that cannot be understood.
-/

namespace RepoWatch.Graphql

open Payload

/-- Data tells no quota. -/
inductive Quotaless : Json → Prop where
  | noObject {data : Json} (h : ∀ fields, data ≠ .object fields) : Quotaless data
  | absent {fields : List (String × Json)} (h : Json.lookup "rateLimit" fields = none) :
      Quotaless (.object fields)
  | null {fields : List (String × Json)} (h : Json.lookup "rateLimit" fields = some .null) :
      Quotaless (.object fields)

/-- What is to be made of the outcome of a client. -/
inductive Verdict : Except ClientError Json → Except QueryFault Reply → Prop where
  | quotaless {data : Json} (h : Quotaless data) : Verdict (.ok data) (.ok ⟨data, none⟩)
  | quota {fields : List (String × Json)} {v : Json} {quota : Quota}
      (hfound : Json.lookup "rateLimit" fields = some v) (h : Quota.Spelled v quota) :
      Verdict (.ok (.object fields)) (.ok ⟨.object fields, some quota⟩)
  | malformed {fields : List (String × Json)} {v : Json} {fault : DecodeFault}
      (hfound : Json.lookup "rateLimit" fields = some v) (hnull : v ≠ .null)
      (h : ∀ quota, ¬ Quota.Spelled v quota) (hfault : Quota.decode v = .error fault) :
      Verdict (.ok (.object fields)) (.error (.parse ("Invalid rate limit: " ++ fault.message)))
  | unparsed {e : ClientError} (h : Text.Occurs "Failed to parse response" e.message) :
      Verdict (.error e) (.error (.parse e.message))
  | failed {e : ClientError} (h : ¬ Text.Occurs "Failed to parse response" e.message) :
      Verdict (.error e) (.error (.remote e.message))

section Verdict

variable {outcome : Except ClientError Json} {reading : Except QueryFault Reply}

theorem faultOfMessage_of_occurs {message : String}
    (h : Text.Occurs "Failed to parse response" message) :
    faultOfMessage message = .parse message := if_pos (Text.contains_iff.2 h)

theorem faultOfMessage_of_not_occurs {message : String}
    (h : ¬ Text.Occurs "Failed to parse response" message) :
    faultOfMessage message = .remote message := if_neg (mt Text.contains_iff.1 h)

theorem replyOf_of_quotaless {data : Json} (h : Quotaless data) :
    replyOf (.ok data) = .ok ⟨data, none⟩ := by
  have hquota : quotaOf data = .ok none := by
    unfold quotaOf
    cases h with
    | absent hfound => rw [show Json.get? quotaKey (.object _) = none from hfound]
    | null hfound => rw [show Json.get? quotaKey (.object _) = some .null from hfound]
    | noObject h =>
        cases data with
        | object fields => exact absurd rfl (h fields)
        | null | bool | integer | double | string | array => rfl
  rw [replyOf, hquota]
  rfl

theorem quotaOf_of_found {fields : List (String × Json)} {v : Json}
    (hfound : Json.lookup "rateLimit" fields = some v) (hnull : v ≠ .null) :
    quotaOf (.object fields) = match Quota.decode v with
      | .ok quota => .ok (some quota)
      | .error e => .error (.parse ("Invalid rate limit: " ++ e.message)) := by
  unfold quotaOf
  rw [show Json.get? quotaKey (.object fields) = some v from hfound]
  cases v with
  | null => exact absurd rfl hnull
  | bool | integer | double | string | array | object => rfl

theorem verdict_replyOf (outcome : Except ClientError Json) : Verdict outcome (replyOf outcome) := by
  cases outcome with
  | error e =>
      by_cases h : Text.Occurs "Failed to parse response" e.message
      · rw [replyOf, ClientError.toFault, faultOfMessage_of_occurs h]
        exact .unparsed h
      · rw [replyOf, ClientError.toFault, faultOfMessage_of_not_occurs h]
        exact .failed h
  | ok data =>
      by_cases hquotaless : Quotaless data
      · rw [replyOf_of_quotaless hquotaless]
        exact .quotaless hquotaless
      · -- the data is an object that tells a quota
        obtain ⟨fields, rfl⟩ : ∃ fields, data = .object fields := by
          by_contra hnone
          exact hquotaless (.noObject (not_exists.1 hnone))
        cases hfound : Json.lookup "rateLimit" fields with
        | none => exact absurd (.absent hfound) hquotaless
        | some v =>
            have hnull : v ≠ .null := by
              rintro rfl
              exact hquotaless (.null hfound)
            have hquota := quotaOf_of_found hfound hnull
            cases hdecode : Quota.decode v with
            | ok quota =>
                rw [hdecode] at hquota
                rw [replyOf, hquota]
                exact .quota hfound (Quota.accepts_decode ▸ hdecode)
            | error fault =>
                have hnone : ∀ quota, ¬ Quota.Spelled v quota := by
                  intro quota hspelled
                  rw [← Quota.accepts_decode, Decoder.accepts, hdecode] at hspelled
                  cases hspelled
                rw [hdecode] at hquota
                rw [replyOf, hquota]
                exact .malformed hfound hnull hnone hdecode

/-- There is one verdict on each outcome, and it is what a fetch makes of the outcome. -/
theorem verdict_iff : Verdict outcome reading ↔ replyOf outcome = reading := by
  constructor
  · intro h
    cases h with
    | unparsed h => exact congrArg _ (faultOfMessage_of_occurs h)
    | failed h => exact congrArg _ (faultOfMessage_of_not_occurs h)
    | quotaless h => exact replyOf_of_quotaless h
    | @quota fields v quota hfound h =>
        have hdecode : Quota.decode v = .ok quota := by
          rw [← Quota.accepts_decode] at h
          exact h
        have hnull : v ≠ .null := by
          rintro rfl
          cases hdecode
        rw [replyOf, quotaOf_of_found hfound hnull, hdecode]
        rfl
    | malformed hfound hnull _ hfault =>
        rw [replyOf, quotaOf_of_found hfound hnull, hfault]
        rfl
  · rintro rfl
    exact verdict_replyOf outcome

end Verdict
end RepoWatch.Graphql
