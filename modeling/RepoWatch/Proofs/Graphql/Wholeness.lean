import RepoWatch.Proofs.Failure
import RepoWatch.Proofs.Graphql.Verdict
import RepoWatch.Proofs.Watch.Reports
/-!
# All or nothing

A fetch by way of a client gives the data of the client as it is, or an error and no data. An error is
a failed attempt, and when no other attempt is allowed a watch tells of the failure and keeps nothing
of the answer.
-/

namespace RepoWatch.Graphql

open Plan (Act FailedAttempt transcript)

variable {ι : Type}

/-- What is noted of the outcome of a client: that an answer could not be parsed. -/
def remarks : Except ClientError Json → List (Act ι)
  | .ok _ => []
  | .error e =>
    match e.toFault with
    | .parse message => [.notes (.unparsable message)]
    | .remote _ | .cacheMiss _ => []

/-- The client is asked for a query, and what it gives is judged. -/
def Judged (ask : Query → Plan ι (Except ClientError Json)) (query : Query) (acts : List (Act ι))
    (reading : Except QueryFault Reply) : Prop :=
  ∃ own outcome, (ask query).Course own (some (.finished outcome)) ∧ Verdict outcome reading ∧
    acts = .notes (.sending query.operation) :: (own ++ remarks outcome)

section Courses

variable {ask : Query → Plan ι (Except ClientError Json)} {query : Query} {acts : List (Act ι)}
  {result : Except ErrorChain Reply} {policy : RetryPolicy}

theorem course_conclude_iff {outcome : Except ClientError Json} :
    (conclude outcome : Plan ι _).Course acts (some (.finished result)) ↔
      acts = remarks outcome ∧ result = (replyOf outcome).mapError ErrorChain.ofFault := by
  unfold conclude
  cases outcome with
  | ok data => simp [remarks, Except.mapError, eq_comm]
  | error e =>
      cases hfault : e.toFault <;>
        simp [remarks, Except.mapError, hfault, eq_comm]

/-- A fetch asks the client, and the verdict on what the client gives is the result. -/
theorem course_fetchThrough_iff :
    (fetchThrough ask query).Course acts (some (.finished result)) ↔
      ∃ reading, Judged ask query acts reading ∧ result = reading.mapError ErrorChain.ofFault := by
  constructor
  · intro h
    rcases Plan.course_note_iff.1 h with ⟨-, hnone⟩ | ⟨later, rfl, hlater⟩
    · cases hnone
    · cases Plan.course_bind hlater with
      | @finished own after outcome _ hask hafter =>
          obtain ⟨rfl, rfl⟩ := course_conclude_iff.1 hafter
          exact ⟨replyOf outcome, ⟨own, outcome, hask, verdict_replyOf outcome, rfl⟩, rfl⟩
  · rintro ⟨reading, ⟨own, outcome, hask, hverdict, rfl⟩, rfl⟩
    obtain rfl := verdict_iff.1 hverdict
    exact .note (hask.bind_finished (course_conclude_iff.2 ⟨rfl, rfl⟩))

/-- A fetch that is retried ends with the verdict on the last attempt; the ones before have failed. -/
theorem judged_of_retrying
    (h : (Plan.retrying policy query.operation (fetchThrough ask query)).Course acts
      (some (.finished result))) :
    ∃ (failed : List (FailedAttempt ι)) (last : List (Act ι)),
      (∀ a ∈ failed, ∃ fault, Judged ask query a.acts (.error fault) ∧ a.error = .ofFault fault) ∧
      ((∃ reply, Judged ask query last (.ok reply) ∧ result = .ok reply ∧
          failed.length < policy.mostAttempts ∧
          acts = transcript policy query.operation 1 failed ++ last) ∨
        ∃ fault, Judged ask query last (.error fault) ∧
          result = .error ((ErrorChain.ofFault fault).wrap
            (.plain ("Failed after " ++ toString policy.mostAttempts ++ " attempts"))) ∧
          failed.length + 1 = policy.mostAttempts ∧
          acts = transcript policy query.operation 1 failed ++
            (last ++ [.notes (.attemptFailed policy.mostAttempts query.operation fault.text)])) := by
  obtain ⟨failed, lastActs, goes⟩ := Plan.retrying_course_iff.1 h
  have hacts := goes.acts_eq
  have hfew := goes.few
  have hlast := goes.isLast
  rw [Nat.zero_add] at hacts hfew hlast
  have hjudged : ∀ {own e}, (fetchThrough ask query).Course own (some (.finished (.error e))) →
      ∃ fault, Judged ask query own (.error fault) ∧ e = .ofFault fault := by
    intro own e hfetch
    obtain ⟨reading, judged, hreading⟩ := course_fetchThrough_iff.1 hfetch
    cases reading with
    | ok reply => cases hreading
    | error fault => exact ⟨fault, judged, Except.error.inj hreading⟩
  have heach : ∀ a ∈ failed, ∃ fault, Judged ask query a.acts (.error fault) ∧
      a.error = .ofFault fault := fun a hmem => hjudged (goes.each a hmem)
  cases hlast with
  | succeeds hfetch =>
      obtain ⟨reading, judged, hreading⟩ := course_fetchThrough_iff.1 hfetch
      cases reading with
      | error fault => cases hreading
      | ok reply =>
          obtain rfl := Except.ok.inj hreading
          exact ⟨failed, lastActs, heach, .inl ⟨_, judged, rfl, hfew, hacts⟩⟩
  | @givesUp own e hfetch hnumber =>
      obtain ⟨fault, judged, rfl⟩ := hjudged hfetch
      rw [hnumber] at hacts
      refine ⟨failed, own, heach, .inr ⟨fault, judged, ?_, hnumber, hacts⟩⟩
      rw [hnumber]

end Courses

/-- There is one verdict on each outcome of a client: data is the reply, unchanged, with the quota that
it tells if it tells one; data whose quota cannot be understood is no reply, and an error of the client
is a fault to parse if it says so, a remote one otherwise. A fetch by way of the client gives the
verdict. When the fetch is retried, a fault is a failed attempt, and the fetch ends with a reply or
with the fault of the last attempt that is allowed. A watch to which that is answered rejects it: it
stores nothing, sends no response for it, and reports one failure of the kind of the fault. -/
theorem answers_count_whole_or_not_at_all (ask : Query → Plan ι (Except ClientError Json))
    (query : Query) :
    (∀ outcome : Except ClientError Json, ∃! reading, Verdict outcome reading) ∧
    (∀ acts result, (fetchThrough ask query).Course acts (some (.finished result)) ↔
      ∃ reading, Judged ask query acts reading ∧ result = reading.mapError ErrorChain.ofFault) ∧
    ∀ policy acts result,
      (Plan.retrying policy query.operation (fetchThrough ask query)).Course acts
        (some (.finished result)) →
      ∃ (failed : List (FailedAttempt ι)) (last : List (Act ι)),
        (∀ a ∈ failed, ∃ fault, Judged ask query a.acts (.error fault) ∧ a.error = .ofFault fault) ∧
        ((∃ reply, Judged ask query last (.ok reply) ∧ result = .ok reply ∧
            failed.length < max policy.attempts.toNat 1 ∧
            acts = transcript policy query.operation 1 failed ++ last) ∨
          ∃ fault e, Judged ask query last (.error fault) ∧ result = .error e ∧
            failed.length + 1 = max policy.attempts.toNat 1 ∧
            acts = transcript policy query.operation 1 failed ++ (last ++
              [.notes (.attemptFailed (max policy.attempts.toNat 1) query.operation fault.text)]) ∧
            e.toFault.kind = fault.kind ∧
            ∀ {cache : Cache} {outlets : Outlets} {past t : Trace} {origin w : World} {number : Nat}
              {watching : Policy}, Run (.start cache outlets) past origin →
              origin.Opened number query watching → Run origin t w →
              .error e ∈ t.answers number → t.Rejects number e origin w) := by
  refine ⟨fun outcome => ?_, fun acts result => course_fetchThrough_iff, fun policy acts result h => ?_⟩
  · exact ⟨replyOf outcome, verdict_replyOf outcome, fun reading h => (verdict_iff.1 h).symm⟩
  · obtain ⟨failed, last, heach, hcases⟩ := judged_of_retrying h
    refine ⟨failed, last, heach, hcases.imp_right ?_⟩
    rintro ⟨fault, judged, rfl, hlength, hacts⟩
    refine ⟨fault, _, judged, rfl, hlength, hacts, ?_, ?_⟩
    · rw [ErrorChain.kind_toFault_wrap_plain, ErrorChain.kind_toFault_ofFault]
    · intro cache outlets past t origin w number watching before born run he
      exact Run.rejects before born run he

/-- The client gives data whose quota cannot be understood, and then says that it is down. -/
def spoiltThenDown : List (Act (Except ClientError Json)) :=
  let query : Query := .commits "own"
  [.notes (.sending query.operation), .asks query,
    .hears (.ok (.object [("rateLimit", .array [])])),
    .notes (.attemptFailed 1 query.operation ("Parsing error: Invalid rate limit: " ++
      "invalid length 0, expected struct FetcherRateLimit with 4 elements")),
    .waits (.ofMilliseconds 20),
    .notes (.sending query.operation), .asks query, .hears (.error ⟨"down", none⟩),
    .notes (.attemptFailed 2 query.operation "Remote error: down")]

theorem answers_count_whole_or_not_at_all_given_up :
    let query : Query := .commits "own"
    let ask : Query → Plan (Except ClientError Json) (Except ClientError Json) := (.call · .done)
    let e : ErrorChain := (ErrorChain.ofFault (.remote "down")).wrap (.plain "Failed after 2 attempts")
    let cache := Cache.empty.insert query (.integer 1)
    let origin : World := .watching cache query .networkOnly
    let deeds : List Deed :=
      [.watch 0, .watch 0, .answer 0 (.error e), .watch 0, .watch 0]
    (Plan.retrying ⟨2, .ofMilliseconds 10⟩ query.operation (fetchThrough ask query)).Course
        spoiltThenDown (some (.finished (.error e))) ∧
      e.toFault = .remote "Failed after 2 attempts: Remote error: down" ∧
      Run (.start cache .unheard) [⟨.silent, origin⟩] origin ∧ origin.Opened 0 query .networkOnly ∧
      (origin.after deeds).hub.isReceived 0 = true ∧
      (origin.after deeds).hub.stepWatch 0 = none ∧
      (origin.trace deeds).Rejects 0 e origin (origin.after deeds) := by
  intro query ask e cache origin deeds
  have hfetch : ∀ outcome, (fetchThrough ask query).Course
      (.notes (.sending query.operation) :: ([.asks query, .hears outcome] ++ remarks outcome))
      (some (.finished ((replyOf outcome).mapError .ofFault))) := fun outcome =>
    course_fetchThrough_iff.2
      ⟨_, ⟨_, outcome, .call (.done outcome), verdict_replyOf outcome, rfl⟩, rfl⟩
  let first : FailedAttempt (Except ClientError Json) :=
    ⟨[.notes (.sending query.operation), .asks query,
        .hears (.ok (.object [("rateLimit", .array [])]))],
      .ofFault (.parse ("Invalid rate limit: " ++
        "invalid length 0, expected struct FetcherRateLimit with 4 elements"))⟩
  have hfirst : (fetchThrough ask query).Course first.acts
      (some (.finished (.error first.error))) := hfetch (.ok (.object [("rateLimit", .array [])]))
  have hlast : (fetchThrough ask query).Course
      [.notes (.sending query.operation), .asks query, .hears (.error ⟨"down", none⟩)]
      (some (.finished (.error (.ofFault (.remote "down"))))) := hfetch (.error ⟨"down", none⟩)
  have hcourse : (Plan.retrying ⟨2, .ofMilliseconds 10⟩ query.operation
      (fetchThrough ask query)).Course spoiltThenDown (some (.finished (.error e))) :=
    Plan.retrying_course_iff.2
      ⟨[first], _, .cons hfirst (by decide) (.nil (.givesUp hlast rfl) (by decide))⟩
  have before := Run.watching cache query .networkOnly
  have born : origin.Opened 0 query .networkOnly := rfl
  have run : Run origin (origin.trace deeds) (origin.after deeds) := .of_deeds origin deeds
  have hanswered : .error e ∈ (origin.trace deeds).answers 0 := .head _
  have hwaits : (origin.after deeds).hub.stepWatch 0 = none :=
    Option.isNone_iff_eq_none.1 (by decide +kernel)
  obtain ⟨failed, last, -, ⟨reply, -, hreply, -⟩ | ⟨fault, e', -, he, -, -, -, hrejects⟩⟩ :=
    (answers_count_whole_or_not_at_all ask query).2.2 _ _ _ hcourse
  · cases hreply
  · cases he
    exact ⟨hcourse, by decide +kernel, before, born, by decide +kernel, hwaits,
      hrejects before born run hanswered⟩

end RepoWatch.Graphql
