import RepoWatch.Fetch.Stack
import RepoWatch.Proofs.Graphql.Wholeness
/-!
# Reasons of the server

A server may report errors, with a message for each. The client hands them on beside a summary of its
own, and it is the summary alone that a failure tells.
-/

namespace RepoWatch.Graphql

open Plan (Act FailedAttempt transcript)

section Hearing

variable {ι : Type}

/-- The answers that are heard, in order. -/
def heard (acts : List (Act ι)) : List ι :=
  acts.filterMap fun
    | .hears answer => some answer
    | .asks _ | .waits _ | .looks _ | .notes _ => none

theorem heard_append (acts later : List (Act ι)) : heard (acts ++ later) = heard acts ++ heard later :=
  List.filterMap_append

theorem heard_remarks (outcome : Except ClientError Json) :
    heard (remarks outcome : List (Act ι)) = [] := by
  cases outcome with
  | ok data => rfl
  | error e =>
      rw [remarks]
      cases e.toFault <;> rfl

/-- In the attempts that failed only their own answers are heard. -/
theorem heard_transcript (policy : RetryPolicy) (operation : Operation) (number : Nat)
    (failed : List (FailedAttempt ι)) :
    heard (transcript policy operation number failed) = failed.flatMap fun a => heard a.acts := by
  induction failed generalizing number with
  | nil => rfl
  | cons a failed ih =>
      rw [transcript, heard_append, List.flatMap_cons, ← ih (number + 1)]
      rfl

end Hearing

/-- The error of a fetch that came to a fault, and was not tried again. -/
def finalError (options : FetchOptions) (fault : QueryFault) : ErrorChain :=
  match options.retry with
  | some policy => (ErrorChain.ofFault fault).wrap
      (.plain ("Failed after " ++ toString policy.mostAttempts ++ " attempts"))
  | none => .ofFault fault

/-- How the number of attempts is told, if a fetch is retried. -/
def attemptsTold (options : FetchOptions) : String :=
  match options.retry with
  | some policy => "Failed after " ++ toString (max policy.attempts.toNat 1) ++ " attempts: "
  | none => ""

/-- What a client says of the errors that a server reports. -/
def summary (status : Nat) : String :=
  if Client.isSuccess status then "Look at json field for more details"
  else "The response is [" ++ toString status ++ "]"

section Fetch

variable {c : Client} {options : FetchOptions} {query : Query} {acts : List (Act Exchange)}
  {result : Except ErrorChain Reply} {exchange : Exchange} {policy : RetryPolicy}

/-- A client that accepts a query hears one answer, and judges that. -/
theorem heard_of_judged {reading : Except QueryFault Reply} (h : Judged c.ask query acts reading) :
    (∃ refusal, c.prepare query = .error refusal ∧ heard acts = []) ∨
      ∃ request exchange, c.prepare query = .ok request ∧ heard acts = [exchange] ∧
        reading = replyOf (c.outcome request exchange) := by
  obtain ⟨own, outcome, hask, hverdict, rfl⟩ := h
  have hreading := verdict_iff.1 hverdict
  have hheard : heard (.notes (.sending query.operation) :: (own ++ remarks outcome)) = heard own := by
    rw [← List.singleton_append, heard_append, heard_append, heard_remarks, List.append_nil]
    rfl
  rw [hheard]
  unfold Client.ask at hask
  cases hprepare : c.prepare query with
  | error refusal =>
      rw [hprepare] at hask
      obtain ⟨rfl, -⟩ := Plan.course_done_iff.1 hask
      exact .inl ⟨refusal, rfl, rfl⟩
  | ok request =>
      rw [hprepare] at hask
      cases hask with
      | @call _ exchange _ _ _ hanswer =>
          obtain ⟨rfl, hfinish⟩ := Plan.course_done_iff.1 hanswer
          cases hfinish _ rfl
          exact .inr ⟨request, exchange, rfl, rfl, hreading.symm⟩

theorem heard_holdBack {reply : Reply} {quota : Payload.Quota}
    (h : (Plan.holdBack reply quota).Course acts (some (.finished result))) : heard acts = [] := by
  unfold Plan.holdBack at h
  rcases Plan.course_now_iff.1 h with ⟨rfl, -⟩ | ⟨now, later, rfl, hlater⟩
  · rfl
  · cases hspan : quota.untilReset now with
    | error e =>
        rw [hspan] at hlater
        rw [(Plan.course_done_iff.1 hlater).1]
        rfl
    | ok span =>
        rw [hspan] at hlater
        rcases Plan.course_wait_iff.1 hlater with ⟨rfl, -⟩ | ⟨rest, rfl, hrest⟩
        · rfl
        · rw [(Plan.course_done_iff.1 hrest).1]
          rfl

/-- What is done to guard a quota is done without asking, and an error is passed on. -/
theorem course_guarded {fetch : Plan Exchange (Except ErrorChain Reply)}
    (h : fetch.guarded.Course acts (some (.finished result))) :
    ∃ own after inner, acts = own ++ after ∧ heard after = [] ∧
      fetch.Course own (some (.finished inner)) ∧ ∀ e, inner = .error e → result = .error e := by
  cases Plan.course_bind h with
  | @finished own after inner _ hfetch hafter =>
      refine ⟨own, after, inner, rfl, ?_, hfetch, ?_⟩
      · cases inner with
        | error e =>
            rw [(Plan.course_done_iff.1 hafter).1]
            rfl
        | ok reply =>
            dsimp only at hafter
            split at hafter
            · split at hafter
              · exact heard_holdBack hafter
              · rw [(Plan.course_done_iff.1 hafter).1]
                rfl
            · rw [(Plan.course_done_iff.1 hafter).1]
              rfl
      · rintro e rfl
        exact Outcome.finished.inj ((Plan.course_done_iff.1 hafter).2 _ rfl)

/-- A fetch is one attempt or several, and its error is that of the last one. -/
theorem exists_attempts {fetch : Plan Exchange (Except ErrorChain Reply)}
    (hfetch : fetch = match options.retry with
      | some policy => Plan.retrying policy query.operation (c.fetch query)
      | none => c.fetch query)
    (h : fetch.Course acts (some (.finished result))) :
    ∃ (attempts : List (List (Act Exchange))) (last : List (Act Exchange))
      (reading : Except QueryFault Reply),
      heard acts = attempts.flatMap heard ++ heard last ∧
      (∀ attempt ∈ attempts, ∃ fault, Judged c.ask query attempt (.error fault)) ∧
      Judged c.ask query last reading ∧
      ∀ fault, reading = .error fault → result = .error (finalError options fault) := by
  unfold finalError
  cases hretry : options.retry with
  | none =>
      rw [hretry] at hfetch
      subst hfetch
      obtain ⟨reading, judged, rfl⟩ := course_fetchThrough_iff.1 h
      refine ⟨[], acts, reading, rfl, by simp, judged, ?_⟩
      rintro fault rfl
      rfl
  | some policy =>
      rw [hretry] at hfetch
      subst hfetch
      obtain ⟨failed, last, heach, hcases⟩ := judged_of_retrying h
      have hattempts : ∀ attempt ∈ failed.map FailedAttempt.acts,
          ∃ fault, Judged c.ask query attempt (.error fault) := by
        intro attempt hmem
        obtain ⟨a, ha, rfl⟩ := List.mem_map.1 hmem
        obtain ⟨fault, judged, -⟩ := heach a ha
        exact ⟨fault, judged⟩
      have htranscript : heard (transcript policy query.operation 1 failed) =
          (failed.map FailedAttempt.acts).flatMap heard := by
        rw [heard_transcript, List.flatMap_map]
      rcases hcases with ⟨reply, judged, rfl, -, rfl⟩ | ⟨fault, judged, rfl, -, rfl⟩
      · refine ⟨_, last, _, ?_, hattempts, judged, ?_⟩
        · rw [heard_append, htranscript]
        · rintro fault ⟨⟩
      · refine ⟨_, last, _, ?_, hattempts, judged, ?_⟩
        · rw [heard_append, heard_append, htranscript]
          exact congrArg _ (List.append_nil _)
        · rintro fault ⟨⟩
          rfl

/-- The error of a fetch is made of the answer that was heard last. -/
theorem error_of_strengthen
    (h : (options.strengthen c.fetch query).Course acts (some (.finished result)))
    (hlast : (heard acts).getLast? = some exchange) :
    ∃ request, ∀ fault, replyOf (c.outcome request exchange) = .error fault →
      result = .error (finalError options fault) := by
  obtain ⟨own, inner, hheard, hown, hpassed⟩ : ∃ own inner, heard own = heard acts ∧
      (match options.retry with
        | some policy => Plan.retrying policy query.operation (c.fetch query)
        | none => c.fetch query).Course own (some (.finished inner)) ∧
      ∀ e, inner = .error e → result = .error e := by
    unfold FetchOptions.strengthen at h
    dsimp only at h
    split at h
    · obtain ⟨own, after, inner, rfl, hafter, hfetch, hpassed⟩ := course_guarded h
      refine ⟨own, inner, ?_, hfetch, hpassed⟩
      rw [heard_append, hafter, List.append_nil]
    · exact ⟨acts, result, rfl, h, fun e he => he⟩
  obtain ⟨attempts, last, reading, hattempts, heach, judged, hreading⟩ := exists_attempts rfl hown
  rw [← hheard, hattempts] at hlast
  rcases heard_of_judged judged with
    ⟨refusal, hprepare, hnothing⟩ | ⟨request, heardLast, hprepare, hone, rfl⟩
  · -- what is refused once is refused in every attempt
    have hnone : attempts.flatMap heard = [] := by
      rw [List.flatMap_eq_nil_iff]
      intro attempt hmem
      obtain ⟨fault, hjudged⟩ := heach attempt hmem
      rcases heard_of_judged hjudged with ⟨-, -, hempty⟩ | ⟨request, -, hprepare', -⟩
      · exact hempty
      · rw [hprepare] at hprepare'
        cases hprepare'
    rw [hnone, hnothing] at hlast
    cases hlast
  · rw [hone, List.getLast?_concat] at hlast
    obtain rfl := Option.some.inj hlast
    exact ⟨request, fun fault hfault => hpassed _ (hreading fault hfault)⟩

/-- A summary never says that an answer could not be parsed. -/
theorem not_occurs_summary (status : Nat) :
    ¬ Text.Occurs "Failed to parse response" (summary status) := by
  apply Text.not_occurs_of_notMem (c := 'F') (by decide)
  unfold summary
  split
  · decide
  · intro hmem
    rw [String.toList_append, String.toList_append, List.mem_append, List.mem_append] at hmem
    rcases hmem with (hbefore | hdigit) | hafter
    · exact absurd hbefore (by decide)
    · exact absurd (Text.isDigit_of_mem_toString hdigit) (by decide)
    · exact absurd hafter (by decide)

/-- Errors that a server reports are handed on beside a summary. -/
theorem outcomeOf_eq {status : Nat} {body : String} {content : Body} {errors : List ServerError}
    (hread : Payload.decodeText Body.decode body = .ok content)
    (herrors : content.errors = some errors) :
    c.outcomeOf status body = .error ⟨summary status, some errors⟩ := by
  rw [Client.outcomeOf, hread]
  dsimp only
  rw [herrors, summary]
  by_cases hsuccess : Client.isSuccess status = true
  · rw [if_pos hsuccess, if_pos hsuccess]
    rfl
  · rw [if_neg hsuccess, if_neg hsuccess]
    rfl

/-- A fetch that is answered with errors comes to a summary. -/
theorem course_fetch_of_errors {request : Request} (hprepare : c.prepare query = .ok request)
    {status : Nat} {body : String} {content : Body} {errors : List ServerError}
    (hread : Payload.decodeText Body.decode body = .ok content)
    (herrors : content.errors = some errors) :
    (c.fetch query).Course
      [.notes (.sending query.operation), .asks query, .hears (.answered status body)]
      (some (.finished (.error (.ofFault (.remote (summary status)))))) := by
  have houtcome : c.outcome request (.answered status body) =
      .error ⟨summary status, some errors⟩ := outcomeOf_eq hread herrors
  have hask : (c.ask query).Course [.asks query, .hears (.answered status body)]
      (some (.finished (.error ⟨summary status, some errors⟩))) := by
    rw [Client.ask, hprepare, ← houtcome]
    exact .call (.done _)
  have hsilent : remarks (.error ⟨summary status, some errors⟩) = ([] : List (Act Exchange)) := by
    rw [remarks, ClientError.toFault, faultOfMessage_of_not_occurs (not_occurs_summary status)]
  refine course_fetchThrough_iff.2
    ⟨_, ⟨_, _, hask, .failed (not_occurs_summary status), ?_⟩, rfl⟩
  rw [hsilent]
  rfl

theorem text_toFault_of_remote {e : ErrorChain} (h : e.toFault.kind = .remote) :
    e.toFault.text = "Remote error: " ++ e.full := by
  obtain ⟨message, hmessage⟩ := QueryFault.kind_eq_iff.1 h
  have hfull : message = e.full := by
    rw [← e.message_toFault, hmessage]
    rfl
  rw [hmessage, hfull]
  rfl

theorem full_finalError (options : FetchOptions) (fault : QueryFault) :
    (finalError options fault).full = attemptsTold options ++ fault.text := by
  have hfault : (ErrorChain.ofFault fault).full = fault.text := String.intercalate_singleton
  unfold finalError attemptsTold
  cases options.retry with
  | none => rw [hfault, String.empty_append]
  | some policy =>
      rw [ErrorChain.full_wrap, hfault]
      simp only [Layer.text, RetryPolicy.mostAttempts, String.append_assoc]
      rfl

theorem kind_finalError (options : FetchOptions) (fault : QueryFault) :
    (finalError options fault).toFault.kind = fault.kind := by
  unfold finalError
  cases options.retry with
  | none => exact ErrorChain.kind_toFault_ofFault fault
  | some policy =>
      exact (ErrorChain.kind_toFault_wrap_plain _ _).trans (ErrorChain.kind_toFault_ofFault fault)

theorem text_of_finalError (options : FetchOptions) (message operation : String) :
    QueryFailure.text ⟨operation, (finalError options (.remote message)).toFault⟩ =
      "Query " ++ operation ++ " failed: " ++
        ("Remote error: " ++ (attemptsTold options ++ ("Remote error: " ++ message))) := by
  have htext := text_toFault_of_remote (kind_finalError options (.remote message))
  have hremote : (QueryFault.remote message).text = "Remote error: " ++ message := rfl
  rw [full_finalError, hremote] at htext
  unfold QueryFailure.text
  rw [htext]

/-- A fetch ends with an answer in which the server reports errors. The client hands the errors on,
beside a summary that tells at most the status of the answer, but of what the client says only the
summary is kept. So the failure that is published tells the operation, how many attempts there were
and the summary, and nothing that the server has said: answers with one status are told alike,
whichever errors they report. -/
theorem failures_tell_summaries_only
    (hcourse : (options.strengthen c.fetch query).Course acts (some (.finished result)))
    {status : Nat} {body : String} (hlast : (heard acts).getLast? = some (.answered status body))
    {content : Body} (hread : Payload.decodeText Body.decode body = .ok content)
    {errors : List ServerError} (herrors : content.errors = some errors) :
    c.outcomeOf status body = .error ⟨summary status, some errors⟩ ∧
    ∃ e, result = .error e ∧
      ∀ (x : Watch) (cache : Cache), x.isFetching = true → ∃ event failure,
        (x.answer true (.error e)).step true cache = some (x.goTo .completing, .send event) ∧
        event.publication query.operation = some (.failure failure) ∧
        failure.source.kind = .remote ∧
        failure.text = "Query " ++ query.operation.name ++ " failed: " ++
          ("Remote error: " ++ (attemptsTold options ++ ("Remote error: " ++ summary status))) := by
  have houtcome : c.outcomeOf status body = .error ⟨summary status, some errors⟩ :=
    outcomeOf_eq hread herrors
  obtain ⟨request, hresult⟩ := error_of_strengthen hcourse hlast
  have hfault : replyOf (c.outcome request (.answered status body)) =
      .error (.remote (summary status)) := by
    rw [Client.outcome, houtcome]
    exact verdict_iff.1 (.failed (not_occurs_summary status))
  refine ⟨houtcome, _, hresult _ hfault, ?_⟩
  intro x cache hfetching
  exact ⟨_, ⟨query.operation.name, (finalError options (.remote (summary status))).toFault⟩,
    Watch.step_answer_error hfetching _ cache, rfl, kind_finalError options _,
    text_of_finalError options _ _⟩

end Fetch

/-- The server says that it does not know the repository; the failure does not. -/
theorem failures_tell_summaries_only_unresolved :
    let c : Client := ⟨"http://localhost/graphql", "credentials"⟩
    let query : Query := .commits "octokit"
    let options : FetchOptions := ⟨some ⟨1, .ofMilliseconds 10⟩, true⟩
    let reason := "Could not resolve to a Repository"
    let body := "\x7b\"data\": null, \"errors\": [\x7b\"message\": \"" ++ reason ++ "\"\x7d]\x7d"
    let e := finalError options (.remote (summary 200))
    let x : Watch := ⟨query, .networkOnly, 0, none, .fetching⟩
    (options.strengthen c.fetch query).Course
        [.notes (.sending query.operation), .asks query, .hears (.answered 200 body),
          .notes (.attemptFailed 1 .commits "Remote error: Look at json field for more details")]
        (some (.finished (.error e))) ∧
      x.isFetching = true ∧
      ∃ content errors, Payload.decodeText Body.decode body = .ok content ∧
        content.errors = some errors ∧ errors.map ServerError.message = [reason] ∧
        ∃ event failure, (x.answer true (.error e)).step true .empty =
            some (x.goTo .completing, .send event) ∧
          event.publication .commits = some (.failure failure) ∧
          failure.text = "Query GithubRepositoryCommits failed: Remote error: " ++
            "Failed after 1 attempts: Remote error: Look at json field for more details" ∧
          ¬ Text.Occurs reason failure.text := by
  intro c query options reason body e x
  have hreported : (match Payload.decodeText Body.decode body with
      | .ok content => content.errors.map (List.map ServerError.message)
      | .error _ => none) = some [reason] := by decide +kernel
  obtain ⟨content, errors, hread, herrors, hmessages⟩ : ∃ content errors,
      Payload.decodeText Body.decode body = .ok content ∧ content.errors = some errors ∧
        errors.map ServerError.message = [reason] := by
    cases hread : Payload.decodeText Body.decode body with
    | error fault =>
        rw [hread] at hreported
        cases hreported
    | ok content =>
        rw [hread] at hreported
        obtain ⟨errors, herrors, hmessages⟩ := Option.map_eq_some_iff.1 hreported
        exact ⟨content, errors, rfl, herrors, hmessages⟩
  obtain ⟨request, hprepare⟩ : ∃ request, c.prepare query = .ok request := by
    have haccepted : (c.prepare query).isOk = true := by decide +kernel
    cases hprepare : c.prepare query with
    | ok request => exact ⟨request, rfl⟩
    | error refusal =>
        rw [hprepare] at haccepted
        cases haccepted
  have hfetch : (c.fetch query).Course
      [.notes (.sending query.operation), .asks query, .hears (.answered 200 body)]
      (some (.finished (.error (.ofFault (.remote (summary 200)))))) :=
    course_fetch_of_errors hprepare hread herrors
  have hcourse : (options.strengthen c.fetch query).Course
      [.notes (.sending query.operation), .asks query, .hears (.answered 200 body),
        .notes (.attemptFailed 1 .commits "Remote error: Look at json field for more details")]
      (some (.finished (.error e))) :=
    (Plan.retrying_course_iff.2
      ⟨[], _, .nil (.givesUp hfetch rfl) (by decide)⟩).bind_finished (.done _)
  obtain ⟨-, e', he, hpublished⟩ :=
    failures_tell_summaries_only hcourse rfl hread herrors
  cases he
  obtain ⟨event, failure, hstep, hpublication, -, htext⟩ := hpublished x .empty rfl
  have htold : failure.text = "Query GithubRepositoryCommits failed: Remote error: " ++
      "Failed after 1 attempts: Remote error: Look at json field for more details" := by
    rw [htext]
    decide +kernel
  refine ⟨hcourse, rfl, content, errors, hread, herrors, hmessages, event, failure, hstep,
    hpublication, htold, ?_⟩
  rw [htold]
  exact mt Text.contains_iff.2 (by decide +kernel)

end RepoWatch.Graphql
