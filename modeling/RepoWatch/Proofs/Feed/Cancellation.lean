import RepoWatch.Proofs.Feed.Forwarding
/-!
# Cancellation

When a call of the feed has returned, nothing is emitted any more on behalf of the watches that it
cancels or supersedes, even if their events have come before. The other watches are served on.
-/

namespace RepoWatch

/-- Whether a call that has returned forbids to emit on behalf of the watch of a query: a fetch does
so for the earlier watches of an equal query, the others for all watches before. -/
def Ending.Silences (ending : Ending) (s : Hub) (number : Nat) (query : Query) : Prop :=
  number < s.nextNumber ∧
    match ending with
    | .fetch q n => query = q ∧ number ≠ n
    | .cancel _ | .drop => True

section Cancellation

variable {w w' origin : World} {l : Label} {t : Trace} {number : Nat} {query : Query}

theorem Step.nextNumber_le (step : Step w l w') : w.hub.nextNumber ≤ w'.hub.nextNumber := by
  unfold Hub.nextNumber
  rw [← Hub.length_watches, ← Hub.length_watches]
  cases step.cacheSide with
  | spared _ hub => exact Nat.le_of_eq (congrArg List.length hub.watches_eq.symm)
  | opened _ _ pipes _ hub =>
      obtain ⟨p, -, -, hpipes⟩ := pipes
      rw [hub.watches_eq, Hub.watches_append hpipes, List.length_append]
      exact Nat.le_add_right _ _
  | moved _ _ watches =>
      apply Nat.le_of_eq
      dsimp only [World.withHub]
      rw [watches, List.length_set]
  | stored | storedEqual | announced | removed | retained | released => exact Nat.le_refl _

theorem Run.nextNumber_le (run : Run origin t w) : origin.hub.nextNumber ≤ w.hub.nextNumber := by
  induction run with
  | nil => exact Nat.le_refl _
  | snoc _ step ih => exact Nat.le_trans ih step.nextNumber_le

/-- A watch that is not followed is never followed again. -/
theorem Run.active?_of (run : Run origin t w) (h : w.hub.active? number = some query) :
    origin.hub.active? number = some query ∨ origin.hub.nextNumber ≤ number := by
  induction run with
  | nil => exact .inl h
  | snoc run step ih =>
      rcases step.active?_of h with hbefore | ⟨rfl, -⟩
      · exact ih hbefore
      · exact .inr run.nextNumber_le

/-- An event of a watch is handled only as long as the watch is followed. -/
theorem Step.active?_of_served {event : Event} (step : Step w (.handled number event) w')
    (run : Run origin t w) (hactive : origin.hub.active? number = some query)
    (hnumber : number < origin.hub.nextNumber) : w.hub.active? number = some query := by
  obtain ⟨f, -, hon⟩ := step.active?_of_handled
  rcases run.active?_of hon with hbefore | hlater
  · rw [hon, ← hbefore, hactive]
  · exact absurd hnumber (Nat.not_lt.2 hlater)

/-- What a run emits is emitted on behalf of watches that were followed at first or came later. -/
theorem Run.active?_of_emission (run : Run origin t w) {e : Emission} (he : e ∈ t.emissions) :
    origin.hub.active? e.number = some e.query ∨ origin.hub.nextNumber ≤ e.number := by
  induction run with
  | nil => cases he
  | @snoc t w w' l run step ih =>
      rw [Trace.emissions_snoc, List.mem_append] at he
      rcases he with he | he
      · exact ih he
      · obtain ⟨event, f, hl, hf, hquery, -⟩ := Moment.emission?_eq_some (Option.mem_toList.1 he)
        dsimp only at hl hf
        subst hl
        obtain ⟨f', hf', hactive⟩ := step.active?_of_handled
        obtain rfl : f' = f := by simpa [hf] using hf'.symm
        exact run.active?_of (hquery ▸ hactive)

/-- When a call returns, no watch is followed that it forbids. -/
theorem Step.silences {ending : Ending} (step : Step w (.returned ending) w') (tidy : w.Tidy)
    (h : ending.Silences w'.hub number query) : w'.hub.active? number ≠ some query := by
  intro hactive
  have tidy' := step.tidy tidy
  obtain ⟨hcall, hsettled⟩ := step.settled tidy
  have hmem : (query, number) ∈ w'.hub.registry := tidy'.mem_registry hcall hactive
  cases ending with
  | fetch q n =>
      obtain ⟨-, rfl, hne⟩ := h
      exact hne (tidy'.unique hmem hsettled)
  | cancel | drop =>
      rw [show w'.hub.registry = [] from hsettled] at hmem
      cases hmem

theorem Step.follows_fetched (step : Step w (.fetched query number) w') :
    w'.Follows query number ∧ w'.hub.pending number = [] := by
  cases step.feedSide with
  | passed hl => cases hl
  | fetched _ _ call fresh =>
      obtain ⟨p, hp, hf, hevents, -⟩ := fresh
      refine ⟨.inr call, (Hub.pending_eq hp).trans ?_⟩
      simp [Pipe.pending, hf, Follower.create, hevents]
  | served _ _ _ _ hl =>
      rcases hl with hl | ⟨_, hl, -⟩
      · cases hl
      · cases hl

/-- A query is fetched by a watch that is followed from then on and to which nothing has come. -/
theorem Step.fetched_active (step : Step w (.fetched query number) origin) (tidy : w.Tidy) :
    origin.hub.active? number = some query ∧ number < origin.hub.nextNumber := by
  obtain ⟨follows, -⟩ := step.follows_fetched
  have hactive := follows.active?_eq (step.tidy tidy)
  obtain ⟨p, f, hp, -⟩ := Hub.active?_eq_some hactive
  exact ⟨hactive, (List.getElem?_eq_some_iff.1 hp).1⟩

/-- Once a call of the feed has returned, all that the logs of the outlets take is emitted on behalf
of watches that it neither cancels nor supersedes. What is sent to a watch comes, and is handled in
order, until its query is fetched again or all watches are cancelled; the logs take the image of each
event that is handled, and the watch is never stuck. -/
theorem returned_calls_silence_watches {cache : Cache} {outlets : Outlets} {s : Trace}
    (run : Run (.start cache outlets) s w) :
    (∀ {ending : Ending} {origin w' : World} {t : Trace}, Step w (.returned ending) origin →
      Run origin t w' → origin.hub.outlets.Takes t.published w'.hub.outlets ∧
        ∀ e ∈ t.emissions, ¬ ending.Silences origin.hub e.number e.query) ∧
    (∀ {query : Query} {number : Nat} {origin w' : World} {t : Trace},
      Step w (.fetched query number) origin → Run origin t w' →
      (∀ m ∈ t, m.label.supersedes query = false) →
      (∀ p, w'.hub.pipes[number]? = some p → p.senderOpen = true → p.receiverOpen = true) ∧
        t.into number = t.handled number ++ w'.hub.pending number ∧
        t.emitted number = (t.handled number).filterMap (Event.publication query.operation) ∧
        origin.hub.outlets.Takes t.published w'.hub.outlets ∧
        (∀ {event : Event} {next : World}, Step w' (.handled number event) next →
          ∃ image, event.Image query.operation image ∧
            w'.hub.outlets.Takes image next.hub.outlets) ∧
        ∃ k, (w'.trace (List.replicate k (.follower number))).handled number =
          w'.hub.pending number) := by
  constructor
  · intro ending origin w' t step after
    refine ⟨after.takes, fun e he hsilences => ?_⟩
    rcases after.active?_of_emission he with hactive | hlater
    · exact step.silences run.tidy hsilences hactive
    · exact Nat.not_lt.2 hlater hsilences.1
  · intro query number origin w' t step after ht
    obtain ⟨follows, hnothing⟩ := step.follows_fetched
    obtain ⟨hactive, hnumber⟩ := step.fetched_active run.tidy
    have tidy := step.tidy run.tidy
    have calm := step.calm run.calm
    have follows' := after.follows ht follows
    have tidy' := after.keeps Step.tidy tidy
    have calm' := after.keeps Step.calm calm
    have hpending := after.pending tidy calm follows ht
    rw [hnothing, List.nil_append] at hpending
    refine ⟨fun p hp hopen => ?_, hpending, after.emitted tidy follows ht, after.takes,
      fun served => served.takes_image (served.active?_of_served after hactive hnumber),
      follows'.exists_handled tidy' calm'⟩
    obtain ⟨p', f, hp', hf, hactive, -⟩ := Hub.active?_eq_some (follows'.active?_eq tidy')
    obtain rfl : p' = p := by simpa [hp] using hp'.symm
    exact calm'.received hp hf hactive hopen

end Cancellation

/-- A query is fetched a second time, when something has come to its first watch. -/
def refetching (query : Query) : List Deed :=
  [.fetch query, .proceed, .proceed, .feed 0 (.failure (.remote "down")), .follower 0,
    .fetch query, .proceed, .proceed]

/-- Something comes to the second watch, and both followers make steps. -/
def bothFollow : List Deed :=
  [.feed 1 (.failure (.remote "up")), .follower 0, .follower 1, .follower 1]

/-- A fetch returns, and of two events that come to its watch the first one is handled. -/
def firstFollows : List Deed :=
  [.proceed, .proceed, .feed 0 (.failure (.remote "down")), .feed 0 (.failure (.remote "up")),
    .follower 0, .follower 0]

theorem returned_calls_silence_watches_refetched :
    let query : Query := .commits "own"
    let start : World := .start .empty .unheard
    let w := start.after (refetching query)
    let origin := (w.withHub (w.hub.conclude (.fetch query 1))).calling none
    let later := origin.trace bothFollow
    let later' := origin.after bothFollow
    let fetched := start.after [.fetch query]
    let t := fetched.trace firstFollows
    let w' := fetched.after firstFollows
    (Step w (.returned (.fetch query 1)) origin ∧ later.emissions.map Emission.number = [1] ∧
      (Ending.fetch query 1).Silences origin.hub 0 query ∧
      (later'.hub.outlets.logOf .failures).held = [.failure ⟨query.operation.name, .remote "up"⟩] ∧
      origin.hub.outlets.Takes later.published later'.hub.outlets ∧
      ∀ e ∈ later.emissions, ¬ (Ending.fetch query 1).Silences origin.hub e.number e.query) ∧
    (Step start (.fetched query 0) fetched ∧ (t.handled 0).length = 1 ∧
      (w'.hub.pending 0).length = 1 ∧
      (w'.hub.outlets.logOf .failures).held = [.failure ⟨query.operation.name, .remote "down"⟩] ∧
      t.into 0 = t.handled 0 ++ w'.hub.pending 0 ∧
      t.emitted 0 = (t.handled 0).filterMap (Event.publication query.operation) ∧
      fetched.hub.outlets.Takes t.published w'.hub.outlets ∧
      (∀ {event : Event} {next : World}, Step w' (.handled 0 event) next →
        ∃ image, event.Image query.operation image ∧
          w'.hub.outlets.Takes image next.hub.outlets) ∧
      ∃ k, (w'.trace (List.replicate k (.follower 0))).handled 0 = w'.hub.pending 0) := by
  intro query start w origin later later' fetched t w'
  constructor
  · have run := Run.of_deeds start (refetching query)
    have hcall : w.call = some (.switchingOff [] (.fetch query 1)) := by decide +kernel
    have step : Step w (.returned (.fetch query 1)) origin := .conclude hcall
    refine ⟨step, by decide +kernel, ⟨by decide +kernel, rfl, by decide⟩, by decide +kernel, ?_⟩
    exact (returned_calls_silence_watches run).1 step (.of_deeds origin bothFollow)
  · have step : Step start (.fetched query 0) fetched := .fetch .outside query rfl rfl
    have ht : ∀ m ∈ t, m.label.supersedes query = false := by decide +kernel
    refine ⟨step, by decide +kernel, by decide +kernel, by decide +kernel, ?_⟩
    exact ((returned_calls_silence_watches .nil).2 step (.of_deeds fetched firstFollows) ht).2

end RepoWatch
