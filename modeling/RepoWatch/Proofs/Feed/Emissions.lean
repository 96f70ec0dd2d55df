import RepoWatch.Proofs.Feed.Flow
import RepoWatch.Proofs.Feed.Images
/-!
# Emissions

The values that the feed emits come of the events that its followers handle, and of nothing else:
these are the values that the logs of its outlets take.
-/

namespace RepoWatch

/-- A value that is emitted on behalf of the watch of a query. -/
structure Emission where
  number : Nat
  query : Query
  publication : Publication

def Moment.emission? (m : Moment) : Option Emission :=
  match m.label with
  | .handled number event => do
    let f ← m.world.hub.follower? number
    let publication ← event.publication f.query.operation
    return ⟨number, f.query, publication⟩
  | _ => none

/-- What a run emits, in order. -/
def Trace.emissions (t : Trace) : List Emission := t.filterMap Moment.emission?

/-- What a run emits on behalf of one watch. -/
def Trace.emitted (t : Trace) (number : Nat) : List Publication :=
  (t.emissions.filter fun e => e.number == number).map Emission.publication

/-- What is emitted by a step, when it emits anything. -/
def Moment.published (m : Moment) : List Publication := m.emission?.toList.map Emission.publication

/-- What a run emits, on behalf of whichever watch. -/
def Trace.published (t : Trace) : List Publication := t.emissions.map Emission.publication

theorem Trace.emissions_snoc (t : Trace) (m : Moment) :
    emissions (t ++ [m]) = t.emissions ++ m.emission?.toList := by
  cases h : m.emission? <;> simp [emissions, h]

theorem Trace.emitted_snoc (t : Trace) (m : Moment) (number : Nat) :
    emitted (t ++ [m]) number = t.emitted number ++
      ((m.emission?.toList.filter fun e => e.number == number).map Emission.publication) := by
  rw [emitted, emissions_snoc, List.filter_append, List.map_append]
  rfl

theorem Trace.published_snoc (t : Trace) (m : Moment) :
    published (t ++ [m]) = t.published ++ m.published := by
  rw [published, emissions_snoc, List.map_append]
  rfl

theorem Hub.sameLogs_finishFollower (s : Hub) (number : Nat) :
    (s.finishFollower number).outlets.SameLogs s.outlets := by
  unfold finishFollower
  split
  · split
    · split
      · exact .refl _
      · exact Outlets.sameLogs_dropHandle _ _
    · exact .refl _
  · exact .refl _

section Emissions

variable {w w' origin : World} {l : Label} {t : Trace} {number : Nat} {query : Query}

theorem Moment.emission?_eq_some {m : Moment} {e : Emission} (h : m.emission? = some e) :
    ∃ event f, m.label = .handled e.number event ∧ m.world.hub.follower? e.number = some f ∧
      f.query = e.query ∧ event.publication e.query.operation = some e.publication := by
  unfold Moment.emission? at h
  split at h
  · rename_i number event hl
    obtain ⟨f, hf, h⟩ := Option.bind_eq_some_iff.1 h
    obtain ⟨publication, hpublication, h⟩ := Option.bind_eq_some_iff.1 h
    cases h
    exact ⟨event, f, hl, hf, rfl, hpublication⟩
  · cases h

theorem Moment.emission?_of_isFeed {m : Moment} (h : m.label.isFeed = false) :
    m.emission? = none := by
  unfold Moment.emission?
  split
  · rename_i hl
    rw [hl] at h
    cases h
  · rfl

theorem Moment.emission?_handled {event : Event} {f : Follower}
    (hf : w.hub.follower? number = some f) :
    Moment.emission? ⟨.handled number event, w⟩ =
      (event.publication f.query.operation).map fun publication =>
        ⟨number, f.query, publication⟩ := by
  unfold Moment.emission?
  dsimp only
  rw [hf]
  exact Option.map_eq_bind.symm

/-- A follower that makes a step emits what the event gives that it handles. -/
theorem Hub.takes_stepFollower {s : Hub} (h : w.hub.stepFollower number = some s) :
    w.hub.outlets.Takes (Moment.published ⟨w.hub.followerLabel number, w.withHub s⟩) s.outlets := by
  obtain ⟨p, f, hp, hf, hrunning, hcases⟩ := stepFollower_cases h
  have hlabel := Hub.handling?_eq hp hf hrunning
  have hsilent : (if f.isActive then f.holding else none) = none →
      Moment.published ⟨w.hub.followerLabel number, w.withHub s⟩ = [] := by
    intro hnone
    rw [followerLabel, hlabel, hnone]
    rfl
  rcases hcases with ⟨event, hholding, hactive, rfl⟩ | ⟨-, hinactive, rfl⟩ |
    ⟨event, events, hholding, -, rfl⟩ | ⟨hholding, -, -, rfl⟩
  · let f' : Follower := { f with holding := none }
    let hub := (w.hub.setFollower number p f').handle f.query.operation event
    obtain ⟨hpipes, -, houtlets⟩ := handle_eq (w.hub.setFollower number p f')
      f.query.operation event
    have hp' : hub.pipes[number]? = some { p with follower := some f' } := by
      rw [hpipes]
      exact (getElem?_setPipe hp _ number).trans (if_pos rfl)
    rw [followerLabel, hlabel, if_pos hactive, hholding]
    dsimp only
    rw [Moment.published, Moment.emission?_handled (w := w.withHub hub) (follower?_eq hp'), houtlets]
    cases event.publication f.query.operation with
    | none => exact .refl _
    | some publication => exact Outlets.takes_publish _ publication
  · rw [hsilent (if_neg (by simp [hinactive]))]
    exact (sameLogs_finishFollower _ _).takes
  · rw [hsilent (by rw [hholding, ite_self])]
    exact .refl _
  · rw [hsilent (by rw [hholding, ite_self])]
    exact (sameLogs_finishFollower _ _).takes

/-- What a step emits is what the logs of the outlets take by it. -/
theorem Step.takes (step : Step w l w') :
    w.hub.outlets.Takes (Moment.published ⟨l, w'⟩) w'.hub.outlets := by
  cases step with
  | openWatch | store | storeEqual | announce | erase | clear | retain | release | receive
  | register | cancel | drop | journal => exact .refl _
  | watch _ h =>
      obtain ⟨p, x, y, -, -, -, rfl⟩ := Hub.stepWatch_eq_some h
      rw [Moment.published, Moment.emission?_of_isFeed (Effect.isFeed_label _ _ _ _)]
      exact .refl _
  | overhear h =>
      obtain ⟨p, x, y, effect, -, -, -, -, -, rfl⟩ := Hub.overhear_eq_some h
      exact .refl _
  | answer outcome hx =>
      obtain ⟨p, hp, hx⟩ := Hub.watch?_eq_some hx
      rw [Hub.answerWatch_eq hp hx]
      exact .refl _
  | crash hx =>
      obtain ⟨p, hp, hx⟩ := Hub.watch?_eq_some hx
      rw [Hub.crashWatch_eq hp hx]
      exact .refl _
  | hangUp hp | feed _ hp | closeSender hp =>
      dsimp only [World.withHub, Hub.hangUp, Hub.sendEvent, Hub.closeSender]
      rw [hp]
      exact .refl _
  | fetch backend query =>
      have hopen : ((w.hub.note (.fetching query)).openFor backend query).outlets.SameLogs
          w.hub.outlets := by cases backend <;> exact .refl _
      dsimp only [World.calling, World.withHub]
      unfold Hub.attach
      split
      · exact ((Outlets.sameLogs_clone _ _).trans hopen).takes
      · exact hopen.takes
  | @switchOff m =>
      dsimp only [World.calling, World.withHub]
      unfold Hub.cancelFollower
      split
      · split <;> exact .refl _
      · exact .refl _
  | @conclude ending =>
      cases ending with
      | fetch | cancel => exact .refl _
      | drop =>
          have hclosed : w.hub.outlets.close.SameLogs w.hub.outlets := ⟨rfl, rfl, rfl, rfl⟩
          exact hclosed.takes
  | follower h => exact Hub.takes_stepFollower h
  | abort => exact (Hub.sameLogs_finishFollower _ _).takes
  | subscribers hlogs => exact hlogs.takes

/-- What a run emits is what the logs of the outlets take in it, in order. -/
theorem Run.takes (run : Run origin t w) : origin.hub.outlets.Takes t.published w.hub.outlets := by
  induction run with
  | nil => exact .refl _
  | snoc run step ih =>
      rw [Trace.published_snoc]
      exact ih.trans step.takes

/-- Only on behalf of an active watch an event is handled. -/
theorem Step.active?_of_handled {event : Event} (step : Step w (.handled number event) w') :
    ∃ f, w'.hub.follower? number = some f ∧ w.hub.active? number = some f.query := by
  cases hside : step.feedSide with
  | passed hl => cases hl
  | @served m f f' _ _ hf part turns call hl =>
      rcases hl with hl | ⟨event', hl, hactive⟩
      · cases hl
      · cases hl
        refine ⟨f', (turns.follower?_eq number).trans (if_pos rfl), ?_⟩
        rw [Hub.active?, hf, Option.bind_some, if_pos hactive, part.query_eq]

/-- For an event that is handled the logs of the outlets take its image, and nothing else. -/
theorem Step.takes_image {event : Event} (step : Step w (.handled number event) w')
    (hactive : w.hub.active? number = some query) :
    ∃ image, event.Image query.operation image ∧ w.hub.outlets.Takes image w'.hub.outlets := by
  obtain ⟨f, hf, hquery⟩ := step.active?_of_handled
  obtain rfl := Option.some.inj (hactive.symm.trans hquery)
  refine ⟨_, event.image f.query.operation, ?_⟩
  have htakes := step.takes
  rw [Moment.published, Moment.emission?_handled hf] at htakes
  cases hpublication : event.publication f.query.operation <;> simpa [hpublication] using htakes

/-- On behalf of a watch, what its events give is emitted, each once and in order. -/
theorem Step.emitted (step : Step w l w') (h : w.hub.active? number = some query) :
    ((Moment.emission? ⟨l, w'⟩).toList.filter fun e => e.number == number).map
        Emission.publication =
      (l.handledBy number).toList.filterMap (Event.publication query.operation) := by
  cases l with
  | handled m event =>
      obtain ⟨f, hf, hactive⟩ := step.active?_of_handled
      rw [Moment.emission?_handled hf]
      by_cases hm : m = number
      · subst hm
        obtain rfl : query = f.query := by simpa [h] using hactive
        cases hpublication : event.publication f.query.operation <;>
          simp [Label.handledBy, hpublication]
      · cases event.publication f.query.operation <;> simp [Label.handledBy, hm]
  | _ => rfl

end Emissions
end RepoWatch
