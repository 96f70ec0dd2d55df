import RepoWatch.Proofs.Feed.Emissions
import RepoWatch.Proofs.World.Deeds
/-!
# Forwarding

The events that come to a watch that the feed follows are handled in order, and none is lost, until
its query is fetched again or the feed stops. What has come and is not handled yet can be handled at
any time, by the follower alone.
-/

namespace RepoWatch

/-- The events that have come and are not handled yet. -/
def Pipe.pending (p : Pipe) : List Event := (p.follower.bind Follower.holding).toList ++ p.events

def Hub.pending (s : Hub) (number : Nat) : List Event :=
  ((s.pipes[number]?).map Pipe.pending).getD []

/-- Whether a step begins to supersede or to cancel the watch of a query. -/
def Label.supersedes (query : Query) : Label → Bool
  | .fetched q _ => q == query
  | .stopping => true
  | _ => false

/-- The watch with a number is the one that a query has in the feed. -/
def World.Follows (w : World) (query : Query) (number : Nat) : Prop :=
  ((query, number) ∈ w.hub.registry ∧ ∀ m, w.call ≠ some (.registering query m)) ∨
    w.call = some (.registering query number)

/-- Who is told to end is switched off, and who is active receives as long as something can come and
leaves nothing when it ends. -/
structure World.Calm (w : World) : Prop where
  aborted : ∀ {n : Nat} {f : Follower}, w.hub.follower? n = some f → f.isAborted = true →
    f.isActive = false
  drained : ∀ {n : Nat} {p : Pipe} {f : Follower}, w.hub.pipes[n]? = some p →
    p.follower = some f → f.isActive = true → f.isFinished = true →
    p.pending = [] ∧ p.receiverOpen = false
  received : ∀ {n : Nat} {p : Pipe} {f : Follower}, w.hub.pipes[n]? = some p →
    p.follower = some f → f.isActive = true → p.senderOpen = true → p.receiverOpen = true

section Calm

variable {w w' : World} {l : Label} {number : Nat} {query : Query} {p p' : Pipe}
  {f f' : Follower}

theorem World.calm_start (cache : Cache) (outlets : Outlets) :
    (World.start cache outlets).Calm where
  aborted h := by cases h
  drained h := by cases h
  received h := by cases h

/-- What comes is handled in order. -/
theorem Flow.pending (flow : Flow number p f l p' f') (hf : p.follower = some f)
    (hf' : p'.follower = some f') :
    p.pending ++ (l.into number).toList = (l.handledBy number).toList ++ p'.pending := by
  unfold Pipe.pending
  rw [hf, hf', Option.bind_some, Option.bind_some]
  cases flow with
  | kept hinto hhandled events holding => simp [hinto, hhandled, events, holding]
  | came hinto hhandled _ events holding => simp [hinto, hhandled, events, holding]
  | taken hinto hhandled _ hholding hevents holding =>
      simp [hinto, hhandled, hholding, hevents, holding]
  | handled hinto hhandled _ hholding events holding =>
      simp [hinto, hhandled, hholding, events, holding]
  | ended hinto hhandled hholding hevents events holding =>
      simp [hinto, hhandled, hholding, hevents, events, holding]

theorem Flow.drained (flow : Flow number p f l p' f') (hf : p.follower = some f)
    (hf' : p'.follower = some f')
    (h : f.isFinished = true → p.pending = [] ∧ p.receiverOpen = false)
    (hfinished : f'.isFinished = true) : p'.pending = [] ∧ p'.receiverOpen = false := by
  have hpending := flow.pending hf hf'
  cases flow with
  | kept hinto hhandled _ _ finished receiver =>
      obtain ⟨hnone, hclosed⟩ := h (finished ▸ hfinished)
      refine ⟨?_, receiver.trans hclosed⟩
      simpa [hinto, hhandled, hnone] using hpending.symm
  | came _ _ hreceiver _ _ finished =>
      rw [(h (finished ▸ hfinished)).2] at hreceiver
      cases hreceiver
  | taken _ _ hrunning _ _ _ finished | handled _ _ hrunning _ _ _ finished =>
      rw [finished, hrunning] at hfinished
      cases hfinished
  | ended _ _ _ _ events holding receiver =>
      exact ⟨by simp [Pipe.pending, hf', holding, events], receiver⟩

/-- Who is active was so before, or has just come. -/
theorem Step.active?_of (step : Step w l w') (h : w'.hub.active? number = some query) :
    w.hub.active? number = some query ∨
      (number = w.hub.nextNumber ∧ w'.hub.Fresh number query) := by
  cases step.feedSide with
  | passed _ hub | concluded _ hub => exact .inl ((hub.active?_eq number).symm.trans h)
  | @fetched q _ _ turns _ fresh =>
      rw [turns.active?_eq] at h
      split at h
      · rename_i hn
        obtain rfl : q = query := by simpa [Follower.create] using h
        exact .inr ⟨hn, hn.symm ▸ fresh⟩
      · exact .inl h
  | registered | stopping => exact .inl h
  | switchedOff =>
      rw [World.calling, World.withHub, (Hub.turns_cancelFollower _ _).active?_eq] at h
      split at h
      · rename_i m _ _ _ _
        cases hm : w.hub.follower? m <;> simp [hm, Follower.cancel] at h
      · exact .inl h
  | served hf part turns =>
      exact .inl ((Hub.active?_of_samePart hf part turns number).symm.trans h)

theorem Hub.active?_eq_some {s : Hub} (h : s.active? number = some query) :
    ∃ p f, s.pipes[number]? = some p ∧ p.follower = some f ∧ f.isActive = true ∧
      f.query = query := by
  obtain ⟨f, hf, hactive⟩ := Option.bind_eq_some_iff.1 h
  obtain ⟨p, hp, hpf⟩ := Option.bind_eq_some_iff.1 hf
  split at hactive
  · rename_i hcond
    exact ⟨p, f, hp, hpf, hcond, by simpa using hactive⟩
  · cases hactive

theorem Hub.active?_of_follower {s : Hub} (hp : s.pipes[number]? = some p)
    (hf : p.follower = some f) (hactive : f.isActive = true) :
    s.active? number = some f.query := by
  rw [active?, follower?_eq hp, hf, Option.bind_some, if_pos hactive]

theorem World.Calm.isAborted_eq_false (h : w.Calm) (hp : w.hub.pipes[number]? = some p)
    (hf : p.follower = some f) (hactive : f.isActive = true) : f.isAborted = false := by
  rw [Bool.eq_false_iff]
  intro haborted
  rw [h.aborted ((Hub.follower?_eq hp).trans hf) haborted] at hactive
  cases hactive

theorem Flow.received (flow : Flow number p f l p' f')
    (h : p.senderOpen = true → p.receiverOpen = true) (hopen : p'.senderOpen = true) :
    p'.receiverOpen = true := by
  have hlasts : p.Lasts p' := by cases flow <;> assumption
  obtain ⟨hsender, hreceiver⟩ := hlasts hopen
  exact hreceiver.trans (h hsender)

/-- A pipe whose follower is active was in use before, or is new. -/
theorem Step.flow_of (step : Step w l w') (h : w.Calm) (hp' : w'.hub.pipes[number]? = some p')
    (hf' : p'.follower = some f') (hactive' : f'.isActive = true) :
    (∃ p f, w.hub.pipes[number]? = some p ∧ p.follower = some f ∧ f.isActive = true ∧
      Flow number p f l p' f') ∨ (f'.isFinished = false ∧ p'.receiverOpen = true) := by
  rcases step.active?_of (Hub.active?_of_follower hp' hf' hactive') with hactive | ⟨-, fresh⟩
  · obtain ⟨p, f, hp, hf, hon, -⟩ := Hub.active?_eq_some hactive
    obtain ⟨p'', f'', hp'', hf'', flow⟩ := step.flow hp hf hon (h.isAborted_eq_false hp hf hon)
    obtain rfl : p'' = p' := by simpa [hp'] using hp''.symm
    obtain rfl : f'' = f' := by simpa [hf'] using hf''.symm
    exact .inl ⟨p, f, hp, hf, hon, flow⟩
  · obtain ⟨p'', hp'', hf'', -, hreceiver⟩ := fresh
    obtain rfl : p'' = p' := by simpa [hp'] using hp''.symm
    rw [hf'] at hf''
    refine .inr ⟨?_, hreceiver⟩
    rw [Option.some.inj hf'']
    rfl

theorem Step.isAborted_of (step : Step w l w') (h : w.Calm)
    (hf : w'.hub.follower? number = some f) (haborted : f.isAborted = true) :
    f.isActive = false := by
  cases step.feedSide with
  | passed _ hub | concluded _ hub =>
      exact h.aborted ((hub.follower?_eq number).symm.trans hf) haborted
  | fetched _ turns =>
      rw [turns.follower?_eq] at hf
      split at hf
      · cases hf
        cases haborted
      · exact h.aborted hf haborted
  | registered | stopping => exact h.aborted hf haborted
  | switchedOff =>
      rw [World.calling, World.withHub, (Hub.turns_cancelFollower _ _).follower?_eq] at hf
      split at hf
      · obtain ⟨f₀, -, rfl⟩ := Option.map_eq_some_iff.1 hf
        rfl
      · exact h.aborted hf haborted
  | @served m f₀ f₁ _ _ hf₀ part turns =>
      rw [turns.follower?_eq] at hf
      split at hf
      · obtain rfl : f₁ = f := by simpa using hf
        rw [part.isAborted_eq] at haborted
        rw [part.isActive_eq]
        exact h.aborted hf₀ haborted
      · exact h.aborted hf haborted

theorem Step.calm (step : Step w l w') (h : w.Calm) : w'.Calm := by
  refine ⟨step.isAborted_of h, ?_, ?_⟩
  · intro n p' f' hp' hf' hactive' hfinished
    rcases step.flow_of h hp' hf' hactive' with ⟨p, f, hp, hf, hactive, flow⟩ | ⟨hrunning, -⟩
    · exact flow.drained hf hf' (h.drained hp hf hactive) hfinished
    · rw [hrunning] at hfinished
      cases hfinished
  · intro n p' f' hp' hf' hactive' hopen
    rcases step.flow_of h hp' hf' hactive' with ⟨p, f, hp, hf, hactive, flow⟩ | ⟨-, hreceiver⟩
    · exact flow.received (h.received hp hf hactive) hopen
    · exact hreceiver

theorem Run.calm {cache : Cache} {outlets : Outlets} {t : Trace}
    (run : Run (.start cache outlets) t w) : w.Calm :=
  run.keeps Step.calm (World.calm_start cache outlets)

end Calm

section Follows

variable {w w' origin : World} {l : Label} {number : Nat} {query : Query}

theorem World.Follows.active?_eq (h : w.Follows query number) (tidy : w.Tidy) :
    w.hub.active? number = some query := by
  rcases h with ⟨hmem, -⟩ | hcall
  · exact tidy.active hmem
  · exact (tidy.registering hcall).1

theorem World.Follows.congr (h : w.Follows query number)
    (hregistry : w'.hub.registry = w.hub.registry) (hcall : w'.call = w.call) :
    w'.Follows query number := by
  unfold World.Follows
  rw [hregistry, hcall]
  exact h

/-- The watch of a query stays in the feed while only other queries are fetched. -/
theorem Step.follows (step : Step w l w') (hl : l.supersedes query = false)
    (h : w.Follows query number) : w'.Follows query number := by
  cases step.feedSide with
  | passed _ hub call => exact h.congr hub.registry_eq call
  | served _ _ turns call => exact h.congr turns.registry_eq call
  | @fetched q _ hcall turns call _ =>
      have hne : q ≠ query := by simpa [Label.supersedes] using hl
      rcases h with ⟨hmem, -⟩ | hregistering
      · refine .inl ⟨turns.registry_eq ▸ hmem, fun m hm => ?_⟩
        rw [call] at hm
        cases hm
        exact hne rfl
      · rw [hcall] at hregistering
        cases hregistering
  | @registered q n hcall =>
      refine .inl ⟨Hub.mem_register.2 ?_, fun m hm => by cases hm⟩
      rcases h with ⟨hmem, hother⟩ | hregistering
      · refine .inr ⟨hmem, ?_⟩
        rintro rfl
        exact hother n hcall
      · rw [hcall] at hregistering
        cases hregistering
        exact .inl ⟨rfl, rfl⟩
  | stopping => cases hl
  | @switchedOff n _ _ hcall =>
      rcases h with ⟨hmem, -⟩ | hregistering
      · have hregistry := (w.hub.turns_cancelFollower n).registry_eq
        exact .inl ⟨hregistry.symm ▸ hmem, fun m hm => by cases hm⟩
      · rw [hcall] at hregistering
        cases hregistering
  | concluded hcall hub call =>
      rcases h with ⟨hmem, -⟩ | hregistering
      · refine .inl ⟨hub.registry_eq ▸ hmem, fun m hm => ?_⟩
        rw [call] at hm
        cases hm
      · rw [hcall] at hregistering
        cases hregistering

theorem Hub.pending_eq {s : Hub} {p : Pipe} (hp : s.pipes[number]? = some p) :
    s.pending number = p.pending := by
  rw [pending, hp]
  rfl

theorem Step.pending (step : Step w l w') (calm : w.Calm)
    (h : w.hub.active? number = some query) :
    w.hub.pending number ++ (l.into number).toList =
      (l.handledBy number).toList ++ w'.hub.pending number := by
  obtain ⟨p, f, hp, hf, hactive, -⟩ := Hub.active?_eq_some h
  obtain ⟨p', f', hp', hf', flow⟩ := step.flow hp hf hactive
    (calm.isAborted_eq_false hp hf hactive)
  rw [Hub.pending_eq hp, Hub.pending_eq hp']
  exact flow.pending hf hf'

theorem Run.follows {t : Trace} (run : Run origin t w)
    (ht : ∀ m ∈ t, m.label.supersedes query = false) (h : origin.Follows query number) :
    w.Follows query number := by
  induction run with
  | nil => exact h
  | snoc run step ih =>
      have hl := ht _ (List.mem_append_right _ List.mem_cons_self)
      exact step.follows hl (ih fun m hm => ht m (List.mem_append_left _ hm))

/-- What comes to a watch that stays in the feed is handled in order. -/
theorem Run.pending {t : Trace} (run : Run origin t w) (tidy : origin.Tidy) (calm : origin.Calm)
    (h : origin.Follows query number) (ht : ∀ m ∈ t, m.label.supersedes query = false) :
    origin.hub.pending number ++ t.into number = t.handled number ++ w.hub.pending number := by
  induction run with
  | nil => simp [Trace.into, Trace.handled]
  | @snoc t w w' l run step ih =>
      have hpast : ∀ m ∈ t, m.label.supersedes query = false :=
        fun m hm => ht m (List.mem_append_left _ hm)
      have hactive := (run.follows hpast h).active?_eq (run.keeps Step.tidy tidy)
      rw [Trace.into_snoc, Trace.handled_snoc, ← List.append_assoc, ih hpast, List.append_assoc,
        step.pending (run.keeps Step.calm calm) hactive, List.append_assoc]

/-- What a watch that stays in the feed tells is emitted. -/
theorem Run.emitted {t : Trace} (run : Run origin t w) (tidy : origin.Tidy)
    (h : origin.Follows query number) (ht : ∀ m ∈ t, m.label.supersedes query = false) :
    t.emitted number = (t.handled number).filterMap (Event.publication query.operation) := by
  induction run with
  | nil => rfl
  | @snoc t w w' l run step ih =>
      have hpast : ∀ m ∈ t, m.label.supersedes query = false :=
        fun m hm => ht m (List.mem_append_left _ hm)
      have hactive := (run.follows hpast h).active?_eq (run.keeps Step.tidy tidy)
      rw [Trace.emitted_snoc, ih hpast, step.emitted hactive, Trace.handled_snoc,
        List.filterMap_append]

end Follows

section Handling

variable {s : Hub} {number : Nat} {p : Pipe} {f : Follower} {event : Event}

theorem World.handled_follower {w : World} {hub : Hub} (h : w.hub.stepFollower number = some hub)
    (ds : List Deed) :
    (w.trace (.follower number :: ds)).handled number =
      (w.hub.handling? number).toList ++ ((w.withHub hub).trace ds).handled number := by
  have hperform : w.perform (.follower number) =
      some ⟨w.hub.followerLabel number, w.withHub hub⟩ := by
    rw [World.perform, h]
    rfl
  rw [World.trace, hperform]
  dsimp only
  rw [Trace.handled_cons, (Label.of_followerLabel w.hub number number).2, if_pos rfl]

theorem World.exists_take {w : World} {events : List Event} (hp : w.hub.pipes[number]? = some p)
    (hf : p.follower = some f) (hrunning : f.isFinished = false) (hholding : f.holding = none)
    (hevents : p.events = event :: events) :
    ∃ w' : World, w'.hub.pipes[number]? =
        some { p with events, follower := some { f with holding := some event } } ∧
      ∀ ds, (w.trace (.follower number :: ds)).handled number = (w'.trace ds).handled number := by
  have hstep : w.hub.stepFollower number =
      some (w.hub.setFollower number { p with events } { f with holding := some event }) := by
    simp [Hub.stepFollower, hp, hf, hrunning, hholding, hevents]
  refine ⟨w.withHub _, (Hub.getElem?_setPipe hp _ _).trans (if_pos rfl), fun ds => ?_⟩
  rw [World.handled_follower hstep, Hub.handling?_eq hp hf hrunning, hholding, ite_self]
  rfl

theorem World.exists_handle {w : World} (hp : w.hub.pipes[number]? = some p)
    (hf : p.follower = some f) (hactive : f.isActive = true) (hrunning : f.isFinished = false)
    (hholding : f.holding = some event) :
    ∃ w' : World, w'.hub.pipes[number]? =
        some { p with follower := some { f with holding := none } } ∧
      ∀ ds, (w.trace (.follower number :: ds)).handled number =
        event :: (w'.trace ds).handled number := by
  let hub := (w.hub.setFollower number p { f with holding := none }).handle f.query.operation event
  have hstep : w.hub.stepFollower number = some hub := by
    simp [Hub.stepFollower, hp, hf, hrunning, hactive, hholding, hub]
  refine ⟨w.withHub hub, ?_, fun ds => ?_⟩
  · dsimp only [World.withHub, hub]
    rw [(Hub.handle_eq _ _ _).1]
    exact (Hub.getElem?_setPipe hp _ _).trans (if_pos rfl)
  · rw [World.handled_follower hstep, Hub.handling?_eq hp hf hrunning, if_pos hactive, hholding]
    rfl

/-- A follower that goes on can handle all that has come, two steps an event. -/
theorem World.exists_handled {events : List Event} {w : World}
    (hp : w.hub.pipes[number]? = some p) (hf : p.follower = some f)
    (hactive : f.isActive = true) (hrunning : f.isFinished = false) (h : p.pending = events) :
    ∃ k, (w.trace (List.replicate k (.follower number))).handled number = events := by
  induction events generalizing w p f with
  | nil => exact ⟨0, rfl⟩
  | cons event events ih =>
      have held : ∀ {w : World} {p : Pipe} {f : Follower}, w.hub.pipes[number]? = some p →
          p.follower = some f → f.isActive = true → f.isFinished = false →
          f.holding = some event → p.events = events →
          ∃ k, (w.trace (List.replicate k (.follower number))).handled number =
            event :: events := by
        intro w p f hp hf hactive hrunning hholding hevents
        obtain ⟨w', hp', hhandled⟩ := World.exists_handle hp hf hactive hrunning hholding
        obtain ⟨k, hk⟩ := ih hp' rfl hactive hrunning (by simp [Pipe.pending, hevents])
        exact ⟨k + 1, by rw [List.replicate_succ, hhandled, hk]⟩
      rw [Pipe.pending, hf, Option.bind_some] at h
      cases hholding : f.holding with
      | some event' =>
          rw [hholding] at h
          cases h
          exact held hp hf hactive hrunning hholding rfl
      | none =>
          rw [hholding] at h
          obtain ⟨w', hp', hhandled⟩ := World.exists_take hp hf hrunning hholding h
          obtain ⟨k, hk⟩ := held hp' rfl hactive hrunning rfl rfl
          exact ⟨k + 1, by rw [List.replicate_succ, hhandled, hk]⟩

/-- What has come to a watch in the feed can be handled at any time by its follower alone. -/
theorem World.Follows.exists_handled {w : World} {query : Query} (h : w.Follows query number)
    (tidy : w.Tidy) (calm : w.Calm) :
    ∃ k, (w.trace (List.replicate k (.follower number))).handled number =
      w.hub.pending number := by
  obtain ⟨p, f, hp, hf, hactive, -⟩ := Hub.active?_eq_some (h.active?_eq tidy)
  rw [Hub.pending_eq hp]
  cases hfinished : f.isFinished with
  | true =>
      rw [(calm.drained hp hf hactive hfinished).1]
      exact ⟨0, rfl⟩
  | false => exact World.exists_handled hp hf hactive hfinished rfl

end Handling
end RepoWatch
