import RepoWatch.Proofs.Feed.Registry
import RepoWatch.Proofs.Watch.Advance
/-!
# The flow of events through a pipe

What a step does to a pipe whose follower is active: an event comes, or is taken, or is handled, or
the follower ends because none can come. Events are handled in the order in which they come, and
none is lost.
-/

namespace RepoWatch

/-- The sending end does not open again, and the receiving end is left alone while it is open. -/
def Pipe.Lasts (p p' : Pipe) : Prop :=
  p'.senderOpen = true → p.senderOpen = true ∧ p'.receiverOpen = p.receiverOpen

/-- What a step does to a pipe whose follower is active. -/
inductive Flow (number : Nat) (p : Pipe) (f : Follower) (l : Label) (p' : Pipe) (f' : Follower) :
    Prop where
  | kept (hinto : l.into number = none) (hhandled : l.handledBy number = none)
      (events : p'.events = p.events) (holding : f'.holding = f.holding)
      (finished : f'.isFinished = f.isFinished) (receiver : p'.receiverOpen = p.receiverOpen)
      (lasts : p.Lasts p')
  | came {event : Event} (hinto : l.into number = some event)
      (hhandled : l.handledBy number = none) (hreceiver : p.receiverOpen = true)
      (events : p'.events = p.events ++ [event]) (holding : f'.holding = f.holding)
      (finished : f'.isFinished = f.isFinished) (lasts : p.Lasts p')
      (receiver : p'.receiverOpen = p.receiverOpen)
  | taken {event : Event} (hinto : l.into number = none) (hhandled : l.handledBy number = none)
      (hrunning : f.isFinished = false) (hholding : f.holding = none)
      (hevents : p.events = event :: p'.events) (holding : f'.holding = some event)
      (finished : f'.isFinished = f.isFinished) (lasts : p.Lasts p')
      (receiver : p'.receiverOpen = p.receiverOpen)
  | handled {event : Event} (hinto : l.into number = none)
      (hhandled : l.handledBy number = some event) (hrunning : f.isFinished = false)
      (hholding : f.holding = some event) (events : p'.events = p.events)
      (holding : f'.holding = none) (finished : f'.isFinished = f.isFinished)
      (lasts : p.Lasts p') (receiver : p'.receiverOpen = p.receiverOpen)
  | ended (hinto : l.into number = none) (hhandled : l.handledBy number = none)
      (hholding : f.holding = none) (hevents : p.events = []) (events : p'.events = [])
      (holding : f'.holding = none) (receiver : p'.receiverOpen = false) (lasts : p.Lasts p')
      (hsender : p.senderOpen = false)

section Flow

variable {w w' : World} {l : Label} {number : Nat} {p p' : Pipe} {f : Follower}

theorem Pipe.Lasts.refl (p : Pipe) : p.Lasts p := fun h => ⟨h, rfl⟩

theorem Pipe.lasts_withWatch (x : Watch) (h : p'.senderOpen = p.senderOpen)
    (hreceiver : p'.receiverOpen = p.receiverOpen) : p.Lasts (p'.withWatch x) := by
  intro hopen
  simp only [Pipe.withWatch, Bool.and_eq_true] at hopen
  exact ⟨h ▸ hopen.1, hreceiver⟩

theorem Flow.unseen (hinto : l.into number = none) (hhandled : l.handledBy number = none) :
    Flow number p f l p f :=
  .kept hinto hhandled rfl rfl rfl rfl (.refl p)

/-- What happens to one pipe is seen at this pipe only. -/
theorem flow_setPipe {s s' : Hub} {m : Nat} {p₀ : Pipe} (p₁ : Pipe)
    (hp : s.pipes[number]? = some p) (hf : p.follower = some f) (hp₀ : s.pipes[m]? = some p₀)
    (hpipes : s'.pipes = (s.setPipe m p₁).pipes)
    (hother : m ≠ number → l.into number = none ∧ l.handledBy number = none)
    (hsame : m = number → p₀ = p → ∃ f', p₁.follower = some f' ∧ Flow number p f l p₁ f') :
    ∃ p' f', s'.pipes[number]? = some p' ∧ p'.follower = some f' ∧ Flow number p f l p' f' := by
  rw [hpipes, Hub.getElem?_setPipe hp₀]
  by_cases hn : m = number
  · have heq : p₀ = p := by
      subst hn
      simpa [hp₀] using hp
    obtain ⟨f', hf', flow⟩ := hsame hn heq
    exact ⟨p₁, f', if_pos hn, hf', flow⟩
  · obtain ⟨hinto, hhandled⟩ := hother hn
    exact ⟨p, f, (if_neg hn).trans hp, hf, .unseen hinto hhandled⟩

/-- A watch that moves without a word is not noticed. -/
theorem flow_moveWatch {s : Hub} {m : Nat} {p₀ : Pipe} (x y : Watch)
    (hp : s.pipes[number]? = some p) (hf : p.follower = some f) (hp₀ : s.pipes[m]? = some p₀)
    (hinto : l.into number = none) (hhandled : l.handledBy number = none) :
    ∃ p' f', (s.moveWatch m p₀ x y).pipes[number]? = some p' ∧ p'.follower = some f' ∧
      Flow number p f l p' f' := by
  refine flow_setPipe (s := { s with cache := _ }) (p₀.withWatch y) hp hf hp₀ rfl
    (fun _ => ⟨hinto, hhandled⟩) fun _ heq => ?_
  subst heq
  exact ⟨f, hf, .kept hinto hhandled rfl rfl rfl rfl (p₀.lasts_withWatch y rfl rfl)⟩

/-- What a watch sends comes into its pipe, and nothing else does by a step of it. -/
theorem flow_stepWatch {s : Hub} {m : Nat} {hub : Hub} {effect : Effect} (query : Query)
    (h : s.stepWatch m = some (hub, effect)) (hp : s.pipes[number]? = some p)
    (hf : p.follower = some f) :
    ∃ p' f', hub.pipes[number]? = some p' ∧ p'.follower = some f' ∧
      Flow number p f (effect.label m query s.cache) p' f' := by
  obtain ⟨p₀, x₀, y, hp₀, hx₀, hstep, rfl⟩ := Hub.stepWatch_eq_some h
  refine flow_setPipe (s := { s with cache := _ }) ((p₀.deliver effect).withWatch y) hp hf hp₀ rfl
    ?_ ?_
  · intro hne
    cases effect <;> simp [Effect.label, Label.into, Label.handledBy, hne]
  · rintro rfl rfl
    refine ⟨f, by simp [Pipe.withWatch, hf], ?_⟩
    have hinto := Label.into_effect effect m m query s.cache
    have hhandled : (effect.label m query s.cache).handledBy m = none := by cases effect <;> rfl
    rw [if_pos rfl] at hinto
    cases hevent : effect.event? with
    | some event =>
        have hsent := Label.sentBy_effect effect m m x₀.query s.cache
        rw [if_pos rfl, hevent] at hsent
        have advance := (Moves.step hstep : Moves m _ _ _ _ _ _).advance
        have hheard := advance.heard_of_sentBy hsent
        rw [Hub.deliver_of_some hevent hheard]
        exact .came (hinto.trans hevent) hhandled hheard rfl rfl rfl
          (Pipe.lasts_withWatch y rfl rfl) rfl
    | none =>
        rw [Hub.deliver_of_none hevent]
        exact .kept (hinto.trans hevent) hhandled rfl rfl rfl rfl (p₀.lasts_withWatch y rfl rfl)

theorem Hub.finishFollower_eq {s : Hub} {m : Nat} (hp : s.pipes[m]? = some p)
    (hf : p.follower = some f) (hrunning : f.isFinished = false) :
    (s.finishFollower m).pipes =
      (s.setPipe m { p.hangUp with follower := some f.finish }).pipes := by
  rw [Hub.finishFollower, hp]
  simp only [hf, hrunning]
  rfl

theorem Hub.handling?_eq {s : Hub} {m : Nat} (hp : s.pipes[m]? = some p)
    (hf : p.follower = some f) (hrunning : f.isFinished = false) :
    s.handling? m = if f.isActive then f.holding else none := by
  rw [Hub.handling?, hp, Option.bind_some, hf]
  simp [hrunning]

theorem Label.of_followerLabel (s : Hub) (m number : Nat) :
    (s.followerLabel m).into number = none ∧
      (s.followerLabel m).handledBy number = if m = number then s.handling? m else none := by
  unfold Hub.followerLabel
  cases s.handling? m <;> simp [Label.into, Label.handledBy]

/-- A follower that makes a step takes an event, or handles it, or ends because none can come. -/
theorem flow_stepFollower {s s' : Hub} {m : Nat} (h : s.stepFollower m = some s')
    (hp : s.pipes[number]? = some p) (hf : p.follower = some f) (hactive : f.isActive = true) :
    ∃ p' f', s'.pipes[number]? = some p' ∧ p'.follower = some f' ∧
      Flow number p f (s.followerLabel m) p' f' := by
  obtain ⟨p₀, f₀, hp₀, hf₀, hrunning, hcases⟩ := Hub.stepFollower_cases h
  obtain ⟨hinto, hhandled⟩ := Label.of_followerLabel s m number
  have hother : m ≠ number →
      (s.followerLabel m).into number = none ∧ (s.followerLabel m).handledBy number = none :=
    fun hne => ⟨hinto, hhandled.trans (if_neg hne)⟩
  rw [Hub.handling?_eq hp₀ hf₀ hrunning] at hhandled
  have hsame : m = number → p₀ = p → f₀ = f ∧
      (s.followerLabel m).handledBy number = f.holding := by
    rintro hm rfl
    obtain rfl : f₀ = f := by simpa [hf₀] using hf
    exact ⟨rfl, by rw [hhandled, if_pos hm, if_pos hactive]⟩
  rcases hcases with ⟨event, hholding, -, rfl⟩ | ⟨-, hinactive, rfl⟩ | ⟨event, events, hholding,
    hevents, rfl⟩ | ⟨hholding, hevents, hsender, rfl⟩
  · let f₁ : Follower := { f₀ with holding := none }
    refine flow_setPipe { p₀ with follower := some f₁ } hp hf hp₀ (Hub.handle_eq _ _ _).1 hother
      fun hm heq => ?_
    obtain ⟨rfl, hlabel⟩ := hsame hm heq
    subst heq
    exact ⟨f₁, rfl, .handled hinto (hlabel.trans hholding) hrunning hholding rfl rfl rfl
      (.refl p₀) rfl⟩
  · refine flow_setPipe _ hp hf hp₀ (Hub.finishFollower_eq hp₀ hf₀ hrunning) hother
      fun hm heq => ?_
    obtain ⟨rfl, -⟩ := hsame hm heq
    rw [hactive] at hinactive
    cases hinactive
  · let f₁ : Follower := { f₀ with holding := some event }
    refine flow_setPipe { p₀ with events, follower := some f₁ } hp hf hp₀ rfl hother
      fun hm heq => ?_
    obtain ⟨rfl, hlabel⟩ := hsame hm heq
    subst heq
    exact ⟨f₁, rfl, .taken hinto (hlabel.trans hholding) hrunning hholding hevents rfl rfl
      (.refl p₀) rfl⟩
  · refine flow_setPipe _ hp hf hp₀ (Hub.finishFollower_eq hp₀ hf₀ hrunning) hother
      fun hm heq => ?_
    obtain ⟨rfl, hlabel⟩ := hsame hm heq
    subst heq
    refine ⟨f₀.finish, rfl, .ended hinto (hlabel.trans hholding) hholding hevents rfl rfl rfl ?_
      hsender⟩
    intro hopen
    rw [show p₀.senderOpen = true from hopen] at hsender
    cases hsender

private theorem flow_elsewhere (hp : w'.hub.pipes[number]? = some p) (hf : p.follower = some f)
    (hinto : l.into number = none) (hhandled : l.handledBy number = none) :
    ∃ p' f', w'.hub.pipes[number]? = some p' ∧ p'.follower = some f' ∧ Flow number p f l p' f' :=
  ⟨p, f, hp, hf, .unseen hinto hhandled⟩

theorem Step.flow (step : Step w l w') (hp : w.hub.pipes[number]? = some p)
    (hf : p.follower = some f) (hactive : f.isActive = true) (haborted : f.isAborted = false) :
    ∃ p' f', w'.hub.pipes[number]? = some p' ∧ p'.follower = some f' ∧ Flow number p f l p' f' := by
  have hlt := (List.getElem?_eq_some_iff.1 hp).1
  cases step with
  | openWatch =>
      exact flow_elsewhere ((List.getElem?_append_left hlt).trans hp) hf rfl rfl
  | watch _ h => exact flow_stepWatch _ h hp hf
  | overhear h =>
      obtain ⟨p₀, x, y, effect, hp₀, -, -, -, -, rfl⟩ := Hub.overhear_eq_some h
      exact flow_moveWatch x y hp hf hp₀ rfl rfl
  | answer outcome hx =>
      obtain ⟨p₀, hp₀, hx⟩ := Hub.watch?_eq_some hx
      rw [Hub.answerWatch_eq hp₀ hx]
      exact flow_moveWatch _ _ hp hf hp₀ rfl rfl
  | crash hx =>
      obtain ⟨p₀, hp₀, hx⟩ := Hub.watch?_eq_some hx
      rw [Hub.crashWatch_eq hp₀ hx]
      exact flow_moveWatch _ _ hp hf hp₀ rfl rfl
  | store | storeEqual | announce | erase | clear | retain | release | subscribers | journal
  | register | cancel | drop =>
      exact flow_elsewhere hp hf rfl rfl
  | conclude =>
      refine flow_elsewhere ?_ hf rfl rfl
      rename_i ending _
      cases ending <;> exact hp
  | @hangUp m p₀ hp₀ hnone =>
      refine flow_setPipe p₀.hangUp hp hf hp₀ (by simp [World.withHub, Hub.hangUp, hp₀])
        (fun _ => ⟨rfl, rfl⟩) fun _ heq => ?_
      subst heq
      rw [hnone] at hf
      cases hf
  | @receive m p₀ event events hp₀ hnone =>
      refine flow_setPipe _ hp hf hp₀ rfl (fun _ => ⟨rfl, rfl⟩) fun _ heq => ?_
      subst heq
      rw [hnone] at hf
      cases hf
  | @feed m p₀ event hp₀ _ _ hreceiver =>
      refine flow_setPipe (p₀.send event) hp hf hp₀
        (by simp [World.withHub, Hub.sendEvent, hp₀]) (fun hne => ?_) fun hm heq => ?_
      · simp [Label.into, Label.handledBy, hne]
      · subst heq
        subst hm
        have hsend : p₀.send event = { p₀ with events := p₀.events ++ [event] } := if_pos hreceiver
        rw [hsend]
        exact ⟨f, hf, .came (by simp [Label.into]) rfl hreceiver rfl rfl rfl (.refl p₀) rfl⟩
  | @closeSender m p₀ hp₀ =>
      refine flow_setPipe p₀.closeSender hp hf hp₀ (by simp [World.withHub, Hub.closeSender, hp₀])
        (fun _ => ⟨rfl, rfl⟩) fun _ heq => ?_
      subst heq
      have lasts : p₀.Lasts p₀.closeSender := by
        intro hopen
        cases hopen
      exact ⟨f, hf, .kept rfl rfl rfl rfl rfl rfl lasts⟩
  | fetch backend query =>
      refine flow_elsewhere ?_ hf rfl rfl
      obtain ⟨p₁, hpipes, -⟩ := (w.hub.note (.fetching query)).openFor_eq backend query
      have hnext : ((w.hub.note (.fetching query)).openFor backend query).pipes[w.hub.nextNumber]? =
          some p₁ := by
        rw [hpipes]
        exact List.getElem?_concat_length
      have hne : w.hub.nextNumber ≠ number := Nat.ne_of_gt hlt
      have hset := Hub.getElem?_setPipe hnext { p₁ with follower := some (.create query) } number
      rw [if_neg hne, hpipes] at hset
      replace hset := hset.trans (List.getElem?_append_left hlt)
      exact (congrArg (·[number]?) (Hub.attach_eq query hnext)).trans (hset.trans hp)
  | @switchOff m numbers ending hcall =>
      dsimp only [World.calling, World.withHub]
      unfold Hub.cancelFollower
      split
      · rename_i p₀ hp₀
        split
        · rename_i f₀ hf₀
          refine flow_setPipe _ hp hf hp₀ rfl (fun _ => ⟨rfl, rfl⟩) fun _ heq => ?_
          subst heq
          obtain rfl : f₀ = f := by simpa [hf₀] using hf
          exact ⟨f₀.cancel, rfl, .kept rfl rfl rfl rfl rfl rfl (.refl p₀)⟩
        · exact ⟨p, f, hp, hf, .unseen rfl rfl⟩
      · exact ⟨p, f, hp, hf, .unseen rfl rfl⟩
  | follower h => exact flow_stepFollower h hp hf hactive
  | @abort m p₀ f₀ hp₀ hf₀ habort =>
      cases hrunning : f₀.isFinished with
      | true =>
          refine flow_elsewhere ?_ hf rfl rfl
          simpa [World.withHub, Hub.finishFollower, hp₀, hf₀, hrunning] using hp
      | false =>
          refine flow_setPipe _ hp hf hp₀ (Hub.finishFollower_eq hp₀ hf₀ hrunning)
            (fun _ => ⟨rfl, rfl⟩) fun _ heq => ?_
          subst heq
          obtain rfl : f₀ = f := by simpa [hf₀] using hf
          rw [habort] at haborted
          cases haborted

end Flow
end RepoWatch
