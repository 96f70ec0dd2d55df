import RepoWatch.Proofs.Cache.Entries
import RepoWatch.Proofs.World.Spares
import RepoWatch.Proofs.World.Trace
/-!
# What a step does to the watches and the cache

Every step either leaves the watches alone, or opens one, or moves one, or is made by somebody else
at the cache. All that is proved of a watch starts from this case distinction.
-/

namespace RepoWatch

/-- What a watch can become, seen from the watch itself: by a step of its own, by noticing a change
before it notices that its receiver is gone, or by what comes of its request. -/
inductive Moves (number : Nat) (x : Watch) (heard : Bool) (cache : Cache) :
    Label → Effect → Watch → Prop where
  | step {x' : Watch} {effect : Effect} (h : x.step heard cache = some (x', effect)) :
      Moves number x heard cache (effect.label number x.query cache) effect x'
  | overhear {x' : Watch} {effect : Effect} (hlistening : x.isListening = true)
      (hgone : heard = false) (h : x.step true cache = some (x', effect)) :
      Moves number x heard cache .silent .none x'
  | answer (outcome : Except ErrorChain Json) (hfetching : x.isFetching = true) :
      Moves number x heard cache (.answered number outcome) .none (x.answer heard outcome)
  | crash (hfetching : x.isFetching = true) :
      Moves number x heard cache (.crashed number) .none (x.goTo .stopped)

/-- Labels of steps that concern neither a watch nor the cache. -/
def Label.isSpare : Label → Bool
  | .silent | .fed .. | .handled .. | .fetched .. | .stopping | .returned _ => true
  | _ => false

/-- What a step does to the watches and the cache. -/
inductive CacheSide (w : World) : Label → World → Prop where
  | spared {l : Label} {w' : World} (hspare : l.isSpare = true) (hub : w.hub.Spares w'.hub)
      (unannounced : w'.unannounced = w.unannounced) (owners : w'.owners = w.owners) :
      CacheSide w l w'
  | opened {l : Label} {w' : World} {s : Hub} {o : Option Watch} (hspare : l.isSpare = true)
      (fresh : ∀ x, o = some x → ∃ query policy, x = .create w.hub.cache query policy)
      (pipes : ∃ p : Pipe, p.watch = o ∧ p.senderOpen = true ∧ s.pipes = w.hub.pipes ++ [p])
      (cache : s.cache = if o.isSome then w.hub.cache.retain else w.hub.cache)
      (hub : s.Spares w'.hub) (unannounced : w'.unannounced = w.unannounced)
      (owners : w'.owners = w.owners) : CacheSide w l w'
  | moved {l : Label} {hub : Hub} {number : Nat} {x x' : Watch} {effect : Effect}
      (hx : w.hub.watch? number = some x)
      (moves : Moves number x (w.hub.isReceived number) w.hub.cache l effect x')
      (watches : hub.watches = w.hub.watches.set number (some x'))
      (senders : ∀ isOpen, w.hub.senders[number]? = some (some isOpen) →
        hub.senders = w.hub.senders.set number (some (isOpen && !x'.isStopped)))
      (cache : hub.cache = x.leave x' (effect.applyTo x.query w.hub.cache))
      (received : ∀ n, hub.isReceived n = w.hub.isReceived n) :
      CacheSide w l (w.withHub hub)
  | stored {query : Query} {data : Json} (h : w.hub.cache.holds query data = false) :
      CacheSide w (.put none query data true)
        { w.withCache (w.hub.cache.insert query data) with
          unannounced := query :: w.unannounced }
  | storedEqual {query : Query} {data : Json} (h : w.hub.cache.holds query data = true) :
      CacheSide w (.put none query data false) w
  | announced {query : Query} (h : query ∈ w.unannounced) :
      CacheSide w (.announced query)
        { w.withCache (w.hub.cache.announce query) with
          unannounced := w.unannounced.erase query }
  | removed {cache : Cache}
      (entries : ∀ q, cache.get? q = w.hub.cache.get? q ∨ cache.get? q = none)
      (changes : cache.changes = w.hub.cache.changes)
      (holders : cache.holders = w.hub.cache.holders) :
      CacheSide w .removed (w.withCache cache)
  | retained :
      CacheSide w .silent { w.withCache w.hub.cache.retain with owners := w.owners + 1 }
  | released (h : 0 < w.owners) :
      CacheSide w .silent { w.withCache w.hub.cache.release with owners := w.owners - 1 }

namespace Hub

theorem watch?_eq_some {s : Hub} {number : Nat} {x : Watch} (h : s.watch? number = some x) :
    ∃ p, s.pipes[number]? = some p ∧ p.watch = some x :=
  Option.bind_eq_some_iff.1 h

theorem isReceived_eq {s : Hub} {number : Nat} {p : Pipe} (hp : s.pipes[number]? = some p) :
    s.isReceived number = p.receiverOpen := by
  simp [isReceived, hp]

theorem deliver_of_none {effect : Effect} (h : effect.event? = none) (p : Pipe) :
    p.deliver effect = p := by
  rw [Pipe.deliver, h]

/-- What an effect sends comes last in the queue, if it is received. -/
theorem deliver_of_some {p : Pipe} {effect : Effect} {event : Event}
    (h : effect.event? = some event) (hreceiver : p.receiverOpen = true) :
    p.deliver effect = { p with events := p.events ++ [event] } := by
  rw [Pipe.deliver, h]
  exact if_pos hreceiver

@[simp] theorem deliver_receiverOpen (p : Pipe) (effect : Effect) :
    (p.deliver effect).receiverOpen = p.receiverOpen := by
  unfold Pipe.deliver Pipe.send
  split
  · split <;> rfl
  · rfl

@[simp] theorem deliver_senderOpen (p : Pipe) (effect : Effect) :
    (p.deliver effect).senderOpen = p.senderOpen := by
  unfold Pipe.deliver Pipe.send
  split
  · split <;> rfl
  · rfl

theorem watches_moveWatch (s : Hub) (number : Nat) (p : Pipe) (x x' : Watch) :
    (s.moveWatch number p x x').watches = s.watches.set number (some x') :=
  watches_setPipe _ _ _

theorem senders_moveWatch (s : Hub) (number : Nat) (p : Pipe) (x x' : Watch) :
    (s.moveWatch number p x x').senders =
      s.senders.set number (some (p.senderOpen && !x'.isStopped)) :=
  senders_setPipe _ _ _

theorem isReceived_moveWatch {s : Hub} {number : Nat} {p p' : Pipe}
    (hp : s.pipes[number]? = some p) (hreceiver : p'.receiverOpen = p.receiverOpen)
    (x x' : Watch) (n : Nat) :
    (s.moveWatch number p' x x').isReceived n = s.isReceived n := by
  rw [moveWatch, isReceived_setPipe]
  split
  · rename_i h
    rw [← h.1, isReceived_eq hp]
    exact hreceiver
  · rfl

/-- A watch makes a step when the watch of its pipe does. -/
theorem stepWatch_eq_some {s s' : Hub} {number : Nat} {effect : Effect}
    (h : s.stepWatch number = some (s', effect)) :
    ∃ p x x', s.pipes[number]? = some p ∧ p.watch = some x ∧
      x.step p.receiverOpen s.cache = some (x', effect) ∧
      s' = { s with cache := effect.applyTo x.query s.cache }.moveWatch number
        (p.deliver effect) x x' := by
  unfold stepWatch at h
  obtain ⟨p, hp, h⟩ := Option.bind_eq_some_iff.1 h
  obtain ⟨x, hx, h⟩ := Option.bind_eq_some_iff.1 h
  obtain ⟨⟨x', effect'⟩, hstep, h⟩ := Option.bind_eq_some_iff.1 h
  cases h
  exact ⟨p, x, x', hp, hx, hstep, rfl⟩

theorem stepWatch_eq {s : Hub} {number : Nat} {p : Pipe} {x x' : Watch} {effect : Effect}
    (hp : s.pipes[number]? = some p) (hx : p.watch = some x)
    (h : x.step p.receiverOpen s.cache = some (x', effect)) :
    s.stepWatch number = some ({ s with cache := effect.applyTo x.query s.cache }.moveWatch number
      (p.deliver effect) x x', effect) := by
  simp [stepWatch, hp, hx, h]

/-- A watch waits when the watch of its pipe does. -/
theorem step_eq_none {s : Hub} {number : Nat} {x : Watch} (hx : s.watch? number = some x)
    (h : s.stepWatch number = none) : x.step (s.isReceived number) s.cache = none := by
  obtain ⟨p, hp, hx⟩ := watch?_eq_some hx
  rw [isReceived_eq hp]
  cases hstep : x.step p.receiverOpen s.cache with
  | none => rfl
  | some next => simp [stepWatch, hp, hx, hstep] at h

theorem overhear_eq_some {s s' : Hub} {number : Nat} (h : s.overhear number = some s') :
    ∃ p x x' effect, s.pipes[number]? = some p ∧ p.watch = some x ∧ x.isListening = true ∧
      p.receiverOpen = false ∧ x.step true s.cache = some (x', effect) ∧
      s' = s.moveWatch number p x x' := by
  unfold overhear at h
  obtain ⟨p, hp, h⟩ := Option.bind_eq_some_iff.1 h
  obtain ⟨x, hx, h⟩ := Option.bind_eq_some_iff.1 h
  split at h
  · rename_i hcond
    obtain ⟨⟨x', effect⟩, hstep, h⟩ := Option.bind_eq_some_iff.1 h
    cases h
    rw [Bool.and_eq_true, Bool.not_eq_true'] at hcond
    exact ⟨p, x, x', effect, hp, hx, hcond.1, hcond.2, hstep, rfl⟩
  · cases h

theorem answerWatch_eq {s : Hub} {number : Nat} {p : Pipe} {x : Watch}
    (hp : s.pipes[number]? = some p) (hx : p.watch = some x) (outcome : Except ErrorChain Json) :
    s.answerWatch number outcome = s.moveWatch number p x (x.answer p.receiverOpen outcome) := by
  simp [answerWatch, hp, hx]

theorem crashWatch_eq {s : Hub} {number : Nat} {p : Pipe} {x : Watch}
    (hp : s.pipes[number]? = some p) (hx : p.watch = some x) :
    s.crashWatch number = s.moveWatch number p x (x.goTo .stopped) := by
  simp [crashWatch, hp, hx]

end Hub

/-- A move of the watch in a pipe, by whatever makes it. -/
theorem CacheSide.of_moveWatch {w : World} {number : Nat} {p p' : Pipe} {x x' : Watch}
    {l : Label} (effect : Effect) (hp : w.hub.pipes[number]? = some p) (hx : p.watch = some x)
    (hsender : p'.senderOpen = p.senderOpen) (hreceiver : p'.receiverOpen = p.receiverOpen)
    (moves : Moves number x p.receiverOpen w.hub.cache l effect x') :
    CacheSide w l (w.withHub
      ({ w.hub with cache := effect.applyTo x.query w.hub.cache }.moveWatch number p' x x')) := by
  rw [← Hub.isReceived_eq hp] at moves
  refine .moved (by simp [Hub.watch?, hp, hx]) moves ?_ ?_ rfl ?_
  · exact Hub.watches_moveWatch _ _ _ _ _
  · intro isOpen hopen
    obtain rfl : p.senderOpen = isOpen := by
      simpa [Hub.senders, Pipe.sender, hp, hx] using hopen
    rw [← hsender]
    exact Hub.senders_moveWatch _ _ _ _ _
  · intro n
    exact Hub.isReceived_moveWatch (s := { w.hub with cache := _ }) hp hreceiver x x' n

theorem Hub.followerLabel_isSpare (s : Hub) (number : Nat) :
    (s.followerLabel number).isSpare = true := by
  unfold followerLabel
  split <;> rfl

theorem Step.cacheSide {w w' : World} {l : Label} (h : Step w l w') : CacheSide w l w' := by
  cases h with
  | openWatch query policy =>
      refine .opened (s := w.hub.openWatch query policy)
        (o := some (.create w.hub.cache query policy)) rfl ?_ ⟨_, rfl, rfl, rfl⟩ rfl
        (.refl _) rfl rfl
      rintro x ⟨⟩
      exact ⟨query, policy, rfl⟩
  | watch hx h =>
      obtain ⟨p, x', y, hp, hx', hstep, rfl⟩ := Hub.stepWatch_eq_some h
      obtain rfl : x' = _ := by simpa [Hub.watch?, hp, hx'] using hx
      exact .of_moveWatch _ hp hx' (Hub.deliver_senderOpen p _) (Hub.deliver_receiverOpen p _)
        (.step hstep)
  | overhear h =>
      obtain ⟨p, x, x', effect, hp, hx, hlistening, hgone, hstep, rfl⟩ := Hub.overhear_eq_some h
      exact .of_moveWatch .none hp hx rfl rfl (.overhear hlistening hgone hstep)
  | answer outcome hx hfetching =>
      obtain ⟨p, hp, hx⟩ := Hub.watch?_eq_some hx
      rw [Hub.answerWatch_eq hp hx]
      exact .of_moveWatch .none hp hx rfl rfl (.answer outcome hfetching)
  | crash hx hfetching =>
      obtain ⟨p, hp, hx⟩ := Hub.watch?_eq_some hx
      rw [Hub.crashWatch_eq hp hx]
      exact .of_moveWatch .none hp hx rfl rfl (.crash hfetching)
  | store h => exact .stored h
  | storeEqual h => exact .storedEqual h
  | announce h => exact .announced h
  | erase query => exact .removed (fun q => w.hub.cache.get?_erase_eq_or q query) rfl rfl
  | clear => exact .removed (fun _ => .inr rfl) rfl rfl
  | retain => exact .retained
  | release h => exact .released h
  | hangUp => exact .spared rfl (Hub.spares_hangUp _ _) rfl rfl
  | receive hp => exact .spared rfl (Hub.spares_setPipe hp rfl rfl id) rfl rfl
  | feed => exact .spared rfl (Hub.spares_sendEvent _ _ _) rfl rfl
  | closeSender hp hwatch => exact .spared rfl (Hub.spares_closeSender hp hwatch) rfl rfl
  | fetch backend query =>
      cases backend with
      | hub =>
          refine .opened (s := (w.hub.note (.fetching query)).openFor .hub query)
            (o := some (.create w.hub.cache query Schedule.feedPolicy)) rfl ?_ ⟨_, rfl, rfl, rfl⟩
            rfl (Hub.spares_attach _ _ _) rfl rfl
          rintro x ⟨⟩
          exact ⟨query, _, rfl⟩
      | outside =>
          refine .opened (s := (w.hub.note (.fetching query)).openFor .outside query)
            (o := none) rfl ?_ ⟨.bare, rfl, rfl, rfl⟩ rfl (Hub.spares_attach _ _ _) rfl rfl
          rintro x ⟨⟩
  | register => exact .spared rfl (Hub.spares_of_eq rfl rfl) rfl rfl
  | cancel => exact .spared rfl (Hub.spares_of_eq rfl rfl) rfl rfl
  | drop => exact .spared rfl (Hub.spares_of_eq rfl rfl) rfl rfl
  | switchOff => exact .spared rfl (Hub.spares_cancelFollower _ _) rfl rfl
  | conclude => exact .spared rfl (Hub.spares_conclude _ _) rfl rfl
  | follower h =>
      exact .spared (Hub.followerLabel_isSpare _ _) (Hub.spares_stepFollower h) rfl rfl
  | abort => exact .spared rfl (Hub.spares_finishFollower _ _) rfl rfl
  | subscribers => exact .spared rfl (Hub.spares_outlets _ _) rfl rfl
  | journal => exact .spared rfl (Hub.spares_of_eq rfl rfl) rfl rfl

/-- A watch that can go on does, while nobody else does anything. -/
theorem Step.of_watch {w : World} {number : Nat} {x x' : Watch} {effect : Effect}
    (hx : w.hub.watch? number = some x)
    (h : x.step (w.hub.isReceived number) w.hub.cache = some (x', effect)) :
    ∃ w', Step w (effect.label number x.query w.hub.cache) w' ∧
      w'.hub.watch? number = some x' ∧ w'.hub.isReceived number = w.hub.isReceived number ∧
      w'.hub.cache = x.leave x' (effect.applyTo x.query w.hub.cache) := by
  obtain ⟨p, hp, hpx⟩ := Hub.watch?_eq_some hx
  rw [Hub.isReceived_eq hp] at h
  have hlt := Hub.lt_length_of_watch? hx
  refine ⟨_, .watch hx (Hub.stepWatch_eq hp hpx h), ?_, ?_, rfl⟩
  · rw [World.withHub, Hub.watch?_eq_join, Hub.watches_moveWatch]
    simp [Hub.watches, hlt]
  · exact Hub.isReceived_moveWatch (s := { w.hub with cache := _ }) hp
      (Hub.deliver_receiverOpen p effect) x x' number

end RepoWatch
