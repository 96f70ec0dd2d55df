import RepoWatch.Proofs.World.Basic
/-!
# What leaves the watches alone

The feed, the receivers and those who send from outside touch neither a watch nor the cache, and
open no receiving end. This is said here once for every operation of theirs.
-/

namespace RepoWatch

/-- Whether the sending end is open, of a pipe into which a watch of the hub sends. -/
def Pipe.sender (p : Pipe) : Option Bool := p.watch.map fun _ => p.senderOpen

namespace Hub

def watches (s : Hub) : List (Option Watch) := s.pipes.map Pipe.watch

def senders (s : Hub) : List (Option Bool) := s.pipes.map Pipe.sender

theorem watch?_eq_join (s : Hub) (number : Nat) : s.watch? number = s.watches[number]?.join := by
  rw [watch?, watches, List.getElem?_map]
  cases s.pipes[number]? <;> rfl

@[simp] theorem length_watches (s : Hub) : s.watches.length = s.pipes.length := by
  simp [watches]

theorem watches_append {s s' : Hub} {p : Pipe} (h : s'.pipes = s.pipes ++ [p]) :
    s'.watches = s.watches ++ [p.watch] := by
  rw [watches, watches, h, List.map_append, List.map_singleton]

theorem senders_append {s s' : Hub} {p : Pipe} (h : s'.pipes = s.pipes ++ [p]) :
    s'.senders = s.senders ++ [p.sender] := by
  rw [senders, senders, h, List.map_append, List.map_singleton]

theorem getElem?_watches_of_watch? {s : Hub} {number : Nat} {x : Watch}
    (h : s.watch? number = some x) : s.watches[number]? = some (some x) := by
  rw [watch?_eq_join, Option.join_eq_some_iff] at h
  exact h

theorem lt_length_of_watch? {s : Hub} {number : Nat} {x : Watch}
    (h : s.watch? number = some x) : number < s.pipes.length := by
  have hlt := (List.getElem?_eq_some_iff.1 (getElem?_watches_of_watch? h)).1
  rwa [length_watches] at hlt

/-- Neither the watches nor the cache have changed, and no receiving end has been opened. -/
structure Spares (s s' : Hub) : Prop where
  watches_eq : s'.watches = s.watches
  senders_eq : s'.senders = s.senders
  cache_eq : s'.cache = s.cache
  isReceived_of : ∀ number, s'.isReceived number = true → s.isReceived number = true

theorem Spares.refl (s : Hub) : s.Spares s := ⟨rfl, rfl, rfl, fun _ h => h⟩

theorem Spares.trans {s s' s'' : Hub} (h : s.Spares s') (h' : s'.Spares s'') : s.Spares s'' :=
  ⟨h'.watches_eq.trans h.watches_eq, h'.senders_eq.trans h.senders_eq,
    h'.cache_eq.trans h.cache_eq,
    fun number hr => h.isReceived_of number (h'.isReceived_of number hr)⟩

/-- What has the same pipes and the same cache spares the watches. -/
theorem spares_of_eq {s s' : Hub} (hpipes : s'.pipes = s.pipes) (hcache : s'.cache = s.cache) :
    s.Spares s' := by
  refine ⟨?_, ?_, hcache, ?_⟩
  · rw [watches, watches, hpipes]
  · rw [senders, senders, hpipes]
  · intro number hr
    rwa [isReceived, hpipes] at hr

theorem watches_setPipe (s : Hub) (number : Nat) (p : Pipe) :
    (s.setPipe number p).watches = s.watches.set number p.watch := by
  simp [watches, setPipe]

theorem senders_setPipe (s : Hub) (number : Nat) (p : Pipe) :
    (s.setPipe number p).senders = s.senders.set number p.sender := by
  simp [senders, setPipe]

theorem isReceived_setPipe (s : Hub) (number n : Nat) (p : Pipe) :
    (s.setPipe number p).isReceived n =
      if number = n ∧ n < s.pipes.length then p.receiverOpen else s.isReceived n := by
  simp only [isReceived, setPipe, List.getElem?_set]
  by_cases heq : number = n
  · subst heq
    by_cases hlt : number < s.pipes.length
    · simp [hlt]
    · simp [hlt]
  · simp [heq]

/-- What is not changed of a pipe is not changed of the pipes. -/
private theorem map_setPipe {β : Type} (f : Pipe → β) {s : Hub} {number : Nat} {p p' : Pipe}
    (hp : s.pipes[number]? = some p) (hf : f p' = f p) :
    (s.setPipe number p').pipes.map f = s.pipes.map f := by
  have hget : (s.pipes.map f)[number]? = some (f p') := by simp [hp, hf]
  obtain ⟨hlt, hval⟩ := List.getElem?_eq_some_iff.1 hget
  rw [setPipe, List.map_set, ← hval, List.set_getElem_self]

theorem spares_setPipe {s : Hub} {number : Nat} {p p' : Pipe}
    (hp : s.pipes[number]? = some p) (hwatch : p'.watch = p.watch)
    (hsender : p'.sender = p.sender)
    (hreceiver : p'.receiverOpen = true → p.receiverOpen = true) :
    s.Spares (s.setPipe number p') := by
  refine ⟨map_setPipe _ hp hwatch, map_setPipe _ hp hsender, rfl, ?_⟩
  · intro n hr
    rw [isReceived_setPipe] at hr
    split at hr
    · rename_i h
      rw [isReceived, ← h.1, hp]
      exact hreceiver hr
    · exact hr

theorem spares_setFollower {s : Hub} {number : Nat} {p p' : Pipe} (f : Follower)
    (hp : s.pipes[number]? = some p) (hwatch : p'.watch = p.watch)
    (hsender : p'.sender = p.sender)
    (hreceiver : p'.receiverOpen = true → p.receiverOpen = true) :
    s.Spares (s.setFollower number p' f) :=
  spares_setPipe hp hwatch hsender hreceiver

theorem spares_outlets (s : Hub) (outlets : Outlets) : s.Spares { s with outlets } :=
  spares_of_eq rfl rfl

theorem spares_note (s : Hub) (n : Note) : s.Spares (s.note n) := spares_of_eq rfl rfl

theorem spares_noteAll (s : Hub) (ns : List Note) : s.Spares (s.noteAll ns) := by
  induction ns generalizing s with
  | nil => exact .refl s
  | cons n ns ih => exact (s.spares_note n).trans (ih _)

theorem spares_publish (s : Hub) (publication : Publication) :
    s.Spares (s.publish publication) := by
  unfold publish
  apply spares_of_eq <;> dsimp only <;> split <;> rfl

theorem spares_handle (s : Hub) (operation : Operation) (event : Event) :
    s.Spares (s.handle operation event) := by
  unfold handle
  have hnotes := s.spares_noteAll (event.notes operation)
  dsimp only
  split
  · exact hnotes.trans (spares_publish _ _)
  · exact hnotes

theorem spares_hangUp (s : Hub) (number : Nat) : s.Spares (s.hangUp number) := by
  unfold hangUp
  split
  · rename_i p hp
    refine spares_setPipe hp rfl rfl ?_
    intro h
    cases h
  · exact .refl s

theorem spares_sendEvent (s : Hub) (number : Nat) (event : Event) :
    s.Spares (s.sendEvent number event) := by
  unfold sendEvent
  split
  · rename_i p hp
    apply spares_setPipe hp <;> unfold Pipe.send <;> split <;> simp_all [Pipe.sender]
  · exact .refl s

theorem spares_closeSender {s : Hub} {number : Nat} {p : Pipe} (hp : s.pipes[number]? = some p)
    (hwatch : p.watch = none) : s.Spares (s.closeSender number) := by
  unfold closeSender
  rw [hp]
  refine spares_setPipe hp rfl ?_ id
  simp [Pipe.sender, Pipe.closeSender, hwatch]

theorem spares_finishFollower (s : Hub) (number : Nat) : s.Spares (s.finishFollower number) := by
  unfold finishFollower
  split
  · rename_i p hp
    split
    · split
      · exact .refl s
      · rename_i f _ _
        apply (s.spares_outlets (s.outlets.dropHandle f.query.operation)).trans
        refine spares_setFollower (s := { s with outlets := _ }) f.finish hp rfl rfl ?_
        intro h
        cases h
    · exact .refl s
  · exact .refl s

theorem spares_cancelFollower (s : Hub) (number : Nat) : s.Spares (s.cancelFollower number) := by
  unfold cancelFollower
  split
  · rename_i p hp
    split
    · exact spares_setFollower _ hp rfl rfl id
    · exact .refl s
  · exact .refl s

theorem spares_attach (s : Hub) (query : Query) (number : Nat) :
    s.Spares (s.attach query number) := by
  unfold attach
  split
  · rename_i p hp
    apply (s.spares_outlets (s.outlets.clone query.operation)).trans
    exact spares_setFollower (s := { s with outlets := _ }) (.create query) hp rfl rfl id
  · exact .refl s

theorem spares_conclude (s : Hub) (ending : Ending) : s.Spares (s.conclude ending) := by
  cases ending <;> exact spares_of_eq rfl rfl

/-- A follower that makes a step has a pipe, is not at its end, and handles the event that it has
taken, gives it up because it was switched off, takes the next one, or ends because none can
come. -/
theorem stepFollower_cases {s s' : Hub} {number : Nat} (h : s.stepFollower number = some s') :
    ∃ p f, s.pipes[number]? = some p ∧ p.follower = some f ∧ f.isFinished = false ∧
      ((∃ event, f.holding = some event ∧ f.isActive = true ∧
          s' = (s.setFollower number p { f with holding := none }).handle f.query.operation event) ∨
        (f.holding.isSome = true ∧ f.isActive = false ∧ s' = s.finishFollower number) ∨
        (∃ event events, f.holding = none ∧ p.events = event :: events ∧
          s' = s.setFollower number { p with events } { f with holding := some event }) ∨
        (f.holding = none ∧ p.events = [] ∧ p.senderOpen = false ∧
          s' = s.finishFollower number)) := by
  unfold stepFollower at h
  obtain ⟨p, hp, h⟩ := Option.bind_eq_some_iff.1 h
  obtain ⟨f, hf, h⟩ := Option.bind_eq_some_iff.1 h
  refine ⟨p, f, hp, hf, ?_⟩
  by_cases hfinished : f.isFinished = true
  · rw [if_pos hfinished] at h
    cases h
  · rw [if_neg hfinished] at h
    refine ⟨by simpa using hfinished, ?_⟩
    split at h
    · rename_i event hholding
      split at h <;> rename_i hactive <;> cases h
      · exact .inl ⟨event, hholding, hactive, rfl⟩
      · exact .inr (.inl ⟨by simp [hholding], by simpa using hactive, rfl⟩)
    · rename_i event events hholding hevents
      cases h
      exact .inr (.inr (.inl ⟨event, events, hholding, hevents, rfl⟩))
    · rename_i hholding hevents
      split at h <;> rename_i hsender <;> cases h
      exact .inr (.inr (.inr ⟨hholding, hevents, by simpa using hsender, rfl⟩))

theorem spares_stepFollower {s s' : Hub} {number : Nat} (h : s.stepFollower number = some s') :
    s.Spares s' := by
  obtain ⟨p, f, hp, -, -, ⟨event, -, -, rfl⟩ | ⟨-, -, rfl⟩ | ⟨event, events, -, -, rfl⟩ |
    ⟨-, -, -, rfl⟩⟩ := stepFollower_cases h
  · exact (spares_setFollower _ hp rfl rfl id).trans (spares_handle _ _ _)
  · exact spares_finishFollower s number
  · exact spares_setFollower _ hp rfl rfl id
  · exact spares_finishFollower s number

end Hub
end RepoWatch
