import RepoWatch.Proofs.World.Spares
/-!
# What a step does to the followers

Most steps leave the followers, the registry and the call of the feed alone. The others are named
here: a follower comes with each fetch, is served, and is switched off by the call that supersedes
or cancels its watch.
-/

namespace RepoWatch

/-- A follower that is served has the same part to play. -/
structure Follower.SamePart (f f' : Follower) : Prop where
  query_eq : f'.query = f.query
  isActive_eq : f'.isActive = f.isActive
  isAborted_eq : f'.isAborted = f.isAborted

theorem Follower.SamePart.refl (f : Follower) : f.SamePart f := ⟨rfl, rfl, rfl⟩

namespace Hub

def follower? (s : Hub) (number : Nat) : Option Follower :=
  s.pipes[number]?.bind Pipe.follower

/-- The query on behalf of which the events of a pipe are handled. -/
def active? (s : Hub) (number : Nat) : Option Query :=
  (s.follower? number).bind fun f => if f.isActive then some f.query else none

/-- Neither the followers nor the registry have changed. -/
structure Passes (s s' : Hub) : Prop where
  follower?_eq : ∀ number, s'.follower? number = s.follower? number
  registry_eq : s'.registry = s.registry

/-- One follower has become another one. -/
structure Turns (number : Nat) (f' : Option Follower) (s s' : Hub) : Prop where
  follower?_eq : ∀ n, s'.follower? n = if n = number then f' else s.follower? n
  registry_eq : s'.registry = s.registry

theorem Passes.refl (s : Hub) : s.Passes s := ⟨fun _ => rfl, rfl⟩

theorem Passes.active?_eq {s s' : Hub} (h : s.Passes s') (number : Nat) :
    s'.active? number = s.active? number := by
  rw [active?, active?, h.follower?_eq]

theorem Turns.active?_eq {s s' : Hub} {number : Nat} {f' : Option Follower}
    (h : Turns number f' s s') (n : Nat) :
    s'.active? n =
      if n = number then f'.bind fun f => if f.isActive then some f.query else none
      else s.active? n := by
  rw [active?, active?, h.follower?_eq]
  split <;> rfl

theorem active?_of_samePart {s s' : Hub} {number : Nat} {f f' : Follower}
    (hf : s.follower? number = some f) (hpart : f.SamePart f')
    (h : Turns number (some f') s s') (n : Nat) : s'.active? n = s.active? n := by
  rw [h.active?_eq]
  split
  · rename_i hn
    rw [hn, active?, hf, Option.bind_some, Option.bind_some, hpart.isActive_eq, hpart.query_eq]
  · rfl

theorem passes_of_eq {s s' : Hub} (hpipes : s'.pipes = s.pipes)
    (hregistry : s'.registry = s.registry) : s.Passes s' :=
  ⟨fun number => by rw [follower?, follower?, hpipes], hregistry⟩

theorem follower?_eq {s : Hub} {number : Nat} {p : Pipe} (hp : s.pipes[number]? = some p) :
    s.follower? number = p.follower := by
  rw [follower?, hp, Option.bind_some]

/-- A pipe that is not the last one keeps its follower when one is appended. -/
theorem follower?_append {s s' : Hub} {p : Pipe} (h : s'.pipes = s.pipes ++ [p]) (number : Nat) :
    s'.follower? number =
      if number = s.pipes.length then p.follower else s.follower? number := by
  unfold follower?
  rw [h]
  by_cases heq : number = s.pipes.length
  · rw [if_pos heq, heq, List.getElem?_concat_length, Option.bind_some]
  · rw [if_neg heq]
    by_cases hlt : number < s.pipes.length
    · rw [List.getElem?_append_left hlt]
    · rw [List.getElem?_eq_none (by simp; omega), List.getElem?_eq_none (by omega)]

theorem getElem?_setPipe {s : Hub} {m : Nat} {p₀ : Pipe} (hp : s.pipes[m]? = some p₀)
    (p' : Pipe) (n : Nat) :
    (s.setPipe m p').pipes[n]? = if m = n then some p' else s.pipes[n]? := by
  have hlt := (List.getElem?_eq_some_iff.1 hp).1
  simp [Hub.setPipe, List.getElem?_set, hlt]

theorem turns_setPipe {s : Hub} {number : Nat} {p : Pipe} (hp : s.pipes[number]? = some p)
    (p' : Pipe) : Turns number p'.follower s (s.setPipe number p') := by
  refine ⟨fun n => ?_, rfl⟩
  have hlt := (List.getElem?_eq_some_iff.1 hp).1
  rw [follower?, follower?, setPipe, List.getElem?_set]
  by_cases hn : number = n
  · subst hn
    simp [hlt]
  · rw [if_neg hn, if_neg (Ne.symm hn)]

theorem turns_setFollower {s : Hub} {number : Nat} {p : Pipe} (hp : s.pipes[number]? = some p)
    (p' : Pipe) (f : Follower) : Turns number (some f) s (s.setFollower number p' f) :=
  turns_setPipe hp { p' with follower := some f }

theorem Turns.passes {s s' : Hub} {number : Nat} {f : Option Follower}
    (h : Turns number f s s') (hf : s.follower? number = f) : s.Passes s' := by
  refine ⟨fun n => ?_, h.registry_eq⟩
  rw [h.follower?_eq]
  split
  · rename_i hn
    rw [hn, hf]
  · rfl

theorem Turns.trans_passes {s s' s'' : Hub} {number : Nat} {f : Option Follower}
    (h : Turns number f s s') (h' : s'.Passes s'') : Turns number f s s'' :=
  ⟨fun n => (h'.follower?_eq n).trans (h.follower?_eq n), h'.registry_eq.trans h.registry_eq⟩

theorem passes_setPipe {s : Hub} {number : Nat} {p p' : Pipe} (hp : s.pipes[number]? = some p)
    (hfollower : p'.follower = p.follower) : s.Passes (s.setPipe number p') :=
  (turns_setPipe hp p').passes ((follower?_eq hp).trans hfollower.symm)

theorem passes_moveWatch {s : Hub} {number : Nat} {p p' : Pipe} (hp : s.pipes[number]? = some p)
    (hfollower : p'.follower = p.follower) (cache : Cache) (x x' : Watch) :
    s.Passes ({ s with cache }.moveWatch number p' x x') := by
  have hwatch : (p'.withWatch x').follower = p.follower := hfollower
  have h := passes_setPipe (s := { s with cache := x.leave x' cache }) hp hwatch
  exact ⟨h.follower?_eq, h.registry_eq⟩

@[simp] theorem follower_deliver (p : Pipe) (effect : Effect) :
    (p.deliver effect).follower = p.follower := by
  unfold Pipe.deliver Pipe.send
  split
  · split <;> rfl
  · rfl

theorem passes_sendEvent (s : Hub) (number : Nat) (event : Event) :
    s.Passes (s.sendEvent number event) := by
  unfold sendEvent
  split
  · rename_i p hp
    refine passes_setPipe hp ?_
    unfold Pipe.send
    split <;> rfl
  · exact .refl s

theorem passes_closeSender (s : Hub) (number : Nat) : s.Passes (s.closeSender number) := by
  unfold closeSender
  split
  · rename_i p hp
    exact passes_setPipe hp rfl
  · exact .refl s

theorem passes_hangUp (s : Hub) (number : Nat) : s.Passes (s.hangUp number) := by
  unfold hangUp
  split
  · rename_i p hp
    exact passes_setPipe hp rfl
  · exact .refl s

theorem noteAll_eq (s : Hub) (ns : List Note) :
    (s.noteAll ns).pipes = s.pipes ∧ (s.noteAll ns).registry = s.registry ∧
      (s.noteAll ns).outlets = s.outlets := by
  induction ns generalizing s with
  | nil => exact ⟨rfl, rfl, rfl⟩
  | cons n ns ih => exact ih (s.note n)

theorem publish_eq (s : Hub) (publication : Publication) :
    (s.publish publication).pipes = s.pipes ∧ (s.publish publication).registry = s.registry ∧
      (s.publish publication).outlets = s.outlets.publish publication := by
  unfold publish
  dsimp only
  split <;> exact ⟨rfl, rfl, rfl⟩

/-- What an event gives is published, and nothing else of what matters to the followers happens. -/
theorem handle_eq (s : Hub) (operation : Operation) (event : Event) :
    (s.handle operation event).pipes = s.pipes ∧
      (s.handle operation event).registry = s.registry ∧
      (s.handle operation event).outlets =
        match event.publication operation with
        | some publication => s.outlets.publish publication
        | none => s.outlets := by
  obtain ⟨hpipes, hregistry, houtlets⟩ := s.noteAll_eq (event.notes operation)
  unfold handle
  dsimp only
  cases event.publication operation with
  | none => exact ⟨hpipes, hregistry, houtlets⟩
  | some publication =>
      obtain ⟨hpipes', hregistry', houtlets'⟩ := publish_eq (s.noteAll (event.notes operation))
        publication
      exact ⟨hpipes'.trans hpipes, hregistry'.trans hregistry, houtlets' ▸ houtlets ▸ rfl⟩

theorem turns_finishFollower {s : Hub} {number : Nat} {p : Pipe} {f : Follower}
    (hp : s.pipes[number]? = some p) (hf : p.follower = some f) :
    ∃ f', f.SamePart f' ∧ Turns number (some f') s (s.finishFollower number) := by
  unfold finishFollower
  simp only [hp, hf]
  split
  · refine ⟨f, .refl f, fun n => ?_, rfl⟩
    split
    · rename_i hn
      rw [hn, follower?_eq hp, hf]
    · rfl
  · have h := turns_setFollower
      (s := { s with outlets := s.outlets.dropHandle f.query.operation }) hp p.hangUp f.finish
    exact ⟨f.finish, ⟨rfl, rfl, rfl⟩, h.follower?_eq, h.registry_eq⟩

/-- A follower that makes a step is there, and is active if it handles an event. -/
theorem turns_stepFollower {s s' : Hub} {number : Nat} (h : s.stepFollower number = some s') :
    ∃ f f', s.follower? number = some f ∧ f.SamePart f' ∧ Turns number (some f') s s' := by
  obtain ⟨p, f, hp, hf, -, ⟨event, -, -, rfl⟩ | ⟨-, -, rfl⟩ | ⟨event, events, -, -, rfl⟩ |
    ⟨-, -, -, rfl⟩⟩ := stepFollower_cases h
  · let f' : Follower := { f with holding := none }
    obtain ⟨hpipes, hregistry, -⟩ := handle_eq (s.setFollower number p f') f.query.operation event
    exact ⟨f, f', (follower?_eq hp).trans hf, ⟨rfl, rfl, rfl⟩,
      (turns_setFollower hp p f').trans_passes (passes_of_eq hpipes hregistry)⟩
  · obtain ⟨f', hpart, hturns⟩ := turns_finishFollower hp hf
    exact ⟨f, f', (follower?_eq hp).trans hf, hpart, hturns⟩
  · exact ⟨f, { f with holding := some event }, (follower?_eq hp).trans hf, ⟨rfl, rfl, rfl⟩,
      turns_setFollower hp _ _⟩
  · obtain ⟨f', hpart, hturns⟩ := turns_finishFollower hp hf
    exact ⟨f, f', (follower?_eq hp).trans hf, hpart, hturns⟩

theorem attach_eq {s : Hub} {m : Nat} {p : Pipe} (query : Query) (hp : s.pipes[m]? = some p) :
    (s.attach query m).pipes =
      (s.setPipe m { p with follower := some (.create query) }).pipes := by
  rw [Hub.attach, hp]
  rfl

theorem turns_cancelFollower (s : Hub) (number : Nat) :
    Turns number ((s.follower? number).map Follower.cancel) s (s.cancelFollower number) := by
  unfold cancelFollower
  split
  · rename_i p hp
    rw [follower?_eq hp]
    split
    · rename_i f hf
      rw [hf]
      exact turns_setFollower hp p f.cancel
    · rename_i hf
      refine ⟨fun n => ?_, rfl⟩
      split
      · rename_i hn
        rw [hn, follower?_eq hp, hf]
        rfl
      · rfl
  · rename_i hp
    refine ⟨fun n => ?_, rfl⟩
    split
    · rename_i hn
      rw [hn, follower?, hp]
      rfl
    · rfl

end Hub
end RepoWatch
