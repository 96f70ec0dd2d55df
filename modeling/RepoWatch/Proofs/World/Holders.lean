import RepoWatch.Proofs.Watch.Life
/-!
# Who holds the cache

The cache is held by every watch that has not ended, and by its other owners. Changes can therefore
not stop to come while a watch runs, and a watch ends only when its receiver is gone, or when its
request comes to no outcome.
-/

namespace RepoWatch

/-- How many watches have not ended. -/
def Hub.running (s : Hub) : Nat := s.watches.countP (·.any (!·.isStopped))

/-- The holders of the cache are its owners and the watches that have not ended. -/
def World.Held (w : World) : Prop := w.hub.cache.holders = w.owners + w.hub.running

theorem Watch.isStopped_eq_false {x : Watch} (h : x.phase ≠ .stopped) : x.isStopped = false := by
  rw [Bool.eq_false_iff]
  exact fun hstopped => h (Watch.isStopped_iff.1 hstopped)

theorem Hub.running_pos {s : Hub} {number : Nat} {x : Watch} (hx : s.watch? number = some x)
    (hphase : x.phase ≠ .stopped) : 0 < s.running := by
  have hget := List.getElem?_eq_some_iff.1 (getElem?_watches_of_watch? hx)
  obtain ⟨hlt, hval⟩ := hget
  refine List.countP_pos_iff.2 ⟨some x, hval ▸ List.getElem_mem hlt, ?_⟩
  simp [Watch.isStopped_eq_false hphase]

/-- The cache is open as long as a watch runs. -/
theorem World.Held.isClosed_eq_false {w : World} {number : Nat} {x : Watch} (h : w.Held)
    (hx : w.hub.watch? number = some x) (hphase : x.phase ≠ .stopped) :
    w.hub.cache.isClosed = false := by
  have hpos := Hub.running_pos hx hphase
  have hne : w.hub.cache.holders ≠ 0 := by
    rw [h]
    omega
  simpa [Cache.isClosed] using hne

theorem Effect.holders_applyTo (effect : Effect) (query : Query) (cache : Cache) :
    (effect.applyTo query cache).holders = cache.holders := by
  cases effect with
  | insert data => exact cache.holders_insert query data
  | none | send | call | announce => rfl

theorem Step.held {w w' : World} {l : Label} (step : Step w l w') (h : w.Held) : w'.Held := by
  unfold World.Held Hub.running at *
  cases step.cacheSide with
  | spared _ hub _ howners => rw [hub.cache_eq, hub.watches_eq, howners, h]
  | opened _ fresh pipes cache hub _ howners =>
      obtain ⟨p, rfl, -, hpipes⟩ := pipes
      rw [hub.cache_eq, hub.watches_eq, howners, cache, Hub.watches_append hpipes,
        List.countP_append, List.countP_singleton]
      cases hp : p.watch with
      | none => exact h
      | some x =>
          obtain ⟨_, _, rfl⟩ := fresh x hp
          have hholders : w.hub.cache.retain.holders = w.hub.cache.holders + 1 := rfl
          rw [Option.isSome_some, if_pos rfl, hholders, h]
          exact Nat.add_assoc _ _ _
  | @moved _ hub number x x' effect hx moves watches _ cache =>
      obtain ⟨hlt, hget⟩ := List.getElem?_eq_some_iff.1 (Hub.getElem?_watches_of_watch? hx)
      have hrunning := Watch.isStopped_eq_false moves.advance.not_stopped
      have hpos : 0 < w.hub.watches.countP (·.any (!·.isStopped)) :=
        Hub.running_pos hx moves.advance.not_stopped
      dsimp only [World.withHub]
      rw [cache, watches, List.countP_set hlt, hget, Watch.leave, hrunning]
      cases hstopped : x'.isStopped with
      | true =>
          simp [Cache.release, Effect.holders_applyTo, hrunning, hstopped]
          omega
      | false =>
          simp [Effect.holders_applyTo, hrunning, hstopped]
          omega
  | stored => exact (w.hub.cache.holders_insert _ _).trans h
  | storedEqual => exact h
  | announced => exact h
  | removed _ _ hholders => exact hholders.trans h
  | retained =>
      simp only [World.withCache, World.withHub, Cache.retain, h, Hub.watches]
      omega
  | released hpos =>
      simp only [World.withCache, World.withHub, Cache.release, h, Hub.watches]
      omega

/-- The sending ends of the watches are open until the watches end. -/
def World.Streaming (w : World) : Prop :=
  w.hub.senders = w.hub.watches.map (·.map (!·.isStopped))

theorem Step.streaming {w w' : World} {l : Label} (step : Step w l w') (h : w.Streaming) :
    w'.Streaming := by
  unfold World.Streaming at *
  cases step.cacheSide with
  | spared _ hub => rw [hub.senders_eq, hub.watches_eq, h]
  | opened _ fresh pipes _ hub =>
      obtain ⟨p, rfl, hopen, hpipes⟩ := pipes
      rw [hub.senders_eq, hub.watches_eq, Hub.senders_append hpipes, Hub.watches_append hpipes,
        List.map_append, h, List.map_singleton, Pipe.sender, hopen]
      cases hp : p.watch with
      | none => rfl
      | some x =>
          obtain ⟨_, _, rfl⟩ := fresh x hp
          rfl
  | @moved _ hub number x x' effect hx moves watches senders =>
      have hopen : w.hub.senders[number]? = some (some true) := by
        rw [h, List.getElem?_map, Hub.getElem?_watches_of_watch? hx, Option.map_some,
          Option.map_some, Watch.isStopped_eq_false moves.advance.not_stopped]
        rfl
      dsimp only [World.withHub]
      rw [senders _ hopen, watches, List.map_set, h]
      rfl
  | stored | storedEqual | announced | removed | retained | released => exact h

section Ending

variable {cache : Cache} {outlets : Outlets} {origin w : World} {past t : Trace} {number : Nat}
  {query : Query} {policy : Policy}

theorem Run.held (run : Run (.start cache outlets) t w) : w.Held := run.keeps Step.held rfl

theorem Run.streaming (run : Run (.start cache outlets) t w) : w.Streaming :=
  run.keeps Step.streaming rfl

/-- A watch goes on until its receiver is gone or its request comes to no outcome. -/
theorem Run.ended (before : Run (.start cache outlets) past origin)
    (born : origin.Opened number query policy) (run : Run origin t w) {x : Watch}
    (hx : w.hub.watch? number = some x) (hphase : x.phase = .stopped) :
    w.hub.isReceived number = false ∨
      (t.crashed number = true ∧ (t.sent number).any Event.isCompletion = false) := by
  have hinv := run.life_induction
    (P := fun t w x => w.Held ∧ (x.phase = .stopped → w.hub.isReceived number = false ∨
      (t.crashed number = true ∧ (t.sent number).any Event.isCompletion = false))) born
    ⟨before.held, fun h => by cases h⟩ ?_ ?_
  · obtain ⟨y, hy, -, -, hended⟩ := hinv
    obtain rfl : y = x := by simpa [hx] using hy.symm
    exact hended hphase
  · rintro t w l w' x - ⟨held, hended⟩ step hx hl
    refine ⟨step.held held, fun hphase => ?_⟩
    refine (hended hphase).imp (step.isReceived_eq_false hx) ?_
    rintro ⟨hcrashed, hcompleted⟩
    rw [Trace.crashed_snoc, hcrashed, t.sent_of_isOf w' hl]
    exact ⟨rfl, hcompleted⟩
  · rintro t w l w' x x' life ⟨held, -⟩ step hx advance
    refine ⟨step.held held, fun hphase => ?_⟩
    rcases advance.why_stopped hphase with hgone | ⟨rfl, hfetching⟩ | hclosed
    · exact .inl (step.isReceived_eq_false hx hgone)
    · right
      have hcompleted := life.sent.any_isCompletion advance.not_stopped
      rw [Watch.isResolved, hfetching] at hcompleted
      simpa [Label.crashes, Label.sentBy] using hcompleted
    · rw [held.isClosed_eq_false hx advance.not_stopped] at hclosed
      cases hclosed

end Ending
end RepoWatch
