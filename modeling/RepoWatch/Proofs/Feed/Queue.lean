import RepoWatch.Proofs.Feed.Flow
import RepoWatch.Proofs.Watch.Life
/-!
# The queue of a pipe

Events are kept in the order in which they are sent until they are received, and none is lost as
long as there is a receiver. So what a watch has sent is what has been received of it, followed by
what waits in the queue of its pipe.
-/

namespace RepoWatch

/-- The events that were sent into a pipe and not received. -/
def Hub.queue (s : Hub) (number : Nat) : List Event := ((s.pipes[number]?).map Pipe.events).getD []

/-- What was taken from the front of a queue that has become another one. -/
def taken (queue queue' : List Event) : List Event := queue.take (queue.length - queue'.length)

/-- The events that are taken from the queue of a pipe in a run. As long as there is a receiver, they
are received. -/
def Trace.received (number : Nat) : World → Trace → List Event
  | _, [] => []
  | w, m :: t =>
    taken (w.hub.queue number) (m.world.hub.queue number) ++ received number m.world t

/-- What a step makes of a queue, when `came` is sent into it by the step, if anything is. -/
inductive Turnover (came : Option Event) (queue : List Event) (isReceived : Bool)
    (queue' : List Event) (isReceived' : Bool) : Prop where
  | kept (hcame : came = none) (queue_eq : queue' = queue)
  | sent {event : Event} (hcame : came = some event) (hreceived : isReceived = true)
      (queue_eq : queue' = queue ++ [event])
  | received {event : Event} (hcame : came = none) (queue_eq : queue = event :: queue')
  | lost (hcame : came = none) (queue_eq : queue' = []) (hgone : isReceived' = false)

section Queue

variable {came : Option Event} {queue queue' : List Event} {isReceived isReceived' : Bool}

theorem Turnover.refl : Turnover none queue isReceived queue isReceived' := .kept rfl rfl

/-- What is sent comes last, and what is received is taken from the front. -/
theorem Turnover.account (h : Turnover came queue isReceived queue' isReceived')
    (hreceived : isReceived' = true) : queue ++ came.toList = taken queue queue' ++ queue' := by
  cases h with
  | kept hcame queue_eq => simp [hcame, queue_eq, taken]
  | sent hcame _ queue_eq => simp [hcame, queue_eq, taken]
  | received hcame queue_eq => simp [hcame, queue_eq, taken]
  | lost _ _ hgone =>
      rw [hreceived] at hgone
      cases hgone

/-- An empty queue stays empty when nothing is sent into it, and when nobody would receive it. -/
theorem Turnover.eq_nil (h : Turnover came queue isReceived queue' isReceived')
    (hqueue : queue = []) (hnone : came = none ∨ isReceived = false) : queue' = [] := by
  cases h with
  | kept _ queue_eq => rw [queue_eq, hqueue]
  | sent hcame hreceived => simp [hcame, hreceived] at hnone
  | received _ queue_eq =>
      rw [hqueue] at queue_eq
      cases queue_eq
  | lost _ queue_eq => exact queue_eq

variable {number : Nat} {s s' : Hub}

theorem Hub.queue_eq {p : Pipe} (hp : s.pipes[number]? = some p) : s.queue number = p.events := by
  simp [queue, hp]

theorem Hub.queue_eq_nil (h : s.pipes.length ≤ number) : s.queue number = [] := by
  simp [queue, List.getElem?_eq_none h]

theorem Hub.isReceived_eq_false (h : s.pipes.length ≤ number) : s.isReceived number = false := by
  simp [isReceived, List.getElem?_eq_none h]

/-- A queue has a turnover if its pipe has one. -/
def Hub.TurnsOver (s : Hub) (number : Nat) (came : Option Event) (s' : Hub) : Prop :=
  Turnover came (s.queue number) (s.isReceived number) (s'.queue number) (s'.isReceived number)

theorem Hub.turnsOver_of_eq (h : s'.pipes = s.pipes) : s.TurnsOver number none s' := by
  refine .kept rfl ?_
  rw [queue, queue, h]

/-- What happens to one pipe is seen at its queue only. -/
theorem Hub.turnsOver_setPipe {m : Nat} {p₀ : Pipe} (p₁ : Pipe) (hp₀ : s.pipes[m]? = some p₀)
    (hpipes : s'.pipes = (s.setPipe m p₁).pipes) (hother : m ≠ number → came = none)
    (hsame : m = number →
      Turnover came p₀.events p₀.receiverOpen p₁.events p₁.receiverOpen) :
    s.TurnsOver number came s' := by
  have hget := Hub.getElem?_setPipe hp₀ p₁ number
  rw [← hpipes] at hget
  by_cases hn : m = number
  · rw [if_pos hn] at hget
    have hturnover := hsame hn
    subst hn
    rwa [TurnsOver, queue_eq hp₀, isReceived_eq hp₀, queue_eq hget, isReceived_eq hget]
  · rw [if_neg hn] at hget
    refine .kept (hother hn) ?_
    rw [queue, queue, hget]

/-- The pipe that is opened is empty. -/
theorem Hub.turnsOver_append {p : Pipe} (hpipes : s'.pipes = s.pipes ++ [p])
    (hempty : p.events = []) : s.TurnsOver number none s' := by
  refine .kept rfl ?_
  rcases Nat.lt_trichotomy number s.pipes.length with hlt | rfl | hgt
  · rw [queue, hpipes, List.getElem?_append_left hlt, queue]
  · have hget : s'.pipes[s.pipes.length]? = some p := by
      rw [hpipes]
      exact List.getElem?_concat_length
    rw [queue_eq hget, hempty, queue_eq_nil (Nat.le_refl _)]
  · rw [queue_eq_nil (Nat.le_of_lt hgt), queue_eq_nil]
    rw [hpipes, List.length_append]
    exact hgt

theorem Hub.turnsOver_finishFollower (s : Hub) (m : Nat) :
    s.TurnsOver number none (s.finishFollower m) := by
  unfold finishFollower
  split
  · rename_i p hp
    split
    · split
      · exact .refl
      · exact turnsOver_setPipe _ hp rfl (fun _ => rfl) fun _ => .lost rfl rfl rfl
    · exact .refl
  · exact .refl

theorem Hub.turnsOver_stepFollower {m : Nat} (h : s.stepFollower m = some s') :
    s.TurnsOver number none s' := by
  obtain ⟨p, f, hp, -, -, ⟨event, -, -, rfl⟩ | ⟨-, -, rfl⟩ | ⟨event, events, -, hevents, rfl⟩ |
    ⟨-, -, -, rfl⟩⟩ := stepFollower_cases h
  · exact turnsOver_setPipe _ hp (Hub.handle_eq _ _ _).1 (fun _ => rfl) fun _ => .refl
  · exact s.turnsOver_finishFollower m
  · exact turnsOver_setPipe _ hp rfl (fun _ => rfl) fun _ => .received rfl hevents
  · exact s.turnsOver_finishFollower m

/-- A watch that moves sends what its effect sends, if it is received. -/
theorem Hub.turnsOver_stepWatch {m : Nat} {effect : Effect} {query : Query}
    (h : s.stepWatch m = some (s', effect)) :
    s.TurnsOver number ((effect.label m query s.cache).into number) s' := by
  obtain ⟨p, x, y, hp, hx, hstep, rfl⟩ := stepWatch_eq_some h
  rw [Label.into_effect]
  refine turnsOver_setPipe _ hp rfl (fun hne => if_neg hne) fun hm => ?_
  rw [if_pos hm]
  cases hevent : effect.event? with
  | none =>
      have hsame : (p.deliver effect).events = p.events := by rw [deliver_of_none hevent]
      exact .kept rfl hsame
  | some event =>
      have hsent := Label.sentBy_effect effect m m x.query s.cache
      rw [if_pos rfl, hevent] at hsent
      have hheard := (Moves.step hstep : Moves m _ _ _ _ _ _).advance.heard_of_sentBy hsent
      have hlast : (p.deliver effect).events = p.events ++ [event] := by
        rw [deliver_of_some hevent hheard]
      exact .sent rfl hheard hlast

theorem Hub.turnsOver_moveWatch {m : Nat} {p : Pipe} (x y : Watch) (hp : s.pipes[m]? = some p) :
    s.TurnsOver number none (s.moveWatch m p x y) :=
  turnsOver_setPipe (p.withWatch y) hp rfl (fun _ => rfl) fun _ => .refl

theorem Hub.turnsOver_fetch (s : Hub) (backend : Schedule.Backend) (query : Query) :
    s.TurnsOver number none (((s.note (.fetching query)).openFor backend query).attach query
      s.nextNumber) := by
  obtain ⟨p, hpipes, -, hempty, -⟩ := (s.note (.fetching query)).openFor_eq backend query
  have hlast : ((s.note (.fetching query)).openFor backend query).pipes[s.nextNumber]? = some p := by
    rw [hpipes]
    exact List.getElem?_concat_length
  refine turnsOver_append (p := { p with follower := some (.create query) }) ?_ hempty
  rw [attach_eq query hlast, setPipe, hpipes]
  simp [nextNumber, note]

theorem Hub.turnsOver_cancelFollower (s : Hub) (m : Nat) :
    s.TurnsOver number none (s.cancelFollower m) := by
  unfold cancelFollower
  split
  · rename_i p hp
    split
    · exact turnsOver_setPipe _ hp rfl (fun _ => rfl) fun _ => .refl
    · exact .refl
  · exact .refl

variable {w w' : World} {l : Label}

/-- Every step keeps a queue, sends into it, receives from it, or ends it with its receiver. -/
theorem Step.turnsOver (step : Step w l w') (number : Nat) :
    w.hub.TurnsOver number (l.into number) w'.hub := by
  cases step with
  | openWatch => exact Hub.turnsOver_append rfl rfl
  | watch _ h => exact Hub.turnsOver_stepWatch h
  | overhear h =>
      obtain ⟨p, x, y, effect, hp, -, -, -, -, rfl⟩ := Hub.overhear_eq_some h
      exact Hub.turnsOver_moveWatch x y hp
  | answer outcome hx =>
      obtain ⟨p, hp, hx⟩ := Hub.watch?_eq_some hx
      rw [Hub.answerWatch_eq hp hx]
      exact Hub.turnsOver_moveWatch _ _ hp
  | crash hx =>
      obtain ⟨p, hp, hx⟩ := Hub.watch?_eq_some hx
      rw [Hub.crashWatch_eq hp hx]
      exact Hub.turnsOver_moveWatch _ _ hp
  | store | storeEqual | announce | erase | clear | retain | release | subscribers | journal
  | register | cancel | drop =>
      exact Hub.turnsOver_of_eq rfl
  | @conclude ending => cases ending <;> exact Hub.turnsOver_of_eq rfl
  | @hangUp m p hp =>
      exact Hub.turnsOver_setPipe p.hangUp hp (by simp [World.withHub, Hub.hangUp, hp])
        (fun _ => rfl) fun _ => .lost rfl rfl rfl
  | receive hp _ hevents =>
      exact Hub.turnsOver_setPipe _ hp rfl (fun _ => rfl) fun _ => .received rfl hevents
  | @feed m p event hp _ _ hreceiver =>
      refine Hub.turnsOver_setPipe (p.send event) hp
        (by simp [World.withHub, Hub.sendEvent, hp]) (fun hne => if_neg hne) fun hm => ?_
      have hsend : p.send event = { p with events := p.events ++ [event] } := if_pos hreceiver
      exact .sent (if_pos hm) hreceiver (congrArg Pipe.events hsend)
  | @closeSender m p hp =>
      exact Hub.turnsOver_setPipe p.closeSender hp
        (by simp [World.withHub, Hub.closeSender, hp]) (fun _ => rfl) fun _ => .refl
  | fetch backend query => exact w.hub.turnsOver_fetch backend query
  | switchOff => exact w.hub.turnsOver_cancelFollower _
  | @follower m hub h =>
      rw [(Label.of_followerLabel w.hub m number).1]
      exact Hub.turnsOver_stepFollower h
  | abort => exact w.hub.turnsOver_finishFollower _

/-- What a watch sends comes last in the queue of its pipe. -/
theorem Step.queue_of_sentBy {event : Event} (step : Step w l w')
    (hl : l.sentBy number = some event) :
    w'.hub.queue number = w.hub.queue number ++ [event] := by
  have hinto : l.into number = some event := by
    cases l with
    | sent | called => exact hl
    | _ => cases hl
  have hturns := step.turnsOver number
  rw [hinto] at hturns
  cases hturns with
  | sent hcame _ queue_eq =>
      cases hcame
      exact queue_eq
  | kept hcame | received hcame | lost hcame => cases hcame

end Queue

section Received

variable {origin w w' : World} {l : Label} {t past : Trace} {number : Nat} {x x₀ : Watch}
  {query : Query} {policy : Policy}

/-- Nobody outside sends into the pipe of a watch. -/
theorem Step.watch?_of_fed {event : Event} (step : Step w (.fed number event) w') :
    w.hub.watch? number = none := by
  generalize hl : Label.fed number event = l at step
  cases step with
  | feed event' hp hwatch =>
      cases hl
      simp [Hub.watch?, hp, hwatch]
  | @watch _ _ _ effect => cases effect <;> cases hl
  | follower =>
      unfold Hub.followerLabel at hl
      split at hl <;> cases hl
  | _ => cases hl

/-- What comes into the pipe of a watch is what the watch sends. -/
theorem Step.into_eq_sentBy (step : Step w l w') (hx : w.hub.watch? number = some x) :
    l.into number = l.sentBy number := by
  cases l with
  | fed n event =>
      have hne : n ≠ number := by
        rintro rfl
        rw [step.watch?_of_fed] at hx
        cases hx
      simp [Label.into, Label.sentBy, hne]
  | _ => rfl

theorem Trace.received_snoc (origin : World) (t : Trace) (m : Moment) :
    received number origin (t ++ [m]) = t.received number origin ++
      taken ((t.last origin).hub.queue number) (m.world.hub.queue number) := by
  induction t generalizing origin with
  | nil => exact List.append_nil _
  | cons m' t ih => rw [List.cons_append, received, received, ih, last_cons, List.append_assoc]

/-- What was in the queue of a watch and was sent into it is what was received, and what is in the
queue. -/
theorem Run.queue_account (run : Run origin t w) (hx : origin.hub.watch? number = some x₀)
    (hreceived : w.hub.isReceived number = true) :
    origin.hub.queue number ++ t.sent number = t.received number origin ++ w.hub.queue number := by
  have hinv := run.induction_while (P := fun t w => Run origin t w ∧
    (w.hub.isReceived number = true → origin.hub.queue number ++ t.sent number =
      t.received number origin ++ w.hub.queue number)) hx
    ⟨.nil, fun _ => List.append_nil _⟩ ?_
  · exact hinv.2 hreceived
  · rintro t w l w' x ⟨run, haccount⟩ step hx
    refine ⟨.snoc run step, fun hreceived => ?_⟩
    have hstep := (step.turnsOver number).account hreceived
    calc origin.hub.queue number ++ Trace.sent (t ++ [⟨l, w'⟩]) number
        = t.received number origin ++ (w.hub.queue number ++ (l.into number).toList) := by
          rw [Trace.sent_snoc, ← List.append_assoc, haccount (step.isReceived_of hx hreceived),
            step.into_eq_sentBy hx, List.append_assoc]
      _ = Trace.received number origin (t ++ [⟨l, w'⟩]) ++ w'.hub.queue number := by
          rw [hstep, Trace.received_snoc, run.last_eq, List.append_assoc]

/-- Nothing is in the queue of a watch that has not begun. -/
def World.Untouched (w : World) : Prop :=
  ∀ {number : Nat} {x : Watch}, w.hub.watch? number = some x → x.phase = .created →
    w.hub.queue number = []

theorem Advance.not_created {heard : Bool} {cache : Cache} {x' : Watch}
    (h : Advance number x heard cache l x') : x'.phase ≠ .created := by
  cases h with
  | ended _ hstopped => simp [hstopped]
  | scheduled => cases hpolicy : x.policy <;> simp [Watch.goTo, Watch.begin, hpolicy]
  | missed => cases hpolicy : x.policy <;> simp [Watch.goTo, Watch.afterRead, hpolicy]
  | sentCached => cases x.policy <;> simp [Watch.afterCached]
  | _ => simp [Watch.goTo]

/-- A pipe gets a watch when it is opened, and at no other time. -/
theorem Step.length_le_of_opened (step : Step w l w') (hx : w.hub.watch? number = none)
    (hx' : w'.hub.watch? number = some x) : w.hub.pipes.length ≤ number := by
  refine Nat.le_of_not_lt fun hlt => ?_
  have hnone : w'.hub.watch? number = none := by
    cases step.cacheSide with
    | spared _ hub => rw [hub.watch?_eq, hx]
    | opened _ _ pipes _ hub =>
        obtain ⟨p, -, -, hpipes⟩ := pipes
        rw [hub.watch?_eq, Hub.watch?, hpipes, List.getElem?_append_left hlt]
        exact hx
    | @moved _ hub n y y' effect hy moves watches =>
        have hne : n ≠ number := by
          rintro rfl
          rw [hx] at hy
          cases hy
        rw [World.withHub, Hub.watch?_eq_join, watches, List.getElem?_set_ne hne,
          ← Hub.watch?_eq_join, hx]
    | stored | storedEqual | announced | removed | retained | released => exact hx
  rw [hnone] at hx'
  cases hx'

theorem Step.untouched (step : Step w l w') (h : w.Untouched) : w'.Untouched := by
  intro number x hx' hphase
  have hturns := step.turnsOver number
  cases hx : w.hub.watch? number with
  | none =>
      have hle := step.length_le_of_opened hx hx'
      exact hturns.eq_nil (Hub.queue_eq_nil hle) (.inr (Hub.isReceived_eq_false hle))
  | some y =>
      rcases step.watch_cases hx with ⟨hy, hl⟩ | ⟨y', hy', advance⟩
      · obtain rfl : y = x := Option.some.inj (hy.symm.trans hx')
        refine hturns.eq_nil (h hx hphase) (.inl ?_)
        rw [step.into_eq_sentBy hx, Label.sentBy_of_isOf hl]
      · obtain rfl : y' = x := Option.some.inj (hy'.symm.trans hx')
        exact absurd hphase advance.not_created

theorem World.untouched_start (cache : Cache) (outlets : Outlets) :
    (World.start cache outlets).Untouched := by
  intro number x hx
  simp [World.start, Hub.watch?] at hx

/-- As long as a watch is received, what it has sent is what was received of it, followed by what is
in the queue. -/
theorem Run.sent_eq_received {cache : Cache} {outlets : Outlets}
    (before : Run (.start cache outlets) past origin) (born : origin.Opened number query policy)
    (run : Run origin t w) (hreceived : w.hub.isReceived number = true) :
    t.sent number = t.received number origin ++ w.hub.queue number := by
  have untouched : origin.Untouched :=
    before.keeps Step.untouched (World.untouched_start cache outlets)
  have hempty : origin.hub.queue number = [] := untouched born rfl
  have haccount := run.queue_account born hreceived
  rwa [hempty, List.nil_append] at haccount

end Received
end RepoWatch
