import RepoWatch.Proofs.Schedule.Departure
import RepoWatch.Proofs.Schedule.Histories
/-!
# No watch waits in vain

Who takes the receiver of a watch away makes the job of the watch ready, and only its own turn takes
the job away, in which the watch ends. So whatever a schedule has been asked for: as soon as no job
is ready, every watch that is not received has ended.
-/

namespace RepoWatch

open Graphql

/-- Whether the receiver of a watch is gone. -/
def Pipe.isDeserted (p : Pipe) : Bool := p.watch.isSome && !p.receiverOpen

namespace Hub

def isDeserted (s : Hub) (number : Nat) : Bool := s.pipes[number]?.any Pipe.isDeserted

section Deserted

variable {s s' : Hub} {n number : Nat} {p p' : Pipe}

theorem isDeserted_iff :
    s.isDeserted n = true ↔ (∃ x, s.watch? n = some x) ∧ s.isReceived n = false := by
  unfold isDeserted watch? isReceived
  cases s.pipes[n]? with
  | none => simp
  | some p => simp [Pipe.isDeserted, Option.isSome_iff_exists]

theorem isDeserted_of_pipes (h : s'.pipes = s.pipes) (n : Nat) :
    s'.isDeserted n = s.isDeserted n := by
  rw [isDeserted, isDeserted, h]

theorem isDeserted_setPipe (hp : s.pipes[number]? = some p) (h : p'.isDeserted = p.isDeserted)
    (n : Nat) : (s.setPipe number p').isDeserted n = s.isDeserted n := by
  unfold isDeserted setPipe
  rw [List.getElem?_set]
  by_cases hn : number = n
  · subst hn
    obtain ⟨hlt, rfl⟩ := List.getElem?_eq_some_iff.1 hp
    simp [hlt, h]
  · simp [hn]

theorem isDeserted_setPipe_of_ne (s : Hub) (p : Pipe) (hn : number ≠ n) :
    (s.setPipe number p).isDeserted n = s.isDeserted n := by
  unfold isDeserted setPipe
  rw [List.getElem?_set_ne hn]

/-- Who opens a pipe holds the receiving end. -/
theorem isDeserted_append (h : s'.pipes = s.pipes ++ [p]) (hp : p.receiverOpen = true) (n : Nat) :
    s'.isDeserted n = s.isDeserted n := by
  unfold isDeserted
  rw [h, List.getElem?_append]
  split
  · rfl
  · rename_i hlt
    rw [List.getElem?_eq_none (Nat.le_of_not_lt hlt)]
    cases hget : [p][n - s.pipes.length]? with
    | none => rfl
    | some p' =>
        obtain rfl := List.mem_singleton.1 (List.mem_of_getElem? hget)
        simp [Pipe.isDeserted, hp]

/-- A watch that becomes another one keeps its receiver. -/
theorem isDeserted_moveWatch {x : Watch} (hp : s.pipes[number]? = some p) (hx : p.watch = some x)
    (hreceiver : p'.receiverOpen = p.receiverOpen) (y x' : Watch) (n : Nat) :
    (s.moveWatch number p' y x').isDeserted n = s.isDeserted n := by
  have hsame : (p'.withWatch x').isDeserted = p.isDeserted := by
    simp [Pipe.isDeserted, Pipe.withWatch, hx, hreceiver]
  exact isDeserted_setPipe (s := { s with cache := _ }) hp hsame n

theorem isDeserted_stepWatch {hub : Hub} {effect : Effect}
    (h : s.stepWatch number = some (hub, effect)) (n : Nat) :
    hub.isDeserted n = s.isDeserted n := by
  obtain ⟨p, x, x', hp, hx, -, rfl⟩ := stepWatch_eq_some h
  exact isDeserted_moveWatch (s := { s with cache := _ }) hp hx (deliver_receiverOpen p effect) x
    x' n

theorem isDeserted_answerWatch (s : Hub) (number : Nat) (outcome : Except ErrorChain Json)
    (n : Nat) : (s.answerWatch number outcome).isDeserted n = s.isDeserted n := by
  unfold answerWatch
  split
  · rename_i p hp
    split
    · rename_i x hx
      exact isDeserted_moveWatch hp hx rfl x _ n
    · rfl
  · rfl

theorem isDeserted_crashWatch (s : Hub) (number n : Nat) :
    (s.crashWatch number).isDeserted n = s.isDeserted n := by
  unfold crashWatch
  split
  · rename_i p hp
    split
    · rename_i x hx
      exact isDeserted_moveWatch hp hx rfl x _ n
    · rfl
  · rfl

theorem isDeserted_noteAll (s : Hub) (ns : List Note) (n : Nat) :
    (s.noteAll ns).isDeserted n = s.isDeserted n := by
  rw [noteAll_eq_with]
  exact isDeserted_of_pipes rfl n

theorem isDeserted_sendEvent (s : Hub) (number : Nat) (event : Event) (n : Nat) :
    (s.sendEvent number event).isDeserted n = s.isDeserted n := by
  unfold sendEvent
  split
  · rename_i p hp
    apply isDeserted_setPipe hp
    unfold Pipe.send
    split <;> rfl
  · rfl

theorem isDeserted_closeSender (s : Hub) (number n : Nat) :
    (s.closeSender number).isDeserted n = s.isDeserted n := by
  unfold closeSender
  split
  · rename_i p hp
    have hsame : p.closeSender.isDeserted = p.isDeserted := rfl
    exact isDeserted_setPipe hp hsame n
  · rfl

theorem isDeserted_attach (s : Hub) (query : Query) (number n : Nat) :
    (s.attach query number).isDeserted n = s.isDeserted n := by
  unfold attach
  split
  · rename_i p hp
    have hsame : ({ p with follower := some (.create query) } : Pipe).isDeserted = p.isDeserted :=
      rfl
    exact isDeserted_setPipe (s := { s with outlets := _ }) hp hsame n
  · rfl

/-- Who switches off a follower takes nothing away from the watch: the follower does. -/
theorem isDeserted_cancelFollowers (s : Hub) (numbers : List Nat) (n : Nat) :
    (s.cancelFollowers numbers).isDeserted n = s.isDeserted n := by
  have hcancel : ∀ (s : Hub) (number : Nat),
      (s.cancelFollower number).isDeserted n = s.isDeserted n := by
    intro s number
    unfold cancelFollower
    split
    · rename_i p hp
      split
      · rename_i f _
        have hsame : ({ p with follower := some f.cancel } : Pipe).isDeserted = p.isDeserted := rfl
        exact isDeserted_setPipe hp hsame n
      · rfl
    · rfl
  induction numbers generalizing s with
  | nil => rfl
  | cons number numbers ih => exact (ih _).trans (hcancel s number)

theorem isDeserted_follow (s : Hub) (query : Query) (n : Nat) :
    (s.follow query).isDeserted n = s.isDeserted n :=
  (isDeserted_cancelFollowers _ _ n).trans (isDeserted_attach s query _ n)

theorem isDeserted_hangUp (s : Hub) (hn : number ≠ n) :
    (s.hangUp number).isDeserted n = s.isDeserted n := by
  unfold hangUp
  split
  · exact isDeserted_setPipe_of_ne s _ hn
  · rfl

theorem isDeserted_finishFollower (s : Hub) (hn : number ≠ n) :
    (s.finishFollower number).isDeserted n = s.isDeserted n := by
  unfold finishFollower
  split
  · split
    · split
      · rfl
      · exact isDeserted_setPipe_of_ne { s with outlets := _ } _ hn
    · rfl
  · rfl

/-- A follower takes no receiver away but its own. -/
theorem isDeserted_stepFollower (h : s.stepFollower number = some s') (hn : number ≠ n) :
    s'.isDeserted n = s.isDeserted n := by
  obtain ⟨p, f, -, -, -, ⟨event, -, -, rfl⟩ | ⟨-, -, rfl⟩ | ⟨event, events, -, -, rfl⟩ |
    ⟨-, -, -, rfl⟩⟩ := stepFollower_cases h
  · exact (isDeserted_of_pipes (handle_eq _ _ _).1 n).trans (isDeserted_setPipe_of_ne s _ hn)
  · exact isDeserted_finishFollower s hn
  · exact isDeserted_setPipe_of_ne s _ hn
  · exact isDeserted_finishFollower s hn

end Deserted
end Hub

namespace Schedule

variable {ι : Type}

section Heeds

variable {s s' s'' : Schedule ι} {number : Nat}

/-- No receiver is taken away, and no job is put off. -/
structure Heeds (s s' : Schedule ι) : Prop where
  deserted_eq : ∀ n, s'.hub.isDeserted n = s.hub.isDeserted n
  ready_subset : s.ready ⊆ s'.ready

theorem Heeds.refl (s : Schedule ι) : s.Heeds s := ⟨fun _ => rfl, List.Subset.refl _⟩

theorem Heeds.trans (h : s.Heeds s') (h' : s'.Heeds s'') : s.Heeds s'' :=
  ⟨fun n => (h'.deserted_eq n).trans (h.deserted_eq n),
    List.Subset.trans h.ready_subset h'.ready_subset⟩

theorem heeds_withHub {hub : Hub} (h : ∀ n, hub.isDeserted n = s.hub.isDeserted n) :
    s.Heeds (s.withHub hub) :=
  ⟨h, List.Subset.refl _⟩

theorem Wakes.heeds (h : s.Wakes s') : s.Heeds s' := by
  refine ⟨fun n => ?_, h.ready_subset⟩
  rw [h.hub_eq]

theorem heeds_wake (s : Schedule ι) (job : Job) : s.Heeds (s.wake job) := (s.wakes_wake job).heeds

theorem heeds_wake_if (s : Schedule ι) (c : Bool) (job : Job) :
    s.Heeds (if c then s.wake job else s) := by
  split
  · exact s.heeds_wake job
  · exact .refl s

theorem heeds_stepWatch {hub : Hub} {effect : Effect}
    (h : s.hub.stepWatch number = some (hub, effect)) :
    s.Heeds (((s.withHub hub).wakeFor number effect).noticeStop number) :=
  (heeds_withHub (Hub.isDeserted_stepWatch h)).trans (wakes_step _ _ _).heeds

theorem heeds_proceed (s : Schedule ι) (number : Nat)
    (plan : Plan ι (Except ErrorChain Reply)) : s.Heeds (s.proceed number plan) := by
  let s₁ := { s with environment := (plan.advance s.environment).2 }.collectNotes
  have hcollect : s.Heeds s₁ :=
    ⟨s.hub.isDeserted_noteAll _, List.Subset.refl _⟩
  have hanswer : ∀ outcome, s₁.Heeds (s₁.withHub (s₁.hub.answerWatch number outcome)) :=
    fun outcome => heeds_withHub (s₁.hub.isDeserted_answerWatch number outcome)
  have hcrash : s₁.Heeds ((s₁.withHub (s₁.hub.crashWatch number)).noticeStop number) :=
    (heeds_withHub (s₁.hub.isDeserted_crashWatch number)).trans (wakes_noticeStop _ number).heeds
  unfold proceed
  dsimp only
  split
  · exact ⟨hcollect.deserted_eq, hcollect.ready_subset⟩
  · exact hcollect.trans (hanswer _)
  · exact hcollect.trans (hanswer _)
  · exact hcollect.trans hcrash

theorem heeds_rest (s : Schedule ι) (number : Nat) : s.Heeds (s.rest number) := by
  unfold rest listen
  split
  · split
    · exact .refl s
    · split
      · exact .refl s
      · exact ⟨fun _ => rfl, List.Subset.refl _⟩
  · exact .refl s

theorem heeds_runWatch (number fuel : Nat) (s : Schedule ι) :
    s.Heeds (runWatch number fuel s) := by
  induction fuel generalizing s with
  | zero => exact .refl s
  | succ fuel ih =>
      unfold runWatch
      split
      · rename_i hstep
        have hheeds := heeds_stepWatch hstep
        dsimp only
        split
        · exact (hheeds.trans (heeds_proceed _ _ _)).trans (ih _)
        · exact hheeds.trans (ih _)
      · split
        · have hforget : s.Heeds (s.forget number) := ⟨fun _ => rfl, List.Subset.refl _⟩
          exact (hforget.trans (heeds_proceed _ _ _)).trans (ih _)
        · exact s.heeds_rest number

end Heeds

section Followers

variable {s : Schedule ι}

/-- What a follower does: it leaves the watches and the jobs alone, and takes no receiver away but
its own. -/
structure OnlyFollows (number : Nat) (s s' : Schedule ι) : Prop where
  spares : s.hub.Spares s'.hub
  ready_eq : s'.ready = s.ready
  deserted_eq : ∀ {n}, number ≠ n → s'.hub.isDeserted n = s.hub.isDeserted n

theorem onlyFollows_runFollower (number fuel : Nat) (s : Schedule ι) :
    s.OnlyFollows number (runFollower number fuel s) := by
  induction fuel generalizing s with
  | zero => exact ⟨.refl _, rfl, fun _ => rfl⟩
  | succ fuel ih =>
      unfold runFollower
      split
      · rename_i hub hstep
        have hrest := ih (s.withHub hub)
        exact ⟨(Hub.spares_stepFollower hstep).trans hrest.spares, hrest.ready_eq,
          fun hn => (hrest.deserted_eq hn).trans (Hub.isDeserted_stepFollower hstep hn)⟩
      · exact ⟨.refl _, rfl, fun _ => rfl⟩

/-- In its job a follower follows, and wakes the watch if it has taken the receiver away. -/
theorem runJob_follower (s : Schedule ι) (number : Nat) :
    ∃ s₁, s.OnlyFollows number s₁ ∧ s.runJob (.follower number) =
      if s.isReceived number && !s₁.isReceived number && s₁.isRunning number
      then s₁.wake (.watch number) else s₁ := by
  refine ⟨_, ?_, rfl⟩
  split
  · exact ⟨s.hub.spares_finishFollower number, rfl, s.hub.isDeserted_finishFollower⟩
  · exact s.onlyFollows_runFollower number _

end Followers

/-- The job of a watch is ready if its receiver is gone and it has not ended. -/
def Attends (s : Schedule ι) (n : Nat) : Prop :=
  ∀ x, s.hub.watch? n = some x → s.hub.isReceived n = false → x.phase ≠ .stopped →
    .watch n ∈ s.ready

section Attends

variable {s s' : Schedule ι} {n : Nat} {x x' : Watch} {w : World}

theorem isRunning_eq_true (hx : s.hub.watch? n = some x) (hphase : x.phase ≠ .stopped) :
    s.isRunning n = true := by
  rw [isRunning, Schedule.watch?, hx, Option.map_some, Watch.isStopped_eq_false hphase]
  rfl

theorem Leads.not_stopped (hlead : s.Leads s') (hw : w.Carries s) (hx : s.hub.watch? n = some x)
    (hx' : s'.hub.watch? n = some x') (hphase' : x'.phase ≠ .stopped) : x.phase ≠ .stopped := by
  obtain ⟨t, w', run, hw'⟩ := hlead w hw
  rw [← hw.hub_eq] at hx
  obtain ⟨y, hy, hstays⟩ := run.stopped_stays hx
  rw [hw'.hub_eq] at hy
  obtain rfl : x' = y := by simpa [hx'] using hy
  exact fun hstopped => hphase' (hstays hstopped)

/-- Who takes no receiver away and puts no job off attends to the watches as before. -/
theorem Attends.of_leads (h : s.Attends n) (hw : w.Carries s) (hlead : s.Leads s')
    (hready : s.ready ⊆ s'.ready)
    (hdeserted : s'.hub.isDeserted n = true → s.hub.isDeserted n = true) : s'.Attends n := by
  intro x' hx' hgone' hphase'
  obtain ⟨⟨x, hx⟩, hgone⟩ :=
    Hub.isDeserted_iff.1 (hdeserted (Hub.isDeserted_iff.2 ⟨⟨x', hx'⟩, hgone'⟩))
  exact hready (h x hx hgone (hlead.not_stopped hw hx hx' hphase'))

theorem Attends.of_heeds (h : s.Attends n) (hw : w.Carries s) (hlead : s.Leads s')
    (hheeds : s.Heeds s') : s'.Attends n :=
  h.of_leads hw hlead hheeds.ready_subset fun hdeserted => hheeds.deserted_eq n ▸ hdeserted

/-- Who may have taken a receiver away attends to the watch by waking it, if it runs. -/
theorem attends_wake {c : Bool} (h : s.isRunning n = true → c = true) :
    (if c then s.wake (.watch n) else s).Attends n := by
  intro x hx _ hphase
  have hhub : (if c then s.wake (.watch n) else s).hub = s.hub := by
    split
    · exact (s.wake_eq _).1
    · rfl
  rw [hhub] at hx
  rw [if_pos (h (isRunning_eq_true hx hphase))]
  exact s.mem_ready_wake _

theorem Attends.runFollower (h : s.Attends n) (hw : w.Carries s) (number : Nat) :
    (s.runJob (.follower number)).Attends n := by
  obtain ⟨s₁, hfollows, hjob⟩ := s.runJob_follower number
  by_cases htaken : number = n ∧ s.isReceived n = true ∧ s₁.isReceived n = false
  · obtain ⟨rfl, hreceived, hgone⟩ := htaken
    rw [hjob, hreceived, hgone]
    exact attends_wake id
  · -- the receiver was gone before, if it is gone
    have hwake := s₁.heeds_wake_if
      (s.isReceived number && !s₁.isReceived number && s₁.isRunning number) (.watch number)
    rw [← hjob] at hwake
    refine h.of_leads hw (s.leads_runJob _) (hfollows.ready_eq ▸ hwake.ready_subset) ?_
    intro hdeserted
    rw [hwake.deserted_eq] at hdeserted
    by_cases hn : number = n
    · obtain ⟨⟨x, hx⟩, hgone⟩ := Hub.isDeserted_iff.1 hdeserted
      rw [hfollows.spares.watch?_eq] at hx
      refine Hub.isDeserted_iff.2 ⟨⟨x, hx⟩, ?_⟩
      cases hreceived : s.hub.isReceived n with
      | false => rfl
      | true => exact absurd ⟨hn, hreceived, hgone⟩ htaken
    · rw [← hfollows.deserted_eq hn]
      exact hdeserted

/-- In its turn a watch that is not received ends. -/
theorem attends_runWatch (hw : w.Carries s) : (s.runJob (.watch n)).Attends n := by
  intro x' hx' hgone' hphase'
  exfalso
  have hheeds : s.Heeds (s.runJob (.watch n)) := s.heeds_runWatch n s.watchFuel
  have hdeserted := Hub.isDeserted_iff.2 ⟨⟨x', hx'⟩, hgone'⟩
  rw [hheeds.deserted_eq] at hdeserted
  obtain ⟨⟨x, hx⟩, hgone⟩ := Hub.isDeserted_iff.1 hdeserted
  have hphase := (s.leads_runJob (.watch n)).not_stopped hw hx hx' hphase'
  obtain ⟨y, hy, hstopped⟩ := (givesUp_runJob hx hgone hphase).stopped
  obtain rfl : x' = y := by simpa [hx'] using hy
  exact hphase' hstopped

/-- The next job is another one, or the turn of the watch. -/
theorem Attends.runNext (h : s.Attends n) (hw : w.Carries s) {job : Job} {ready : List Job}
    (hready : s.ready = job :: ready) : ({ s with ready }.runJob job).Attends n := by
  have hw' : w.Carries { s with ready } :=
    ⟨hw.hub_eq, hw.unannounced_eq, hw.call_eq, hw.waiting⟩
  by_cases hjob : job = .watch n
  · subst hjob
    exact attends_runWatch hw'
  · have hothers : { s with ready }.Attends n := by
      intro x hx hgone hphase
      have hmem := h x hx hgone hphase
      rw [hready] at hmem
      exact (List.mem_cons.1 hmem).resolve_left (Ne.symm hjob)
    cases job with
    | watch number =>
        exact hothers.of_heeds hw' (leads_runJob _ _) (heeds_runWatch number _ _)
    | follower number => exact hothers.runFollower hw' number

theorem Attends.settleWithin (fuel : Nat) (h : s.Attends n) (hw : w.Carries s) :
    (settleWithin fuel s).Attends n := by
  induction fuel generalizing s w with
  | zero => exact h
  | succ fuel ih =>
      unfold Schedule.settleWithin
      split
      · exact h
      · rename_i job ready hready
        obtain ⟨t, w', -, hw'⟩ := s.leads_runNext job ready w hw
        exact ih (h.runNext hw hready) hw'

theorem Attends.settle (h : s.Attends n) (hw : w.Carries s) : s.settle.Attends n :=
  h.settleWithin s.settleFuel hw

theorem heeds_moveTo (s : Schedule ι) (time : Nat) : s.Heeds (s.moveTo time) := by
  have hmoved : s.Heeds { s with environment := s.environment.atTime time } :=
    ⟨fun _ => rfl, List.Subset.refl _⟩
  exact hmoved.trans (wakes_foldl (fun x : Suspended ι => Job.watch x.number) _ _).heeds

theorem Attends.advanceWithin (limit fuel : Nat) (h : s.Attends n) (hw : w.Carries s) :
    (advanceWithin limit fuel s).Attends n := by
  induction fuel generalizing s w with
  | zero => exact h
  | succ fuel ih =>
      unfold Schedule.advanceWithin
      split
      · rename_i time _
        have hmoved := h.of_heeds hw (s.leads_moveTo time) (s.heeds_moveTo time)
        obtain ⟨t, w₁, -, hw₁⟩ := s.leads_moveTo time w hw
        obtain ⟨t', w₂, -, hw₂⟩ := (s.moveTo time).leads_settle w₁ hw₁
        exact ih (hmoved.settle hw₁) hw₂
      · exact h

theorem Attends.advance (h : s.Attends n) (hw : w.Carries s) (milliseconds : Nat) :
    (s.advance milliseconds).Attends n := by
  obtain ⟨t, w', -, hw'⟩ := s.leads_settle w hw
  exact (h.settle hw).advanceWithin _ _ hw'

end Attends

section Histories

variable {s s' : Schedule ι} {n number : Nat} {w : World}

theorem heeds_openWatch (s : Schedule ι) (query : Query) (policy : Policy) :
    s.Heeds (s.openWatch query policy) := by
  have hopen : s.Heeds (s.withHub (s.hub.openWatch query policy)) :=
    heeds_withHub (Hub.isDeserted_append rfl rfl)
  exact hopen.trans (heeds_wake _ _)

theorem heeds_openPipe (s : Schedule ι) : s.Heeds s.openPipe :=
  heeds_withHub (Hub.isDeserted_append rfl rfl)

theorem heeds_takeEvents (s : Schedule ι) (number : Nat) : s.Heeds (s.takeEvents number).2 := by
  unfold takeEvents
  split
  · rename_i p hp
    have hsame : ({ p with events := [] } : Pipe).isDeserted = p.isDeserted := rfl
    exact heeds_withHub (Hub.isDeserted_setPipe hp hsame)
  · exact .refl s

/-- What touches no pipe takes no receiver away. -/
theorem heeds_of_pipes {hub : Hub} (h : hub.pipes = s.hub.pipes) : s.Heeds (s.withHub hub) :=
  heeds_withHub (Hub.isDeserted_of_pipes h)

theorem heeds_put (s : Schedule ι) (query : Query) (data : Json) :
    s.Heeds (s.put query data).2 := by
  have hput : s.Heeds (s.changeCache (·.put query data)) := heeds_of_pipes rfl
  unfold put
  dsimp only
  split
  · exact hput.trans (wakes_wakeListeners _).heeds
  · exact hput

theorem heeds_putAll (s : Schedule ι) (queries : List Query) (data : Json) :
    s.Heeds (s.putAll queries data).2 := by
  unfold putAll
  generalize (0 : Nat) = count
  induction queries generalizing s count with
  | nil => exact .refl s
  | cons query queries ih => exact (s.heeds_put query data).trans (ih _ _)

theorem heeds_send (s : Schedule ι) (number : Nat) (event : Event) :
    s.Heeds (s.send number event).2 := by
  unfold send
  split
  · split
    · exact (heeds_withHub (s.hub.isDeserted_sendEvent number event)).trans (heeds_wake _ _)
    · exact .refl s
  · exact .refl s

theorem heeds_closeSender (s : Schedule ι) (number : Nat) : s.Heeds (s.closeSender number).2 := by
  unfold closeSender
  split
  · split
    · exact (heeds_withHub (s.hub.isDeserted_closeSender number)).trans (heeds_wake _ _)
    · exact .refl s
  · exact .refl s

theorem heeds_fetchQuery (s : Schedule ι) (backend : Backend) (query : Query) :
    s.Heeds (s.fetchQuery backend query) := by
  have hfollow : ∀ s₁ : Schedule ι, s.Heeds s₁ →
      s.Heeds ((s₁.withHub (s₁.hub.follow query)).wake (.follower s.hub.nextNumber)) := by
    intro s₁ hheeds
    have hfollow := heeds_withHub (s₁.hub.isDeserted_follow query)
    exact (hheeds.trans hfollow).trans (heeds_wake _ _)
  let s₀ := s.withHub (s.hub.note (.fetching query))
  have hnote : s.Heeds s₀ := heeds_of_pipes rfl
  cases backend with
  | hub =>
      have hnext := hfollow _ (hnote.trans (s₀.heeds_openWatch query feedPolicy))
      unfold fetchQuery
      dsimp only
      split
      · exact hnext.trans (heeds_wake _ _)
      · exact hnext
  | outside =>
      have hnext := hfollow _ (hnote.trans s₀.heeds_openPipe)
      unfold fetchQuery
      dsimp only
      split
      · exact hnext.trans (heeds_wake _ _)
      · exact hnext

theorem heeds_cancel (s : Schedule ι) : s.Heeds s.cancel := by
  have hcancel : s.Heeds (s.withHub s.hub.cancel) :=
    heeds_withHub (Hub.isDeserted_cancelFollowers s.hub.clearRegistry _)
  exact hcancel.trans (wakes_foldl (fun entry => Job.follower entry.2) s.hub.registry _).heeds

theorem heeds_dropFeed (s : Schedule ι) : s.Heeds s.dropFeed := by
  have hdrop : s.Heeds (s.withHub s.hub.dropFeed) :=
    heeds_withHub (Hub.isDeserted_cancelFollowers s.hub.clearRegistry _)
  exact hdrop.trans (wakes_foldl (fun entry => Job.follower entry.2) s.hub.registry _).heeds

theorem Attends.hangUp (h : s.Attends n) (hw : w.Carries s)
    (hlead : s.Leads (s.hangUp number)) : (s.hangUp number).Attends n := by
  by_cases hn : number = n
  · subst hn
    exact attends_wake (s := s.withHub (s.hub.hangUp number)) id
  · have hwake := heeds_wake_if (s.withHub (s.hub.hangUp number))
      ((s.withHub (s.hub.hangUp number)).isRunning number) (.watch number)
    refine h.of_leads hw hlead hwake.ready_subset fun hdeserted => ?_
    rw [← s.hub.isDeserted_hangUp hn]
    exact (hwake.deserted_eq n).symm.trans hdeserted

/-- Whatever a schedule is asked for, it attends to its watches. -/
theorem Asked.attends (asked : Asked s s') (h : s.Attends n) (hw : w.Carries s) :
    s'.Attends n := by
  have hlead := asked.leads
  cases asked with
  | openWatch query policy => exact h.of_heeds hw hlead (s.heeds_openWatch query policy)
  | hangUp => exact h.hangUp hw hlead
  | takeEvents => exact h.of_heeds hw hlead (s.heeds_takeEvents _)
  | erase | clear | subscribe | unsubscribe | drain | takeNotes =>
      exact h.of_heeds hw hlead (heeds_of_pipes rfl)
  | put query data => exact h.of_heeds hw hlead (s.heeds_put query data)
  | putAll queries data => exact h.of_heeds hw hlead (s.heeds_putAll queries data)
  | send event => exact h.of_heeds hw hlead (s.heeds_send _ event)
  | closeSender => exact h.of_heeds hw hlead (s.heeds_closeSender _)
  | fetchQuery _ backend query => exact h.of_heeds hw hlead (s.heeds_fetchQuery backend query)
  | cancel => exact h.of_heeds hw hlead s.heeds_cancel
  | dropFeed => exact h.of_heeds hw hlead s.heeds_dropFeed
  | settle => exact h.settle hw
  | advance milliseconds => exact h.advance hw milliseconds

variable {outlets : Outlets} {environment : Environment ι}
  {fetch : Query → Plan ι (Except ErrorChain Reply)}

theorem History.attends (history : History (initial outlets environment fetch) s) (n : Nat) :
    s.Attends n := by
  induction history with
  | nil =>
      intro x hx
      cases hx
  | snoc history asked ih =>
      obtain ⟨t, w, -, hw⟩ := history.run
      exact asked.attends ih hw

/-- When no job is ready, a watch that is not received has ended. -/
theorem History.stopped (history : History (initial outlets environment fetch) s) {x : Watch}
    (hready : s.ready = []) (hx : s.hub.watch? n = some x) (hgone : s.hub.isReceived n = false) :
    x.phase = .stopped := by
  have hnone : .watch n ∉ s.ready := by
    rw [hready]
    exact List.not_mem_nil
  exact Classical.not_not.1 fun hphase => hnone (history.attends n x hx hgone hphase)

end Histories
end Schedule
end RepoWatch
