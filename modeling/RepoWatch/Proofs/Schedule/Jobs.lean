import RepoWatch.Proofs.Feed.Registry
import RepoWatch.Proofs.World.Deeds
import RepoWatch.Proofs.World.Views
/-!
# Jobs are runs

Whatever the jobs of a schedule do, in the order in which the schedule lets them, is a run of the
world around its hub.
-/

namespace RepoWatch

open Graphql

variable {ι : Type}

namespace Hub

variable {s : Hub} {number : Nat} {x : Watch}

theorem watch?_moveWatch {p : Pipe} (hp : s.pipes[number]? = some p) (p' : Pipe) (x x' : Watch)
    (m : Nat) :
    (s.moveWatch number p' x x').watch? m = if m = number then some x' else s.watch? m := by
  have hlt := (List.getElem?_eq_some_iff.1 hp).1
  rw [watch?_eq_join, watches_moveWatch, List.getElem?_set]
  by_cases hm : number = m
  · subst hm
    simp [hlt]
  · rw [if_neg hm, if_neg (Ne.symm hm), watch?_eq_join]

theorem watch?_stepWatch {hub : Hub} {effect : Effect}
    (h : s.stepWatch number = some (hub, effect)) :
    ∃ x x', s.watch? number = some x ∧ x.step (s.isReceived number) s.cache = some (x', effect) ∧
      ∀ m, hub.watch? m = if m = number then some x' else s.watch? m := by
  obtain ⟨p, x, x', hp, hx, hstep, rfl⟩ := stepWatch_eq_some h
  refine ⟨x, x', by simp [watch?, hp, hx], isReceived_eq hp ▸ hstep, fun m => ?_⟩
  exact watch?_moveWatch (s := { s with cache := _ }) hp _ x x' m

theorem watch?_answerWatch (hx : s.watch? number = some x) (outcome : Except ErrorChain Json)
    {m : Nat} (hm : m ≠ number) : (s.answerWatch number outcome).watch? m = s.watch? m := by
  obtain ⟨p, hp, hpx⟩ := watch?_eq_some hx
  rw [answerWatch_eq hp hpx, watch?_moveWatch hp, if_neg hm]

theorem watch?_crashWatch (hx : s.watch? number = some x) {m : Nat} (hm : m ≠ number) :
    (s.crashWatch number).watch? m = s.watch? m := by
  obtain ⟨p, hp, hpx⟩ := watch?_eq_some hx
  rw [crashWatch_eq hp hpx, watch?_moveWatch hp, if_neg hm]

theorem noteAll_eq_with (s : Hub) (ns : List Note) :
    s.noteAll ns = { s with journal := (s.noteAll ns).journal } := by
  induction ns generalizing s with
  | nil => rfl
  | cons n ns ih => exact ih (s.note n)

end Hub

/-- A world around the hub of a schedule, in which nobody is in the middle of anything, and in which
the watches wait for the requests that the schedule keeps for them. -/
structure World.Carries (w : World) (s : Schedule ι) : Prop where
  hub_eq : w.hub = s.hub
  unannounced_eq : w.unannounced = []
  call_eq : w.call = none
  waiting : ∀ x ∈ s.suspended, ∃ y, s.hub.watch? x.number = some y ∧ y.phase = .fetching

namespace Schedule

/-- One schedule becomes another one by a run of the world around it. -/
def Leads (s s' : Schedule ι) : Prop :=
  ∀ w, w.Carries s → ∃ t w', Run w t w' ∧ w'.Carries s'

variable {s s' s'' : Schedule ι} {number : Nat}

theorem Leads.refl (s : Schedule ι) : s.Leads s := fun w h => ⟨[], w, .nil, h⟩

theorem Leads.trans (h : s.Leads s') (h' : s'.Leads s'') : s.Leads s'' := by
  intro w hw
  obtain ⟨t, w', run, hw'⟩ := h w hw
  obtain ⟨t', w'', run', hw''⟩ := h' w' hw'
  exact ⟨t ++ t', w'', run.append run', hw''⟩

theorem leads_of_hub_eq (hhub : s'.hub = s.hub) (hsuspended : ∀ x ∈ s'.suspended, x ∈ s.suspended) :
    s.Leads s' := by
  intro w hw
  refine ⟨[], w, .nil, hw.hub_eq.trans hhub.symm, hw.unannounced_eq, hw.call_eq, fun x hx => ?_⟩
  rw [hhub]
  exact hw.waiting x (hsuspended x hx)

theorem leads_of_eq (h : s'.hub = s.hub ∧ s'.suspended = s.suspended) : s.Leads s' := by
  obtain ⟨hhub, hsuspended⟩ := h
  exact leads_of_hub_eq hhub fun x hx => hsuspended ▸ hx

/-- A step that leaves alone the watches that wait for their requests. -/
theorem leads_of_step {hub : Hub}
    (hstep : ∀ w, w.Carries s → ∃ l, Step w l (w.withHub hub))
    (hwatch : ∀ n y, s.hub.watch? n = some y → hub.watch? n = some y) :
    s.Leads (s.withHub hub) := by
  intro w hw
  obtain ⟨l, step⟩ := hstep w hw
  refine ⟨_, w.withHub hub, .snoc .nil step, rfl, hw.unannounced_eq, hw.call_eq, fun x hx => ?_⟩
  obtain ⟨y, hy, hphase⟩ := hw.waiting x hx
  exact ⟨y, hwatch _ _ hy, hphase⟩

section Waking

theorem wake_eq (s : Schedule ι) (job : Job) :
    (s.wake job).hub = s.hub ∧ (s.wake job).suspended = s.suspended := by
  unfold wake
  split <;> exact ⟨rfl, rfl⟩

theorem foldl_wake_eq {α : Type} (job : α → Job) (xs : List α) (s : Schedule ι) :
    (xs.foldl (fun s x => s.wake (job x)) s).hub = s.hub ∧
      (xs.foldl (fun s x => s.wake (job x)) s).suspended = s.suspended := by
  induction xs generalizing s with
  | nil => exact ⟨rfl, rfl⟩
  | cons x xs ih =>
      obtain ⟨hhub, hsuspended⟩ := s.wake_eq (job x)
      obtain ⟨hhub', hsuspended'⟩ := ih (s.wake (job x))
      exact ⟨hhub'.trans hhub, hsuspended'.trans hsuspended⟩

theorem wakeListeners_eq (s : Schedule ι) :
    s.wakeListeners.hub = s.hub ∧ s.wakeListeners.suspended = s.suspended :=
  foldl_wake_eq Job.watch s.listeners { s with listeners := [] }

theorem wakeFor_eq (s : Schedule ι) (number : Nat) (effect : Effect) :
    (s.wakeFor number effect).hub = s.hub ∧
      (s.wakeFor number effect).suspended = s.suspended := by
  cases effect with
  | send | call => exact s.wake_eq _
  | announce => exact s.wakeListeners_eq
  | none | insert => exact ⟨rfl, rfl⟩

theorem leads_wake (s : Schedule ι) (job : Job) : s.Leads (s.wake job) :=
  leads_of_eq (s.wake_eq job)

theorem Leads.wake_if (h : s.Leads s') (c : Bool) (job : Job) :
    s.Leads (if c then s'.wake job else s') := by
  split
  · exact h.trans (s'.leads_wake job)
  · exact h

theorem leads_wakeListeners (s : Schedule ι) : s.Leads s.wakeListeners :=
  leads_of_eq s.wakeListeners_eq

theorem mem_forget {x : Suspended ι} :
    x ∈ (s.forget number).suspended ↔ x ∈ s.suspended ∧ x.number ≠ number := by
  simp [forget]

theorem noticeStop_hub (s : Schedule ι) (number : Nat) : (s.noticeStop number).hub = s.hub := by
  unfold noticeStop
  split
  · rfl
  · exact (wake_eq _ _).1

theorem mem_noticeStop {x : Suspended ι} (hx : x ∈ (s.noticeStop number).suspended) :
    x ∈ s.suspended ∧ (x.number = number → s.isRunning number = true) := by
  unfold noticeStop at hx
  split at hx
  · rename_i hrunning
    exact ⟨hx, fun _ => hrunning⟩
  · rw [(wake_eq _ _).2, mem_forget] at hx
    exact ⟨hx.1, fun hn => absurd hn hx.2⟩

theorem leads_rest (s : Schedule ι) (number : Nat) : s.Leads (s.rest number) := by
  unfold rest listen
  split
  · split
    · exact .refl s
    · split
      · exact .refl s
      · exact leads_of_hub_eq rfl fun x hx => hx
  · exact .refl s

end Waking

/-- A watch that makes a step, and is forgotten when it has stopped. -/
theorem leads_stepWatch {hub : Hub} {effect : Effect}
    (h : s.hub.stepWatch number = some (hub, effect)) :
    s.Leads (((s.withHub hub).wakeFor number effect).noticeStop number) := by
  intro w hw
  obtain ⟨x, x', hx, hstep, hwatch⟩ := Hub.watch?_stepWatch h
  have hhub := wakeFor_eq (s.withHub hub) number effect
  have step : Step w (effect.label number x.query w.hub.cache) (w.withHub hub) := by
    rw [← hw.hub_eq] at hx h
    exact .watch hx h
  refine ⟨_, w.withHub hub, .snoc .nil step, ?_, hw.unannounced_eq, hw.call_eq, ?_⟩
  · rw [noticeStop_hub, hhub.1]
    rfl
  · intro y hy
    obtain ⟨hy, hrunning⟩ := mem_noticeStop hy
    rw [hhub.2] at hy
    obtain ⟨z, hz, hphase⟩ := hw.waiting y hy
    rw [noticeStop_hub, hhub.1]
    refine ⟨z, (hwatch y.number).trans ?_, hphase⟩
    by_cases hn : y.number = number
    · -- its receiver is gone, so that it has stopped and is forgotten
      obtain rfl : z = x := by simpa [hn, hx] using hz.symm
      have hstopped : x'.isStopped = true := by
        simp only [Watch.step, hphase] at hstep
        split at hstep <;> cases hstep
        rfl
      replace hrunning := hrunning hn
      rw [isRunning, Schedule.watch?, hhub.1] at hrunning
      simp [withHub, hwatch, hstopped] at hrunning
    · rw [if_neg hn, hz]

theorem leads_collectNotes (s : Schedule ι) (environment : Environment ι) :
    s.Leads { s with environment }.collectNotes := by
  have hhub := Hub.noteAll_eq_with s.hub environment.notes.reverse
  have hjournal : s.Leads (s.withHub (s.hub.noteAll environment.notes.reverse)) := by
    refine leads_of_step (fun w hw => ⟨.silent, ?_⟩) fun n y hy => ?_
    · rw [hhub, ← hw.hub_eq]
      exact .journal w _
    · rw [hhub]
      exact hy
  exact hjournal.trans (leads_of_hub_eq rfl fun x hx => hx)

/-- The request of a watch goes on, when nothing else is kept for the watch. -/
theorem leads_proceed {x : Watch} (hx : s.hub.watch? number = some x) (hphase : x.phase = .fetching)
    (hfree : ∀ y ∈ s.suspended, y.number ≠ number)
    (plan : Plan ι (Except ErrorChain Reply)) : s.Leads (s.proceed number plan) := by
  obtain ⟨pause, environment, hadvance⟩ :
      ∃ pause environment, plan.advance s.environment = (pause, environment) := ⟨_, _, rfl⟩
  let s₁ := { s with environment }.collectNotes
  have hcollect : s.Leads s₁ := s.leads_collectNotes environment
  have hhub : ∀ n, s₁.hub.watch? n = s.hub.watch? n := by
    intro n
    dsimp only [s₁, collectNotes]
    rw [Hub.noteAll_eq_with]
    rfl
  have hx₁ : s₁.hub.watch? number = some x := (hhub number).trans hx
  have hothers : ∀ {w : World}, w.Carries s₁ → ∀ hub : Hub,
      (∀ n, n ≠ number → hub.watch? n = s₁.hub.watch? n) → ∀ y ∈ s₁.suspended,
      ∃ z, hub.watch? y.number = some z ∧ z.phase = .fetching := by
    intro w hw hub hwatch y hy
    rw [hwatch y.number (hfree y hy)]
    exact hw.waiting y hy
  have hanswer : ∀ outcome, s₁.Leads (s₁.withHub (s₁.hub.answerWatch number outcome)) := by
    intro outcome w hw
    have step : Step w (.answered number outcome) (w.withHub (w.hub.answerWatch number outcome)) :=
      .answer outcome ((congrArg (·.watch? number) hw.hub_eq).trans hx₁)
        (Watch.isFetching_iff.2 hphase)
    refine ⟨_, _, .snoc .nil step, ?_, hw.unannounced_eq, hw.call_eq, ?_⟩
    · rw [World.withHub, hw.hub_eq]
      rfl
    · exact hothers hw _ fun n hn => Hub.watch?_answerWatch hx₁ outcome hn
  unfold proceed
  rw [hadvance]
  refine hcollect.trans ?_
  cases pause with
  | «until» due rest =>
      intro w hw
      refine ⟨[], w, .nil, hw.hub_eq, hw.unannounced_eq, hw.call_eq, fun y hy => ?_⟩
      rcases List.mem_append.1 hy with hy | hy
      · exact hw.waiting y hy
      · obtain rfl := List.mem_singleton.1 hy
        exact ⟨x, hx₁, hphase⟩
  | finished outcome =>
      cases outcome with
      | ok reply => exact hanswer (.ok reply.data)
      | error e => exact hanswer (.error e)
  | crashed reason =>
      change s₁.Leads ((s₁.withHub (s₁.hub.crashWatch number)).noticeStop number)
      intro w hw
      have step : Step w (.crashed number) (w.withHub (w.hub.crashWatch number)) :=
        .crash ((congrArg (·.watch? number) hw.hub_eq).trans hx₁) (Watch.isFetching_iff.2 hphase)
      refine ⟨_, _, .snoc .nil step, ?_, hw.unannounced_eq, hw.call_eq, fun y hy => ?_⟩
      · rw [World.withHub, hw.hub_eq, noticeStop_hub]
        rfl
      · rw [noticeStop_hub]
        exact hothers hw _ (fun n hn => Hub.watch?_crashWatch hx₁ hn) y (mem_noticeStop hy).1

/-- A request is kept only for a watch that waits for it. -/
theorem due?_eq_some {plan : Plan ι (Except ErrorChain Reply)} (h : s.due? number = some plan) :
    ∃ x ∈ s.suspended, x.number = number := by
  obtain ⟨x, hfound, -⟩ := Option.map_eq_some_iff.1 h
  have hnumber : x.number = number ∧ x.due ≤ s.environment.clock := by
    simpa using List.find?_some hfound
  exact ⟨x, List.mem_of_find?_eq_some hfound, hnumber.1⟩

/-- Only a watch that is about to ask the network asks it, and then it waits. -/
theorem watch?_of_call {hub : Hub} (h : s.hub.stepWatch number = some (hub, .call)) :
    (∃ x, s.hub.watch? number = some x ∧ x.phase = .announcingFetch) ∧
      ∃ x, hub.watch? number = some x ∧ x.phase = .fetching := by
  obtain ⟨x, x', hx, hstep, hwatch⟩ := Hub.watch?_stepWatch h
  have hadvance := (Moves.step hstep : Moves number x _ _ (.called number) _ x').advance
  cases hadvance with
  | called hphase => exact ⟨⟨x, hx, hphase⟩, _, (hwatch number).trans (if_pos rfl), rfl⟩
  | ended hlabel => rcases hlabel with hl | ⟨_, hl⟩ | hl <;> cases hl

theorem leads_runWatch (number : Nat) (fuel : Nat) (s : Schedule ι) :
    s.Leads (runWatch number fuel s) := by
  induction fuel generalizing s with
  | zero => exact .refl s
  | succ fuel ih =>
      unfold runWatch
      split
      · rename_i hub effect hstep
        have hlead := leads_stepWatch hstep
        dsimp only
        split
        · rename_i y hy
          intro w hw
          obtain ⟨⟨x, hx, hcalling⟩, ⟨x', hx', hphase⟩⟩ := watch?_of_call hstep
          obtain ⟨hhub, hsuspended⟩ := wakeFor_eq (s.withHub hub) number .call
          have hfree : ∀ z ∈ (((s.withHub hub).wakeFor number .call).noticeStop number).suspended,
              z.number ≠ number := by
            rintro z hz rfl
            obtain ⟨z', hz', hfetching⟩ := hw.waiting z (hsuspended ▸ (mem_noticeStop hz).1)
            obtain rfl : x = z' := by simpa [hx] using hz'
            rw [hcalling] at hfetching
            cases hfetching
          have hproceed :=
            leads_proceed ((congrArg (·.watch? number) ((noticeStop_hub _ _).trans hhub)).trans hx')
              hphase hfree
          exact ((hlead.trans (hproceed _)).trans (ih _)) w hw
        · exact hlead.trans (ih _)
      · split
        · rename_i plan hplan
          intro w hw
          obtain ⟨x, hx, hn⟩ := due?_eq_some hplan
          obtain ⟨y, hy, hphase⟩ := hw.waiting x hx
          rw [hn] at hy
          have hforget : s.Leads (s.forget number) :=
            leads_of_hub_eq rfl fun z hz => (mem_forget.1 hz).1
          have hproceed := leads_proceed (s := s.forget number) hy hphase
            (fun z hz => (mem_forget.1 hz).2) plan
          exact ((hforget.trans hproceed).trans (ih _)) w hw
        · exact s.leads_rest number

theorem leads_runFollower (number : Nat) (fuel : Nat) (s : Schedule ι) :
    s.Leads (runFollower number fuel s) := by
  induction fuel generalizing s with
  | zero => exact .refl s
  | succ fuel ih =>
      unfold runFollower
      split
      · rename_i hub hstep
        have hlead : s.Leads (s.withHub hub) := by
          refine leads_of_step (fun w hw => ⟨_, .follower (hw.hub_eq ▸ hstep)⟩) fun n y hy => ?_
          exact (Hub.spares_stepFollower hstep).watch?_eq.trans hy
        exact hlead.trans (ih _)
      · exact .refl s

theorem isAborted_eq_true (h : s.isAborted number = true) :
    ∃ p f, s.hub.pipes[number]? = some p ∧ p.follower = some f ∧ f.isAborted = true := by
  unfold isAborted at h
  cases hf : s.hub.pipes[number]?.bind Pipe.follower with
  | none => simp [hf] at h
  | some f =>
      obtain ⟨p, hp, hpf⟩ := Option.bind_eq_some_iff.1 hf
      exact ⟨p, f, hp, hpf, by simpa [hf] using h⟩

theorem leads_runJob (s : Schedule ι) (job : Job) : s.Leads (s.runJob job) := by
  cases job with
  | watch number => exact leads_runWatch number _ s
  | follower number =>
      have hrun : s.Leads (if s.isAborted number then s.withHub (s.hub.finishFollower number)
          else runFollower number (s.followerFuel number) s) := by
        split
        · rename_i haborted
          obtain ⟨p, f, hp, hf, haborted⟩ := isAborted_eq_true haborted
          refine leads_of_step (fun w hw => ⟨.silent, ?_⟩) fun n y hy => ?_
          · rw [← hw.hub_eq] at hp ⊢
            exact .abort hp hf haborted
          · exact (s.hub.spares_finishFollower number).watch?_eq.trans hy
        · exact leads_runFollower number _ s
      exact hrun.wake_if _ _

theorem leads_runNext (s : Schedule ι) (job : Job) (ready : List Job) :
    s.Leads ({ s with ready }.runJob job) := by
  have htake : s.Leads { s with ready } := leads_of_hub_eq rfl fun x hx => hx
  exact htake.trans (leads_runJob _ job)

theorem leads_settleWithin (fuel : Nat) (s : Schedule ι) : s.Leads (settleWithin fuel s) := by
  induction fuel generalizing s with
  | zero => exact .refl s
  | succ fuel ih =>
      unfold settleWithin
      split
      · exact .refl s
      · rename_i job ready _
        exact (s.leads_runNext job ready).trans (ih _)

theorem leads_settle (s : Schedule ι) : s.Leads s.settle := leads_settleWithin _ s

theorem leads_moveTo (s : Schedule ι) (time : Nat) : s.Leads (s.moveTo time) := by
  unfold moveTo
  exact leads_of_eq (foldl_wake_eq (fun x => Job.watch x.number)
    (s.suspended.filter fun x => x.due ≤ time)
    { s with environment := s.environment.atTime time })

theorem leads_advanceWithin (limit fuel : Nat) (s : Schedule ι) :
    s.Leads (advanceWithin limit fuel s) := by
  induction fuel generalizing s with
  | zero => exact .refl s
  | succ fuel ih =>
      unfold advanceWithin
      split
      · rename_i time _
        exact ((s.leads_moveTo time).trans (leads_settle _)).trans (ih _)
      · exact leads_of_hub_eq rfl fun x hx => hx

theorem leads_advance (s : Schedule ι) (milliseconds : Nat) : s.Leads (s.advance milliseconds) :=
  s.leads_settle.trans (leads_advanceWithin _ _ _)

end Schedule
end RepoWatch
