import RepoWatch.Proofs.Schedule.Jobs
import RepoWatch.Proofs.Watch.Departure
/-!
# The job of a watch that is not received

When the job of such a watch runs, the watch comes to its end. The server is not called, and the
request that the watch has waited for, with all that it still meant to try, is given up.
-/

namespace RepoWatch

/-- A watch that makes a step leaves the receiving ends as they are. -/
theorem Hub.isReceived_stepWatch {s hub : Hub} {number : Nat} {effect : Effect}
    (h : s.stepWatch number = some (hub, effect)) (n : Nat) :
    hub.isReceived n = s.isReceived n := by
  obtain ⟨p, x, x', hp, -, -, rfl⟩ := stepWatch_eq_some h
  exact isReceived_moveWatch (s := { s with cache := _ }) hp (deliver_receiverOpen p effect) x x' n

namespace Schedule

variable {ι : Type}

/-- Jobs were made ready and none was put off, and nothing was done in the hub or asked of the
server. -/
structure Wakes (s s' : Schedule ι) : Prop where
  hub_eq : s'.hub = s.hub
  environment_eq : s'.environment = s.environment
  ready_subset : s.ready ⊆ s'.ready

section Wakes

variable {s s' s'' : Schedule ι}

theorem Wakes.refl (s : Schedule ι) : s.Wakes s := ⟨rfl, rfl, List.Subset.refl _⟩

theorem Wakes.trans (h : s.Wakes s') (h' : s'.Wakes s'') : s.Wakes s'' :=
  ⟨h'.hub_eq.trans h.hub_eq, h'.environment_eq.trans h.environment_eq,
    List.Subset.trans h.ready_subset h'.ready_subset⟩

theorem wakes_wake (s : Schedule ι) (job : Job) : s.Wakes (s.wake job) := by
  unfold wake
  split
  · exact .refl s
  · exact ⟨rfl, rfl, List.subset_append_left _ _⟩

theorem mem_ready_wake (s : Schedule ι) (job : Job) : job ∈ (s.wake job).ready := by
  unfold wake
  split
  · assumption
  · exact List.mem_append_right _ List.mem_cons_self

theorem wakes_foldl {α : Type} (job : α → Job) (xs : List α) (s : Schedule ι) :
    s.Wakes (xs.foldl (fun s x => s.wake (job x)) s) := by
  induction xs generalizing s with
  | nil => exact .refl s
  | cons x xs ih => exact (s.wakes_wake (job x)).trans (ih _)

theorem wakes_wakeListeners (s : Schedule ι) : s.Wakes s.wakeListeners := by
  have hnobody : s.Wakes { s with listeners := [] } := ⟨rfl, rfl, List.Subset.refl _⟩
  exact hnobody.trans (wakes_foldl Job.watch s.listeners _)

theorem wakes_wakeFor (s : Schedule ι) (number : Nat) (effect : Effect) :
    s.Wakes (s.wakeFor number effect) := by
  cases effect with
  | send | call => exact s.wakes_wake _
  | announce => exact s.wakes_wakeListeners
  | none | insert => exact .refl s

theorem wakes_noticeStop (s : Schedule ι) (number : Nat) : s.Wakes (s.noticeStop number) := by
  unfold noticeStop
  split
  · exact .refl s
  · have hforget : s.Wakes (s.forget number) := ⟨rfl, rfl, List.Subset.refl _⟩
    exact hforget.trans (wakes_wake _ _)

/-- What a watch has done wakes others. -/
theorem wakes_step (s : Schedule ι) (number : Nat) (effect : Effect) :
    s.Wakes ((s.wakeFor number effect).noticeStop number) :=
  (s.wakes_wakeFor number effect).trans (wakes_noticeStop _ _)

end Wakes

/-- Nothing is kept for a watch with a number. -/
def Forgets (s : Schedule ι) (number : Nat) : Prop := ∀ r ∈ s.suspended, r.number ≠ number

variable {s : Schedule ι} {number : Nat} {x : Watch}

theorem forgets_noticeStop (hx : (s.noticeStop number).hub.watch? number = some x)
    (hphase : x.phase = .stopped) : (s.noticeStop number).Forgets number := by
  intro r hr hn
  obtain ⟨-, hrunning⟩ := mem_noticeStop hr
  replace hrunning := hrunning hn
  rw [noticeStop_hub] at hx
  have hstopped := Watch.isStopped_iff.2 hphase
  simp [isRunning, Schedule.watch?, hx, hstopped] at hrunning

theorem due?_of_forgets (h : s.Forgets number) : s.due? number = none := by
  cases hdue : s.due? number with
  | none => rfl
  | some plan =>
      obtain ⟨r, hr, hn⟩ := due?_eq_some hdue
      exact absurd hn (h r hr)

/-- What becomes of a schedule in which a watch is given up. -/
structure GivesUp (s s' : Schedule ι) (number : Nat) : Prop where
  stopped : ∃ x, s'.hub.watch? number = some x ∧ x.phase = .stopped
  environment_eq : s'.environment = s.environment
  suspended : ∀ r ∈ s'.suspended, r ∈ s.suspended
  forgets : s'.Forgets number

/-- A watch that is not received runs to its end. -/
theorem givesUp_runWatch (fuel : Nat) (s : Schedule ι) (hx : s.hub.watch? number = some x)
    (hgone : s.hub.isReceived number = false) (hfuel : x.stepsLeft < fuel)
    (hforgets : x.phase = .stopped → s.Forgets number) :
    s.GivesUp (runWatch number fuel s) number := by
  induction fuel generalizing s x with
  | zero => cases hfuel
  | succ fuel ih =>
      unfold runWatch
      split
      · rename_i hub effect hstep
        obtain ⟨y, x', hy, hmove, hwatch⟩ := Hub.watch?_stepWatch hstep
        obtain rfl : x = y := by simpa [hx] using hy
        rw [hgone] at hmove
        obtain ⟨hcloser, hcall⟩ := Watch.step_unheard hmove
        let s₁ := ((s.withHub hub).wakeFor number effect).noticeStop number
        have hwakes := (s.withHub hub).wakes_step number effect
        have hhub : s₁.hub = hub := hwakes.hub_eq
        have hx₁ : s₁.hub.watch? number = some x' := by
          rw [hhub, hwatch, if_pos rfl]
        have hgone₁ : s₁.hub.isReceived number = false := by
          rw [hhub, Hub.isReceived_stepWatch hstep, hgone]
        have henvironment : s₁.environment = s.environment := hwakes.environment_eq
        have hsuspended : ∀ r ∈ s₁.suspended, r ∈ s.suspended := by
          intro r hr
          have hkept := (mem_noticeStop hr).1
          rwa [(wakeFor_eq (s.withHub hub) number effect).2] at hkept
        have hrest : s₁.GivesUp (runWatch number fuel s₁) number :=
          ih s₁ hx₁ hgone₁ (by omega) (forgets_noticeStop hx₁)
        have hall : s.GivesUp (runWatch number fuel s₁) number :=
          ⟨hrest.stopped, hrest.environment_eq.trans henvironment,
            fun r hr => hsuspended r (hrest.suspended r hr), hrest.forgets⟩
        cases effect with
        | call => exact absurd rfl hcall
        | none | send | insert | announce => exact hall
      · rename_i hwaits
        have hphase := Hub.stopped_of_waiting hx hgone hwaits
        have hnothing := hforgets hphase
        rw [due?_of_forgets hnothing]
        have hrest : s.rest number = s := by
          rw [rest, Schedule.watch?, hx]
          simp [Watch.isStopped_iff.2 hphase]
        dsimp only
        rw [hrest]
        exact ⟨⟨x, hx, hphase⟩, rfl, fun r hr => hr, hnothing⟩

/-- The job of a watch that is not received ends it, whatever the watch was doing. -/
theorem givesUp_runJob (hx : s.hub.watch? number = some x)
    (hgone : s.hub.isReceived number = false) (hphase : x.phase ≠ .stopped) :
    s.GivesUp (s.runJob (.watch number)) number := by
  have hfuel : x.stepsLeft < s.watchFuel := by
    have hle : x.stepsLeft ≤ 3 := by
      unfold Watch.stepsLeft
      split <;> decide
    unfold watchFuel
    omega
  exact givesUp_runWatch s.watchFuel s hx hgone hfuel fun hstopped => absurd hstopped hphase

end Schedule
end RepoWatch
