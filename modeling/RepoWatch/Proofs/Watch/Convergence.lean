import RepoWatch.Proofs.Feed.Queue
import RepoWatch.Proofs.Watch.Shown
import RepoWatch.Proofs.World.Deeds
import RepoWatch.Proofs.World.Holders
/-!
# Convergence of a watch

A watch that lacks the entry of its query, and is not going to look at the cache by itself, will be
told to: a change of its query is in flight, or waits in the log, or the log has lost something that
the watch has not read. So a watch with nothing left to do shows the entry. The exception is a watch
that asks only the network, in vain, over an entry that is never changed.
-/

namespace RepoWatch

/-- A watch will be told to look at the cache. -/
def Watch.IsDue (x : Watch) (w : World) (query : Query) : Prop :=
  0 < w.inFlight query ∨ w.log.Concerns x.position query

/-- A watch has nothing to show, and asks only the network. -/
def Watch.IsExempt (x : Watch) (t : Trace) (query : Query) : Prop :=
  x.policy = .networkOnly ∧ x.shown = none ∧ t.changes query = 0

/-- A watch that lacks the entry will look at it, or will be told to, or is exempt. -/
def Watch.Converges (query : Query) (t : Trace) (w : World) (x : Watch) : Prop :=
  x.phase ≠ .stopped → x.willLook = false → x.lacks (w.entry query) = true →
    x.IsDue w query ∨ x.IsExempt t query

section Due

variable {w w' : World} {l : Label} {query : Query} {x x' : Watch}

theorem Label.changes_or_announces (h : l.changes query = true) : l.announces query = false := by
  cases l <;> first | rfl | cases h

/-- A change makes every watch of the query due. -/
theorem Step.isDue_of_changes (step : Step w l w') (hl : l.changes query = true) (x : Watch) :
    x.IsDue w' query := by
  have haccount := step.inFlight_eq query
  rw [hl, Label.changes_or_announces hl] at haccount
  left
  simp only [Bool.false_eq_true, if_false, if_true] at haccount
  omega

/-- A watch that is due stays so until it is told. -/
theorem Step.isDue (step : Step w l w') (hle : x.position ≤ w.log.sent)
    (h : x.IsDue w query) : x.IsDue w' query := by
  have haccount := step.inFlight_eq query
  rcases step.log_cases with ⟨q, rfl, hlog⟩ | ⟨hl, hlog⟩
  · rcases h with hflight | hconcerns
    · by_cases hq : q = query
      · subst hq
        right
        rw [hlog]
        exact Multicast.concerns_send_self q hle
      · left
        simp only [Label.announces, beq_eq_false_iff_ne.2 hq, Bool.false_eq_true, if_false]
          at haccount
        omega
    · right
      rw [hlog]
      exact hconcerns.send q hle
  · rcases h with hflight | hconcerns
    · left
      have hl' : l.announces query = false := by
        cases l <;> first | rfl | cases hl
      rw [hl'] at haccount
      simp only [Bool.false_eq_true, if_false] at haccount
      omega
    · right
      rwa [hlog]

variable {number : Nat} {heard : Bool}

/-- Whoever is due to look at the cache, and is not told to by what it reads, is due still. -/
theorem Advance.isDue (advance : Advance number x heard w.hub.cache l x')
    (hlook : x'.willLook = false) (h : x.IsDue w x.query) : x'.IsDue w x.query := by
  cases advance with
  | noticed | lost => simp [Watch.willLook] at hlook
  | @passedOver q _ hne hnext =>
      refine h.imp_right fun hconcerns => ?_
      rcases w.hub.cache.changes.receive_cases x.position with ⟨-, hr⟩ | ⟨a, hle, hr, -, hahead⟩ |
        ⟨-, hr, -⟩ <;> rw [hnext, Prod.mk.injEq] at hr
      · cases hr.1
      · obtain rfl : q = a := by simpa using hr.1
        exact hconcerns.tail hle hahead hne
      · cases hr.1
  | ended _ _ _ hrest =>
      unfold Watch.IsDue
      rwa [hrest.2.2]
  | _ => exact h

end Due

section Convergence

variable {origin w w' : World} {t : Trace} {number : Nat} {query : Query} {policy : Policy}
  {x x' : Watch} {l : Label}

theorem Watch.Converges.others (h : x.Converges query t w)
    (life : x.Life origin number query policy t w) (step : Step w l w') :
    x.Converges query (t ++ [⟨l, w'⟩]) w' := by
  intro hphase hlook hlacks
  cases hl : l.changes query with
  | true => exact .inl (step.isDue_of_changes hl x)
  | false =>
      refine (h hphase hlook (step.lacks_of hl hlacks)).imp (step.isDue life.position_le) ?_
      rintro ⟨hpolicy, hshown, hchanges⟩
      refine ⟨hpolicy, hshown, ?_⟩
      rw [Trace.changes_snoc, hchanges, hl]
      rfl

theorem Watch.Converges.own (h : x.Converges query t w)
    (life : x.Life origin number query policy t w) (step : Step w l w')
    (advance : Advance number x (w.hub.isReceived number) w.hub.cache l x') :
    x'.Converges query (t ++ [⟨l, w'⟩]) w' := by
  intro hphase hlook hlacks
  have hquery := life.query_eq
  subst hquery
  cases hlooked : x.willLook with
  | true =>
      rw [step.lacks_eq_false advance hlooked hlook hphase] at hlacks
      cases hlacks
  | false =>
      obtain ⟨hshown, hl⟩ := advance.shown_eq hlooked hphase
      rw [Watch.lacks_congr hshown] at hlacks
      rcases h advance.not_stopped hlooked (step.lacks_of hl hlacks) with
        hdue | ⟨hpolicy, hnone, hchanges⟩
      · left
        exact step.isDue (advance.position_le_sent life.position_le) (advance.isDue hlook hdue)
      · right
        refine ⟨advance.policy_eq.trans hpolicy, hshown.trans hnone, ?_⟩
        rw [Trace.changes_snoc, hchanges, hl]
        rfl

theorem Run.converges (run : Run origin t w) (born : origin.Opened number query policy) :
    ∃ x, w.hub.watch? number = some x ∧ x.Life origin number query policy t w ∧
      x.Converges query t w := by
  refine run.life_induction born ?_ ?_ ?_
  · intro _ hlook _
    refine .inr ⟨?_, rfl, rfl⟩
    simpa [Watch.willLook, Watch.isBlind, Watch.create] using hlook
  · intro t w l w' x life h step _ _
    exact h.others life step
  · intro t w l w' x x' life h step _ advance
    exact h.own life step advance

/-- A watch that has resolved its query waits only when it has read all changes. -/
theorem Watch.idle {cache : Cache} (hresolved : x.isResolved = true)
    (h : x.step true cache = none) :
    x.phase = .listening ∧ (cache.changes.receive x.position).1 = .nothing := by
  unfold Watch.isResolved at hresolved
  cases hphase : x.phase <;> simp only [hphase] at hresolved
  case listening =>
      refine ⟨rfl, ?_⟩
      simp only [Watch.step, hphase, if_true, Option.map_eq_none_iff, Cache.nextChange] at h
      cases hfound : (cache.changes.receive x.position).1 with
      | nothing => rfl
      | value | lagged => simp [hfound, Delivery.arrival, Watch.afterChange] at h
  case rereading | sendingChange => simp [Watch.step, hphase] at h
  all_goals cases hresolved

/-- What a watch that is received has sent is what was received of it, followed by what waits to be.
When it has resolved its query and has nothing left to do, it has sent the entry of its query last,
unless it only asked the network, in vain, and the entry was not changed since. -/
theorem watch_converges {cache : Cache} {outlets : Outlets} {past : Trace}
    (before : Run (.start cache outlets) past origin) (born : origin.Opened number query policy)
    (run : Run origin t w) (hcompleted : (t.sent number).any Event.isCompletion = true)
    (hreceived : w.hub.isReceived number = true) (hidle : w.hub.stepWatch number = none)
    (hflight : w.inFlight query = 0) {data : Json} (hdata : w.entry query = some data) :
    t.sent number = t.received number origin ++ w.hub.queue number ∧
      ((∃ last, lastData (t.sent number) = some last ∧ (last == data) = true) ∨
        (policy = .networkOnly ∧ (t.sent number).any Event.isFailure = true ∧
          (t.sent number).any Event.isResponse = false ∧ t.changes query = 0)) := by
  refine ⟨before.sent_eq_received born run hreceived, ?_⟩
  obtain ⟨x, hx, life, converges⟩ := run.converges born
  have hgoes : x.phase ≠ .stopped := by
    intro hstopped
    rcases before.ended born run hx hstopped with hgone | ⟨-, hnot⟩
    · rw [hreceived] at hgone
      cases hgone
    · rw [hcompleted] at hnot
      cases hnot
  have hresolved := (life.sent.any_isCompletion hgoes).symm.trans hcompleted
  have hstep := Hub.step_eq_none hx hidle
  rw [hreceived] at hstep
  obtain ⟨hphase, hread⟩ := Watch.idle hresolved hstep
  have hlook : x.willLook = false := by simp [Watch.willLook, Watch.isBlind, hphase]
  have hshown : x.shown = lastData (t.sent number) := by
    rw [life.last hgoes, Watch.shown, hphase]
  cases hlacks : x.lacks (w.entry query) with
  | false =>
      rw [hdata, Watch.lacks_some_eq_false_iff, hshown] at hlacks
      exact .inl hlacks
  | true =>
      rcases converges hgoes hlook hlacks with (hpending | hconcerns) | ⟨hpolicy, hnone, hchanges⟩
      · omega
      · exact absurd hconcerns (Multicast.not_concerns_of_receive_nothing hread)
      · have hsilent : (t.sent number).any Event.isResponse = false := by
          rw [← lastData_eq_none_iff, ← hshown, hnone]
        refine .inr ⟨life.policy_eq.symm.trans hpolicy, ?_, hsilent, hchanges⟩
        exact life.sent.failed hphase hpolicy hsilent

/-- A watch that only reads the cache, and finds nothing, while two changes are on their way; its
receiver has taken two of the five events that it sends. -/
def lateStores (query : Query) : List Deed :=
  [.watch 0, .watch 0, .watch 0, .receive 0, .store query (.bool false), .watch 0, .watch 0,
    .store query (.bool true), .announce query, .watch 0, .receive 0, .watch 0, .watch 0,
    .announce query, .watch 0, .watch 0]

theorem watch_converges_after_stores :
    let query : Query := .commits "own"
    let origin : World := .watching .empty query .cacheOnly
    let t := origin.trace (lateStores query)
    let w := origin.after (lateStores query)
    Run (.start .empty .unheard) [⟨.silent, origin⟩] origin ∧
      origin.Opened 0 query .cacheOnly ∧ Run origin t w ∧
      (t.sent 0).any Event.isCompletion = true ∧ w.hub.isReceived 0 = true ∧
      w.hub.stepWatch 0 = none ∧ w.inFlight query = 0 ∧
      (t.received 0 origin).length = 2 ∧ (w.hub.queue 0).length = 3 ∧
      ∃ data, w.entry query = some data ∧ (data == .bool true) = true ∧
        t.sent 0 = t.received 0 origin ++ w.hub.queue 0 ∧
        ((∃ last, lastData (t.sent 0) = some last ∧ (last == data) = true) ∨
          (Policy.cacheOnly = .networkOnly ∧ (t.sent 0).any Event.isFailure = true ∧
            (t.sent 0).any Event.isResponse = false ∧ t.changes query = 0)) := by
  intro query origin t w
  have before := Run.watching .empty query .cacheOnly
  have born : origin.Opened 0 query .cacheOnly := rfl
  have run : Run origin t w := .of_deeds origin (lateStores query)
  have hcompleted : (t.sent 0).any Event.isCompletion = true := by decide +kernel
  have hreceived : w.hub.isReceived 0 = true := by decide +kernel
  have hidle : w.hub.stepWatch 0 = none := Option.isNone_iff_eq_none.1 (by decide +kernel)
  have hflight : w.inFlight query = 0 := by decide +kernel
  have hholds : w.hub.cache.holds query (.bool true) = true := by decide +kernel
  obtain ⟨data, hdata, htrue⟩ := (Cache.holds_eq_true_iff _ _ _).1 hholds
  exact ⟨before, born, run, hcompleted, hreceived, hidle, hflight, by decide +kernel,
    by decide +kernel, data, hdata, htrue,
    watch_converges before born run hcompleted hreceived hidle hflight hdata⟩

end Convergence
end RepoWatch
