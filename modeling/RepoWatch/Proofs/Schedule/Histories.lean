import RepoWatch.Proofs.Feed.Calls
import RepoWatch.Proofs.Feed.Emissions
import RepoWatch.Proofs.Schedule.Jobs
/-!
# Histories are runs

Everything that can be asked of a schedule from outside is a run of the world around its hub, and so
is every history of a schedule. What is proved of all runs is therefore true of all histories.
-/

namespace RepoWatch

open Graphql

variable {ι : Type}

namespace Hub

variable {s : Hub} {number : Nat} {p : Pipe}

theorem setPipe_self (hp : s.pipes[number]? = some p) : s.setPipe number p = s := by
  obtain ⟨hlt, rfl⟩ := List.getElem?_eq_some_iff.1 hp
  rw [setPipe, List.set_getElem_self]

theorem setPipe_setPipe (s : Hub) (number : Nat) (p p' : Pipe) :
    (s.setPipe number p).setPipe number p' = s.setPipe number p' := by
  rw [setPipe, setPipe, setPipe, List.set_set]

theorem watch?_append {s' : Hub} {x : Watch} {n : Nat} (h : s'.pipes = s.pipes ++ [p])
    (hx : s.watch? n = some x) : s'.watch? n = some x := by
  rw [watch?, h, List.getElem?_append_left (lt_length_of_watch? hx)]
  exact hx

theorem spares_cancelFollowers (s : Hub) (numbers : List Nat) :
    s.Spares (s.cancelFollowers numbers) := by
  induction numbers generalizing s with
  | nil => exact .refl s
  | cons number numbers ih => exact (s.spares_cancelFollower number).trans (ih _)

theorem spares_follow (s : Hub) (query : Query) : s.Spares (s.follow query) := by
  have hregister : (s.attach query (s.pipes.length - 1)).Spares
      ((s.attach query (s.pipes.length - 1)).register query (s.pipes.length - 1)) :=
    spares_of_eq rfl rfl
  exact ((s.spares_attach query _).trans hregister).trans (spares_cancelFollowers _ _)

theorem spares_cancelAll (s : Hub) : s.Spares s.cancelAll :=
  (spares_of_eq rfl rfl : s.Spares s.clearRegistry).trans (spares_cancelFollowers _ _)

end Hub

namespace Outlets

theorem sameLogs_unsubscribe (o : Outlets) (name : String) : (o.unsubscribe name).SameLogs o :=
  ⟨rfl, rfl, rfl, rfl⟩

theorem sameLogs_subscribe (o : Outlets) (kind : OutletKind) (name : String) :
    (o.subscribe kind name).SameLogs o := by
  cases kind <;> exact ⟨rfl, rfl, rfl, rfl⟩

theorem log_drain {α : Type} (o : Outlet α) (name : String) : (o.drain name).2.log = o.log := by
  unfold Outlet.drain
  split <;> rfl

theorem sameLogs_drain (o : Outlets) (name : String) : (o.drain name).2.SameLogs o :=
  ⟨log_drain _ name, log_drain _ name, log_drain _ name, log_drain _ name⟩

end Outlets

/-- Who receives from a pipe can take everything that has come. -/
theorem Run.of_receive {w : World} {number : Nat} {p : Pipe} (hp : w.hub.pipes[number]? = some p)
    (hfollower : p.follower = none) :
    ∃ t, Run w t (w.withHub (w.hub.setPipe number { p with events := [] })) := by
  induction hevents : p.events generalizing w p with
  | nil =>
      have hsame : { p with events := [] } = p := by rw [← hevents]
      rw [hsame, Hub.setPipe_self hp]
      exact ⟨[], .nil⟩
  | cons event events ih =>
      let next := w.withHub (w.hub.setPipe number { p with events })
      have hnext : next.hub.pipes[number]? = some { p with events } :=
        (Hub.getElem?_setPipe hp _ number).trans (if_pos rfl)
      obtain ⟨t, run⟩ := ih hnext hfollower rfl
      have hset : next.withHub (next.hub.setPipe number { p with events := [] }) =
          w.withHub (w.hub.setPipe number { p with events := [] }) :=
        congrArg w.withHub (w.hub.setPipe_setPipe number _ _)
      exact ⟨_, .cons (.receive hp hfollower hevents) (hset ▸ run)⟩

namespace Schedule

variable {s s' : Schedule ι} {number : Nat} {query : Query}

theorem leads_openWatch (s : Schedule ι) (query : Query) (policy : Policy) :
    s.Leads (s.openWatch query policy) := by
  have hopen : s.Leads (s.withHub (s.hub.openWatch query policy)) := by
    refine leads_of_step (fun w hw => ⟨.silent, ?_⟩) fun n y hy => Hub.watch?_append rfl hy
    rw [← hw.hub_eq]
    exact .openWatch w query policy
  exact hopen.trans (leads_wake _ _)

theorem leads_hangUp (hfollower : ∀ p, s.hub.pipes[number]? = some p → p.follower = none) :
    s.Leads (s.hangUp number) := by
  have hhang : s.Leads (s.withHub (s.hub.hangUp number)) := by
    cases hp : s.hub.pipes[number]? with
    | none =>
        have hsame : s.hub.hangUp number = s.hub := by rw [Hub.hangUp, hp]
        rw [hsame]
        exact .refl s
    | some p =>
        refine leads_of_step (fun w hw => ⟨.silent, ?_⟩) fun n y hy => ?_
        · rw [← hw.hub_eq] at hp ⊢
          exact .hangUp hp (hfollower p (hw.hub_eq ▸ hp))
        · exact (s.hub.spares_hangUp number).watch?_eq.trans hy
  exact hhang.wake_if _ _

/-- A run of the world around a hub that leaves alone the watches that wait for their requests. -/
theorem leads_of_run {hub : Hub}
    (hrun : ∀ w, w.Carries s → ∃ t, Run w t (w.withHub hub))
    (hwatch : ∀ n y, s.hub.watch? n = some y → hub.watch? n = some y) :
    s.Leads (s.withHub hub) := by
  intro w hw
  obtain ⟨t, run⟩ := hrun w hw
  refine ⟨t, w.withHub hub, run, rfl, hw.unannounced_eq, hw.call_eq, fun x hx => ?_⟩
  obtain ⟨y, hy, hphase⟩ := hw.waiting x hx
  exact ⟨y, hwatch _ _ hy, hphase⟩

theorem leads_takeEvents (hfollower : ∀ p, s.hub.pipes[number]? = some p → p.follower = none) :
    s.Leads (s.takeEvents number).2 := by
  unfold takeEvents
  split
  · rename_i p hp
    refine leads_of_run (fun w hw => ?_) fun n y hy => ?_
    · rw [← hw.hub_eq] at hp ⊢
      exact Run.of_receive hp (hfollower p (hw.hub_eq ▸ hp))
    · have htake : s.hub.Spares (s.hub.setPipe number { p with events := [] }) :=
        Hub.spares_setPipe hp rfl rfl id
      exact htake.watch?_eq.trans hy
  · exact .refl s

theorem leads_erase (s : Schedule ι) (query : Query) : s.Leads (s.changeCache (·.erase query)) := by
  refine leads_of_step (fun w hw => ⟨.removed, ?_⟩) fun n y hy => hy
  rw [← hw.hub_eq]
  exact .erase w query

theorem leads_clear (s : Schedule ι) : s.Leads (s.changeCache Cache.clear) := by
  refine leads_of_step (fun w hw => ⟨.removed, ?_⟩) fun n y hy => hy
  rw [← hw.hub_eq]
  exact .clear w

theorem leads_put (s : Schedule ι) (query : Query) (data : Json) :
    s.Leads (s.put query data).2 := by
  have hput : s.Leads (s.changeCache (·.put query data)) := by
    intro w hw
    cases hholds : w.hub.cache.holds query data with
    | true =>
        have hsame : s.changeCache (·.put query data) = s := by
          rw [hw.hub_eq] at hholds
          simp only [changeCache, Cache.put, hholds, if_true, withHub]
        rw [hsame]
        exact ⟨[], w, .nil, hw⟩
    | false =>
        have hput :
            (w.hub.cache.insert query data).announce query = w.hub.cache.put query data := by
          simp only [Cache.put, hholds, Bool.false_eq_true, if_false]
        have hmem : query ∈ query :: w.unannounced := List.mem_cons_self
        refine ⟨_, _, .snoc (.snoc .nil (.store hholds)) (.announce hmem), ?_, ?_, hw.call_eq, ?_⟩
        · change ({ w.hub with cache := (w.hub.cache.insert query data).announce query } : Hub) = _
          rw [hput, hw.hub_eq]
          rfl
        · exact (List.erase_cons_head query w.unannounced).trans hw.unannounced_eq
        · exact hw.waiting
  unfold put
  dsimp only
  split
  · exact hput.trans (leads_wakeListeners _)
  · exact hput

theorem leads_putAll (s : Schedule ι) (queries : List Query) (data : Json) :
    s.Leads (s.putAll queries data).2 := by
  unfold putAll
  generalize (0 : Nat) = count
  induction queries generalizing s count with
  | nil => exact .refl s
  | cons query queries ih => exact (s.leads_put query data).trans (ih _ _)

theorem leads_send (event : Event) (hwatch : ∀ p, s.hub.pipes[number]? = some p → p.watch = none) :
    s.Leads (s.send number event).2 := by
  unfold send
  split
  · rename_i p hp
    split
    · rename_i hcond
      rw [Bool.and_eq_true] at hcond
      have hsend : s.Leads (s.withHub (s.hub.sendEvent number event)) := by
        refine leads_of_step (fun w hw => ⟨.fed number event, ?_⟩) fun n y hy => ?_
        · rw [← hw.hub_eq] at hp ⊢
          exact .feed event hp (hwatch p (hw.hub_eq ▸ hp)) hcond.1 hcond.2
        · exact (s.hub.spares_sendEvent number event).watch?_eq.trans hy
      exact hsend.trans (leads_wake _ _)
    · exact .refl s
  · exact .refl s

theorem leads_closeSender (hwatch : ∀ p, s.hub.pipes[number]? = some p → p.watch = none) :
    s.Leads (s.closeSender number).2 := by
  unfold closeSender
  split
  · rename_i p hp
    split
    · have hclose : s.Leads (s.withHub (s.hub.closeSender number)) := by
        refine leads_of_step (fun w hw => ⟨.silent, ?_⟩) fun n y hy => ?_
        · rw [← hw.hub_eq] at hp ⊢
          exact .closeSender hp (hwatch p (hw.hub_eq ▸ hp))
        · exact (Hub.spares_closeSender hp (hwatch p hp)).watch?_eq.trans hy
      exact hclose.trans (leads_wake _ _)
    · exact .refl s
  · exact .refl s

/-- What the feed does, and the followers that it wakes. -/
theorem leads_call {α : Type} (hub : Hub) (job : α → Job) (woken : List α)
    (hrun : ∀ w, w.Carries s → ∃ t, Run w t (w.withHub hub))
    (hwatch : ∀ n y, s.hub.watch? n = some y → hub.watch? n = some y) :
    s.Leads (woken.foldl (fun s x => s.wake (job x)) (s.withHub hub)) :=
  (leads_of_run hrun hwatch).trans (leads_of_eq (foldl_wake_eq job woken (s.withHub hub)))

theorem leads_cancel (hdropped : s.hub.isDropped = false) : s.Leads s.cancel := by
  refine leads_call s.hub.cancel (fun entry => Job.follower entry.2) s.hub.registry
    (fun w hw => ?_) fun n y hy => s.hub.spares_cancelAll.watch?_eq.trans hy
  rw [← hw.hub_eq] at hdropped ⊢
  exact Run.of_cancel hw.call_eq hdropped

theorem leads_dropFeed (hdropped : s.hub.isDropped = false) : s.Leads s.dropFeed := by
  refine leads_call s.hub.dropFeed (fun entry => Job.follower entry.2) s.hub.registry
    (fun w hw => ?_) fun n y hy => s.hub.spares_cancelAll.watch?_eq.trans hy
  rw [← hw.hub_eq] at hdropped ⊢
  exact Run.of_drop hw.call_eq hdropped

/-- The hub of a schedule that has fetched a query. -/
theorem fetchQuery_eq (s : Schedule ι) (backend : Backend) (query : Query) :
    (s.fetchQuery backend query).hub =
        ((s.hub.note (.fetching query)).openFor backend query).follow query ∧
      (s.fetchQuery backend query).suspended = s.suspended := by
  have hfollow : ∀ s₁ : Schedule ι,
      s₁.hub = (s.hub.note (.fetching query)).openFor backend query ∧
        s₁.suspended = s.suspended →
      let s₂ := (s₁.withHub (s₁.hub.follow query)).wake (.follower s.hub.nextNumber)
      s₂.hub = ((s.hub.note (.fetching query)).openFor backend query).follow query ∧
        s₂.suspended = s.suspended := by
    rintro s₁ ⟨hhub, hsuspended⟩
    have hwake := wake_eq (s₁.withHub (s₁.hub.follow query)) (.follower s.hub.nextNumber)
    exact ⟨hwake.1.trans (congrArg (·.follow query) hhub), hwake.2.trans hsuspended⟩
  let s₀ := s.withHub (s.hub.note (.fetching query))
  cases backend with
  | hub =>
      have hnext := hfollow _
        (wake_eq (s₀.withHub (s₀.hub.openWatch query feedPolicy)) (.watch s.hub.nextNumber))
      unfold fetchQuery
      dsimp only
      split
      · exact ⟨(wake_eq _ _).1.trans hnext.1, (wake_eq _ _).2.trans hnext.2⟩
      · exact hnext
  | outside =>
      have hnext := hfollow s₀.openPipe ⟨rfl, rfl⟩
      unfold fetchQuery
      dsimp only
      split
      · exact ⟨(wake_eq _ _).1.trans hnext.1, (wake_eq _ _).2.trans hnext.2⟩
      · exact hnext

theorem leads_fetchQuery (hdropped : s.hub.isDropped = false) (backend : Backend) (query : Query) :
    s.Leads (s.fetchQuery backend query) := by
  have hfetch : s.Leads
      (s.withHub (((s.hub.note (.fetching query)).openFor backend query).follow query)) := by
    refine leads_of_run (fun w hw => ?_) fun n y hy => ?_
    · rw [← hw.hub_eq] at hdropped ⊢
      exact Run.of_follow hw.call_eq hdropped backend query
    · obtain ⟨p, hpipes, -⟩ := (s.hub.note (.fetching query)).openFor_eq backend query
      refine (Hub.spares_follow _ query).watch?_eq.trans ?_
      exact Hub.watch?_append (s := s.hub.note (.fetching query)) hpipes hy
  exact hfetch.trans (leads_of_eq (s.fetchQuery_eq backend query))

theorem leads_outlets {outlets : Outlets} (hlogs : outlets.SameLogs s.hub.outlets) :
    s.Leads (s.withHub { s.hub with outlets }) := by
  refine leads_of_step (fun w hw => ⟨.silent, ?_⟩) fun n y hy => hy
  rw [← hw.hub_eq] at hlogs ⊢
  exact .subscribers w hlogs

theorem leads_subscribe (s : Schedule ι) (kind : OutletKind) (name : String) :
    s.Leads (s.subscribe kind name) :=
  leads_outlets
    ((Outlets.sameLogs_subscribe _ kind name).trans (Outlets.sameLogs_unsubscribe _ name))

theorem leads_unsubscribe (s : Schedule ι) (name : String) : s.Leads (s.unsubscribe name).2 :=
  leads_outlets (Outlets.sameLogs_unsubscribe _ name)

theorem leads_drain (s : Schedule ι) (name : String) : s.Leads (s.drain name).2 :=
  leads_outlets (Outlets.sameLogs_drain _ name)

theorem leads_takeNotes (s : Schedule ι) : s.Leads s.takeNotes.2 := by
  refine leads_of_step (fun w hw => ⟨.silent, ?_⟩) fun n y hy => hy
  rw [← hw.hub_eq]
  exact .journal w []

/-- What can be asked of a schedule from outside: `Asked s s'` when `s` can become `s'` so. -/
inductive Asked : Schedule ι → Schedule ι → Prop where
  | openWatch (s : Schedule ι) (query : Query) (policy : Policy) :
      Asked s (s.openWatch query policy)
  | hangUp {s : Schedule ι} {number : Nat}
      (hfollower : ∀ p, s.hub.pipes[number]? = some p → p.follower = none) :
      Asked s (s.hangUp number)
  | takeEvents {s : Schedule ι} {number : Nat}
      (hfollower : ∀ p, s.hub.pipes[number]? = some p → p.follower = none) :
      Asked s (s.takeEvents number).2
  | erase (s : Schedule ι) (query : Query) : Asked s (s.changeCache (·.erase query))
  | clear (s : Schedule ι) : Asked s (s.changeCache Cache.clear)
  | put (s : Schedule ι) (query : Query) (data : Json) : Asked s (s.put query data).2
  | putAll (s : Schedule ι) (queries : List Query) (data : Json) :
      Asked s (s.putAll queries data).2
  | send {s : Schedule ι} {number : Nat} (event : Event)
      (hwatch : ∀ p, s.hub.pipes[number]? = some p → p.watch = none) :
      Asked s (s.send number event).2
  | closeSender {s : Schedule ι} {number : Nat}
      (hwatch : ∀ p, s.hub.pipes[number]? = some p → p.watch = none) :
      Asked s (s.closeSender number).2
  | fetchQuery {s : Schedule ι} (hdropped : s.hub.isDropped = false) (backend : Backend)
      (query : Query) : Asked s (s.fetchQuery backend query)
  | cancel {s : Schedule ι} (hdropped : s.hub.isDropped = false) : Asked s s.cancel
  | dropFeed {s : Schedule ι} (hdropped : s.hub.isDropped = false) : Asked s s.dropFeed
  | subscribe (s : Schedule ι) (kind : OutletKind) (name : String) : Asked s (s.subscribe kind name)
  | unsubscribe (s : Schedule ι) (name : String) : Asked s (s.unsubscribe name).2
  | drain (s : Schedule ι) (name : String) : Asked s (s.drain name).2
  | takeNotes (s : Schedule ι) : Asked s s.takeNotes.2
  | settle (s : Schedule ι) : Asked s s.settle
  | advance (s : Schedule ι) (milliseconds : Nat) : Asked s (s.advance milliseconds)

theorem Asked.leads (h : Asked s s') : s.Leads s' := by
  cases h with
  | openWatch query policy => exact leads_openWatch _ query policy
  | hangUp hfollower => exact leads_hangUp hfollower
  | takeEvents hfollower => exact leads_takeEvents hfollower
  | erase query => exact leads_erase _ query
  | clear => exact leads_clear _
  | put query data => exact leads_put _ query data
  | putAll queries data => exact leads_putAll _ queries data
  | send event hwatch => exact leads_send event hwatch
  | closeSender hwatch => exact leads_closeSender hwatch
  | fetchQuery hdropped backend query => exact leads_fetchQuery hdropped backend query
  | cancel hdropped => exact leads_cancel hdropped
  | dropFeed hdropped => exact leads_dropFeed hdropped
  | subscribe kind name => exact leads_subscribe _ kind name
  | unsubscribe name => exact leads_unsubscribe _ name
  | drain name => exact leads_drain _ name
  | takeNotes => exact leads_takeNotes _
  | settle => exact leads_settle _
  | advance milliseconds => exact leads_advance _ milliseconds

/-- What a schedule can become, when it is asked for one thing after the other. -/
inductive History (origin : Schedule ι) : Schedule ι → Prop where
  | nil : History origin origin
  | snoc {s s' : Schedule ι} (history : History origin s) (asked : Asked s s') : History origin s'

theorem History.leads (history : History s s') : s.Leads s' := by
  induction history with
  | nil => exact .refl s
  | snoc _ asked ih => exact ih.trans asked.leads

section Initial

variable {outlets : Outlets} {environment : Environment ι}
  {fetch : Query → Plan ι (Except ErrorChain Reply)}

theorem carries_initial (outlets : Outlets) (environment : Environment ι)
    (fetch : Query → Plan ι (Except ErrorChain Reply)) :
    (World.start .empty outlets).Carries (initial outlets environment fetch) := by
  refine ⟨rfl, rfl, rfl, ?_⟩
  intro x hx
  cases hx

/-- Every history of a schedule is a run from the world in which nothing runs yet. -/
theorem History.run (history : History (initial outlets environment fetch) s) :
    ∃ t w, Run (.start .empty outlets) t w ∧ w.Carries s :=
  history.leads _ (carries_initial outlets environment fetch)

end Initial

end Schedule
end RepoWatch
