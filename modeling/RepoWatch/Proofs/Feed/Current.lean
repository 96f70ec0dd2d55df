import Mathlib.Data.Finset.Card
import Mathlib.Data.List.Induction
import RepoWatch.Proofs.Feed.Cancellation
import RepoWatch.Proofs.Keyed
/-!
# The watches that count

What was fetched and cancelled tells what the registry holds: for each query that was fetched since
the feed last began to stop, the watch of its latest fetch. As long as the streams of events stay
open, these are the watches that are counted as active, and their followers alone are switched on.
-/

namespace RepoWatch

/-- The number of the watch of a query after a step, given the one before. -/
def Label.latest (query : Query) (before : Option Nat) : Label → Option Nat
  | .fetched q n => if q = query then some n else before
  | .stopping => none
  | _ => before

def Label.current (before : Finset Query) : Label → Finset Query
  | .fetched q _ => insert q before
  | .stopping => ∅
  | _ => before

namespace Trace

/-- The number of the latest fetch of a query since the feed last began to stop. -/
def latest (t : Trace) (query : Query) : Option Nat :=
  t.foldl (fun before m => m.label.latest query before) none

/-- The queries that were fetched since the feed last began to stop. -/
def current (t : Trace) : Finset Query := t.foldl (fun before m => m.label.current before) ∅

/-- The watch with a number was opened by a fetch of a query, and then superseded or cancelled. -/
def Outdates (t : Trace) (query : Query) (number : Nat) : Prop :=
  ∃ before m after, t = before ++ m :: after ∧ m.label = .fetched query number ∧
    ∃ m' ∈ after, m'.label.supersedes query = true

end Trace

/-- The streams that the feed follows are open as long as somebody receives. -/
def Hub.StreamsOpen (s : Hub) : Prop :=
  ∀ p ∈ s.pipes, p.follower.isSome = true → p.receiverOpen = true → p.senderOpen = true

def Trace.StreamsOpen (t : Trace) : Prop := ∀ m ∈ t, m.world.hub.StreamsOpen

instance (s : Hub) : Decidable s.StreamsOpen :=
  inferInstanceAs (Decidable (∀ p ∈ s.pipes, _ → _ → _))

instance (t : Trace) : Decidable t.StreamsOpen := inferInstanceAs (Decidable (∀ m ∈ t, _))

section Latest

variable {t : Trace} {m : Moment} {w w' : World} {l : Label} {query : Query} {number : Nat}
  {cache : Cache} {outlets : Outlets}

theorem Trace.latest_snoc : latest (t ++ [m]) query = m.label.latest query (t.latest query) := by
  rw [latest, List.foldl_append]
  rfl

theorem Trace.current_snoc : current (t ++ [m]) = m.label.current t.current := by
  rw [current, List.foldl_append]
  rfl

theorem Label.latest_of_isFeed {before : Option Nat} (hl : l.isFeed = false) :
    l.latest query before = before := by
  cases l with
  | fetched | stopping => cases hl
  | silent | sent | fed | called | answered | crashed | put | announced | removed | handled
  | returned => rfl

theorem Label.latest_of_supersedes {before : Option Nat} (hl : l.supersedes query = false) :
    l.latest query before = before := by
  cases l with
  | fetched q n =>
      have hne : q ≠ query := by simpa [supersedes] using hl
      exact if_neg hne
  | stopping => cases hl
  | silent | sent | fed | called | answered | crashed | put | announced | removed | handled
  | returned => rfl

/-- A query is current when it has a latest fetch. -/
theorem Trace.mem_current_iff (t : Trace) (query : Query) :
    query ∈ t.current ↔ ∃ n, t.latest query = some n := by
  induction t using List.reverseRecOn with
  | nil => simp [current, latest]
  | append_singleton t m ih =>
      rw [current_snoc, latest_snoc]
      cases m.label with
      | fetched q n =>
          by_cases hq : q = query
          · simp [Label.current, Label.latest, hq]
          · simpa [Label.current, Label.latest, hq, Ne.symm hq] using ih
      | stopping => simp [Label.current, Label.latest]
      | silent | sent | fed | called | answered | crashed | put | announced | removed | handled
      | returned => exact ih

theorem World.follows_congr_iff (hregistry : w'.hub.registry = w.hub.registry)
    (hcall : w'.call = w.call) : w'.Follows query number ↔ w.Follows query number :=
  ⟨fun h => h.congr hregistry.symm hcall.symm, fun h => h.congr hregistry hcall⟩

/-- No fetch is under way, so that a query has the watch that is registered for it. -/
theorem World.follows_iff_of_call (h : ∀ q n, w.call ≠ some (.registering q n)) (query : Query)
    (number : Nat) : w.Follows query number ↔ (query, number) ∈ w.hub.registry := by
  constructor
  · rintro (⟨hmem, -⟩ | hregistering)
    · exact hmem
    · exact absurd hregistering (h query number)
  · intro hmem
    exact .inl ⟨hmem, fun m => h query m⟩

/-- The watch of a query in the feed is that of its latest fetch. -/
theorem Step.follows_iff (step : Step w l w') {before : Option Nat}
    (h : ∀ n, w.Follows query n ↔ before = some n) (n : Nat) :
    w'.Follows query n ↔ l.latest query before = some n := by
  cases step.feedSide with
  | passed hl hub call =>
      rw [Label.latest_of_isFeed hl, ← h]
      exact World.follows_congr_iff hub.registry_eq call
  | served _ _ turns call hl =>
      have hlatest : l.latest query before = before := by
        rcases hl with rfl | ⟨_, rfl, -⟩ <;> rfl
      rw [hlatest, ← h]
      exact World.follows_congr_iff turns.registry_eq call
  | @fetched q _ hcall turns call _ =>
      have hbefore := w.follows_iff_of_call (by simp [hcall]) query n
      unfold World.Follows
      rw [turns.registry_eq, call]
      by_cases hq : q = query
      · subst hq
        simp [Label.latest, eq_comm]
      · simp [Label.latest, hq, ← h, hbefore]
  | @registered q m hcall =>
      rw [World.follows_iff_of_call (by simp [World.calling])]
      show (query, n) ∈ (w.hub.register q m).registry ↔ before = some n
      rw [← h, Hub.mem_register, World.Follows, hcall]
      by_cases hq : q = query
      · subst hq
        simp [eq_comm]
      · simp [hq, Ne.symm hq]
  | stopping hcall =>
      rw [World.follows_iff_of_call (by simp [World.calling])]
      simp [World.calling, World.withHub, Hub.clearRegistry, Label.latest]
  | @switchedOff m _ _ hcall =>
      have hbefore := w.follows_iff_of_call (by simp [hcall]) query n
      rw [World.follows_iff_of_call (by simp [World.calling])]
      show (query, n) ∈ (w.hub.cancelFollower m).registry ↔ before = some n
      rw [(w.hub.turns_cancelFollower m).registry_eq, ← hbefore, h]
  | concluded hcall hub call =>
      have hbefore := w.follows_iff_of_call (by simp [hcall]) query n
      rw [World.follows_iff_of_call (by simp [call]), hub.registry_eq, ← hbefore, h]
      rfl

theorem Run.follows_iff (run : Run (.start cache outlets) t w) (query : Query) (number : Nat) :
    w.Follows query number ↔ t.latest query = some number := by
  induction run generalizing number with
  | nil => simp [World.Follows, World.start, Trace.latest]
  | snoc run step ih =>
      rw [Trace.latest_snoc]
      exact step.follows_iff ih number

/-! ## Watches that were superseded or cancelled -/

/-- A fetch takes the next number, and there is one more from then on. -/
theorem Step.number_of_fetched (step : Step w (.fetched query number) w') :
    number = w.hub.nextNumber ∧ number < w'.hub.nextNumber ∧
      ∃ f, w'.hub.follower? number = some f := by
  cases step.feedSide with
  | passed hl => cases hl
  | fetched _ _ _ fresh =>
      obtain ⟨p, hp, hf, -⟩ := fresh
      exact ⟨rfl, (List.getElem?_eq_some_iff.1 hp).1, _, (Hub.follower?_eq hp).trans hf⟩
  | served _ _ _ _ hl =>
      rcases hl with hl | ⟨_, hl, -⟩
      · cases hl
      · cases hl

theorem Run.lt_nextNumber_of_fetched (run : Run (.start cache outlets) t w) (hm : m ∈ t)
    (hlabel : m.label = .fetched query number) : number < w.hub.nextNumber := by
  induction run with
  | nil => cases hm
  | @snoc t w w' l run step ih =>
      rcases List.mem_append.1 hm with hm | hm
      · exact Nat.lt_of_lt_of_le (ih hm) step.nextNumber_le
      · obtain rfl := List.mem_singleton.1 hm
        replace hlabel : l = .fetched query number := hlabel
        subst hlabel
        exact step.number_of_fetched.2.1

/-- No number is taken twice. -/
theorem Run.query_eq_of_fetched (run : Run (.start cache outlets) t w) {m' : Moment}
    {query' : Query} (hm : m ∈ t) (hm' : m' ∈ t) (hlabel : m.label = .fetched query number)
    (hlabel' : m'.label = .fetched query' number) : query = query' := by
  induction run with
  | nil => cases hm
  | @snoc t w w' l run step ih =>
      have hnew : ∀ {q}, l = .fetched q number → number = w.hub.nextNumber := by
        rintro q rfl
        exact step.number_of_fetched.1
      rcases List.mem_append.1 hm with hm | hm <;> rcases List.mem_append.1 hm' with hm' | hm'
      · exact ih hm hm'
      · have hlt := run.lt_nextNumber_of_fetched hm hlabel
        obtain rfl := List.mem_singleton.1 hm'
        exact absurd (hnew hlabel') (Nat.ne_of_lt hlt)
      · have hlt := run.lt_nextNumber_of_fetched hm' hlabel'
        obtain rfl := List.mem_singleton.1 hm
        exact absurd (hnew hlabel) (Nat.ne_of_lt hlt)
      · obtain rfl := List.mem_singleton.1 hm
        obtain rfl := List.mem_singleton.1 hm'
        rw [hlabel] at hlabel'
        cases hlabel'
        rfl

theorem Trace.exists_fetched_of_latest (t : Trace) (h : t.latest query = some number) :
    ∃ m ∈ t, m.label = .fetched query number := by
  induction t using List.reverseRecOn with
  | nil => cases h
  | append_singleton t m ih =>
      rw [latest_snoc] at h
      by_cases hl : m.label.supersedes query = true
      · refine ⟨m, List.mem_append_right _ List.mem_cons_self, ?_⟩
        cases hm : m.label <;> rw [hm] at h hl <;> simp_all [Label.latest, Label.supersedes]
      · rw [Label.latest_of_supersedes (by simpa using hl)] at h
        obtain ⟨m', hm', hlabel⟩ := ih h
        exact ⟨m', List.mem_append_left _ hm', hlabel⟩

theorem Trace.Outdates.of_snoc (h : Outdates (t ++ [m]) query number) :
    (∃ m' ∈ t, m'.label = .fetched query number) ∧
      (t.Outdates query number ∨ m.label.supersedes query = true) := by
  obtain ⟨before, first, after, heq, hlabel, m', hm', hsupersedes⟩ := h
  induction after using List.reverseRecOn with
  | nil => cases hm'
  | append_singleton after last _ =>
      rw [← List.cons_append, ← List.append_assoc] at heq
      obtain ⟨rfl, hlast⟩ := List.append_inj' heq rfl
      obtain rfl : m = last := by simpa using hlast
      refine ⟨⟨first, by simp, hlabel⟩, ?_⟩
      rcases List.mem_append.1 hm' with hm' | hm'
      · exact .inl ⟨before, first, after, rfl, hlabel, m', hm', hsupersedes⟩
      · obtain rfl := List.mem_singleton.1 hm'
        exact .inr hsupersedes

/-- A watch that was superseded or cancelled is not that of the latest fetch, and never will be. -/
theorem Run.latest_ne_of_outdates (run : Run (.start cache outlets) t w)
    (h : t.Outdates query number) : t.latest query ≠ some number := by
  induction run with
  | nil =>
      obtain ⟨before, m, after, heq, -⟩ := h
      simp at heq
  | @snoc t w w' l run step ih =>
      obtain ⟨⟨m, hm, hlabel⟩, hcases⟩ := h.of_snoc
      have hlt := run.lt_nextNumber_of_fetched hm hlabel
      rw [Trace.latest_snoc]
      by_cases hl : l.supersedes query = true
      · cases l with
        | fetched q n =>
            have hn := step.number_of_fetched.1
            have hq : q = query := by simpa [Label.supersedes] using hl
            simp only [Label.latest, hq, if_true, Option.some.injEq, ne_eq]
            omega
        | stopping => simp [Label.latest]
        | silent | sent | fed | called | answered | crashed | put | announced | removed | handled
        | returned => cases hl
      · have houtdated := hcases.resolve_right hl
        rw [Label.latest_of_supersedes (by simpa using hl)]
        exact ih houtdated

/-- A watch that was opened by a fetch keeps its follower. -/
theorem Step.exists_follower (step : Step w l w') (h : ∃ f, w.hub.follower? number = some f) :
    ∃ f, w'.hub.follower? number = some f := by
  cases step.feedSide with
  | passed _ hub | concluded _ hub => rwa [hub.follower?_eq]
  | registered | stopping => exact h
  | fetched _ turns | served _ _ turns =>
      rw [turns.follower?_eq]
      split
      · exact ⟨_, rfl⟩
      · exact h
  | @switchedOff m =>
      dsimp only [World.calling, World.withHub]
      rw [(w.hub.turns_cancelFollower m).follower?_eq]
      split
      · rename_i hn
        obtain ⟨f, hf⟩ := h
        exact ⟨f.cancel, by rw [← hn, hf, Option.map_some]⟩
      · exact h

theorem Run.exists_follower (run : Run (.start cache outlets) t w) (hm : m ∈ t)
    (hlabel : m.label = .fetched query number) : ∃ f, w.hub.follower? number = some f := by
  induction run with
  | nil => cases hm
  | @snoc t w w' l run step ih =>
      rcases List.mem_append.1 hm with hm | hm
      · exact step.exists_follower (ih hm)
      · obtain rfl := List.mem_singleton.1 hm
        replace hlabel : l = .fetched query number := hlabel
        subst hlabel
        exact step.number_of_fetched.2.2

end Latest

/-! ## Watches that are followed -/

section Attended

variable {t : Trace} {w w' : World} {l : Label} {cache : Cache} {outlets : Outlets}

/-- Whoever is switched on goes on and receives. -/
def World.Attended (w : World) : Prop :=
  ∀ (n : Nat) (p : Pipe) (f : Follower), w.hub.pipes[n]? = some p → p.follower = some f →
    f.isActive = true → f.isFinished = false ∧ p.receiverOpen = true

theorem Step.attended (step : Step w l w') (calm : w.Calm) (hopen : w.hub.StreamsOpen)
    (h : w.Attended) : w'.Attended := by
  intro n p' f' hp' hf' hactive'
  rcases step.flow_of calm hp' hf' hactive' with ⟨p, f, hp, hf, hactive, flow⟩ | hnew
  · obtain ⟨hrunning, hreceiver⟩ := h n p f hp hf hactive
    cases flow with
    | kept _ _ _ _ finished receiver => exact ⟨finished.trans hrunning, receiver.trans hreceiver⟩
    | came _ _ _ _ _ finished _ receiver | taken _ _ _ _ _ _ finished _ receiver
    | handled _ _ _ _ _ _ finished _ receiver =>
        exact ⟨finished.trans hrunning, receiver.trans hreceiver⟩
    | ended _ _ _ _ _ _ _ _ hsender =>
        rw [hopen p (List.mem_of_getElem? hp) (by simp [hf]) hreceiver] at hsender
        cases hsender
  · exact hnew

theorem Run.streamsOpen (run : Run (.start cache outlets) t w) (h : t.StreamsOpen) :
    w.hub.StreamsOpen := by
  cases run with
  | nil => exact fun _ hp => by cases hp
  | snoc => exact h _ (List.mem_append_right _ List.mem_cons_self)

theorem Run.attended (run : Run (.start cache outlets) t w) (h : t.StreamsOpen) :
    w.Attended := by
  induction run with
  | nil => exact fun n p f hp => by simp [World.start] at hp
  | snoc run step ih =>
      have hbefore : Trace.StreamsOpen _ := fun m hm => h m (List.mem_append_left _ hm)
      exact step.attended run.calm (run.streamsOpen hbefore) (ih hbefore)

end Attended

section Count

variable {t : Trace} {w w' : World} {l : Label} {query : Query} {number : Nat}
  {cache : Cache} {outlets : Outlets}

theorem Step.nodup_registry (step : Step w l w') (h : (w.hub.registry.map Prod.fst).Nodup) :
    (w'.hub.registry.map Prod.fst).Nodup := by
  cases step.feedSide with
  | passed _ hub | concluded _ hub => rwa [hub.registry_eq]
  | fetched _ turns | served _ _ turns => rwa [turns.registry_eq]
  | @registered q n => exact Keyed.nodup_replaced h q n
  | stopping => exact List.nodup_nil
  | @switchedOff m =>
      dsimp only [World.calling, World.withHub]
      rwa [(w.hub.turns_cancelFollower m).registry_eq]

theorem Run.nodup_registry (run : Run (.start cache outlets) t w) :
    (w.hub.registry.map Prod.fst).Nodup :=
  run.keeps Step.nodup_registry List.nodup_nil

/-- Every watch in the registry counts while its follower is switched on and goes on. -/
theorem World.Attended.activeCount_eq (h : w.Attended) (tidy : w.Tidy) :
    w.hub.activeCount = w.hub.registry.length := by
  have hall : ∀ entry ∈ w.hub.registry, w.hub.isFollowed entry.2 = true := by
    rintro ⟨q, n⟩ hmem
    obtain ⟨p, f, hp, hf, hactive, -⟩ := Hub.active?_eq_some (tidy.active hmem)
    simp [Hub.isFollowed, hp, hf, (h n p f hp hf hactive).1]
  rw [Hub.activeCount, List.filter_eq_self.2 hall]

theorem Run.mem_registry_iff (run : Run (.start cache outlets) t w)
    (hcall : ∀ q n, w.call ≠ some (.registering q n)) :
    (query, number) ∈ w.hub.registry ↔ t.latest query = some number := by
  rw [← run.follows_iff, World.follows_iff_of_call hcall]

/-- As many queries are current as have a watch in the registry. -/
theorem Run.card_current (run : Run (.start cache outlets) t w)
    (hcall : ∀ q n, w.call ≠ some (.registering q n)) :
    t.current.card = w.hub.registry.length := by
  have hcurrent : t.current = (w.hub.registry.map Prod.fst).toFinset := by
    ext q
    rw [Trace.mem_current_iff, List.mem_toFinset, List.mem_map]
    constructor
    · rintro ⟨n, hn⟩
      exact ⟨(q, n), (run.mem_registry_iff hcall).2 hn, rfl⟩
    · rintro ⟨⟨q, n⟩, hmem, rfl⟩
      exact ⟨n, (run.mem_registry_iff hcall).1 hmem⟩
  rw [hcurrent, List.toFinset_card_of_nodup run.nodup_registry, List.length_map]

/-- While a fetch is under way that is not registered yet, the registry is what it was before. -/
theorem Run.card_current_of_registering (run : Run (.start cache outlets) t w)
    (hcall : w.call = some (.registering query number)) :
    ∃ before m after, t = before ++ m :: after ∧ m.label = .fetched query number ∧
      (Trace.current before).card = w.hub.registry.length := by
  induction run with
  | nil => cases hcall
  | @snoc t w w' l run step ih =>
      have hkept : w'.call = w.call → w'.hub.registry = w.hub.registry →
          ∃ before m after, t ++ [⟨l, w'⟩] = before ++ m :: after ∧
            m.label = .fetched query number ∧
            (Trace.current before).card = w'.hub.registry.length := by
        intro call hregistry
        obtain ⟨before, m, after, rfl, hlabel, hcard⟩ := ih (call ▸ hcall)
        exact ⟨before, m, after ++ [⟨l, w'⟩], by simp, hlabel, hregistry ▸ hcard⟩
      cases step.feedSide with
      | passed _ hub call => exact hkept call hub.registry_eq
      | served _ _ turns call => exact hkept call turns.registry_eq
      | @fetched q _ hnone turns call =>
          rw [call] at hcall
          obtain ⟨rfl, rfl⟩ : q = query ∧ w.hub.nextNumber = number := by simpa using hcall
          refine ⟨t, _, [], rfl, rfl, ?_⟩
          rw [turns.registry_eq, run.card_current (by simp [hnone])]
      | registered | stopping | switchedOff => cases hcall
      | concluded _ _ call =>
          rw [call] at hcall
          cases hcall

/-- A watch that was superseded or cancelled is in the registry of no query. -/
theorem Run.not_mem_registry_of_outdates (run : Run (.start cache outlets) t w)
    (hcall : ∀ q n, w.call ≠ some (.registering q n)) (h : t.Outdates query number) (q : Query) :
    (q, number) ∉ w.hub.registry := by
  intro hmem
  have hlatest := (run.mem_registry_iff hcall).1 hmem
  obtain ⟨m, hm, hlabel⟩ := t.exists_fetched_of_latest hlatest
  obtain ⟨before, m', after, rfl, hlabel', -⟩ := id h
  obtain rfl : q = query := run.query_eq_of_fetched hm (by simp) hlabel hlabel'
  exact run.latest_ne_of_outdates h hlatest

theorem Run.active?_iff (run : Run (.start cache outlets) t w) (hcall : w.call = none) :
    w.hub.active? number = some query ↔ (query, number) ∈ w.hub.registry :=
  ⟨run.tidy.mem_registry hcall, run.tidy.active⟩

/-- What was fetched and cancelled so far tells which watches there are. A query has one watch in the
registry at most. Whose follower is switched on is in the registry, unless the call under way is
about to register or to switch it off; between the calls the registry and the followers agree, and
watches that were superseded or cancelled are neither in the registry nor switched on. As long as
the streams stay open, the watches that count as active are as many as the queries that were fetched
since the feed last began to stop, where a fetch counts once its watch is registered, and they are
none when the feed has just cancelled all of them. -/
theorem fetches_tell_active_watches (run : Run (.start cache outlets) t w) :
    (w.hub.registry.map Prod.fst).Nodup ∧
    (∀ query number, w.hub.active? number = some query →
      (query, number) ∈ w.hub.registry ∨ w.call = some (.registering query number) ∨
        ∃ numbers ending, w.call = some (.switchingOff numbers ending) ∧ number ∈ numbers) ∧
    (w.call = none →
      (∀ query number, w.hub.active? number = some query ↔ (query, number) ∈ w.hub.registry) ∧
      ∀ query number, t.Outdates query number →
        (∃ f, w.hub.follower? number = some f ∧ f.isActive = false) ∧
          ∀ q, (q, number) ∉ w.hub.registry) ∧
    (t.StreamsOpen →
      ((∀ query number, w.call ≠ some (.registering query number)) →
        w.hub.activeCount = t.current.card) ∧
      ∀ query number, w.call = some (.registering query number) →
        ∃ before m after, t = before ++ m :: after ∧ m.label = .fetched query number ∧
          w.hub.activeCount = (Trace.current before).card) ∧
    ∀ total w', Step w (.returned (.cancel total)) w' → w'.hub.activeCount = 0 := by
  refine ⟨run.nodup_registry, fun query number => run.tidy.known, fun hcall => ?_,
    fun hopen => ?_, fun total w' step => ?_⟩
  · refine ⟨fun query number => run.active?_iff hcall, fun query number h => ?_⟩
    have hout := run.not_mem_registry_of_outdates (by simp [hcall]) h
    refine ⟨?_, hout⟩
    obtain ⟨before, m, after, rfl, hlabel, -⟩ := h
    obtain ⟨f, hf⟩ := run.exists_follower (by simp) hlabel
    refine ⟨f, hf, ?_⟩
    rw [Bool.eq_false_iff]
    intro hactive
    have hon : w.hub.active? number = some f.query := by
      rw [Hub.active?, hf, Option.bind_some, if_pos hactive]
    exact hout f.query ((run.active?_iff hcall).1 hon)
  · have hcount := (run.attended hopen).activeCount_eq run.tidy
    refine ⟨fun hregistering => hcount.trans (run.card_current hregistering).symm,
      fun query number hcall => ?_⟩
    obtain ⟨before, m, after, heq, hlabel, hcard⟩ := run.card_current_of_registering hcall
    exact ⟨before, m, after, heq, hlabel, hcount.trans hcard.symm⟩
  · have hempty : w'.hub.registry = [] := (step.settled run.tidy).2
    rw [Hub.activeCount, hempty]
    rfl

end Count

/-- One query is fetched, then another one, then the first one again. -/
def fetchingAgain : List Deed :=
  [.fetch (.commits "own"), .proceed, .proceed, .fetch (.commits "other"), .proceed, .proceed,
    .fetch (.commits "own"), .proceed, .proceed, .proceed]

theorem fetches_tell_active_watches_again :
    let start : World := .start .empty .unheard
    let t := start.trace fetchingAgain
    let w := start.after fetchingAgain
    let cancelled := w.after [.cancel, .proceed, .proceed]
    let w' := (cancelled.withHub (cancelled.hub.conclude (.cancel 2))).calling none
    (t.Outdates (.commits "own") 0 ∧ (∃ f, w.hub.follower? 0 = some f ∧ f.isActive = false) ∧
      (∀ q, (q, 0) ∉ w.hub.registry) ∧ t.StreamsOpen ∧ w.hub.activeCount = 2) ∧
    Step cancelled (.returned (.cancel 2)) w' ∧ w'.hub.activeCount = 0 := by
  intro start t w cancelled w'
  constructor
  · have run := Run.of_deeds start fetchingAgain
    have hcall : w.call = none := by decide +kernel
    have hopen : t.StreamsOpen := by decide +kernel
    have houtdated : t.Outdates (.commits "own") 0 :=
      ⟨[], _, t.tail, rfl, rfl, by decide +kernel⟩
    obtain ⟨-, -, hbetween, hcount, -⟩ := fetches_tell_active_watches run
    obtain ⟨hoff, hregistry⟩ := (hbetween hcall).2 _ _ houtdated
    have hregistering : ∀ q n, w.call ≠ some (.registering q n) := by simp [hcall]
    refine ⟨houtdated, hoff, hregistry, hopen, ((hcount hopen).1 hregistering).trans ?_⟩
    decide +kernel
  · have run := (Run.of_deeds start fetchingAgain).append
      (Run.of_deeds w [.cancel, .proceed, .proceed])
    have hcall : cancelled.call = some (.switchingOff [] (.cancel 2)) := by decide +kernel
    have step : Step cancelled (.returned (.cancel 2)) w' := .conclude hcall
    exact ⟨step, (fetches_tell_active_watches run).2.2.2.2 2 w' step⟩

end RepoWatch
