import Mathlib.Data.List.Forall2
import Mathlib.Data.List.Induction
import RepoWatch.Proofs.Watch.Protocol
/-!
# When the data of a watch was cached

All data that a watch sends was the entry of its query at some instant of the run. These instants
follow each other as the data does, whether it was read in the cache or brought by the request, so
that a watch never shows data that was replaced before the data that it has shown.
-/

namespace RepoWatch

/-- The data that a watch sends. -/
def Label.shows (number : Nat) (l : Label) : Option Json := (l.sentBy number).bind Event.data?

theorem Label.shows_of_sentBy {number : Nat} {l : Label} (h : l.sentBy number = none) :
    l.shows number = none := by
  rw [shows, h]
  rfl

namespace Trace

/-- The worlds of a run, from the one in which it begins. -/
def worlds (origin : World) (t : Trace) : List World := origin :: t.map Moment.world

/-- At an instant of a run, the entry of a query is equal to a value. -/
def CachedAt (origin : World) (t : Trace) (query : Query) (instant : Nat) (data : Json) : Prop :=
  ∃ w, (t.worlds origin)[instant]? = some w ∧ w.hub.cache.holds query data = true

/-- The data that a watch has sent, with the instant from which it did. -/
def responses (t : Trace) (number : Nat) : List (Nat × Json) :=
  t.zipIdx.filterMap fun (m, i) => (m.label.shows number).map (i, ·)

variable (t : Trace) (number : Nat) (l : Label) (w origin : World)

@[simp] theorem responses_snoc :
    responses (t ++ [⟨l, w⟩]) number =
      t.responses number ++ ((l.shows number).map (t.length, ·)).toList := by
  unfold responses
  rw [List.zipIdx_append, List.filterMap_append]
  cases h : l.shows number <;> simp [h]

theorem map_snd_responses :
    (t.responses number).map Prod.snd = (t.sent number).filterMap Event.data? := by
  induction t using List.reverseRecOn with
  | nil => rfl
  | append_singleton t m ih =>
      obtain ⟨l, w⟩ := m
      rw [responses_snoc, sent_snoc, List.map_append, List.filterMap_append, ih]
      unfold Label.shows
      cases l.sentBy number with
      | none => rfl
      | some e => cases h : e.data? <;> simp [h]

variable {t l w origin} {query : Query} {instant : Nat} {data : Json}

/-- What was cached at an instant was so whatever comes later. -/
theorem CachedAt.snoc (h : t.CachedAt origin query instant data) (m : Moment) :
    CachedAt origin (t ++ [m]) query instant data := by
  obtain ⟨v, hv, hholds⟩ := h
  refine ⟨v, ?_, hholds⟩
  have hlt := (List.getElem?_eq_some_iff.1 hv).1
  have hworlds : worlds origin (t ++ [m]) = t.worlds origin ++ [m.world] := by simp [worlds]
  rw [hworlds, List.getElem?_append_left hlt]
  exact hv

/-- What is cached after the last step is cached at the last instant. -/
theorem cachedAt_last (h : w.hub.cache.holds query data = true) :
    CachedAt origin (t ++ [⟨l, w⟩]) query (t.length + 1) data := by
  refine ⟨w, ?_, h⟩
  have hworlds : worlds origin (t ++ [⟨l, w⟩]) = t.worlds origin ++ [w] := by simp [worlds]
  have hlength : (t.worlds origin).length = t.length + 1 := by simp [worlds]
  rw [hworlds, ← hlength, List.getElem?_concat_length]

end Trace

/-- The data that a watch is about to send, from the moment at which it is the entry. -/
def Watch.toShow (x : Watch) : Option Json :=
  match x.phase with
  | .sendingCached data | .notifying data | .sendingFetched data | .sendingChange data => some data
  | _ => none

section Advance

variable {number : Nat} {x x' : Watch} {heard : Bool} {cache : Cache} {l : Label} {data : Json}
  {w w' : World}

/-- A watch sends the data that it was about to send. -/
theorem Advance.toShow_of_sent (h : Advance number x heard cache l x')
    (hdata : l.shows number = some data) : x.toShow = some data := by
  cases h with
  | sentCached hphase | sentFetched hphase | sentChange hphase =>
      simpa [Watch.toShow, hphase, Label.shows, Label.sentBy, Event.data?] using hdata
  | ended hlabel => rcases hlabel with rfl | ⟨_, rfl⟩ | rfl <;> cases hdata
  | _ => simp [Label.shows, Label.sentBy, Event.data?] at hdata

/-- What a watch is about to send it was about to send before, or it has just read or stored it. -/
theorem Advance.toShow_cases (h : Advance number x heard cache l x')
    (hdata : x'.toShow = some data) :
    l.sentBy number = none ∧
      (x.toShow = some data ∨
        (l.changes x.query = false ∧ l ≠ .removed ∧ cache.holds x.query data = true) ∨
        l = .put (some number) x.query data true) := by
  cases h with
  | hit hphase hget | changed hphase hget =>
      cases hdata
      refine ⟨rfl, .inr (.inl ⟨rfl, by simp, ?_⟩)⟩
      exact (cache.holds_eq_true_iff _ _).2 ⟨_, hget, BEq.rfl⟩
  | stored hphase =>
      cases hdata
      exact ⟨rfl, .inr (.inr rfl)⟩
  | storedEqual hphase hholds =>
      cases hdata
      exact ⟨rfl, .inr (.inl ⟨by simp [Label.changes], by simp, hholds⟩)⟩
  | notified hphase =>
      cases hdata
      exact ⟨rfl, .inl (by simp [Watch.toShow, hphase])⟩
  | ended _ hphase => simp [Watch.toShow, hphase] at hdata
  | scheduled | missed | sentCached =>
      cases hpolicy : x.policy <;>
        simp [Watch.toShow, Watch.goTo, Watch.begin, Watch.afterRead, Watch.afterCached,
          hpolicy] at hdata
  | _ => simp [Watch.toShow, Watch.goTo] at hdata

/-- What a watch comes to be about to send is the entry of its query. -/
theorem Step.toShow_cases (step : Step w l w')
    (h : Advance number x (w.hub.isReceived number) w.hub.cache l x')
    (hdata : x'.toShow = some data) :
    l.sentBy number = none ∧
      (x.toShow = some data ∨ w'.hub.cache.holds x.query data = true) := by
  obtain ⟨hsent, hold | ⟨hchanges, hremoved, hholds⟩ | rfl⟩ := h.toShow_cases hdata
  · exact ⟨hsent, .inl hold⟩
  · refine ⟨hsent, .inr ?_⟩
    have hentry : w'.hub.cache.get? x.query = w.hub.cache.get? x.query :=
      step.entry_eq x.query hremoved hchanges
    rw [Cache.holds_eq_true_iff, hentry]
    exact (w.hub.cache.holds_eq_true_iff _ _).1 hholds
  · refine ⟨hsent, .inr ?_⟩
    exact (w'.hub.cache.holds_eq_true_iff _ _).2 ⟨data, step.entry_of_put, BEq.rfl⟩

end Advance

/-- Instants at which the data was cached that a watch has sent, and an instant for what it is about
to send. -/
structure Watch.Dated (x : Watch) (origin : World) (number : Nat) (query : Query) (t : Trace)
    (instants : List Nat) : Prop where
  increasing : instants.Pairwise (· < ·)
  past : ∀ instant ∈ instants, instant ≤ t.length
  cached : List.Forall₂ (fun instant r => instant ≤ r.1 ∧ t.CachedAt origin query instant r.2)
    instants (t.responses number)
  next : ∀ data, x.toShow = some data → ∃ instant, instant ≤ t.length ∧
    (∀ earlier ∈ instants, earlier < instant) ∧ t.CachedAt origin query instant data

section Dated

variable {origin w w' : World} {t : Trace} {number : Nat} {query : Query} {policy : Policy}
  {x x' : Watch} {l : Label} {instants : List Nat}

theorem Watch.dated_create (origin : World) (number : Nat) (query : Query) (policy : Policy) :
    (Watch.create origin.hub.cache query policy).Dated origin number query [] [] where
  increasing := List.Pairwise.nil
  past _ h := by cases h
  cached := List.Forall₂.nil
  next _ h := by cases h

/-- A step in which a watch sends no data keeps the instants of the data that it has sent. -/
theorem Watch.Dated.of_silent (h : x.Dated origin number query t instants) (w' : World)
    (hl : l.shows number = none)
    (next : ∀ data, x'.toShow = some data → ∃ instant, instant ≤ t.length + 1 ∧
      (∀ earlier ∈ instants, earlier < instant) ∧
        Trace.CachedAt origin (t ++ [⟨l, w'⟩]) query instant data) :
    x'.Dated origin number query (t ++ [⟨l, w'⟩]) instants := by
  have hresponses : Trace.responses (t ++ [⟨l, w'⟩]) number = t.responses number := by
    rw [Trace.responses_snoc, hl, Option.map_none, Option.toList_none, List.append_nil]
  have hlength : (t ++ [(⟨l, w'⟩ : Moment)]).length = t.length + 1 := by simp
  constructor
  · exact h.increasing
  · intro instant hmem
    have hle := h.past instant hmem
    omega
  · rw [hresponses]
    exact h.cached.imp fun _ _ ⟨hle, hcached⟩ => ⟨hle, hcached.snoc _⟩
  · rw [hlength]
    exact next

theorem Watch.Dated.others (h : x.Dated origin number query t instants) (w' : World)
    (hl : l.isOf number = false) : x.Dated origin number query (t ++ [⟨l, w'⟩]) instants := by
  apply h.of_silent w'
  · exact Label.shows_of_sentBy (Label.sentBy_of_isOf hl)
  · intro data hdata
    obtain ⟨instant, hle, hlater, hcached⟩ := h.next data hdata
    exact ⟨instant, by omega, hlater, hcached.snoc _⟩

/-- A watch that sends data was about to send it, at an instant after those of all data before. -/
theorem Watch.Dated.of_sent (h : x.Dated origin number query t instants) (w' : World)
    {data : Json} (hl : l.shows number = some data)
    (hshow : x.toShow = some data) (hnext : x'.toShow = none) :
    ∃ instant, x'.Dated origin number query (t ++ [⟨l, w'⟩]) (instants ++ [instant]) := by
  obtain ⟨instant, hle, hlater, hcached⟩ := h.next data hshow
  have hresponses : Trace.responses (t ++ [⟨l, w'⟩]) number =
      t.responses number ++ [(t.length, data)] := by
    rw [Trace.responses_snoc, hl]
    rfl
  refine ⟨instant, ?_, ?_, ?_, ?_⟩
  · rw [List.pairwise_append]
    refine ⟨h.increasing, List.pairwise_singleton _ _, ?_⟩
    intro earlier hmem last hlast
    obtain rfl := List.mem_singleton.1 hlast
    exact hlater earlier hmem
  · intro instant' hmem
    have hlength : (t ++ [(⟨l, w'⟩ : Moment)]).length = t.length + 1 := by simp
    rcases List.mem_append.1 hmem with hbefore | hlast
    · have := h.past instant' hbefore
      omega
    · obtain rfl := List.mem_singleton.1 hlast
      omega
  · rw [hresponses]
    apply List.rel_append
    · exact h.cached.imp fun _ _ ⟨hle, hcached⟩ => ⟨hle, hcached.snoc _⟩
    · exact .cons ⟨hle, hcached.snoc _⟩ .nil
  · intro data' hdata
    rw [hnext] at hdata
    cases hdata

theorem Watch.Dated.own (h : x.Dated origin number query t instants) (hquery : x.query = query)
    (step : Step w l w')
    (advance : Advance number x (w.hub.isReceived number) w.hub.cache l x') :
    ∃ instants', x'.Dated origin number query (t ++ [⟨l, w'⟩]) instants' := by
  cases hl : l.shows number with
  | some data =>
      have hnext : x'.toShow = none := by
        cases hshow : x'.toShow with
        | none => rfl
        | some data' =>
            rw [Label.shows_of_sentBy (step.toShow_cases advance hshow).1] at hl
            cases hl
      obtain ⟨instant, dated⟩ := h.of_sent w' hl (advance.toShow_of_sent hl) hnext
      exact ⟨_, dated⟩
  | none =>
      refine ⟨instants, h.of_silent w' hl ?_⟩
      intro data hdata
      obtain ⟨-, hold | hholds⟩ := step.toShow_cases advance hdata
      · obtain ⟨instant, hle, hlater, hcached⟩ := h.next data hold
        exact ⟨instant, by omega, hlater, hcached.snoc _⟩
      · refine ⟨t.length + 1, Nat.le_refl _, ?_, Trace.cachedAt_last (hquery ▸ hholds)⟩
        intro earlier hmem
        exact Nat.lt_succ_of_le (h.past earlier hmem)

/-- All data that a watch has sent can be dated. -/
theorem Run.dated (run : Run origin t w) (born : origin.Opened number query policy) :
    ∃ instants x, w.hub.watch? number = some x ∧ x.Dated origin number query t instants := by
  have hinv := run.life_induction
    (P := fun t _ x => ∃ instants, x.Dated origin number query t instants) born
    ⟨[], Watch.dated_create origin number query policy⟩ ?_ ?_
  · obtain ⟨x, hx, -, instants, dated⟩ := hinv
    exact ⟨instants, x, hx, dated⟩
  · rintro t w l w' x - ⟨instants, dated⟩ step hx hl
    exact ⟨instants, dated.others w' hl⟩
  · rintro t w l w' x x' life ⟨instants, dated⟩ step hx advance
    exact dated.own life.query_eq step advance

end Dated

section Chronology

/-- What goes with increasing numbers goes with them in pairs. -/
private theorem pairwise_of_increasing {α : Type} {R : Nat → α → Prop} {ns : List Nat}
    {as : List α} (h : List.Forall₂ R ns as) (hns : ns.Pairwise (· < ·)) :
    as.Pairwise fun a b => ∃ n m, n < m ∧ R n a ∧ R m b := by
  induction h with
  | nil => exact List.Pairwise.nil
  | @cons n a ns as hna hrest ih =>
      obtain ⟨hfirst, hns⟩ := List.pairwise_cons.1 hns
      refine List.pairwise_cons.2 ⟨fun b hb => ?_, ih hns⟩
      obtain ⟨m, hm, hmb⟩ : ∃ m ∈ ns, R m b := by
        obtain ⟨i, hi, rfl⟩ := List.getElem_of_mem hb
        have hi' : i < ns.length := hrest.length_eq ▸ hi
        exact ⟨ns[i], List.getElem_mem hi', hrest.get hi' hi⟩
      exact ⟨n, m, hfirst m hm, hna, hmb⟩

variable {origin w : World} {t : Trace} {number : Nat} {query : Query} {policy : Policy}

/-- The data that a watch sends can be dated: each was the entry of the query at an instant between
the opening of the watch and the sending, and the instants increase. So when a watch has sent data
that was not cached before some instant, it sends no other data later that was not cached since. -/
theorem watch_never_goes_back (born : origin.Opened number query policy) (run : Run origin t w) :
    (∃ instants : List Nat, instants.Pairwise (· < ·) ∧
      List.Forall₂ (fun instant r => instant ≤ r.1 ∧ t.CachedAt origin query instant r.2)
        instants (t.responses number)) ∧
    (t.responses number).map Prod.snd = (t.sent number).filterMap Event.data? ∧
    ∀ {shown later : Json} {instant : Nat},
      [shown, later].Sublist ((t.sent number).filterMap Event.data?) →
      (∀ before < instant, ¬ t.CachedAt origin query before shown) →
        ∃ since, instant ≤ since ∧ t.CachedAt origin query since later := by
  obtain ⟨instants, x, -, dated⟩ := run.dated born
  refine ⟨⟨instants, dated.increasing, dated.cached⟩, t.map_snd_responses number, ?_⟩
  intro shown later instant hsublist hbefore
  have hpairs := pairwise_of_increasing dated.cached dated.increasing
  have hdata : ((t.responses number).map Prod.snd).Pairwise fun a b =>
      ∃ n m, n < m ∧ t.CachedAt origin query n a ∧ t.CachedAt origin query m b := by
    refine List.pairwise_map.2 (hpairs.imp ?_)
    rintro a b ⟨n, m, hlt, ⟨-, ha⟩, ⟨-, hb⟩⟩
    exact ⟨n, m, hlt, ha, hb⟩
  rw [t.map_snd_responses number] at hdata
  obtain ⟨n, m, hlt, hshown, hlater⟩ := List.pairwise_iff_forall_sublist.1 hdata hsublist
  have hle : instant ≤ n := by
    apply Nat.le_of_not_lt
    intro hn
    exact hbefore n hn hshown
  exact ⟨m, by omega, hlater⟩

/-- What is cached at first, what the network brings, and what is stored later are sent in order. -/
theorem watch_never_goes_back_to_change :
    let query : Query := .commits "own"
    let origin : World := .watching (Cache.empty.insert query (.integer 1)) query .cacheAndNetwork
    let t := origin.trace (cachedThenFetched query)
    let w := origin.after (cachedThenFetched query)
    origin.Opened 0 query .cacheAndNetwork ∧ Run origin t w ∧
      ((t.sent 0).filterMap Event.data? == [.integer 1, .integer 2, .integer 3]) = true ∧
      ∃ instants : List Nat, instants.Pairwise (· < ·) ∧
        List.Forall₂ (fun instant r => instant ≤ r.1 ∧ t.CachedAt origin query instant r.2)
          instants (t.responses 0) := by
  intro query origin t w
  have born : origin.Opened 0 query .cacheAndNetwork := rfl
  have run : Run origin t w := .of_deeds origin (cachedThenFetched query)
  have hdata : ((t.sent 0).filterMap Event.data? == [.integer 1, .integer 2, .integer 3]) = true :=
    by decide +kernel
  exact ⟨born, run, hdata, (watch_never_goes_back born run).1⟩

end Chronology
end RepoWatch
