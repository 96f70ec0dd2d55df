import RepoWatch.Proofs.Feed.Forwarding
import RepoWatch.Proofs.Watch.Ledger
/-!
# A watch that serves a fetch

The feed watches with the policy that shows what is cached and asks the network in any case. While
the watch stays in the feed and nobody else changes the entry of its query, it is known in every
phase what it has told, what the entry is, and that it will tell nothing more once it has told the
outcome of its request: the changes that it hears of are of other queries, or its own.
-/

namespace RepoWatch

/-- Whether an event tells more than progress. -/
def Event.tells : Event → Bool
  | .response .. | .failure _ => true
  | .progress _ => false

/-- What is told of an entry that is found in the cache. -/
def Event.ofEntry (entry : Option Json) : List Event := entry.toList.map (.response · true)

/-- What is told of the outcome of a request. -/
def Event.ofOutcome : Except ErrorChain Json → Event
  | .ok data => .response data false
  | .error e => .failure e.toFault

/-- What an outcome makes of the entry of its query: data becomes the entry, unless it is equal to
it, and an error leaves the entry alone. -/
def Becomes (before after : Option Json) : Except ErrorChain Json → Prop
  | .ok data => ∃ cached, after = some cached ∧ (cached == data) = true
  | .error _ => after = before

/-- The data that a watch has sent last when it has told the outcome of its request. -/
def lastTold (before : Option Json) : Except ErrorChain Json → Option Json
  | .ok data => some data
  | .error _ => before

/-- The events of a watch that tell more than progress. -/
def Trace.told (t : Trace) (number : Nat) : List Event := (t.sent number).filter Event.tells

/-- Only a watch with a number changes the entry of a query in a run. -/
def Trace.OwnedBy (number : Nat) (query : Query) : World → Trace → Prop
  | _, [] => True
  | w, m :: t => (m.label.isOf number = true ∨ m.world.entry query = w.entry query) ∧
    OwnedBy number query m.world t

/-- What a watch has told in each phase, and been given, when the entry was `before` at first and is
`entry` now. -/
def Watch.Serves (x : Watch) (before entry : Option Json) (told : List Event)
    (answers : List (Except ErrorChain Json)) : Prop :=
  match x.phase with
  | .created | .announcingRead | .reading =>
      told = [] ∧ answers = [] ∧ entry = before ∧ x.lastSent = none
  | .sendingCached data => told = [] ∧ answers = [] ∧ entry = before ∧ before = some data
  | .announcingFetch | .fetching =>
      told = Event.ofEntry before ∧ answers = [] ∧ entry = before ∧ x.lastSent = before
  | .storing data => told = Event.ofEntry before ∧ answers = [.ok data]
  | .notifying data | .sendingFetched data =>
      told = Event.ofEntry before ∧ answers = [.ok data] ∧ Becomes before entry (.ok data)
  | .sendingFailure fault =>
      ∃ e, e.toFault = fault ∧ told = Event.ofEntry before ∧ answers = [.error e] ∧
        entry = before ∧ x.lastSent = before
  | .completing | .listening | .rereading =>
      ∃ outcome, told = Event.ofEntry before ++ [.ofOutcome outcome] ∧ answers = [outcome] ∧
        Becomes before entry outcome ∧ x.lastSent = lastTold before outcome
  | .sendingMiss | .sendingChange _ | .stopped => False

section OwnedBy

variable {number : Nat} {query : Query} {origin w w' : World} {t : Trace} {l : Label}

theorem Trace.ownedBy_snoc (origin : World) (t : Trace) (m : Moment) :
    OwnedBy number query origin (t ++ [m]) ↔ OwnedBy number query origin t ∧
      (m.label.isOf number = true ∨ m.world.entry query = (t.last origin).entry query) := by
  induction t generalizing origin with
  | nil => exact and_comm
  | cons m' t ih =>
      rw [List.cons_append, OwnedBy, OwnedBy, ih, last_cons, and_assoc]

theorem Run.ownedBy_of_snoc (run : Run origin t w)
    (h : Trace.OwnedBy number query origin (t ++ [⟨l, w'⟩])) :
    t.OwnedBy number query origin ∧ (l.isOf number = true ∨ w'.entry query = w.entry query) := by
  rw [Trace.ownedBy_snoc, run.last_eq] at h
  exact h

end OwnedBy

section Serves

variable {number : Nat} {x x' : Watch} {heard : Bool} {cache : Cache} {l : Label}
  {before entry : Option Json} {told : List Event} {answers : List (Except ErrorChain Json)}

/-- When the outcome is told, the entry is what was sent last. -/
theorem repeats_of_becomes {outcome : Except ErrorChain Json} {data : Json}
    (hbecomes : Becomes before (some data) outcome) (hlast : x.lastSent = lastTold before outcome) :
    x.repeats data = true := by
  unfold Watch.repeats
  cases outcome with
  | ok fetched =>
      obtain ⟨cached, hcached, heq⟩ := hbecomes
      cases hcached
      rw [hlast, lastTold]
      exact (Json.beq_swap fetched data).trans heq
  | error e =>
      rw [hlast, lastTold, ← show some data = before from hbecomes]
      exact BEq.rfl

/-- A watch that goes on goes on to serve. -/
theorem Advance.serves (h : Advance number x heard cache l x')
    (hpolicy : x.policy = .cacheAndNetwork)
    (hserves : x.Serves before (cache.get? x.query) told answers) (hgoes : x'.phase ≠ .stopped)
    (hsame : l.changes x.query = false → entry = cache.get? x.query)
    (hstored : ∀ data, l = .put (some number) x.query data true → entry = some data) :
    x'.Serves before entry (told ++ (l.sentBy number).toList.filter Event.tells)
      (answers ++ (l.answerTo number).toList) := by
  cases h with
  | ended _ hstopped => exact absurd hstopped hgoes
  | scheduled hphase | turnedToCache hphase | hit hphase | missed hphase | sentCached hphase
  | called hphase | succeeded hphase | failed hphase | notified hphase
  | completed hphase | noticed hphase | passedOver hphase | lost hphase | unchanged hphase =>
      have hentry := hsame rfl
      simp only [Watch.Serves, hphase] at hserves
      simp_all [Watch.Serves, Watch.goTo, Watch.begin, Watch.afterRead, Watch.afterCached,
        Label.sentBy, Label.answerTo, Event.tells, Event.ofEntry]
  | sentMiss hphase | sentChange hphase =>
      simp only [Watch.Serves, hphase] at hserves
  | @stored data hphase =>
      simp only [Watch.Serves, hphase] at hserves
      obtain ⟨rfl, rfl⟩ := hserves
      have hentry := hstored data rfl
      refine ⟨List.append_nil _, List.append_nil _, data, hentry, BEq.rfl⟩
  | @storedEqual data hphase hholds =>
      simp only [Watch.Serves, hphase] at hserves
      obtain ⟨rfl, rfl⟩ := hserves
      have hentry := hsame (by simp [Label.changes])
      refine ⟨List.append_nil _, List.append_nil _, ?_⟩
      rw [hentry]
      exact (cache.holds_eq_true_iff _ _).1 hholds
  | @sentFetched data hphase =>
      have hentry := hsame rfl
      simp only [Watch.Serves, hphase] at hserves
      obtain ⟨rfl, rfl, hbecomes⟩ := hserves
      refine ⟨.ok data, ?_, List.append_nil _, hentry ▸ hbecomes, rfl⟩
      simp [Label.sentBy, Event.tells, Event.ofOutcome]
  | sentFailure hphase =>
      have hentry := hsame rfl
      simp only [Watch.Serves, hphase] at hserves
      obtain ⟨e, rfl, rfl, rfl, hbefore, hlast⟩ := hserves
      refine ⟨.error e, ?_, List.append_nil _, hentry.trans hbefore, hlast⟩
      simp [Label.sentBy, Event.tells, Event.ofOutcome]
  | changed hphase hget hnew =>
      -- what it reads again is what it has told
      simp only [Watch.Serves, hphase] at hserves
      obtain ⟨outcome, -, -, hbecomes, hlast⟩ := hserves
      rw [hget] at hbecomes
      rw [repeats_of_becomes hbecomes hlast] at hnew
      cases hnew

theorem Advance.ne_removed (h : Advance number x heard cache l x') : l ≠ .removed := by
  cases h with
  | ended hlabel => rcases hlabel with rfl | ⟨_, rfl⟩ | rfl <;> simp
  | _ => simp

end Serves

section Service

variable {cache : Cache} {outlets : Outlets} {past t : Trace} {origin w w' : World} {l : Label}
  {number : Nat} {query : Query} {x x' : Watch}

/-- A watch that stays in the feed is received until it ends. -/
theorem World.Follows.isReceived (h : w.Follows query number) (tidy : w.Tidy) (calm : w.Calm)
    (streaming : w.Streaming) (hx : w.hub.watch? number = some x) (hphase : x.phase ≠ .stopped) :
    w.hub.isReceived number = true := by
  obtain ⟨p, f, hp, hf, hactive, -⟩ := Hub.active?_eq_some (h.active?_eq tidy)
  have hopen : p.senderOpen = true := by
    have hpx : p.watch = some x := by simpa [Hub.watch?, hp] using hx
    have hsenders := congrArg (·[number]?) streaming
    simpa [Hub.senders, Hub.watches, Pipe.sender, hp, hpx, Watch.isStopped_eq_false hphase]
      using hsenders
  rw [Hub.isReceived_eq hp]
  exact calm.received hp hf hactive hopen

/-- A watch of the feed goes on unless it is cancelled or superseded, or its request crashes. -/
theorem Step.goes_on (run : Run (.start cache outlets) past w) (step : Step w l w')
    (h : w.Follows query number) (hx : w.hub.watch? number = some x)
    (advance : Advance number x (w.hub.isReceived number) w.hub.cache l x')
    (hcrashed : l.crashes number = false) : x'.phase ≠ .stopped := by
  intro hstopped
  have hphase := advance.not_stopped
  rcases advance.why_stopped hstopped with hgone | ⟨rfl, -⟩ | hclosed
  · rw [h.isReceived run.tidy run.calm run.streaming hx hphase] at hgone
    cases hgone
  · simp [Label.crashes] at hcrashed
  · rw [run.held.isClosed_eq_false hx hphase] at hclosed
    cases hclosed

/-- A watch of the feed serves, as long as it stays in the feed and has the entry for itself. -/
theorem Run.serves (before : Run (.start cache outlets) past origin)
    (born : origin.Opened number query Schedule.feedPolicy) (follows : origin.Follows query number)
    (run : Run origin t w) (ht : ∀ m ∈ t, m.label.supersedes query = false)
    (hcrashed : t.crashed number = false) (howned : t.OwnedBy number query origin) :
    ∃ x, w.hub.watch? number = some x ∧ x.phase ≠ .stopped ∧
      x.Serves (origin.entry query) (w.entry query) (t.told number) (t.answers number) := by
  have hinv := run.life_induction
    (P := fun t w x => Run origin t w ∧ ((∀ m ∈ t, m.label.supersedes query = false) →
      t.crashed number = false → t.OwnedBy number query origin → x.phase ≠ .stopped ∧
        x.Serves (origin.entry query) (w.entry query) (t.told number) (t.answers number))) born
    ⟨.nil, fun _ _ _ => ⟨by simp [Watch.create], rfl, rfl, rfl, rfl⟩⟩ ?_ ?_
  · obtain ⟨x, hx, -, -, hserves⟩ := hinv
    exact ⟨x, hx, hserves ht hcrashed howned⟩
  · rintro t w l w' x life ⟨run, hserves⟩ step hx hl
    refine ⟨.snoc run step, fun ht hcrashed howned => ?_⟩
    rw [Trace.crashed_snoc, Bool.or_eq_false_iff] at hcrashed
    obtain ⟨hpast, hentry⟩ := run.ownedBy_of_snoc howned
    obtain ⟨hgoes, hserves⟩ :=
      hserves (fun m hm => ht m (List.mem_append_left _ hm)) hcrashed.1 hpast
    have hsame : w'.entry query = w.entry query := hentry.resolve_left (by simp [hl])
    refine ⟨hgoes, ?_⟩
    rw [Trace.told, t.sent_of_isOf w' hl, t.answers_of_isOf w' hl, hsame]
    exact hserves
  · rintro t w l w' x x' life ⟨run, hserves⟩ step hx advance
    refine ⟨.snoc run step, fun ht hcrashed howned => ?_⟩
    rw [Trace.crashed_snoc, Bool.or_eq_false_iff] at hcrashed
    obtain ⟨hpast, -⟩ := run.ownedBy_of_snoc howned
    have hkept : ∀ m ∈ t, m.label.supersedes query = false :=
      fun m hm => ht m (List.mem_append_left _ hm)
    obtain ⟨-, hserves⟩ := hserves hkept hcrashed.1 hpast
    have hgoes := step.goes_on (before.append run) (run.follows hkept follows) hx advance hcrashed.2
    refine ⟨hgoes, ?_⟩
    rw [Trace.told, Trace.sent_snoc, List.filter_append, Trace.answers_snoc]
    have hquery := life.query_eq
    subst hquery
    apply advance.serves life.policy_eq hserves hgoes
    · exact step.entry_eq x.query advance.ne_removed
    · rintro data rfl
      exact step.entry_of_put

end Service
end RepoWatch
