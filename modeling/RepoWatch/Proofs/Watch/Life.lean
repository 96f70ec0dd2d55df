import RepoWatch.Proofs.Watch.Events
import RepoWatch.Proofs.Watch.Script
import RepoWatch.Proofs.World.Views
/-!
# The life of a watch

What is known of a watch at any time after it was opened: where it stands in its script and in the
log of changes, and what it has sent last. A property of a watch is shown by what is so when the
watch is opened, and by what its own steps and those of all others keep.
-/

namespace RepoWatch

/-- A watch with a number has just been opened. -/
def World.Opened (w : World) (number : Nat) (query : Query) (policy : Policy) : Prop :=
  w.hub.watch? number = some (.create w.hub.cache query policy)

section Induction

variable {origin w : World} {t : Trace} {number : Nat} {x₀ : Watch}

/-- The induction along a run, seen from one watch. -/
theorem Run.watch_induction {P : Trace → World → Watch → Prop} (run : Run origin t w)
    (born : origin.hub.watch? number = some x₀) (start : P [] origin x₀)
    (others : ∀ {t w l w' x}, P t w x → Step w l w' → w.hub.watch? number = some x →
      l.isOf number = false → P (t ++ [⟨l, w'⟩]) w' x)
    (own : ∀ {t w l w' x x'}, P t w x → Step w l w' → w.hub.watch? number = some x →
      Advance number x (w.hub.isReceived number) w.hub.cache l x' → P (t ++ [⟨l, w'⟩]) w' x') :
    ∃ x, w.hub.watch? number = some x ∧ P t w x := by
  induction run with
  | nil => exact ⟨x₀, born, start⟩
  | snoc run step ih =>
      obtain ⟨x, hx, hkept⟩ := ih
      rcases step.watch_cases hx with ⟨hx', hl⟩ | ⟨x', hx', advance⟩
      · exact ⟨x, hx', others hkept step hx hl⟩
      · exact ⟨x', hx', own hkept step hx advance⟩

/-- The induction along a run, when it only matters that a watch is there, not who makes a step. -/
theorem Run.induction_while {P : Trace → World → Prop} (run : Run origin t w)
    (born : origin.hub.watch? number = some x₀) (start : P [] origin)
    (next : ∀ {t w l w' x}, P t w → Step w l w' → w.hub.watch? number = some x →
      P (t ++ [⟨l, w'⟩]) w') : P t w := by
  have hinv := run.watch_induction (P := fun t w _ => P t w) born start
    (fun hkept step hx _ => next hkept step hx) (fun hkept step hx _ => next hkept step hx)
  obtain ⟨_, -, hkept⟩ := hinv
  exact hkept

end Induction

section Advance

variable {number : Nat} {x x' : Watch} {heard : Bool} {cache : Cache} {l : Label}
  {es : List Event}

/-- Whether a watch has resolved its query and follows changes. -/
def Watch.isResolved (x : Watch) : Bool :=
  match x.phase with
  | .listening | .rereading | .sendingChange _ => true
  | _ => false

theorem Lookup.not_completed {policy : Policy} (h : Lookup policy es) :
    es.any Event.isCompletion = false := by
  cases h <;> rfl

theorem Resolution.not_completed {query : Query} {policy : Policy}
    (h : Resolution query policy es) : es.any Event.isCompletion = false := by
  cases h with
  | network hbefore hpart =>
      rw [List.any_append, hbefore.not_completed]
      cases hpart <;> rfl
  | cacheOnlyHit | cacheOnlyMiss | cacheFirstHit => rfl

/-- The phase of a watch that goes on tells whether it has sent that the query is resolved. -/
theorem Watch.HasSent.any_isCompletion (h : x.HasSent es) (hphase : x.phase ≠ .stopped) :
    es.any Event.isCompletion = x.isResolved := by
  unfold Watch.HasSent at h
  unfold Watch.isResolved
  cases hx : x.phase <;> simp only [hx] at h ⊢
  case created => rw [h]; rfl
  case announcingRead | reading | sendingCached | sendingMiss => rw [h.2]; rfl
  case announcingFetch =>
      obtain ⟨before, hbefore, rfl⟩ := h
      exact hbefore.not_completed
  case fetching | storing | notifying | sendingFetched | sendingFailure =>
      obtain ⟨before, hbefore, rfl⟩ := h
      rw [List.any_cons, List.any_append, hbefore.not_completed]
      rfl
  case completing =>
      obtain ⟨resolution, hr, rfl⟩ := h
      exact hr.not_completed
  case listening | rereading | sendingChange =>
      obtain ⟨resolution, changes, -, -, rfl⟩ := h
      simp [Event.isCompletion]
  case stopped => exact absurd hx hphase

/-- A query that was asked of the network only, without a response, has failed. -/
theorem Watch.HasSent.failed {es : List Event} (h : x.HasSent es) (hphase : x.phase = .listening)
    (hpolicy : x.policy = .networkOnly) (hnone : es.any Event.isResponse = false) :
    es.any Event.isFailure = true := by
  unfold Watch.HasSent at h
  simp only [hphase, hpolicy] at h
  obtain ⟨resolution, changes, hr, -, rfl⟩ := h
  cases hr with
  | network hbefore hpart =>
      cases hbefore
      cases hpart with
      | response data => simp [Event.isResponse, Event.data?] at hnone
      | failure fault => simp [Event.isFailure]

theorem Advance.query_eq (h : Advance number x heard cache l x') : x'.query = x.query := by
  cases h with
  | ended _ _ _ hrest => exact hrest.1
  | _ => rfl

theorem Advance.policy_eq (h : Advance number x heard cache l x') : x'.policy = x.policy := by
  cases h with
  | ended _ _ _ hrest => exact hrest.2.1
  | _ => rfl

theorem Advance.position_le (h : Advance number x heard cache l x') :
    x.position ≤ x'.position := by
  cases h with
  | noticed | passedOver => exact Nat.le_succ _
  | lost _ hlag => exact Nat.le_of_lt hlag
  | ended _ _ _ hrest => exact Nat.le_of_eq hrest.2.2.symm
  | _ => exact Nat.le_refl _

theorem Advance.position_le_sent (h : Advance number x heard cache l x')
    (hle : x.position ≤ cache.changes.sent) : x'.position ≤ cache.changes.sent := by
  cases h with
  | noticed _ hnext | passedOver _ _ hnext =>
      have := Multicast.receive_position_le hle
      rwa [hnext] at this
  | lost => exact cache.changes.oldest_le_sent
  | ended _ _ _ hrest => exact hrest.2.2 ▸ hle
  | _ => exact hle

/-- A watch remembers the data that it sent last. -/
theorem Advance.lastData_eq (h : Advance number x heard cache l x')
    (hlast : lastData es = x.lastSent) (hphase : x'.phase ≠ .stopped) :
    lastData (es ++ (l.sentBy number).toList) = x'.lastSent := by
  cases h with
  | ended _ hstopped => exact absurd hstopped hphase
  | _ => simp [Label.sentBy, Watch.goTo, hlast]

/-- A watch never goes on from its end. -/
theorem Advance.not_stopped (h : Advance number x heard cache l x') : x.phase ≠ .stopped := by
  cases h with
  | ended _ _ hlooks =>
      intro hphase
      simp [Watch.looksUp, hphase] at hlooks
  | scheduled hphase | turnedToCache hphase | hit hphase | missed hphase | sentCached hphase
  | sentMiss hphase | called hphase | succeeded hphase | failed hphase
  | stored hphase | storedEqual hphase | notified hphase | sentFetched hphase
  | sentFailure hphase | completed hphase | noticed hphase | passedOver hphase | lost hphase
  | unchanged hphase | changed hphase | sentChange hphase =>
      rw [hphase]
      simp

theorem Advance.why_stopped (h : Advance number x heard cache l x')
    (hphase : x'.phase = .stopped) :
    heard = false ∨ (l = .crashed number ∧ x.phase = .fetching) ∨ cache.isClosed = true := by
  cases h with
  | ended _ _ _ _ hwhy => exact hwhy
  | scheduled => cases hpolicy : x.policy <;> simp [Watch.goTo, Watch.begin, hpolicy] at hphase
  | missed =>
      cases hpolicy : x.policy <;> simp [Watch.goTo, Watch.afterRead, hpolicy] at hphase
  | sentCached => cases hpolicy : x.policy <;> simp [Watch.afterCached, hpolicy] at hphase
  | _ => simp [Watch.goTo] at hphase

/-- A watch is about to send a change when it has just read data that it did not send last. -/
theorem Advance.of_sendingChange (h : Advance number x heard cache l x') {data : Json}
    (hphase : x'.phase = .sendingChange data) :
    x.phase = .rereading ∧ cache.get? x.query = some data ∧ x.repeats data = false ∧
      x'.lastSent = x.lastSent := by
  cases h with
  | @changed data' hx hget hnew =>
      obtain rfl : data' = data := by simpa [Watch.goTo] using hphase
      exact ⟨hx, hget, hnew, rfl⟩
  | scheduled => cases hpolicy : x.policy <;> simp [Watch.goTo, Watch.begin, hpolicy] at hphase
  | missed =>
      cases hpolicy : x.policy <;> simp [Watch.goTo, Watch.afterRead, hpolicy] at hphase
  | sentCached => cases hpolicy : x.policy <;> simp [Watch.afterCached, hpolicy] at hphase
  | ended _ hstopped =>
      rw [hstopped] at hphase
      cases hphase
  | _ => simp [Watch.goTo] at hphase

end Advance

section Log

variable {w w' : World} {l : Label} {query : Query}

theorem Step.announcements_eq (step : Step w l w') :
    w'.log.sent = w.log.sent + (if l.isAnnouncement then 1 else 0) ∧
      w'.log.capacity = w.log.capacity := by
  rcases step.log_cases with ⟨q, rfl, hlog⟩ | ⟨hl, hlog⟩
  · rw [hlog]
    exact ⟨rfl, rfl⟩
  · rw [hlog, hl]
    exact ⟨rfl, rfl⟩

theorem Step.sent_le (step : Step w l w') : w.log.sent ≤ w'.log.sent := by
  rw [step.announcements_eq.1]
  exact Nat.le_add_right _ _

/-- What comes before a reader is announced by this step or came before it already. -/
theorem Step.mem_ahead (step : Step w l w') {position : Nat} (hle : position ≤ w.log.sent)
    (hmem : query ∈ w'.log.ahead position) :
    query ∈ w.log.ahead position ∨ l.announces query = true := by
  rcases step.log_cases with ⟨q, rfl, hlog⟩ | ⟨-, hlog⟩
  · rw [hlog] at hmem
    rcases Multicast.mem_ahead_send hle hmem with hold | rfl
    · exact .inl hold
    · exact .inr (by simp [Label.announces])
  · exact .inl (hlog ▸ hmem)

end Log

/-- What is known of a watch that was opened in a world, at any later time. -/
structure Watch.Life (origin : World) (number : Nat) (query : Query) (policy : Policy)
    (t : Trace) (w : World) (x : Watch) : Prop where
  query_eq : x.query = query
  policy_eq : x.policy = policy
  sent : x.HasSent (t.sent number)
  last : x.phase ≠ .stopped → lastData (t.sent number) = x.lastSent
  fresh : ∀ data, x.phase = .sendingChange data → x.repeats data = false
  start_le : origin.log.sent ≤ x.position
  position_le : x.position ≤ w.log.sent
  announced : query ∈ w.log.ahead x.position → 0 < t.announced query
  sent_eq : w.log.sent = origin.log.sent + t.announcements
  capacity_eq : w.log.capacity = origin.log.capacity

section Life

variable {origin w w' : World} {t : Trace} {number : Nat} {query : Query} {policy : Policy}
  {x x' : Watch} {l : Label}

theorem Label.sentBy_of_isOf (h : l.isOf number = false) : l.sentBy number = none := by
  cases l <;> simp_all [Label.isOf, Label.sentBy]

theorem Label.calls_of_isOf (h : l.isOf number = false) : l.calls number = false := by
  cases l <;> simp_all [Label.isOf, Label.calls]

theorem Trace.sent_of_isOf (t : Trace) (w : World) (h : l.isOf number = false) :
    Trace.sent (t ++ [⟨l, w⟩]) number = t.sent number := by
  rw [Trace.sent_snoc, Label.sentBy_of_isOf h, Option.toList_none, List.append_nil]

theorem Trace.calls_of_isOf (t : Trace) (w : World) (h : l.isOf number = false) :
    Trace.calls (t ++ [⟨l, w⟩]) number = t.calls number := by
  rw [Trace.calls_snoc, Label.calls_of_isOf h]
  rfl

private theorem sent_eq_snoc (step : Step w l w')
    (h : w.log.sent = origin.log.sent + t.announcements) :
    w'.log.sent = origin.log.sent + Trace.announcements (t ++ [⟨l, w'⟩]) := by
  rw [Trace.announcements_snoc, step.announcements_eq.1, h, Nat.add_assoc]

/-- A reader that keeps its position, or moves on, hears only of what is announced. -/
private theorem announced_snoc_pos (step : Step w l w') (hle : x'.position ≤ w.log.sent)
    (hmove : x.position ≤ x'.position)
    (h : query ∈ w.log.ahead x.position → 0 < t.announced query)
    (hmem : query ∈ w'.log.ahead x'.position) :
    0 < Trace.announced (t ++ [⟨l, w'⟩]) query := by
  rw [Trace.announced_snoc]
  rcases step.mem_ahead hle hmem with hold | hnew
  · have := h (Multicast.ahead_mono hmove hold)
    omega
  · rw [if_pos hnew]
    omega

theorem Watch.Life.born (origin : World) (number : Nat) (query : Query) (policy : Policy) :
    Life origin number query policy [] origin (.create origin.hub.cache query policy) where
  query_eq := rfl
  policy_eq := rfl
  sent := rfl
  last _ := rfl
  fresh _ h := by cases h
  start_le := Nat.le_refl _
  position_le := Nat.le_refl _
  announced h := by simp [Watch.create, World.log, Cache.follow] at h
  sent_eq := rfl
  capacity_eq := rfl

theorem Watch.Life.others (h : x.Life origin number query policy t w) (step : Step w l w')
    (hl : l.isOf number = false) :
    x.Life origin number query policy (t ++ [⟨l, w'⟩]) w' := by
  have hsent := t.sent_of_isOf w' hl
  exact
    { query_eq := h.query_eq
      policy_eq := h.policy_eq
      sent := hsent ▸ h.sent
      last := hsent ▸ h.last
      fresh := h.fresh
      start_le := h.start_le
      position_le := Nat.le_trans h.position_le step.sent_le
      announced := announced_snoc_pos step h.position_le (Nat.le_refl _) h.announced
      sent_eq := sent_eq_snoc step h.sent_eq
      capacity_eq := step.announcements_eq.2.trans h.capacity_eq }

theorem Watch.Life.own (h : x.Life origin number query policy t w) (step : Step w l w')
    (advance : Advance number x (w.hub.isReceived number) w.hub.cache l x') :
    x'.Life origin number query policy (t ++ [⟨l, w'⟩]) w' where
  query_eq := advance.query_eq.trans h.query_eq
  policy_eq := advance.policy_eq.trans h.policy_eq
  sent := by
    rw [Trace.sent_snoc]
    exact advance.hasSent h.sent
  last hphase := by
    rw [Trace.sent_snoc]
    exact advance.lastData_eq (h.last advance.not_stopped) hphase
  fresh _ hphase := by
    obtain ⟨-, -, hnew, hlast⟩ := advance.of_sendingChange hphase
    unfold Watch.repeats at hnew ⊢
    rwa [hlast]
  start_le := Nat.le_trans h.start_le advance.position_le
  position_le := Nat.le_trans (advance.position_le_sent h.position_le) step.sent_le
  announced := announced_snoc_pos step (advance.position_le_sent h.position_le)
    advance.position_le h.announced
  sent_eq := sent_eq_snoc step h.sent_eq
  capacity_eq := step.announcements_eq.2.trans h.capacity_eq

/-- The induction along the life of a watch. -/
theorem Run.life_induction {P : Trace → World → Watch → Prop} (run : Run origin t w)
    (born : origin.Opened number query policy)
    (start : P [] origin (.create origin.hub.cache query policy))
    (others : ∀ {t w l w' x}, x.Life origin number query policy t w → P t w x → Step w l w' →
      w.hub.watch? number = some x → l.isOf number = false → P (t ++ [⟨l, w'⟩]) w' x)
    (own : ∀ {t w l w' x x'}, x.Life origin number query policy t w → P t w x → Step w l w' →
      w.hub.watch? number = some x →
      Advance number x (w.hub.isReceived number) w.hub.cache l x' → P (t ++ [⟨l, w'⟩]) w' x') :
    ∃ x, w.hub.watch? number = some x ∧ x.Life origin number query policy t w ∧ P t w x := by
  refine run.watch_induction (P := fun t w x => x.Life origin number query policy t w ∧ P t w x)
    born ⟨.born origin number query policy, start⟩ ?_ ?_
  · intro t w l w' x h step hx hl
    exact ⟨h.1.others step hl, others h.1 h.2 step hx hl⟩
  · intro t w l w' x x' h step hx advance
    exact ⟨h.1.own step advance, own h.1 h.2 step hx advance⟩

theorem Run.life (run : Run origin t w) (born : origin.Opened number query policy) :
    ∃ x, w.hub.watch? number = some x ∧ x.Life origin number query policy t w := by
  obtain ⟨x, hx, life, -⟩ := run.life_induction (P := fun _ _ _ => True) born trivial
    (fun _ _ _ _ _ => trivial) (fun _ _ _ _ _ => trivial)
  exact ⟨x, hx, life⟩

end Life
end RepoWatch
