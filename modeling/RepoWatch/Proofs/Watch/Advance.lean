import RepoWatch.Proofs.Channel.Multicast
import RepoWatch.Proofs.World.Moves
/-!
# The life of a watch, step by step

One case for each thing that a watch can do, with the phase in which it does it, what is seen of it
and the phase that follows. Every move of a watch is one of these.
-/

namespace RepoWatch

/-- Whether a watch finds out in its phase that nobody receives what it sends. -/
def Watch.looksUp (x : Watch) : Bool :=
  match x.phase with
  | .storing _ | .notifying _ | .rereading | .stopped => false
  | _ => true

/-- Everything that a watch can do. -/
inductive Advance (number : Nat) (x : Watch) (heard : Bool) (cache : Cache) :
    Label → Watch → Prop where
  | scheduled (hphase : x.phase = .created) (hheard : heard = true) :
      Advance number x heard cache (.sent number (.progress .scheduled))
        (x.goTo (Watch.begin x.policy))
  | turnedToCache (hphase : x.phase = .announcingRead) (hheard : heard = true) :
      Advance number x heard cache (.sent number (.progress .fetchCache)) (x.goTo .reading)
  | hit {data : Json} (hphase : x.phase = .reading) (hget : cache.get? x.query = some data) :
      Advance number x heard cache .silent (x.goTo (.sendingCached data))
  | missed (hphase : x.phase = .reading) (hget : cache.get? x.query = none) :
      Advance number x heard cache .silent (x.goTo (Watch.afterRead x.policy none))
  | sentCached {data : Json} (hphase : x.phase = .sendingCached data) (hheard : heard = true) :
      Advance number x heard cache (.sent number (.response data true))
        { x with lastSent := some data, phase := Watch.afterCached x.policy }
  | sentMiss (hphase : x.phase = .sendingMiss) (hheard : heard = true) :
      Advance number x heard cache (.sent number (.failure (.cacheMiss x.query.text)))
        (x.goTo .completing)
  | called (hphase : x.phase = .announcingFetch) (hheard : heard = true) :
      Advance number x heard cache (.called number) (x.goTo .fetching)
  | succeeded {data : Json} (hphase : x.phase = .fetching) (hheard : heard = true) :
      Advance number x heard cache (.answered number (.ok data)) (x.goTo (.storing data))
  | failed {e : ErrorChain} (hphase : x.phase = .fetching) (hheard : heard = true) :
      Advance number x heard cache (.answered number (.error e))
        (x.goTo (.sendingFailure e.toFault))
  | stored {data : Json} (hphase : x.phase = .storing data)
      (hholds : cache.holds x.query data = false) :
      Advance number x heard cache (.put (some number) x.query data true)
        (x.goTo (.notifying data))
  | storedEqual {data : Json} (hphase : x.phase = .storing data)
      (hholds : cache.holds x.query data = true) :
      Advance number x heard cache (.put (some number) x.query data false)
        (x.goTo (.sendingFetched data))
  | notified {data : Json} (hphase : x.phase = .notifying data) :
      Advance number x heard cache (.announced x.query) (x.goTo (.sendingFetched data))
  | sentFetched {data : Json} (hphase : x.phase = .sendingFetched data) (hheard : heard = true) :
      Advance number x heard cache (.sent number (.response data false))
        { x with lastSent := some data, phase := .completing }
  | sentFailure {fault : QueryFault} (hphase : x.phase = .sendingFailure fault)
      (hheard : heard = true) :
      Advance number x heard cache (.sent number (.failure fault)) (x.goTo .completing)
  | completed (hphase : x.phase = .completing) (hheard : heard = true) :
      Advance number x heard cache (.sent number (.progress .completed)) (x.goTo .listening)
  | noticed (hphase : x.phase = .listening)
      (hnext : cache.changes.receive x.position = (.value x.query, x.position + 1)) :
      Advance number x heard cache .silent
        { x with position := x.position + 1, phase := .rereading }
  | passedOver {q : Query} (hphase : x.phase = .listening) (hne : q ≠ x.query)
      (hnext : cache.changes.receive x.position = (.value q, x.position + 1)) :
      Advance number x heard cache .silent
        { x with position := x.position + 1, phase := .listening }
  | lost (hphase : x.phase = .listening) (hlag : x.position < cache.changes.oldest) :
      Advance number x heard cache .silent
        { x with position := cache.changes.oldest, phase := .rereading }
  | unchanged (hphase : x.phase = .rereading)
      (hget : ∀ data, cache.get? x.query = some data → x.repeats data = true) :
      Advance number x heard cache .silent (x.goTo .listening)
  | changed {data : Json} (hphase : x.phase = .rereading)
      (hget : cache.get? x.query = some data) (hnew : x.repeats data = false) :
      Advance number x heard cache .silent (x.goTo (.sendingChange data))
  | sentChange {data : Json} (hphase : x.phase = .sendingChange data) (hheard : heard = true) :
      Advance number x heard cache (.sent number (.response data true))
        { x with lastSent := some data, phase := .listening }
  | ended {l : Label} {x' : Watch}
      (hlabel : l = .silent ∨ (∃ outcome, l = .answered number outcome) ∨ l = .crashed number)
      (hphase : x'.phase = .stopped) (hlooks : x.looksUp = true)
      (hrest : x'.query = x.query ∧ x'.policy = x.policy ∧ x'.position = x.position)
      (hwhy : heard = false ∨ (l = .crashed number ∧ x.phase = .fetching) ∨
        cache.isClosed = true) :
      Advance number x heard cache l x'

theorem Watch.isFetching_iff {x : Watch} : x.isFetching = true ↔ x.phase = .fetching := by
  unfold Watch.isFetching
  split <;> simp_all

theorem Watch.isListening_iff {x : Watch} : x.isListening = true ↔ x.phase = .listening := by
  unfold Watch.isListening
  split <;> simp_all

theorem Watch.isStopped_iff {x : Watch} : x.isStopped = true ↔ x.phase = .stopped := by
  unfold Watch.isStopped
  split <;> simp_all

variable {number : Nat} {x x' : Watch} {heard : Bool} {cache : Cache} {effect : Effect}

/-- A watch that sends goes on if it is heard, and ends otherwise. -/
private theorem Advance.of_emit {event : Event} {next : Phase} {y : Watch}
    (h : (x', effect) = y.emit heard event next) (hlooks : x.looksUp = true)
    (hrest : y.query = x.query ∧ y.policy = x.policy ∧ y.position = x.position)
    (hsent : heard = true → Advance number x heard cache (.sent number event) (y.goTo next)) :
    Advance number x heard cache (effect.label number x.query cache) x' := by
  unfold Watch.emit at h
  split at h <;> rename_i hheard <;> cases h
  · exact hsent hheard
  · exact .ended (.inl rfl) rfl hlooks hrest (.inl (by simpa using hheard))

/-- A watch that follows changes finds one of its query, one of another, a loss, or the end. -/
private theorem Advance.of_listening (hphase : x.phase = .listening)
    (h : x.step true cache = some (x', effect)) :
    effect = .none ∧ Advance number x heard cache .silent x' := by
  simp only [Watch.step, hphase, if_true, Option.map_eq_some_iff, Prod.mk.injEq] at h
  obtain ⟨y, hy, rfl, rfl⟩ := h
  refine ⟨rfl, ?_⟩
  unfold Cache.nextChange Watch.afterChange at hy
  obtain ⟨hlag, hr⟩ | ⟨q, hle, hr, -, -⟩ | ⟨hle, hr, -⟩ :=
      cache.changes.receive_cases x.position <;>
    simp only [hr, Delivery.arrival] at hy
  · cases hy
    exact .lost hphase hlag
  · cases hy
    by_cases hq : q = x.query
    · subst hq
      rw [if_pos rfl]
      exact .noticed hphase hr
    · rw [if_neg hq]
      exact .passedOver hphase hq hr
  · by_cases hclosed : cache.isClosed = true
    · rw [if_pos hclosed] at hy
      cases hy
      exact .ended (.inl rfl) rfl (by simp [Watch.looksUp, hphase]) ⟨rfl, rfl, rfl⟩
        (.inr (.inr hclosed))
    · rw [if_neg hclosed] at hy
      cases hy

private theorem Advance.of_step (h : x.step heard cache = some (x', effect)) :
    Advance number x heard cache (effect.label number x.query cache) x' := by
  cases hphase : x.phase with
  | created =>
      simp only [Watch.step, hphase, Option.some.injEq] at h
      exact .of_emit h.symm (by simp [Watch.looksUp, hphase]) ⟨rfl, rfl, rfl⟩
        (.scheduled hphase)
  | announcingRead =>
      simp only [Watch.step, hphase, Option.some.injEq] at h
      exact .of_emit h.symm (by simp [Watch.looksUp, hphase]) ⟨rfl, rfl, rfl⟩
        (.turnedToCache hphase)
  | reading =>
      simp only [Watch.step, hphase, Option.some.injEq, Prod.mk.injEq] at h
      obtain ⟨rfl, rfl⟩ := h
      cases heard with
      | false =>
          exact .ended (.inl rfl) rfl (by simp [Watch.looksUp, hphase]) ⟨rfl, rfl, rfl⟩
            (.inl rfl)
      | true =>
          cases hget : cache.get? x.query with
          | none => exact .missed hphase hget
          | some data => exact .hit hphase hget
  | sendingCached data =>
      simp only [Watch.step, hphase, Option.some.injEq] at h
      exact .of_emit h.symm (by simp [Watch.looksUp, hphase]) ⟨rfl, rfl, rfl⟩
        (.sentCached hphase)
  | sendingMiss =>
      simp only [Watch.step, hphase, Option.some.injEq] at h
      exact .of_emit h.symm (by simp [Watch.looksUp, hphase]) ⟨rfl, rfl, rfl⟩
        (.sentMiss hphase)
  | announcingFetch =>
      simp only [Watch.step, hphase, Option.some.injEq] at h
      split at h <;> rename_i hheard <;> cases h
      · exact .called hphase hheard
      · exact .ended (.inl rfl) rfl (by simp [Watch.looksUp, hphase]) ⟨rfl, rfl, rfl⟩
          (.inl (by simpa using hheard))
  | fetching =>
      simp only [Watch.step, hphase] at h
      split at h <;> rename_i hheard <;> cases h
      exact .ended (.inl rfl) rfl (by simp [Watch.looksUp, hphase]) ⟨rfl, rfl, rfl⟩
        (.inl (by simpa using hheard))
  | storing data =>
      simp only [Watch.step, hphase, Option.some.injEq, Prod.mk.injEq] at h
      obtain ⟨rfl, rfl⟩ := h
      cases hholds : cache.holds x.query data with
      | true => simpa [Effect.label, hholds] using Advance.storedEqual hphase hholds
      | false => simpa [Effect.label, hholds] using Advance.stored hphase hholds
  | notifying data =>
      simp only [Watch.step, hphase, Option.some.injEq, Prod.mk.injEq] at h
      obtain ⟨rfl, rfl⟩ := h
      exact .notified hphase
  | sendingFetched data =>
      simp only [Watch.step, hphase, Option.some.injEq] at h
      exact .of_emit h.symm (by simp [Watch.looksUp, hphase]) ⟨rfl, rfl, rfl⟩
        (.sentFetched hphase)
  | sendingFailure fault =>
      simp only [Watch.step, hphase, Option.some.injEq] at h
      exact .of_emit h.symm (by simp [Watch.looksUp, hphase]) ⟨rfl, rfl, rfl⟩
        (.sentFailure hphase)
  | completing =>
      simp only [Watch.step, hphase, Option.some.injEq] at h
      exact .of_emit h.symm (by simp [Watch.looksUp, hphase]) ⟨rfl, rfl, rfl⟩
        (.completed hphase)
  | listening =>
      cases heard with
      | true =>
          obtain ⟨rfl, hadvance⟩ := Advance.of_listening hphase h
          exact hadvance
      | false =>
          simp only [Watch.step, hphase, Bool.false_eq_true, if_false, Option.some.injEq,
            Prod.mk.injEq] at h
          obtain ⟨rfl, rfl⟩ := h
          exact .ended (.inl rfl) rfl (by simp [Watch.looksUp, hphase]) ⟨rfl, rfl, rfl⟩
            (.inl rfl)
  | rereading =>
      simp only [Watch.step, hphase, Option.some.injEq, Prod.mk.injEq] at h
      obtain ⟨rfl, rfl⟩ := h
      unfold Watch.afterReread
      cases hget : cache.get? x.query with
      | none => exact .unchanged hphase (by simp [hget])
      | some data =>
          dsimp only
          by_cases hrepeats : x.repeats data = true
          · rw [if_pos hrepeats]
            exact .unchanged hphase (by simp [hget, hrepeats])
          · rw [if_neg hrepeats]
            exact .changed hphase hget (by simpa using hrepeats)
  | sendingChange data =>
      simp only [Watch.step, hphase, Option.some.injEq] at h
      exact .of_emit h.symm (by simp [Watch.looksUp, hphase]) ⟨rfl, rfl, rfl⟩
        (.sentChange hphase)
  | stopped =>
      simp only [Watch.step, hphase] at h
      cases h

/-- Every move of a watch is one of the things that a watch can do. -/
theorem Moves.advance {l : Label} (h : Moves number x heard cache l effect x') :
    Advance number x heard cache l x' := by
  cases h with
  | step h => exact .of_step h
  | overhear hlistening _ h => exact (Advance.of_listening (Watch.isListening_iff.1 hlistening) h).2
  | answer outcome hfetching =>
      have hphase := Watch.isFetching_iff.1 hfetching
      simp only [Watch.answer, hfetching, Bool.not_true, Bool.false_eq_true, if_false]
      cases heard with
      | false =>
          exact .ended (.inr (.inl ⟨outcome, rfl⟩)) rfl (by simp [Watch.looksUp, hphase])
            ⟨rfl, rfl, rfl⟩ (.inl rfl)
      | true =>
          cases outcome with
          | ok data => exact .succeeded hphase rfl
          | error e => exact .failed hphase rfl
  | crash hfetching =>
      have hphase := Watch.isFetching_iff.1 hfetching
      exact .ended (.inr (.inr rfl)) rfl (by simp [Watch.looksUp, hphase]) ⟨rfl, rfl, rfl⟩
        (.inr (.inl ⟨rfl, hphase⟩))

/-- A watch sends only when it is heard. -/
theorem Advance.heard_of_sentBy {l : Label} {event : Event}
    (h : Advance number x heard cache l x') (hl : l.sentBy number = some event) :
    heard = true := by
  cases h with
  | ended hlabel => rcases hlabel with rfl | ⟨_, rfl⟩ | rfl <;> cases hl
  | hit | missed | succeeded | failed | stored | storedEqual | notified | noticed | passedOver
  | lost | unchanged | changed => cases hl
  | _ => assumption

end RepoWatch
