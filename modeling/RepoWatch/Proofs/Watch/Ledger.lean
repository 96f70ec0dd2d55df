import RepoWatch.Proofs.World.Holders
/-!
# What a watch asks for, is given and stores

A watch asks the network at most once, and a request has at most one outcome. Data that arrives
while the watch is received is stored by it, once and under its own query; nothing else is. So an
entry changes only when somebody removes it, when somebody else stores, or when a watch stores what
its request has brought.
-/

namespace RepoWatch

namespace Label

/-- What a watch stores, with the query under which it does. -/
def storedBy (number : Nat) : Label → Option (Query × Json)
  | .put (some n) query data _ => if n = number then some (query, data) else none
  | _ => none

/-- The outcome of the request of a watch, when it arrives. -/
def answerTo (number : Nat) : Label → Option (Except ErrorChain Json)
  | .answered n outcome => if n = number then some outcome else none
  | _ => none

/-- The data that the request of a watch brings, if the watch is received. -/
def brings (number : Nat) (heard : Bool) (l : Label) : Option Json :=
  match l.answerTo number with
  | some (.ok data) => if heard then some data else none
  | _ => none

end Label

/-- The data that the request of a watch brings while the watch is received. -/
def Moment.brings (number : Nat) (m : Moment) : Option Json :=
  m.label.brings number (m.world.hub.isReceived number)

namespace Trace

/-- What a watch has stored, in order. -/
def stored (t : Trace) (number : Nat) : List (Query × Json) :=
  t.filterMap fun m => m.label.storedBy number

/-- The outcomes of the requests of a watch. -/
def answers (t : Trace) (number : Nat) : List (Except ErrorChain Json) :=
  t.filterMap fun m => m.label.answerTo number

/-- The data that came to a watch while it was received. -/
def brought (t : Trace) (number : Nat) : List Json := t.filterMap (Moment.brings number)

variable (t : Trace) (number : Nat) (l : Label) (w : World)

@[simp] theorem stored_snoc :
    stored (t ++ [⟨l, w⟩]) number = t.stored number ++ (l.storedBy number).toList := by
  cases h : l.storedBy number <;> simp [stored, h]

@[simp] theorem answers_snoc :
    answers (t ++ [⟨l, w⟩]) number = t.answers number ++ (l.answerTo number).toList := by
  cases h : l.answerTo number <;> simp [answers, h]

@[simp] theorem brought_snoc :
    brought (t ++ [⟨l, w⟩]) number =
      t.brought number ++ (l.brings number (w.hub.isReceived number)).toList := by
  cases h : l.brings number (w.hub.isReceived number) <;> simp [brought, Moment.brings, h]

end Trace

namespace Watch

/-- The data that a watch is about to store. -/
def toStore (x : Watch) : Option Json :=
  match x.phase with
  | .storing data => some data
  | _ => none

/-- Whether a watch has just found data in the cache, when it turned to it first. -/
def hasHit (x : Watch) : Bool :=
  match x.phase with
  | .sendingCached _ => true
  | _ => false

/-- Whether a watch has not gone on to the network, nor resolved its query. -/
def isAtCache (x : Watch) : Bool :=
  match x.phase with
  | .created | .announcingRead | .reading | .sendingCached _ => true
  | _ => false

/-- Whether a watch may still ask the network. -/
def mayCall (x : Watch) : Bool :=
  match x.phase with
  | .created | .announcingRead | .reading => x.policy != .cacheOnly
  | .sendingCached _ => x.policy == .cacheAndNetwork
  | .announcingFetch => true
  | _ => false

/-- What a watch is about to store it stores next, received or not. -/
theorem step_of_toStore {x : Watch} {data : Json} (h : x.toStore = some data) (heard : Bool)
    (cache : Cache) : ∃ x', x.step heard cache = some (x', .insert data) := by
  unfold toStore at h
  split at h
  · rename_i hphase
    cases h
    rw [step, hphase]
    exact ⟨_, rfl⟩
  · cases h

theorem isAtCache_of_hasHit {x : Watch} (h : x.hasHit = true) : x.isAtCache = true := by
  unfold hasHit at h
  unfold isAtCache
  split at h
  · rename_i hphase
    rw [hphase]
  · cases h

/-- A watch that found data in the cache does not ask the network, if its policy is satisfied. -/
theorem mayCall_of_hasHit {x : Watch} (h : x.hasHit = true) (hpolicy : x.policy = .cacheFirst) :
    x.mayCall = false := by
  unfold hasHit at h
  unfold mayCall
  split at h
  · rename_i hphase
    rw [hphase, hpolicy]
    rfl
  · cases h

end Watch

section Labels

variable {l : Label} {number : Nat}

theorem Label.storedBy_of_isOf (h : l.isOf number = false) : l.storedBy number = none := by
  cases l with
  | put writer =>
      cases writer with
      | none => rfl
      | some n => simpa [Label.isOf, Label.storedBy] using h
  | _ => rfl

theorem Label.answerTo_of_isOf (h : l.isOf number = false) : l.answerTo number = none := by
  cases l with
  | answered n => simpa [Label.isOf, Label.answerTo] using h
  | _ => rfl

theorem Trace.answers_of_isOf (t : Trace) (w : World) (h : l.isOf number = false) :
    Trace.answers (t ++ [⟨l, w⟩]) number = t.answers number := by
  rw [Trace.answers_snoc, Label.answerTo_of_isOf h, Option.toList_none, List.append_nil]

theorem Label.brings_of_answerTo (h : l.answerTo number = none) (heard : Bool) :
    l.brings number heard = none := by
  rw [Label.brings, h]

/-- What a request brings is an outcome of it. -/
theorem Label.brings_sublist (l : Label) (number : Nat) (heard : Bool) :
    ((l.brings number heard).toList.map Except.ok).Sublist (l.answerTo number).toList := by
  unfold Label.brings
  cases hl : l.answerTo number with
  | none => exact List.Sublist.refl _
  | some outcome =>
      cases outcome with
      | error e => exact List.nil_sublist _
      | ok data =>
          cases heard with
          | false => exact List.nil_sublist _
          | true => exact List.Sublist.refl _

end Labels

section Advance

variable {number : Nat} {x x' : Watch} {heard : Bool} {cache : Cache} {l : Label}

/-- To ask the network takes away the leave to ask it, and nothing gives it. -/
theorem Advance.mayCall_le (h : Advance number x heard cache l x') :
    (if l.calls number then 1 else 0) + (if x'.mayCall then 1 else 0) ≤
      if x.mayCall then 1 else 0 := by
  cases h with
  | ended hlabel hphase =>
      have hstopped : x'.mayCall = false := by simp [Watch.mayCall, hphase]
      rcases hlabel with rfl | ⟨_, rfl⟩ | rfl <;> simp [Label.calls, hstopped]
  | scheduled hphase | turnedToCache hphase | hit hphase | missed hphase | sentCached hphase =>
      cases hpolicy : x.policy <;>
        simp [Watch.mayCall, Watch.goTo, Watch.begin, Watch.afterRead, Watch.afterCached, hphase,
          hpolicy, Label.calls]
  | sentMiss hphase | called hphase | succeeded hphase | failed hphase
  | stored hphase | storedEqual hphase | notified hphase | sentFetched hphase
  | sentFailure hphase | completed hphase | noticed hphase | passedOver hphase | lost hphase
  | unchanged hphase | changed hphase | sentChange hphase =>
      simp [Watch.mayCall, Watch.goTo, hphase, Label.calls]

/-- A watch never comes back to its first look at the cache. -/
theorem Advance.isAtCache_of (h : Advance number x heard cache l x')
    (hcache : x'.isAtCache = true) : x.isAtCache = true ∧ l.calls number = false := by
  cases h with
  | ended _ hphase => simp [Watch.isAtCache, hphase] at hcache
  | scheduled hphase | turnedToCache hphase | hit hphase =>
      simp [Watch.isAtCache, hphase, Label.calls]
  | missed | sentCached =>
      cases hpolicy : x.policy <;>
        simp [Watch.isAtCache, Watch.goTo, Watch.afterRead, Watch.afterCached, hpolicy] at hcache
  | _ => simp [Watch.isAtCache, Watch.goTo] at hcache

/-- Only a watch that has asked the network waits for an outcome. -/
theorem Advance.isFetching_le (h : Advance number x heard cache l x') :
    (if x'.isFetching then 1 else 0) ≤ if l.calls number then 1 else 0 := by
  cases h with
  | called => simp [Label.calls, Watch.isFetching, Watch.goTo]
  | ended _ hphase => simp [Watch.isFetching, hphase]
  | scheduled | missed | sentCached =>
      cases x.policy <;>
        simp [Watch.isFetching, Watch.goTo, Watch.begin, Watch.afterRead, Watch.afterCached]
  | _ => simp [Watch.isFetching, Watch.goTo]

/-- What a request brings is stored, and nothing else is. -/
theorem Advance.storedBy_eq (h : Advance number x heard cache l x')
    (hopen : heard = true → cache.isClosed = false) :
    (l.storedBy number).toList ++ (x'.toStore.map (x.query, ·)).toList =
      (x.toStore.map (x.query, ·)).toList ++
        ((l.brings number heard).map (x.query, ·)).toList := by
  cases h with
  | ended hlabel hphase hlooks _ hwhy =>
      have hx : x.toStore = none := by
        unfold Watch.toStore
        split
        · simp_all [Watch.looksUp]
        · rfl
      have hx' : x'.toStore = none := by simp [Watch.toStore, hphase]
      have hgone : l.brings number heard = none := by
        rcases hwhy with rfl | ⟨rfl, -⟩ | hclosed
        · unfold Label.brings
          split <;> simp
        · rfl
        · cases heard with
          | false =>
              unfold Label.brings
              split <;> simp
          | true =>
              rw [hopen rfl] at hclosed
              cases hclosed
      have hstored : l.storedBy number = none := by
        rcases hlabel with rfl | ⟨_, rfl⟩ | rfl <;> rfl
      rw [hx, hx', hgone, hstored]
      rfl
  | succeeded hphase hheard =>
      simp [Watch.toStore, Watch.goTo, hphase, Label.storedBy, Label.brings, Label.answerTo, hheard]
  | failed hphase =>
      simp [Watch.toStore, Watch.goTo, hphase, Label.storedBy, Label.brings, Label.answerTo]
  | scheduled hphase | missed hphase | sentCached hphase =>
      cases x.policy <;>
        simp [Watch.toStore, Watch.goTo, Watch.begin, Watch.afterRead, Watch.afterCached, hphase,
          Label.storedBy, Label.brings, Label.answerTo]
  | turnedToCache hphase | hit hphase | sentMiss hphase | called hphase
  | stored hphase | storedEqual hphase | notified hphase | sentFetched hphase
  | sentFailure hphase | completed hphase | noticed hphase | passedOver hphase | lost hphase
  | unchanged hphase | changed hphase | sentChange hphase =>
      simp [Watch.toStore, Watch.goTo, hphase, Label.storedBy, Label.brings, Label.answerTo]

end Advance

section Steps

variable {w w' origin : World} {l : Label} {number : Nat} {x x' : Watch} {query : Query}

/-- What comes of a request comes to a watch that waits for it. -/
theorem Step.isFetching_of_answered {n : Nat} {outcome : Except ErrorChain Json}
    (step : Step w (.answered n outcome) w') (hx : w.hub.watch? n = some x) :
    x.isFetching = true := by
  generalize hl : Label.answered n outcome = l at step
  cases step.cacheSide with
  | spared hspare | opened hspare =>
      subst hl
      cases hspare
  | @moved _ _ m y _ effect hy moves =>
      cases moves with
      | step => cases effect <;> cases hl
      | overhear => cases hl
      | answer outcome' hfetching =>
          obtain ⟨rfl, -⟩ : n = m ∧ outcome = outcome' := by simpa using hl
          obtain rfl : y = x := by simpa [hx] using hy.symm
          exact hfetching
      | crash => cases hl
  | stored | storedEqual | announced | removed | retained | released => cases hl

/-- What a watch stores is under its own query, and it was about to store it. -/
theorem Step.toStore_of_put {n : Nat} {data : Json} {changed : Bool}
    (step : Step w (.put (some n) query data changed) w') :
    ∃ y, w.hub.watch? n = some y ∧ y.query = query ∧ y.toStore = some data := by
  generalize hl : Label.put (some n) query data changed = l at step
  cases step.cacheSide with
  | spared hspare | opened hspare =>
      subst hl
      cases hspare
  | @moved _ _ m y y' effect hy moves =>
      have advance := moves.advance
      subst hl
      cases advance with
      | stored hphase | storedEqual hphase => exact ⟨y, hy, rfl, by simp [Watch.toStore, hphase]⟩
      | ended hlabel => rcases hlabel with hl | ⟨_, hl⟩ | hl <;> cases hl
  | stored | storedEqual | announced | removed | retained | released => cases hl

/-- An entry changes only when somebody removes it, or stores other data under its query. -/
theorem Step.of_entry_ne (step : Step w l w') (h : w'.entry query ≠ w.entry query) :
    (l = .removed ∧ w'.entry query = none) ∨
      ∃ writer data, l = .put writer query data true ∧ w'.entry query = some data ∧
        ∀ n, writer = some n →
          ∃ y, w.hub.watch? n = some y ∧ y.query = query ∧ y.toStore = some data := by
  rcases step.entry_cases query with ⟨-, hsame | hremoved⟩ | ⟨writer, data, rfl, hentry⟩
  · exact absurd hsame h
  · exact .inl hremoved
  · refine .inr ⟨writer, data, rfl, hentry, ?_⟩
    rintro n rfl
    exact step.toStore_of_put

/-- A watch that does something is received after it if it was before. -/
theorem Step.isReceived_of_isOf (step : Step w l w') (h : l.isOf number = true) (n : Nat) :
    w'.hub.isReceived n = w.hub.isReceived n := by
  cases step.cacheSide with
  | spared hspare | opened hspare =>
      rw [Label.isOf_of_isSpare hspare] at h
      cases h
  | moved _ _ _ _ _ received => exact received n
  | stored | storedEqual | announced | removed | retained | released => rfl

theorem Step.brings_eq (step : Step w l w') (number : Nat) :
    l.brings number (w'.hub.isReceived number) = l.brings number (w.hub.isReceived number) := by
  cases hl : l.isOf number with
  | true => rw [step.isReceived_of_isOf hl]
  | false =>
      have hnone := Label.answerTo_of_isOf hl
      rw [Label.brings_of_answerTo hnone, Label.brings_of_answerTo hnone]

end Steps

/-- The account of what a watch has asked for, was given and has stored. -/
structure Watch.Account (x : Watch) (number : Nat) (x₀ : Watch) (t : Trace) : Prop where
  query_eq : x.query = x₀.query
  calls_le : t.calls number + (if x.mayCall then 1 else 0) ≤ if x₀.mayCall then 1 else 0
  looking : x.isAtCache = true → t.calls number = 0
  answers_le : (t.answers number).length + (if x.isFetching then 1 else 0) ≤
    t.calls number + if x₀.isFetching then 1 else 0
  brought : ((t.brought number).map Except.ok).Sublist (t.answers number)
  stored_eq : t.stored number ++ (x.toStore.map (x₀.query, ·)).toList =
    (x₀.toStore.map (x₀.query, ·)).toList ++ (t.brought number).map (x₀.query, ·)

section Account

variable {w w' origin : World} {l : Label} {number : Nat} {x x' x₀ : Watch} {t : Trace}

theorem Watch.Account.start (number : Nat) (x₀ : Watch) : x₀.Account number x₀ [] where
  query_eq := rfl
  calls_le := by simp [Trace.calls]
  looking _ := rfl
  answers_le := by simp [Trace.answers]
  brought := List.Sublist.refl _
  stored_eq := by simp [Trace.stored, Trace.brought]

theorem Watch.Account.others (h : x.Account number x₀ t) (w' : World)
    (hl : l.isOf number = false) : x.Account number x₀ (t ++ [⟨l, w'⟩]) := by
  have hcalls := t.calls_of_isOf w' hl
  have hanswers := t.answers_of_isOf w' hl
  have hbrought : Trace.brought (t ++ [⟨l, w'⟩]) number = t.brought number := by
    rw [Trace.brought_snoc, Label.brings_of_answerTo (Label.answerTo_of_isOf hl),
      Option.toList_none, List.append_nil]
  have hstored : Trace.stored (t ++ [⟨l, w'⟩]) number = t.stored number := by
    rw [Trace.stored_snoc, Label.storedBy_of_isOf hl, Option.toList_none, List.append_nil]
  exact
    { query_eq := h.query_eq
      calls_le := hcalls ▸ h.calls_le
      looking := hcalls ▸ h.looking
      answers_le := by
        rw [hanswers, hcalls]
        exact h.answers_le
      brought := by
        rw [hbrought, hanswers]
        exact h.brought
      stored_eq := by
        rw [hstored, hbrought]
        exact h.stored_eq }

/-- A request that comes to an outcome was under way, and is not any more. -/
private theorem Step.answers_le (step : Step w l w') (hx : w.hub.watch? number = some x)
    (advance : Advance number x (w.hub.isReceived number) w.hub.cache l x') :
    (l.answerTo number).toList.length + (if x'.isFetching then 1 else 0) ≤
      (if x.isFetching then 1 else 0) + if l.calls number then 1 else 0 := by
  have hfetching := advance.isFetching_le
  cases hl : l.answerTo number with
  | none =>
      simp only [Option.toList_none, List.length_nil]
      omega
  | some outcome =>
      unfold Label.answerTo at hl
      split at hl
      · rename_i n outcome'
        split at hl
        · rename_i hn
          subst hn
          have hwaiting := step.isFetching_of_answered hx
          simp only [Option.toList_some, List.length_singleton, hwaiting, if_true]
          omega
        · cases hl
      · cases hl

theorem Watch.Account.own (h : x.Account number x₀ t) (step : Step w l w')
    (hx : w.hub.watch? number = some x)
    (advance : Advance number x (w.hub.isReceived number) w.hub.cache l x')
    (hopen : w.hub.isReceived number = true → w.hub.cache.isClosed = false) :
    x'.Account number x₀ (t ++ [⟨l, w'⟩]) where
  query_eq := advance.query_eq.trans h.query_eq
  calls_le := by
    have hbefore := h.calls_le
    have hstep := advance.mayCall_le
    rw [Trace.calls_snoc]
    omega
  looking hcache := by
    obtain ⟨hbefore, hcalls⟩ := advance.isAtCache_of hcache
    rw [Trace.calls_snoc, h.looking hbefore, hcalls]
    rfl
  answers_le := by
    have hbefore := h.answers_le
    have hstep := step.answers_le hx advance
    rw [Trace.answers_snoc, Trace.calls_snoc, List.length_append]
    omega
  brought := by
    rw [Trace.brought_snoc, Trace.answers_snoc, List.map_append]
    exact h.brought.append (l.brings_sublist number _)
  stored_eq := by
    have hstep := advance.storedBy_eq hopen
    rw [h.query_eq] at hstep
    rw [Trace.stored_snoc, Trace.brought_snoc, step.brings_eq, List.append_assoc, hstep,
      ← List.append_assoc, h.stored_eq, List.map_append, List.append_assoc]
    cases l.brings number (w.hub.isReceived number) <;> rfl

/-- Every watch keeps its account. -/
theorem Run.account (run : Run origin t w) (held : origin.Held)
    (hx : origin.hub.watch? number = some x₀) :
    ∃ x, w.hub.watch? number = some x ∧ x.Account number x₀ t := by
  have hinv := run.watch_induction
    (P := fun t w x => w.Held ∧ x.Account number x₀ t) hx ⟨held, .start number x₀⟩ ?_ ?_
  · obtain ⟨x, hx, -, account⟩ := hinv
    exact ⟨x, hx, account⟩
  · rintro t w l w' x ⟨held, account⟩ step hx hl
    exact ⟨step.held held, account.others w' hl⟩
  · rintro t w l w' x x' ⟨held, account⟩ step hx advance
    refine ⟨step.held held, account.own step hx advance fun _ => ?_⟩
    exact held.isClosed_eq_false hx advance.not_stopped

theorem Watch.Account.calls_le_one (h : x.Account number x₀ t) : t.calls number ≤ 1 := by
  have hone : (if x₀.mayCall then 1 else 0) ≤ 1 := by split <;> omega
  have hle := h.calls_le
  omega

/-- A watch that may not ask the network does not ask it. -/
theorem Watch.Account.calls_eq_zero (h : x.Account number x₀ t) (hcall : x₀.mayCall = false) :
    t.calls number = 0 := by
  have hle := h.calls_le
  simp only [hcall, Bool.false_eq_true, if_false] at hle
  omega

/-- A watch to which nothing is brought stores nothing. -/
theorem Watch.Account.stored_of_brought (h : x.Account number x₀ t) (hstore : x₀.toStore = none)
    (hbrought : t.brought number = []) : t.stored number = [] ∧ x.toStore = none := by
  have heq := h.stored_eq
  rw [hbrought, hstore] at heq
  obtain ⟨hstored, hnone⟩ := List.append_eq_nil_iff.1 heq
  refine ⟨hstored, ?_⟩
  simpa using hnone

/-- A watch that does not ask the network stores nothing. -/
theorem Watch.Account.stored_of_calls (h : x.Account number x₀ t) (hstore : x₀.toStore = none)
    (hfetching : x₀.isFetching = false) (hcalls : t.calls number = 0) :
    t.stored number = [] ∧ x.toStore = none := by
  apply h.stored_of_brought hstore
  have hanswers : t.answers number = [] := by
    have hle := h.answers_le
    rw [hcalls, hfetching] at hle
    apply List.eq_nil_of_length_eq_zero
    simp only [Bool.false_eq_true, if_false] at hle
    omega
  have hsub := h.brought
  rw [hanswers, List.sublist_nil] at hsub
  exact List.map_eq_nil_iff.1 hsub

/-- A watch whose request has failed stores nothing. -/
theorem Watch.Account.stored_of_error (h : x.Account number x₀ t) (hstore : x₀.toStore = none)
    (hlength : (t.answers number).length ≤ 1) {e : ErrorChain}
    (he : .error e ∈ t.answers number) : t.stored number = [] ∧ x.toStore = none := by
  apply h.stored_of_brought hstore
  have hanswers : t.answers number = [.error e] := by
    obtain ⟨before, after, heq⟩ := List.append_of_mem he
    rw [heq, List.length_append, List.length_cons] at hlength
    have hbefore : before = [] := List.eq_nil_of_length_eq_zero (by omega)
    have hafter : after = [] := List.eq_nil_of_length_eq_zero (by omega)
    rw [heq, hbefore, hafter]
    rfl
  apply List.eq_nil_iff_forall_not_mem.2
  intro data hdata
  have hmem := h.brought.subset (List.mem_map_of_mem hdata)
  rw [hanswers] at hmem
  simp at hmem

end Account
end RepoWatch
