import RepoWatch.Proofs.Schedule.Attention
import RepoWatch.Proofs.World.Deeds
/-!
# What the watches store

All that a watch stores is the data of its only request, and the watch stores it exactly if its
receiver is there when the data arrives. From the moment the receiver is gone the watch is given up.
-/

namespace RepoWatch

/-- A watch is given up in a world: it asks nobody and sends nothing any more, stores at most what
was brought to it before, and has ended whenever it waits. Its job runs it to its end, which it has
reached when no job of a schedule is ready. -/
structure World.GivesUp (w : World) (number : Nat) (x : Watch) : Prop where
  silent : ∀ {t : Trace} {w' : World}, Run w t w' → t.calls number = 0 ∧ t.sent number = [] ∧
    (t.stored number).Sublist (x.toStore.map (x.query, ·)).toList
  ended : ∀ {t : Trace} {w' : World}, Run w t w' → w'.hub.stepWatch number = none →
    ∃ x', w'.hub.watch? number = some x' ∧ x'.phase = .stopped
  job : ∀ {ι : Type} (s : Schedule ι), s.hub = w.hub → x.phase ≠ .stopped →
    s.GivesUp (s.runJob (.watch number)) number
  idle : ∀ {ι : Type} {outlets : Outlets} {environment : Environment ι}
    {fetch : Query → Plan ι (Except ErrorChain Graphql.Reply)} {s : Schedule ι},
    Schedule.History (.initial outlets environment fetch) s → s.hub = w.hub → s.ready = [] →
      x.phase = .stopped

section Stores

variable {origin w : World} {t : Trace} {number : Nat} {query : Query} {policy : Policy}
  {x x₀ : Watch}

theorem World.givesUp (held : w.Held) (hx : w.hub.watch? number = some x)
    (hgone : w.hub.isReceived number = false) : w.GivesUp number x where
  silent run := by
    obtain ⟨-, hcalls, hsent, -⟩ := run.unheard hx hgone
    exact ⟨hcalls, hsent, run.stored_unheard held hx hgone⟩
  ended run hwaits := by
    obtain ⟨x', hx', -⟩ := run.account held hx
    obtain ⟨hgone', -⟩ := run.unheard hx hgone
    exact ⟨x', hx', Hub.stopped_of_waiting hx' hgone' hwaits⟩
  job s hhub hphase := by
    rw [← hhub] at hx hgone
    exact Schedule.givesUp_runJob hx hgone hphase
  idle history hhub hready := by
    rw [← hhub] at hx hgone
    exact history.stopped hready hx hgone

theorem Watch.not_mayCall_of_isResolved (h : x.phase ≠ .stopped → x.isResolved = true) :
    x.mayCall = false ∧ x.isFetching = false ∧ x.toStore = none := by
  unfold isResolved at h
  unfold mayCall isFetching toStore
  cases hphase : x.phase <;> simp_all

/-- A watch that neither asks nor waits for an outcome stores nothing any more. -/
theorem Run.stored_eq_nil (run : Run origin t w) (held : origin.Held)
    (hx : origin.hub.watch? number = some x₀)
    (h : x₀.mayCall = false ∧ x₀.isFetching = false ∧ x₀.toStore = none) :
    t.stored number = [] := by
  obtain ⟨hcall, hfetching, hstore⟩ := h
  obtain ⟨x, -, account⟩ := run.account held hx
  exact (account.stored_of_calls hstore hfetching (account.calls_eq_zero hcall)).1

/-- A watch whose query is resolved stores nothing any more. -/
theorem Watch.Life.stored_eq_nil (life : x.Life origin number query policy t w) (held : w.Held)
    (hx : w.hub.watch? number = some x)
    (hcompleted : (t.sent number).any Event.isCompletion = true) {t' : Trace} {w' : World}
    (run : Run w t' w') : t'.stored number = [] := by
  apply run.stored_eq_nil held hx
  apply Watch.not_mayCall_of_isResolved
  intro hphase
  rw [← hcompleted, life.sent.any_isCompletion hphase]

/-- A watch that finds data in the cache, and needs no more, does not ask the network. -/
theorem Run.calls_of_hasHit (run : Run origin t w) (held : origin.Held)
    (born : origin.Opened number query .cacheFirst) {m : Moment} (hm : m ∈ t) {y : Watch}
    (hy : m.world.hub.watch? number = some y) (hhit : y.hasHit = true) : t.calls number = 0 := by
  obtain ⟨t₁, t₂, rfl, run₁, run₂⟩ := run.split hm
  obtain ⟨y₁, hy₁, life⟩ := run₁.life born
  obtain rfl : y = y₁ := by simpa [hy] using hy₁
  obtain ⟨y₂, hy₂, account₁⟩ := run₁.account held born
  obtain rfl : y = y₂ := by simpa [hy] using hy₂
  obtain ⟨x, -, account₂⟩ := run₂.account (run₁.keeps Step.held held) hy
  have hbefore : t₁.calls number = 0 := account₁.looking (Watch.isAtCache_of_hasHit hhit)
  have hafter : t₂.calls number = 0 :=
    account₂.calls_eq_zero (Watch.mayCall_of_hasHit hhit life.policy_eq)
  have happend : Trace.calls (t₁ ++ t₂) number = t₁.calls number + t₂.calls number :=
    List.countP_append
  rw [happend, hbefore, hafter]

/-- A watch asks the network once at most, and stores what its request brings while the watch is
received, once and under its own query; the entry then equals what is stored. So it stores nothing
when it only reads the cache, when the cache satisfies it, when its request fails, or after its query
is resolved. No entry changes but by what somebody stores or removes. When its receiver is gone, a
watch is given up. -/
theorem stores_are_what_requests_bring {cache : Cache} {outlets : Outlets} {past : Trace}
    (before : Run (.start cache outlets) past origin) (born : origin.Opened number query policy)
    (run : Run origin t w) :
    ∃ x, w.hub.watch? number = some x ∧
      (t.calls number ≤ 1 ∧ (t.answers number).length ≤ t.calls number ∧
        (t.stored number).length ≤ 1) ∧
      (t.stored number ++ (x.toStore.map (query, ·)).toList =
          (t.brought number).map (query, ·) ∧
        ((t.brought number).map Except.ok).Sublist (t.answers number)) ∧
      (∀ data, x.toStore = some data → ∀ heard cache,
        ∃ x', x.step heard cache = some (x', .insert data)) ∧
      (policy = .cacheOnly ∨
          (policy = .cacheFirst ∧
            ∃ m ∈ t, ∃ y, m.world.hub.watch? number = some y ∧ y.hasHit = true) ∨
          (∃ e, .error e ∈ t.answers number) →
        t.stored number = [] ∧ x.toStore = none) ∧
      ((t.sent number).any Event.isCompletion = true → ∀ {t' : Trace} {w' : World},
        Run w t' w' → t'.stored number = []) ∧
      (∀ {l : Label} {w' : World} {q : Query}, Step w l w' → w'.entry q ≠ w.entry q →
        (l = .removed ∧ w'.entry q = none) ∨
          ∃ writer data, l = .put writer q data true ∧ w'.entry q = some data ∧
            ∀ n, writer = some n →
              ∃ y, w.hub.watch? n = some y ∧ y.query = q ∧ y.toStore = some data) ∧
      (∀ {writer : Option Nat} {q : Query} {data : Json} {changed : Bool} {w' : World},
        Step w (.put writer q data changed) w' →
          ∃ cached, w'.entry q = some cached ∧ (cached == data) = true) ∧
      (w.hub.isReceived number = false → w.GivesUp number x) := by
  have held := before.held
  obtain ⟨x, hx, life⟩ := run.life born
  obtain ⟨y, hy, account⟩ := run.account held born
  obtain rfl : y = x := by simpa [hx] using hy.symm
  have hcalls : t.calls number ≤ 1 := account.calls_le_one
  have hanswers : (t.answers number).length ≤ t.calls number :=
    Nat.le_trans (Nat.le_add_right _ _) account.answers_le
  have hstored : t.stored number ++ (y.toStore.map (query, ·)).toList =
      (t.brought number).map (query, ·) := account.stored_eq
  have hlength : (t.stored number).length ≤ 1 := by
    have hbrought : (t.brought number).length ≤ (t.answers number).length := by
      rw [← List.length_map (f := Except.ok)]
      exact account.brought.length_le
    have heq := congrArg List.length hstored
    rw [List.length_append, List.length_map] at heq
    omega
  refine ⟨y, hx, ⟨hcalls, hanswers, hlength⟩, ⟨hstored, account.brought⟩, ?_, ?_, ?_, ?_,
    Step.entry_equals_put, ?_⟩
  · intro data hdata
    exact Watch.step_of_toStore hdata
  · rintro (rfl | ⟨rfl, m, hm, z, hz, hhit⟩ | ⟨e, he⟩)
    · exact account.stored_of_calls rfl rfl (account.calls_eq_zero rfl)
    · exact account.stored_of_calls rfl rfl (run.calls_of_hasHit held born hm hz hhit)
    · exact account.stored_of_error rfl (Nat.le_trans hanswers hcalls) he
  · intro hcompleted t' w' run'
    exact life.stored_eq_nil (run.keeps Step.held held) hx hcompleted run'
  · intro l w' q step h
    exact step.of_entry_ne h
  · exact World.givesUp (run.keeps Step.held held) hx

/-- The data that a watch has asked for arrives. -/
def fetchedOnly : List Deed := [.watch 0, .watch 0, .answer 0 (.ok (.integer 2))]

/-- A watch whose receiver hangs up just after the data has arrived still stores the data. -/
theorem stores_are_what_requests_bring_hung_up :
    let query : Query := .commits "own"
    let origin : World := .watching .empty query .networkOnly
    let w₁ := origin.after fetchedOnly
    let w := w₁.withHub (w₁.hub.hangUp 0)
    let t := origin.trace fetchedOnly ++ [⟨.silent, w⟩]
    Run (.start .empty .unheard) [⟨.silent, origin⟩] origin ∧
      origin.Opened 0 query .networkOnly ∧ Run origin t w ∧ w.hub.isReceived 0 = false ∧
      (t.brought 0 == [.integer 2]) = true ∧ (t.stored 0).length = 0 ∧
      ((w.trace (List.replicate 3 (.watch 0))).stored 0 == [(query, .integer 2)]) = true ∧
      (w.after (List.replicate 3 (.watch 0))).hub.cache.holds query (.integer 2) = true ∧
      ∃ x, w.hub.watch? 0 = some x ∧
        t.stored 0 ++ (x.toStore.map (query, ·)).toList = (t.brought 0).map (query, ·) ∧
        (∀ {writer : Option Nat} {q : Query} {data : Json} {changed : Bool} {w' : World},
          Step w (.put writer q data changed) w' →
            ∃ cached, w'.entry q = some cached ∧ (cached == data) = true) ∧
        w.GivesUp 0 x := by
  intro query origin w₁ w t
  have before := Run.watching .empty query .networkOnly
  have born : origin.Opened 0 query .networkOnly := rfl
  have hangs : ∃ p, w₁.hub.pipes[0]? = some p ∧ p.follower = none := ⟨_, rfl, rfl⟩
  obtain ⟨p, hp, hfollower⟩ := hangs
  have run : Run origin t w := .snoc (.of_deeds origin fetchedOnly) (.hangUp hp hfollower)
  have hgone : w.hub.isReceived 0 = false := by decide +kernel
  obtain ⟨x, hx, -, ⟨hstored, -⟩, -, -, -, -, hput, givesUp⟩ :=
    stores_are_what_requests_bring before born run
  exact ⟨before, born, run, hgone, by decide +kernel, by decide +kernel, by decide +kernel,
    by decide +kernel, x, hx, hstored, hput, givesUp hgone⟩

end Stores
end RepoWatch
