import RepoWatch.Proofs.Feed.Followers
import RepoWatch.Proofs.World.Moves
/-!
# The registry and the followers

Every follower that is active is registered under its query, or is about to be by the fetch that is
under way, or is about to be switched off by the call that is under way. So when a call returns, the
registry tells exactly which followers are active.
-/

namespace RepoWatch

/-- Labels of steps that concern the calls of the feed, or show that an event is handled. -/
def Label.isFeed : Label → Bool
  | .handled .. | .fetched .. | .stopping | .returned _ => true
  | _ => false

/-- Whether a call switches off the followers of all watches. -/
def Ending.isStop : Ending → Bool
  | .fetch .. => false
  | .cancel _ | .drop => true

/-- A query has just begun to be followed. -/
def Hub.Fresh (s : Hub) (number : Nat) (query : Query) : Prop :=
  ∃ p, s.pipes[number]? = some p ∧ p.follower = some (.create query) ∧ p.events = [] ∧
    p.receiverOpen = true

/-- What a step does to the followers, the registry and the call of the feed. -/
inductive FeedSide (w : World) : Label → World → Prop where
  | passed {l : Label} {w' : World} (hl : l.isFeed = false) (hub : w.hub.Passes w'.hub)
      (call : w'.call = w.call) : FeedSide w l w'
  | fetched {query : Query} {w' : World} (hcall : w.call = none)
      (turns : Hub.Turns w.hub.nextNumber (some (.create query)) w.hub w'.hub)
      (call : w'.call = some (.registering query w.hub.nextNumber))
      (fresh : w'.hub.Fresh w.hub.nextNumber query) :
      FeedSide w (.fetched query w.hub.nextNumber) w'
  | registered {query : Query} {number : Nat} (hcall : w.call = some (.registering query number)) :
      FeedSide w .silent ((w.withHub (w.hub.register query number)).calling
        (some (.switchingOff (w.hub.registered? query).toList (.fetch query number))))
  | stopping {ending : Ending} (hcall : w.call = none) (hending : ending.isStop = true) :
      FeedSide w .stopping ((w.withHub w.hub.clearRegistry).calling
        (some (.switchingOff (w.hub.registry.map Prod.snd) ending)))
  | switchedOff {number : Nat} {numbers : List Nat} {ending : Ending}
      (hcall : w.call = some (.switchingOff (number :: numbers) ending)) :
      FeedSide w .silent ((w.withHub (w.hub.cancelFollower number)).calling
        (some (.switchingOff numbers ending)))
  | concluded {ending : Ending} {w' : World} (hcall : w.call = some (.switchingOff [] ending))
      (hub : w.hub.Passes w'.hub) (call : w'.call = none) : FeedSide w (.returned ending) w'
  | served {number : Nat} {f f' : Follower} {l : Label} {w' : World}
      (hf : w.hub.follower? number = some f) (part : f.SamePart f')
      (turns : Hub.Turns number (some f') w.hub w'.hub) (call : w'.call = w.call)
      (hl : l = .silent ∨ ∃ event, l = .handled number event ∧ f.isActive = true) :
      FeedSide w l w'

theorem Hub.passes_open {s s' : Hub} {p : Pipe} (h : s'.pipes = s.pipes ++ [p])
    (hfollower : p.follower = none) (hregistry : s'.registry = s.registry) : s.Passes s' := by
  refine ⟨fun n => ?_, hregistry⟩
  rw [Hub.follower?_append h, hfollower]
  split
  · rename_i hn
    rw [Hub.follower?, List.getElem?_eq_none (by omega), Option.bind_none]
  · rfl

theorem Hub.turns_attach {s s' : Hub} {p : Pipe} (h : s'.pipes = s.pipes ++ [p])
    (hregistry : s'.registry = s.registry) (query : Query) :
    Hub.Turns s.nextNumber (some (.create query)) s (s'.attach query s.nextNumber) := by
  have hp : s'.pipes[s.nextNumber]? = some p := by
    rw [h]
    exact List.getElem?_concat_length
  have hturns := Hub.turns_setFollower
    (s := { s' with outlets := s'.outlets.clone query.operation }) hp p (.create query)
  unfold Hub.attach
  rw [hp]
  refine ⟨fun n => ?_, hregistry⟩
  dsimp only
  rw [hturns.follower?_eq]
  split
  · rfl
  · rename_i hn
    exact (Hub.follower?_append h n).trans (if_neg hn)

theorem Hub.fresh_attach {s s' : Hub} {p : Pipe} {query : Query}
    (h : s'.pipes = s.pipes ++ [p]) (hevents : p.events = []) (hreceiver : p.receiverOpen = true) :
    (s'.attach query s.pipes.length).Fresh s.pipes.length query := by
  have hp : s'.pipes[s.pipes.length]? = some p := by
    rw [h]
    exact List.getElem?_concat_length
  refine ⟨{ p with follower := some (.create query) }, ?_, rfl, hevents, hreceiver⟩
  rw [Hub.attach_eq query hp, Hub.getElem?_setPipe hp, if_pos rfl]

theorem Hub.followerLabel_cases {s : Hub} {number : Nat} {f : Follower}
    (hf : s.follower? number = some f) :
    s.followerLabel number = .silent ∨
      ∃ event, s.followerLabel number = .handled number event ∧ f.isActive = true := by
  unfold Hub.follower? at hf
  unfold Hub.followerLabel Hub.handling?
  rw [hf]
  dsimp only
  split
  · rename_i event hevent
    split at hevent
    · rename_i hcond
      rw [Bool.and_eq_true] at hcond
      exact .inr ⟨event, rfl, hcond.2⟩
    · cases hevent
  · exact .inl rfl

theorem Hub.openFor_eq (s : Hub) (backend : Schedule.Backend) (query : Query) :
    ∃ p, (s.openFor backend query).pipes = s.pipes ++ [p] ∧
      (s.openFor backend query).registry = s.registry ∧ p.events = [] ∧ p.receiverOpen = true := by
  cases backend with
  | hub => exact ⟨_, rfl, rfl, rfl, rfl⟩
  | outside => exact ⟨_, rfl, rfl, rfl, rfl⟩

theorem Hub.passes_conclude (s : Hub) (ending : Ending) : s.Passes (s.conclude ending) := by
  cases ending <;> exact Hub.passes_of_eq rfl rfl

theorem Effect.isFeed_label (effect : Effect) (number : Nat) (query : Query) (cache : Cache) :
    (effect.label number query cache).isFeed = false := by
  cases effect <;> rfl

theorem Step.feedSide {w w' : World} {l : Label} (h : Step w l w') : FeedSide w l w' := by
  cases h with
  | openWatch => exact .passed rfl (Hub.passes_open rfl rfl rfl) rfl
  | watch hx h =>
      obtain ⟨p, x, y, hp, -, -, rfl⟩ := Hub.stepWatch_eq_some h
      exact .passed (Effect.isFeed_label _ _ _ _)
        (Hub.passes_moveWatch hp (Hub.follower_deliver p _) _ _ _) rfl
  | overhear h =>
      obtain ⟨p, x, y, effect, hp, -, -, -, -, rfl⟩ := Hub.overhear_eq_some h
      exact .passed rfl (Hub.passes_moveWatch hp rfl _ _ _) rfl
  | answer outcome hx =>
      obtain ⟨p, hp, hx⟩ := Hub.watch?_eq_some hx
      rw [Hub.answerWatch_eq hp hx]
      exact .passed rfl (Hub.passes_moveWatch hp rfl _ _ _) rfl
  | crash hx =>
      obtain ⟨p, hp, hx⟩ := Hub.watch?_eq_some hx
      rw [Hub.crashWatch_eq hp hx]
      exact .passed rfl (Hub.passes_moveWatch hp rfl _ _ _) rfl
  | store | storeEqual | announce | erase | clear | retain | release | subscribers
  | journal =>
      exact .passed rfl (Hub.passes_of_eq rfl rfl) rfl
  | hangUp => exact .passed rfl (Hub.passes_hangUp _ _) rfl
  | receive hp => exact .passed rfl (Hub.passes_setPipe hp rfl) rfl
  | feed => exact .passed rfl (Hub.passes_sendEvent _ _ _) rfl
  | closeSender => exact .passed rfl (Hub.passes_closeSender _ _) rfl
  | fetch backend query hcall =>
      obtain ⟨p, hpipes, hregistry, hevents, hreceiver⟩ :=
        (w.hub.note (.fetching query)).openFor_eq backend query
      exact .fetched hcall (Hub.turns_attach (s := w.hub) hpipes hregistry query) rfl
        (Hub.fresh_attach hpipes hevents hreceiver)
  | register hcall => exact .registered hcall
  | cancel hcall => exact .stopping hcall rfl
  | drop hcall => exact .stopping hcall rfl
  | switchOff hcall => exact .switchedOff hcall
  | conclude hcall => exact .concluded hcall (Hub.passes_conclude _ _) rfl
  | follower h =>
      obtain ⟨f, f', hf, part, turns⟩ := Hub.turns_stepFollower h
      exact .served hf part turns rfl (Hub.followerLabel_cases hf)
  | abort hp hf =>
      obtain ⟨f', part, turns⟩ := Hub.turns_finishFollower hp hf
      exact .served ((Hub.follower?_eq hp).trans hf) part turns rfl (.inl rfl)

/-- What the registry tells when a call comes to its end. -/
def Ending.Settled (ending : Ending) (registry : List (Query × Nat)) : Prop :=
  match ending with
  | .fetch query number => (query, number) ∈ registry
  | .cancel _ | .drop => registry = []

/-- Who is active is registered, or is about to be, or is about to be switched off. -/
structure World.Tidy (w : World) : Prop where
  active : ∀ {q n}, (q, n) ∈ w.hub.registry → w.hub.active? n = some q
  unique : ∀ {q n m}, (q, n) ∈ w.hub.registry → (q, m) ∈ w.hub.registry → n = m
  known : ∀ {q n}, w.hub.active? n = some q → (q, n) ∈ w.hub.registry ∨
    w.call = some (.registering q n) ∨
      ∃ ns ending, w.call = some (.switchingOff ns ending) ∧ n ∈ ns
  registering : ∀ {q n}, w.call = some (.registering q n) →
    w.hub.active? n = some q ∧ ∀ q', (q', n) ∉ w.hub.registry
  switching : ∀ {ns ending}, w.call = some (.switchingOff ns ending) →
    (∀ n ∈ ns, ∀ q, (q, n) ∉ w.hub.registry) ∧ ending.Settled w.hub.registry

section Tidy

variable {w w' : World} {l : Label}

theorem World.tidy_start (cache : Cache) (outlets : Outlets) :
    (World.start cache outlets).Tidy where
  active h := by cases h
  unique h := by cases h
  known h := by cases h
  registering h := by cases h
  switching h := by cases h

theorem World.Tidy.congr (h : w.Tidy) (hactive : ∀ n, w'.hub.active? n = w.hub.active? n)
    (hregistry : w'.hub.registry = w.hub.registry) (hcall : w'.call = w.call) : w'.Tidy where
  active := by
    intro q n hmem
    rw [hregistry] at hmem
    rw [hactive]
    exact h.active hmem
  unique := by
    rw [hregistry]
    exact h.unique
  known := by
    intro q n hq
    rw [hactive] at hq
    rw [hregistry, hcall]
    exact h.known hq
  registering := by
    intro q n hregistering
    rw [hcall] at hregistering
    rw [hactive, hregistry]
    exact h.registering hregistering
  switching := by
    rw [hregistry, hcall]
    exact h.switching

/-- There is no follower where no pipe is. -/
theorem Hub.active?_nextNumber (s : Hub) : s.active? s.nextNumber = none := by
  have hnone : s.pipes[s.nextNumber]? = none := List.getElem?_eq_none (Nat.le_refl _)
  rw [active?, follower?, hnone]
  rfl

/-- Between the calls, who is active is registered. -/
theorem World.Tidy.mem_registry (h : w.Tidy) (hcall : w.call = none) {q : Query} {n : Nat}
    (hactive : w.hub.active? n = some q) : (q, n) ∈ w.hub.registry := by
  rcases h.known hactive with hmem | hregistering | ⟨_, _, hswitching, -⟩
  · exact hmem
  · rw [hcall] at hregistering
    cases hregistering
  · rw [hcall] at hswitching
    cases hswitching

theorem World.Tidy.fetched (h : w.Tidy) {query : Query} (hcall : w.call = none)
    (turns : Hub.Turns w.hub.nextNumber (some (.create query)) w.hub w'.hub)
    (call : w'.call = some (.registering query w.hub.nextNumber)) : w'.Tidy := by
  have hnew : w'.hub.active? w.hub.nextNumber = some query := by
    rw [turns.active?_eq, if_pos rfl]
    rfl
  have hold : ∀ {n}, n ≠ w.hub.nextNumber → w'.hub.active? n = w.hub.active? n := by
    intro n hn
    rw [turns.active?_eq, if_neg hn]
  have hfresh : ∀ {q n}, (q, n) ∈ w.hub.registry → n ≠ w.hub.nextNumber := by
    rintro q n hmem rfl
    have hactive := h.active hmem
    rw [Hub.active?_nextNumber] at hactive
    cases hactive
  have hregistry := turns.registry_eq
  refine ⟨?_, ?_, ?_, ?_, ?_⟩
  · intro q n hmem
    rw [hregistry] at hmem
    rw [hold (hfresh hmem)]
    exact h.active hmem
  · rw [hregistry]
    exact h.unique
  · intro q n hq
    by_cases hn : n = w.hub.nextNumber
    · subst hn
      rw [hnew] at hq
      cases hq
      exact .inr (.inl call)
    · rw [hold hn] at hq
      exact .inl (hregistry ▸ h.mem_registry hcall hq)
  · intro q n hregistering
    rw [call] at hregistering
    cases hregistering
    refine ⟨hnew, fun q' hmem => ?_⟩
    rw [hregistry] at hmem
    exact hfresh hmem rfl
  · intro ns ending hswitching
    rw [call] at hswitching
    cases hswitching

theorem Hub.mem_register {s : Hub} {query q : Query} {number n : Nat} :
    (q, n) ∈ (s.register query number).registry ↔
      (q = query ∧ n = number) ∨ ((q, n) ∈ s.registry ∧ q ≠ query) := by
  simp [Hub.register]

theorem Hub.mem_registry_of_registered? {s : Hub} {q : Query} {n : Nat}
    (h : s.registered? q = some n) : (q, n) ∈ s.registry := by
  obtain ⟨before, after, heq, -⟩ := List.lookup_eq_some_iff.1 h
  rw [heq]
  exact List.mem_append_right _ List.mem_cons_self

theorem World.Tidy.registered?_eq (h : w.Tidy) {q : Query} {n : Nat}
    (hmem : (q, n) ∈ w.hub.registry) : w.hub.registered? q = some n := by
  cases hfound : w.hub.registered? q with
  | none =>
      have hnot := List.lookup_eq_none_iff.1 hfound (q, n) hmem
      simp at hnot
  | some m => rw [h.unique (Hub.mem_registry_of_registered? hfound) hmem]

theorem World.Tidy.registered (h : w.Tidy) {query : Query} {number : Nat}
    (hcall : w.call = some (.registering query number)) :
    ((w.withHub (w.hub.register query number)).calling
      (some (.switchingOff (w.hub.registered? query).toList (.fetch query number)))).Tidy := by
  obtain ⟨hnumber, hfresh⟩ := h.registering hcall
  refine ⟨?_, ?_, ?_, ?_, ?_⟩
  · intro q n hmem
    rcases Hub.mem_register.1 hmem with ⟨rfl, rfl⟩ | ⟨hmem, -⟩
    · exact hnumber
    · exact h.active hmem
  · intro q n m hn hm
    rcases Hub.mem_register.1 hn with ⟨rfl, rfl⟩ | ⟨hn, hne⟩ <;>
      rcases Hub.mem_register.1 hm with ⟨heq, rfl⟩ | ⟨hm, hne'⟩
    · rfl
    · exact absurd rfl hne'
    · exact absurd heq hne
    · exact h.unique hn hm
  · intro q n hq
    rcases h.known hq with hmem | hregistering | ⟨ns, ending, hswitching, -⟩
    · by_cases hne : q = query
      · subst hne
        refine .inr (.inr ⟨_, _, rfl, ?_⟩)
        rw [h.registered?_eq hmem]
        exact List.mem_cons_self
      · exact .inl (Hub.mem_register.2 (.inr ⟨hmem, hne⟩))
    · rw [hcall] at hregistering
      cases hregistering
      exact .inl (Hub.mem_register.2 (.inl ⟨rfl, rfl⟩))
    · rw [hcall] at hswitching
      cases hswitching
  · intro q n hregistering
    cases hregistering
  · intro ns ending hswitching
    cases hswitching
    refine ⟨fun m hm q hmem => ?_, Hub.mem_register.2 (.inl ⟨rfl, rfl⟩)⟩
    have hold := Hub.mem_registry_of_registered? (Option.mem_toList.1 hm)
    rcases Hub.mem_register.1 hmem with ⟨rfl, rfl⟩ | ⟨hmem, hne⟩
    · exact hfresh _ hold
    · have hactive := h.active hmem
      rw [h.active hold] at hactive
      cases hactive
      exact hne rfl

theorem World.Tidy.stopping (h : w.Tidy) {ending : Ending} (hcall : w.call = none)
    (hending : ending.isStop = true) :
    ((w.withHub w.hub.clearRegistry).calling
      (some (.switchingOff (w.hub.registry.map Prod.snd) ending))).Tidy := by
  refine ⟨?_, ?_, ?_, ?_, ?_⟩
  · intro q n hmem
    cases hmem
  · intro q n m hmem
    cases hmem
  · intro q n hq
    exact .inr (.inr ⟨_, _, rfl, List.mem_map_of_mem (h.mem_registry hcall hq)⟩)
  · intro q n hregistering
    cases hregistering
  · intro ns ending' hswitching
    cases hswitching
    refine ⟨fun _ _ _ hmem => (List.not_mem_nil hmem).elim, ?_⟩
    cases ending with
    | fetch => cases hending
    | cancel | drop => rfl

theorem World.Tidy.switchedOff (h : w.Tidy) {number : Nat} {numbers : List Nat} {ending : Ending}
    (hcall : w.call = some (.switchingOff (number :: numbers) ending)) :
    ((w.withHub (w.hub.cancelFollower number)).calling
      (some (.switchingOff numbers ending))).Tidy := by
  obtain ⟨houtside, hsettled⟩ := h.switching hcall
  have turns := w.hub.turns_cancelFollower number
  have hregistry : (w.hub.cancelFollower number).registry = w.hub.registry := turns.registry_eq
  have hoff : (w.hub.cancelFollower number).active? number = none := by
    rw [turns.active?_eq, if_pos rfl]
    cases w.hub.follower? number <;> rfl
  have hold : ∀ {n}, n ≠ number →
      (w.hub.cancelFollower number).active? n = w.hub.active? n := by
    intro n hn
    rw [turns.active?_eq, if_neg hn]
  refine ⟨?_, ?_, ?_, ?_, ?_⟩
  · intro q n hmem
    replace hmem : (q, n) ∈ w.hub.registry := hregistry ▸ hmem
    have hne : n ≠ number := by
      rintro rfl
      exact houtside n List.mem_cons_self q hmem
    exact (hold hne).trans (h.active hmem)
  · intro q n m hn hm
    exact h.unique (hregistry ▸ hn) (hregistry ▸ hm)
  · intro q n hq
    have hne : n ≠ number := by
      rintro rfl
      exact absurd (hoff.symm.trans hq) (by simp)
    rcases h.known ((hold hne).symm.trans hq) with hmem | hregistering | ⟨ns, ending', heq, hn⟩
    · exact .inl (hregistry ▸ hmem)
    · rw [hcall] at hregistering
      cases hregistering
    · rw [hcall] at heq
      cases heq
      refine .inr (.inr ⟨_, _, rfl, ?_⟩)
      exact (List.mem_cons.1 hn).resolve_left hne
  · intro q n heq
    cases heq
  · intro ns ending' heq
    cases heq
    refine ⟨fun m hm q hmem => ?_, hregistry ▸ hsettled⟩
    exact houtside m (List.mem_cons_of_mem _ hm) q (hregistry ▸ hmem)

theorem World.Tidy.concluded (h : w.Tidy) {ending : Ending}
    (hcall : w.call = some (.switchingOff [] ending)) (hub : w.hub.Passes w'.hub)
    (call : w'.call = none) : w'.Tidy := by
  have hregistry := hub.registry_eq
  refine ⟨?_, ?_, ?_, ?_, ?_⟩
  · intro q n hmem
    rw [hub.active?_eq]
    exact h.active (hregistry ▸ hmem)
  · rw [hregistry]
    exact h.unique
  · intro q n hq
    rw [hub.active?_eq] at hq
    rcases h.known hq with hmem | hregistering | ⟨ns, ending', heq, hn⟩
    · exact .inl (hregistry ▸ hmem)
    · rw [hcall] at hregistering
      cases hregistering
    · rw [hcall] at heq
      cases heq
      cases hn
  · intro q n heq
    rw [call] at heq
    cases heq
  · intro ns ending' heq
    rw [call] at heq
    cases heq

theorem Step.tidy (step : Step w l w') (h : w.Tidy) : w'.Tidy := by
  cases step.feedSide with
  | passed _ hub call => exact h.congr hub.active?_eq hub.registry_eq call
  | fetched hcall turns call _ => exact h.fetched hcall turns call
  | registered hcall => exact h.registered hcall
  | stopping hcall hending => exact h.stopping hcall hending
  | switchedOff hcall => exact h.switchedOff hcall
  | concluded hcall hub call => exact h.concluded hcall hub call
  | served hf part turns call =>
      exact h.congr (Hub.active?_of_samePart hf part turns) turns.registry_eq call

/-- When a call returns, the registry tells what it has done. -/
theorem Step.settled {ending : Ending} (step : Step w (.returned ending) w') (h : w.Tidy) :
    w'.call = none ∧ ending.Settled w'.hub.registry := by
  cases step.feedSide with
  | passed hl => cases hl
  | served _ _ _ _ hl =>
      rcases hl with hl | ⟨_, hl, -⟩
      · cases hl
      · cases hl
  | concluded hcall hub call =>
      refine ⟨call, ?_⟩
      rw [hub.registry_eq]
      exact (h.switching hcall).2

theorem Run.tidy {cache : Cache} {outlets : Outlets} {t : Trace}
    (run : Run (.start cache outlets) t w) : w.Tidy :=
  run.keeps Step.tidy (World.tidy_start cache outlets)

end Tidy
end RepoWatch
