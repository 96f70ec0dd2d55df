import RepoWatch.Proofs.World.Trace
/-!
# Runs that are computed

A run can be given by a list of deeds, each of which can be done in one way only. So it is computed
what is seen of them and what comes of them.
-/

namespace RepoWatch

/-- What somebody decides to do next. -/
inductive Deed where
  | openWatch (query : Query) (policy : Policy)
  | watch (number : Nat)
  | answer (number : Nat) (outcome : Except ErrorChain Json)
  | store (query : Query) (data : Json)
  | announce (query : Query)
  | feed (number : Nat) (event : Event)
  /-- The receiver of a pipe that no follower has takes an event. -/
  | receive (number : Nat)
  | fetch (query : Query)
  | cancel
  /-- The call of the feed that is under way goes on. -/
  | proceed
  | follower (number : Nat)

/-- What comes of a deed; nothing when it cannot be done. -/
def World.perform (w : World) : Deed → Option Moment
  | .openWatch query policy => some ⟨.silent, w.withHub (w.hub.openWatch query policy)⟩
  | .watch number => do
    let x ← w.hub.watch? number
    let (hub, effect) ← w.hub.stepWatch number
    return ⟨effect.label number x.query w.hub.cache, w.withHub hub⟩
  | .answer number outcome => do
    let x ← w.hub.watch? number
    if x.isFetching then
      return ⟨.answered number outcome, w.withHub (w.hub.answerWatch number outcome)⟩
    else none
  | .store query data =>
    if w.hub.cache.holds query data then some ⟨.put none query data false, w⟩
    else
      some ⟨.put none query data true, { w.withCache (w.hub.cache.insert query data) with
        unannounced := query :: w.unannounced }⟩
  | .announce query =>
    if query ∈ w.unannounced then
      some ⟨.announced query, { w.withCache (w.hub.cache.announce query) with
        unannounced := w.unannounced.erase query }⟩
    else none
  | .feed number event => do
    let p ← w.hub.pipes[number]?
    if p.watch.isNone && p.senderOpen && p.receiverOpen then
      return ⟨.fed number event, w.withHub (w.hub.sendEvent number event)⟩
    else none
  | .receive number => do
    let p ← w.hub.pipes[number]?
    match p.follower, p.events with
    | none, _ :: events => return ⟨.silent, w.withHub (w.hub.setPipe number { p with events })⟩
    | _, _ => none
  | .fetch query =>
    if w.call.isNone && !w.hub.isDropped then
      some ⟨.fetched query w.hub.nextNumber,
        (w.withHub (((w.hub.note (.fetching query)).openFor .outside query).attach query
          w.hub.nextNumber)).calling (some (.registering query w.hub.nextNumber))⟩
    else none
  | .cancel =>
    if w.call.isNone && !w.hub.isDropped then
      some ⟨.stopping, (w.withHub w.hub.clearRegistry).calling
        (some (.switchingOff (w.hub.registry.map Prod.snd) (.cancel w.hub.registry.length)))⟩
    else none
  | .proceed =>
    match w.call with
    | some (.registering query number) =>
      some ⟨.silent, (w.withHub (w.hub.register query number)).calling
        (some (.switchingOff (w.hub.registered? query).toList (.fetch query number)))⟩
    | some (.switchingOff (number :: numbers) ending) =>
      some ⟨.silent, (w.withHub (w.hub.cancelFollower number)).calling
        (some (.switchingOff numbers ending))⟩
    | some (.switchingOff [] ending) =>
      some ⟨.returned ending, (w.withHub (w.hub.conclude ending)).calling none⟩
    | none => none
  | .follower number => do
    let hub ← w.hub.stepFollower number
    return ⟨w.hub.followerLabel number, w.withHub hub⟩

/-- What comes of several deeds, as long as they can be done. -/
def World.trace (w : World) : List Deed → Trace
  | [] => []
  | d :: ds =>
    match w.perform d with
    | some m => m :: m.world.trace ds
    | none => []

def World.after (w : World) : List Deed → World
  | [] => w
  | d :: ds =>
    match w.perform d with
    | some m => m.world.after ds
    | none => w

def Outlets.unheard : Outlets :=
  ⟨⟨.empty 1, 1, []⟩, ⟨.empty 1, 1, []⟩, ⟨.empty 1, 1, []⟩, ⟨.empty 1, 1, []⟩⟩

/-- A world in which a watch over a cache is all there is. -/
def World.watching (cache : Cache) (query : Query) (policy : Policy) : World :=
  let w : World := .start cache .unheard
  w.withHub (w.hub.openWatch query policy)

theorem Step.of_perform {w : World} {d : Deed} {m : Moment} (h : w.perform d = some m) :
    Step w m.label m.world := by
  cases d with
  | openWatch query policy =>
      cases h
      exact .openWatch w query policy
  | watch number =>
      obtain ⟨x, hx, h⟩ := Option.bind_eq_some_iff.1 h
      obtain ⟨⟨hub, effect⟩, hstep, h⟩ := Option.bind_eq_some_iff.1 h
      cases h
      exact .watch hx hstep
  | answer number outcome =>
      obtain ⟨x, hx, h⟩ := Option.bind_eq_some_iff.1 h
      split at h
      · rename_i hfetching
        cases h
        exact .answer outcome hx hfetching
      · cases h
  | store query data =>
      simp only [World.perform] at h
      split at h <;> rename_i hholds <;> cases h
      · exact .storeEqual hholds
      · exact .store (by simpa using hholds)
  | announce query =>
      simp only [World.perform] at h
      split at h
      · rename_i hmem
        cases h
        exact .announce hmem
      · cases h
  | feed number event =>
      obtain ⟨p, hp, h⟩ := Option.bind_eq_some_iff.1 h
      split at h
      · rename_i hcond
        cases h
        simp only [Bool.and_eq_true, Option.isNone_iff_eq_none] at hcond
        exact .feed event hp hcond.1.1 hcond.1.2 hcond.2
      · cases h
  | receive number =>
      obtain ⟨p, hp, h⟩ := Option.bind_eq_some_iff.1 h
      split at h
      · rename_i hfollower hevents
        cases h
        exact .receive hp hfollower hevents
      · cases h
  | fetch query =>
      simp only [World.perform] at h
      split at h
      · rename_i hcond
        cases h
        simp only [Bool.and_eq_true, Option.isNone_iff_eq_none, Bool.not_eq_true'] at hcond
        exact .fetch .outside query hcond.1 hcond.2
      · cases h
  | cancel =>
      simp only [World.perform] at h
      split at h
      · rename_i hcond
        cases h
        simp only [Bool.and_eq_true, Option.isNone_iff_eq_none, Bool.not_eq_true'] at hcond
        exact .cancel hcond.1 hcond.2
      · cases h
  | proceed =>
      simp only [World.perform] at h
      split at h <;> rename_i hcall <;> cases h
      · exact .register hcall
      · exact .switchOff hcall
      · exact .conclude hcall
  | follower number =>
      obtain ⟨hub, hstep, h⟩ := Option.bind_eq_some_iff.1 h
      cases h
      exact .follower hstep

theorem Run.cons {w w' w'' : World} {l : Label} {t : Trace} (step : Step w l w')
    (run : Run w' t w'') : Run w (⟨l, w'⟩ :: t) w'' := by
  induction run with
  | nil => exact .snoc .nil step
  | snoc _ last ih => exact .snoc ih last

theorem Run.append {w w' w'' : World} {t t' : Trace} (run : Run w t w') (run' : Run w' t' w'') :
    Run w (t ++ t') w'' := by
  induction run' with
  | nil => simpa using run
  | snoc _ step ih =>
      rw [← List.append_assoc]
      exact .snoc ih step

/-- A run goes through each of its moments. -/
theorem Run.split {w w' : World} {t : Trace} {m : Moment} (run : Run w t w') (hm : m ∈ t) :
    ∃ t₁ t₂, t = t₁ ++ t₂ ∧ Run w t₁ m.world ∧ Run m.world t₂ w' := by
  induction run with
  | nil => cases hm
  | @snoc t u u' l run step ih =>
      rcases List.mem_append.1 hm with hbefore | hlast
      · obtain ⟨t₁, t₂, rfl, run₁, run₂⟩ := ih hbefore
        exact ⟨t₁, t₂ ++ [⟨l, u'⟩], List.append_assoc _ _ _, run₁, .snoc run₂ step⟩
      · obtain rfl := List.mem_singleton.1 hlast
        exact ⟨_, [], (List.append_nil _).symm, .snoc run step, .nil⟩

/-- What is computed is a run. -/
theorem Run.of_deeds (w : World) (ds : List Deed) : Run w (w.trace ds) (w.after ds) := by
  induction ds generalizing w with
  | nil => exact .nil
  | cons d ds ih =>
      rw [World.trace, World.after]
      cases hm : w.perform d with
      | none => exact .nil
      | some m => exact .cons (.of_perform hm) (ih m.world)

theorem Run.watching (cache : Cache) (query : Query) (policy : Policy) :
    Run (.start cache .unheard) [⟨.silent, .watching cache query policy⟩]
      (.watching cache query policy) :=
  .snoc .nil (.openWatch _ query policy)

end RepoWatch
